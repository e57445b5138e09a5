import ByteWindow.Proofs.View.Operation

/-!
# What every read keeps

A view can do nothing to its source but read it.  So what every read of a source keeps, and
every read of a single byte, is kept by whatever a view is asked.
-/

namespace ByteWindow

/-- A property of a source on its host that no read changes. -/
structure KeptByReads {σ : Type} [Source σ] (kept : σ -> Host -> Prop) : Prop where
  read (mode : Mode) {s : σ} {host : Host} (position : Nat) (buffer : List UInt8) :
    kept s host ->
    kept (Source.readVia mode s host position buffer).source
      (Source.readVia mode s host position buffer).host
  readByte {s : σ} {host : Host} (position : Nat) :
    kept s host ->
    kept (Source.readByteAt s host position).2.1 (Source.readByteAt s host position).2.2

namespace KeptByReads

variable {κ σ : Type} [Sink κ] [Source σ] {kept : σ -> Host -> Prop} {s : σ} {host : Host}

omit [Sink κ] in
theorem viewRead (reads : KeptByReads kept) (mode : Mode) (view : View)
    (buffer : List UInt8) (position offset max : Nat) (hkept : kept s host) :
    kept (view.read mode s host buffer position offset max).source
      (view.read mode s host buffer position offset max).host := by
  have hcourse := View.askCourse mode view s host buffer position offset max
  generalize view.read mode s host buffer position offset max = reading at hcourse
  cases hcourse with
  | unasked => exact hkept
  | asked => exact reads.read mode _ _ hkept

omit [Sink κ] in
theorem fillRemaining (reads : KeptByReads kept) (mode : Mode) (view : View)
    (done rest : List UInt8) (position remaining idle : Nat) (hkept : kept s host) :
    kept (view.fillRemaining mode s host done rest position remaining idle).source
      (view.fillRemaining mode s host done rest position remaining idle).host := by
  fun_induction View.fillRemaining mode view s host done rest position remaining idle with
  | case1 => exact hkept
  | case2 => exact reads.read mode _ _ hkept
  | case3 => exact reads.read mode _ _ hkept
  | case4 s host done rest position remaining idle _ reading _ _ ih =>
      exact ih (reads.read mode _ _ hkept)
  | case5 => exact reads.read mode _ _ hkept
  | case6 s host done rest position remaining idle _ reading n _ ih =>
      exact ih (reads.read mode _ _ hkept)

omit [Sink κ] in
theorem readFully (reads : KeptByReads kept) (mode : Mode) (view : View)
    (buffer : List UInt8) (position offset max : Nat) (hkept : kept s host) :
    kept (view.readFully mode s host buffer position offset max).source
      (view.readFully mode s host buffer position offset max).host := by
  unfold View.readFully
  split
  · exact hkept
  · split
    · exact hkept
    · exact hkept
    · exact hkept
    · exact reads.fillRemaining mode view _ _ _ _ _ hkept

omit [Sink κ] in
theorem readFrom (reads : KeptByReads kept) (mode : Mode) (view : View) (position max : Nat)
    (hkept : kept s host) :
    kept (view.readFrom mode s host position max).2.1
      (view.readFrom mode s host position max).2.2 := by
  unfold View.readFrom
  split
  · exact hkept
  · split
    · exact hkept
    · exact reads.fillRemaining mode view _ _ _ _ _ hkept

omit [Sink κ] in
theorem viewReadByte (reads : KeptByReads kept) (view : View) (position : Nat)
    (hkept : kept s host) :
    kept (view.readByteAt s host position).2.1 (view.readByteAt s host position).2.2 := by
  unfold View.readByteAt
  split
  · exact hkept
  · split
    · exact hkept
    · have hread := reads.readByte (view.offset + position) hkept
      split
      · rename_i s' host' h
        rw [h] at hread
        exact hread
      · rename_i result s' host' _ h
        rw [h] at hread
        exact hread

theorem transferRemaining (reads : KeptByReads kept) (mode : Mode) (patience : Nat)
    (view : View) (sink : κ) (buffer : List UInt8) (position idle : Nat) (hkept : kept s host) :
    kept (view.transferRemaining mode patience sink s host buffer position idle).source
      (view.transferRemaining mode patience sink s host buffer position idle).host := by
  fun_induction View.transferRemaining mode patience view sink s host buffer position idle with
  | case1 => exact reads.viewRead mode view _ _ _ _ hkept
  | case2 => exact reads.viewRead mode view _ _ _ _ hkept
  | case3 sink s host buffer position idle _ reading _ _ ih =>
      exact ih (reads.viewRead mode view _ _ _ _ hkept)
  | case4 => exact reads.viewRead mode view _ _ _ _ hkept
  | case5 => exact reads.viewRead mode view _ _ _ _ hkept
  | case6 sink s host buffer position idle _ reading n _ sink' _ ih =>
      exact ih (reads.viewRead mode view _ _ _ _ hkept)
  | case7 => exact hkept
  | case8 => exact hkept

theorem transfer (reads : KeptByReads kept) (mode : Mode) (view : View) (sink : κ)
    (bufferSize : Nat) (hkept : kept s host) :
    kept (view.transfer mode sink s host bufferSize).source
      (view.transfer mode sink s host bufferSize).host := by
  unfold View.transfer
  split
  · exact hkept
  · exact reads.transferRemaining mode _ view sink _ _ _ hkept

omit [Sink κ] in
theorem readerRead (reads : KeptByReads kept) (reader : Reader) (view : View)
    (buffer : List UInt8) (hkept : kept s host) :
    kept (reader.read view s host buffer).1.source (reader.read view s host buffer).1.host := by
  unfold Reader.read
  dsimp only
  split
  · exact hkept
  · split <;> exact reads.viewRead .blocking view _ _ _ _ hkept

omit [Sink κ] in
theorem readerReadByte (reads : KeptByReads kept) (reader : Reader) (view : View)
    (hkept : kept s host) :
    kept (reader.readByte view s host).source (reader.readByte view s host).host := by
  have hread := reads.viewReadByte view reader.position hkept
  unfold Reader.readByte
  split
  · rename_i error source host' h
    rw [h] at hread
    exact hread
  · rename_i source host' h
    rw [h] at hread
    exact hread
  · rename_i byte source host' h
    rw [h] at hread
    exact hread

/-- What reads keep is kept by whatever a view is asked. -/
theorem perform (reads : KeptByReads kept) (operation : Operation κ) (view : View)
    (hkept : kept s host) :
    kept (operation.perform view s host).2.1 (operation.perform view s host).2.2 := by
  cases operation with
  | read mode buffer position offset max => exact reads.viewRead mode view _ _ _ _ hkept
  | readAt position buffer => exact reads.viewRead .blocking view _ _ _ _ hkept
  | readFully mode buffer position offset max =>
      exact reads.readFully mode view _ _ _ _ hkept
  | readFrom mode position max => exact reads.readFrom mode view _ _ hkept
  | readAll mode => exact reads.readFrom mode view _ _ hkept
  | readByteAt position => exact reads.viewReadByte view _ hkept
  | transfer mode sink bufferSize => exact reads.transfer mode view sink _ hkept
  | readerRead reader buffer => exact reads.readerRead reader view _ hkept
  | readerReadByte reader => exact reads.readerReadByte reader view hkept
  | readerSkip reader n => exact hkept

end KeptByReads
end ByteWindow
