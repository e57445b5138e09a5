import ByteWindow.Proofs.View.Checked

/-!
# No operation of a view overflows

A view of a source whose size is a word computes with words only.  Each checked operation
comes to the same as the plain one; so no sum is too large, no difference is below zero,
and every piece of a buffer lies within the buffer.
-/

namespace ByteWindow
namespace Checked

open Word View

variable {κ σ α : Type} {view : View}

/-!
## Bounds of requests

What is subtracted was compared before, so these never fail.
-/

theorem requestLength_eq (view : View) (bufferLength position offset max : Nat) :
    requestLength view bufferLength position offset max =
      some (view.requestLength bufferLength position offset max) := by
  unfold requestLength View.requestLength
  by_cases hoffset : bufferLength < offset
  · rw [if_pos hoffset, if_pos hoffset]
  · rw [if_neg hoffset, if_neg hoffset, sub?_eq_some (Nat.le_of_not_lt hoffset)]
    simp only [Option.bind_eq_bind, Option.bind_some]
    split
    · rfl
    · by_cases hend : view.size ≤ position
      · rw [if_pos hend, if_pos hend]
      · rw [if_neg hend, if_neg hend, sub?_eq_some (Nat.le_of_not_le hend)]
        rfl

theorem availableLength_eq (view : View) (position max : Nat) :
    availableLength view position max = some (view.availableLength position max) := by
  unfold availableLength View.availableLength
  by_cases hend : view.size < position
  · rw [if_pos hend, if_pos hend]
  · rw [if_neg hend, if_neg hend, sub?_eq_some (Nat.le_of_not_lt hend)]
    rfl

/-!
## Views of views
-/

theorem sectionOf_eq (hview : view.offset + view.size < limit) (shared : Shared σ α)
    (position length : Nat) :
    sectionOf view shared position length = some (view.section? shared position length) := by
  unfold sectionOf View.section?
  split
  · rfl
  · cases hregion : checkRegion view.size position length with
    | error error => rfl
    | ok done =>
        have hinside := checkRegion_ok hregion
        have hplace : view.offset + position < limit := by omega
        rcases shared.retain with ⟨result, shared'⟩
        cases result with
        | error error => rfl
        | ok joined =>
            dsimp only
            rw [add?_eq_some hplace]
            rfl

theorem sectionFrom_eq (hview : view.offset + view.size < limit) (shared : Shared σ α)
    (position : Nat) :
    sectionFrom view shared position = some (view.sectionFrom? shared position) := by
  unfold sectionFrom View.sectionFrom?
  by_cases hinside : position ≤ view.size
  · rw [if_pos hinside, if_pos hinside, sub?_eq_some hinside]
    exact sectionOf_eq hview shared position _
  · rw [if_neg hinside, if_neg hinside]

/-!
## Plain reads
-/

variable [Sink κ] [Source σ]

theorem read_eq (hview : view.offset + view.size < limit) (mode : Mode) (s : σ)
    (host : Host) {buffer : List UInt8} (hbuffer : buffer.length < limit)
    (position offset max : Nat) :
    read mode view s host buffer position offset max =
      some (view.read mode s host buffer position offset max) := by
  unfold read View.read
  split
  · rfl
  · rw [requestLength_eq]
    simp only [Option.bind_eq_bind, Option.bind_some]
    cases hrequest : view.requestLength buffer.length position offset max with
    | error error => rfl
    | ok length? =>
        cases length? with
        | none => rfl
        | some length =>
            cases length with
            | zero => rfl
            | succ n =>
                rcases requestLength_some hrequest (Nat.succ_ne_zero n) with
                  ⟨_hmax, hpiece, hwindow⟩
                have hplace : view.offset + position < limit := by omega
                have hstop : offset + (n + 1) < limit := by omega
                simp only [add?_eq_some hplace, add?_eq_some hstop, part?_eq_some hpiece,
                  Option.bind_some]
                rfl

theorem readByteAt_eq (hview : view.offset + view.size < limit) (s : σ) (host : Host)
    (position : Nat) :
    readByteAt view s host position = some (view.readByteAt s host position) := by
  unfold readByteAt View.readByteAt
  split
  · rfl
  · split
    · rfl
    · rename_i hinside
      have hplace : view.offset + position < limit := by omega
      rw [add?_eq_some hplace]
      simp only [Option.bind_eq_bind, Option.bind_some]
      rcases Source.readByteAt s host (view.offset + position) with ⟨result, s', host'⟩
      cases result with
      | error error => rfl
      | ok byte? => cases byte? <;> rfl

/-!
## Full reads
-/

/-- One turn of the loop.  The first bytes are done, and the others fit the room that
remains; so the source is given exactly those others. -/
theorem fillFrom_ask (hview : view.offset + view.size < limit) (mode : Mode) (s : σ)
    (host : Host) (done rest : List UInt8) (idle : Nat) {start total position remaining : Nat}
    (hposition : position = start + done.length) (htotal : total = done.length + remaining)
    (hroom : Room view rest position remaining) (hremaining : ¬ remaining = 0) :
    fillFrom mode view s host (done.reverse ++ rest) start total done.length idle =
      (let reading := Source.readVia mode s host (view.offset + position) rest
      let buffer := done.reverse ++ reading.buffer
      match reading.outcome with
      | .error error => some (.failed error buffer reading.source reading.host)
      | .ok none =>
          some (.failed (view.unexpectedEof position) buffer reading.source reading.host)
      | .ok (some 0) => do
          let _ ← add? idle 1
          if idle + 1 < maxIdleReads then
            fillFrom mode view reading.source reading.host buffer start total done.length
              (idle + 1)
          else
            some (.failed (view.unexpectedEof position) buffer reading.source reading.host)
      | .ok (some (n + 1)) => do
          let _ ← add? done.length (n + 1)
          fillFrom mode view reading.source reading.host buffer start total
            (done.length + (n + 1)) 0) := by
  have hinside := hroom.inside
  have hmore : done.length < total := by omega
  have hsum : start + done.length < limit := by omega
  have hplace : view.offset + position < limit := by omega
  have hdone : (done.reverse ++ rest).take done.length = done.reverse :=
    List.take_left' List.length_reverse
  have hlength : (done.reverse ++ rest).length = done.length + remaining := by
    rw [List.length_append, List.length_reverse, hroom.length_eq]
  have hrest : part? (done.reverse ++ rest) done.length total = some rest := by
    rw [htotal, part?_eq_some (Nat.le_of_eq hlength.symm),
      List.drop_left' List.length_reverse, ← hroom.length_eq, List.take_length]
  have hturn := fillFrom.eq_def mode view s host (done.reverse ++ rest) start total
    done.length idle
  rw [if_pos hmore, add?_eq_some hsum, ← hposition] at hturn
  simp only [Option.bind_eq_bind, Option.bind_some, add?_eq_some hplace, hrest, hdone] at hturn
  exact hturn

theorem fillFrom_eq (hfits : FitsBuffers σ) (hview : view.offset + view.size < limit)
    (mode : Mode) (s : σ) (host : Host) (done rest : List UInt8)
    (position remaining idle : Nat) {start total : Nat}
    (hposition : position = start + done.length) (htotal : total = done.length + remaining)
    (hroom : Room view rest position remaining) (hidle : idle < maxIdleReads) :
    fillFrom mode view s host (done.reverse ++ rest) start total done.length idle =
      some (view.fillRemaining mode s host done rest position remaining idle) := by
  have hlimit : maxIdleReads < limit := by decide
  fun_induction View.fillRemaining mode view s host done rest position remaining idle with
  | case1 s host done rest position idle =>
      unfold fillFrom
      rw [if_neg (by omega), List.reverseAux_eq]
  | case2 s host done rest position remaining idle hremaining reading error houtcome =>
      rw [fillFrom_ask hview mode s host done rest idle hposition htotal hroom hremaining]
      dsimp only
      rw [houtcome, List.reverseAux_eq]
  | case3 s host done rest position remaining idle hremaining reading houtcome =>
      rw [fillFrom_ask hview mode s host done rest idle hposition htotal hroom hremaining]
      dsimp only
      rw [houtcome, List.reverseAux_eq]
  | case4 s host done rest position remaining idle hremaining reading houtcome hmore ih =>
      rw [fillFrom_ask hview mode s host done rest idle hposition htotal hroom hremaining]
      dsimp only
      rw [houtcome]
      dsimp only
      rw [add?_eq_some (by omega), if_pos hmore]
      exact ih hposition htotal (hroom.advance hfits houtcome).2 hmore
  | case5 s host done rest position remaining idle hremaining reading houtcome hmore =>
      rw [fillFrom_ask hview mode s host done rest idle hposition htotal hroom hremaining]
      dsimp only
      rw [houtcome]
      dsimp only
      rw [add?_eq_some (by omega), if_neg hmore, List.reverseAux_eq]
      rfl
  | case6 s host done rest position remaining idle hremaining reading n houtcome ih =>
      rcases hroom.advance hfits houtcome with ⟨hcount, hnext⟩
      have hinside := hroom.inside
      have hpiece : n + 1 ≤ reading.buffer.length := by
        rw [hfits.length, hroom.length_eq]
        exact hcount
      have hbytes : ((reading.buffer.take (n + 1)).reverseAux done).reverse ++
          reading.buffer.drop (n + 1) = done.reverse ++ reading.buffer := by
        rw [List.reverseAux_eq, List.reverse_append, List.reverse_reverse, List.append_assoc,
          List.take_append_drop]
      have hlength : ((reading.buffer.take (n + 1)).reverseAux done).length =
          done.length + (n + 1) := by
        rw [List.reverseAux_eq, List.length_append, List.length_reverse,
          List.length_take_of_le hpiece, Nat.add_comm]
      rw [fillFrom_ask hview mode s host done rest idle hposition htotal hroom hremaining]
      dsimp only
      rw [houtcome]
      dsimp only
      -- What is done now is what was done before and the new piece behind it.
      rw [add?_eq_some (by omega), ← hbytes, ← hlength]
      exact ih (by omega) (by omega) hnext (by decide)

theorem fill_eq (hfits : FitsBuffers σ) (hview : view.offset + view.size < limit)
    (mode : Mode) (s : σ) (host : Host) {position total : Nat} {buffer : List UInt8}
    (htotal : buffer.length = total) (hinside : position + total ≤ view.size) :
    fillFrom mode view s host buffer position total 0 0 =
      some (view.fill mode s host position buffer) := by
  subst htotal
  exact fillFrom_eq hfits hview mode s host [] buffer position buffer.length 0
    (Nat.add_zero _).symm (Nat.zero_add _).symm ⟨rfl, hinside⟩ (by decide)

theorem readFully_eq (hfits : FitsBuffers σ) (hview : view.offset + view.size < limit)
    (mode : Mode) (s : σ) (host : Host) {buffer : List UInt8} (hbuffer : buffer.length < limit)
    (position offset max : Nat) :
    readFully mode view s host buffer position offset max =
      some (view.readFully mode s host buffer position offset max) := by
  unfold readFully View.readFully
  split
  · rfl
  · rw [requestLength_eq]
    simp only [Option.bind_eq_bind, Option.bind_some]
    cases hrequest : view.requestLength buffer.length position offset max with
    | error error => rfl
    | ok length? =>
        cases length? with
        | none => rfl
        | some length =>
            cases length with
            | zero => rfl
            | succ n =>
                rcases requestLength_some hrequest (Nat.succ_ne_zero n) with
                  ⟨_hmax, hpiece, hwindow⟩
                have hstop : offset + (n + 1) < limit := by omega
                have hlength := length_piece hpiece
                simp only [add?_eq_some hstop, part?_eq_some hpiece, Option.bind_some, hlength]
                rw [fill_eq hfits hview mode s host hlength hwindow]
                rfl

theorem readFrom_eq (hfits : FitsBuffers σ) (hview : view.offset + view.size < limit)
    (mode : Mode) (s : σ) (host : Host) (position max : Nat) :
    readFrom mode view s host position max =
      some (view.readFrom mode s host position max) := by
  unfold readFrom View.readFrom
  split
  · rfl
  · rw [availableLength_eq]
    simp only [Option.bind_eq_bind, Option.bind_some]
    cases havailable : view.availableLength position max with
    | error error => rfl
    | ok length =>
        dsimp only
        rw [fill_eq hfits hview mode s host List.length_replicate
          (availableLength_ok havailable).2]
        rfl

/-!
## Transfers
-/

/-- A read keeps the length of its buffer, and what it counts fits the buffer, the request
and the window. -/
theorem read_fits (hfits : FitsBuffers σ) (mode : Mode) (view : View) (s : σ) (host : Host)
    (buffer : List UInt8) (position offset max : Nat) :
    (view.read mode s host buffer position offset max).buffer.length = buffer.length ∧
      forall n,
        (view.read mode s host buffer position offset max).outcome = .ok (some (n + 1)) ->
        n + 1 ≤ max ∧ offset + (n + 1) ≤ buffer.length ∧ position + (n + 1) ≤ view.size := by
  have hcourse := askCourse mode view s host buffer position offset max
  generalize view.read mode s host buffer position offset max = reading at hcourse
  cases hcourse with
  | unasked houtcome =>
      refine ⟨rfl, ?_⟩
      intro n hn
      cases houtcome (n + 1) hn
  | asked hlength hmax hbuffer hwindow =>
      rename_i length
      constructor
      · have hpiece := hfits.length mode s host (view.offset + position)
          ((buffer.drop offset).take length)
        unfold readInto
        dsimp only
        rw [List.length_append, List.length_append, hpiece, length_piece hbuffer,
          List.length_take, List.length_drop]
        omega
      · intro n hn
        have hcount := hfits.count hn
        rw [length_piece hbuffer] at hcount
        omega

theorem transferFrom_eq (hfits : FitsBuffers σ) (hview : view.offset + view.size < limit)
    (mode : Mode) (patience : Nat) (sink : κ) (s : σ) (host : Host) (buffer : List UInt8)
    (position idle : Nat) (hbuffer : buffer.length < limit) (hidle : idle < maxIdleReads) :
    transferFrom mode patience view sink s host buffer position idle =
      some (view.transferRemaining mode patience sink s host buffer position idle) := by
  have hlimit : maxIdleReads < limit := by decide
  fun_induction View.transferRemaining mode patience view sink s host buffer position idle with
  | case1 sink s host buffer position idle hmore reading stop error houtcome =>
      rw [transferFrom, if_pos hmore, read_eq hview mode s host hbuffer]
      simp only [Option.bind_eq_bind, Option.bind_some]
      rw [houtcome]
  | case2 sink s host buffer position idle hmore reading stop houtcome =>
      rw [transferFrom, if_pos hmore, read_eq hview mode s host hbuffer]
      simp only [Option.bind_eq_bind, Option.bind_some]
      rw [houtcome]
  | case3 sink s host buffer position idle hmore reading houtcome hagain ih =>
      have hkept := (read_fits hfits mode view s host buffer position 0 buffer.length).1
      rw [transferFrom, if_pos hmore, read_eq hview mode s host hbuffer]
      simp only [Option.bind_eq_bind, Option.bind_some]
      rw [houtcome]
      dsimp only
      rw [add?_eq_some (by omega), if_pos hagain]
      exact ih (hkept ▸ hbuffer) hagain
  | case4 sink s host buffer position idle hmore reading stop houtcome hagain =>
      rw [transferFrom, if_pos hmore, read_eq hview mode s host hbuffer]
      simp only [Option.bind_eq_bind, Option.bind_some]
      rw [houtcome]
      dsimp only
      rw [add?_eq_some (by omega), if_neg hagain]
      rfl
  | case5 sink s host buffer position idle hmore reading stop n houtcome cause sink' hwrite =>
      rcases read_fits hfits mode view s host buffer position 0 buffer.length with
        ⟨hkept, hcounts⟩
      have hcount := (hcounts n houtcome).1
      rw [← hkept] at hcount
      rw [transferFrom, if_pos hmore, read_eq hview mode s host hbuffer]
      simp only [Option.bind_eq_bind, Option.bind_some]
      rw [houtcome]
      dsimp only
      rw [part?_front hcount]
      simp only [Option.bind_some]
      rw [hwrite]
  | case6 sink s host buffer position idle hmore reading n houtcome sink' hwrite ih =>
      rcases read_fits hfits mode view s host buffer position 0 buffer.length with
        ⟨hkept, hcounts⟩
      rcases hcounts n houtcome with ⟨hcount, _hpiece, hwindow⟩
      rw [← hkept] at hcount
      rw [transferFrom, if_pos hmore, read_eq hview mode s host hbuffer]
      simp only [Option.bind_eq_bind, Option.bind_some]
      rw [houtcome]
      dsimp only
      rw [part?_front hcount]
      simp only [Option.bind_some]
      rw [hwrite]
      dsimp only
      rw [add?_eq_some (by omega)]
      exact ih (hkept ▸ hbuffer) (by decide)
  | case7 sink s host buffer position idle hmore sink' hflush =>
      unfold transferFrom
      rw [if_neg hmore, hflush]
  | case8 sink s host buffer position idle hmore cause sink' hflush =>
      unfold transferFrom
      rw [if_neg hmore, hflush]

theorem transfer_eq (hfits : FitsBuffers σ) (hview : view.offset + view.size < limit)
    (mode : Mode) (sink : κ) (s : σ) (host : Host) (bufferSize : Nat) :
    transfer mode view sink s host bufferSize =
      some (view.transfer mode sink s host bufferSize) := by
  unfold transfer View.transfer
  split
  · rfl
  · apply transferFrom_eq hfits hview
    · rw [List.length_replicate]
      unfold transferBufferLength
      omega
    · decide

/-!
## Readers
-/

theorem readerSkip_eq (hview : view.offset + view.size < limit) {reader : Reader}
    (hreader : reader.position < limit) (n : Nat) :
    readerSkip reader view n = some (reader.skip view n) := by
  have hsum : reader.position + min n (reader.available view) < limit := by
    unfold Reader.available
    omega
  unfold readerSkip Reader.skip
  dsimp only
  rw [add?_eq_some hsum]
  rfl

theorem readByteAt_some {s s' : σ} {host host' : Host} {position : Nat} {byte : UInt8}
    (h : view.readByteAt s host position = (.ok (some byte), s', host')) :
    position < view.size := by
  unfold View.readByteAt at h
  split at h
  · cases h
  · split at h
    · cases h
    · rename_i hinside
      exact Nat.lt_of_not_le hinside

theorem readerReadByte_eq (hview : view.offset + view.size < limit) (reader : Reader)
    (s : σ) (host : Host) :
    readerReadByte reader view s host = some (reader.readByte view s host) := by
  unfold readerReadByte Reader.readByte
  rw [readByteAt_eq hview]
  simp only [Option.bind_eq_bind, Option.bind_some]
  cases hread : view.readByteAt s host reader.position with
  | mk result rest =>
      rcases rest with ⟨s', host'⟩
      cases result with
      | error error => rfl
      | ok byte? =>
          cases byte? with
          | none => rfl
          | some byte =>
              have hinside := readByteAt_some hread
              dsimp only
              rw [add?_eq_some (by omega)]
              rfl

theorem readerRead_eq (hfits : FitsBuffers σ) (hview : view.offset + view.size < limit)
    {reader : Reader} (hreader : reader.position < limit) (s : σ) (host : Host)
    {buffer : List UInt8} (hbuffer : buffer.length < limit) :
    readerRead reader view s host buffer = some (reader.read view s host buffer) := by
  unfold readerRead Reader.read
  dsimp only
  split
  · rfl
  · have hcounts := (read_fits hfits .blocking view s host buffer reader.position 0
      (min buffer.length (reader.available view))).2
    rw [read_eq hview .blocking s host hbuffer]
    simp only [Option.bind_eq_bind, Option.bind_some]
    generalize view.read .blocking s host buffer reader.position 0
      (min buffer.length (reader.available view)) = reading at hcounts
    rcases reading with ⟨outcome, buffer', s', host'⟩
    cases outcome with
    | error error => rfl
    | ok count? =>
        cases count? with
        | none => rfl
        | some n =>
            have hsum : reader.position + n < limit := by
              cases n with
              | zero => exact hreader
              | succ n =>
                  have hwindow := (hcounts n rfl).2.2
                  omega
            dsimp only
            rw [add?_eq_some hsum]
            rfl

end Checked
end ByteWindow
