import ByteWindow.Source.Pool

/-!
# The course of a pooled read

Parked streams stand in ascending order.  Taking the floor and putting a stream in both cut
the list at one place, and everything that is known about a pool later on is read off from
these two cuts.

A read can take five courses: no stream can be opened, the stream fails, the stream is at
its end, the declared end is reached, or the stream is parked again.  `ReadCourse` lists
them with all that is left behind in each.
-/

namespace ByteWindow
namespace Pool

variable {φ τ : Type}

/-!
## The order of the parked streams
-/

/-- Parked streams in ascending order of their positions. -/
def Ordered (parked : List (Nat × τ)) : Prop :=
  parked.Pairwise fun earlier later => earlier.1 < later.1

/-- If nothing is taken up, all parked streams stand past the position. -/
theorem takeFloor_none {position : Nat} {parked rest : List (Nat × τ)}
    (h : takeFloor position parked = (none, rest)) (hordered : Ordered parked) :
    rest = parked ∧ forall entry, entry ∈ parked -> position < entry.1 := by
  cases parked with
  | nil =>
      cases h
      simp
  | cons entry parked =>
      rcases List.pairwise_cons.mp hordered with ⟨hfirst, _hlater⟩
      by_cases hreached : entry.1 ≤ position
      · simp only [takeFloor, hreached, if_true] at h
        split at h <;> cases h
      · simp only [takeFloor, hreached, if_false] at h
        cases h
        refine ⟨rfl, fun later hmem => ?_⟩
        rcases List.mem_cons.mp hmem with rfl | hmem
        · omega
        · have hlater := hfirst later hmem
          omega

theorem takeFloor_eq_none {position : Nat} {parked : List (Nat × τ)}
    (hbeyond : forall entry, entry ∈ parked -> position < entry.1) :
    takeFloor position parked = (none, parked) := by
  cases parked with
  | nil => rfl
  | cons entry rest =>
      have hnot := Nat.not_le_of_lt (hbeyond entry List.mem_cons_self)
      simp only [takeFloor, hnot, if_false]

/-- The stream that is taken up stands at or before the position, and those after it do
not. -/
theorem takeFloor_some {position : Nat} {parked rest : List (Nat × τ)} {found : Nat × τ}
    (h : takeFloor position parked = (some found, rest)) (hordered : Ordered parked) :
    exists before after, parked = before ++ found :: after ∧ rest = before ++ after ∧
      found.1 ≤ position ∧ forall entry, entry ∈ after -> position < entry.1 := by
  induction parked generalizing rest with
  | nil => cases h
  | cons entry parked ih =>
      rcases List.pairwise_cons.mp hordered with ⟨_hfirst, hlater⟩
      by_cases hreached : entry.1 ≤ position
      · cases htake : takeFloor position parked with
        | mk later? others =>
            simp only [takeFloor, hreached, htake, if_true] at h
            cases later? with
            | some later =>
                cases h
                rcases ih htake hlater with ⟨before, after, hparked, hothers, hfound⟩
                refine ⟨entry :: before, after, ?_, ?_, hfound⟩
                · rw [hparked, List.cons_append]
                · rw [hothers, List.cons_append]
            | none =>
                cases h
                rcases takeFloor_none htake hlater with ⟨hrest, hbeyond⟩
                exact ⟨[], parked, rfl, hrest, hreached, hbeyond⟩
      · simp only [takeFloor, hreached, if_false] at h
        cases h

/-- A stream is put in between those before its position and those past it. -/
theorem putIn_eq {position : Nat} {stream : τ} {parked result : List (Nat × τ)}
    {replaced : Option τ} (h : putIn position stream parked = (replaced, result))
    (hordered : Ordered parked) :
    exists before after,
      parked = before ++ replaced.toList.map (fun other => (position, other)) ++ after ∧
        result = before ++ (position, stream) :: after ∧
        (forall entry, entry ∈ before -> entry.1 < position) ∧
        forall entry, entry ∈ after -> position < entry.1 := by
  induction parked generalizing result with
  | nil =>
      cases h
      exact ⟨[], [], rfl, rfl, by simp, by simp⟩
  | cons entry parked ih =>
      rcases List.pairwise_cons.mp hordered with ⟨hfirst, hlater⟩
      rcases Nat.lt_trichotomy entry.1 position with hlt | heq | hgt
      · cases hput : putIn position stream parked with
        | mk replaced' others =>
            simp only [putIn, hlt, hput, if_true] at h
            cases h
            rcases ih hput hlater with
              ⟨before, after, hparked, hothers, hbefore, hafter⟩
            refine ⟨entry :: before, after, ?_, ?_, ?_, hafter⟩
            · rw [hparked, List.cons_append, List.cons_append]
            · rw [hothers, List.cons_append]
            · intro earlier hmem
              rcases List.mem_cons.mp hmem with rfl | hmem
              · exact hlt
              · exact hbefore earlier hmem
      · simp only [putIn, heq, Nat.lt_irrefl, if_true, if_false] at h
        cases h
        refine ⟨[], parked, ?_, rfl, by simp, ?_⟩
        · rw [← heq]
          rfl
        · intro later hmem
          rw [← heq]
          exact hfirst later hmem
      · have hnot : ¬ entry.1 < position := by omega
        have hne : entry.1 ≠ position := by omega
        simp only [putIn, hnot, hne, if_false] at h
        cases h
        refine ⟨[], entry :: parked, rfl, rfl, by simp, ?_⟩
        intro later hmem
        rcases List.mem_cons.mp hmem with rfl | hmem
        · exact hgt
        · have hnext := hfirst later hmem
          omega

/-- Without one of its streams a pool stays in order. -/
theorem ordered_without {before after : List (Nat × τ)} {found : Nat × τ}
    (hordered : Ordered (before ++ found :: after)) : Ordered (before ++ after) :=
  hordered.sublist ((List.sublist_cons_self found after).append_left before)

/-- A stream that is put in stands among the others, except the one at its own position. -/
theorem mem_putIn (position : Nat) (stream : τ) {parked : List (Nat × τ)}
    (hordered : Ordered parked) :
    (position, stream) ∈ (putIn position stream parked).2 ∧
      forall entry, entry ∈ parked -> entry.1 ≠ position ->
        entry ∈ (putIn position stream parked).2 := by
  rcases putIn_eq (show putIn position stream parked = (_, _) from rfl) hordered with
    ⟨before, after, hparked, hresult, _hbefore, _hafter⟩
  rw [hresult]
  constructor
  · exact List.mem_append_right _ List.mem_cons_self
  · intro entry hentry hne
    rw [hparked] at hentry
    rcases List.mem_append.mp hentry with hfront | hafter
    · rcases List.mem_append.mp hfront with hbefore | hreplaced
      · exact List.mem_append_left _ hbefore
      · rcases List.mem_map.mp hreplaced with ⟨other, _hother, rfl⟩
        exact absurd rfl hne
    · exact List.mem_append_right _ (List.mem_cons_of_mem _ hafter)

/-- A stream that is put in keeps the order. -/
theorem ordered_putIn (position : Nat) (stream : τ) {parked : List (Nat × τ)}
    (hordered : Ordered parked) : Ordered (putIn position stream parked).2 := by
  rcases putIn_eq (show putIn position stream parked = (_, _) from rfl) hordered with
    ⟨before, after, hparked, hresult, hbefore, hafter⟩
  rw [hresult]
  have hsides : Ordered (before ++ after) := by
    rw [hparked, List.append_assoc] at hordered
    exact hordered.sublist ((List.sublist_append_right _ after).append_left before)
  rcases List.pairwise_append.mp hsides with ⟨hleft, hright, hcross⟩
  refine List.pairwise_append.mpr ⟨hleft, List.pairwise_cons.mpr ⟨hafter, hright⟩, ?_⟩
  intro earlier hearlier later hlater
  rcases List.mem_cons.mp hlater with rfl | hlater
  · exact hbefore earlier hearlier
  · exact hcross earlier hearlier later hlater

/-!
## Taking up a stream
-/

variable [StreamFactory φ τ]

/-- How a stream is taken up: a parked one, a new one, or none. -/
inductive CheckOutCourse (pool : Pool φ τ) (host : Host) (position : Nat) :
    Except Error (Nat × τ) × Pool φ τ × Host -> Prop where
  | reused {reached : Nat} {stream : τ} {rest : List (Nat × τ)} :
      takeFloor position pool.parked = (some (reached, stream), rest) ->
      CheckOutCourse pool host position
        (.ok (reached, stream), { pool with parked := rest },
          host.note (.reusingStream reached position))
  | opened {rest : List (Nat × τ)} {stream : τ} {factory : φ} {host' : Host} :
      takeFloor position pool.parked = (none, rest) ->
      StreamFactory.openStream pool.factory (host.note (.openingStream position)) =
        (.ok stream, factory, host') ->
      CheckOutCourse pool host position (.ok (0, stream), { pool with factory }, host')
  | refused {rest : List (Nat × τ)} {cause : IoError} {factory : φ} {host' : Host} :
      takeFloor position pool.parked = (none, rest) ->
      StreamFactory.openStream pool.factory (host.note (.openingStream position)) =
        (.error cause, factory, host') ->
      CheckOutCourse pool host position
        (.error (.io cause), { pool with factory }, host')

theorem checkOutCourse (pool : Pool φ τ) (host : Host) (position : Nat) :
    CheckOutCourse pool host position (pool.checkOut host position) := by
  unfold checkOut
  split
  · rename_i reached stream rest htake
    exact .reused htake
  · rename_i rest htake
    split
    · rename_i stream factory host' hopen
      exact .opened htake hopen
    · rename_i cause factory host' hopen
      exact .refused htake hopen

/-- The declared size and the capacity of a pool never change. -/
theorem CheckOutCourse.size_eq {pool pool' : Pool φ τ} {host host' : Host} {position : Nat}
    {result : Except Error (Nat × τ)}
    (h : CheckOutCourse pool host position (result, pool', host')) :
    pool'.size = pool.size ∧ pool'.capacity = pool.capacity := by
  cases h <;> exact ⟨rfl, rfl⟩

/-- The other streams stay parked while one is taken up. -/
theorem CheckOutCourse.parked_eq {pool pool' : Pool φ τ} {host host' : Host}
    {position start : Nat} {stream : τ} (hordered : Ordered pool.parked)
    (h : CheckOutCourse pool host position (.ok (start, stream), pool', host')) :
    pool'.parked = pool.parked.filter fun entry => entry.1 ≠ start := by
  cases h with
  | reused htake =>
      rcases takeFloor_some htake hordered with
        ⟨before, after, hparked, hrest, _hreached, _hbeyond⟩
      rw [hparked] at hordered
      rcases List.pairwise_append.mp hordered with ⟨_hleft, hright, hcross⟩
      have hbefore : before.filter (fun entry => entry.1 ≠ start) = before := by
        apply List.filter_eq_self.mpr
        intro entry hentry
        exact decide_eq_true (Nat.ne_of_lt (hcross entry hentry _ List.mem_cons_self))
      have hafter : after.filter (fun entry => entry.1 ≠ start) = after := by
        apply List.filter_eq_self.mpr
        intro entry hentry
        exact decide_eq_true (Nat.ne_of_gt ((List.pairwise_cons.mp hright).1 entry hentry))
      rw [hparked, List.filter_append, List.filter_cons_of_neg (by simp), hbefore, hafter]
      exact hrest
  | opened htake hopen =>
      rcases takeFloor_none htake hordered with ⟨_hrest, hbeyond⟩
      symm
      apply List.filter_eq_self.mpr
      intro entry hentry
      have hpast := hbeyond entry hentry
      exact decide_eq_true (by omega)

/-!
## Closing and noting

Closing a stream touches the host once, and apart from that only diagnostics are noted.
-/

theorem noteEvicted_of {P : Host -> Prop} (entries : List (Nat × τ)) {host : Host}
    (hhost : P host) (hnote : forall host diagnostic, P host -> P (host.note diagnostic)) :
    P (entries.foldl (fun host entry => host.note (.evictingStream entry.1)) host) := by
  induction entries generalizing host with
  | nil => exact hhost
  | cons entry rest ih => exact ih (hnote host _ hhost)

variable [Stream τ]

omit [StreamFactory φ τ] in
theorem closeQuietly_of {P : Host -> Prop} {stream : τ} {host : Host}
    (hclose : P (Stream.close stream host).2)
    (hnote : forall host diagnostic, P host -> P (host.note diagnostic)) :
    P (closeQuietly stream host) := by
  unfold closeQuietly
  split
  · rename_i host' hclosed
    rw [hclosed] at hclose
    exact hclose
  · rename_i cause host' hclosed
    rw [hclosed] at hclose
    exact hnote host' _ hclose

omit [StreamFactory φ τ] in
theorem closeFailed_host (error : Error) (stream : τ) (host : Host) :
    (closeFailed error stream host).2 = (Stream.close stream host).2 := by
  unfold closeFailed
  split
  · rename_i host' hclosed
    rw [hclosed]
  · rename_i cause host' hclosed
    rw [hclosed]

/-!
## Reading
-/

/-- The five courses of a read at a position into a buffer. -/
inductive ReadCourse (pool : Pool φ τ) (host : Host) (position : Nat)
    (buffer : List UInt8) : Reading (Option Nat) (Pool φ τ) -> Prop where
  /-- No stream can be opened. -/
  | refused {error : Error} {pool' : Pool φ τ} {host' : Host} :
      CheckOutCourse pool host position (.error error, pool', host') ->
      ReadCourse pool host position buffer (.failed error buffer pool' host')
  /-- The stream fails while it skips or reads, and is closed. -/
  | failed {start : Nat} {stream stream' : τ} {pool' : Pool φ τ} {host₁ host₂ : Host}
      {error : Error} :
      CheckOutCourse pool host position (.ok (start, stream), pool', host₁) ->
      readCheckedOut start position buffer.length stream host₁ =
        (.error error, stream', host₂) ->
      ReadCourse pool host position buffer
        (.failed (closeFailed error stream' host₂).1 buffer pool'
          (closeFailed error stream' host₂).2)
  /-- The stream delivers nothing, and is closed. -/
  | ended {start : Nat} {stream stream' : τ} {pool' : Pool φ τ} {host₁ host₂ : Host} :
      CheckOutCourse pool host position (.ok (start, stream), pool', host₁) ->
      readCheckedOut start position buffer.length stream host₁ =
        (.ok [], stream', host₂) ->
      buffer ≠ [] ->
      ReadCourse pool host position buffer
        (.nothing buffer pool' (closeQuietly stream' host₂))
  /-- The declared end is reached, and the stream is closed. -/
  | finished {start : Nat} {stream stream' : τ} {pool' : Pool φ τ} {host₁ host₂ : Host}
      {piece : List UInt8} :
      CheckOutCourse pool host position (.ok (start, stream), pool', host₁) ->
      readCheckedOut start position buffer.length stream host₁ =
        (.ok piece, stream', host₂) ->
      ¬ (piece = [] ∧ buffer ≠ []) ->
      pool.size ≤ position + piece.length ->
      ReadCourse pool host position buffer
        (.delivered piece buffer pool' (closeQuietly stream' host₂))
  /-- The stream is parked where it stands. -/
  | parked {start : Nat} {stream stream' : τ} {pool' : Pool φ τ} {host₁ host₂ : Host}
      {piece : List UInt8} :
      CheckOutCourse pool host position (.ok (start, stream), pool', host₁) ->
      readCheckedOut start position buffer.length stream host₁ =
        (.ok piece, stream', host₂) ->
      ¬ (piece = [] ∧ buffer ≠ []) ->
      position + piece.length < pool.size ->
      ReadCourse pool host position buffer
        (.delivered piece buffer
          (pool'.park host₂ (position + piece.length) stream').1
          (pool'.park host₂ (position + piece.length) stream').2)

theorem readCourse (pool : Pool φ τ) (host : Host) (position : Nat)
    (buffer : List UInt8) :
    ReadCourse pool host position buffer (pool.readAt host position buffer) := by
  have hcourse := checkOutCourse pool host position
  unfold readAt
  cases hcheck : pool.checkOut host position with
  | mk result rest =>
      rcases rest with ⟨pool', host₁⟩
      rw [hcheck] at hcourse
      cases result with
      | error error => exact .refused hcourse
      | ok taken =>
          rcases taken with ⟨start, stream⟩
          have hsize := hcourse.size_eq.1
          cases hread : readCheckedOut start position buffer.length stream host₁ with
          | mk outcome rest =>
              rcases rest with ⟨stream', host₂⟩
              cases outcome with
              | error error =>
                  simp only [hread]
                  exact .failed hcourse hread
              | ok piece =>
                  simp only [hread]
                  by_cases hended : piece = [] ∧ buffer ≠ []
                  · rw [if_pos hended]
                    rw [hended.1] at hread
                    exact .ended hcourse hread hended.2
                  · rw [if_neg hended]
                    by_cases hfinished : pool'.size ≤ position + piece.length
                    · rw [if_pos hfinished]
                      exact .finished hcourse hread hended (hsize ▸ hfinished)
                    · rw [if_neg hfinished]
                      exact .parked hcourse hread hended (by omega)

/-- A read changes neither the declared size nor the capacity. -/
theorem ReadCourse.size_eq {pool : Pool φ τ} {host : Host} {position : Nat}
    {buffer : List UInt8} {reading : Reading (Option Nat) (Pool φ τ)}
    (h : ReadCourse pool host position buffer reading) :
    reading.source.size = pool.size ∧ reading.source.capacity = pool.capacity := by
  cases h with
  | refused hcheck => exact hcheck.size_eq
  | failed hcheck => exact hcheck.size_eq
  | ended hcheck => exact hcheck.size_eq
  | finished hcheck => exact hcheck.size_eq
  | parked hcheck => exact hcheck.size_eq

end Pool
end ByteWindow
