import ByteWindow.Proofs.Stream.Reliable
import ByteWindow.Source.SeekThenRead

/-!
# Sources over a reliable cursor

A cursor that stands where it was moved to, and right behind what it delivered, passes every
check at the first attempt.  So a source over a reliable cursor is faithful to the data,
wherever the cursor was left by earlier reads.
-/

namespace ByteWindow
namespace SeekThenRead

variable {ρ : Type} [ByteCursor ρ] {data : Array UInt8} {prompt : Nat -> Prop}
variable {calm : Host -> Prop} {standsAt : ρ -> Nat -> Prop}

/-- A source over a cursor that stands anywhere. -/
structure Reads (data : Array UInt8) (calm : Host -> Prop) (standsAt : ρ -> Nat -> Prop)
    (s : SeekThenRead ρ) (host : Host) : Prop where
  cursor : exists cursor position, s.cursor = some cursor ∧ standsAt cursor position
  calm : calm host
  size_eq : s.size = data.size

/-- The first attempt to move gets the cursor to the position. -/
theorem settle_eq (reliable : ReliableCursors data prompt calm standsAt) {cursor : ρ}
    {host : Host} {position target : Nat} (hcalm : calm host)
    (hstands : standsAt cursor position) (htarget : target ≤ data.size) :
    exists cursor' host', settle target maxAttempts cursor host = (.ok (), cursor', host') ∧
      standsAt cursor' target ∧ calm host' := by
  have hsought := reliable.seeks hcalm hstands htarget
  unfold maxAttempts settle
  generalize ByteCursor.seek cursor host (.start target) = result at hsought
  cases hsought with
  | reported hstands' hcalm' =>
      rename_i cursor' host'
      have htold := reliable.tells hcalm' hstands'
      dsimp only
      rw [if_pos rfl]
      generalize ByteCursor.tell cursor' host' = result at htold
      cases htold with
      | reported hstands'' hcalm'' =>
          dsimp only
          rw [if_pos rfl]
          exact ⟨_, _, rfl, hstands'', hcalm''⟩

theorem readSettled_delivers (reliable : ReliableCursors data prompt calm standsAt)
    {cursor : ρ} {host : Host} {position target : Nat} {buffer : List UInt8}
    (hcalm : calm host) (hstands : standsAt cursor position) (hbuffer : buffer ≠ [])
    (hinside : target + buffer.length ≤ data.size) :
    exists n, Delivers data prompt
      (fun cursor host => (exists position, standsAt cursor position) ∧ calm host) target
      buffer (readSettled target maxAttempts cursor host buffer) n := by
  have hpos := List.length_pos_iff.mpr hbuffer
  have htarget : target ≤ data.size := Nat.le_trans (Nat.le_add_right _ _) hinside
  rcases settle_eq reliable hcalm hstands htarget with
    ⟨cursor₁, host₁, hsettled, hstands₁, hcalm₁⟩
  have hpulled := reliable.pulls hcalm₁ hstands₁ hpos hinside
  unfold maxAttempts at hsettled ⊢
  unfold readSettled
  unfold maxAttempts
  rw [hsettled]
  dsimp only
  generalize ByteReader.read cursor₁ host₁ buffer.length = result at hpulled
  cases hpulled with
  | pulled hn hle hall hstands₂ hcalm₂ =>
      rename_i n cursor₂ host₂
      have htold := reliable.tells hcalm₂ hstands₂
      have hpiece : target + n ≤ data.size :=
        Nat.le_trans (Nat.add_le_add_left hle _) hinside
      dsimp only
      generalize ByteCursor.tell cursor₂ host₂ = result at htold
      cases htold with
      | reported hstands₃ hcalm₃ =>
          have hlength := slice_inside hpiece
          dsimp only
          rw [hlength, if_pos rfl, deliveredOrEnd_inside hn hpiece]
          refine ⟨_, .piece ⟨⟨_, hstands₃⟩, hcalm₃⟩ ?_ ?_ ?_ ?_⟩
          · rw [hlength]
          · rw [hlength]
            exact hn
          · rw [hlength]
            exact hle
          · rw [hlength]
            exact hall

theorem readByteSettled_eq (reliable : ReliableCursors data prompt calm standsAt)
    {cursor : ρ} {host : Host} {position target : Nat} (hcalm : calm host)
    (hstands : standsAt cursor position) (htarget : target < data.size) :
    exists cursor' host', readByteSettled target cursor host =
        (.ok data[target]?, cursor', host') ∧
      (exists position, standsAt cursor' position) ∧ calm host' := by
  rcases settle_eq reliable hcalm hstands (Nat.le_of_lt htarget) with
    ⟨cursor₁, host₁, hsettled, hstands₁, hcalm₁⟩
  have hpulled := reliable.pulls hcalm₁ hstands₁ Nat.one_pos htarget
  unfold readByteSettled
  rw [hsettled]
  dsimp only
  generalize ByteReader.read cursor₁ host₁ 1 = result at hpulled
  cases hpulled with
  | pulled hn hle _hall hstands₂ hcalm₂ =>
      rename_i n cursor₂ host₂
      have hone : n = 1 := Nat.le_antisymm hle hn
      dsimp only
      rw [hone, slice_one htarget, Array.getElem?_eq_getElem htarget]
      exact ⟨_, _, rfl, ⟨_, hstands₂⟩, hcalm₂⟩

theorem faithful (reliable : ReliableCursors data prompt calm standsAt) :
    FaithfulSources data prompt (Reads data calm standsAt) where
  size := fun hfit => hfit.size_eq
  read := by
    intro s host position buffer mode hfit hbuffer hinside
    rcases hfit.cursor with ⟨cursor, stood, hcursor, hstands⟩
    rcases readSettled_delivers reliable hfit.calm hstands hbuffer hinside with
      ⟨n, hdelivers⟩
    have hread : Source.readVia mode s host position buffer =
        let reading := readSettled position maxAttempts cursor host buffer
        { reading with source := { s with cursor := some reading.source } } := by
      cases mode with
      | blocking => simp only [Source.readVia_blocking, Source.readAt, hcursor]
      | awaited =>
          simp only [Source.readVia_awaited, Source.readAwaited, Source.startRead, hcursor]
    rw [hread]
    rcases hdelivers.fit with ⟨⟨stands, hstands'⟩, hcalm'⟩
    exact ⟨n, hdelivers.outcome, hdelivers.pos, hdelivers.le, hdelivers.all,
      hdelivers.bytes, ⟨_, _, rfl, hstands'⟩, hcalm', hfit.size_eq⟩
  byte := by
    intro s host position hfit hposition
    rcases hfit.cursor with ⟨cursor, stood, hcursor, hstands⟩
    rcases readByteSettled_eq reliable hfit.calm hstands hposition with
      ⟨cursor', host', hread, ⟨stands, hstands'⟩, hcalm'⟩
    simp only [Source.readByteAt, hcursor, hread]
    exact ⟨trivial, ⟨_, _, rfl, hstands'⟩, hcalm', hfit.size_eq⟩

/-- The size of the source is that of the data. -/
theorem ofCursor_reads (reliable : ReliableCursors data prompt calm standsAt) {cursor : ρ}
    {host : Host} {position : Nat} (hcalm : calm host) (hstands : standsAt cursor position) :
    exists s host', ofCursor cursor host = (.ok s, host') ∧
      Reads data calm standsAt s host' := by
  have hended := reliable.ends hcalm hstands
  unfold ofCursor
  generalize ByteCursor.seek cursor host (.fromEnd 0) = result at hended
  cases hended with
  | reported hstands' hcalm' => exact ⟨_, _, rfl, ⟨_, _, rfl, hstands'⟩, hcalm', rfl⟩

end SeekThenRead
end ByteWindow
