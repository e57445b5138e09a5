import ByteWindow.Proofs.Idling
import ByteWindow.Proofs.Stream.Numbered
import ByteWindow.Proofs.Stream.Recorded
import ByteWindow.Source.Pool

/-!
# Skips add up

A stream that has to skip some bytes is asked for what is missing, again and again.  What it
reports is taken off, never more than it was asked for.  That ends as soon as nothing is missing,
with the third call in a row that achieves nothing, and with the first failure.

The calls in question are those of a stream that is asked without an end.  What they answer tells
where skipping stops and what comes of it.
-/

namespace ByteWindow

/-!
## What calls count for
-/

namespace SkipCall

/-- What a call reports, but no more than it asked for. -/
def gain (call : SkipCall) : Nat :=
  match call.result with
  | .ok step => min step call.wanted
  | .error _ => 0

theorem gain_le (call : SkipCall) : call.gain ≤ call.wanted := by
  unfold gain
  split
  · exact Nat.min_le_right _ _
  · exact Nat.zero_le _

/-- What calls count for together. -/
def gained : List SkipCall -> Nat
  | [] => 0
  | call :: calls => call.gain + gained calls

@[simp] theorem gained_nil : gained [] = 0 :=
  rfl

@[simp] theorem gained_cons (call : SkipCall) (calls : List SkipCall) :
    gained (call :: calls) = call.gain + gained calls :=
  rfl

@[simp] theorem gained_append (earlier later : List SkipCall) :
    gained (earlier ++ later) = gained earlier + gained later := by
  induction earlier with
  | nil => simp
  | cons call earlier ih => simp [ih, Nat.add_assoc]

theorem gained_le_of_isPrefix {calls more : List SkipCall} (hfront : calls <+: more) :
    gained calls ≤ gained more := by
  rcases hfront with ⟨later, rfl⟩
  rw [gained_append]
  exact Nat.le_add_right _ _

/-- The call reports a number of bytes. -/
def Reports (call : SkipCall) : Prop :=
  exists step, call.result = .ok step

/-- Each call asks for what the calls before it left of `n` bytes, and there is something left. -/
def AskForRest (n : Nat) (calls : List SkipCall) : Prop :=
  forall earlier call later, calls = earlier ++ call :: later ->
    gained earlier < n ∧ call.wanted = n - gained earlier

theorem askForRest_concat {n : Nat} {calls : List SkipCall} {call : SkipCall}
    (hasks : AskForRest n calls) (hmissing : gained calls < n)
    (hwanted : call.wanted = n - gained calls) : AskForRest n (calls ++ [call]) := by
  intro earlier call' later hcalls
  rcases List.eq_nil_or_concat later with rfl | ⟨later', last, rfl⟩
  · rcases List.append_inj' hcalls rfl with ⟨rfl, hlast⟩
    cases hlast
    exact ⟨hmissing, hwanted⟩
  · rw [List.concat_eq_append, ← List.cons_append, ← List.append_assoc] at hcalls
    exact hasks earlier call' later' (List.append_inj' hcalls rfl).1

end SkipCall

/-- A call to skip, and the stream that it left. -/
structure SkipTurn (τ : Type) where
  call : SkipCall
  stream : τ

namespace Pool

open SkipCall

variable {τ : Type} [Stream τ]

/-!
## Asking again and again
-/

/-- The first turns of a stream that is asked for what is missing, however often. -/
def skipTurns (stream : τ) (host : Host) (missing : Nat) : Nat -> List (SkipTurn τ)
  | 0 => []
  | k + 1 =>
      match Stream.skip stream host missing with
      | (result, stream, host) =>
          let call : SkipCall := { wanted := missing, result }
          { call, stream } :: skipTurns stream host (missing - call.gain) k

/-- The calls of these turns. -/
def skipCalls (stream : τ) (host : Host) (missing k : Nat) : List SkipCall :=
  (skipTurns stream host missing k).map SkipTurn.call

/-- The stream after some turns. -/
def streamAfter (stream : τ) : List (SkipTurn τ) -> τ
  | [] => stream
  | turn :: turns => streamAfter turn.stream turns

variable {stream stream' : τ} {host host' : Host} {result : Except IoError Nat}
variable {start n missing : Nat}

theorem skipTurns_succ (hskip : Stream.skip stream host missing = (result, stream', host'))
    (k : Nat) :
    skipTurns stream host missing (k + 1) =
      { call := { wanted := missing, result }, stream := stream' } ::
        skipTurns stream' host' (missing - gain { wanted := missing, result }) k := by
  rw [skipTurns, hskip]

theorem skipCalls_succ (hskip : Stream.skip stream host missing = (result, stream', host'))
    (k : Nat) :
    skipCalls stream host missing (k + 1) =
      { wanted := missing, result } ::
        skipCalls stream' host' (missing - gain { wanted := missing, result }) k := by
  rw [skipCalls, skipTurns_succ hskip, List.map_cons, skipCalls]

theorem gained_skipCalls_le (stream : τ) (host : Host) (missing k : Nat) :
    gained (skipCalls stream host missing k) ≤ missing := by
  induction k generalizing stream host missing with
  | zero => exact Nat.zero_le _
  | succ k ih =>
      cases hskip : Stream.skip stream host missing with
      | mk result rest =>
          rcases rest with ⟨stream', host'⟩
          rw [skipCalls_succ hskip, gained_cons]
          have hgain := gain_le { wanted := missing, result }
          have hrest := ih stream' host' (missing - gain { wanted := missing, result })
          change gain { wanted := missing, result } ≤ missing at hgain
          omega

theorem skipCalls_isPrefix (stream : τ) (host : Host) (missing : Nat) {k more : Nat}
    (hmore : k ≤ more) :
    skipCalls stream host missing k <+: skipCalls stream host missing more := by
  induction k generalizing stream host missing more with
  | zero => exact List.nil_prefix
  | succ k ih =>
      cases more with
      | zero => omega
      | succ more =>
          cases hskip : Stream.skip stream host missing with
          | mk result rest =>
              rcases rest with ⟨stream', host'⟩
              rw [skipCalls_succ hskip, skipCalls_succ hskip, List.prefix_cons_inj]
              exact ih _ _ _ (Nat.le_of_succ_le_succ hmore)

/-!
## Where skipping ends
-/

/-- All calls reported something, and not too many in a row reported nothing. -/
structure Patient (calls : List SkipCall) : Prop where
  reports : forall call, call ∈ calls -> call.Reports
  lively : ¬ List.replicate maxIdleSkips (.ok 0) <:+: calls.map SkipCall.result

theorem Patient.nil : Patient [] where
  reports := fun call hcall => (List.not_mem_nil hcall).elim
  lively := by decide

theorem Patient.of_isPrefix {calls more : List SkipCall} (hpatient : Patient more)
    (hfront : calls <+: more) : Patient calls where
  reports := fun call hcall => hpatient.reports call (hfront.subset hcall)
  lively := fun hidle => hpatient.lively (hidle.trans (hfront.map _).isInfix)

/-- The calls at the end of which skipping `n` bytes from `start` comes to a result. -/
inductive SkipEnd (start n : Nat) : List SkipCall -> Except Error Unit -> Prop
  | arrived {calls : List SkipCall} :
      Patient calls -> gained calls = n -> SkipEnd start n calls (.ok ())
  | stuck {calls : List SkipCall} {call : SkipCall} :
      Patient calls -> gained calls < n ->
      List.replicate maxIdleSkips (.ok 0) <:+ (calls ++ [call]).map SkipCall.result ->
      SkipEnd start n (calls ++ [call]) (.error (.unexpectedEof (start + gained calls) (start + n)))
  | failed {calls : List SkipCall} {call : SkipCall} {cause : IoError} :
      Patient calls -> gained calls < n -> call.result = .error cause ->
      SkipEnd start n (calls ++ [call]) (.error (.io cause))

namespace SkipEnd

variable {calls more : List SkipCall} {call : SkipCall} {outcome outcome' : Except Error Unit}

/-- As long as all calls are patient, only one end is possible. -/
theorem of_patient (h : SkipEnd start n calls outcome) (hpatient : Patient calls) :
    gained calls = n ∧ outcome = .ok () := by
  cases h with
  | arrived _ hgained => exact ⟨hgained, rfl⟩
  | stuck _ _ hidle => cases hpatient.lively hidle.isInfix
  | failed _ _ hresult =>
      rcases hpatient.reports _ List.mem_concat_self with ⟨step, hstep⟩
      rw [hresult] at hstep
      cases hstep

/-- Otherwise the answer to the last call tells the end. -/
theorem of_impatient (h : SkipEnd start n (calls ++ [call]) outcome)
    (himpatient : ¬ Patient (calls ++ [call])) :
    call.result = .ok 0 ∧
        outcome = .error (.unexpectedEof (start + gained calls) (start + n)) ∨
      exists cause, call.result = .error cause ∧ outcome = .error (.io cause) := by
  generalize hcalls : calls ++ [call] = all at h himpatient
  cases h with
  | arrived hpatient _ => cases himpatient hpatient
  | stuck _ _ hidle =>
      rcases List.append_inj' hcalls rfl with ⟨rfl, hcall⟩
      cases hcall
      rw [List.map_append, List.map_singleton, maxIdleSkips, replicate_suffix_concat_iff] at hidle
      exact .inl ⟨hidle.1, rfl⟩
  | failed _ _ hresult =>
      rcases List.append_inj' hcalls rfl with ⟨rfl, hcall⟩
      cases hcall
      exact .inr ⟨_, hresult, rfl⟩

theorem of_arrived (h : SkipEnd start n calls (.ok ())) : Patient calls ∧ gained calls = n := by
  cases h with
  | arrived hpatient hgained => exact ⟨hpatient, hgained⟩

theorem eq_of_same (h : SkipEnd start n calls outcome) (h' : SkipEnd start n calls outcome') :
    outcome = outcome' := by
  by_cases hpatient : Patient calls
  · rw [(h.of_patient hpatient).2, (h'.of_patient hpatient).2]
  · rcases List.eq_nil_or_concat calls with rfl | ⟨earlier, last, rfl⟩
    · cases hpatient .nil
    · rw [List.concat_eq_append] at h h' hpatient
      rcases h.of_impatient hpatient with ⟨hresult, hend⟩ | ⟨cause, hresult, hend⟩ <;>
        rcases h'.of_impatient hpatient with ⟨hresult', hend'⟩ | ⟨cause', hresult', hend'⟩ <;>
        rw [hresult] at hresult' <;>
        cases hresult' <;>
        rw [hend, hend']

theorem patient_dropLast (h : SkipEnd start n calls outcome) : Patient calls.dropLast := by
  cases h with
  | arrived hpatient _ => exact hpatient.of_isPrefix (List.dropLast_prefix _)
  | stuck hpatient _ _ => rwa [List.dropLast_concat]
  | failed hpatient _ _ => rwa [List.dropLast_concat]

/-- With an end reached, more calls lead to no other one. -/
theorem eq_of_isPrefix (h : SkipEnd start n calls outcome) (h' : SkipEnd start n more outcome')
    (hfront : calls <+: more) : outcome = outcome' := by
  have hsame (earlier : List SkipCall) (call : SkipCall) (hmore : more = earlier ++ [call])
      (hpatient : Patient earlier) (hmissing : gained earlier < n) : calls = more := by
    rw [hmore, List.prefix_concat_iff] at hfront
    rcases hfront with hall | hearlier
    · rw [hmore, hall]
    · have hgained := (h.of_patient (hpatient.of_isPrefix hearlier)).1
      have hle := gained_le_of_isPrefix hearlier
      omega
  cases h' with
  | arrived hpatient _ => exact (h.of_patient (hpatient.of_isPrefix hfront)).2
  | stuck hpatient hmissing hidle =>
      cases hsame _ _ rfl hpatient hmissing
      exact h.eq_of_same (.stuck hpatient hmissing hidle)
  | failed hpatient hmissing hresult =>
      cases hsame _ _ rfl hpatient hmissing
      exact h.eq_of_same (.failed hpatient hmissing hresult)

end SkipEnd

/-!
## Skipping on the way
-/

/-- The calls so far have left `remaining` of `n` bytes, and the last `idle` of them achieved
nothing. -/
structure Skipping (n : Nat) (calls : List SkipCall) (remaining idle : Nat) : Prop where
  asks : AskForRest n calls
  patient : Patient calls
  counts : gained calls + remaining = n
  ends : EndsIdle (.ok 0) idle (calls.map SkipCall.result)
  idle_lt : idle < maxIdleSkips

namespace Skipping

variable {calls : List SkipCall} {remaining idle idle' step : Nat}

theorem begin (n : Nat) : Skipping n [] n 0 where
  asks := fun earlier call later hcalls =>
    List.cons_ne_nil call later (List.append_eq_nil_iff.mp hcalls.symm).2 |>.elim
  patient := .nil
  counts := Nat.zero_add n
  ends := .nil _
  idle_lt := by decide

theorem gained_lt (skipping : Skipping n calls remaining idle) (hremaining : remaining ≠ 0) :
    gained calls < n := by
  have hcounts := skipping.counts
  omega

theorem asks_concat (skipping : Skipping n calls remaining idle) (hremaining : remaining ≠ 0)
    (result : Except IoError Nat) : AskForRest n (calls ++ [{ wanted := remaining, result }]) := by
  have hcounts := skipping.counts
  have hwanted : remaining = n - gained calls := by omega
  exact askForRest_concat skipping.asks (skipping.gained_lt hremaining) hwanted

/-- A report is taken off. -/
theorem reported (skipping : Skipping n calls remaining idle) (hremaining : remaining ≠ 0)
    (hends : EndsIdle (.ok 0) idle' (calls.map SkipCall.result ++ [.ok step]))
    (hidle : idle' < maxIdleSkips) :
    Skipping n (calls ++ [{ wanted := remaining, result := .ok step }]) (remaining - step)
      idle' where
  asks := skipping.asks_concat hremaining _
  patient :=
    { reports := by
        intro call hcall
        rcases List.mem_append.mp hcall with hearlier | hlast
        · exact skipping.patient.reports call hearlier
        · rw [List.mem_singleton.mp hlast]
          exact ⟨step, rfl⟩
      lively := by
        rw [List.map_append]
        exact hends.not_infix_concat skipping.patient.lively hidle }
  counts := by
    have hcounts := skipping.counts
    rw [gained_append, gained_cons, gained_nil, gain]
    dsimp only
    omega
  ends := by
    rw [List.map_append]
    exact hends
  idle_lt := hidle

end Skipping

/-- What skipping comes to, with the turns that it takes from here on. -/
def ComesTo (start n : Nat) (calls : List SkipCall) (stream : τ) (host : Host)
    (remaining idle : Nat) (run : Except Error Unit × τ × Host) : Prop :=
  exists k,
    skipRemaining start n ({ stream, skips := calls } : Recorded τ) host remaining idle =
      (run.1,
        { stream := run.2.1, skips := calls ++ skipCalls stream host remaining k }, run.2.2) ∧
    run.2.1 = streamAfter stream (skipTurns stream host remaining k) ∧
    AskForRest n (calls ++ skipCalls stream host remaining k) ∧
    SkipEnd start n (calls ++ skipCalls stream host remaining k) run.1

variable {calls : List SkipCall} {remaining idle idle' : Nat}
variable {run : Except Error Unit × τ × Host}

/-- A turn that fails to skip, or that was one too many, is the last one. -/
theorem comesTo_last (skipping : Skipping n calls remaining idle) (hremaining : remaining ≠ 0)
    (hskip : Stream.skip stream host remaining = (result, stream', host'))
    {outcome : Except Error Unit}
    (hrecorded : skipRemaining start n ({ stream, skips := calls } : Recorded τ) host remaining
      idle = (outcome, { stream := stream', skips := calls ++ [{ wanted := remaining, result }] },
        host'))
    (hend : SkipEnd start n (calls ++ [{ wanted := remaining, result }]) outcome) :
    ComesTo start n calls stream host remaining idle (outcome, stream', host') := by
  refine ⟨1, ?_, ?_, ?_, ?_⟩
  · rw [hrecorded, skipCalls_succ hskip]
    rfl
  · rw [skipTurns_succ hskip]
    rfl
  · rw [skipCalls_succ hskip]
    exact skipping.asks_concat hremaining result
  · rw [skipCalls_succ hskip]
    exact hend

/-- A turn that reports something is followed by the turns that are left to take. -/
theorem comesTo_next {step : Nat}
    (hskip : Stream.skip stream host remaining = (.ok step, stream', host'))
    (hrecorded : skipRemaining start n ({ stream, skips := calls } : Recorded τ) host remaining
      idle = skipRemaining start n
        ({ stream := stream', skips := calls ++ [{ wanted := remaining, result := .ok step }] } :
          Recorded τ) host' (remaining - step) idle')
    (hrest : ComesTo start n (calls ++ [{ wanted := remaining, result := .ok step }]) stream'
      host' (remaining - step) idle' run) :
    ComesTo start n calls stream host remaining idle run := by
  rcases hrest with ⟨k, hrun, hstream, hasks, hend⟩
  have hgain : remaining - gain { wanted := remaining, result := .ok step } = remaining - step := by
    simp only [gain]
    omega
  have hcalls : skipCalls stream host remaining (k + 1) =
      { wanted := remaining, result := .ok step } ::
        skipCalls stream' host' (remaining - step) k := by
    rw [skipCalls_succ hskip, hgain]
  rw [List.append_assoc, List.singleton_append, ← hcalls] at hrun hasks hend
  refine ⟨k + 1, hrecorded.trans hrun, ?_, hasks, hend⟩
  rw [skipTurns_succ hskip, hgain]
  exact hstream

theorem Skipping.comesTo (skipping : Skipping n calls remaining idle) :
    ComesTo start n calls stream host remaining idle
      (skipRemaining start n stream host remaining idle) := by
  fun_induction skipRemaining start n stream host remaining idle generalizing calls with
  | case1 stream host idle =>
      refine ⟨0, ?_, rfl, ?_, ?_⟩
      · rw [skipRemaining]
        simp [skipCalls, skipTurns]
      · simpa [skipCalls, skipTurns] using skipping.asks
      · simpa [skipCalls, skipTurns] using .arrived skipping.patient skipping.counts
  | case2 stream host remaining idle hremaining cause stream' host' hskip =>
      refine comesTo_last skipping hremaining hskip ?_ ?_
      · rw [skipRemaining, if_neg hremaining, Recorded.skip_eq hskip]
      · exact .failed skipping.patient (skipping.gained_lt hremaining) rfl
  | case3 stream host remaining idle hremaining stream' host' hskip hidle ih =>
      refine comesTo_next hskip ?_ (ih ?_)
      · rw [skipRemaining, if_neg hremaining, Recorded.skip_eq hskip]
        exact if_pos hidle
      · exact skipping.reported hremaining skipping.ends.once_more hidle
  | case4 stream host remaining idle hremaining stream' host' hskip hidle =>
      have hcounts := skipping.counts
      have hposition : n - remaining = gained calls := by omega
      rw [hposition]
      refine comesTo_last skipping hremaining hskip ?_ ?_
      · rw [skipRemaining, if_neg hremaining, Recorded.skip_eq hskip]
        simp only [if_neg hidle, hposition]
      · refine .stuck skipping.patient (skipping.gained_lt hremaining) ?_
        rw [List.map_append, List.map_singleton, skipping.ends.once_more]
        exact Nat.le_of_not_lt hidle
  | case5 stream host remaining idle hremaining step stream' host' hskip ih =>
      refine comesTo_next hskip ?_ (ih ?_)
      · rw [skipRemaining, if_neg hremaining, Recorded.skip_eq hskip]
      · refine skipping.reported hremaining (.interrupted _ ?_) (by decide)
        simp

/-!
## Where honest streams are taken
-/

theorem length_skipCalls (stream : τ) (host : Host) (missing k : Nat) :
    (skipCalls stream host missing k).length = k := by
  induction k generalizing stream host missing with
  | zero => rfl
  | succ k ih =>
      cases hskip : Stream.skip stream host missing with
      | mk result rest =>
          rcases rest with ⟨stream', host'⟩
          rw [skipCalls_succ hskip, List.length_cons, ih]

theorem skipCalls_eq_dropLast (stream : τ) (host : Host) (missing k : Nat) :
    skipCalls stream host missing k = (skipCalls stream host missing (k + 1)).dropLast := by
  have hfront := skipCalls_isPrefix stream host missing (Nat.le_succ k)
  rw [List.prefix_iff_eq_take, length_skipCalls] at hfront
  rw [List.dropLast_eq_take, length_skipCalls, Nat.add_sub_cancel]
  exact hfront

section Honest

variable {calm : Host -> Prop} {standsAt : τ -> Nat -> Prop} {position : Nat}

theorem standsAt_gain (honest : HonestSkips τ calm standsAt) (hcalm : calm host)
    (hstands : standsAt stream position)
    (hskip : Stream.skip stream host missing = (result, stream', host'))
    (hreports : Reports { wanted := missing, result }) :
    calm host' ∧ standsAt stream' (position + gain { wanted := missing, result }) := by
  rcases hreports with ⟨step, hstep⟩
  dsimp only at hstep
  subst hstep
  have hcalm' := honest.calm_skip stream missing hcalm
  rw [hskip] at hcalm'
  rcases honest.skipped hcalm hstands hskip with ⟨hle, hstands'⟩
  have hgain : gain { wanted := missing, result := .ok step } = step := Nat.min_eq_left hle
  rw [hgain]
  exact ⟨hcalm', hstands'⟩

/-- After reports alone, an honest stream stands as far on as they add up to. -/
theorem standsAt_streamAfter (honest : HonestSkips τ calm standsAt) (hcalm : calm host)
    (hstands : standsAt stream position) {k : Nat}
    (hreports : forall call, call ∈ skipCalls stream host missing k -> call.Reports) :
    standsAt (streamAfter stream (skipTurns stream host missing k))
      (position + gained (skipCalls stream host missing k)) := by
  induction k generalizing stream host missing position with
  | zero => exact hstands
  | succ k ih =>
      cases hskip : Stream.skip stream host missing with
      | mk result rest =>
          rcases rest with ⟨stream', host'⟩
          rw [skipCalls_succ hskip, List.forall_mem_cons] at hreports
          rw [skipCalls_succ hskip, skipTurns_succ hskip, gained_cons, ← Nat.add_assoc]
          rcases standsAt_gain honest hcalm hstands hskip hreports.1 with ⟨hcalm', hstands'⟩
          exact ih hcalm' hstands' hreports.2

/-- One more turn takes a modest stream no further than it should go, whatever it answers. -/
theorem never_past_streamAfter (modest : ModestSkips τ calm standsAt) (hcalm : calm host)
    (hstands : standsAt stream position) {k : Nat}
    (hreports : forall call, call ∈ skipCalls stream host missing k -> call.Reports) :
    exists reached, reached ≤ position + missing ∧
      standsAt (streamAfter stream (skipTurns stream host missing (k + 1))) reached := by
  induction k generalizing stream host missing position with
  | zero =>
      cases hskip : Stream.skip stream host missing with
      | mk result rest =>
          rcases rest with ⟨stream', host'⟩
          rw [skipTurns_succ hskip]
          cases result with
          | ok step =>
              rcases modest.skipped hcalm hstands hskip with ⟨hle, hstands'⟩
              exact ⟨_, Nat.add_le_add_left hle _, hstands'⟩
          | error cause =>
              rcases modest.failed hcalm hstands hskip with ⟨step, hle, hstands'⟩
              exact ⟨_, Nat.add_le_add_left hle _, hstands'⟩
  | succ k ih =>
      cases hskip : Stream.skip stream host missing with
      | mk result rest =>
          rcases rest with ⟨stream', host'⟩
          rw [skipCalls_succ hskip, List.forall_mem_cons] at hreports
          rcases standsAt_gain modest.toHonestSkips hcalm hstands hskip hreports.1 with
            ⟨hcalm', hstands'⟩
          rcases ih hcalm' hstands' hreports.2 with ⟨reached, hreached, hlast⟩
          have hgain := gain_le { wanted := missing, result }
          refine ⟨reached, ?_, ?_⟩
          · dsimp only at hgain
            omega
          · rw [skipTurns_succ hskip]
            exact hlast

end Honest

/-!
## Every byte is accounted for
-/

/-- How skipping `n` bytes of a stream that stands at `start` went. -/
structure Accounted (start n : Nat) (stream : τ) (host : Host)
    (run : Except Error Unit × τ × Host) : Prop where
  /-- The turns that were taken, each of them asking for the rest, up to an end. -/
  turns : exists k,
    skipFully start n ({ stream } : Recorded τ) host =
      (run.1, { stream := run.2.1, skips := skipCalls stream host n k }, run.2.2) ∧
    run.2.1 = streamAfter stream (skipTurns stream host n k) ∧
    AskForRest n (skipCalls stream host n k) ∧
    SkipEnd start n (skipCalls stream host n k) run.1
  /-- What comes of it is what the first end among all calls says. -/
  outcome_iff (outcome : Except Error Unit) :
    run.1 = outcome <-> exists k, SkipEnd start n (skipCalls stream host n k) outcome
  /-- As long as it reports, an honest stream stands as far on as the reports add up to, and
  in the end it has arrived. -/
  stands {calm : Host -> Prop} {standsAt : τ -> Nat -> Prop} :
    HonestSkips τ calm standsAt -> calm host -> standsAt stream start ->
    (forall k, (forall call, call ∈ skipCalls stream host n k -> call.Reports) ->
      gained (skipCalls stream host n k) ≤ n ∧
        standsAt (streamAfter stream (skipTurns stream host n k))
          (start + gained (skipCalls stream host n k))) ∧
    (run.1 = .ok () -> standsAt run.2.1 (start + n))
  /-- If it goes no further than told when it fails, it is never taken too far. -/
  never_past {calm : Host -> Prop} {standsAt : τ -> Nat -> Prop} :
    ModestSkips τ calm standsAt -> calm host -> standsAt stream start ->
    (forall k, (forall call, call ∈ skipCalls stream host n k -> call.Reports) ->
      exists reached, reached ≤ start + n ∧
        standsAt (streamAfter stream (skipTurns stream host n (k + 1))) reached) ∧
    exists reached, reached ≤ start + n ∧ standsAt run.2.1 reached

/-- Whatever a stream answers to its skips, every byte that it has to skip is accounted for. -/
theorem accounted_skipFully (start n : Nat) (stream : τ) (host : Host) :
    Accounted start n stream host (skipFully start n stream host) := by
  have hcomes : ComesTo start n [] stream host n 0 (skipFully start n stream host) :=
    (Skipping.begin n).comesTo
  rcases hcomes with ⟨k, hrun, hstream, hasks, hend⟩
  rw [List.nil_append] at hrun hasks hend
  refine { turns := ⟨k, hrun, hstream, hasks, hend⟩, outcome_iff := ?_, stands := ?_,
           never_past := ?_ }
  · intro outcome
    constructor
    · rintro rfl
      exact ⟨k, hend⟩
    · rintro ⟨k', hend'⟩
      rcases Nat.le_total k k' with hle | hle
      · exact hend.eq_of_isPrefix hend' (skipCalls_isPrefix stream host n hle)
      · exact (hend'.eq_of_isPrefix hend (skipCalls_isPrefix stream host n hle)).symm
  · intro calm standsAt honest hcalm hstands
    refine ⟨fun k hreports => ⟨gained_skipCalls_le stream host n k,
      standsAt_streamAfter honest hcalm hstands hreports⟩, fun harrived => ?_⟩
    rw [harrived] at hend
    rcases hend.of_arrived with ⟨hpatient, hgained⟩
    have hreached := standsAt_streamAfter honest hcalm hstands hpatient.reports
    rwa [← hstream, hgained] at hreached
  · intro calm standsAt modest hcalm hstands
    refine ⟨fun k hreports => never_past_streamAfter modest hcalm hstands hreports, ?_⟩
    rw [hstream]
    cases k with
    | zero => exact ⟨start, Nat.le_add_right _ _, hstands⟩
    | succ k =>
        have hpatient := hend.patient_dropLast
        rw [← skipCalls_eq_dropLast] at hpatient
        exact never_past_streamAfter modest hcalm hstands hpatient.reports

/-- A stream of six bytes that halts on the way, but never for long. -/
def haltingStream : Scripted.NumberedStream where
  number := 0
  data := #[10, 20, 30, 40, 50, 60]
  position := 1
  skips := [.atMost 2, .atMost 0, .atMost 0, .atMost 1, .atMost 0]

theorem accounted_skipFully_haltingStream :
    (skipFully 1 4 haltingStream {}).1 = .ok () ∧
      (skipFully 1 4 haltingStream {}).2.1.SkipsFrom 5 := by
  have haccounted := accounted_skipFully 1 4 haltingStream {}
  have hstands : haltingStream.SkipsFrom 1 :=
    { position_eq := rfl
      position_le := by decide
      size_le := by decide
      truthful := by simp [haltingStream, Scripted.SkipReply.Truthful] }
  have harrived : (skipFully 1 4 haltingStream {}).1 = .ok () := by cbv
  have hmodest := Scripted.NumberedStream.modestSkips
  exact ⟨harrived, (haccounted.stands hmodest.toHonestSkips trivial hstands).2 harrived⟩

end Pool
end ByteWindow
