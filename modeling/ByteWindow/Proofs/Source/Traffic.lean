import Mathlib.Data.List.Induction
import Mathlib.Data.List.Infix
import ByteWindow.Source.Channel

/-!
# Traffic on a channel

Any number of reads can be under way on one channel.  A read that does not block is polled, its
task reads the file elsewhere and is done at some time with some result, and then the read is
polled again and answered.  Until then it can be dropped.  Blocking reads, a release and changes
of the files can come in between, in any order.

Only two things change the state of the channel: a drop of a read that was polled and not yet
answered cancels it if it is open, and a release ends it.  What a read is answered depends on
that state at the moment when it is polled, not on what happened to it in between.
-/

namespace ByteWindow
namespace Channel

/-- Answer a read whose task is done. -/
def finishWith (result : Except IoError (List UInt8)) (s : Channel) (host : Host)
    (buffer : List UInt8) : Reading (Option Nat) Channel :=
  match result with
  | .error cause => .failed (.io cause) buffer s host
  | .ok piece =>
      match s.state.file? with
      | .error error => .failed error buffer s host
      | .ok _ => .deliveredOrEnd piece buffer s host

/-- A started read is finished with what its task finds in the file. -/
theorem finishRead_eq_finishWith (task : ReadTask) (s : Channel) (host : Host)
    (buffer : List UInt8) :
    s.finishRead task host buffer =
      s.finishWith (host.disk.readAt task.file task.position task.length) host buffer := rfl

end Channel

/-!
## Events
-/

/-- How far a read that does not block has come. -/
inductive ReadStage
  /-- It was polled, and its task is at work. -/
  | waiting (task : ReadTask)
  /-- Its task is done, and it was not polled since. -/
  | ready (result : Except IoError (List UInt8))
  /-- It was answered or dropped. -/
  | settled

/-- A read that does not block, and the buffer that it was given. -/
structure AwaitedRead where
  stage : ReadStage
  buffer : List UInt8

/-- A channel and the reads that were polled on it, in the order of their first polls. -/
structure Traffic where
  channel : Channel
  host : Host
  reads : List AwaitedRead := []

/-- A read that was never polled has done nothing, so to drop it is no event.  A first poll that
finds its task done already is a poll, the work and another poll in a row. -/
inductive TrafficEvent
  /-- The first poll of a new read. -/
  | poll (position : Nat) (buffer : List UInt8)
  /-- The task of a read is done. -/
  | work (number : Nat) (result : Except IoError (List UInt8))
  | pollAgain (number : Nat)
  | drop (number : Nat)
  /-- A blocking read. -/
  | read (position : Nat) (buffer : List UInt8)
  /-- A blocking read of one byte. -/
  | readByte (position : Nat)
  | release
  /-- Somebody changes the files. -/
  | edit (disk : Disk)

inductive TrafficAnswer
  | silence
  | pending
  | answered (outcome : Except Error (Option Nat)) (buffer : List UInt8)
  | byte (outcome : Except Error (Option UInt8))

namespace Traffic

/-- A new channel to a file. -/
def start (host : Host) (file : FileId) : Traffic :=
  { channel := .ofFile host.disk file, host }

/-- Give a read another stage and buffer. -/
def update (t : Traffic) (number : Nat) (read : AwaitedRead) : Traffic :=
  { t with reads := t.reads.set number read }

/-- Answer a blocking read. -/
def answer (t : Traffic) (reading : Reading (Option Nat) Channel) : TrafficAnswer × Traffic :=
  (.answered reading.outcome reading.buffer,
    { t with channel := reading.source, host := reading.host })

/-- What an event comes to.  An event that finds nothing to do changes nothing: a task works
only for a read that waits for it, and a settled read cannot be polled or dropped again. -/
def step (t : Traffic) : TrafficEvent -> TrafficAnswer × Traffic
  | .poll position buffer =>
      match Source.startRead t.channel t.host position buffer with
      | .finished reading =>
          (.answered reading.outcome reading.buffer,
            { channel := reading.source, host := reading.host
              reads := t.reads ++ [{ stage := .settled, buffer := reading.buffer }] })
      | .waiting task channel host =>
          (.pending, { channel, host, reads := t.reads ++ [{ stage := .waiting task, buffer }] })
  | .work number result =>
      match t.reads[number]? with
      | some { stage := .waiting _, buffer } =>
          (.silence, t.update number { stage := .ready result, buffer })
      | _ => (.silence, t)
  | .pollAgain number =>
      match t.reads[number]? with
      | some { stage := .waiting _, .. } => (.pending, t)
      | some { stage := .ready result, buffer } =>
          let reading := t.channel.finishWith result t.host buffer
          (t.update number { stage := .settled, buffer := reading.buffer }).answer reading
      | _ => (.silence, t)
  | .drop number =>
      match t.reads[number]? with
      | some { stage := .waiting _, buffer } | some { stage := .ready _, buffer } =>
          match Source.abandonRead t.channel t.host with
          | (channel, host) =>
              (.silence, { t.update number { stage := .settled, buffer } with channel, host })
      | _ => (.silence, t)
  | .read position buffer => t.answer (Source.readAt t.channel t.host position buffer)
  | .readByte position =>
      match Source.readByteAt t.channel t.host position with
      | (outcome, channel, host) => (.byte outcome, { t with channel, host })
  | .release =>
      match Releasable.release t.channel t.host with
      | (_, channel, host) => (.silence, { t with channel, host })
  | .edit disk => (.silence, { t with host := { t.host with disk } })

/-- The traffic after some events. -/
def after (t : Traffic) (events : List TrafficEvent) : Traffic :=
  events.foldl (fun t event => (t.step event).2) t

theorem after_concat (t : Traffic) (events : List TrafficEvent) (event : TrafficEvent) :
    t.after (events ++ [event]) = ((t.after events).step event).2 := by
  unfold after
  rw [List.foldl_append]
  rfl

/-- A read that was polled, and neither answered nor dropped. -/
def Unfinished (t : Traffic) (number : Nat) : Prop :=
  exists read, t.reads[number]? = some read ∧ read.stage ≠ .settled

end Traffic

/-!
## Calls of the source
-/

/-- A channel that is no longer open refuses reads with this error. -/
inductive ChannelState.Refuses : ChannelState -> Error -> Prop
  | cancelled : Refuses .cancelled .cancelled
  | released : Refuses .released .released

theorem ChannelState.Refuses.file?_eq {state : ChannelState} {error : Error}
    (h : state.Refuses error) : state.file? = .error error := by
  cases h with
  | cancelled => rfl
  | released => rfl

theorem ChannelState.opened_or_refuses (state : ChannelState) :
    (exists file, state = .opened file) ∨ exists error, state.Refuses error := by
  cases state with
  | opened file => exact .inl ⟨file, rfl⟩
  | cancelled => exact .inr ⟨_, .cancelled⟩
  | released => exact .inr ⟨_, .released⟩

/-- A failure of the file comes before the state of the channel. -/
def ownErrorOr (error : Error) : Except IoError (List UInt8) -> Error
  | .error cause => .io cause
  | .ok _ => error

namespace Channel

variable {s : Channel} {error : Error}

theorem source_readAt (s : Channel) (host : Host) (position : Nat) (buffer : List UInt8) :
    (Source.readAt s host position buffer).source = s := by
  change (readAt s host position buffer).source = s
  unfold readAt
  split
  · rfl
  · split
    · rfl
    · rfl

theorem source_readByteAt (s : Channel) (host : Host) (position : Nat) :
    (Source.readByteAt s host position).2.1 = s := by
  change (Source.readAt s host position [0]).singleByte.2.1 = s
  unfold Reading.singleByte
  split
  · exact source_readAt s host position [0]
  · exact source_readAt s host position [0]
  · exact source_readAt s host position [0]

theorem source_finishWith (result : Except IoError (List UInt8)) (s : Channel) (host : Host)
    (buffer : List UInt8) : (s.finishWith result host buffer).source = s := by
  unfold finishWith
  split
  · rfl
  · split
    · rfl
    · rfl

theorem readAt_refused (h : s.state.Refuses error) (host : Host) (position : Nat)
    (buffer : List UInt8) :
    Source.readAt s host position buffer = .failed error buffer s host := by
  change readAt s host position buffer = _
  rw [readAt, h.file?_eq]

theorem startRead_refused (h : s.state.Refuses error) (host : Host) (position : Nat)
    (buffer : List UInt8) :
    Source.startRead s host position buffer = .finished (.failed error buffer s host) := by
  change startRead s host position buffer = _
  rw [startRead, h.file?_eq]

theorem startRead_opened {file : FileId} (h : s.state = .opened file) (host : Host)
    (position : Nat) (buffer : List UInt8) :
    Source.startRead s host position buffer =
      .waiting { file, position, length := buffer.length } s host := by
  change startRead s host position buffer = _
  rw [startRead, h]
  rfl

theorem finishWith_refused (h : s.state.Refuses error)
    (result : Except IoError (List UInt8)) (host : Host) (buffer : List UInt8) :
    s.finishWith result host buffer = .failed (ownErrorOr error result) buffer s host := by
  cases result with
  | error cause => rfl
  | ok piece =>
      rw [finishWith, h.file?_eq]
      rfl

theorem finishWith_opened {file : FileId} (h : s.state = .opened file) (piece : List UInt8)
    (host : Host) (buffer : List UInt8) :
    s.finishWith (.ok piece) host buffer = .deliveredOrEnd piece buffer s host := by
  rw [finishWith, h]
  rfl

theorem state_cancel_opened {file : FileId} (h : s.state = .opened file) (host : Host) :
    (s.cancel host).1.state = .cancelled := by
  rw [cancel, h]

theorem cancel_closed (h : s.state = .cancelled ∨ s.state = .released) (host : Host) :
    s.cancel host = (s, host) := by
  rcases h with h | h
  · rw [cancel, h]
  · rw [cancel, h]

end Channel

namespace Traffic

variable {t : Traffic} {event : TrafficEvent} {number : Nat} {error : Error}

/-!
## The channel after an event
-/

/-- Only a drop and a release can do something to the channel. -/
theorem channel_step (hdrop : forall number, event ≠ .drop number)
    (hrelease : event ≠ .release) :
    (t.step event).2.channel = t.channel := by
  cases event with
  | poll position buffer =>
      rcases t.channel.state.opened_or_refuses with ⟨file, hopened⟩ | ⟨error, hrefuses⟩
      · rw [step, Channel.startRead_opened hopened]
      · rw [step, Channel.startRead_refused hrefuses]
        rfl
  | work number result =>
      rw [step]
      split
      · rfl
      · rfl
  | pollAgain number =>
      rw [step]
      split
      · rfl
      · exact Channel.source_finishWith _ _ _ _
      · rfl
  | drop number => exact absurd rfl (hdrop number)
  | read position buffer => exact Channel.source_readAt _ _ _ _
  | readByte position => exact Channel.source_readByteAt _ _ _
  | release => exact absurd rfl hrelease
  | edit disk => rfl

theorem step_drop_settled (h : ¬ t.Unfinished number) :
    t.step (.drop number) = (.silence, t) := by
  rw [step]
  split
  · next hread =>
      refine absurd ⟨_, hread, ?_⟩ h
      intro hsettled
      cases hsettled
  · next hread =>
      refine absurd ⟨_, hread, ?_⟩ h
      intro hsettled
      cases hsettled
  · rfl

theorem step_drop_unfinished {read : AwaitedRead} (hread : t.reads[number]? = some read)
    (hstage : read.stage ≠ .settled) :
    t.step (.drop number) =
      (.silence, { t.update number { read with stage := .settled } with
        channel := (t.channel.cancel t.host).1, host := (t.channel.cancel t.host).2 }) := by
  rcases read with ⟨stage, buffer⟩
  cases stage with
  | waiting task =>
      rw [step, hread]
      rfl
  | ready result =>
      rw [step, hread]
      rfl
  | settled => exact absurd rfl hstage

/-- The channel is ended, or asked to close for a read that is dropped, or left as it is. -/
theorem channel_step_cases (t : Traffic) (event : TrafficEvent) :
    (event = .release ∧ (t.step event).2.channel.state = .released) ∨
      (exists number, event = .drop number ∧ t.Unfinished number ∧
        (t.step event).2.channel = (t.channel.cancel t.host).1) ∨
      (event ≠ .release ∧ (forall number, event = .drop number -> ¬ t.Unfinished number) ∧
        (t.step event).2.channel = t.channel) := by
  by_cases hrelease : event = .release
  · subst hrelease
    exact .inl ⟨rfl, rfl⟩
  · by_cases hdropped : exists number, event = .drop number ∧ t.Unfinished number
    · rcases hdropped with ⟨number, rfl, hunfinished⟩
      refine .inr (.inl ⟨number, rfl, hunfinished, ?_⟩)
      rcases hunfinished with ⟨read, hread, hstage⟩
      rw [step_drop_unfinished hread hstage]
    · have hsettled (number : Nat) (hdrop : event = .drop number) : ¬ t.Unfinished number :=
        fun hunfinished => hdropped ⟨number, hdrop, hunfinished⟩
      refine .inr (.inr ⟨hrelease, hsettled, ?_⟩)
      by_cases hdrop : exists number, event = .drop number
      · rcases hdrop with ⟨number, rfl⟩
        rw [step_drop_settled (hsettled number rfl)]
      · exact channel_step (fun number h => hdrop ⟨number, h⟩) hrelease

/-!
## One event
-/

/-- What may happen to a channel, its reads and their buffers when an event comes. -/
structure StepLaw (before : Traffic) (event : TrafficEvent) (answer : TrafficAnswer)
    (after : Traffic) : Prop where
  opened : forall file, before.channel.state = .opened file ->
    after.channel.state = .opened file ∨
      (after.channel.state = .cancelled ∧
        exists number, event = .drop number ∧ before.Unfinished number) ∨
      (after.channel.state = .released ∧ event = .release)
  cancelled : before.channel.state = .cancelled ->
    after.channel.state = .cancelled ∨ (after.channel.state = .released ∧ event = .release)
  released : before.channel.state = .released -> after.channel.state = .released
  /-- Whatever a read comes to, it leaves the channel alone. -/
  completed : (forall number, event ≠ .drop number) -> event ≠ .release ->
    after.channel = before.channel
  dropped : forall file number, before.channel.state = .opened file ->
    event = .drop number -> before.Unfinished number -> after.channel.state = .cancelled
  ended : event = .release -> after.channel.state = .released
  /-- A read that is first polled on a closed channel is refused. -/
  refused : forall error position buffer, before.channel.state.Refuses error ->
    event = .poll position buffer ->
    answer = .answered (.error error) buffer ∧
      after.reads = before.reads ++ [{ stage := .settled, buffer }]
  refusedBlocking : forall error position buffer, before.channel.state.Refuses error ->
    event = .read position buffer -> answer = .answered (.error error) buffer
  refusedByte : forall error position, before.channel.state.Refuses error ->
    event = .readByte position -> answer = .byte (.error error)
  /-- A read whose task found what is in the file is answered as the source finishes it. -/
  finished : forall number (task : ReadTask) buffer,
    let found := before.host.disk.readAt task.file task.position task.length
    let reading := Source.finishRead task before.channel before.host buffer
    event = .pollAgain number ->
    before.reads[number]? = some { stage := .ready found, buffer } ->
    answer = .answered reading.outcome reading.buffer
  /-- A read that was polled in time and is done too late delivers nothing. -/
  late : forall error number result buffer, before.channel.state.Refuses error ->
    event = .pollAgain number ->
    before.reads[number]? = some { stage := .ready result, buffer } ->
    answer = .answered (.error (ownErrorOr error result)) buffer ∧
      after.reads[number]? = some { stage := .settled, buffer }

theorem step_poll_refused (h : t.channel.state.Refuses error) (position : Nat)
    (buffer : List UInt8) :
    t.step (.poll position buffer) =
      (.answered (.error error) buffer,
        { t with reads := t.reads ++ [{ stage := .settled, buffer }] }) := by
  rw [step, Channel.startRead_refused h]
  rfl

theorem step_read_refused (h : t.channel.state.Refuses error) (position : Nat)
    (buffer : List UInt8) :
    (t.step (.read position buffer)).1 = .answered (.error error) buffer := by
  rw [step, Channel.readAt_refused h]
  rfl

theorem step_readByte_refused (h : t.channel.state.Refuses error) (position : Nat) :
    (t.step (.readByte position)).1 = .byte (.error error) := by
  change TrafficAnswer.byte (Source.readAt t.channel t.host position [0]).singleByte.1 = _
  rw [Channel.readAt_refused h]
  rfl

theorem getElem?_update {read : AwaitedRead} (h : t.reads[number]? = some read)
    (read' : AwaitedRead) : (t.update number read').reads[number]? = some read' := by
  rcases List.getElem?_eq_some_iff.mp h with ⟨hlt, _⟩
  exact List.getElem?_set_self hlt

theorem step_pollAgain_ready {result : Except IoError (List UInt8)} {buffer : List UInt8}
    (hread : t.reads[number]? = some { stage := .ready result, buffer }) :
    t.step (.pollAgain number) =
      let reading := t.channel.finishWith result t.host buffer
      (t.update number { stage := .settled, buffer := reading.buffer }).answer reading := by
  rw [step, hread]

theorem step_law (t : Traffic) (event : TrafficEvent) :
    StepLaw t event (t.step event).1 (t.step event).2 where
  opened := by
    intro file hopened
    rcases channel_step_cases t event with
      ⟨hrelease, hafter⟩ | ⟨number, hdrop, hunfinished, hafter⟩ | ⟨_, _, hafter⟩
    · exact .inr (.inr ⟨hafter, hrelease⟩)
    · refine .inr (.inl ⟨?_, number, hdrop, hunfinished⟩)
      rw [hafter]
      exact Channel.state_cancel_opened hopened t.host
    · exact .inl (hafter ▸ hopened)
  cancelled := by
    intro hcancelled
    rcases channel_step_cases t event with
      ⟨hrelease, hafter⟩ | ⟨number, _, _, hafter⟩ | ⟨_, _, hafter⟩
    · exact .inr ⟨hafter, hrelease⟩
    · rw [hafter, Channel.cancel_closed (.inl hcancelled)]
      exact .inl hcancelled
    · exact .inl (hafter ▸ hcancelled)
  released := by
    intro hreleased
    rcases channel_step_cases t event with
      ⟨_, hafter⟩ | ⟨number, _, _, hafter⟩ | ⟨_, _, hafter⟩
    · exact hafter
    · rw [hafter, Channel.cancel_closed (.inr hreleased)]
      exact hreleased
    · exact hafter ▸ hreleased
  completed := channel_step
  dropped := by
    intro file number hopened hdrop hunfinished
    rcases hunfinished with ⟨read, hread, hstage⟩
    rw [hdrop, step_drop_unfinished hread hstage]
    exact Channel.state_cancel_opened hopened t.host
  ended := by
    intro hrelease
    rw [hrelease]
    rfl
  refused := by
    intro error position buffer hrefuses hpoll
    rw [hpoll, step_poll_refused hrefuses]
    exact ⟨rfl, rfl⟩
  refusedBlocking := by
    intro error position buffer hrefuses hread
    rw [hread, step_read_refused hrefuses]
  refusedByte := by
    intro error position hrefuses hread
    rw [hread, step_readByte_refused hrefuses]
  finished := by
    intro number task buffer found reading hpoll hread
    rw [hpoll, step_pollAgain_ready hread, ← Channel.finishRead_eq_finishWith]
    rfl
  late := by
    intro error number result buffer hrefuses hpoll hread
    rw [hpoll, step_pollAgain_ready hread, Channel.finishWith_refused hrefuses]
    exact ⟨rfl, getElem?_update hread _⟩

/-!
## The channel after a run
-/

/-- Some read was dropped after its first poll and before its answer. -/
def Abandoned (host : Host) (file : FileId) (events : List TrafficEvent) : Prop :=
  exists earlier number, earlier ++ [.drop number] <+: events ∧
    ((start host file).after earlier).Unfinished number

/-- The state of a channel is told by what was dropped and whether it was released. -/
inductive Course (host : Host) (file : FileId) (events : List TrafficEvent) :
    ChannelState -> Prop
  | opened : ¬ Abandoned host file events -> .release ∉ events ->
      Course host file events (.opened file)
  | cancelled : Abandoned host file events -> .release ∉ events ->
      Course host file events .cancelled
  | released : .release ∈ events -> Course host file events .released

variable {host : Host} {file : FileId} {events : List TrafficEvent}

theorem abandoned_concat :
    Abandoned host file (events ++ [event]) <->
      Abandoned host file events ∨
        exists number, event = .drop number ∧
          ((start host file).after events).Unfinished number := by
  constructor
  · rintro ⟨earlier, number, hprefix, hunfinished⟩
    rcases List.prefix_concat_iff.mp hprefix with heq | hprefix
    · rcases List.append_inj' heq rfl with ⟨rfl, hevent⟩
      exact .inr ⟨number, (List.singleton_inj.mp hevent).symm, hunfinished⟩
    · exact .inl ⟨earlier, number, hprefix, hunfinished⟩
  · rintro (⟨earlier, number, hprefix, hunfinished⟩ | ⟨number, rfl, hunfinished⟩)
    · exact ⟨earlier, number, hprefix.trans (List.prefix_append _ _), hunfinished⟩
    · exact ⟨events, number, List.prefix_rfl, hunfinished⟩

theorem not_abandoned_nil : ¬ Abandoned host file [] := by
  rintro ⟨earlier, number, hprefix, _⟩
  exact absurd (List.prefix_nil.mp hprefix) (List.append_ne_nil_of_right_ne_nil _ (by simp))

theorem release_not_mem_concat (h : .release ∉ events) (hevent : event ≠ .release) :
    TrafficEvent.release ∉ events ++ [event] := by
  rw [List.mem_append, List.mem_singleton]
  rintro (hmem | heq)
  · exact h hmem
  · exact hevent heq.symm

/-- By induction from the end of the run: each event moves the channel on its course. -/
theorem course_after (host : Host) (file : FileId) (events : List TrafficEvent) :
    Course host file events ((start host file).after events).channel.state := by
  induction events using List.reverseRecOn with
  | nil => exact .opened not_abandoned_nil (List.not_mem_nil)
  | append_singleton events event ih =>
      rw [after_concat]
      generalize ht : (start host file).after events = t at ih ⊢
      rcases channel_step_cases t event with
        ⟨rfl, hafter⟩ | ⟨number, rfl, hunfinished, hafter⟩ | ⟨hrelease, hsettled, hafter⟩
      · rw [hafter]
        exact .released (List.mem_append_right _ (List.mem_singleton_self _))
      · have habandoned : Abandoned host file (events ++ [.drop number]) :=
          abandoned_concat.mpr (.inr ⟨number, rfl, ht ▸ hunfinished⟩)
        rw [hafter]
        generalize hstate : t.channel.state = state at ih
        cases ih with
        | opened hnever hlasting =>
            rw [Channel.state_cancel_opened hstate]
            exact .cancelled habandoned (release_not_mem_concat hlasting nofun)
        | cancelled _ hlasting =>
            rw [Channel.cancel_closed (.inl hstate), hstate]
            exact .cancelled habandoned (release_not_mem_concat hlasting nofun)
        | released hmem =>
            rw [Channel.cancel_closed (.inr hstate), hstate]
            exact .released (List.mem_append_left _ hmem)
      · rw [hafter]
        generalize t.channel.state = state at ih
        cases ih with
        | opened hnever hlasting =>
            refine .opened ?_ (release_not_mem_concat hlasting hrelease)
            rw [abandoned_concat, ht]
            rintro (habandoned | ⟨number, hdrop, hunfinished⟩)
            · exact hnever habandoned
            · exact hsettled number hdrop hunfinished
        | cancelled habandoned hlasting =>
            exact .cancelled (abandoned_concat.mpr (.inl habandoned))
              (release_not_mem_concat hlasting hrelease)
        | released hmem => exact .released (List.mem_append_left _ hmem)

/-!
## The reads after a run
-/

/-- What an event does to the reads. -/
inductive Advance (reads : List AwaitedRead) : TrafficEvent -> List AwaitedRead -> Prop
  | polled {position : Nat} {buffer : List UInt8} {stage : ReadStage} :
      (stage = .settled ∨ exists task, stage = .waiting task) ->
      Advance reads (.poll position buffer) (reads ++ [{ stage := stage, buffer }])
  | worked {number : Nat} {result : Except IoError (List UInt8)} {task : ReadTask}
      {buffer : List UInt8} :
      reads[number]? = some { stage := .waiting task, buffer } ->
      Advance reads (.work number result) (reads.set number { stage := .ready result, buffer })
  | delivered {number : Nat} {piece buffer : List UInt8} :
      reads[number]? = some { stage := .ready (.ok piece), buffer } ->
      Advance reads (.pollAgain number)
        (reads.set number { stage := .settled, buffer := overlay piece buffer })
  | ended {event : TrafficEvent} {number : Nat} {read : AwaitedRead} :
      event = .pollAgain number ∨ event = .drop number -> reads[number]? = some read ->
      Advance reads event (reads.set number { read with stage := .settled })
  | kept {event : TrafficEvent} :
      (forall position buffer, event ≠ .poll position buffer) -> Advance reads event reads

theorem reads_step (t : Traffic) (event : TrafficEvent) :
    Advance t.reads event (t.step event).2.reads := by
  cases event with
  | poll position buffer =>
      rcases t.channel.state.opened_or_refuses with ⟨file, hopened⟩ | ⟨error, hrefuses⟩
      · rw [step, Channel.startRead_opened hopened]
        exact .polled (.inr ⟨_, rfl⟩)
      · rw [step_poll_refused hrefuses]
        exact .polled (.inl rfl)
  | work number result =>
      rw [step]
      split
      · next hread => exact .worked hread
      · exact .kept nofun
  | pollAgain number =>
      rw [step]
      split
      · exact .kept nofun
      · next result buffer hread =>
          cases result with
          | error cause => exact .ended (.inl rfl) hread
          | ok piece =>
              rcases t.channel.state.opened_or_refuses with ⟨file, hopened⟩ | ⟨error, hrefuses⟩
              · rw [Channel.finishWith_opened hopened]
                exact .delivered hread
              · rw [Channel.finishWith_refused hrefuses]
                exact .ended (.inl rfl) hread
      · exact .kept nofun
  | drop number =>
      by_cases hunfinished : t.Unfinished number
      · rcases hunfinished with ⟨read, hread, hstage⟩
        rw [step_drop_unfinished hread hstage]
        exact .ended (.inr rfl) hread
      · rw [step_drop_settled hunfinished]
        exact .kept nofun
  | read position buffer => exact .kept nofun
  | readByte position => exact .kept nofun
  | release => exact .kept nofun
  | edit disk => exact .kept nofun

/-- The buffers that the reads were given, in the order of their first polls. -/
def given (events : List TrafficEvent) : List (List UInt8) :=
  events.filterMap fun
    | .poll _ buffer => some buffer
    | _ => none

theorem given_concat_poll (events : List TrafficEvent) (position : Nat) (buffer : List UInt8) :
    given (events ++ [.poll position buffer]) = given events ++ [buffer] := by
  unfold given
  rw [List.filterMap_append]
  rfl

theorem given_concat (events : List TrafficEvent)
    (hpoll : forall position buffer, event ≠ .poll position buffer) :
    given (events ++ [event]) = given events := by
  have hnothing : given [event] = [] := by
    cases event with
    | poll position buffer => exact absurd rfl (hpoll position buffer)
    | _ => rfl
  unfold given at hnothing ⊢
  rw [List.filterMap_append, hnothing, List.append_nil]

/-- What can have become of a read and of the buffer that it was given. -/
inductive Story (events : List TrafficEvent) (number : Nat) (buffer : List UInt8) :
    AwaitedRead -> Prop
  | waiting {task : ReadTask} : Story events number buffer { stage := .waiting task, buffer }
  | ready {result : Except IoError (List UInt8)} : .work number result ∈ events ->
      Story events number buffer { stage := .ready result, buffer }
  | untouched : Story events number buffer { stage := .settled, buffer }
  | delivered {piece : List UInt8} : .work number (.ok piece) ∈ events ->
      Story events number buffer { stage := .settled, buffer := overlay piece buffer }

/-- Each read of a run has its story. -/
structure Told (events : List TrafficEvent) (reads : List AwaitedRead) : Prop where
  length : reads.length = (given events).length
  story : forall {number read}, reads[number]? = some read ->
    exists buffer, (given events)[number]? = some buffer ∧ Story events number buffer read

theorem Story.concat {buffer : List UInt8} {read : AwaitedRead}
    (h : Story events number buffer read) (event : TrafficEvent) :
    Story (events ++ [event]) number buffer read := by
  cases h with
  | waiting => exact .waiting
  | ready hmem => exact .ready (List.mem_append_left _ hmem)
  | untouched => exact .untouched
  | delivered hmem => exact .delivered (List.mem_append_left _ hmem)

/-- One read goes on with its story, and the others keep theirs. -/
theorem Told.set {reads : List AwaitedRead} {read read' : AwaitedRead} (told : Told events reads)
    (hpoll : forall position buffer, event ≠ .poll position buffer)
    (hread : reads[number]? = some read)
    (hstory : forall buffer, Story events number buffer read ->
      Story (events ++ [event]) number buffer read') :
    Told (events ++ [event]) (reads.set number read') := by
  constructor
  · rw [given_concat events hpoll, List.length_set, told.length]
  · intro other found hfound
    rw [given_concat events hpoll]
    by_cases hsame : number = other
    · subst hsame
      rw [List.getElem?_set_self (List.getElem?_eq_some_iff.mp hread).1] at hfound
      rcases told.story hread with ⟨buffer, hbuffer, hbefore⟩
      exact ⟨buffer, hbuffer, Option.some.inj hfound ▸ hstory buffer hbefore⟩
    · rw [List.getElem?_set_ne hsame] at hfound
      rcases told.story hfound with ⟨buffer, hbuffer, hbefore⟩
      exact ⟨buffer, hbuffer, hbefore.concat event⟩

theorem Told.advance {reads reads' : List AwaitedRead} (told : Told events reads)
    (h : Advance reads event reads') : Told (events ++ [event]) reads' := by
  cases h with
  | @polled position buffer stage hstage =>
      constructor
      · rw [given_concat_poll, List.length_append, List.length_append, told.length]
        rfl
      · intro number read hread
        rw [given_concat_poll]
        by_cases hold : number < reads.length
        · rw [List.getElem?_append_left hold] at hread
          rcases told.story hread with ⟨buffer', hbuffer, hbefore⟩
          rw [List.getElem?_append_left (told.length ▸ hold)]
          exact ⟨buffer', hbuffer, hbefore.concat _⟩
        · have hlast : number = reads.length := by
            have hlt := (List.getElem?_eq_some_iff.mp hread).1
            rw [List.length_append, List.length_singleton] at hlt
            exact Nat.le_antisymm (Nat.le_of_lt_succ hlt) (Nat.le_of_not_lt hold)
          subst hlast
          rw [List.getElem?_concat_length] at hread
          cases hread
          refine ⟨buffer, ?_, ?_⟩
          · rw [told.length, List.getElem?_concat_length]
          · rcases hstage with rfl | ⟨task, rfl⟩
            · exact .untouched
            · exact .waiting
  | worked hread =>
      refine told.set nofun hread ?_
      intro buffer hbefore
      cases hbefore with
      | waiting => exact .ready (List.mem_append_right _ (List.mem_singleton_self _))
  | delivered hread =>
      refine told.set nofun hread ?_
      intro buffer hbefore
      cases hbefore with
      | ready hmem => exact .delivered (List.mem_append_left _ hmem)
  | @ended _ number read hevent hread =>
      have hpoll : forall position buffer, event ≠ .poll position buffer := by
        rcases hevent with rfl | rfl
        · exact nofun
        · exact nofun
      refine told.set hpoll hread ?_
      intro buffer hbefore
      cases hbefore with
      | waiting => exact .untouched
      | ready _ => exact .untouched
      | untouched => exact .untouched
      | delivered hmem => exact .delivered (List.mem_append_left _ hmem)
  | kept hpoll =>
      constructor
      · rw [given_concat events hpoll, told.length]
      · intro number read hread
        rw [given_concat events hpoll]
        rcases told.story hread with ⟨buffer, hbuffer, hbefore⟩
        exact ⟨buffer, hbuffer, hbefore.concat event⟩

theorem told_after (host : Host) (file : FileId) (events : List TrafficEvent) :
    Told events ((start host file).after events).reads := by
  induction events using List.reverseRecOn with
  | nil =>
      constructor
      · rfl
      · intro number read hread
        cases hread
  | append_singleton events event ih =>
      rw [after_concat]
      exact ih.advance (reads_step _ event)

/-!
## Every run
-/

/-- Whatever comes in whatever order: the state of the channel is on its course, each read has
its story, and the next event keeps to the law. -/
theorem lawful_after (host : Host) (file : FileId) (events : List TrafficEvent) :
    Course host file events ((start host file).after events).channel.state ∧
      Told events ((start host file).after events).reads ∧
      forall event, StepLaw ((start host file).after events) event
        (((start host file).after events).step event).1
        ((start host file).after (events ++ [event])) := by
  refine ⟨course_after host file events, told_after host file events, ?_⟩
  intro event
  rw [after_concat]
  exact step_law _ event

/-- The drop of one read closes the channel for another one whose task is done in time. -/
example (host : Host) (file : FileId) :
    (((start host file).after
      [.poll 0 [7], .poll 3 [7], .work 1 (.ok [1]), .drop 0]).step (.pollAgain 1)).1 =
        .answered (.error .cancelled) [7] := rfl

end Traffic
end ByteWindow
