import ByteWindow.Proofs.Stream.Ledger
import ByteWindow.Stream

/-!
# Numbered streams

Streams have no identity of their own.  To follow them, each stream of a factory gets a
number when it is opened, and its opening and its closing are recorded under that number.
Apart from that a tagged stream does what the stream inside it does.
-/

namespace ByteWindow

theorem Host.turns_record (host : Host) {event : Event} {turn : Turn}
    (h : event.turn? = some turn) : (host.record event).turns = host.turns ++ [turn] := by
  unfold Host.turns
  rw [Host.toList_events_record, List.filterMap_append, List.filterMap_cons_some h]
  rfl

/-- Streams with numbers.  A factory numbers its streams upwards from `next` on.  Opening a
stream and closing it, well or badly, is recorded; nothing else is. -/
structure Numbered {φ τ : Type} [Stream τ] [StreamFactory φ τ] (next : φ -> Nat)
    (number : τ -> Nat) : Prop where
  opened {factory factory' : φ} {stream : τ} {host host' : Host} :
    StreamFactory.openStream factory host = (.ok stream, factory', host') ->
    next factory ≤ number stream ∧ number stream < next factory' ∧
      host'.turns = host.turns ++ [.opened (number stream)]
  refused {factory factory' : φ} {cause : IoError} {host host' : Host} :
    StreamFactory.openStream factory host = (.error cause, factory', host') ->
    next factory ≤ next factory' ∧ host'.turns = host.turns
  skip (stream : τ) (host : Host) (n : Nat) :
    number (Stream.skip stream host n).2.1 = number stream ∧
      (Stream.skip stream host n).2.2.turns = host.turns
  read (stream : τ) (host : Host) (length : Nat) :
    number (Stream.read stream host length).2.1 = number stream ∧
      (Stream.read stream host length).2.2.turns = host.turns
  close (stream : τ) (host : Host) :
    (Stream.close stream host).2.turns = host.turns ++ [.closed (number stream)]

/-- A stream under a number. -/
structure Tagged (τ : Type) where
  number : Nat
  stream : τ

/-- A factory that tags its streams, `next` being the first number that is free. -/
structure Tagging (φ : Type) where
  factory : φ
  next : Nat := 0

variable {φ τ : Type} [Stream τ] [StreamFactory φ τ]

instance : Stream (Tagged τ) where
  read s host length :=
    match Stream.read s.stream host length with
    | (result, stream, host') =>
        (result, { s with stream }, { host' with events := host.events })
  skip s host n :=
    match Stream.skip s.stream host n with
    | (result, stream, host') =>
        (result, { s with stream }, { host' with events := host.events })
  close s host :=
    match Stream.close s.stream host with
    | (result, host') =>
        (result, { host' with events := host.events }.record (.closed s.number))

/-- Open a stream of the factory inside and give it the next number. -/
def Tagging.openStream (s : Tagging φ) (host : Host) :
    Except IoError (Tagged τ) × Tagging φ × Host :=
  match StreamFactory.openStream s.factory host with
  | (.ok stream, factory, host') =>
      (.ok { number := s.next, stream }, { factory, next := s.next + 1 },
        { host' with events := host.events }.record (.opened s.next))
  | (.error cause, factory, host') =>
      (.error cause, { s with factory }, { host' with events := host.events })

instance : StreamFactory (Tagging φ) (Tagged τ) where
  openStream := Tagging.openStream

/-- Tagged streams are numbered, whatever the streams inside them do. -/
theorem Tagged.numbered : Numbered (Tagging.next (φ := φ)) (Tagged.number (τ := τ)) where
  opened := by
    intro factory factory' stream host host' h
    change factory.openStream host = _ at h
    unfold Tagging.openStream at h
    split at h
    · cases h
      exact ⟨Nat.le_refl _, Nat.lt_succ_self _, Host.turns_record _ rfl⟩
    · cases h
  refused := by
    intro factory factory' cause host host' h
    change factory.openStream host = _ at h
    unfold Tagging.openStream at h
    split at h
    · cases h
    · cases h
      exact ⟨Nat.le_refl _, rfl⟩
  skip := fun _ _ _ => ⟨rfl, rfl⟩
  read := fun _ _ _ => ⟨rfl, rfl⟩
  close := fun _ _ => Host.turns_record _ rfl

end ByteWindow
