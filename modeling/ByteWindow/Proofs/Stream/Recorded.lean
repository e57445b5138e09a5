import ByteWindow.Stream

/-!
# Streams that keep a record of their skips

A recorded stream does what the stream inside it does, and writes down what it was told to skip
and what it answered.
-/

namespace ByteWindow

/-- A stream was told to skip so many bytes, and gave an answer. -/
structure SkipCall where
  wanted : Nat
  result : Except IoError Nat

/-- A stream with the skips that it was told to make so far. -/
structure Recorded (τ : Type) where
  stream : τ
  skips : List SkipCall := []

namespace Recorded

variable {τ : Type} [Stream τ]

instance : Stream (Recorded τ) where
  read s host length :=
    match Stream.read s.stream host length with
    | (result, stream, host) => (result, { s with stream }, host)
  skip s host n :=
    match Stream.skip s.stream host n with
    | (result, stream, host) =>
        (result, { stream, skips := s.skips ++ [{ wanted := n, result }] }, host)
  close s host := Stream.close s.stream host

variable {s s' s'' : Recorded τ} {host host' : Host} {n : Nat}

theorem skip_eq {stream stream' : τ} {skips : List SkipCall} {result : Except IoError Nat}
    (h : Stream.skip stream host n = (result, stream', host')) :
    Stream.skip ({ stream, skips } : Recorded τ) host n =
      (result, { stream := stream', skips := skips ++ [{ wanted := n, result }] }, host') := by
  simp only [Stream.skip, h]

theorem skips_of_skip {result : Except IoError Nat}
    (h : Stream.skip s host n = (result, s', host')) :
    s'.skips = s.skips ++ [{ wanted := n, result }] := by
  cases h
  rfl

end Recorded
end ByteWindow
