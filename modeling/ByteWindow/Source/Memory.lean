import ByteWindow.Source

/-!
# Bytes in memory

The simplest source: an array of bytes.  It holds nothing that has to be given back.
-/

namespace ByteWindow

/-- A source that is an array of bytes. -/
structure Memory where
  bytes : Array UInt8
  deriving Inhabited

instance : Source Memory where
  size s := s.bytes.size
  readAt s host position buffer :=
    if position < s.bytes.size then
      .delivered (slice s.bytes position buffer.length) buffer s host
    else
      .nothing buffer s host
  readByteAt s host position := (.ok s.bytes[position]?, s, host)

end ByteWindow
