import ByteWindow.Source

/-!
# Buffers that own their memory

A buffer holds bytes of its own, or a file mapped into memory.  Releasing it frees the
bytes, then hands the memory to a reclaimer, if there is one, and then frees the
resources that were attached to it, in the order in which they were attached.  A
reclaimer that refuses is reported and changes nothing else.
-/

namespace ByteWindow

/-- Where the bytes of a buffer are. -/
inductive Storage
  /-- The buffer has bytes of its own. -/
  | owned (bytes : Array UInt8)
  /-- The buffer shows the first bytes of a file. -/
  | mapped (file : FileId) (length : Nat)
  deriving Inhabited

/-- The bytes that a storage shows.  A mapped file keeps its length; what the file no
longer covers reads as zero. -/
def Storage.bytes (storage : Storage) (disk : Disk) : Array UInt8 :=
  match storage with
  | owned bytes => bytes
  | mapped file length =>
      let bytes := disk.bytes file
      if bytes.size = length then bytes
      else bytes.extract 0 length ++ Array.replicate (length - bytes.size) 0

/-- Somebody who takes the memory of a released buffer back. -/
inductive Reclaimer
  | accepting
  | refusing (reason : String)
  deriving Inhabited

/-- A source that owns memory. -/
structure Buffer where
  /-- The bytes, until they are freed. -/
  storage : Option Storage
  /-- The number of bytes. -/
  size : Nat
  /-- Whether the freeing of the bytes is recorded. -/
  watched : Bool := false
  reclaimer : Option Reclaimer := none
  /-- The names of the resources attached to the buffer. -/
  resources : List String := []
  deriving Inhabited

namespace Buffer

/-- A buffer over bytes of its own. -/
def ofBytes (bytes : Array UInt8) : Buffer :=
  { storage := some (.owned bytes), size := bytes.size }

/-- A buffer over a file mapped at its present length.  An empty file has nothing to map. -/
def ofFile (disk : Disk) (file : FileId) : Buffer :=
  let length := disk.size file
  { storage := some (if length = 0 then .owned #[] else .mapped file length), size := length }

/-- Free the bytes, once. -/
def freeBytes (s : Buffer) (host : Host) : Host :=
  if s.watched && s.storage.isSome then host.record .bufferFreed else host

/-- Hand the memory to the reclaimer, if there is one. -/
def reclaim (s : Buffer) (host : Host) : Host :=
  match s.reclaimer with
  | none => host
  | some .accepting => host.record (.reclaimed s.size)
  | some (.refusing reason) =>
      (host.record (.reclaimed s.size)).note (.reclaimFailed s.size reason)

/-- Free the attached resources in order. -/
def freeResources (s : Buffer) (host : Host) : Host :=
  host.recordAll (s.resources.map .resourceFreed)

/-- Free the bytes, offer the memory to the reclaimer and free the resources. -/
def release (s : Buffer) (host : Host) : Except Error Unit × Buffer × Host :=
  (.ok (), { s with storage := none, resources := [] },
    s.freeResources (s.reclaim (s.freeBytes host)))

/-- The bytes of a buffer that is not yet released. -/
def bytes? (s : Buffer) (host : Host) : Except Error (Array UInt8) :=
  match s.storage with
  | some storage => .ok (storage.bytes host.disk)
  | none => .error .released

instance : Source Buffer where
  release := release
  size := Buffer.size
  readAt s host position buffer :=
    match s.bytes? host with
    | .ok bytes => .deliveredOrEnd (slice bytes position buffer.length) buffer s host
    | .error error => .failed error buffer s host
  readByteAt s host position :=
    match s.bytes? host with
    | .ok bytes => (.ok bytes[position]?, s, host)
    | .error error => (.error error, s, host)
  discard s host := s.freeResources (s.freeBytes host)

end Buffer
end ByteWindow
