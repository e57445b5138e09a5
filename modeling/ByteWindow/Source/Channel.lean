import ByteWindow.Source

/-!
# Files read through a channel

A channel reads an open file by position, and it can do so without blocking: a started
read waits until somebody finishes it.  Abandoning a waiting read closes the channel for
everybody, for it cannot be told what the read still does.  A cancelled channel can only
be released, and a released one stays released.  A read that is finished after the
channel was closed delivers nothing.
-/

namespace ByteWindow

/-- The states of a channel to a file. -/
inductive ChannelState
  | opened (file : FileId)
  | cancelled
  | released
  deriving DecidableEq, Inhabited

namespace ChannelState

/-- The file behind an open channel. -/
def file? : ChannelState -> Except Error FileId
  | opened file => .ok file
  | cancelled => .error .cancelled
  | released => .error .released

end ChannelState

/-- A source that reads an open file through a channel. -/
structure Channel where
  state : ChannelState
  size : Nat
  deriving Inhabited

namespace Channel

/-- Read an open file through a new channel. -/
def ofFile (disk : Disk) (file : FileId) : Channel :=
  { state := .opened file, size := disk.size file }

/-- Close the channel because a waiting read was abandoned.  A channel that is already
closed stays as it is. -/
def cancel (s : Channel) (host : Host) : Channel × Host :=
  match s.state with
  | .opened _ => ({ s with state := .cancelled }, host.note .readCancelled)
  | _ => (s, host)

/-- Read the file on the calling side. -/
def readAt (s : Channel) (host : Host) (position : Nat) (buffer : List UInt8) :
    Reading (Option Nat) Channel :=
  match s.state.file? with
  | .error error => .failed error buffer s host
  | .ok file =>
      match host.disk.readAt file position buffer.length with
      | .ok piece => .deliveredOrEnd piece buffer s host
      | .error cause => .failed (.io cause) buffer s host

/-- Start a read; on a closed channel it fails at once. -/
def startRead (s : Channel) (host : Host) (position : Nat) (buffer : List UInt8) :
    Started Channel :=
  match s.state.file? with
  | .error error => .finished (.failed error buffer s host)
  | .ok file => .waiting { file, position, length := buffer.length } s host

/-- Finish a started read.  A failure of the file is reported before the state of the
channel, and the piece is delivered only if the channel is still open. -/
def finishRead (task : ReadTask) (s : Channel) (host : Host) (buffer : List UInt8) :
    Reading (Option Nat) Channel :=
  match host.disk.readAt task.file task.position task.length with
  | .error cause => .failed (.io cause) buffer s host
  | .ok piece =>
      match s.state.file? with
      | .error error => .failed error buffer s host
      | .ok _ => .deliveredOrEnd piece buffer s host

instance : Source Channel where
  release s host := (.ok (), { s with state := .released }, host)
  size := Channel.size
  readAt := readAt
  startRead := startRead
  finishRead := finishRead
  abandonRead := cancel

end Channel
end ByteWindow
