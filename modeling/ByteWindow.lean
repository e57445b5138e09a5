import ByteWindow.Error.Consumer
import ByteWindow.Source.Memory
import ByteWindow.Source.Buffer
import ByteWindow.Source.Positional
import ByteWindow.Source.Channel
import ByteWindow.Source.SeekThenRead
import ByteWindow.Stream.FileCursor
import ByteWindow.Source.Pool
import ByteWindow.View
import ByteWindow.View.Transfer
import ByteWindow.Reader
import ByteWindow.Reader.Drain
import ByteWindow.Command.Run
import ByteWindow.Text.Elapsed
import ByteWindow.Main
import ByteWindow.Scripted.Source
import ByteWindow.Scripted.Cursor
import ByteWindow.Scripted.Stream
import ByteWindow.Scripted.Sink
import ByteWindow.Scripted.Listener
import ByteWindow.Scenario.Views
import ByteWindow.Scenario.Direct
import ByteWindow.Scenario.Sharing
import ByteWindow.Proofs.Pool.Alignment
import ByteWindow.Proofs.Stream.Numbered
import ByteWindow.Proofs.Pool.Custody
import ByteWindow.Proofs.Pool.Reliability
import ByteWindow.Proofs.Pool.Safekeeping
import ByteWindow.Proofs.Source.Logged
import ByteWindow.Proofs.View.Confinement
import ByteWindow.Proofs.Source.Deliveries
import ByteWindow.Proofs.View.FullRead
import ByteWindow.Proofs.Reader.EndOfData
import ByteWindow.Proofs.Reader.Interruption
import ByteWindow.Proofs.Source.Faithful
import ByteWindow.Proofs.Stream.Reliable
import ByteWindow.Proofs.Source.Seeking
import ByteWindow.Proofs.View.Checked
import ByteWindow.Proofs.View.Arithmetic
import ByteWindow.Proofs.View.Bounds
import ByteWindow.Proofs.View.Family
import ByteWindow.Proofs.View.Lifecycle
import ByteWindow.Proofs.View.Answers
import ByteWindow.Proofs.View.Interchange
import ByteWindow.Proofs.View.Awaiting
import ByteWindow.Proofs.Shared.Telling
import ByteWindow.Proofs.Shared.Chronicle
import ByteWindow.Proofs.Shared.Lifetime
import ByteWindow.Proofs.Pool.Failures
import ByteWindow.Proofs.Source.Sound
import ByteWindow.Proofs.Reader.Cursor
import ByteWindow.Proofs.View.Inert
import ByteWindow.Proofs.Pool.Passage
import ByteWindow.Proofs.View.Nesting
import ByteWindow.Proofs.Command.Printing
import ByteWindow.Proofs.View.Moments
import ByteWindow.Proofs.View.Orderly
import ByteWindow.Proofs.View.ExactPrefix
import ByteWindow.Proofs.Stream.Watched
import ByteWindow.Proofs.Source.Settling
import ByteWindow.Proofs.View.SingleByte
import ByteWindow.Proofs.Source.Traffic
import ByteWindow.Proofs.Pool.Register
import ByteWindow.Proofs.View.EarlyEnds
import ByteWindow.Proofs.View.Freeing
import ByteWindow.Proofs.View.Effort
import ByteWindow.Proofs.Pool.Skipping
import ByteWindow.Proofs.Command.Readback
import ByteWindow.Proofs.View.OwnBytes
