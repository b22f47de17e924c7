import PlanarPipe.Stream.Encoder
import PlanarPipe.Stream.Receiver
import PlanarPipe.Video.Pattern
import PlanarPipe.Command.Duration
import PlanarPipe.Command.Invocation
import PlanarPipe.Command.RawFile
import PlanarPipe.Report.Record
import PlanarPipe.Report.Summary
import PlanarPipe.Posix.Pipe
import PlanarPipe.Fifo.Session
import PlanarPipe.Fifo.Reader
import PlanarPipe.Main
import PlanarPipe.Proofs.Wire.Grammar
import PlanarPipe.Proofs.Wire.Truncation
import PlanarPipe.Proofs.Stream.Persistence
import PlanarPipe.Proofs.Stream.RoundTrip
import PlanarPipe.Proofs.Stream.Acknowledgement
import PlanarPipe.Proofs.Stream.Layout
import PlanarPipe.Proofs.Stream.Discipline
import PlanarPipe.Proofs.Stream.Ledger
import PlanarPipe.Proofs.Fifo.SharedPath
import PlanarPipe.Proofs.Stream.Relay
import PlanarPipe.Proofs.Fifo.Turns
import PlanarPipe.Proofs.Fifo.Independence
import PlanarPipe.Proofs.Fifo.Refusal
import PlanarPipe.Proofs.Fifo.Footprint
import PlanarPipe.Proofs.Stream.Occupancy
import PlanarPipe.Proofs.Stream.Announced
import PlanarPipe.Proofs.Wire.Remainder
import PlanarPipe.Proofs.Command.Read
import PlanarPipe.Proofs.Command.Count
import PlanarPipe.Proofs.Wire.Limit
import PlanarPipe.Proofs.Command.TestStream
import PlanarPipe.Proofs.Command.Summary
import PlanarPipe.Proofs.Video.Rounding
import PlanarPipe.Proofs.Video.Rescaling
import PlanarPipe.Proofs.Video.Ordering
import PlanarPipe.Proofs.Video.Rows
import PlanarPipe.Proofs.Video.Splitting
import PlanarPipe.Proofs.Video.Repainting
import PlanarPipe.Proofs.Video.Motion
import PlanarPipe.Proofs.Text.Reading
import PlanarPipe.Proofs.Command.Duration
import PlanarPipe.Proofs.Command.Refilling
import PlanarPipe.Proofs.Command.WholeFrames
import PlanarPipe.Proofs.Wire.Finality
import PlanarPipe.Proofs.Stream.Tiling
import PlanarPipe.Proofs.Report.Summary
