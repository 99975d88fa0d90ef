import Courier.Main
import Courier.Trial.FlowControl
import Courier.Trial.Stream
import Courier.Wire.Request
import Courier.Proofs.Credits.Traffic
import Courier.Proofs.Credits.Conservation
import Courier.Proofs.Credits.Starvation
import Courier.Proofs.World.Motion
import Courier.Proofs.Publishing.PublisherMoves
import Courier.Proofs.Publishing.Outlay
import Courier.Proofs.Publishing.Accounts
import Courier.Proofs.Intake.PumpMoves
import Courier.Proofs.Intake.WorkerMoves
import Courier.Proofs.Publishing.Progress
import Courier.Proofs.World.SessionMoves
import Courier.Proofs.Publishing.Reports
import Courier.Proofs.World.Publishing
import Courier.Proofs.Intake.Counters
import Courier.Proofs.World.Frames
import Courier.Proofs.Intake.Staff
import Courier.Proofs.Intake.Handling
import Courier.Proofs.World.Closing
import Courier.Proofs.World.Receiving
import Courier.Proofs.Credits.Clients
import Courier.Proofs.World.Cancelling
import Courier.Proofs.World.Control
import Courier.Proofs.Publishing.Untroubled
import Courier.Proofs.World.Endings
import Courier.Proofs.World.Aftermath
import Courier.Proofs.World.Interrupting
import Courier.Proofs.World.Bookkeeping
import Courier.Proofs.World.Runs
import Courier.Proofs.World.Handover
import Courier.Proofs.Ledger.Reading
import Courier.Proofs.World.Receipts
import Courier.Proofs.World.Offers
import Courier.Proofs.Publishing.SingleFile
import Courier.Proofs.World.Concurrency
import Courier.Proofs.Publishing.Ceasing
import Courier.Proofs.World.Ceasing
import Courier.Proofs.Publishing.Fates
import Courier.Proofs.World.Fates
import Courier.Proofs.World.Answers
import Courier.Proofs.World.Conversation
import Courier.Proofs.Publishing.Retries
import Courier.Proofs.Intake.Filling
import Courier.Proofs.World.Passing
import Courier.Proofs.Ledger.Recorders
import Courier.Proofs.Wire.RoundTrip
import Courier.Proofs.Envelope.RoundTrip
import Courier.Proofs.Payload.Attribution
import Courier.Proofs.Payload.Batches
import Courier.Proofs.World.Pacing
import Courier.Proofs.Statistics.Means
import Courier.Proofs.World.Rejections
import Courier.Proofs.Span.Grammar
import Courier.Proofs.CommandLine.Entries
import Courier.Proofs.Address.Search
import Courier.Proofs.Address.Layout
