import Conduit.Benchmark
import Conduit.Config.Document
import Conduit.Config.Reader
import Conduit.Main
import Conduit.Proofs.Queue.Sections
import Conduit.Proofs.Queue.Transitions
import Conduit.Proofs.Queue.Wakes
import Conduit.Ring.Lemmas
import Conduit.Scenario.Report
import Conduit.Stress
import Conduit.Proofs.Queue.Work
import Conduit.Proofs.Queue.Orderly
import Conduit.Proofs.Queue.Runs
import Conduit.Proofs.Queue.Accounting
import Conduit.Proofs.Queue.Wakeups
import Conduit.Proofs.Queue.Refinement
import Conduit.Proofs.Queue.Ledger
import Conduit.Proofs.Queue.Calls
import Conduit.Proofs.Queue.Conservation
import Conduit.Proofs.Queue.Failures
import Conduit.Proofs.Queue.FailStop
import Conduit.Proofs.Queue.Resting
import Conduit.Proofs.Queue.Settling
import Conduit.Proofs.World.Runs
import Conduit.Proofs.Queue.EndOfStream
import Conduit.Proofs.World.Tasks
import Conduit.Proofs.World.EndOfStream
import Conduit.Proofs.World.Stages
import Conduit.Proofs.World.Pipelines
import Conduit.Proofs.Queue.Reports
import Conduit.Proofs.Queue.Events
import Conduit.Proofs.Queue.Recast
import Conduit.Proofs.Queue.Shutdown
import Conduit.Proofs.Queue.Suspension
import Conduit.Proofs.Queue.Unwinding
import Conduit.Proofs.World.Causes
import Conduit.Proofs.World.Effort
import Conduit.Proofs.World.Shutdown
import Conduit.Proofs.Ring.BoundedList
import Conduit.Proofs.Ring.Slots
import Conduit.Proofs.Ring.Words
import Conduit.Proofs.Queue.Families
import Conduit.Proofs.Queue.Entries
import Conduit.Proofs.Queue.Waiters
import Conduit.Proofs.Queue.TimedWaits
import Conduit.Proofs.Queue.Draining
import Conduit.Proofs.Queue.Preloading
import Conduit.Proofs.World.Channels
import Conduit.Proofs.World.Blocked
import Conduit.Proofs.World.Mirrors
import Conduit.Proofs.World.Routes
import Conduit.Proofs.World.FailingConsumer
import Conduit.Proofs.Benchmark.Seats
import Conduit.Proofs.Benchmark.Throughput
import Conduit.Proofs.Benchmark.RoundTrip
import Conduit.Proofs.Json.Tokens
import Conduit.Proofs.Json.Values
import Conduit.Proofs.Config.Documents
import Conduit.Proofs.Config.RoundTrip
