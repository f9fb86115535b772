import Lockstep.Cluster.Run
import Lockstep.Identity
import Lockstep.Main
import Lockstep.Proofs.Barrier.Counted
import Lockstep.Proofs.Barrier.Reuse
import Lockstep.Proofs.Barrier.Withdrawal
import Lockstep.Proofs.Server.Counted
import Lockstep.Proofs.Server.Erasure
import Lockstep.Proofs.Server.Release
import Lockstep.Registry.Run
import Lockstep.RuntimeEnvironment
import Lockstep.Shutdown
import Lockstep.Proofs.Registry.Callers
import Lockstep.Proofs.Registry.Independent
import Lockstep.Proofs.Frame.Stream
import Lockstep.Proofs.Session.Answers
import Lockstep.Proofs.Server.Lines
import Lockstep.Proofs.Server.Conversation
import Lockstep.Proofs.Server.Order
import Lockstep.Proofs.Json.Literals
import Lockstep.Proofs.Barrier.Results
import Lockstep.Proofs.Json.Written
import Lockstep.Proofs.Message.RoundTrip
import Lockstep.Proofs.Remote.Answers
import Lockstep.Proofs.Remote.Refinement
import Lockstep.Proofs.Remote.Shutdown
import Lockstep.Proofs.Frame.Chunks
import Lockstep.Proofs.Message.Delivery
import Lockstep.Proofs.Client.OwnAnswers
import Lockstep.Proofs.Client.Severed
import Lockstep.Proofs.Server.Failures
import Lockstep.Proofs.Server.Handshake
import Lockstep.Proofs.Session.Endings
import Lockstep.Proofs.Server.WindingDown
import Lockstep.Proofs.Frame.Endings
import Lockstep.Proofs.Settings.Identity
import Lockstep.Proofs.Settings.Flags
import Lockstep.Proofs.Server.Pipelining
import Lockstep.Proofs.Barrier.Deadlines
import Lockstep.Proofs.Server.Overdue
import Lockstep.Proofs.Server.Malformed
import Lockstep.Proofs.Frame.Whenever
import Lockstep.Proofs.Secret.Canonical
import Lockstep.Proofs.Settings.Besides
import Lockstep.Proofs.Settings.Interchange
import Lockstep.Proofs.Json.Spelling
import Lockstep.Proofs.Json.Layout
import Lockstep.Proofs.Json.Members
import Lockstep.Proofs.Message.Layout
import Lockstep.Proofs.Barrier.Accounts
import Lockstep.Proofs.Registry.Metrics
