import PhantomPass.Deployment
import PhantomPass.Refinement.Granting
import PhantomPass.Refinement.SendData
import PhantomPass.Credit.SendOrder
import PhantomPass.Credit.RecvLedger
import PhantomPass.Delivery.Collection
import PhantomPass.Switch.Marking
import PhantomPass.Switch.PhantomQueue
import PhantomPass.Tofino.Registers
import PhantomPass.Tofino.Simulator
import PhantomPass.Tofino.Checksums
import PhantomPass.Policy.Shares
import PhantomPass.Congestion.Recurrence
import PhantomPass.Network.Crediting
import PhantomPass.Network.Senders
import PhantomPass.Network.Conservation
import PhantomPass.Policy.Choice
import PhantomPass.Network.Activation
import PhantomPass.Granting.Sorted
import PhantomPass.Granting.TimeSharing
import PhantomPass.Network.Policies
import PhantomPass.Network.Paths
import PhantomPass.Network.Debts
import PhantomPass.Hybrid.Vectors
import PhantomPass.Switch.Forwarding
import PhantomPass.Baseline.LeakyBucket
import PhantomPass.Baseline.ConnectionPool
import PhantomPass.Baseline.Router
import PhantomPass.Switch.DropTail
import PhantomPass.Switch.PPassQueue
import PhantomPass.Tracing.Runs
import PhantomPass.Network.Delivery
import PhantomPass.Network.Rest
import PhantomPass.Credit.Overhead
import PhantomPass.Network.Completion
import PhantomPass.Xpass.Throttle
import PhantomPass.Xpass.Pacing
import PhantomPass.Homa.Exchange
