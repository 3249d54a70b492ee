import Smr.Cluster.Agreement
import Smr.Cluster.Validity
import Smr.Cluster.Oracle
import Smr.Cluster.Replies
import Smr.Cluster.Forwarding
import Smr.Cluster.Placing
import Smr.Cluster.Leadership
import Smr.Cluster.KnownLeader
import Smr.Cluster.Slots
import Smr.Cluster.Gossip
import Smr.Node.Restart
import Smr.Node.Rebuilt
import Smr.Node.Waiting
import Smr.Runtime.SmrRuntime
import Smr.Runtime.NextInstance
import Smr.Runtime.Rejection
import Smr.Runtime.InOrder
import Smr.Synod.AcceptorRuns
import Smr.Synod.LearnerRuns
import Smr.Node.Ballots
import Smr.Node.Termination
import Smr.Node.Failures
import Smr.Runtime.LostAppends
import Smr.Cluster.Refusals
import Smr.Storage.Scan
import Smr.Storage.Records
import Smr.Channel.Isolation
import Smr.Cluster.Conformance
import Smr.Deployment.Deadlock
import Smr.Deployment.Replication
import Smr.Cluster.Winners
import Smr.Node.Overflow
import Smr.Deployment.Crashes
import Smr.Deployment.Linearizable
import Smr.Deployment.Repeats
import Smr.Counter.CounterStateMachine
import Smr.Counter.Counter
import Smr.KvStore.InnerStateMachine
import Smr.KvStore.KvStore
