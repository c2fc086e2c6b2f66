import FacetsNode.Relay.Properties.Sequencing
import FacetsNode.Relay.Properties.Quota
import FacetsNode.Relay.Properties.Retry
import FacetsNode.Storage.Capacity
import FacetsNode.Custody.Convergence
import FacetsNode.SharedSpaces.Log
import FacetsNode.ComputePool.Store
import FacetsNode.ComputePool.Lifecycle
import FacetsNode.ComputePool.Policy
import FacetsNode.Box.Authorization
import FacetsNode.ComputeQueue.History
import FacetsNode.ComputeQueue.Leases
import FacetsNode.ServiceAuthority.MutationGate
import FacetsNode.JobCustody.Locks
import FacetsNode.SharedSpaces.Equivalence
import FacetsNode.BackupCustody.ClockOrder
import FacetsNode.Box.Repeats
