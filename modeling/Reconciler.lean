import Reconciler.Lib.Buckets
import Reconciler.Model.Status
import Reconciler.Model.Entity
import Reconciler.Model.Sequence
import Reconciler.Scheduler.Processable
import Reconciler.Scheduler.Result
import Reconciler.Lib.KeyValue
import Reconciler.Scheduler.Repository
import Reconciler.Scheduler.Persistent
import Reconciler.Scheduler.Creation
import Reconciler.Scheduler.Comparison
import Reconciler.Lib.Transition
import Reconciler.Scheduler.Mothership
import Reconciler.Scheduler.Ordering
import Reconciler.Scheduler.Invoker
import Reconciler.Lib.Snapshot
import Reconciler.Scheduler.OperationRow
import Reconciler.Cluster.Inventory
import Reconciler.Lib.SnapshotWrites
import Reconciler.Cluster.Transition
import Reconciler.Lib.Regex
import Reconciler.Db.Validator
import Reconciler.Lib.Sql.Lexer
import Reconciler.Lib.Sql.Parser
import Reconciler.Lib.Sql.Eval
import Reconciler.Db.Query
import Reconciler.Cluster.StatusChanges
import Reconciler.Lib.Window
import Reconciler.Cluster.Retries
import Reconciler.Db.Transaction
import Reconciler.Db.Builder
import Reconciler.Scheduler.Cleaner
import Reconciler.Lib.Duration
import Reconciler.Cluster.Selection
import Reconciler.Cluster.Runs
import Reconciler.Lib.GoSlice
import Reconciler.Kubernetes.Resource
import Reconciler.Db.Encrypt
import Reconciler.Chart.Component
import Reconciler.Lib.NestedMap
import Reconciler.Ory.Db
import Reconciler.Kubernetes.Visit
import Reconciler.Service.PvcInterceptor
import Reconciler.Kubernetes.Unstructured
import Reconciler.Heartbeat.Run
import Reconciler.Heartbeat.Phases
import Reconciler.Scheduler.Filter
import Reconciler.Scheduler.Bookkeeper
import Reconciler.Istio.Reset
import Reconciler.Lib.Decimal
import Reconciler.Istio.Action
import Reconciler.Kubernetes.Ready
import Reconciler.Kubernetes.Progress
import Reconciler.Lib.Retry
import Reconciler.Kubernetes.Deploy
import Reconciler.Cluster.Scheduling
import Reconciler.Config.Entity
import Reconciler.Config.Store
import Reconciler.Config.Spec
import Reconciler.Config.Runs
