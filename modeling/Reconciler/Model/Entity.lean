import Reconciler.Model.Status

/-!
# Entities of the inventory and of the scheduler

The records of `pkg/model` and `pkg/keb` that the modelled functions read and write.
Go's `int64` fields become `Int`, timestamps become `Nat` (milliseconds, `0` standing for
Go's zero `time.Time`), and a JSON value of a component configuration is kept opaque as
its `String` rendering.  Pointers are modelled by the values they point to: the code
never compares them by address.

The fields default to Go's zero values, as in a struct literal that leaves them out; a
field of an enumeration type has no default.
-/

namespace Reconciler

/-! ## The KEB request model -/

/-- `keb.Configuration`, one configuration entry of a component. -/
structure Configuration where
  key : String := ""
  secret : Bool := false
  value : String := ""
  deriving DecidableEq, Repr

/-- `keb.Component`. -/
structure Component where
  url : String := ""
  component : String := ""
  configuration : List Configuration := []
  /-- `Namespace`, the Kubernetes namespace the component is installed into. -/
  componentNamespace : String := ""
  version : String := ""
  deriving DecidableEq, Repr

/-- `keb.RuntimeInput`. -/
structure RuntimeInput where
  description : String := ""
  name : String := ""
  deriving DecidableEq, Repr

/-- `keb.Metadata`. -/
structure Metadata where
  globalAccountID : String := ""
  instanceID : String := ""
  region : String := ""
  serviceID : String := ""
  servicePlanID : String := ""
  servicePlanName : String := ""
  shootName : String := ""
  subAccountID : String := ""
  deriving DecidableEq, Repr

/-- `keb.KymaConfig`. -/
structure KymaConfig where
  administrators : List String := []
  components : List Component := []
  profile : String := ""
  version : String := ""
  deriving DecidableEq, Repr

/-- `keb.Cluster`, the body of a create-or-update request. -/
structure Cluster where
  kubeconfig : String := ""
  kymaConfig : KymaConfig := {}
  metadata : Metadata := {}
  runtimeID : String := ""
  runtimeInput : RuntimeInput := {}
  deriving DecidableEq, Repr

/-! ## Inventory entities -/

/-- `model.ClusterEntity`, one version of a cluster. -/
structure ClusterEntity where
  version : Int := 0
  runtimeID : String := ""
  runtime : RuntimeInput := {}
  metadata : Metadata := {}
  kubeconfig : String := ""
  contract : Int := 0
  deleted : Bool := false
  created : Nat := 0
  deriving DecidableEq, Repr

/-- `model.ClusterConfigurationEntity`, one configuration version of a cluster version. -/
structure ClusterConfigurationEntity where
  version : Int := 0
  runtimeID : String := ""
  clusterVersion : Int := 0
  kymaVersion : String := ""
  kymaProfile : String := ""
  components : List Component := []
  administrators : List String := []
  contract : Int := 0
  deleted : Bool := false
  created : Nat := 0
  deriving DecidableEq, Repr

/-- `model.ClusterStatusEntity`, one row of the append-only status history. -/
structure ClusterStatusEntity where
  id : Int := 0
  runtimeID : String := ""
  clusterVersion : Int := 0
  configVersion : Int := 0
  status : Status
  deleted : Bool := false
  created : Nat := 0
  deriving DecidableEq, Repr

/-- `cluster.State`: a cluster version, one of its configurations and that
configuration's latest status. -/
structure ClusterState where
  cluster : ClusterEntity := {}
  configuration : ClusterConfigurationEntity := {}
  status : ClusterStatusEntity
  deriving DecidableEq, Repr

/-! ## Scheduler entities -/

/-- `model.ReconciliationEntity`. -/
structure ReconciliationEntity where
  lock : String := ""
  runtimeID : String := ""
  clusterConfig : Int := 0
  clusterConfigStatus : Int := 0
  finished : Bool := false
  schedulingID : String := ""
  created : Nat := 0
  updated : Nat := 0
  /-- `none` is the empty status string, which a reconciliation keeps until it is finished
  where the repository does not copy the cluster status into it. -/
  status : Option Status := none
  deriving DecidableEq, Repr

/-- `model.OperationEntity`. -/
structure OperationEntity where
  priority : Int := 0
  schedulingID : String := ""
  correlationID : String := ""
  runtimeID : String := ""
  clusterConfig : Int := 0
  component : String := ""
  type : OperationType
  state : OperationState
  reason : String := ""
  created : Nat := 0
  updated : Nat := 0
  pickedUp : Nat := 0
  processingDuration : Int := 0
  retries : Int := 0
  retryID : String := ""
  debug : Bool := false
  deriving DecidableEq, Repr

namespace OperationEntity

/-- The pair `(schedulingID, correlationID)` that addresses an operation. -/
def key (op : OperationEntity) : String × String :=
  (op.schedulingID, op.correlationID)

@[simp] theorem key_fst (op : OperationEntity) : op.key.1 = op.schedulingID := rfl

@[simp] theorem key_snd (op : OperationEntity) : op.key.2 = op.correlationID := rfl

end OperationEntity

end Reconciler
