import Reconciler.Kubernetes.Progress
import Reconciler.Service.PvcInterceptor
import Reconciler.Lib.Retry

/-!
# Deploying a manifest

`kubeClientAdapter.Deploy` (`pkg/reconciler/kubernetes/adapter.go`) decodes a manifest, adds the
namespace the resources go to, lets the interceptors change the resources, converts each to a
`resource.Info`, and updates them one after another through the Helm client, with the update
strategy that `DefaultUpdateStrategyResolver` picks for each and `retry.Do` around every update.
Each resource of a watchable kind goes to a progress tracker, which at the end waits until all
of them are ready.

A `resource.Info` is modelled by its object, with the namespace `convertToInfo` gave it.  What
the API server and the Helm client answer is a parameter, `Api`; so are the states of the
cluster that the tracker's checks read and the events its `select` takes, as in
`Reconciler.Kubernetes.Progress`.  Helm's `ResourceList.Intersect` and `retry.Do` of
`avast/retry-go` are not part of the repository: they are parameters of `Api` too, with the laws
the deployment relies on.  The calls of the Helm client's `Update` are the trace of a run.

Every call of `Update` is the one the resolver asks for: an existing `Job` is never updated, and
the listed `monitoring.coreos.com/v1` kinds are replaced, not patched.  A deployment ends well
exactly when every stage before the loop succeeds, the tracker can be built, every resource
deploys and a check of the tracker finds every watchable one ready.  The adapter's configuration
does not ensure that the tracker can be built: `NewKubernetesClient` accepts a progress interval
that is not shorter than the timeout, and with it every deployment fails.
-/

namespace Reconciler

open GoSlice Progress

namespace Progress

/-- The text of an `ApiError`. -/
def ApiError.message : ApiError → String
  | .notFound message => message
  | .other message => message

/-- `NewWatchableResource`. -/
def newWatchableResource (kind : String) : Except String WatchableResource :=
  let lowerKind := toLower kind
  if lowerKind = toLower "Deployment" then .ok .deployment
  else if lowerKind = toLower "Pod" then .ok .pod
  else if lowerKind = toLower "DaemonSet" then .ok .daemonSet
  else if lowerKind = toLower "StatefulSet" then .ok .statefulSet
  else if lowerKind = toLower "Job" then .ok .job
  else if lowerKind = toLower "CustomResourceDefinition" then .ok .customResourceDefinition
  else .error ("WatchableResource '" ++ kind ++ "' is not supported")

end Progress

/-- `schema.GroupKind`. -/
structure GroupKind where
  group : String
  kind : String
  deriving DecidableEq, Repr

/-- The group of an object's `apiVersion`: what stands before the slash, if there is one. -/
def Unstructured.group (u : Unstructured) : String :=
  match u.apiVersion.splitOn "/" with
  | [group, _] => group
  | _ => ""

def Unstructured.groupKind (u : Unstructured) : GroupKind :=
  ⟨u.group, u.kind⟩

namespace Kubernetes

/-! ## The configuration -/

-- `progressTrackerInterval`, `progressTrackerTimeout` and `retryDelay` in seconds
def progressTrackerInterval : Int := 5
def progressTrackerTimeout : Int := 120
def maxRetries : Int := 10
def retryDelay : Int := 1

/-- `Config`, with its durations in seconds. -/
structure Config where
  progressInterval : Int
  progressTimeout : Int
  maxRetries : Int
  retryDelay : Int
  deriving DecidableEq, Repr

/-- A duration as `%d` prints it: in nanoseconds. -/
def nanoseconds (seconds : Int) : String :=
  toString (seconds * 1000000000)

/-- `Config.validate`: the configuration with its defaults, or the error. -/
def Config.validate (c : Config) : Except String Config :=
  if c.maxRetries < 0 then
    .error ("config MaxRetries cannot be < 0 (got " ++ toString c.maxRetries ++ ")")
  else if c.retryDelay < 0 then
    .error ("config RetryDelay cannot be < 0 (got " ++ nanoseconds c.retryDelay ++ ")")
  else if c.progressInterval < 0 then
    .error ("config ProgressInterval cannot be < 0 (got " ++ nanoseconds c.progressInterval ++ ")")
  else if c.progressTimeout < 0 then
    .error ("config ProgressTimeout cannot be < 0 (got " ++ nanoseconds c.progressTimeout ++ ")")
  else
    .ok { progressInterval :=
            if c.progressInterval = 0 then progressTrackerInterval else c.progressInterval
          progressTimeout :=
            if c.progressTimeout = 0 then progressTrackerTimeout else c.progressTimeout
          maxRetries := if c.maxRetries = 0 then Kubernetes.maxRetries else c.maxRetries
          retryDelay := if c.retryDelay = 0 then Kubernetes.retryDelay else c.retryDelay }

/-- A duration that is zero takes its default. -/
theorem pos_of_default {default x : Int} (hdefault : 0 < default) (hx : ¬ x < 0) :
    0 < if x = 0 then default else x := by
  split_ifs <;> omega

theorem Config.pos_of_validate {c c' : Config} (h : c.validate = .ok c') :
    0 < c'.progressInterval ∧ 0 < c'.progressTimeout ∧ 0 < c'.maxRetries ∧ 0 < c'.retryDelay := by
  unfold Config.validate at h
  -- only the last branch returns a configuration
  by_cases hm : c.maxRetries < 0
  · simp [hm] at h
  by_cases hr : c.retryDelay < 0
  · simp [hm, hr] at h
  by_cases hi : c.progressInterval < 0
  · simp [hm, hr, hi] at h
  by_cases ht : c.progressTimeout < 0
  · simp [hm, hr, hi, ht] at h
  rw [if_neg hm, if_neg hr, if_neg hi, if_neg ht] at h
  cases h
  exact ⟨pos_of_default (by decide) hi, pos_of_default (by decide) ht,
    pos_of_default (by decide) hm, pos_of_default (by decide) hr⟩

/-- `kubeClientAdapter` as `NewKubernetesClient` builds it: its configuration passed
`validate`. -/
structure KubeClientAdapter where
  config : Config
  validated : ∃ c : Config, c.validate = .ok config

/-- `NewKubernetesClient`, with a nil configuration as the zero one; the clients it builds from
the kubeconfig are left out. -/
def newKubernetesClient (config : Option Config) : Except String KubeClientAdapter :=
  match h : (config.getD ⟨0, 0, 0, 0⟩).validate with
  | .error err => .error err
  | .ok config' => .ok ⟨config', _, h⟩

namespace KubeClientAdapter

variable (g : KubeClientAdapter)

theorem progressInterval_pos : 0 < g.config.progressInterval :=
  (Config.pos_of_validate g.validated.choose_spec).1

theorem progressTimeout_pos : 0 < g.config.progressTimeout :=
  (Config.pos_of_validate g.validated.choose_spec).2.1

theorem maxRetries_pos : 0 < g.config.maxRetries :=
  (Config.pos_of_validate g.validated.choose_spec).2.2.1

/-- `kubeClientAdapter.newProgressTracker`; the clientset is left out. -/
def newProgressTracker : Except String Tracker :=
  Progress.newProgressTracker ⟨g.config.progressInterval, g.config.progressTimeout⟩

/-- The error of `NewProgressTracker` for a timeout that is not longer than the interval. -/
def trackerError : String :=
  "progress tracker will never run because configured timeout " ++
    "is <= as the check interval :" ++ toString g.config.progressTimeout ++ " secs <= " ++
    toString g.config.progressInterval ++ " secs"

/-- The durations of the adapter are positive, so the tracker takes them as they are: it is
built, with nothing to watch, exactly when the interval is shorter than the timeout. -/
theorem newProgressTracker_cases :
    g.config.progressInterval < g.config.progressTimeout ∧
        (∃ pt, g.newProgressTracker = .ok pt ∧ pt.objects = []) ∨
      g.config.progressTimeout ≤ g.config.progressInterval ∧
        g.newProgressTracker = .error g.trackerError := by
  have hi := g.progressInterval_pos
  have ht := g.progressTimeout_pos
  unfold newProgressTracker Progress.newProgressTracker
  split
  · rename_i err hv
    simp only [Progress.Config.validate, show ¬ g.config.progressInterval < 0 by omega,
      show ¬ g.config.progressTimeout < 0 by omega, show g.config.progressInterval ≠ 0 by omega,
      show g.config.progressTimeout ≠ 0 by omega, if_false] at hv
    split_ifs at hv with hle
    cases hv
    exact .inr ⟨hle, rfl⟩
  · rename_i config' hv
    have hlt := (Progress.Config.validate_eq_ok_iff.1 hv).2.2
    simp only [show g.config.progressInterval ≠ 0 by omega,
      show g.config.progressTimeout ≠ 0 by omega, if_false] at hlt
    exact .inl ⟨by rw [← hlt.1, ← hlt.2.1]; exact hlt.2.2.2, _, rfl, rfl⟩

end KubeClientAdapter

/-! ## What the adapter calls -/

/-- The error of a REST mapping: one for a kind the API server does not serve
(`meta.IsNoMatchError`), or another. -/
inductive MappingError
  | noMatch (message : String)
  | other (message : String)
  deriving DecidableEq, Repr

def MappingError.message : MappingError → String
  | .noMatch message => message
  | .other message => message

def MappingError.isNoMatch : MappingError → Bool
  | .noMatch _ => true
  | .other _ => false

/-- What the adapter's calls answer: the REST mapping of an object, given by whether its kind is
namespaced; `resourceInfo.Get` in the update strategy resolver, `none` when the object exists;
the list of the custom resource definitions; the dynamic client's `Get` of an existing custom
resource; and the Helm client's `Update` of an original and a target in the `n`-th attempt of
`retry.Do`, replacing or not, `none` when it succeeds.  Helm's `ResourceList.Intersect` and
`retry.Do` of `avast/retry-go` lie outside the repository and come with the laws `Deploy`
relies on. -/
structure Api where
  namespaceScoped : Unstructured → Except MappingError Bool
  get : Unstructured → Option ApiError
  listCRDs : Except ApiError (List GroupKind)
  getExisting : Unstructured → Except ApiError (Option Unstructured)
  update : Nat → Unstructured → Unstructured → Bool → Option String
  /-- `ResourceList.Intersect` -/
  intersect : List Unstructured → List Unstructured → List Unstructured
  /-- `Intersect` keeps elements of its receiver: of one resource, itself or nothing -/
  intersect_singleton :
    ∀ info infos, intersect [info] infos = [] ∨ intersect [info] infos = [info]
  /-- a resource finds itself among resources that hold it -/
  intersect_singleton_of_mem : ∀ info infos, info ∈ infos → intersect [info] infos = [info]
  /-- `retry.Do` around an update, with `LastErrorOnly(false)` and every error retryable -/
  retry : Retry.Loop String

variable (api : Api)

/-- `convertToInfo`: the REST mapping of the object, and the namespace that
`setDefaultOrOverwriteNamespaceIfScopedAndNoneSet` gives a namespaced object without one. -/
def convertToInfo (unstruct : Unstructured) (namespaceOverride : String) :
    Except MappingError Unstructured :=
  match api.namespaceScoped unstruct with
  | .error err => .error err
  | .ok namespaceScoped =>
    if namespaceScoped ∧ unstruct.namespace = "" then
      .ok { unstruct with «namespace» := if namespaceOverride = "" then "default" else namespaceOverride }
    else .ok unstruct

/-- `filterAndConvertToInfoList`: the objects converted in order; with `ignoreNotMatchError` one
whose kind has no mapping is dropped. -/
def filterAndConvertToInfoList (namespaceOverride : String) (ignoreNotMatchError : Bool) :
    List Unstructured → Except String (List Unstructured)
  | [] => .ok []
  | unstruct :: unstructs =>
    match convertToInfo api unstruct namespaceOverride with
    | .error err =>
      if ignoreNotMatchError && err.isNoMatch then
        filterAndConvertToInfoList namespaceOverride ignoreNotMatchError unstructs
      else .error err.message
    | .ok info => (filterAndConvertToInfoList namespaceOverride ignoreNotMatchError unstructs).map
        (info :: ·)

/-- `getCRDGroupKinds`: a `NotFound` of the list is no custom resource definition at all. -/
def getCRDGroupKinds : Except String (List GroupKind) :=
  match api.listCRDs with
  | .ok groupKinds => .ok groupKinds
  | .error err => if err.isNotFound then .ok [] else .error err.message

/-! ## The update strategy -/

/-- `UpdateStrategy`. -/
inductive UpdateStrategy
  | patch
  | replace
  | skip
  deriving DecidableEq, Repr

/-- The kinds of `monitoring.coreos.com/v1` that are replaced. -/
def replacedMonitoringKinds : List String :=
  ["Prometheus", "AlertmanagerConfig", "Alertmanager", "PodMonitor", "Probe", "PrometheusRule",
    "ServiceMonitor", "ThanosRuler"]

/-- `DefaultUpdateStrategyResolver.Resolve`: the identifier of the group and version is the
object's `apiVersion`. -/
def resolve (info : Unstructured) : UpdateStrategy :=
  if info.apiVersion = "monitoring.coreos.com/v1" ∧ info.kind ∈ replacedMonitoringKinds then
    .replace
  -- a job is not updated after it was created: its fields are immutable
  else if info.apiVersion = "batch/v1" ∧ info.kind = "Job" ∧
      !(api.get info).any ApiError.isNotFound then .skip
  else .patch

/-- The resolver skips a resource exactly when it is a `Job` of `batch/v1` that the API server
did not report missing, and replaces exactly the listed monitoring kinds. -/
theorem resolve_cases (info : Unstructured) :
    (resolve api info = .skip ↔ info.apiVersion = "batch/v1" ∧ info.kind = "Job" ∧
        ¬ ∃ err, api.get info = some err ∧ err.isNotFound = true) ∧
      (resolve api info = .replace ↔
        info.apiVersion = "monitoring.coreos.com/v1" ∧ info.kind ∈ replacedMonitoringKinds) := by
  unfold resolve
  by_cases hmon : info.apiVersion = "monitoring.coreos.com/v1" ∧ info.kind ∈ replacedMonitoringKinds
  · -- a monitoring resource is no job
    simp [hmon]
  · rw [if_neg hmon]
    cases hget : api.get info with
    | none => split_ifs <;> simp_all
    | some err => split_ifs <;> simp_all

/-! ## Deploying one resource -/

/-- `containsGroupKind`. -/
def containsGroupKind (groupKinds : List GroupKind) (groupKind : GroupKind) : Bool :=
  groupKinds.any fun gk => gk.group == groupKind.group && gk.kind == groupKind.kind

/-- `fetchExistingResourceAndConvertToInfo`: for a custom resource, the object as the cluster
holds it, if it does; `removeIgnoredFields` drops metadata that the model does not hold. -/
def fetchExistingResourceAndConvertToInfo (info : Unstructured) (crdGroupKinds : List GroupKind) :
    Except String Unstructured :=
  if !containsGroupKind crdGroupKinds info.groupKind then .ok info
  else
    match api.getExisting info with
    | .error err => if err.isNotFound then .ok info else .error err.message
    | .ok none => .ok info
    | .ok (some existingResource) =>
      match convertToInfo api existingResource info.namespace with
      | .error err => .error ("Failed to convert existing unstructs data: " ++ err.message)
      | .ok info' => .ok info'

/-- A call of the Helm client's `Update`. -/
structure UpdateCall where
  original : Unstructured
  target : Unstructured
  replace : Bool
  deriving DecidableEq, Repr

/-- `deployResource`: the calls of `Update` that `retry.Do` makes through `deployResourceFunc`,
and the error. -/
def deployResource (g : KubeClientAdapter) (infoOriginal infoTarget : Unstructured)
    (crdGroupKinds : List GroupKind) : List UpdateCall × Option String :=
  let strategy := resolve api infoTarget
  if strategy = .skip then ([], none)
  else
    match fetchExistingResourceAndConvertToInfo api infoOriginal crdGroupKinds with
    | .error err => ([], some err)
    | .ok infoOriginal =>
      let call : UpdateCall := ⟨infoOriginal, infoTarget, strategy == .replace⟩
      let retried := api.retry.run (fun n => api.update n call.original call.target call.replace)
        g.config.maxRetries.toNat
      (List.replicate retried.1 call,
        retried.2.map fun errs => "kubeClient failed to update " ++ infoTarget.kind ++ " '" ++
          infoTarget.name ++ "' (namespace: " ++ infoTarget.namespace ++ "): " ++
          api.retry.errorText errs)

/-- A resource deploys when the resolver skips it, or when its original can be fetched and one
of the attempts of `Update` succeeds. -/
def Deploys (g : KubeClientAdapter) (crdGroupKinds : List GroupKind) (infoOriginal infoTarget : Unstructured) :
    Prop :=
  resolve api infoTarget = .skip ∨
    ∃ original, fetchExistingResourceAndConvertToInfo api infoOriginal crdGroupKinds = .ok original ∧
      ∃ j < g.config.maxRetries.toNat,
        api.update j original infoTarget (resolve api infoTarget == .replace) = none

/-- What a call of `Update` for a resource is: one the resolver asks for. -/
def Resolved (call : UpdateCall) : Prop :=
  resolve api call.target ≠ .skip ∧ call.replace = (resolve api call.target == .replace)

theorem deployResource_snd_eq_none_iff (g : KubeClientAdapter) (infoOriginal infoTarget : Unstructured)
    (crdGroupKinds : List GroupKind) :
    (deployResource api g infoOriginal infoTarget crdGroupKinds).2 = none ↔
      Deploys api g crdGroupKinds infoOriginal infoTarget := by
  unfold deployResource Deploys
  dsimp only
  split_ifs with hskip
  · simp [hskip]
  · cases hfetch : fetchExistingResourceAndConvertToInfo api infoOriginal crdGroupKinds with
    | error err => simp [hskip]
    | ok original => simp [hskip, api.retry.run_snd_eq_none_iff]

theorem resolved_of_mem_deployResource {g : KubeClientAdapter} {infoOriginal infoTarget : Unstructured}
    {crdGroupKinds : List GroupKind} {call : UpdateCall}
    (hcall : call ∈ (deployResource api g infoOriginal infoTarget crdGroupKinds).1) :
    call.target = infoTarget ∧ Resolved api call := by
  unfold deployResource at hcall
  dsimp only at hcall
  split_ifs at hcall with hskip
  · simp at hcall
  · split at hcall
    · simp at hcall
    · -- every attempt of `retry.Do` makes the same call
      obtain ⟨-, rfl⟩ := List.mem_replicate.1 hcall
      exact ⟨rfl, hskip, rfl⟩

/-! ## The loop over the resources -/

/-- `kube.Resource`. -/
structure Resource where
  kind : String
  name : String
  «namespace» : String
  deriving DecidableEq, Repr

/-- The `Resource` the adapter reports for an object. -/
def resourceOf (info : Unstructured) : Resource :=
  ⟨info.kind, info.name, info.namespace⟩

/-- The object the tracker gets for a resource of a watchable kind. -/
def trackedObject (info : Unstructured) : Option TrackerResource :=
  match newWatchableResource info.kind with
  | .ok watchable => some ⟨watchable, info.name, info.namespace, true⟩
  | .error _ => none

/-- `addWatchableResourceInfoToProgressTracker`. -/
def addWatchableResourceInfoToProgressTracker (info : Unstructured) (pt : Tracker) :
    Resource × Tracker :=
  let res := resourceOf info
  match newWatchableResource res.kind with
  | .ok watchable => (res, pt.addResourceWithInfo watchable res.namespace res.name)
  | .error _ => (res, pt)

theorem addWatchableResourceInfoToProgressTracker_objects (info : Unstructured) (pt : Tracker) :
    (addWatchableResourceInfoToProgressTracker info pt).2.objects =
      pt.objects ++ (trackedObject info).toList := by
  unfold addWatchableResourceInfoToProgressTracker trackedObject resourceOf
  split <;> simp_all [Tracker.addResourceWithInfo]

/-- What the loop of `deployResources` has built: the resources it reports, the tracker, and
the calls of `Update`. -/
structure DeployState where
  deployed : List Resource
  tracker : Tracker
  calls : List UpdateCall

/-- One pass of the loop of `deployResources`. -/
def deployTarget (g : KubeClientAdapter) (infoOriginalList : List Unstructured)
    (crdGroupKinds : List GroupKind) (infoTarget : Unstructured) (st : DeployState) :
    DeployState × Option String :=
  match api.intersect [infoTarget] infoOriginalList with
  | [] => (st, some "could not find intersect between original and target resource")
  | infoOriginal :: _ =>
    let added := addWatchableResourceInfoToProgressTracker infoTarget st.tracker
    let deployed := deployResource api g infoOriginal infoTarget crdGroupKinds
    ({ deployed := st.deployed ++ [added.1], tracker := added.2, calls := st.calls ++ deployed.1 },
      deployed.2)

/-- `deployResources`: the calls of `Update`, and what it returns once the watch is over, none
while the watch still runs after the events. -/
def deployResources (g : KubeClientAdapter) (clusters : Nat → Progress.Cluster) (events : List Event)
    (infoOriginalList infoTargetList : List Unstructured) (crdGroupKinds : List GroupKind) :
    List UpdateCall × Option (List Resource × Option String) :=
  match g.newProgressTracker with
  | .error err => ([], some ([], some err))
  | .ok pt =>
    match callEach (deployTarget api g infoOriginalList crdGroupKinds) infoTargetList ⟨[], pt, []⟩ with
    | (st, some err) => (st.calls, some ([], some err))
    | (st, none) => (st.calls, (st.tracker.watch clusters readyState events).map (st.deployed, ·))

/-! ## `Deploy` -/

/-- `defaultNamespace`. -/
def defaultNamespace : String := "default"

/-- The namespace resource that `newNamespaceUnstruct` decodes from `namespaceManifest` and
names. -/
def newNamespaceUnstruct («namespace» : String) : Unstructured :=
  ⟨"Namespace", "v1", «namespace», ""⟩

/-- `addNamespaceUnstruct`. -/
def addNamespaceUnstruct (unstructs : List Unstructured) («namespace» : String) :
    List Unstructured :=
  if «namespace» = defaultNamespace then unstructs
  else if unstructs.any (fun u => toLower u.kind == "namespace" && u.name == «namespace») then
    unstructs
  else newNamespaceUnstruct «namespace» :: unstructs

/-- `kubeClientAdapter.applyInterceptors`: the manifest decoded by `manifestToUnstructured`, with
the namespace resource, in a fresh list that the interceptors change. -/
def KubeClientAdapter.applyInterceptors
    (manifestToUnstructured : String → Except String (List Unstructured))
    (manifestTarget «namespace» : String) (interceptors : List (Option ResourceInterceptor)) :
    Except String (List Unstructured) :=
  match manifestToUnstructured manifestTarget with
  | .error err => .error err
  | .ok unstructsTarget =>
    let unstructsTarget := addNamespaceUnstruct unstructsTarget «namespace»
    Reconciler.applyInterceptors (Heap.alloc ⟨[]⟩ unstructsTarget)
      ⟨0, 0, unstructsTarget.length, unstructsTarget.length⟩ «namespace» interceptors

/-- `kubeClientAdapter.Deploy`. -/
def deploy (g : KubeClientAdapter)
    (manifestToUnstructured : String → Except String (List Unstructured))
    (clusters : Nat → Progress.Cluster) (events : List Event) (manifestTarget «namespace» : String)
    (interceptors : List (Option ResourceInterceptor)) :
    List UpdateCall × Option (List Resource × Option String) :=
  let «namespace» := if «namespace» = "" then defaultNamespace else «namespace»
  match KubeClientAdapter.applyInterceptors manifestToUnstructured manifestTarget «namespace»
      interceptors with
  | .error err => ([], some ([], some err))
  | .ok unstructsTarget =>
    match filterAndConvertToInfoList api «namespace» false unstructsTarget with
    | .error err => ([], some ([], some err))
    | .ok resourceInfoTarget =>
      match getCRDGroupKinds api with
      | .error err => ([], some ([], some err))
      | .ok crdGroupKinds =>
        deployResources api g clusters events resourceInfoTarget resourceInfoTarget crdGroupKinds

/-! ## Every update is the one the resolver asks for -/

theorem resolved_deployTarget {g : KubeClientAdapter} {infoOriginalList : List Unstructured}
    {crdGroupKinds : List GroupKind} (infoTarget : Unstructured) (st : DeployState)
    (hst : ∀ call ∈ st.calls, Resolved api call) :
    ∀ call ∈ (deployTarget api g infoOriginalList crdGroupKinds infoTarget st).1.calls,
      Resolved api call := by
  unfold deployTarget
  split
  · exact hst
  · intro call hcall
    rcases List.mem_append.1 hcall with hold | hnew
    · exact hst call hold
    · exact (resolved_of_mem_deployResource api hnew).2

theorem resolved_deployResources (g : KubeClientAdapter) (clusters : Nat → Progress.Cluster)
    (events : List Event) (infoOriginalList infoTargetList : List Unstructured)
    (crdGroupKinds : List GroupKind) :
    ∀ call ∈ (deployResources api g clusters events infoOriginalList infoTargetList
      crdGroupKinds).1, Resolved api call := by
  unfold deployResources
  split
  · simp
  · rename_i pt _
    -- every pass keeps the invariant, also the one that stops the loop
    have hloop := callEach_invariant (fun st : DeployState => ∀ call ∈ st.calls, Resolved api call)
      (fun infoTarget st hst =>
        @resolved_deployTarget api g infoOriginalList crdGroupKinds infoTarget st hst) infoTargetList
      ⟨[], pt, []⟩ (by simp)
    split
    · rename_i st err hrun
      rw [hrun] at hloop
      exact hloop
    · rename_i st hrun
      rw [hrun] at hloop
      exact hloop

theorem resolved_deploy (g : KubeClientAdapter)
    (manifestToUnstructured : String → Except String (List Unstructured))
    (clusters : Nat → Progress.Cluster) (events : List Event) (manifestTarget «namespace» : String)
    (interceptors : List (Option ResourceInterceptor)) :
    ∀ call ∈ (deploy api g manifestToUnstructured clusters events manifestTarget «namespace»
      interceptors).1, Resolved api call := by
  unfold deploy
  dsimp only
  generalize (if «namespace» = "" then defaultNamespace else «namespace») = ns
  -- the stages before the loop make no call
  cases KubeClientAdapter.applyInterceptors manifestToUnstructured manifestTarget ns interceptors with
  | error err => simp
  | ok unstructsTarget =>
    dsimp only
    cases filterAndConvertToInfoList api ns false unstructsTarget with
    | error err => simp
    | ok resourceInfoTarget =>
      dsimp only
      cases getCRDGroupKinds api with
      | error err => simp
      | ok crdGroupKinds => exact resolved_deployResources api g clusters events _ _ _

/-- The adapter of a configuration left at its defaults. -/
def defaultAdapter : KubeClientAdapter :=
  ⟨⟨progressTrackerInterval, progressTrackerTimeout, maxRetries, retryDelay⟩, ⟨⟨0, 0, 0, 0⟩, rfl⟩⟩

/-- An API server on which every call succeeds, with no custom resource definitions; its
`Intersect` keeps what the other list holds, and `retry.Do` calls in turn. -/
def acceptingApi : Api where
  namespaceScoped _ := .ok true
  get _ := none
  listCRDs := .ok []
  getExisting _ := .ok none
  update _ _ _ _ := none
  intersect r rs := r.filter (· ∈ rs)
  intersect_singleton info infos := by
    by_cases h : info ∈ infos <;> simp [h]
  intersect_singleton_of_mem info infos h := by simp [h]
  retry := .inTurn fun errs => "All attempts fail:\n" ++ "\n".intercalate errs

/-- A `Prometheus` of the monitoring operator. -/
def prometheus : Unstructured :=
  ⟨"Prometheus", "monitoring.coreos.com/v1", "monitoring", "kyma-system"⟩

theorem addWatchableResourceInfoToProgressTracker_fst (info : Unstructured) (pt : Tracker) :
    (addWatchableResourceInfoToProgressTracker info pt).1 = resourceOf info := by
  unfold addWatchableResourceInfoToProgressTracker
  dsimp only
  split <;> rfl

/-- Whether a pass of the loop fails depends on the resource only: the Helm client's
`Intersect` keeps the target itself, which is then the original of its update. -/
theorem deployTarget_snd (g : KubeClientAdapter) (infoOriginalList : List Unstructured)
    (crdGroupKinds : List GroupKind) (infoTarget : Unstructured) (st : DeployState) :
    (deployTarget api g infoOriginalList crdGroupKinds infoTarget st).2 =
      if api.intersect [infoTarget] infoOriginalList = [infoTarget] then
        (deployResource api g infoTarget infoTarget crdGroupKinds).2
      else some "could not find intersect between original and target resource" := by
  unfold deployTarget
  -- `Intersect` gives the target itself, or nothing
  rcases api.intersect_singleton infoTarget infoOriginalList with h | h <;> simp [h]

/-- A loop whose passes all succeed reports every resource, and leaves the tracker holding
every one of a watchable kind, with its info. -/
theorem callEach_deployTarget_of_ok {g : KubeClientAdapter} {infoOriginalList : List Unstructured}
    {crdGroupKinds : List GroupKind} (infoTargetList : List Unstructured) (st : DeployState)
    (hok : ∀ infoTarget ∈ infoTargetList,
      api.intersect [infoTarget] infoOriginalList = [infoTarget] ∧
        (deployResource api g infoTarget infoTarget crdGroupKinds).2 = none) :
    (callEach (deployTarget api g infoOriginalList crdGroupKinds) infoTargetList st).1.deployed =
        st.deployed ++ infoTargetList.map resourceOf ∧
      (callEach (deployTarget api g infoOriginalList crdGroupKinds) infoTargetList
        st).1.tracker.objects = st.tracker.objects ++ infoTargetList.filterMap trackedObject := by
  induction infoTargetList generalizing st with
  | nil => simp
  | cons infoTarget infoTargetList ih =>
    obtain ⟨hmatch, hdeploy⟩ := hok infoTarget List.mem_cons_self
    have hpass : (deployTarget api g infoOriginalList crdGroupKinds infoTarget st).2 = none := by
      rw [deployTarget_snd, if_pos hmatch, hdeploy]
    obtain ⟨hdeployed, hobjects⟩ := ih (deployTarget api g infoOriginalList crdGroupKinds infoTarget st).1
      (fun t ht => hok t (List.mem_cons_of_mem _ ht))
    rw [callEach_cons, if_pos hpass, hdeployed, hobjects]
    -- the pass itself adds the resource and its tracked object
    unfold deployTarget
    rw [hmatch]
    dsimp only
    rw [addWatchableResourceInfoToProgressTracker_fst,
      addWatchableResourceInfoToProgressTracker_objects]
    cases htracked : trackedObject infoTarget <;> simp [htracked]

/-- A watch of the ready state ends well exactly when there is nothing to watch, or a check
finds every object ready. -/
theorem watch_readyState_eq_some_none_iff (pt : Tracker) (clusters : Nat → Progress.Cluster)
    (events : List Event) :
    pt.watch clusters readyState events = some none ↔
      pt.objects = [] ∨ ∃ j ≤ (events.takeWhile (· == .tick)).length,
        ∀ object ∈ pt.objects, readyCheck (clusters j) object = (true, none) := by
  simp only [← inState_readyState_iff]
  exact ⟨Tracker.inState_of_watch_eq_some_none, Tracker.watch_eq_some_none_of_inState⟩

/-- A pass of the loop fails exactly when the resource is not among the originals, or does not
deploy. -/
theorem callEach_deployTarget_snd_eq_none_iff (g : KubeClientAdapter)
    (infoOriginalList infoTargetList : List Unstructured) (crdGroupKinds : List GroupKind)
    (st : DeployState) :
    (callEach (deployTarget api g infoOriginalList crdGroupKinds) infoTargetList st).2 = none ↔
      ∀ infoTarget ∈ infoTargetList, api.intersect [infoTarget] infoOriginalList = [infoTarget] ∧
        Deploys api g crdGroupKinds infoTarget infoTarget := by
  rw [callEach_snd_eq_none_iff (deployTarget_snd api g infoOriginalList crdGroupKinds)]
  refine forall₂_congr fun infoTarget _ => ?_
  split_ifs with hmatch
  · simp [hmatch, deployResource_snd_eq_none_iff]
  · simp [hmatch]

/-- **When `deployResources` ends well**: the tracker can be built, every resource is among the
originals and deploys, and the first check or one at a tick before the context ends or the
timeout fires finds every resource of a watchable kind ready; it then reports every resource. -/
theorem deployResources_eq_ok_iff (g : KubeClientAdapter) (clusters : Nat → Progress.Cluster)
    (events : List Event) (infoOriginalList infoTargetList : List Unstructured)
    (crdGroupKinds : List GroupKind) (deployed : List Resource) :
    (deployResources api g clusters events infoOriginalList infoTargetList crdGroupKinds).2 =
        some (deployed, none) ↔
      g.config.progressInterval < g.config.progressTimeout ∧
        (∀ infoTarget ∈ infoTargetList,
          api.intersect [infoTarget] infoOriginalList = [infoTarget] ∧
            Deploys api g crdGroupKinds infoTarget infoTarget) ∧
        deployed = infoTargetList.map resourceOf ∧
        (infoTargetList.filterMap trackedObject = [] ∨
          ∃ j ≤ (events.takeWhile (· == .tick)).length,
            ∀ object ∈ infoTargetList.filterMap trackedObject,
              readyCheck (clusters j) object = (true, none)) := by
  have hpasses := callEach_deployTarget_snd_eq_none_iff api g infoOriginalList infoTargetList
    crdGroupKinds
  unfold deployResources
  rcases g.newProgressTracker_cases with ⟨hlt, pt, hpt, hempty⟩ | ⟨hle, hfail⟩
  · rw [hpt]
    dsimp only
    rcases hrun : callEach (deployTarget api g infoOriginalList crdGroupKinds) infoTargetList
      ⟨[], pt, []⟩ with ⟨st, err⟩
    cases err with
    | some err =>
      -- the loop stopped at a resource that does not deploy
      have hfails := (hpasses ⟨[], pt, []⟩).not.1 (by rw [hrun]; simp)
      simp only [Option.some.injEq, Prod.mk.injEq, reduceCtorEq, and_false, false_iff]
      exact fun h => hfails h.2.1
    | none =>
      have hok := (hpasses ⟨[], pt, []⟩).1 (by rw [hrun])
      obtain ⟨hdeployed, hobjects⟩ := callEach_deployTarget_of_ok api infoTargetList ⟨[], pt, []⟩
        fun infoTarget hmem => ⟨(hok infoTarget hmem).1,
          (deployResource_snd_eq_none_iff api g _ _ _).2 (hok infoTarget hmem).2⟩
      rw [hrun] at hdeployed hobjects
      simp only [List.nil_append] at hdeployed
      rw [hempty, List.nil_append] at hobjects
      simp only [Option.map_eq_some_iff, Prod.mk.injEq]
      constructor
      · rintro ⟨_, hwatch, rfl, rfl⟩
        exact ⟨hlt, hok, hdeployed,
          hobjects ▸ (watch_readyState_eq_some_none_iff st.tracker clusters events).1 hwatch⟩
      · rintro ⟨-, -, rfl, hready⟩
        exact ⟨none, (watch_readyState_eq_some_none_iff st.tracker clusters events).2
          (hobjects ▸ hready), hdeployed, rfl⟩
  · rw [hfail]
    simp only [Option.some.injEq, Prod.mk.injEq, reduceCtorEq, and_false, false_iff]
    exact fun h => absurd h.1 (not_lt.2 hle)

/-- **When a deployment ends well**: the manifest decodes and the interceptors succeed, every
resource converts, the custom resource definitions can be listed, the tracker can be built,
every resource deploys, and the first check or one at a tick before the context ends or the
timeout fires finds every resource of a watchable kind ready; `Deploy` then reports every
resource.  A resource is its own original: its update is computed from the object in the
cluster only for a custom resource. -/
theorem deploy_eq_ok_iff (g : KubeClientAdapter)
    (manifestToUnstructured : String → Except String (List Unstructured))
    (clusters : Nat → Progress.Cluster) (events : List Event) (manifestTarget «namespace» : String)
    (interceptors : List (Option ResourceInterceptor)) (deployed : List Resource) :
    (deploy api g manifestToUnstructured clusters events manifestTarget «namespace»
        interceptors).2 = some (deployed, none) ↔
      ∃ unstructsTarget, KubeClientAdapter.applyInterceptors manifestToUnstructured manifestTarget
          (if «namespace» = "" then defaultNamespace else «namespace») interceptors =
        .ok unstructsTarget ∧
      ∃ infos, filterAndConvertToInfoList api
          (if «namespace» = "" then defaultNamespace else «namespace») false unstructsTarget =
        .ok infos ∧
      ∃ crdGroupKinds, getCRDGroupKinds api = .ok crdGroupKinds ∧
        g.config.progressInterval < g.config.progressTimeout ∧
        (∀ info ∈ infos, Deploys api g crdGroupKinds info info) ∧
        deployed = infos.map resourceOf ∧
        (infos.filterMap trackedObject = [] ∨
          ∃ j ≤ (events.takeWhile (· == .tick)).length,
            ∀ object ∈ infos.filterMap trackedObject,
              readyCheck (clusters j) object = (true, none)) := by
  unfold deploy
  dsimp only
  generalize (if «namespace» = "" then defaultNamespace else «namespace») = ns
  -- an error of a stage before the loop is the deployment's error
  cases happly : KubeClientAdapter.applyInterceptors manifestToUnstructured manifestTarget ns
      interceptors with
  | error err => simp
  | ok unstructsTarget =>
    simp only [Except.ok.injEq, exists_eq_left']
    cases hconvert : filterAndConvertToInfoList api ns false unstructsTarget with
    | error err => simp
    | ok infos =>
      simp only [Except.ok.injEq, exists_eq_left']
      cases hcrds : getCRDGroupKinds api with
      | error err => simp
      | ok crdGroupKinds =>
        simp only [Except.ok.injEq, exists_eq_left']
        rw [deployResources_eq_ok_iff]
        -- every resource finds itself among the originals
        have hself : ∀ info ∈ infos, api.intersect [info] infos = [info] :=
          fun info hinfo => api.intersect_singleton_of_mem info infos hinfo
        constructor
        · rintro ⟨hlt, hdeploys, hdeployed, hready⟩
          exact ⟨hlt, fun info hinfo => (hdeploys info hinfo).2, hdeployed, hready⟩
        · rintro ⟨hlt, hdeploys, hdeployed, hready⟩
          exact ⟨hlt, fun info hinfo => ⟨hself info hinfo, hdeploys info hinfo⟩, hdeployed, hready⟩

/-- The deployment of a manifest that holds a `Prometheus` ends well on an API server that
accepts every call, and reports the namespace resource and the `Prometheus`. -/
theorem deploy_eq_ok_iff_prometheus :
    (deploy acceptingApi defaultAdapter (fun _ => .ok [prometheus]) (fun _ => emptyCluster) []
        "" "kyma-system" []).2 =
      some ([⟨"Namespace", "kyma-system", "kyma-system"⟩, resourceOf prometheus], none) :=
  (deploy_eq_ok_iff acceptingApi defaultAdapter _ _ _ _ _ _ _).2
    ⟨_, rfl, _, rfl, _, rfl, by decide, fun info _ => .inr ⟨info, rfl, 0, by decide, rfl⟩, rfl,
      .inl rfl⟩

/-- A configuration that `NewKubernetesClient` accepts can still make every deployment fail:
when the progress interval is not shorter than the timeout, `deployResources` returns the
tracker's error before it deploys anything. -/
theorem deployResources_of_timeout_le_interval {g : KubeClientAdapter}
    (hle : g.config.progressTimeout ≤ g.config.progressInterval) (clusters : Nat → Progress.Cluster)
    (events : List Event) (infoOriginalList infoTargetList : List Unstructured)
    (crdGroupKinds : List GroupKind) :
    deployResources api g clusters events infoOriginalList infoTargetList crdGroupKinds =
      ([], some ([], some g.trackerError)) := by
  unfold deployResources
  rcases g.newProgressTracker_cases with ⟨hlt, -⟩ | ⟨-, hfail⟩
  · exact absurd hlt (not_lt.2 hle)
  · rw [hfail]

-- an interval of 200 s passes `validate`, against the default timeout of 120 s
example : ∃ g, newKubernetesClient (some ⟨200, 0, 0, 0⟩) = .ok g ∧
    g.config.progressTimeout ≤ g.config.progressInterval :=
  ⟨_, rfl, by decide⟩

end Kubernetes

end Reconciler
