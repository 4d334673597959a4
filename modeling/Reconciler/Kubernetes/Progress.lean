import Reconciler.Kubernetes.Ready

/-!
# The progress tracker

`pkg/reconciler/kubernetes/progress/tracker.go`: after the adapter applied the resources of a
manifest, or deleted them, it waits with a `Tracker` until every watchable resource is ready, or
gone.  `Watch` checks the resources once, and then at each tick of a ticker, until a check finds
all of them in the target state, the context is closed, or the timeout fires.  A check that fails
is logged, and the watch goes on.

The cluster is what the checks read, and it may change between two checks: the `k`-th check
reads the `k`-th cluster.  Time is not under the tracker's control: the `select` of the loop takes
the ticks, the end of the context and the timeout in the order the runtime gives them, a list of
events, and every result holds for every list.  Durations are whole seconds.
-/

namespace Reconciler

namespace Progress

/-- `WatchableResource`. -/
inductive WatchableResource
  | deployment
  | pod
  | daemonSet
  | statefulSet
  | job
  | customResourceDefinition
  deriving DecidableEq, Repr

/-- `trackerResource`; `info` says whether it was added with its `resource.Info`. -/
structure TrackerResource where
  kind : WatchableResource
  name : String
  «namespace» : String
  info : Bool
  deriving DecidableEq, Repr

/-- What the checks read from the API server, by namespace and name; the replica sets are listed
by namespace and label selector, and a custom resource definition is read by `info.Get`. -/
structure Cluster where
  pods : String → String → Except ApiError Pod
  deployments : String → String → Except ApiError Deployment
  replicaSets : String → String → Except ApiError (List ReplicaSet)
  daemonSets : String → String → Except ApiError DaemonSet
  statefulSets : String → String → Except ApiError StatefulSet
  jobs : String → String → Except ApiError Job
  customResourceDefinitions : String → String → Except ApiError CustomResourceDefinition

/-! ## The configuration -/

/-- `defaultProgressInterval`, in seconds. -/
def defaultProgressInterval : Int := 20

/-- `defaultProgressTimeout`, in seconds. -/
def defaultProgressTimeout : Int := 600

/-- `Config`, in seconds. -/
structure Config where
  interval : Int
  timeout : Int
  deriving DecidableEq, Repr

/-- `Config.validate`: the configuration with its defaults filled in, or the error. -/
def Config.validate (ptc : Config) : Except String Config :=
  if ptc.interval < 0 then .error "progress tracker status-check interval cannot be < 0"
  else
    let ptc := if ptc.interval = 0 then { ptc with interval := defaultProgressInterval } else ptc
    if ptc.timeout < 0 then .error "progress tracker timeout cannot be < 0"
    else
      let ptc := if ptc.timeout = 0 then { ptc with timeout := defaultProgressTimeout } else ptc
      if ptc.timeout ≤ ptc.interval then
        .error ("progress tracker will never run because configured timeout " ++
          "is <= as the check interval :" ++ toString ptc.timeout ++ " secs <= " ++
          toString ptc.interval ++ " secs")
      else .ok ptc

/-- A configuration passes when neither duration is negative and the timeout, with the
defaults filled in, is longer than the interval; the interval is then positive, as
`time.NewTicker` needs. -/
theorem Config.validate_eq_ok_iff {ptc ptc' : Config} :
    ptc.validate = .ok ptc' ↔ 0 ≤ ptc.interval ∧ 0 ≤ ptc.timeout ∧
      ptc'.interval = (if ptc.interval = 0 then defaultProgressInterval else ptc.interval) ∧
      ptc'.timeout = (if ptc.timeout = 0 then defaultProgressTimeout else ptc.timeout) ∧
      0 < ptc'.interval ∧ ptc'.interval < ptc'.timeout := by
  obtain ⟨interval, timeout⟩ := ptc
  obtain ⟨interval', timeout'⟩ := ptc'
  simp only [Config.validate, defaultProgressInterval, defaultProgressTimeout]
  -- one case for each way the two durations fall
  by_cases hi : interval < 0
  · simp [hi]
  by_cases hi0 : interval = 0 <;> by_cases ht : timeout < 0 <;> by_cases ht0 : timeout = 0 <;>
    simp only [hi, hi0, ht, ht0, if_true, if_false] <;> (try split_ifs) <;> simp <;> omega

/-- `Tracker`, as `NewProgressTracker` builds it: the ticker's interval is positive, or
`time.NewTicker` would panic, and shorter than the timeout. -/
structure Tracker where
  objects : List TrackerResource
  interval : Int
  timeout : Int
  interval_pos : 0 < interval
  interval_lt_timeout : interval < timeout

/-- `NewProgressTracker`. -/
def newProgressTracker (config : Config) : Except String Tracker :=
  match h : config.validate with
  | .error err => .error err
  | .ok config' =>
    .ok { objects := [], interval := config'.interval, timeout := config'.timeout,
          interval_pos := (Config.validate_eq_ok_iff.1 h).2.2.2.2.1,
          interval_lt_timeout := (Config.validate_eq_ok_iff.1 h).2.2.2.2.2 }

/-- `Tracker.AddResource`. -/
def Tracker.addResource (pt : Tracker) (kind : WatchableResource) («namespace» name : String) :
    Tracker :=
  { pt with objects := pt.objects ++ [⟨kind, name, «namespace», false⟩] }

/-- `Tracker.AddResourceWithInfo`. -/
def Tracker.addResourceWithInfo (pt : Tracker) (kind : WatchableResource)
    («namespace» name : String) : Tracker :=
  { pt with objects := pt.objects ++ [⟨kind, name, «namespace», true⟩] }

/-! ## The checks -/

/-- The error of a custom resource definition added without its info. -/
def missingInfoError : ApiError :=
  .other "please use AddResourceWithInfo instead of AddResource for progress tracking CRD resources"

/-- The switch of `isInReadyState` on the kind of one object; a definition that `isCRDReady`
cannot convert is read as `v1beta1`. -/
def readyCheck (cluster : Cluster) (object : TrackerResource) : Bool × Option ApiError :=
  match object.kind with
  | .pod => isPodReady (cluster.pods object.namespace object.name)
  | .deployment =>
    isDeploymentReady (cluster.replicaSets object.namespace)
      (cluster.deployments object.namespace object.name)
  | .daemonSet => isDaemonSetReady (cluster.daemonSets object.namespace object.name)
  | .statefulSet => isStatefulSetReady (cluster.statefulSets object.namespace object.name)
  | .job => isJobReady (cluster.jobs object.namespace object.name)
  | .customResourceDefinition =>
    if !object.info then (false, some missingInfoError)
    else
      let read := cluster.customResourceDefinitions object.namespace object.name
      match isCRDReady read with
      | (ready, none) => (ready, none)
      | (_, some _) => isCRDBetaReady read

/-- `Tracker.isInReadyState`: it stops at the first object with an error or not ready. -/
def isInReadyState (cluster : Cluster) : List TrackerResource → Bool × Option ApiError
  | [] => (true, none)
  | object :: objects =>
    match readyCheck cluster object with
    | (_, some err) => (false, some err)
    | (false, none) => (false, none)
    | (true, none) => isInReadyState cluster objects

/-- The loop finds every object ready exactly when each check says so. -/
theorem isInReadyState_fst (cluster : Cluster) (objects : List TrackerResource) :
    (isInReadyState cluster objects).1 = true ↔
      ∀ object ∈ objects, readyCheck cluster object = (true, none) := by
  induction objects with
  | nil => simp [isInReadyState]
  | cons object objects ih =>
    rw [List.forall_mem_cons, ← ih]
    -- the check of the head either ends the loop or hands over to the tail
    rcases hcheck : readyCheck cluster object with ⟨ready, _ | err⟩
    · cases ready <;> simp [isInReadyState, hcheck]
    · simp [isInReadyState, hcheck]

/-- The error of a read, if it failed. -/
def errorOf {α : Type} : Except ApiError α → Option ApiError
  | .error err => some err
  | .ok _ => none

/-- The switch of `isInTerminatedState` on the kind of one object: the error of reading it, none
while it is still there. -/
def terminatedCheck (cluster : Cluster) (object : TrackerResource) : Option ApiError :=
  match object.kind with
  | .pod => errorOf (cluster.pods object.namespace object.name)
  | .deployment => errorOf (cluster.deployments object.namespace object.name)
  | .daemonSet => errorOf (cluster.daemonSets object.namespace object.name)
  | .statefulSet => errorOf (cluster.statefulSets object.namespace object.name)
  | .job => errorOf (cluster.jobs object.namespace object.name)
  | .customResourceDefinition =>
    if !object.info then some missingInfoError
    else errorOf (cluster.customResourceDefinitions object.namespace object.name)

/-- `Tracker.isInTerminatedState`: it stops at the first object still there, or whose read
failed otherwise than with `NotFound`. -/
def isInTerminatedState (cluster : Cluster) : List TrackerResource → Bool × Option ApiError
  | [] => (true, none)
  | object :: objects =>
    match terminatedCheck cluster object with
    | none => (false, none)
    | some err =>
      if !err.isNotFound then (false, some err) else isInTerminatedState cluster objects

/-- The loop finds every object gone exactly when reading each of them fails with `NotFound`. -/
theorem isInTerminatedState_fst (cluster : Cluster) (objects : List TrackerResource) :
    (isInTerminatedState cluster objects).1 = true ↔
      ∀ object ∈ objects, ∃ message, terminatedCheck cluster object = some (.notFound message) := by
  induction objects with
  | nil => simp [isInTerminatedState]
  | cons object objects ih =>
    rw [List.forall_mem_cons, ← ih]
    rcases hcheck : terminatedCheck cluster object with _ | (message | message)
    · simp [isInTerminatedState, hcheck]
    · simp [isInTerminatedState, hcheck, ApiError.isNotFound]
    · simp [isInTerminatedState, hcheck, ApiError.isNotFound]

/-- `ReadyState` -/
def readyState : String := "ready"

/-- `TerminatedState` -/
def terminatedState : String := "terminated"

/-- `Tracker.allWatchableInState`. -/
def allWatchableInState (cluster : Cluster) (objects : List TrackerResource)
    (targetState : String) : Bool × Option ApiError :=
  if targetState = readyState then isInReadyState cluster objects
  else if targetState = terminatedState then isInTerminatedState cluster objects
  else (false, some (.other ("state '" ++ targetState ++ "' not supported")))

/-- Every object is in the target state: each check finds it ready, or reading it fails with
`NotFound`. -/
def InState (cluster : Cluster) (objects : List TrackerResource) (targetState : String) : Prop :=
  targetState = readyState ∧ (∀ object ∈ objects, readyCheck cluster object = (true, none)) ∨
    targetState = terminatedState ∧
      ∀ object ∈ objects, ∃ message, terminatedCheck cluster object = some (.notFound message)

/-- A custom resource definition added without its info is never in a target state: both checks
fail on it with an error that is not a `NotFound`. -/
theorem not_inState_of_missing_info {cluster : Cluster} {objects : List TrackerResource}
    {targetState : String} {object : TrackerResource} (hmem : object ∈ objects)
    (hkind : object.kind = .customResourceDefinition) (hinfo : object.info = false) :
    ¬ InState cluster objects targetState := by
  have hready : readyCheck cluster object = (false, some missingInfoError) := by
    simp [readyCheck, hkind, hinfo]
  have hgone : terminatedCheck cluster object = some missingInfoError := by
    simp [terminatedCheck, hkind, hinfo]
  rintro (⟨-, hall⟩ | ⟨-, hall⟩)
  · simp [hall object hmem] at hready
  · obtain ⟨message, hnotFound⟩ := hall object hmem
    simp [hgone, missingInfoError] at hnotFound

/-- In the ready state every object passes its readiness check. -/
theorem inState_readyState_iff {cluster : Cluster} {objects : List TrackerResource} :
    InState cluster objects readyState ↔ ∀ object ∈ objects, readyCheck cluster object = (true, none) := by
  simp [InState, readyState, terminatedState]

theorem not_inState_of_unsupported {cluster : Cluster} {objects : List TrackerResource}
    {targetState : String} (hready : targetState ≠ readyState)
    (hterminated : targetState ≠ terminatedState) : ¬ InState cluster objects targetState := by
  rintro (⟨h, -⟩ | ⟨h, -⟩)
  · exact hready h
  · exact hterminated h

theorem allWatchableInState_fst (cluster : Cluster) (objects : List TrackerResource)
    (targetState : String) :
    (allWatchableInState cluster objects targetState).1 = true ↔
      InState cluster objects targetState := by
  unfold allWatchableInState InState
  by_cases hready : targetState = readyState
  · simp [hready, isInReadyState_fst, readyState, terminatedState]
  · by_cases hterminated : targetState = terminatedState
    · simp [hterminated, isInTerminatedState_fst, readyState, terminatedState]
    · simp [hready, hterminated]

/-! ## The watch -/

/-- What the `select` of `Watch` takes. -/
inductive Event
  /-- a tick of the ticker -/
  | tick
  /-- the end of the context -/
  | done
  /-- the timeout -/
  | timeout
  deriving DecidableEq, Repr

/-- The message of the `ContextClosedError` of a watch whose context ended. -/
def contextClosedMessage (targetState : String) : String :=
  "Running resource transition to state '" ++ targetState ++
    "' was not completed: transition is treated as failed"

/-- The error of a watch that timed out. -/
def timeoutMessage (timeout : Int) (targetState : String) : String :=
  "progress tracker reached timeout (" ++ toString timeout ++ " secs): " ++
    "stop checking progress of resource transition to state '" ++ targetState ++ "'"

/-- The `for`-`select` loop of `Watch`, the `k`-th check at the next tick: what it returns, or
none while it still watches after the events. -/
def Tracker.watchLoop (pt : Tracker) (clusters : Nat → Cluster) (targetState : String) :
    Nat → List Event → Option (Option String)
  | _, [] => none
  | k, .tick :: events =>
    if (allWatchableInState (clusters k) pt.objects targetState).1 then some none
    else pt.watchLoop clusters targetState (k + 1) events
  | _, .done :: _ => some (some (contextClosedMessage targetState))
  | _, .timeout :: _ => some (some (timeoutMessage pt.timeout targetState))

/-- The loop ends well exactly when one of the checks at the ticks it takes before the context
ends or the timeout fires finds every object in the target state. -/
theorem Tracker.watchLoop_eq_some_none_iff (pt : Tracker) (clusters : Nat → Cluster)
    (targetState : String) (k : Nat) (events : List Event) :
    pt.watchLoop clusters targetState k events = some none ↔
      ∃ j < (events.takeWhile (· == .tick)).length,
        InState (clusters (k + j)) pt.objects targetState := by
  induction events generalizing k with
  | nil => simp [Tracker.watchLoop]
  | cons event events ih =>
    cases event with
    | tick =>
      -- the check at this tick is the first; those at the later ticks follow from `k + 1`
      simp only [Tracker.watchLoop, List.takeWhile_cons, beq_self_eq_true, if_true,
        List.length_cons]
      split_ifs with hin
      · exact ⟨fun _ => ⟨0, by omega, by simpa using (allWatchableInState_fst _ _ _).1 hin⟩,
          fun _ => rfl⟩
      · rw [ih]
        constructor
        · rintro ⟨j, hj, hinj⟩
          exact ⟨j + 1, by omega, by rwa [show k + (j + 1) = k + 1 + j by omega]⟩
        · rintro ⟨j, hj, hinj⟩
          cases j with
          | zero => exact absurd ((allWatchableInState_fst _ _ _).2 (by simpa using hinj)) hin
          | succ j => exact ⟨j, by omega, by rwa [show k + 1 + j = k + (j + 1) by omega]⟩
    | done => simp [Tracker.watchLoop]
    | timeout => simp [Tracker.watchLoop]

/-- `Tracker.Watch`: the first check, then the loop. -/
def Tracker.watch (pt : Tracker) (clusters : Nat → Cluster) (targetState : String)
    (events : List Event) : Option (Option String) :=
  if pt.objects.length == 0 then some none
  else if (allWatchableInState (clusters 0) pt.objects targetState).1 then some none
  else pt.watchLoop clusters targetState 1 events

/-- What a watch that ends well has seen: nothing to watch, or a check that found every object
in the target state, at the start or at one of the ticks before the context ended or the
timeout fired. -/
theorem Tracker.inState_of_watch_eq_some_none {pt : Tracker} {clusters : Nat → Cluster}
    {targetState : String} {events : List Event}
    (h : pt.watch clusters targetState events = some none) :
    pt.objects = [] ∨ ∃ j ≤ (events.takeWhile (· == .tick)).length,
      InState (clusters j) pt.objects targetState := by
  unfold Tracker.watch at h
  by_cases hempty : pt.objects = []
  · exact .inl hempty
  simp only [hempty, List.length_eq_zero_iff, beq_iff_eq, if_false] at h
  split_ifs at h with hfirst
  · exact .inr ⟨0, Nat.zero_le _, (allWatchableInState_fst _ _ _).1 hfirst⟩
  · -- the loop's `j`-th check is the watch's `(1 + j)`-th
    obtain ⟨j, hj, hin⟩ := (Tracker.watchLoop_eq_some_none_iff _ _ _ _ _).1 h
    exact .inr ⟨1 + j, by omega, hin⟩

/-- A watch ends well when there is nothing to watch, or when the first check or one at a tick
before the context ends or the timeout fires finds every object in the target state. -/
theorem Tracker.watch_eq_some_none_of_inState {pt : Tracker} {clusters : Nat → Cluster}
    {targetState : String} {events : List Event}
    (h : pt.objects = [] ∨ ∃ j ≤ (events.takeWhile (· == .tick)).length,
      InState (clusters j) pt.objects targetState) :
    pt.watch clusters targetState events = some none := by
  unfold Tracker.watch
  rcases h with hempty | ⟨j, hj, hin⟩
  · simp [hempty]
  split_ifs with hzero hfirst
  · rfl
  · rfl
  · rw [Tracker.watchLoop_eq_some_none_iff]
    -- the watch's `(j + 1)`-th check is the loop's `j`-th
    cases j with
    | zero => exact absurd ((allWatchableInState_fst _ _ _).2 hin) hfirst
    | succ j => exact ⟨j, by omega, by rwa [show 1 + j = j + 1 by omega]⟩

/-- `Watch` ends well exactly when there is nothing to watch, or when the first check or one of
those at the ticks the `select` takes before the context ends or the timeout fires finds every
object in the target state.  An error of a check never ends the watch. -/
theorem Tracker.watch_eq_some_none_iff (pt : Tracker) (clusters : Nat → Cluster)
    (targetState : String) (events : List Event) :
    pt.watch clusters targetState events = some none ↔
      pt.objects = [] ∨ ∃ j ≤ (events.takeWhile (· == .tick)).length,
        InState (clusters j) pt.objects targetState :=
  ⟨Tracker.inState_of_watch_eq_some_none, Tracker.watch_eq_some_none_of_inState⟩

/-- On a tracker with at least one resource, a watch of a state the tracker does not know, or of
a custom resource definition added without its info, never ends well: it runs until the context
ends or the timeout fires.  An empty tracker returns at once. -/
theorem Tracker.watch_ne_some_none {pt : Tracker} {clusters : Nat → Cluster}
    {targetState : String} {events : List Event} (hobjects : pt.objects ≠ [])
    (hstuck : targetState ≠ readyState ∧ targetState ≠ terminatedState ∨
      ∃ object ∈ pt.objects, object.kind = .customResourceDefinition ∧ object.info = false) :
    pt.watch clusters targetState events ≠ some none := by
  intro hwatch
  rcases Tracker.inState_of_watch_eq_some_none hwatch with hempty | ⟨j, -, hin⟩
  · exact hobjects hempty
  · rcases hstuck with ⟨hready, hterminated⟩ | ⟨object, hmem, hkind, hinfo⟩
    · exact not_inState_of_unsupported hready hterminated hin
    · exact not_inState_of_missing_info hmem hkind hinfo hin

/-- A cluster on which every read fails with `NotFound`. -/
def emptyCluster : Cluster where
  pods _ _ := .error (.notFound "not found")
  deployments _ _ := .error (.notFound "not found")
  replicaSets _ _ := .error (.notFound "not found")
  daemonSets _ _ := .error (.notFound "not found")
  statefulSets _ _ := .error (.notFound "not found")
  jobs _ _ := .error (.notFound "not found")
  customResourceDefinitions _ _ := .error (.notFound "not found")

/-- A tracker with the default configuration that watches a definition added by `AddResource`. -/
def crdTracker : Tracker where
  objects := [⟨.customResourceDefinition, "crd", "default", false⟩]
  interval := defaultProgressInterval
  timeout := defaultProgressTimeout
  interval_pos := by decide
  interval_lt_timeout := by decide

/-- Even once the definition is gone, the watch of its deletion waits for the timeout. -/
theorem crdTracker_waits_for_timeout :
    crdTracker.objects ≠ [] ∧
      (terminatedState ≠ readyState ∧ terminatedState ≠ terminatedState ∨
        ∃ object ∈ crdTracker.objects,
          object.kind = .customResourceDefinition ∧ object.info = false) ∧
      crdTracker.watch (fun _ => emptyCluster) terminatedState [.tick, .tick, .timeout] ≠
        some none := by
  have hobjects : crdTracker.objects ≠ [] := by simp [crdTracker]
  have hstuck : terminatedState ≠ readyState ∧ terminatedState ≠ terminatedState ∨
      ∃ object ∈ crdTracker.objects,
        object.kind = .customResourceDefinition ∧ object.info = false :=
    .inr ⟨_, List.mem_singleton_self _, rfl, rfl⟩
  exact ⟨hobjects, hstuck, Tracker.watch_ne_some_none hobjects hstuck⟩

end Progress

end Reconciler
