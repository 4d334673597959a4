import Mathlib.Data.List.Sort
import Mathlib.Data.String.Basic
import Mathlib.Data.Prod.Lex
import Reconciler.Lib.Buckets

/-!
# Readiness of the watched resources

`pkg/reconciler/kubernetes/progress/ready.go`: what the progress tracker asks of each kind of
resource before it counts it as ready.  A pod runs, all its conditions hold and it is not being
deleted; the newest replica set of a deployment has a ready replica; a stateful set has updated
the replicas above its partition and has all of them ready; a daemon set has updated every
scheduled pod and has one ready; a job has every condition true; a custom resource definition is
established, or its names were not accepted.  The annotation
`reconciler.kyma-project.io/ignore-pod-state: "true"` makes a pod, deployment, stateful set or
daemon set ready whatever its state.

A check takes what the API server returns for the object: the object, or an error that is a
`NotFound` or another.  An object keeps the fields the checks read.  A Go map of labels or
annotations is a list with distinct keys, and the rest of a pod template is compared as a whole.
-/

namespace Reconciler

namespace Progress

/-- An error of the API server or of the tracker: `errors.IsNotFound` tells a `NotFound`
apart. -/
inductive ApiError
  | notFound (message : String)
  | other (message : String)
  deriving DecidableEq, Repr

/-- `errors.IsNotFound`. -/
def ApiError.isNotFound : ApiError → Bool
  | .notFound _ => true
  | .other _ => false

/-- `expectedReadyReplicas` -/
def expectedReadyReplicas : Int := 1

/-- `expectedReadyDaemonSet` -/
def expectedReadyDaemonSet : Int := 1

/-- `ignorePodStateAnnotation` -/
def ignorePodStateAnnotation : String := "reconciler.kyma-project.io/ignore-pod-state"

/-- `ignorePodState`: a nil map and a map without the key agree. -/
def ignorePodState (annotations : List (String × String)) : Bool :=
  match annotations.lookup ignorePodStateAnnotation with
  | some val => val == "true"
  | none => false

/-! ## Pods, daemon sets, stateful sets and jobs -/

/-- `v1.Pod`, with the fields `isPodReady` reads. -/
structure Pod where
  annotations : List (String × String)
  phase : String
  /-- the `Status` of each of `Status.Conditions` -/
  conditions : List String
  deletionTimestamp : Option Nat
  deriving DecidableEq, Repr

/-- `isPodReady`, from what `Pods(namespace).Get` returns. -/
def isPodReady : Except ApiError Pod → Bool × Option ApiError
  | .error err => (false, some err)
  | .ok pod =>
    if ignorePodState pod.annotations then (true, none)
    else if pod.phase != "Running" then (false, none)
    -- the range over the conditions returns at the first that is not true
    else if pod.conditions.any (· != "True") then (false, none)
    else (pod.deletionTimestamp.isNone, none)

/-- `appsv1.DaemonSet`, with the fields `isDaemonSetReady` reads. -/
structure DaemonSet where
  annotations : List (String × String)
  updatedNumberScheduled : Int
  desiredNumberScheduled : Int
  numberReady : Int
  deriving DecidableEq, Repr

/-- `isDaemonSetReady`. -/
def isDaemonSetReady : Except ApiError DaemonSet → Bool × Option ApiError
  | .error err => (false, some err)
  | .ok daemonSet =>
    if ignorePodState daemonSet.annotations then (true, none)
    else if daemonSet.updatedNumberScheduled != daemonSet.desiredNumberScheduled then (false, none)
    else (decide (daemonSet.numberReady ≥ expectedReadyDaemonSet), none)

/-- `appsv1.StatefulSet`, with the fields `isStatefulSetReady` reads. -/
structure StatefulSet where
  annotations : List (String × String)
  /-- `Spec.UpdateStrategy.RollingUpdate.Partition`, when the rolling update and its partition
  are set -/
  partition : Option Int
  /-- `Spec.Replicas` -/
  replicas : Option Int
  updatedReplicas : Int
  readyReplicas : Int
  deriving DecidableEq, Repr

/-- `isStatefulSetReady`: without a partition every replica is to be updated, and without a
replica count there is one. -/
def isStatefulSetReady : Except ApiError StatefulSet → Bool × Option ApiError
  | .error err => (false, some err)
  | .ok statefulSet =>
    if ignorePodState statefulSet.annotations then (true, none)
    else
      let partition := statefulSet.partition.getD 0
      let replicas := statefulSet.replicas.getD 1
      let expectedReplicas := replicas - partition
      if statefulSet.updatedReplicas != expectedReplicas then (false, none)
      else (statefulSet.readyReplicas == replicas, none)

/-- `batchv1.Job`, with the `Status` of each of its conditions. -/
structure Job where
  conditions : List String
  deriving DecidableEq, Repr

/-- `isJobReady`. -/
def isJobReady : Except ApiError Job → Bool × Option ApiError
  | .error err => (false, some err)
  | .ok job => if job.conditions.any (· != "True") then (false, none) else (true, none)

/-! ## Deployments -/

/-- `corev1.PodTemplateSpec`: its labels, and the rest of it. -/
structure PodTemplate where
  labels : List (String × String)
  spec : String
  deriving DecidableEq, Repr

/-- `appsv1.Deployment`, with the fields `isDeploymentReady` reads. -/
structure Deployment where
  uid : String
  annotations : List (String × String)
  /-- `metav1.LabelSelectorAsSelector(Spec.Selector)`: the selector, or why it is none -/
  selector : Except String String
  template : PodTemplate
  deriving DecidableEq, Repr

/-- `appsv1.ReplicaSet`, with the fields `getLatestReplicaSet` and `isDeploymentReady` read. -/
structure ReplicaSet where
  name : String
  creationTimestamp : Nat
  /-- the UID of the owner reference that is the controller -/
  controllerUID : Option String
  template : PodTemplate
  readyReplicas : Int
  deriving DecidableEq, Repr

/-- `appsv1.DefaultDeploymentUniqueLabelKey` -/
def defaultDeploymentUniqueLabelKey : String := "pod-template-hash"

/-- `metav1.IsControlledBy`. -/
def isControlledBy (replicaSet : ReplicaSet) (deployment : Deployment) : Bool :=
  replicaSet.controllerUID == some deployment.uid

/-- `equalIgnoreHash`: the templates agree once the hash label is deleted from both; two maps
are equal when they hold the same entries. -/
def equalIgnoreHash (template1 template2 : PodTemplate) : Bool :=
  (template1.labels.filter (·.1 != defaultDeploymentUniqueLabelKey)).isPerm
      (template2.labels.filter (·.1 != defaultDeploymentUniqueLabelKey)) &&
    template1.spec == template2.spec

/-- `replicaSetsByCreationTimestamp.Less`: the older first, and by name at the same time. -/
def creationTimestampLess (a b : ReplicaSet) : Bool :=
  if a.creationTimestamp = b.creationTimestamp then decide (a.name < b.name)
  else decide (a.creationTimestamp < b.creationTimestamp)

/-- The place of a replica set in the order of `Less`: its creation time, then its name. -/
def ReplicaSet.key (replicaSet : ReplicaSet) : ℕ ×ₗ String :=
  toLex (replicaSet.creationTimestamp, replicaSet.name)

theorem creationTimestampLess_iff {a b : ReplicaSet} :
    creationTimestampLess a b = true ↔ a.key < b.key := by
  unfold creationTimestampLess ReplicaSet.key
  rw [Prod.Lex.toLex_lt_toLex]
  split_ifs with htime
  · simp [htime]
  · simp [htime]

/-- The order `sort.Sort` is given as a test of `a` before `b`: `b` is not less than `a`. -/
theorem not_creationTimestampLess_iff {a b : ReplicaSet} :
    (!creationTimestampLess b a) = true ↔ a.key ≤ b.key := by
  rw [Bool.not_eq_true', ← Bool.not_eq_true, creationTimestampLess_iff, not_lt]

/-- `findNewReplicaSet`.  `sort.Sort` puts the list in the order of `Less`; a merge sort stands
for it, as the replica sets of a namespace have distinct names, which `Less` orders totally. -/
def findNewReplicaSet (deployment : Deployment) (rsList : List ReplicaSet) : Option ReplicaSet :=
  (rsList.mergeSort fun a b => !creationTimestampLess b a).find? fun replicaSet =>
    equalIgnoreHash replicaSet.template deployment.template

/-- After the sort, each replica set is at most as old as those behind it. -/
theorem pairwise_key_le_mergeSort (rsList : List ReplicaSet) :
    (rsList.mergeSort fun a b => !creationTimestampLess b a).Pairwise
      fun a b => a.key ≤ b.key := by
  have hsorted := @List.pairwise_mergeSort _ (fun a b => !creationTimestampLess b a)
    (fun a b c hab hbc => by
      rw [not_creationTimestampLess_iff] at hab hbc ⊢
      exact le_trans hab hbc)
    (fun a b => by
      rw [Bool.or_eq_true, not_creationTimestampLess_iff, not_creationTimestampLess_iff]
      exact le_total a.key b.key)
    rsList
  exact hsorted.imp fun hle => not_creationTimestampLess_iff.1 hle

/-- `findNewReplicaSet` returns a replica set with the deployment's template, and the oldest
of them: "we deterministically choose the oldest new ReplicaSet". -/
theorem findNewReplicaSet_eq_some {deployment : Deployment} {rsList : List ReplicaSet}
    {replicaSet : ReplicaSet} (h : findNewReplicaSet deployment rsList = some replicaSet) :
    replicaSet ∈ rsList ∧ equalIgnoreHash replicaSet.template deployment.template = true ∧
      ∀ other ∈ rsList, equalIgnoreHash other.template deployment.template = true →
        replicaSet.key ≤ other.key := by
  unfold findNewReplicaSet at h
  have hmatch := List.find?_some h
  refine ⟨List.mem_mergeSort.1 (List.mem_of_find?_eq_some h), hmatch, ?_⟩
  intro other hother hmatch
  exact @Buckets.find?_le _ (fun a b : ReplicaSet => a.key ≤ b.key) _ _ _ _
    (fun x => le_refl x.key) (pairwise_key_le_mergeSort rsList) h (List.mem_mergeSort.2 hother)
    hmatch

theorem findNewReplicaSet_eq_none_iff {deployment : Deployment} {rsList : List ReplicaSet} :
    findNewReplicaSet deployment rsList = none ↔
      ∀ replicaSet ∈ rsList, equalIgnoreHash replicaSet.template deployment.template = false := by
  simp [findNewReplicaSet, List.find?_eq_none, List.mem_mergeSort]

/-- `getLatestReplicaSet`, with what `ReplicaSets(namespace).List` returns for a selector. -/
def getLatestReplicaSet (deployment : Deployment)
    (listReplicaSets : String → Except ApiError (List ReplicaSet)) :
    Except ApiError (Option ReplicaSet) :=
  match deployment.selector with
  | .error err => .error (.other err)
  | .ok selector =>
    match listReplicaSets selector with
    | .error err => .error err
    | .ok allReplicaSets =>
      let ownedReplicaSets := allReplicaSets.filter (isControlledBy · deployment)
      if ownedReplicaSets.length == 0 then .ok none
      else .ok (findNewReplicaSet deployment ownedReplicaSets)

/-- The replica set `getLatestReplicaSet` returns is the oldest one the deployment controls
with its template. -/
theorem getLatestReplicaSet_eq_some {deployment : Deployment}
    {listReplicaSets : String → Except ApiError (List ReplicaSet)} {replicaSet : ReplicaSet}
    (h : getLatestReplicaSet deployment listReplicaSets = .ok (some replicaSet)) :
    ∃ selector allReplicaSets, deployment.selector = .ok selector ∧
      listReplicaSets selector = .ok allReplicaSets ∧ replicaSet ∈ allReplicaSets ∧
      isControlledBy replicaSet deployment = true ∧
      equalIgnoreHash replicaSet.template deployment.template = true ∧
      ∀ other ∈ allReplicaSets, isControlledBy other deployment = true →
        equalIgnoreHash other.template deployment.template = true →
          replicaSet.key ≤ other.key := by
  unfold getLatestReplicaSet at h
  cases hselector : deployment.selector with
  | error err => simp [hselector] at h
  | ok selector =>
    cases hlist : listReplicaSets selector with
    | error err => simp [hselector, hlist] at h
    | ok allReplicaSets =>
      -- the search runs over the replica sets the deployment controls
      have hfind : findNewReplicaSet deployment
          (allReplicaSets.filter (isControlledBy · deployment)) = some replicaSet := by
        simp only [hselector, hlist] at h
        split_ifs at h
        · cases h
        · exact Except.ok.inj h
      obtain ⟨hmem, hmatch, holdest⟩ := findNewReplicaSet_eq_some hfind
      rw [List.mem_filter] at hmem
      exact ⟨selector, allReplicaSets, rfl, hlist, hmem.1, hmem.2, hmatch,
        fun other hother hcontrolled => holdest other (List.mem_filter.2 ⟨hother, hcontrolled⟩)⟩

theorem getLatestReplicaSet_eq_none {deployment : Deployment}
    {listReplicaSets : String → Except ApiError (List ReplicaSet)}
    (h : getLatestReplicaSet deployment listReplicaSets = .ok none) :
    ∃ selector allReplicaSets, deployment.selector = .ok selector ∧
      listReplicaSets selector = .ok allReplicaSets ∧
      ∀ replicaSet ∈ allReplicaSets, isControlledBy replicaSet deployment = true →
        equalIgnoreHash replicaSet.template deployment.template = false := by
  unfold getLatestReplicaSet at h
  cases hselector : deployment.selector with
  | error err => simp [hselector] at h
  | ok selector =>
    cases hlist : listReplicaSets selector with
    | error err => simp [hselector, hlist] at h
    | ok allReplicaSets =>
      refine ⟨selector, allReplicaSets, rfl, hlist, fun replicaSet hmem hcontrolled => ?_⟩
      simp only [hselector, hlist] at h
      split_ifs at h with hempty
      · -- no replica set is controlled by the deployment
        have hnil := List.eq_nil_of_length_eq_zero (beq_iff_eq.1 hempty)
        simp [List.filter_eq_nil_iff.1 hnil replicaSet hmem] at hcontrolled
      · have hnone : findNewReplicaSet deployment
            (allReplicaSets.filter (isControlledBy · deployment)) = none :=
          Except.ok.inj h
        exact findNewReplicaSet_eq_none_iff.1 hnone replicaSet
          (List.mem_filter.2 ⟨hmem, hcontrolled⟩)

/-- `isDeploymentReady`, from what `Deployments(namespace).Get` returns. -/
def isDeploymentReady (listReplicaSets : String → Except ApiError (List ReplicaSet)) :
    Except ApiError Deployment → Bool × Option ApiError
  | .error err => (false, some err)
  | .ok deployment =>
    if ignorePodState deployment.annotations then (true, none)
    else
      match getLatestReplicaSet deployment listReplicaSets with
      | .error err => (false, some err)
      | .ok none => (false, none)
      | .ok (some replicaSet) => (decide (replicaSet.readyReplicas ≥ expectedReadyReplicas), none)

/-- Among replica sets with distinct names, the order of `Less` tells any two apart. -/
theorem eq_of_key_eq {rsList : List ReplicaSet} (hnames : (rsList.map (·.name)).Nodup)
    {a b : ReplicaSet} (ha : a ∈ rsList) (hb : b ∈ rsList) (hkey : a.key = b.key) : a = b := by
  have hname : a.name = b.name := by
    simpa [ReplicaSet.key] using congrArg (fun key => (ofLex key).2) hkey
  exact List.inj_on_of_nodup_map hnames ha hb hname

theorem getLatestReplicaSet_ne_error {deployment : Deployment} {selector : String}
    {listReplicaSets : String → Except ApiError (List ReplicaSet)}
    {allReplicaSets : List ReplicaSet} {err : ApiError}
    (hselector : deployment.selector = .ok selector)
    (hlist : listReplicaSets selector = .ok allReplicaSets) :
    getLatestReplicaSet deployment listReplicaSets ≠ .error err := by
  unfold getLatestReplicaSet
  simp only [hselector, hlist]
  split_ifs <;> simp

/-- A deployment is ready exactly when it asks to ignore the state of its pods, or when the
oldest replica set it controls with its template has a ready replica.  The replica sets of a
namespace have distinct names. -/
theorem isDeploymentReady_eq_true_iff
    {listReplicaSets : String → Except ApiError (List ReplicaSet)}
    (hnames : ∀ selector allReplicaSets, listReplicaSets selector = .ok allReplicaSets →
      (allReplicaSets.map (·.name)).Nodup)
    (read : Except ApiError Deployment) :
    (isDeploymentReady listReplicaSets read).1 = true ↔
      ∃ deployment, read = .ok deployment ∧
        (ignorePodState deployment.annotations = true ∨
          ∃ selector allReplicaSets replicaSet, deployment.selector = .ok selector ∧
            listReplicaSets selector = .ok allReplicaSets ∧ replicaSet ∈ allReplicaSets ∧
            isControlledBy replicaSet deployment = true ∧
            equalIgnoreHash replicaSet.template deployment.template = true ∧
            (∀ other ∈ allReplicaSets, isControlledBy other deployment = true →
              equalIgnoreHash other.template deployment.template = true →
                replicaSet.key ≤ other.key) ∧
            expectedReadyReplicas ≤ replicaSet.readyReplicas) := by
  rcases read with err | deployment
  · simp [isDeploymentReady]
  by_cases hignore : ignorePodState deployment.annotations = true
  · simp [isDeploymentReady, hignore]
  simp only [isDeploymentReady, hignore, Bool.false_eq_true, if_false, Except.ok.injEq,
    exists_eq_left', false_or]
  cases hlatest : getLatestReplicaSet deployment listReplicaSets with
  | error err =>
    simp only [Bool.false_eq_true, false_iff, not_exists, not_and]
    intro selector allReplicaSets replicaSet hselector hlist
    exact absurd hlatest (getLatestReplicaSet_ne_error hselector hlist)
  | ok latest =>
    cases latest with
    | none =>
      obtain ⟨selector, allReplicaSets, hselector, hlist, hnone⟩ :=
        getLatestReplicaSet_eq_none hlatest
      simp only [Bool.false_eq_true, false_iff, not_exists, not_and]
      intro selector' allReplicaSets' replicaSet hselector' hlist' hmem hcontrolled hmatch
      obtain rfl : selector' = selector := Except.ok.inj (hselector'.symm.trans hselector)
      obtain rfl : allReplicaSets' = allReplicaSets := Except.ok.inj (hlist'.symm.trans hlist)
      simp [hnone replicaSet hmem hcontrolled] at hmatch
    | some latest =>
      obtain ⟨selector, allReplicaSets, hselector, hlist, hmem, hcontrolled, hmatch, holdest⟩ :=
        getLatestReplicaSet_eq_some hlatest
      simp only [decide_eq_true_eq]
      constructor
      · intro hready
        exact ⟨selector, allReplicaSets, latest, hselector, hlist, hmem, hcontrolled, hmatch,
          holdest, hready⟩
      · rintro ⟨selector', allReplicaSets', replicaSet, hselector', hlist', hmem', hcontrolled',
          hmatch', holdest', hready⟩
        obtain rfl : selector' = selector := Except.ok.inj (hselector'.symm.trans hselector)
        obtain rfl : allReplicaSets' = allReplicaSets := Except.ok.inj (hlist'.symm.trans hlist)
        -- both are the oldest controlled replica set with the template, so they are one
        have hsame : replicaSet = latest :=
          eq_of_key_eq (hnames _ _ hlist) hmem' hmem
            (le_antisymm (holdest' latest hmem hcontrolled hmatch)
              (holdest replicaSet hmem' hcontrolled' hmatch'))
        exact hsame ▸ hready

/-- A deployment in the middle of a rollout to `nginx:1.2`. -/
def rolloutDeployment : Deployment where
  uid := "web-uid"
  annotations := []
  selector := .ok "app=web"
  template := ⟨[("app", "web")], "nginx:1.2"⟩

/-- The replica sets of the rollout: the old one is ready, the new one is not yet. -/
def listRolloutReplicaSets : String → Except ApiError (List ReplicaSet) := fun _ =>
  .ok [⟨"web-old", 100, some "web-uid", ⟨[("app", "web"), ("pod-template-hash", "a")], "nginx:1.1"⟩, 1⟩,
    ⟨"web-new", 200, some "web-uid", ⟨[("app", "web"), ("pod-template-hash", "b")], "nginx:1.2"⟩, 0⟩]

theorem isDeploymentReady_rollout :
    (∀ selector allReplicaSets, listRolloutReplicaSets selector = .ok allReplicaSets →
      (allReplicaSets.map (·.name)).Nodup) ∧
    ((isDeploymentReady listRolloutReplicaSets (.ok rolloutDeployment)).1 = true ↔
      ∃ deployment, (.ok rolloutDeployment : Except ApiError Deployment) = .ok deployment ∧
        (ignorePodState deployment.annotations = true ∨
          ∃ selector allReplicaSets replicaSet, deployment.selector = .ok selector ∧
            listRolloutReplicaSets selector = .ok allReplicaSets ∧ replicaSet ∈ allReplicaSets ∧
            isControlledBy replicaSet deployment = true ∧
            equalIgnoreHash replicaSet.template deployment.template = true ∧
            (∀ other ∈ allReplicaSets, isControlledBy other deployment = true →
              equalIgnoreHash other.template deployment.template = true →
                replicaSet.key ≤ other.key) ∧
            expectedReadyReplicas ≤ replicaSet.readyReplicas)) := by
  have hnames : ∀ selector allReplicaSets, listRolloutReplicaSets selector = .ok allReplicaSets →
      (allReplicaSets.map (·.name)).Nodup := by
    intro selector allReplicaSets hlist
    cases hlist
    decide
  exact ⟨hnames, isDeploymentReady_eq_true_iff hnames _⟩

/-! ## Custom resource definitions -/

/-- A condition of the status of a `CustomResourceDefinition`. -/
structure CrdCondition where
  type : String
  status : String
  deriving DecidableEq, Repr

/-- A `CustomResourceDefinition` as `info.Get` reads it: its conditions as the conversion to
`apiextensions/v1` and to `apiextensions/v1beta1` yields them, or the error of the conversion. -/
structure CustomResourceDefinition where
  v1 : Except String (List CrdCondition)
  v1beta1 : Except String (List CrdCondition)
  deriving DecidableEq, Repr

/-- The loop of `crdReady` and `crdBetaReady` over the conditions, with the names of the two
condition types and of the two statuses of its API version. -/
def conditionsReady (established namesAccepted conditionTrue conditionFalse : String) :
    List CrdCondition → Bool
  | [] => false
  | cond :: conds =>
    if cond.type = established then
      if cond.status = conditionTrue then true
      else conditionsReady established namesAccepted conditionTrue conditionFalse conds
    else if cond.type = namesAccepted then
      -- a naming conflict counts as a success
      if cond.status = conditionFalse then true
      else conditionsReady established namesAccepted conditionTrue conditionFalse conds
    else conditionsReady established namesAccepted conditionTrue conditionFalse conds

/-- The loop finds a condition that settles the definition: established, or with its names not
accepted. -/
theorem conditionsReady_eq_true_iff {established namesAccepted conditionTrue conditionFalse : String}
    (hne : established ≠ namesAccepted) (conds : List CrdCondition) :
    conditionsReady established namesAccepted conditionTrue conditionFalse conds = true ↔
      ∃ cond ∈ conds, cond.type = established ∧ cond.status = conditionTrue ∨
        cond.type = namesAccepted ∧ cond.status = conditionFalse := by
  induction conds with
  | nil => simp [conditionsReady]
  | cons cond conds ih =>
    simp only [List.mem_cons, or_and_right, exists_or, exists_eq_left]
    rw [← ih]
    simp only [conditionsReady]
    -- the type of the head decides which status settles it
    by_cases hestablished : cond.type = established
    · by_cases htrue : cond.status = conditionTrue <;> simp [hestablished, htrue, hne]
    · by_cases hnames : cond.type = namesAccepted
      · by_cases hfalse : cond.status = conditionFalse <;> simp [hnames, hfalse, Ne.symm hne]
      · simp [hestablished, hnames]

/-- `crdReady`, over `apiextv1.CustomResourceDefinition`. -/
def crdReady : List CrdCondition → Bool :=
  conditionsReady "Established" "NamesAccepted" "True" "False"

/-- `crdBetaReady`, over `apiextv1beta1.CustomResourceDefinition`. -/
def crdBetaReady : List CrdCondition → Bool :=
  conditionsReady "Established" "NamesAccepted" "True" "False"

theorem crdReady_eq_true_iff (conds : List CrdCondition) :
    crdReady conds = true ↔ ∃ cond ∈ conds, cond.type = "Established" ∧ cond.status = "True" ∨
      cond.type = "NamesAccepted" ∧ cond.status = "False" :=
  conditionsReady_eq_true_iff (by decide) conds

theorem crdBetaReady_eq_true_iff (conds : List CrdCondition) :
    crdBetaReady conds = true ↔ ∃ cond ∈ conds, cond.type = "Established" ∧ cond.status = "True" ∨
      cond.type = "NamesAccepted" ∧ cond.status = "False" :=
  conditionsReady_eq_true_iff (by decide) conds

/-- `isCRDReady` and `isCRDBetaReady`: read the definition, convert it, and check it. -/
def crdCheck (convert : CustomResourceDefinition → Except String (List CrdCondition))
    (ready : List CrdCondition → Bool) :
    Except ApiError CustomResourceDefinition → Bool × Option ApiError
  | .error err => (false, some err)
  | .ok crd =>
    match convert crd with
    | .error err => (false, some (.other err))
    | .ok conditions => if !ready conditions then (false, none) else (true, none)

/-- `isCRDReady`. -/
def isCRDReady : Except ApiError CustomResourceDefinition → Bool × Option ApiError :=
  crdCheck (·.v1) crdReady

/-- `isCRDBetaReady`. -/
def isCRDBetaReady : Except ApiError CustomResourceDefinition → Bool × Option ApiError :=
  crdCheck (·.v1beta1) crdBetaReady

end Progress

end Reconciler
