import Mathlib.Data.List.Infix
import Mathlib.Data.List.Nodup

/-!
# The Istio proxy reset

`pkg/reconciler/instances/istio/reset`: on an update, `DefaultIstioProxyReset.Run` gathers the
ready pods whose Istio sidecar runs another image than the expected one
(`GetPodsWithDifferentImage`), drops those that carry the reset warning, and hands the rest to
`DefaultResetAction.Reset`.  There the `ParentKindMatcher` gives each pod to a handler by the
kind of its owner: a pod without an owner or owned by a `Job` is annotated, a pod of a
`ReplicationController` or of a `ReplicaSet` without an owner is deleted, and any other owner,
or the owner of the `ReplicaSet`, is rolled out.  A rollout that fails or times out annotates
the pods of the workload, which it lists by a label selector built from the workload's
`spec.selector.matchLabels`.

The cluster is what the matcher and the handlers read: the pods, the `ReplicaSet`s, and the
`matchLabels` of each workload.  Go ranges over a map in an order the runtime chooses: the
`matchLabels` are kept in the order they are visited, and every result holds for every order.
The map of `ReplicaSet`s in the matcher is visited in the order its keys were added.  The JSON
of the `sidecar.istio.io/status` annotation is decoded by a parameter, and the calls to the
server that only write succeed.
-/

namespace Reconciler

namespace Istio

/-- `metav1.OwnerReference`, with the fields the matcher reads; also the matcher's
`parentObject`. -/
structure OwnerReference where
  name : String
  kind : String
  deriving DecidableEq, Repr

/-- `v1.Container`. -/
structure Container where
  name : String
  image : String
  deriving DecidableEq, Repr

/-- `v1.Pod`, with the fields the reset reads.  A map of the pod is a list of its entries. -/
structure Pod where
  name : String
  «namespace» : String
  kind : String
  annotations : List (String × String)
  labels : List (String × String)
  ownerReferences : List OwnerReference
  containers : List Container
  phase : String
  /-- the `Status` of each of `Status.Conditions` -/
  conditions : List String
  deletionTimestamp : Option Nat
  deriving DecidableEq, Repr

/-- `AnnotationResetWarningKey` -/
def annotationResetWarningKey : String := "istio.reconciler.kyma-project.io/proxy-reset-warning"

/-- `AnnotationResetWarningNoOwnerVal` -/
def annotationResetWarningNoOwnerVal : String :=
  "pod sidecar could not be updated because OwnerReferences is Job or was not found . " ++
    "Istio might not work. Recreate the pod manually to ensure full compatibility."

/-- `AnnotationResetWarningRolloutTimeoutVal` -/
def annotationResetWarningRolloutTimeoutVal : String :=
  "pod could not be rolled out by resource owner's controller. Check pod status and resolve " ++
    "the problem so the owner controller can reconcile successfully"

/-! ## The gatherer -/

/-- `data.ExpectedImage`. -/
structure ExpectedImage where
  imagePrefix : String
  version : String
  deriving DecidableEq, Repr

/-- `isPodReady`: running, every condition true, and not being deleted. -/
def isPodReady (pod : Pod) : Bool :=
  pod.phase == "Running" && pod.conditions.all (· == "True") && pod.deletionTimestamp.isNone

/-- `getIstioSidecarNamesFromAnnotations`: the `containers` of the status annotation;
`decodeContainers` is `json.Unmarshal` of it, `none` on an error, and a missing annotation
is the empty text. -/
def getIstioSidecarNamesFromAnnotations (decodeContainers : String → Option (List String))
    (podAnnotations : List (String × String)) : List String :=
  (decodeContainers ((podAnnotations.lookup "sidecar.istio.io/status").getD "")).getD []

/-- `isIstioSidecar` -/
def isIstioSidecar (istioSidecarNames : List String) (containerName : String) : Bool :=
  istioSidecarNames.contains containerName

/-- `GetPodsWithDifferentImage`: for each ready pod with the status annotation, one copy of
the pod for each of its sidecars whose image does not end with the version or does not
contain the prefix. -/
def getPodsWithDifferentImage (decodeContainers : String → Option (List String))
    (inputPods : List Pod) (image : ExpectedImage) : List Pod :=
  inputPods.flatMap fun pod =>
    if (pod.annotations.lookup "sidecar.istio.io/status").isNone || !isPodReady pod then []
    else
      let istioSidecarNames := getIstioSidecarNamesFromAnnotations decodeContainers pod.annotations
      pod.containers.flatMap fun container =>
        if !isIstioSidecar istioSidecarNames container.name then []
        else
          let containsPrefix := decide (image.imagePrefix.toList <:+: container.image.toList)
          let hasSuffix := decide (image.version.toList <:+ container.image.toList)
          if !hasSuffix || !containsPrefix then [pod] else []

/-- `RemoveAnnotatedPods` -/
def removeAnnotatedPods (pods : List Pod) (annotationKey : String) : List Pod :=
  pods.filter fun pod => (pod.annotations.lookup annotationKey).isNone

/-- The pods the update step of `DefaultIstioProxyReset.Run` hands to `Reset`. -/
def podsToReset (decodeContainers : String → Option (List String)) (pods : List Pod)
    (image : ExpectedImage) : List Pod :=
  removeAnnotatedPods (getPodsWithDifferentImage decodeContainers pods image)
    annotationResetWarningKey

/-! ## The matcher -/

/-- `CustomObject` -/
structure CustomObject where
  name : String
  «namespace» : String
  kind : String
  deriving DecidableEq, Repr

/-- `getParentObjectFromOwnerReferences`: the first owner, or empty name and kind. -/
def getParentObjectFromOwnerReferences : List OwnerReference → OwnerReference
  | [] => ⟨"", ""⟩
  | ownerReference :: _ => ownerReference

/-- The object of a pod in the handlers map. -/
def podObject (pod : Pod) : CustomObject :=
  ⟨pod.name, pod.namespace, pod.kind⟩

/-- `appendUniqueObject` -/
def appendUniqueObject (s : List CustomObject) (object : CustomObject) : List CustomObject :=
  if s.contains object then s else s ++ [object]

/-- The handlers map of `GetHandlersMap`, one list for each of its three handlers. -/
structure HandlersMap where
  noAction : List CustomObject
  deleteObject : List CustomObject
  rollout : List CustomObject
  deriving DecidableEq, Repr

/-- `replicaSets[object] = append(replicaSets[object], podObject)` on the map kept as its
entries, in the order their keys were added. -/
def appendToKey : List (CustomObject × List CustomObject) → CustomObject → CustomObject →
    List (CustomObject × List CustomObject)
  | [], k, v => [(k, [v])]
  | (k', vs) :: m, k, v => if k' = k then (k', vs ++ [v]) :: m else (k', vs) :: appendToKey m k v

/-- One pass of the loop of `GetHandlersMap` over the pods. -/
def matchPod (acc : HandlersMap × List (CustomObject × List CustomObject)) (pod : Pod) :
    HandlersMap × List (CustomObject × List CustomObject) :=
  let parentObject := getParentObjectFromOwnerReferences pod.ownerReferences
  match parentObject.kind with
  | "" | "Job" => ({ acc.1 with noAction := acc.1.noAction ++ [podObject pod] }, acc.2)
  | "ReplicaSet" =>
    -- `ReplicaSet`s require further processing
    (acc.1, appendToKey acc.2 ⟨parentObject.name, pod.namespace, parentObject.kind⟩ (podObject pod))
  | "ReplicationController" =>
    ({ acc.1 with deleteObject := acc.1.deleteObject ++ [podObject pod] }, acc.2)
  | _ =>
    ({ acc.1 with rollout :=
        appendUniqueObject acc.1.rollout ⟨parentObject.name, pod.namespace, parentObject.kind⟩ },
      acc.2)

/-- A `ReplicaSet` as `Get` returns it: its namespace and owners. -/
structure ReplicaSet where
  «namespace» : String
  ownerReferences : List OwnerReference
  deriving DecidableEq, Repr

/-- One pass of `checkReplicaSets`.  `getReplicaSet` is `ReplicaSets(namespace).Get(name)`;
on an error the client returns the empty object, which has no owner. -/
def checkReplicaSet (getReplicaSet : String → String → Option ReplicaSet)
    (acc : List CustomObject × List CustomObject) (entry : CustomObject × List CustomObject) :
    List CustomObject × List CustomObject :=
  let replicaSet := (getReplicaSet entry.1.namespace entry.1.name).getD ⟨"", []⟩
  let replicaSetParentObject := getParentObjectFromOwnerReferences replicaSet.ownerReferences
  match replicaSetParentObject.name with
  | "" => (acc.1 ++ entry.2, acc.2)
  | _ => (acc.1, acc.2 ++ [⟨replicaSetParentObject.name, replicaSet.namespace,
      replicaSetParentObject.kind⟩])

/-- `checkReplicaSets`: the pods to delete and the parents to roll out. -/
def checkReplicaSets (getReplicaSet : String → String → Option ReplicaSet)
    (replicaSets : List (CustomObject × List CustomObject)) :
    List CustomObject × List CustomObject :=
  replicaSets.foldl (checkReplicaSet getReplicaSet) ([], [])

/-- `handlersMap[deleteObjectHandler] = appendUniqueObject(handlersMap[deleteObjectHandler], o)` -/
def HandlersMap.appendDelete (hm : HandlersMap) (podToDelete : CustomObject) : HandlersMap :=
  { hm with deleteObject := appendUniqueObject hm.deleteObject podToDelete }

/-- `handlersMap[rolloutHandler] = appendUniqueObject(handlersMap[rolloutHandler], o)` -/
def HandlersMap.appendRollout (hm : HandlersMap) (parentToRollout : CustomObject) : HandlersMap :=
  { hm with rollout := appendUniqueObject hm.rollout parentToRollout }

@[simp] theorem HandlersMap.appendDelete_noAction (hm : HandlersMap) (o : CustomObject) :
    (hm.appendDelete o).noAction = hm.noAction := rfl

@[simp] theorem HandlersMap.appendDelete_rollout (hm : HandlersMap) (o : CustomObject) :
    (hm.appendDelete o).rollout = hm.rollout := rfl

@[simp] theorem HandlersMap.appendRollout_noAction (hm : HandlersMap) (o : CustomObject) :
    (hm.appendRollout o).noAction = hm.noAction := rfl

@[simp] theorem HandlersMap.appendRollout_rollout (hm : HandlersMap) (o : CustomObject) :
    (hm.appendRollout o).rollout = appendUniqueObject hm.rollout o := rfl

@[simp] theorem HandlersMap.appendDelete_deleteObject (hm : HandlersMap) (o : CustomObject) :
    (hm.appendDelete o).deleteObject = appendUniqueObject hm.deleteObject o := rfl

@[simp] theorem HandlersMap.appendRollout_deleteObject (hm : HandlersMap) (o : CustomObject) :
    (hm.appendRollout o).deleteObject = hm.deleteObject := rfl

/-- `ParentKindMatcher.GetHandlersMap` -/
def getHandlersMap (getReplicaSet : String → String → Option ReplicaSet) (pods : List Pod) :
    HandlersMap :=
  let r := pods.foldl matchPod (⟨[], [], []⟩, [])
  let checked := checkReplicaSets getReplicaSet r.2
  let handlersMap := checked.1.foldl HandlersMap.appendDelete r.1
  checked.2.foldl HandlersMap.appendRollout handlersMap

/-- The handlers of the reset. -/
inductive Handler
  | noAction
  | deleteObject
  | rollout
  deriving DecidableEq, Repr

/-- The calls of `ExecuteAndWaitFor` on a handlers map, one for each object of each handler. -/
def HandlersMap.actions (hm : HandlersMap) : List (Handler × CustomObject) :=
  hm.noAction.map (.noAction, ·) ++ hm.deleteObject.map (.deleteObject, ·) ++
    hm.rollout.map (.rollout, ·)

/-- `DefaultResetAction.Reset`: the actions of the handlers map of the pods without the
warning, all run in one error group. -/
def reset (getReplicaSet : String → String → Option ReplicaSet) (pods : List Pod) :
    List (Handler × CustomObject) :=
  (getHandlersMap getReplicaSet (removeAnnotatedPods pods annotationResetWarningKey)).actions

/-! ## The rollout handler -/

/-- The cluster the handlers read. -/
structure Cluster where
  pods : List Pod
  /-- `spec.selector.matchLabels` of the workload of a kind, in a namespace, by name, in the
  order the map is visited; `none` when the workload cannot be read -/
  matchLabels : String → String → String → Option (List (String × String))

/-- `buildLabelSelector`: each label visited replaces the selector with `key=value`. -/
def buildLabelSelector (labels : List (String × String)) : String :=
  labels.foldl (fun _ label => label.1 ++ "=" ++ label.2) ""

/-- Whether a label selector of the form `buildLabelSelector` writes selects a pod: the empty
selector selects every pod, and `key=value` the pods with that label.  Label keys and values
hold no `=`, so the text names one label. -/
def selects (labelSelector : String) (pod : Pod) : Bool :=
  labelSelector == "" || pod.labels.any fun label => label.1 ++ "=" ++ label.2 == labelSelector

/-- `listPodsWithLabelSelector` -/
def listPodsWithLabelSelector (cluster : Cluster) («namespace» labelSelector : String) :
    List Pod :=
  cluster.pods.filter fun pod => pod.namespace == «namespace» && selects labelSelector pod

/-- The label selector getters: the workload of a kind, by the object's namespace and name,
and the selector built from its `matchLabels`. -/
def labelSelectorOf (kind : String) (cluster : Cluster) (object : CustomObject) :
    Except String String :=
  match cluster.matchLabels kind object.namespace object.name with
  | some labels => .ok (buildLabelSelector labels)
  | none => .error (kind ++ " " ++ object.namespace ++ "/" ++ object.name ++ " not found")

/-- `getDeploymentLabelSelector` -/
def getDeploymentLabelSelector : Cluster → CustomObject → Except String String :=
  labelSelectorOf "Deployment"

/-- `getDaemonSetLabelSelector` -/
def getDaemonSetLabelSelector : Cluster → CustomObject → Except String String :=
  labelSelectorOf "DaemonSet"

/-- `getReplicaSetLabelSelector` -/
def getReplicaSetLabelSelector : Cluster → CustomObject → Except String String :=
  labelSelectorOf "ReplicaSet"

/-- `getStatefulSetLabelSelector` -/
def getStatefulSetLabelSelector : Cluster → CustomObject → Except String String :=
  labelSelectorOf "StatefulSet"

/-- `getJobLabelSelector` -/
def getJobLabelSelector : Cluster → CustomObject → Except String String :=
  labelSelectorOf "Job"

/-- `annotatePodsFor`: the pods of the object's namespace that its selector lists. -/
def annotatePodsFor (cluster : Cluster)
    (f : Cluster → CustomObject → Except String String) (object : CustomObject) :
    Except String (List Pod) := do
  let labelSelector ← f cluster object
  .ok (listPodsWithLabelSelector cluster object.namespace labelSelector)

/-- `annotateObject`: the pods it annotates, by the kind of the object. -/
def annotateObject (cluster : Cluster) (object : CustomObject) : Except String (List Pod) :=
  match object.kind with
  | "Deployment" => annotatePodsFor cluster getDeploymentLabelSelector object
  | "DaemonSet" => annotatePodsFor cluster getDaemonSetLabelSelector object
  | "ReplicaSet" => annotatePodsFor cluster getReplicaSetLabelSelector object
  | "StatefulSet" => annotatePodsFor cluster getStatefulSetLabelSelector object
  | "Job" => annotatePodsFor cluster getJobLabelSelector object
  | kind => .error ("kind " ++ kind ++ " not found")

/-- `pod.Annotations[key] = val` -/
def setAnnotation (key val : String) (annotations : List (String × String)) :
    List (String × String) :=
  (key, val) :: annotations.filter (·.1 != key)

/-- `annotatePods`: each listed pod is updated with the annotation. -/
def annotatePods (pods podList : List Pod) (key val : String) : List Pod :=
  pods.map fun pod =>
    if podList.any (fun p => p.namespace == pod.namespace && p.name == pod.name) then
      { pod with annotations := setAnnotation key val pod.annotations }
    else pod

/-- `doRollout`: the patch of the restart annotation for the kinds it knows.  `patch` is the
error of the last attempt of `retry.Do`, if every attempt failed. -/
def doRollout (patch : Option String) (customObject : CustomObject) : Option String :=
  if customObject.kind ∈ ["DaemonSet", "Deployment", "ReplicaSet", "StatefulSet"] then patch
  else some ("kind " ++ customObject.kind ++ " not found")

/-- The pods after the warning of a failed rollout, and the error the handler returns. -/
def annotateAfterFailure (cluster : Cluster) (object : CustomObject) (err : String) :
    List Pod × Option String :=
  match annotateObject cluster object with
  | .error errAnnotate => (cluster.pods, some errAnnotate)
  | .ok podList =>
    (annotatePods cluster.pods podList annotationResetWarningKey
      annotationResetWarningRolloutTimeoutVal, some err)

/-- `RolloutHandler.ExecuteAndWaitFor`: the pods after it and its error, given the error of the
patch and the error of `WaitForResources`. -/
def RolloutHandler.executeAndWaitFor (cluster : Cluster) (debug : Bool) (patch wait : Option String)
    (object : CustomObject) : List Pod × Option String :=
  if debug then (cluster.pods, none)
  else
    match doRollout patch object with
    | some err => annotateAfterFailure cluster object err
    | none =>
      match wait with
      | some err => annotateAfterFailure cluster object err
      | none => (cluster.pods, none)

/-! ## What the gatherer keeps -/

/-- Whether a container of a pod is a sidecar whose image is not the expected one. -/
def outdatedSidecar (decodeContainers : String → Option (List String)) (image : ExpectedImage)
    (pod : Pod) (container : Container) : Bool :=
  isIstioSidecar (getIstioSidecarNamesFromAnnotations decodeContainers pod.annotations)
      container.name &&
    !(decide (image.version.toList <:+ container.image.toList) &&
      decide (image.imagePrefix.toList <:+: container.image.toList))

/-- The loop of `GetPodsWithDifferentImage` over the containers of one pod adds the pod once
for each outdated sidecar. -/
theorem flatMap_containers (decodeContainers : String → Option (List String))
    (image : ExpectedImage) (pod : Pod) (containers : List Container) :
    (containers.flatMap fun container =>
        if !isIstioSidecar (getIstioSidecarNamesFromAnnotations decodeContainers pod.annotations)
            container.name then []
        else if !decide (image.version.toList <:+ container.image.toList) ||
            !decide (image.imagePrefix.toList <:+: container.image.toList) then [pod]
        else []) =
      List.replicate (containers.countP (outdatedSidecar decodeContainers image pod)) pod := by
  induction containers with
  | nil => rfl
  | cons container containers ih =>
    rw [List.flatMap_cons, ih, List.countP_cons]
    -- the three tests the loop body makes decide whether this container adds a copy
    cases hside : isIstioSidecar (getIstioSidecarNamesFromAnnotations decodeContainers
        pod.annotations) container.name <;>
      cases hsuffix : decide (image.version.toList <:+ container.image.toList) <;>
      cases hprefix : decide (image.imagePrefix.toList <:+: container.image.toList) <;>
      simp [outdatedSidecar, hside, hsuffix, hprefix, List.replicate_succ]

/-- **The gatherer keeps one copy of a pod for each outdated sidecar** of a ready pod with the
status annotation, and none of any other pod, in the order of the list. -/
theorem getPodsWithDifferentImage_eq_flatMap (decodeContainers : String → Option (List String))
    (pods : List Pod) (image : ExpectedImage) :
    getPodsWithDifferentImage decodeContainers pods image =
      pods.flatMap fun pod =>
        if (pod.annotations.lookup "sidecar.istio.io/status").isNone || !isPodReady pod then []
        else List.replicate (pod.containers.countP (outdatedSidecar decodeContainers image pod))
          pod := by
  unfold getPodsWithDifferentImage
  congr 1
  funext pod
  split_ifs
  · rfl
  · exact flatMap_containers decodeContainers image pod pod.containers

theorem getPodsWithDifferentImage_singleton (decodeContainers : String → Option (List String))
    (pod : Pod) (image : ExpectedImage) :
    getPodsWithDifferentImage decodeContainers [pod] image =
      if (pod.annotations.lookup "sidecar.istio.io/status").isNone || !isPodReady pod then []
      else List.replicate (pod.containers.countP (outdatedSidecar decodeContainers image pod)) pod := by
  rw [getPodsWithDifferentImage_eq_flatMap, List.flatMap_singleton]

/-! ## What the matcher gives each handler -/

/-- Whether the matcher gives a pod to the `NoActionHandler`: it has no owner, or a `Job`. -/
def annotatedByNoAction (pod : Pod) : Bool :=
  (getParentObjectFromOwnerReferences pod.ownerReferences).kind ∈ ["", "Job"]

/-- **What one pass of the matcher does**, by the kind of the pod's first owner. -/
theorem matchPod_cases (acc : HandlersMap × List (CustomObject × List CustomObject))
    (pod : Pod) :
    let parentObject := getParentObjectFromOwnerReferences pod.ownerReferences
    let object : CustomObject := ⟨parentObject.name, pod.namespace, parentObject.kind⟩
    ((parentObject.kind = "" ∨ parentObject.kind = "Job") ∧
        matchPod acc pod = ({ acc.1 with noAction := acc.1.noAction ++ [podObject pod] }, acc.2)) ∨
      (parentObject.kind = "ReplicaSet" ∧
        matchPod acc pod = (acc.1, appendToKey acc.2 object (podObject pod))) ∨
      (parentObject.kind = "ReplicationController" ∧
        matchPod acc pod =
          ({ acc.1 with deleteObject := acc.1.deleteObject ++ [podObject pod] }, acc.2)) ∨
      (parentObject.kind ∉ ["", "Job", "ReplicaSet", "ReplicationController"] ∧
        matchPod acc pod =
          ({ acc.1 with rollout := appendUniqueObject acc.1.rollout object }, acc.2)) := by
  dsimp only [matchPod]
  split <;> simp_all

theorem matchPod_noAction (acc : HandlersMap × List (CustomObject × List CustomObject))
    (pod : Pod) :
    (matchPod acc pod).1.noAction =
      acc.1.noAction ++ if annotatedByNoAction pod then [podObject pod] else [] := by
  rcases matchPod_cases acc pod with ⟨hkind, h⟩ | ⟨hkind, h⟩ | ⟨hkind, h⟩ | ⟨hkind, h⟩ <;>
    simp_all [annotatedByNoAction]

theorem foldl_matchPod_noAction (pods : List Pod)
    (acc : HandlersMap × List (CustomObject × List CustomObject)) :
    (pods.foldl matchPod acc).1.noAction =
      acc.1.noAction ++ (pods.filter annotatedByNoAction).map podObject := by
  induction pods generalizing acc with
  | nil => simp
  | cons pod pods ih =>
    rw [List.foldl_cons, ih, matchPod_noAction, List.filter_cons]
    split_ifs <;> simp

/-! The two passes after the loop over the pods each add to one list of the map and keep the
others. -/

/-- A fold of updates that keep one list of the map keeps it. -/
theorem foldl_keeps (list : HandlersMap → List CustomObject)
    (f : HandlersMap → CustomObject → HandlersMap) (hf : ∀ hm o, list (f hm o) = list hm)
    (objects : List CustomObject) (hm : HandlersMap) : list (objects.foldl f hm) = list hm := by
  induction objects generalizing hm with
  | nil => rfl
  | cons o objects ih => rw [List.foldl_cons, ih, hf]

/-- A fold of updates that add to one list of the map with `appendUniqueObject` adds the
objects to that list one by one. -/
theorem foldl_appends (list : HandlersMap → List CustomObject)
    (f : HandlersMap → CustomObject → HandlersMap)
    (hf : ∀ hm o, list (f hm o) = appendUniqueObject (list hm) o)
    (objects : List CustomObject) (hm : HandlersMap) :
    list (objects.foldl f hm) = objects.foldl appendUniqueObject (list hm) :=
  (List.foldl_hom list fun hm o => (hf hm o).symm).symm

/-- The spec of `getHandlersMap`: its lists from what the loop over the pods and
`checkReplicaSets` built. -/
theorem getHandlersMap_lists (getReplicaSet : String → String → Option ReplicaSet)
    (pods : List Pod) :
    let r := pods.foldl matchPod (⟨[], [], []⟩, [])
    let checked := checkReplicaSets getReplicaSet r.2
    (getHandlersMap getReplicaSet pods).noAction = r.1.noAction ∧
      (getHandlersMap getReplicaSet pods).deleteObject =
        checked.1.foldl appendUniqueObject r.1.deleteObject ∧
      (getHandlersMap getReplicaSet pods).rollout =
        checked.2.foldl appendUniqueObject r.1.rollout := by
  dsimp only [getHandlersMap]
  refine ⟨?_, ?_, ?_⟩
  · rw [foldl_keeps _ _ HandlersMap.appendRollout_noAction,
      foldl_keeps _ _ HandlersMap.appendDelete_noAction]
  · rw [foldl_keeps _ _ HandlersMap.appendRollout_deleteObject,
      foldl_appends _ _ HandlersMap.appendDelete_deleteObject]
  · rw [foldl_appends _ _ HandlersMap.appendRollout_rollout,
      foldl_keeps _ _ HandlersMap.appendDelete_rollout]

/-- **The `NoActionHandler` gets one object for each pod without an owner or with a `Job`**,
as often as the pod is in the list. -/
theorem getHandlersMap_noAction (getReplicaSet : String → String → Option ReplicaSet)
    (pods : List Pod) :
    (getHandlersMap getReplicaSet pods).noAction =
      (pods.filter annotatedByNoAction).map podObject := by
  rw [(getHandlersMap_lists getReplicaSet pods).1, foldl_matchPod_noAction]
  rfl

/-- A ready pod without an owner whose two sidecars run an old image. -/
def twoSidecarPod : Pod :=
  { name := "job-0", «namespace» := "default", kind := "Pod",
    annotations := [("sidecar.istio.io/status", "{}")], labels := [], ownerReferences := [],
    containers := [⟨"istio-proxy", "istio/proxyv2:1.10.1"⟩, ⟨"istio-proxy-2", "istio/proxyv2:1.10.1"⟩],
    phase := "Running", conditions := ["True"], deletionTimestamp := none }

-- the gatherer keeps the pod twice, and the annotation is run twice on it
example : reset (fun _ _ => none)
    (getPodsWithDifferentImage (fun _ => some ["istio-proxy", "istio-proxy-2"]) [twoSidecarPod]
      ⟨"istio/proxyv2", "1.10.2"⟩) =
    [(.noAction, ⟨"job-0", "default", "Pod"⟩), (.noAction, ⟨"job-0", "default", "Pod"⟩)] := by
  rfl

theorem mem_appendUniqueObject {s : List CustomObject} {o x : CustomObject} :
    o ∈ appendUniqueObject s x ↔ o ∈ s ∨ o = x := by
  unfold appendUniqueObject
  split_ifs with h
  · have hx : x ∈ s := by simpa using h
    constructor
    · exact .inl
    · rintro (ho | rfl)
      exacts [ho, hx]
  · simp

theorem appendUniqueObject_nodup {s : List CustomObject} (hs : s.Nodup) (object : CustomObject) :
    (appendUniqueObject s object).Nodup := by
  unfold appendUniqueObject
  split_ifs with h
  · exact hs
  · exact hs.append (List.nodup_singleton object) (by simpa using h)

theorem mem_foldl_appendUniqueObject (objects : List CustomObject) (s : List CustomObject)
    (o : CustomObject) : o ∈ objects.foldl appendUniqueObject s ↔ o ∈ s ∨ o ∈ objects := by
  induction objects generalizing s with
  | nil => simp
  | cons x objects ih =>
    rw [List.foldl_cons, ih, mem_appendUniqueObject, List.mem_cons]
    tauto

theorem foldl_appendUniqueObject_nodup (objects : List CustomObject) {s : List CustomObject}
    (hs : s.Nodup) : (objects.foldl appendUniqueObject s).Nodup := by
  induction objects generalizing s with
  | nil => exact hs
  | cons x objects ih => exact ih (appendUniqueObject_nodup hs x)

theorem matchPod_rollout_nodup (acc : HandlersMap × List (CustomObject × List CustomObject))
    (hacc : acc.1.rollout.Nodup) (pod : Pod) : (matchPod acc pod).1.rollout.Nodup := by
  rcases matchPod_cases acc pod with ⟨-, h⟩ | ⟨-, h⟩ | ⟨-, h⟩ | ⟨-, h⟩ <;> rw [h]
  exacts [hacc, hacc, hacc, appendUniqueObject_nodup hacc _]

theorem foldl_matchPod_rollout_nodup (pods : List Pod)
    (acc : HandlersMap × List (CustomObject × List CustomObject)) (hacc : acc.1.rollout.Nodup) :
    (pods.foldl matchPod acc).1.rollout.Nodup := by
  induction pods generalizing acc with
  | nil => exact hacc
  | cons pod pods ih => exact ih _ (matchPod_rollout_nodup acc hacc pod)

/-- **The `RolloutHandler` gets each workload at most once.** -/
theorem getHandlersMap_rollout_nodup (getReplicaSet : String → String → Option ReplicaSet)
    (pods : List Pod) : (getHandlersMap getReplicaSet pods).rollout.Nodup := by
  -- the loop over the pods keeps the list free of duplicates, and so does the pass after it
  rw [(getHandlersMap_lists getReplicaSet pods).2.2]
  exact foldl_appendUniqueObject_nodup _ (foldl_matchPod_rollout_nodup pods _ List.nodup_nil)

/-! ## Every pod is handled -/

/-- The `ReplicaSet` of a key of the matcher's map as `checkReplicaSets` reads it. -/
def readReplicaSet (getReplicaSet : String → String → Option ReplicaSet) (k : CustomObject) :
    ReplicaSet :=
  (getReplicaSet k.namespace k.name).getD ⟨"", []⟩

/-- The owner of the `ReplicaSet` of a key, as the object `checkReplicaSets` rolls out. -/
def replicaSetParent (getReplicaSet : String → String → Option ReplicaSet) (k : CustomObject) :
    CustomObject :=
  let owner := getParentObjectFromOwnerReferences (readReplicaSet getReplicaSet k).ownerReferences
  ⟨owner.name, (readReplicaSet getReplicaSet k).namespace, owner.kind⟩

/-- The action a pod calls for: the warning for a pod without an owner or with a `Job`; the
delete for a pod of a `ReplicationController` or of a `ReplicaSet` without an owner; otherwise
the rollout of its top-level owner, the owner of its `ReplicaSet` or its own owner. -/
def expectedAction (getReplicaSet : String → String → Option ReplicaSet) (pod : Pod) :
    Handler × CustomObject :=
  let parentObject := getParentObjectFromOwnerReferences pod.ownerReferences
  let object : CustomObject := ⟨parentObject.name, pod.namespace, parentObject.kind⟩
  if parentObject.kind = "" ∨ parentObject.kind = "Job" then (.noAction, podObject pod)
  else if parentObject.kind = "ReplicationController" then (.deleteObject, podObject pod)
  else if parentObject.kind = "ReplicaSet" then
    if (replicaSetParent getReplicaSet object).name = "" then (.deleteObject, podObject pod)
    else (.rollout, replicaSetParent getReplicaSet object)
  else (.rollout, object)

/-- The object `x` is in the entry of key `k` of the `replicaSets` map. -/
def InMap (m : List (CustomObject × List CustomObject)) (k x : CustomObject) : Prop :=
  ∃ vs, (k, vs) ∈ m ∧ x ∈ vs

theorem InMap.appendToKey {m : List (CustomObject × List CustomObject)} {k x : CustomObject}
    (h : InMap m k x) (k' v : CustomObject) : InMap (Istio.appendToKey m k' v) k x := by
  induction m with
  | nil => obtain ⟨vs, hvs, -⟩ := h; cases hvs
  | cons e m ih =>
    obtain ⟨vs, hvs, hx⟩ := h
    obtain ⟨k₀, vs₀⟩ := e
    unfold Istio.appendToKey
    rcases List.mem_cons.1 hvs with heq | hm
    · -- the entry of `k` is the head: it keeps its objects and may get `v`
      cases heq
      split_ifs
      · exact ⟨vs ++ [v], List.mem_cons_self, List.mem_append_left _ hx⟩
      · exact ⟨vs, List.mem_cons_self, hx⟩
    · split_ifs
      · exact ⟨vs, List.mem_cons_of_mem _ hm, hx⟩
      · obtain ⟨vs', hvs', hx'⟩ := ih ⟨vs, hm, hx⟩
        exact ⟨vs', List.mem_cons_of_mem _ hvs', hx'⟩

theorem inMap_appendToKey_self (m : List (CustomObject × List CustomObject)) (k v : CustomObject) :
    InMap (appendToKey m k v) k v := by
  induction m with
  | nil => exact ⟨[v], List.mem_singleton_self _, List.mem_singleton_self v⟩
  | cons e m ih =>
    obtain ⟨k₀, vs₀⟩ := e
    unfold appendToKey
    split_ifs with hk
    · subst hk
      exact ⟨vs₀ ++ [v], List.mem_cons_self, by simp⟩
    · obtain ⟨vs, hvs, hv⟩ := ih
      exact ⟨vs, List.mem_cons_of_mem _ hvs, hv⟩

/-- The lists of the matcher only grow from one pass to the next. -/
structure Grows (acc acc' : HandlersMap × List (CustomObject × List CustomObject)) : Prop where
  noAction : acc.1.noAction ⊆ acc'.1.noAction
  deleteObject : acc.1.deleteObject ⊆ acc'.1.deleteObject
  rollout : acc.1.rollout ⊆ acc'.1.rollout
  replicaSets : ∀ k x, InMap acc.2 k x → InMap acc'.2 k x

theorem Grows.refl (acc : HandlersMap × List (CustomObject × List CustomObject)) : Grows acc acc :=
  ⟨fun _ h => h, fun _ h => h, fun _ h => h, fun _ _ h => h⟩

theorem Grows.trans {acc acc' acc'' : HandlersMap × List (CustomObject × List CustomObject)}
    (h : Grows acc acc') (h' : Grows acc' acc'') : Grows acc acc'' :=
  ⟨List.Subset.trans h.noAction h'.noAction, List.Subset.trans h.deleteObject h'.deleteObject,
    List.Subset.trans h.rollout h'.rollout, fun k x hx => h'.replicaSets k x (h.replicaSets k x hx)⟩

theorem matchPod_grows (acc : HandlersMap × List (CustomObject × List CustomObject)) (pod : Pod) :
    Grows acc (matchPod acc pod) := by
  rcases matchPod_cases acc pod with ⟨-, h⟩ | ⟨-, h⟩ | ⟨-, h⟩ | ⟨-, h⟩ <;> rw [h]
  · exact ⟨List.subset_append_left _ _, fun _ h => h, fun _ h => h, fun _ _ h => h⟩
  · exact ⟨fun _ h => h, fun _ h => h, fun _ h => h, fun _ _ h => h.appendToKey _ _⟩
  · exact ⟨fun _ h => h, List.subset_append_left _ _, fun _ h => h, fun _ _ h => h⟩
  · exact ⟨fun _ h => h, fun _ h => h, fun _ h => mem_appendUniqueObject.2 (.inl h),
      fun _ _ h => h⟩

/-- Where the loop over the pods has put a pod. -/
def Tracked (acc : HandlersMap × List (CustomObject × List CustomObject)) (pod : Pod) : Prop :=
  let parentObject := getParentObjectFromOwnerReferences pod.ownerReferences
  let object : CustomObject := ⟨parentObject.name, pod.namespace, parentObject.kind⟩
  ((parentObject.kind = "" ∨ parentObject.kind = "Job") ∧ podObject pod ∈ acc.1.noAction) ∨
    (parentObject.kind = "ReplicaSet" ∧ InMap acc.2 object (podObject pod)) ∨
    (parentObject.kind = "ReplicationController" ∧ podObject pod ∈ acc.1.deleteObject) ∨
    (parentObject.kind ∉ ["", "Job", "ReplicaSet", "ReplicationController"] ∧
      object ∈ acc.1.rollout)

theorem Tracked.grows {acc acc' : HandlersMap × List (CustomObject × List CustomObject)}
    {pod : Pod} (h : Tracked acc pod) (hg : Grows acc acc') : Tracked acc' pod := by
  rcases h with ⟨hk, hx⟩ | ⟨hk, hx⟩ | ⟨hk, hx⟩ | ⟨hk, hx⟩
  · exact .inl ⟨hk, hg.noAction hx⟩
  · exact .inr (.inl ⟨hk, hg.replicaSets _ _ hx⟩)
  · exact .inr (.inr (.inl ⟨hk, hg.deleteObject hx⟩))
  · exact .inr (.inr (.inr ⟨hk, hg.rollout hx⟩))

theorem tracked_matchPod (acc : HandlersMap × List (CustomObject × List CustomObject))
    (pod : Pod) : Tracked (matchPod acc pod) pod := by
  rcases matchPod_cases acc pod with ⟨hk, h⟩ | ⟨hk, h⟩ | ⟨hk, h⟩ | ⟨hk, h⟩ <;> rw [h]
  · exact .inl ⟨hk, by simp⟩
  · exact .inr (.inl ⟨hk, inMap_appendToKey_self _ _ _⟩)
  · exact .inr (.inr (.inl ⟨hk, by simp⟩))
  · exact .inr (.inr (.inr ⟨hk, mem_appendUniqueObject.2 (.inr rfl)⟩))

/-- The run lemma of the loop over the pods: it only grows, and it tracks every pod. -/
theorem foldl_matchPod_tracked (pods : List Pod)
    (acc : HandlersMap × List (CustomObject × List CustomObject)) :
    Grows acc (pods.foldl matchPod acc) ∧ ∀ pod ∈ pods, Tracked (pods.foldl matchPod acc) pod := by
  induction pods generalizing acc with
  | nil => exact ⟨Grows.refl acc, fun _ h => (List.not_mem_nil h).elim⟩
  | cons pod pods ih =>
    obtain ⟨hgrows, htracked⟩ := ih (matchPod acc pod)
    refine ⟨(matchPod_grows acc pod).trans hgrows, fun p hp => ?_⟩
    rcases List.mem_cons.1 hp with rfl | hp
    · exact (tracked_matchPod acc p).grows hgrows
    · exact htracked p hp

/-- One pass of `checkReplicaSets`, by whether the `ReplicaSet` has an owner. -/
theorem checkReplicaSet_eq (getReplicaSet : String → String → Option ReplicaSet)
    (acc : List CustomObject × List CustomObject) (k : CustomObject) (vs : List CustomObject) :
    checkReplicaSet getReplicaSet acc (k, vs) =
      if (replicaSetParent getReplicaSet k).name = "" then (acc.1 ++ vs, acc.2)
      else (acc.1, acc.2 ++ [replicaSetParent getReplicaSet k]) := by
  dsimp only [checkReplicaSet, replicaSetParent, readReplicaSet]
  split <;> simp_all

/-- The step lemma of `checkReplicaSets`: a pass keeps what the passes before collected. -/
theorem checkReplicaSet_grows (getReplicaSet : String → String → Option ReplicaSet)
    (acc : List CustomObject × List CustomObject) (e : CustomObject × List CustomObject) :
    acc.1 ⊆ (checkReplicaSet getReplicaSet acc e).1 ∧
      acc.2 ⊆ (checkReplicaSet getReplicaSet acc e).2 := by
  obtain ⟨k, vs⟩ := e
  rw [checkReplicaSet_eq]
  split_ifs
  · exact ⟨List.subset_append_left _ _, fun _ h => h⟩
  · exact ⟨fun _ h => h, List.subset_append_left _ _⟩

theorem foldl_checkReplicaSet_grows (getReplicaSet : String → String → Option ReplicaSet)
    (m : List (CustomObject × List CustomObject)) (acc : List CustomObject × List CustomObject) :
    acc.1 ⊆ (m.foldl (checkReplicaSet getReplicaSet) acc).1 ∧
      acc.2 ⊆ (m.foldl (checkReplicaSet getReplicaSet) acc).2 := by
  induction m generalizing acc with
  | nil => exact ⟨fun _ h => h, fun _ h => h⟩
  | cons e m ih =>
    obtain ⟨h1, h2⟩ := checkReplicaSet_grows getReplicaSet acc e
    obtain ⟨h1', h2'⟩ := ih (checkReplicaSet getReplicaSet acc e)
    exact ⟨List.Subset.trans h1 h1', List.Subset.trans h2 h2'⟩

/-- **`checkReplicaSets`** deletes the pods of a `ReplicaSet` without an owner and rolls out the
owner of any other. -/
theorem checkReplicaSets_spec (getReplicaSet : String → String → Option ReplicaSet)
    (m : List (CustomObject × List CustomObject)) (k x : CustomObject) (h : InMap m k x) :
    ((replicaSetParent getReplicaSet k).name = "" → x ∈ (checkReplicaSets getReplicaSet m).1) ∧
      ((replicaSetParent getReplicaSet k).name ≠ "" →
        replicaSetParent getReplicaSet k ∈ (checkReplicaSets getReplicaSet m).2) := by
  unfold checkReplicaSets
  generalize (([], []) : List CustomObject × List CustomObject) = acc
  induction m generalizing acc with
  | nil => obtain ⟨_, hvs, _⟩ := h; cases hvs
  | cons e m ih =>
    obtain ⟨vs, hvs, hx⟩ := h
    rw [List.foldl_cons]
    rcases List.mem_cons.1 hvs with rfl | hm
    · -- the pass over the entry of `k` decides, and the passes after it keep the result
      obtain ⟨h1, h2⟩ := foldl_checkReplicaSet_grows getReplicaSet m
        (checkReplicaSet getReplicaSet acc (k, vs))
      constructor
      · intro hname
        rw [checkReplicaSet_eq, if_pos hname] at h1 ⊢
        exact h1 (List.mem_append_right _ hx)
      · intro hname
        rw [checkReplicaSet_eq, if_neg hname] at h2 ⊢
        exact h2 (List.mem_append_right _ (List.mem_singleton_self _))
    · exact ih ⟨vs, hm, hx⟩ _

/-- **Every pod gets the action it calls for**: its warning, its delete, or the rollout of its
top-level owner. -/
theorem expectedAction_mem_actions (getReplicaSet : String → String → Option ReplicaSet)
    (pods : List Pod) (pod : Pod) (hpod : pod ∈ pods) :
    expectedAction getReplicaSet pod ∈ (getHandlersMap getReplicaSet pods).actions := by
  obtain ⟨-, htracked⟩ := foldl_matchPod_tracked pods (⟨[], [], []⟩, [])
  set r := pods.foldl matchPod (⟨[], [], []⟩, [])
  set checked := checkReplicaSets getReplicaSet r.2
  -- the passes after the loop keep what the loop built and add what `checkReplicaSets` found
  obtain ⟨hnoAction, hdeleteEq, hrolloutEq⟩ := getHandlersMap_lists getReplicaSet pods
  have hdelete : ∀ o, o ∈ r.1.deleteObject ∨ o ∈ checked.1 →
      o ∈ (getHandlersMap getReplicaSet pods).deleteObject := by
    intro o ho
    rw [hdeleteEq, mem_foldl_appendUniqueObject]
    exact ho
  have hrollout : ∀ o, o ∈ r.1.rollout ∨ o ∈ checked.2 →
      o ∈ (getHandlersMap getReplicaSet pods).rollout := by
    intro o ho
    rw [hrolloutEq, mem_foldl_appendUniqueObject]
    exact ho
  simp only [HandlersMap.actions, List.mem_append, List.mem_map]
  unfold expectedAction
  -- one case for each place the loop can have put the pod
  rcases htracked pod hpod with ⟨hk, hx⟩ | ⟨hk, hx⟩ | ⟨hk, hx⟩ | ⟨hk, hx⟩
  · rw [if_pos hk]
    exact .inl (.inl ⟨_, hnoAction ▸ hx, rfl⟩)
  · rw [if_neg (by rw [hk]; decide), if_neg (by rw [hk]; decide), if_pos hk]
    obtain ⟨hdel, hroll⟩ := checkReplicaSets_spec getReplicaSet r.2 _ _ hx
    split_ifs with hname
    · exact .inl (.inr ⟨_, hdelete _ (.inr (hdel hname)), rfl⟩)
    · exact .inr ⟨_, hrollout _ (.inr (hroll hname)), rfl⟩
  · rw [if_neg (by rw [hk]; decide), if_pos hk]
    exact .inl (.inr ⟨_, hdelete _ (.inl hx), rfl⟩)
  · simp only [List.mem_cons, List.not_mem_nil, or_false, not_or] at hk
    obtain ⟨h₁, h₂, h₃, h₄⟩ := hk
    rw [if_neg (by tauto), if_neg h₄, if_neg h₃]
    exact .inr ⟨_, hrollout _ (.inl hx), rfl⟩

/-! ## Every action is a pod's -/

/-- The action of a pod whose first owner is a `ReplicaSet`: decided by the owner of the
`ReplicaSet`. -/
theorem expectedAction_of_replicaSet (getReplicaSet : String → String → Option ReplicaSet)
    {pod : Pod} (hkind : (getParentObjectFromOwnerReferences pod.ownerReferences).kind = "ReplicaSet") :
    expectedAction getReplicaSet pod =
      let k : CustomObject := ⟨(getParentObjectFromOwnerReferences pod.ownerReferences).name,
        pod.namespace, "ReplicaSet"⟩
      if (replicaSetParent getReplicaSet k).name = "" then (.deleteObject, podObject pod)
      else (.rollout, replicaSetParent getReplicaSet k) := by
  unfold expectedAction
  rw [if_neg (by rw [hkind]; decide), if_neg (by rw [hkind]; decide), if_pos hkind, hkind]

/-- An object of the `replicaSets` map after a pod was appended: one before, or that pod. -/
theorem InMap.of_appendToKey {m : List (CustomObject × List CustomObject)} {k v k' x : CustomObject}
    (h : InMap (Istio.appendToKey m k v) k' x) : InMap m k' x ∨ (k' = k ∧ x = v) := by
  induction m with
  | nil =>
    obtain ⟨vs, hvs, hx⟩ := h
    obtain ⟨rfl, rfl⟩ := Prod.mk.inj (List.mem_singleton.1 hvs)
    exact .inr ⟨rfl, List.mem_singleton.1 hx⟩
  | cons e m ih =>
    obtain ⟨k₀, vs₀⟩ := e
    obtain ⟨vs, hvs, hx⟩ := h
    unfold Istio.appendToKey at hvs
    split_ifs at hvs with hk
    · -- the entry of `k` gets the pod at its end
      rcases List.mem_cons.1 hvs with heq | hm
      · obtain ⟨rfl, rfl⟩ := Prod.mk.inj heq
        rcases List.mem_append.1 hx with hx | hx
        · exact .inl ⟨vs₀, List.mem_cons_self, hx⟩
        · exact .inr ⟨hk, List.mem_singleton.1 hx⟩
      · exact .inl ⟨vs, List.mem_cons_of_mem _ hm, hx⟩
    · rcases List.mem_cons.1 hvs with heq | hm
      · exact .inl ⟨vs, heq ▸ List.mem_cons_self, hx⟩
      · rcases ih ⟨vs, hm, hx⟩ with ⟨vs', hvs', hx'⟩ | hnew
        · exact .inl ⟨vs', List.mem_cons_of_mem _ hvs', hx'⟩
        · exact .inr hnew

/-- Appending to the map keeps every entry non-empty. -/
theorem appendToKey_ne_nil {m : List (CustomObject × List CustomObject)}
    (hm : ∀ e ∈ m, e.2 ≠ []) (k v : CustomObject) : ∀ e ∈ appendToKey m k v, e.2 ≠ [] := by
  induction m with
  | nil =>
    intro e he
    rw [List.mem_singleton.1 he]
    exact List.cons_ne_nil v []
  | cons e₀ m ih =>
    obtain ⟨k₀, vs₀⟩ := e₀
    intro e he
    unfold appendToKey at he
    split_ifs at he
    · rcases List.mem_cons.1 he with rfl | he
      · simp
      · exact hm e (List.mem_cons_of_mem _ he)
    · rcases List.mem_cons.1 he with rfl | he
      · exact hm _ List.mem_cons_self
      · exact ih (fun e' he' => hm e' (List.mem_cons_of_mem _ he')) e he

variable (getReplicaSet : String → String → Option ReplicaSet) (pods : List Pod) in
/-- What the loop over the pods holds: every object of a handler was put there by a pod that
calls for that action, every object of the `replicaSets` map is a pod of that `ReplicaSet`, and
no entry of the map is empty. -/
structure Sound (acc : HandlersMap × List (CustomObject × List CustomObject)) : Prop where
  noAction : ∀ o ∈ acc.1.noAction, ∃ pod ∈ pods, expectedAction getReplicaSet pod = (.noAction, o)
  deleteObject : ∀ o ∈ acc.1.deleteObject,
    ∃ pod ∈ pods, expectedAction getReplicaSet pod = (.deleteObject, o)
  rollout : ∀ o ∈ acc.1.rollout, ∃ pod ∈ pods, expectedAction getReplicaSet pod = (.rollout, o)
  replicaSets : ∀ k x, InMap acc.2 k x → ∃ pod ∈ pods,
    (getParentObjectFromOwnerReferences pod.ownerReferences).kind = "ReplicaSet" ∧
    k = ⟨(getParentObjectFromOwnerReferences pod.ownerReferences).name, pod.namespace,
      "ReplicaSet"⟩ ∧ x = podObject pod
  nonempty : ∀ e ∈ acc.2, e.2 ≠ []

/-- The step lemma of the loop over the pods: a pass over a pod of the list keeps it sound. -/
theorem Sound.matchPod {getReplicaSet : String → String → Option ReplicaSet} {pods : List Pod}
    {acc : HandlersMap × List (CustomObject × List CustomObject)} (h : Sound getReplicaSet pods acc)
    {pod : Pod} (hpod : pod ∈ pods) : Sound getReplicaSet pods (Istio.matchPod acc pod) := by
  -- one case for each place the pass puts the pod
  rcases matchPod_cases acc pod with ⟨hk, hm⟩ | ⟨hk, hm⟩ | ⟨hk, hm⟩ | ⟨hk, hm⟩ <;> rw [hm]
  · have hpodAction : expectedAction getReplicaSet pod = (.noAction, podObject pod) := by
      unfold expectedAction
      rw [if_pos hk]
    refine ⟨fun o ho => ?_, h.deleteObject, h.rollout, h.replicaSets, h.nonempty⟩
    rcases List.mem_append.1 ho with ho | ho
    · exact h.noAction o ho
    · exact ⟨pod, hpod, by rw [List.mem_singleton.1 ho, hpodAction]⟩
  · refine ⟨h.noAction, h.deleteObject, h.rollout, fun k x hx => ?_,
      appendToKey_ne_nil h.nonempty _ _⟩
    rcases hx.of_appendToKey with hx | ⟨rfl, rfl⟩
    · exact h.replicaSets k x hx
    · exact ⟨pod, hpod, hk, by rw [hk], rfl⟩
  · have hpodAction : expectedAction getReplicaSet pod = (.deleteObject, podObject pod) := by
      unfold expectedAction
      rw [if_neg (by rw [hk]; decide), if_pos hk]
    refine ⟨h.noAction, fun o ho => ?_, h.rollout, h.replicaSets, h.nonempty⟩
    rcases List.mem_append.1 ho with ho | ho
    · exact h.deleteObject o ho
    · exact ⟨pod, hpod, by rw [List.mem_singleton.1 ho, hpodAction]⟩
  · have hpodAction : expectedAction getReplicaSet pod =
        (.rollout, ⟨(getParentObjectFromOwnerReferences pod.ownerReferences).name, pod.namespace,
          (getParentObjectFromOwnerReferences pod.ownerReferences).kind⟩) := by
      simp only [List.mem_cons, List.not_mem_nil, or_false, not_or] at hk
      obtain ⟨h₁, h₂, h₃, h₄⟩ := hk
      unfold expectedAction
      rw [if_neg (by tauto), if_neg h₄, if_neg h₃]
    refine ⟨h.noAction, h.deleteObject, fun o ho => ?_, h.replicaSets, h.nonempty⟩
    rcases mem_appendUniqueObject.1 ho with ho | rfl
    · exact h.rollout o ho
    · exact ⟨pod, hpod, hpodAction⟩

/-- The run lemma of the loop over the pods: passes over pods of the list keep it sound. -/
theorem Sound.foldl_matchPod {getReplicaSet : String → String → Option ReplicaSet}
    {pods : List Pod} (visited : List Pod) (hvisited : ∀ pod ∈ visited, pod ∈ pods)
    {acc : HandlersMap × List (CustomObject × List CustomObject)}
    (h : Sound getReplicaSet pods acc) :
    Sound getReplicaSet pods (visited.foldl Istio.matchPod acc) := by
  induction visited generalizing acc with
  | nil => exact h
  | cons pod visited ih =>
    exact ih (fun p hp => hvisited p (List.mem_cons_of_mem _ hp))
      (h.matchPod (hvisited pod List.mem_cons_self))

/-- **What `checkReplicaSets` returns comes from the map**: a pod of a `ReplicaSet` without an
owner, or the owner of a `ReplicaSet` of the map. -/
theorem mem_checkReplicaSets (getReplicaSet : String → String → Option ReplicaSet)
    (m : List (CustomObject × List CustomObject)) :
    (∀ x ∈ (checkReplicaSets getReplicaSet m).1,
      ∃ k, InMap m k x ∧ (replicaSetParent getReplicaSet k).name = "") ∧
    (∀ o ∈ (checkReplicaSets getReplicaSet m).2,
      ∃ k vs, (k, vs) ∈ m ∧ (replicaSetParent getReplicaSet k).name ≠ "" ∧
        o = replicaSetParent getReplicaSet k) := by
  unfold checkReplicaSets
  -- the passes start from empty lists: every result is one of a pass over an entry
  suffices hfold : ∀ acc : List CustomObject × List CustomObject,
      (∀ x ∈ (m.foldl (checkReplicaSet getReplicaSet) acc).1, x ∈ acc.1 ∨
        ∃ k, InMap m k x ∧ (replicaSetParent getReplicaSet k).name = "") ∧
      (∀ o ∈ (m.foldl (checkReplicaSet getReplicaSet) acc).2, o ∈ acc.2 ∨
        ∃ k vs, (k, vs) ∈ m ∧ (replicaSetParent getReplicaSet k).name ≠ "" ∧
          o = replicaSetParent getReplicaSet k) by
    obtain ⟨h1, h2⟩ := hfold ([], [])
    exact ⟨fun x hx => (h1 x hx).resolve_left List.not_mem_nil,
      fun o ho => (h2 o ho).resolve_left List.not_mem_nil⟩
  induction m with
  | nil => exact fun acc => ⟨fun x hx => .inl hx, fun o ho => .inl ho⟩
  | cons e m ih =>
    intro acc
    obtain ⟨k, vs⟩ := e
    obtain ⟨ih1, ih2⟩ := ih (checkReplicaSet getReplicaSet acc (k, vs))
    rw [List.foldl_cons]
    constructor
    · intro x hx
      rcases ih1 x hx with hx | ⟨k', ⟨vs', hvs', hx'⟩, hname⟩
      · rw [checkReplicaSet_eq] at hx
        split_ifs at hx with hname
        · rcases List.mem_append.1 hx with hx | hx
          · exact .inl hx
          · exact .inr ⟨k, ⟨vs, List.mem_cons_self, hx⟩, hname⟩
        · exact .inl hx
      · exact .inr ⟨k', ⟨vs', List.mem_cons_of_mem _ hvs', hx'⟩, hname⟩
    · intro o ho
      rcases ih2 o ho with ho | ⟨k', vs', hvs', hname, rfl⟩
      · rw [checkReplicaSet_eq] at ho
        split_ifs at ho with hname
        · exact .inl ho
        · rcases List.mem_append.1 ho with ho | ho
          · exact .inl ho
          · exact .inr ⟨k, vs, List.mem_cons_self, hname, List.mem_singleton.1 ho⟩
      · exact .inr ⟨k', vs', List.mem_cons_of_mem _ hvs', hname, rfl⟩

/-- **Every action of the handlers map is one a pod calls for.** -/
theorem exists_expectedAction_of_mem_actions (getReplicaSet : String → String → Option ReplicaSet)
    (pods : List Pod) {a : Handler × CustomObject}
    (ha : a ∈ (getHandlersMap getReplicaSet pods).actions) :
    ∃ pod ∈ pods, expectedAction getReplicaSet pod = a := by
  have hempty : Sound getReplicaSet pods (⟨[], [], []⟩, []) :=
    { noAction := fun _ h => by cases h
      deleteObject := fun _ h => by cases h
      rollout := fun _ h => by cases h
      replicaSets := fun _ _ ⟨_, hvs, _⟩ => by cases hvs
      nonempty := fun _ h => by cases h }
  have hsound : Sound getReplicaSet pods (pods.foldl matchPod (⟨[], [], []⟩, [])) :=
    Sound.foldl_matchPod pods (fun _ h => h) hempty
  set r := pods.foldl matchPod (⟨[], [], []⟩, [])
  obtain ⟨hdel, hroll⟩ := mem_checkReplicaSets getReplicaSet r.2
  -- a pod of a `ReplicaSet` of the map stands behind each object `checkReplicaSets` returns
  have hpodOf : ∀ k x, InMap r.2 k x → ∃ pod ∈ pods, expectedAction getReplicaSet pod =
      if (replicaSetParent getReplicaSet k).name = "" then (.deleteObject, x)
      else (.rollout, replicaSetParent getReplicaSet k) := by
    intro k x hx
    obtain ⟨pod, hpod, hkind, rfl, rfl⟩ := hsound.replicaSets k x hx
    exact ⟨pod, hpod, expectedAction_of_replicaSet getReplicaSet hkind⟩
  obtain ⟨hnoAction, hdeleteEq, hrolloutEq⟩ := getHandlersMap_lists getReplicaSet pods
  simp only [HandlersMap.actions, List.mem_append, List.mem_map] at ha
  rcases ha with (⟨o, ho, rfl⟩ | ⟨o, ho, rfl⟩) | ⟨o, ho, rfl⟩
  · rw [hnoAction] at ho
    exact hsound.noAction o ho
  · rw [hdeleteEq, mem_foldl_appendUniqueObject] at ho
    rcases ho with ho | ho
    · exact hsound.deleteObject o ho
    · obtain ⟨k, hx, hname⟩ := hdel o ho
      obtain ⟨pod, hpod, hpodAction⟩ := hpodOf k o hx
      exact ⟨pod, hpod, by rw [hpodAction, if_pos hname]⟩
  · rw [hrolloutEq, mem_foldl_appendUniqueObject] at ho
    rcases ho with ho | ho
    · exact hsound.rollout o ho
    · obtain ⟨k, vs, hvs, hname, rfl⟩ := hroll o ho
      -- the entry holds a pod, whose owner decides the rollout
      obtain ⟨x, hx⟩ := List.exists_mem_of_ne_nil vs (hsound.nonempty _ hvs)
      obtain ⟨pod, hpod, hpodAction⟩ := hpodOf k x ⟨vs, hvs, hx⟩
      exact ⟨pod, hpod, by rw [hpodAction, if_neg hname]⟩

/-- **The reset runs exactly the actions its pods call for, and rolls out each workload
once.**  An action of `Reset` is the warning, the delete or the rollout that some pod without
the reset warning calls for by its owners, and every such pod's action is run.  Warnings are not
merged: the `NoActionHandler` gets one object for each entry of the list, and the gatherer lists
a pod once for each of its outdated sidecars. -/
theorem reset_eq_expectedActions (getReplicaSet : String → String → Option ReplicaSet)
    (pods : List Pod) :
    (∀ a, a ∈ reset getReplicaSet pods ↔
      ∃ pod ∈ removeAnnotatedPods pods annotationResetWarningKey,
        expectedAction getReplicaSet pod = a) ∧
    (getHandlersMap getReplicaSet (removeAnnotatedPods pods annotationResetWarningKey)).rollout.Nodup ∧
    (getHandlersMap getReplicaSet (removeAnnotatedPods pods annotationResetWarningKey)).noAction =
      ((removeAnnotatedPods pods annotationResetWarningKey).filter annotatedByNoAction).map
        podObject ∧
    ∀ (decodeContainers : String → Option (List String)) (image : ExpectedImage),
      getPodsWithDifferentImage decodeContainers pods image =
        pods.flatMap fun pod =>
          if (pod.annotations.lookup "sidecar.istio.io/status").isNone || !isPodReady pod then []
          else List.replicate (pod.containers.countP (outdatedSidecar decodeContainers image pod))
            pod :=
  ⟨fun _ => ⟨exists_expectedAction_of_mem_actions getReplicaSet _,
      fun ⟨pod, hpod, ha⟩ => ha ▸ expectedAction_mem_actions getReplicaSet _ pod hpod⟩,
    getHandlersMap_rollout_nodup getReplicaSet _, getHandlersMap_noAction getReplicaSet _,
    fun decodeContainers image => getPodsWithDifferentImage_eq_flatMap decodeContainers pods image⟩

/-! ## The warning after a failed rollout -/

/-- The selector is built from the last label the loop visits. -/
theorem buildLabelSelector_append_singleton (labels : List (String × String)) (key value : String) :
    buildLabelSelector (labels ++ [(key, value)]) = key ++ "=" ++ value := by
  simp [buildLabelSelector, List.foldl_append]

/-- For the kinds `doRollout` patches, `annotateObject` lists the pods of the namespace by the
selector built from the workload's `matchLabels`. -/
theorem annotateObject_of_rolloutKind (cluster : Cluster) (object : CustomObject)
    (labels : List (String × String))
    (hkind : object.kind ∈ ["DaemonSet", "Deployment", "ReplicaSet", "StatefulSet"])
    (hlabels : cluster.matchLabels object.kind object.namespace object.name = some labels) :
    annotateObject cluster object =
      .ok (listPodsWithLabelSelector cluster object.namespace (buildLabelSelector labels)) := by
  have hselector : labelSelectorOf object.kind cluster object = .ok (buildLabelSelector labels) := by
    simp [labelSelectorOf, hlabels]
  simp only [List.mem_cons, List.not_mem_nil, or_false] at hkind
  unfold annotateObject
  -- each of the four kinds reads its own workload through the same getter
  rcases hkind with hk | hk | hk | hk <;> rw [hk] at hselector ⊢ <;>
    simp [annotatePodsFor, getDaemonSetLabelSelector, getDeploymentLabelSelector,
      getReplicaSetLabelSelector, getStatefulSetLabelSelector, hselector, bind, Except.bind]

/-- A rollout of a kind `doRollout` patches whose patch or wait fails ends in the warning. -/
theorem executeAndWaitFor_of_failure (cluster : Cluster) (object : CustomObject)
    (patch wait : Option String) (hfail : patch.isSome ∨ wait.isSome)
    (hkind : object.kind ∈ ["DaemonSet", "Deployment", "ReplicaSet", "StatefulSet"]) :
    ∃ err, RolloutHandler.executeAndWaitFor cluster false patch wait object =
      annotateAfterFailure cluster object err := by
  have hpatch : doRollout patch object = patch := if_pos hkind
  unfold RolloutHandler.executeAndWaitFor
  simp only [Bool.false_eq_true, if_false, hpatch]
  cases patch with
  | some err => exact ⟨err, rfl⟩
  | none =>
    obtain ⟨err, rfl⟩ : ∃ err, wait = some err := by
      simpa [Option.isSome_iff_exists] using hfail
    exact ⟨err, rfl⟩

/-- **A failed rollout warns the pods of the last label only.**  When the patch or the wait of
a rollout fails, the warning is set on exactly the pods of the workload's namespace that carry
the last label of `matchLabels` the loop of `buildLabelSelector` visits, whatever the labels
before it: for every order of the map. -/
theorem rollout_failure_annotates_last_label (cluster : Cluster) (object : CustomObject)
    (patch wait : Option String) (hfail : patch.isSome ∨ wait.isSome)
    (hkind : object.kind ∈ ["DaemonSet", "Deployment", "ReplicaSet", "StatefulSet"])
    (labels : List (String × String)) (key value : String)
    (hlabels : cluster.matchLabels object.kind object.namespace object.name =
      some (labels ++ [(key, value)])) :
    (RolloutHandler.executeAndWaitFor cluster false patch wait object).1 =
      annotatePods cluster.pods
        (listPodsWithLabelSelector cluster object.namespace (key ++ "=" ++ value))
        annotationResetWarningKey annotationResetWarningRolloutTimeoutVal := by
  obtain ⟨err, hrun⟩ := executeAndWaitFor_of_failure cluster object patch wait hfail hkind
  rw [hrun, annotateAfterFailure, annotateObject_of_rolloutKind cluster object _ hkind hlabels,
    buildLabelSelector_append_singleton]

/-- A pod of the namespace `default` with the given labels, owned by a `ReplicaSet`. -/
def labelledPod (name : String) (labels : List (String × String)) : Pod :=
  { name, «namespace» := "default", kind := "Pod", annotations := [], labels,
    ownerReferences := [⟨"web-5d8f", "ReplicaSet"⟩], containers := [], phase := "Running",
    conditions := [], deletionTimestamp := none }

/-- The deployment `web` selects `app=web, tier=front`; the pod `cache` is only `tier=front`. -/
def webCluster : Cluster where
  pods := [labelledPod "web-0" [("app", "web"), ("tier", "front")],
    labelledPod "cache" [("app", "cache"), ("tier", "front")]]
  matchLabels kind ns name :=
    if kind = "Deployment" ∧ ns = "default" ∧ name = "web" then
      some [("app", "web"), ("tier", "front")]
    else none

theorem rollout_timeout_warns_cache_pod :
    ((some "timed out").isSome ∨ (none : Option String).isSome) ∧
      ("Deployment" ∈ ["DaemonSet", "Deployment", "ReplicaSet", "StatefulSet"]) ∧
      webCluster.matchLabels "Deployment" "default" "web" =
        some ([("app", "web")] ++ [("tier", "front")]) ∧
      (RolloutHandler.executeAndWaitFor webCluster false (some "timed out") none
          ⟨"web", "default", "Deployment"⟩).1 =
        annotatePods webCluster.pods (listPodsWithLabelSelector webCluster "default" ("tier" ++ "=" ++ "front"))
          annotationResetWarningKey annotationResetWarningRolloutTimeoutVal ∧
      (listPodsWithLabelSelector webCluster "default" ("tier" ++ "=" ++ "front")).map (·.name) =
        ["web-0", "cache"] :=
  ⟨.inl rfl, by simp, by simp [webCluster],
    rollout_failure_annotates_last_label webCluster ⟨"web", "default", "Deployment"⟩
      (some "timed out") none (.inl rfl) (by simp) [("app", "web")] "tier" "front"
      (by simp [webCluster]),
    rfl⟩

end Istio

end Reconciler
