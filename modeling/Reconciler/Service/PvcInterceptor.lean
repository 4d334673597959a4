import Reconciler.Kubernetes.Visit

/-!
# The PVC interceptor

`PVCInterceptor` (`pkg/reconciler/service/pvcinterceptor.go`) takes out of a deployment the
persistent volume claims that exist in the cluster already, and the stateful sets whose
existing version defines claims, since the reconciler does not update claims.  It visits the
claims and then the stateful sets with `VisitByKind`; its callback removes the resource it is
called with.  `applyInterceptors` (`kubernetes/adapter.go`) runs the interceptors over the list
of a manifest and deploys what is left.

The client's lookups and the conversion of an unstructured resource are parameters; what the
interceptor makes of a converted resource and of the claims of a stateful set is only logged,
and is left out.  Since `VisitByKind` passes over the second resource after removing the first
(`WellFormed.visitByKind_spares_second`), a manifest of three or more claims that all exist
keeps its second claim in what `applyInterceptors` returns
(`applyInterceptors_keeps_second_claim`).
-/

namespace Reconciler

open GoSlice ResourceCacheList

/-- `appv1.StatefulSet`, as the interceptor reads it. -/
structure StatefulSet (PersistentVolumeClaim : Type) where
  volumeClaimTemplates : List PersistentVolumeClaim

/-- The lookups of `kubernetes.Client` that the interceptor makes, by name and namespace. -/
structure KubeClient (PersistentVolumeClaim : Type) where
  getPersistentVolumeClaim : String → String → Except String (Option PersistentVolumeClaim)
  getStatefulSet : String → String → Except String (Option (StatefulSet PersistentVolumeClaim))

/-- `runtime.DefaultUnstructuredConverter.FromUnstructured`, into the two types it is called with. -/
structure Converter (PersistentVolumeClaim : Type) where
  toPersistentVolumeClaim : Unstructured → Except String PersistentVolumeClaim
  toStatefulSet : Unstructured → Except String (StatefulSet PersistentVolumeClaim)

/-- `ResolveNamespace`: the namespace of the resource has precedence. -/
def resolveNamespace (resource : Unstructured) («namespace» : String) : String :=
  if resource.namespace ≠ "" then resource.namespace else «namespace»

/-- `ResourceInterceptor`: its method `Intercept`, which changes the list and may fail. -/
abbrev ResourceInterceptor := ResourceCacheList → String → ResourceCacheList × Option String

/-- `PVCInterceptor`, with the converter its methods call; the logger is left out. -/
structure PVCInterceptor (PersistentVolumeClaim : Type) where
  kubeClient : KubeClient PersistentVolumeClaim
  converter : Converter PersistentVolumeClaim

namespace PVCInterceptor

variable {PersistentVolumeClaim : Type} (i : PVCInterceptor PersistentVolumeClaim)

/-- The callback of `interceptPVC`: a claim that exists already leaves the deployment. -/
def pvcAction («namespace» : String) (u : Unstructured) : Except String CallbackAction :=
  match i.kubeClient.getPersistentVolumeClaim u.name (resolveNamespace u «namespace») with
  | .error err => .error err
  | .ok none => .ok .keep
  | .ok (some _) =>
    match i.converter.toPersistentVolumeClaim u with
    | .error err => .error ("pvc interceptor failed to convert unstructured entity '" ++ u.name ++
        "' to PVC: " ++ err)
    | .ok _ => .ok .remove

/-- `interceptPVC`. -/
def interceptPVC (resources : ResourceCacheList) («namespace» : String) :
    ResourceCacheList × Option String :=
  resources.visitByKind "PersistentVolumeClaim" (actionCallback (i.pvcAction «namespace»))

/-- The callback of `interceptStatefulSet`: a stateful set whose existing version defines
claims leaves the deployment. -/
def statefulSetAction («namespace» : String) (u : Unstructured) : Except String CallbackAction :=
  match i.kubeClient.getStatefulSet u.name (resolveNamespace u «namespace») with
  | .error err => .error err
  | .ok none => .ok .keep
  | .ok (some sfsOriginal) =>
    match i.converter.toStatefulSet u with
    | .error err => .error ("pvc interceptor failed to convert unstructured entity '" ++ u.name ++
        "' to statefulset: " ++ err)
    | .ok _ => if sfsOriginal.volumeClaimTemplates.length > 0 then .ok .remove else .ok .keep

/-- `interceptStatefulSet`. -/
def interceptStatefulSet (resources : ResourceCacheList) («namespace» : String) :
    ResourceCacheList × Option String :=
  resources.visitByKind "StatefulSet" (actionCallback (i.statefulSetAction «namespace»))

/-- `Intercept`: the claims, then the stateful sets, unless the claims fail. -/
def intercept : ResourceInterceptor := fun resources «namespace» =>
  match i.interceptPVC resources «namespace» with
  | (resources, none) => i.interceptStatefulSet resources «namespace»
  | (resources, some err) => (resources, some err)

/-- Neither callback replaces a resource: they keep it, remove it or fail. -/
theorem pvcAction_ne_replace («namespace» : String) (u u' : Unstructured) :
    i.pvcAction «namespace» u ≠ .ok (.replace u') := by
  unfold pvcAction
  split
  · simp
  · simp
  · split <;> simp

theorem statefulSetAction_ne_replace («namespace» : String) (u u' : Unstructured) :
    i.statefulSetAction «namespace» u ≠ .ok (.replace u') := by
  unfold statefulSetAction
  split
  · simp
  · simp
  · split
    · simp
    · split <;> simp

/-- A claim that exists in the cluster, and converts, leaves the deployment. -/
theorem pvcAction_of_exists {«namespace» : String} {u : Unstructured}
    {pvcOriginal pvcTarget : PersistentVolumeClaim}
    (horiginal : i.kubeClient.getPersistentVolumeClaim u.name (resolveNamespace u «namespace») =
      .ok (some pvcOriginal))
    (htarget : i.converter.toPersistentVolumeClaim u = .ok pvcTarget) :
    i.pvcAction «namespace» u = .ok .remove := by
  simp [pvcAction, horiginal, htarget]

/-- The callback on a stateful set fails only where its lookup or its conversion does. -/
theorem statefulSetAction_ok {«namespace» : String} {u : Unstructured}
    {sfsOriginal : Option (StatefulSet PersistentVolumeClaim)}
    {sfsTarget : StatefulSet PersistentVolumeClaim}
    (horiginal : i.kubeClient.getStatefulSet u.name (resolveNamespace u «namespace») =
      .ok sfsOriginal)
    (htarget : i.converter.toStatefulSet u = .ok sfsTarget) :
    ∃ a, i.statefulSetAction «namespace» u = .ok a := by
  unfold statefulSetAction
  rw [horiginal]
  cases sfsOriginal with
  | none => exact ⟨_, rfl⟩
  | some sfs =>
    simp only [htarget]
    split <;> exact ⟨_, rfl⟩

/-- When the claims pass, `Intercept` goes on to the stateful sets. -/
theorem intercept_of_interceptPVC {resources : ResourceCacheList} {«namespace» : String}
    (hpvc : (i.interceptPVC resources «namespace»).2 = none) :
    i.intercept resources «namespace» =
      i.interceptStatefulSet (i.interceptPVC resources «namespace»).1 «namespace» := by
  unfold intercept
  split
  · rename_i resources' h
    rw [h]
  · rename_i resources' err h
    rw [h] at hpvc
    cases hpvc

end PVCInterceptor

/-- The loop of `applyInterceptors`: each interceptor in turn, a nil one skipped, up to the
first that fails. -/
def runInterceptors («namespace» : String) :
    List (Option ResourceInterceptor) → ResourceCacheList → Except String ResourceCacheList
  | [], resources => .ok resources
  | none :: interceptors, resources => runInterceptors «namespace» interceptors resources
  | some interceptor :: interceptors, resources =>
    match interceptor resources «namespace» with
    | (resources, none) => runInterceptors «namespace» interceptors resources
    | (_, some err) => .error err

/-- `kubeClientAdapter.applyInterceptors`, from the resources that the manifest decodes to,
with the namespace resource added: the resources of the list after every interceptor. -/
def applyInterceptors (heap : Heap Unstructured) (unstructsTarget : Slice) («namespace» : String)
    (interceptors : List (Option ResourceInterceptor)) : Except String (List Unstructured) :=
  (runInterceptors «namespace» interceptors (newResourceList heap unstructsTarget)).map
    ResourceCacheList.resourceList

/-- A run of one interceptor that returns no error yields the list it leaves. -/
theorem runInterceptors_singleton_of_ok {«namespace» : String} {interceptor : ResourceInterceptor}
    {resources : ResourceCacheList} (hok : (interceptor resources «namespace»).2 = none) :
    runInterceptors «namespace» [some interceptor] resources =
      .ok (interceptor resources «namespace»).1 := by
  simp only [runInterceptors]
  split
  · rename_i resources' h
    rw [h]
  · rename_i resources' err h
    rw [h] at hok
    cases hok

section
variable {PersistentVolumeClaim : Type}

/-- **`applyInterceptors` keeps an existing claim.**  Take a manifest whose claims are `a`, `b`
and at least one more, pairwise different in name, namespace or kind, in a cluster that holds
every claim, and where every lookup and conversion succeeds.  Then `applyInterceptors` with the
PVC interceptor returns a list, and `b` is in it: removing `a` moved `b` to the index the visit
had passed, and the visit of the stateful sets removes none but stateful sets. -/
theorem applyInterceptors_keeps_second_claim {heap : Heap Unstructured} {unstructsTarget : Slice}
    (hv : Valid heap unstructsTarget) («namespace» : String)
    (i : PVCInterceptor PersistentVolumeClaim) {a b : Unstructured} {rest : List Unstructured}
    (hclaims : (heap.toList unstructsTarget).filter
      (fun u => toLower u.kind == toLower "PersistentVolumeClaim") = a :: b :: rest)
    (hrest : rest ≠ [])
    (hdistinct : (a :: b :: rest).Pairwise fun x y => x.sameResource y = false)
    (hexists : ∀ name ns, ∃ pvc, i.kubeClient.getPersistentVolumeClaim name ns = .ok (some pvc))
    (hconvert : ∀ u, ∃ pvc, i.converter.toPersistentVolumeClaim u = .ok pvc)
    (hsts : ∀ name ns, ∃ sfs, i.kubeClient.getStatefulSet name ns = .ok sfs)
    (hconvertSts : ∀ u, ∃ sfs, i.converter.toStatefulSet u = .ok sfs) :
    ∃ l, applyInterceptors heap unstructsTarget «namespace» [some i.intercept] = .ok l ∧
      b ∈ l := by
  obtain ⟨hr, hlist⟩ := newResourceList_wellFormed hv
  set r := newResourceList heap unstructsTarget
  have hkind : r.getByKind "PersistentVolumeClaim" = a :: b :: rest := by
    rw [hr.getByKind_eq, hlist]
    exact hclaims
  have hremove : ∀ u, i.pvcAction «namespace» u = .ok .remove := fun u => by
    obtain ⟨pvcOriginal, horiginal⟩ := hexists u.name (resolveNamespace u «namespace»)
    obtain ⟨pvcTarget, htarget⟩ := hconvert u
    exact i.pvcAction_of_exists horiginal htarget
  -- the visit of the claims fails nowhere and passes over `b`
  have hpvc : (i.interceptPVC r «namespace»).2 = none :=
    visitSlice_snd_of_ok _ fun u => ⟨_, hremove u⟩
  have hb₁ : b ∈ (i.interceptPVC r «namespace»).1.resourceList :=
    (hr.visitByKind_spares_second hkind hrest (hkind ▸ hdistinct) (hremove a)
      fun y _ u => i.pvcAction_ne_replace «namespace» y u).1
  have hr₁ : (i.interceptPVC r «namespace»).1.WellFormed := hr.visitSlice _ _
  -- the visit of the stateful sets fails nowhere and removes only stateful sets
  have hkb : toLower b.kind ≠ toLower "StatefulSet" := by
    rw [hr.kind_of_mem_getByKind (show b ∈ r.getByKind "PersistentVolumeClaim" by simp [hkind])]
    decide
  have hsfs : (i.interceptStatefulSet (i.interceptPVC r «namespace»).1 «namespace»).2 = none :=
    visitSlice_snd_of_ok _ fun u => by
      obtain ⟨sfsOriginal, horiginal⟩ := hsts u.name (resolveNamespace u «namespace»)
      obtain ⟨sfsTarget, htarget⟩ := hconvertSts u
      exact i.statefulSetAction_ok horiginal htarget
  have hb₂ := (hr₁.visitByKind_keeps_other hb₁ hkb
    fun y u => i.statefulSetAction_ne_replace «namespace» y u).2
  refine ⟨_, ?_, hb₂⟩
  have hintercept := i.intercept_of_interceptPVC hpvc
  rw [applyInterceptors, runInterceptors_singleton_of_ok (by rw [hintercept]; exact hsfs),
    hintercept]
  rfl

end

/-- A claim of the manifest in the namespace default. -/
def claim (name : String) : Unstructured :=
  { kind := "PersistentVolumeClaim", apiVersion := "v1", name := name, «namespace» := "default" }

/-- The three claims data-0, data-1 and data-2, as the manifest decodes them into one array. -/
def threeClaims : Heap Unstructured × Slice :=
  (⟨[[claim "data-0", claim "data-1", claim "data-2"]]⟩, ⟨0, 0, 3, 3⟩)

/-- A cluster that holds every claim and no stateful set. -/
def existingClaims : PVCInterceptor Unit :=
  { kubeClient := { getPersistentVolumeClaim := fun _ _ => .ok (some ()),
                    getStatefulSet := fun _ _ => .ok none },
    converter := { toPersistentVolumeClaim := fun _ => .ok (),
                   toStatefulSet := fun _ => .ok { volumeClaimTemplates := [] } } }

/-- All three claims exist, and data-1 is deployed all the same. -/
theorem applyInterceptors_keeps_data_1 :
    ∃ l, applyInterceptors threeClaims.1 threeClaims.2 "default" [some existingClaims.intercept] =
      .ok l ∧ claim "data-1" ∈ l :=
  applyInterceptors_keeps_second_claim ⟨by decide, fun _ => ⟨by decide, by decide⟩⟩ "default"
    existingClaims
    (show (threeClaims.1.toList threeClaims.2).filter _ =
      claim "data-0" :: claim "data-1" :: [claim "data-2"] from rfl)
    (by simp) (by decide) (fun _ _ => ⟨(), rfl⟩) (fun _ => ⟨(), rfl⟩) (fun _ _ => ⟨none, rfl⟩)
    (fun _ => ⟨_, rfl⟩)

/-- The run itself: data-0 and data-2 leave the deployment, and data-1 stays. -/
example : applyInterceptors threeClaims.1 threeClaims.2 "default" [some existingClaims.intercept] =
    .ok [claim "data-1"] := by
  rfl

end Reconciler
