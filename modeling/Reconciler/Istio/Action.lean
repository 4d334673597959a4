import Mathlib.Order.Basic
import Mathlib.Data.Prod.Lex
import Reconciler.Lib.Decimal

/-!
# The Istio actions and their version checks

`pkg/reconciler/instances/istio/action.go`: the actions the Istio reconciler runs around its
chart.  Each reads the versions on the cluster through `IstioPerformer.Version`: the version of
the `istioctl` client, the target version of the chart, the version of the pilot and the
versions of the data plane.  The main action installs Istio where none runs, and updates it only
when the pilot and every data-plane version lie within one minor version of the target, as far
as `istioctl upgrade` goes.  The proxy reset runs only when the pilot already runs the target,
and the pre-action refuses a client more than one minor version away from the target.

go-semver's `NewVersion` and Go's `strings.TrimSpace` are parameters.  The map of data-plane
versions is the list of its keys in the order a range visits them, and every result holds for
every order.  A performer is what its calls return, and an action yields the calls it makes on
the cluster, in order, with the error it returns.
-/

namespace Reconciler

namespace Istio

/-! ## Versions -/

/-- `semver.Version` of go-semver, with the numbers the actions read.  go-semver splits the
pre-release off at the first `-` before it parses the numbers, so none is negative. -/
@[ext]
structure Version where
  major : Nat
  minor : Nat
  patch : Nat
  deriving DecidableEq, Repr

/-- `helperVersion`. -/
structure HelperVersion where
  ver : Version
  deriving DecidableEq, Repr

/-- `helperVersion.compare`: `1`, `0` or `-1` as the receiver is newer than `second`, the same,
or older, by major, then minor, then patch. -/
def HelperVersion.compare (h second : HelperVersion) : Int :=
  if h.ver.major > second.ver.major then 1
  else if h.ver.major = second.ver.major then
    if h.ver.minor > second.ver.minor then 1
    else if h.ver.minor = second.ver.minor then
      if h.ver.patch > second.ver.patch then 1
      else if h.ver.patch = second.ver.patch then 0
      else -1
    else -1
  else -1

namespace Version

/-- The version as a point of the lexicographic order on major, minor and patch. -/
def lex (v : Version) : ℕ ×ₗ (ℕ ×ₗ ℕ) :=
  toLex (v.major, toLex (v.minor, v.patch))

theorem lex_lt_lex {a b : Version} : a.lex < b.lex ↔ a.major < b.major ∨
    a.major = b.major ∧ (a.minor < b.minor ∨ a.minor = b.minor ∧ a.patch < b.patch) := by
  simp only [lex, Prod.Lex.toLex_lt_toLex]

theorem lex_inj {a b : Version} : a.lex = b.lex ↔ a = b := by
  cases a
  cases b
  simp [lex]

end Version

namespace HelperVersion

/-! `compare` is the three-way comparison of the lexicographic order: each of its results
names one side of the trichotomy. -/

theorem compare_eq_one_iff {a b : HelperVersion} : a.compare b = 1 ↔ b.ver.lex < a.ver.lex := by
  rw [Version.lex_lt_lex]
  unfold HelperVersion.compare
  split_ifs <;> grind

theorem compare_eq_zero_iff {a b : HelperVersion} : a.compare b = 0 ↔ a.ver = b.ver := by
  rw [Version.ext_iff]
  unfold HelperVersion.compare
  split_ifs <;> grind

theorem compare_eq_neg_one_iff {a b : HelperVersion} :
    a.compare b = -1 ↔ a.ver.lex < b.ver.lex := by
  rw [Version.lex_lt_lex]
  unfold HelperVersion.compare
  split_ifs <;> grind

end HelperVersion

/-- `amongOneMinor`.  Go subtracts the minors as signed numbers. -/
def amongOneMinor (first second : HelperVersion) : Bool :=
  first.ver.major == second.ver.major &&
    (first.ver.minor == second.ver.minor ||
      (first.ver.minor : Int) - second.ver.minor == -1 ||
      (first.ver.minor : Int) - second.ver.minor == 1)

/-- Two versions lie among one minor version when they share the major version and their
minors differ by at most one. -/
theorem amongOneMinor_iff {first second : HelperVersion} :
    amongOneMinor first second = true ↔ first.ver.major = second.ver.major ∧
      first.ver.minor ≤ second.ver.minor + 1 ∧ second.ver.minor ≤ first.ver.minor + 1 := by
  simp only [amongOneMinor, Bool.and_eq_true, Bool.or_eq_true, beq_iff_eq]
  omega

/-- `getActionTypeFrom`. -/
def getActionTypeFrom (comparison : Int) : String :=
  if comparison = 1 then "upgrade"
  else if comparison = 0 then "reconciliation"
  else if comparison = -1 then "downgrade"
  else "unknown"

/-- Versions more than one minor version apart differ, so the comparison of the target with the
component names an upgrade or a downgrade, never a reconciliation. -/
theorem getActionTypeFrom_of_not_amongOneMinor {component target : HelperVersion}
    (hfar : amongOneMinor component target = false) :
    getActionTypeFrom (target.compare component) =
      if component.ver.lex < target.ver.lex then "upgrade" else "downgrade" := by
  rcases lt_trichotomy component.ver.lex target.ver.lex with hlt | heq | hgt
  · rw [HelperVersion.compare_eq_one_iff.2 hlt, if_pos hlt]
    rfl
  · -- equal versions are among one minor version of each other
    have hnear : amongOneMinor component target = true := by
      rw [Version.lex_inj] at heq
      exact amongOneMinor_iff.2 ⟨by rw [heq], by rw [heq]; omega, by rw [heq]; omega⟩
    simp [hnear] at hfar
  · rw [HelperVersion.compare_eq_neg_one_iff.2 hgt, if_neg (lt_asymm hgt)]
    rfl

/-- `istioctl.Version.MajorMinorPatch`: `fmt.Sprintf("%d.%d.%d", …)`. -/
def majorMinorPatch (v : Version) : String :=
  toString v.major ++ "." ++ toString v.minor ++ "." ++ toString v.patch

/-- The text `MajorMinorPatch` writes names the version: two versions write it alike exactly when
they are equal. -/
theorem majorMinorPatch_inj {a b : Version} : majorMinorPatch a = majorMinorPatch b ↔ a = b := by
  rw [majorMinorPatch, majorMinorPatch, Decimal.dotted_inj, Version.ext_iff]

/-- `actions.IstioStatus`.  `DataPlaneVersions` is a set of versions kept as a map to `true`;
the model keeps its keys. -/
structure IstioStatus where
  clientVersion : String
  targetVersion : String
  targetPrefix : String
  pilotVersion : String
  dataPlaneVersions : List String
  deriving DecidableEq, Repr

/-- `isInstalled`: a pilot or a data plane runs. -/
def isInstalled (istioStatus : IstioStatus) : Bool :=
  !(istioStatus.dataPlaneVersions.length == 0 && istioStatus.pilotVersion == "")

/-- `canInstall`. -/
def canInstall (istioStatus : IstioStatus) : Bool :=
  !isInstalled istioStatus

/-- `canUninstall`. -/
def canUninstall (istioStatus : IstioStatus) : Bool :=
  isInstalled istioStatus && istioStatus.clientVersion != ""

/-! ## The checks -/

section Checks

variable (newVersion : String → Except String Version)

/-- `newHelperVersionFrom`. -/
def newHelperVersionFrom (versionInString : String) : Except String HelperVersion :=
  match newVersion versionInString with
  | .error err => .error err
  | .ok version => .ok ⟨version⟩

/-- `isComponentCompatible`: a component that runs no version is compatible; otherwise both
versions must parse and lie within one minor version. -/
def isComponentCompatible (componentVersion targetVersion componentName : String) :
    Bool × Option String :=
  if componentVersion = "" then (true, none)
  else
    match newHelperVersionFrom newVersion componentVersion with
    | .error err => (false, some err)
    | .ok componentHelperVersion =>
      match newHelperVersionFrom newVersion targetVersion with
      | .error err => (false, some err)
      | .ok targetHelperVersion =>
        let componentVsTargetComparison := targetHelperVersion.compare componentHelperVersion
        if !amongOneMinor componentHelperVersion targetHelperVersion then
          (false, some ("Could not perform " ++ getActionTypeFrom componentVsTargetComparison ++
            " for " ++ componentName ++ " from version: " ++ componentVersion ++ " to version: " ++
            targetVersion ++ " - the difference between versions exceed one minor version"))
        else (true, none)

/-- go-semver reads both versions, and they share the major version with minors at most one
apart. -/
def WithinOneMinor (componentVersion targetVersion : String) : Prop :=
  ∃ component target, newVersion componentVersion = .ok component ∧
    newVersion targetVersion = .ok target ∧ component.major = target.major ∧
    component.minor ≤ target.minor + 1 ∧ target.minor ≤ component.minor + 1

/-- What an update asks of one component: it runs no version, or one within one minor version of
the target. -/
def Updatable (targetVersion componentVersion : String) : Prop :=
  componentVersion = "" ∨ WithinOneMinor newVersion componentVersion targetVersion

/-- The two versions as go-semver reads them, when both parse. -/
theorem withinOneMinor_of_ok {componentVersion targetVersion : String} {component target : Version}
    (hc : newVersion componentVersion = .ok component) (ht : newVersion targetVersion = .ok target) :
    WithinOneMinor newVersion componentVersion targetVersion ↔
      amongOneMinor ⟨component⟩ ⟨target⟩ = true := by
  simp [WithinOneMinor, hc, ht, amongOneMinor_iff]

theorem not_withinOneMinor_of_error {componentVersion targetVersion err : String}
    (h : newVersion componentVersion = .error err ∨ newVersion targetVersion = .error err) :
    ¬ WithinOneMinor newVersion componentVersion targetVersion := by
  rintro ⟨component, target, hc, ht, -⟩
  rcases h with h | h <;> simp_all

/-- The flag of `isComponentCompatible` never comes without its error: a component is compatible
with no error, or not with one. -/
theorem isComponentCompatible_cases (componentVersion targetVersion componentName : String) :
    isComponentCompatible newVersion componentVersion targetVersion componentName = (true, none) ∨
      ∃ err, isComponentCompatible newVersion componentVersion targetVersion componentName =
        (false, some err) := by
  unfold isComponentCompatible newHelperVersionFrom
  split_ifs
  · exact .inl rfl
  · repeat' split
    all_goals simp

theorem isComponentCompatible_fst (componentVersion targetVersion componentName : String) :
    (isComponentCompatible newVersion componentVersion targetVersion componentName).1 = true ↔
      Updatable newVersion targetVersion componentVersion := by
  unfold isComponentCompatible Updatable
  by_cases hempty : componentVersion = ""
  · simp [hempty]
  rw [if_neg hempty]
  simp only [hempty, false_or, newHelperVersionFrom]
  cases hc : newVersion componentVersion with
  | error err => simpa using not_withinOneMinor_of_error newVersion (.inl hc)
  | ok component =>
    cases ht : newVersion targetVersion with
    | error err => simpa using not_withinOneMinor_of_error newVersion (.inr ht)
    | ok target =>
      rw [withinOneMinor_of_ok newVersion hc ht]
      cases hamong : amongOneMinor ⟨component⟩ ⟨target⟩ <;> simp [hamong]

/-- When both versions parse and lie more than one minor version apart, the error names the
direction of the step: an upgrade when the target is the newer, a downgrade when it is the older. -/
theorem isComponentCompatible_of_far {componentVersion targetVersion : String}
    {component target : Version} (componentName : String) (hne : componentVersion ≠ "")
    (hc : newVersion componentVersion = .ok component) (ht : newVersion targetVersion = .ok target)
    (hfar : ¬ WithinOneMinor newVersion componentVersion targetVersion) :
    isComponentCompatible newVersion componentVersion targetVersion componentName =
      (false, some ("Could not perform " ++
        (if component.lex < target.lex then "upgrade" else "downgrade") ++ " for " ++
        componentName ++ " from version: " ++ componentVersion ++ " to version: " ++ targetVersion ++
        " - the difference between versions exceed one minor version")) := by
  have hamong : amongOneMinor ⟨component⟩ ⟨target⟩ = false := by
    simpa [withinOneMinor_of_ok newVersion hc ht] using hfar
  simp only [isComponentCompatible, newHelperVersionFrom, hne, if_false, hc, ht, hamong,
    Bool.not_false, if_true, getActionTypeFrom_of_not_amongOneMinor hamong]

/-- go-semver's `NewVersion` on the versions of the examples below; it refuses every other
text. -/
def sampleNewVersion : String → Except String Version
  | "1.10.2" => .ok ⟨1, 10, 2⟩
  | "1.11.0" => .ok ⟨1, 11, 0⟩
  | "1.12.0" => .ok ⟨1, 12, 0⟩
  | version => .error (version ++ " is not in dotted-tri format")

/-- A pilot two minor versions behind the target: the error asks for an upgrade. -/
theorem isComponentCompatible_pilot_two_minors_behind :
    ¬ WithinOneMinor sampleNewVersion "1.10.2" "1.12.0" ∧
      isComponentCompatible sampleNewVersion "1.10.2" "1.12.0" "Pilot" =
        (false, some ("Could not perform " ++
          (if (⟨1, 10, 2⟩ : Version).lex < (⟨1, 12, 0⟩ : Version).lex then "upgrade"
            else "downgrade") ++
          " for " ++ "Pilot" ++ " from version: " ++ "1.10.2" ++ " to version: " ++ "1.12.0" ++
          " - the difference between versions exceed one minor version")) := by
  have hc : sampleNewVersion "1.10.2" = .ok ⟨1, 10, 2⟩ := by decide
  have ht : sampleNewVersion "1.12.0" = .ok ⟨1, 12, 0⟩ := by decide
  have hfar : ¬ WithinOneMinor sampleNewVersion "1.10.2" "1.12.0" := by
    rw [withinOneMinor_of_ok sampleNewVersion hc ht]
    decide
  exact ⟨hfar, isComponentCompatible_of_far sampleNewVersion "Pilot" (by decide) hc ht hfar⟩

/-- The range over the data-plane versions in `canUpdate`: it returns the result of the first
version that is not compatible, and `(true, nil)` after the last.  `ensureCanResetProxies` runs
the same loop and returns its error. -/
def dataPlanesCompatible (targetVersion : String) : List String → Bool × Option String
  | [] => (true, none)
  | dpVersion :: dpVersions =>
    let (isDataplaneCompatible, err) :=
      isComponentCompatible newVersion dpVersion targetVersion "Data plane"
    if !isDataplaneCompatible then (false, err)
    else dataPlanesCompatible targetVersion dpVersions

/-- The loop ends with no error exactly when it ends compatible. -/
theorem dataPlanesCompatible_cases (targetVersion : String) (dpVersions : List String) :
    dataPlanesCompatible newVersion targetVersion dpVersions = (true, none) ∨
      ∃ err, dataPlanesCompatible newVersion targetVersion dpVersions = (false, some err) := by
  induction dpVersions with
  | nil => exact .inl rfl
  | cons dpVersion dpVersions ih =>
    rcases isComponentCompatible_cases newVersion dpVersion targetVersion "Data plane" with
      h | ⟨err, h⟩
    · simpa [dataPlanesCompatible, h] using ih
    · exact .inr ⟨err, by simp [dataPlanesCompatible, h]⟩

/-- Whatever order the range takes, the data planes are compatible exactly when each of them is
updatable. -/
theorem dataPlanesCompatible_fst (targetVersion : String) (dpVersions : List String) :
    (dataPlanesCompatible newVersion targetVersion dpVersions).1 = true ↔
      ∀ dpVersion ∈ dpVersions, Updatable newVersion targetVersion dpVersion := by
  induction dpVersions with
  | nil => simp [dataPlanesCompatible]
  | cons dpVersion dpVersions ih =>
    rw [List.forall_mem_cons, ← ih,
      ← isComponentCompatible_fst newVersion dpVersion targetVersion "Data plane"]
    rcases isComponentCompatible_cases newVersion dpVersion targetVersion "Data plane" with
      h | ⟨err, h⟩ <;> simp [dataPlanesCompatible, h]

theorem dataPlanesCompatible_snd (targetVersion : String) (dpVersions : List String) :
    (dataPlanesCompatible newVersion targetVersion dpVersions).2 = none ↔
      ∀ dpVersion ∈ dpVersions, Updatable newVersion targetVersion dpVersion := by
  rw [← dataPlanesCompatible_fst]
  rcases dataPlanesCompatible_cases newVersion targetVersion dpVersions with h | ⟨err, h⟩ <;>
    simp [h]

/-- `canUpdate`. -/
def canUpdate (istioStatus : IstioStatus) : Bool × Option String :=
  let (isPilotCompatible, err) :=
    isComponentCompatible newVersion istioStatus.pilotVersion istioStatus.targetVersion "Pilot"
  if !isPilotCompatible then (false, err)
  else dataPlanesCompatible newVersion istioStatus.targetVersion istioStatus.dataPlaneVersions

theorem canUpdate_cases (istioStatus : IstioStatus) :
    canUpdate newVersion istioStatus = (true, none) ∨
      ∃ err, canUpdate newVersion istioStatus = (false, some err) := by
  unfold canUpdate
  rcases isComponentCompatible_cases newVersion istioStatus.pilotVersion
    istioStatus.targetVersion "Pilot" with h | ⟨err, h⟩
  · simpa [h] using dataPlanesCompatible_cases newVersion istioStatus.targetVersion
      istioStatus.dataPlaneVersions
  · exact .inr ⟨err, by simp [h]⟩

/-- An update may go ahead exactly when the pilot and every data plane are updatable. -/
theorem canUpdate_fst (istioStatus : IstioStatus) :
    (canUpdate newVersion istioStatus).1 = true ↔
      ∀ version ∈ istioStatus.pilotVersion :: istioStatus.dataPlaneVersions,
        Updatable newVersion istioStatus.targetVersion version := by
  rw [List.forall_mem_cons, ← dataPlanesCompatible_fst,
    ← isComponentCompatible_fst newVersion istioStatus.pilotVersion istioStatus.targetVersion "Pilot"]
  unfold canUpdate
  rcases isComponentCompatible_cases newVersion istioStatus.pilotVersion
    istioStatus.targetVersion "Pilot" with h | ⟨err, h⟩ <;> simp [h]

/-- `isClientCompatibleWithTargetVersion`. -/
def isClientCompatibleWithTargetVersion (istioStatus : IstioStatus) : Bool :=
  match newHelperVersionFrom newVersion istioStatus.clientVersion with
  | .error _ => false
  | .ok clientHelperVersion =>
    match newHelperVersionFrom newVersion istioStatus.targetVersion with
    | .error _ => false
    | .ok targetHelperVersion => amongOneMinor clientHelperVersion targetHelperVersion

/-- Unlike a component, a client that runs no version is never compatible. -/
theorem isClientCompatibleWithTargetVersion_iff (istioStatus : IstioStatus) :
    isClientCompatibleWithTargetVersion newVersion istioStatus = true ↔
      WithinOneMinor newVersion istioStatus.clientVersion istioStatus.targetVersion := by
  unfold isClientCompatibleWithTargetVersion newHelperVersionFrom
  cases hc : newVersion istioStatus.clientVersion with
  | error err => simpa using not_withinOneMinor_of_error newVersion (.inl hc)
  | ok client =>
    cases ht : newVersion istioStatus.targetVersion with
    | error err => simpa using not_withinOneMinor_of_error newVersion (.inr ht)
    | ok target => simp [withinOneMinor_of_ok newVersion hc ht]

variable (trimSpace : String → String)

/-- `istioctl.VersionFromString`. -/
def versionFromString (version : String) : Except String Version :=
  let trimmed := trimSpace version
  if trimmed = "" then .error "invalid istioctl version format: empty input"
  else
    match newVersion trimmed with
    | .error err => .error ("Invalid istioctl version format for input '" ++ trimmed ++ "': " ++ err)
    | .ok val => .ok val

theorem versionFromString_eq_ok {version : String} {v : Version} :
    versionFromString newVersion trimSpace version = .ok v ↔
      trimSpace version ≠ "" ∧ newVersion (trimSpace version) = .ok v := by
  unfold versionFromString
  dsimp only
  split_ifs with htrim
  · simp [htrim]
  · cases newVersion (trimSpace version) <;> simp [htrim]

/-- `ensureCanResetProxies`. -/
def ensureCanResetProxies (istioStatus : IstioStatus) : Option String :=
  match versionFromString newVersion trimSpace istioStatus.pilotVersion with
  | .error err => some ("Error parsing pilot version: " ++ err)
  | .ok pilotVersion =>
    match versionFromString newVersion trimSpace istioStatus.targetVersion with
    | .error err => some ("Error parsing target version: " ++ err)
    | .ok targetVersion =>
      if majorMinorPatch pilotVersion != majorMinorPatch targetVersion then
        some ("Istio pilot version " ++ istioStatus.pilotVersion ++ " do not match target version " ++
          istioStatus.targetVersion)
      else (dataPlanesCompatible newVersion istioStatus.targetVersion istioStatus.dataPlaneVersions).2

/-- The proxies may be reset exactly when the pilot runs the target's major, minor and patch and
every data plane is updatable. -/
theorem ensureCanResetProxies_eq_none_iff (istioStatus : IstioStatus) :
    ensureCanResetProxies newVersion trimSpace istioStatus = none ↔
      ∃ version, versionFromString newVersion trimSpace istioStatus.pilotVersion = .ok version ∧
        versionFromString newVersion trimSpace istioStatus.targetVersion = .ok version ∧
        ∀ dpVersion ∈ istioStatus.dataPlaneVersions,
          Updatable newVersion istioStatus.targetVersion dpVersion := by
  unfold ensureCanResetProxies
  cases hp : versionFromString newVersion trimSpace istioStatus.pilotVersion with
  | error err => simp
  | ok pilotVersion =>
    cases ht : versionFromString newVersion trimSpace istioStatus.targetVersion with
    | error err => simp
    | ok targetVersion =>
      -- the texts of the two versions agree exactly when the versions do
      simp only [bne_iff_ne, ne_eq, majorMinorPatch_inj, Except.ok.injEq, exists_eq_left']
      by_cases heq : pilotVersion = targetVersion
      · simp [heq, dataPlanesCompatible_snd]
      · simp [heq, Ne.symm heq]

end Checks

/-! ## The actions -/

/-- `istioNamespace`. -/
def istioNamespace : String := "istio-system"

/-- What an action asks of the cluster: the calls on the performer, and the deletions of the
kube client. -/
inductive Call
  | install (istioChart version : String)
  | update (istioChart targetVersion : String)
  | labelNamespaces
  | resetProxy (proxyImageVersion proxyImagePrefix : String)
  | uninstall (version : String)
  | delete (manifest «namespace» : String)
  deriving DecidableEq, Repr

/-- `actions.IstioPerformer`, as what its calls return.  The error of `ResetProxy` is only
logged. -/
structure IstioPerformer where
  version : Except String IstioStatus
  install : String → String → Option String
  update : String → String → Option String
  labelNamespaces : Option String
  uninstall : String → Option String

/-- `getInstalledVersion`. -/
def getInstalledVersion (performer : IstioPerformer) : Except String IstioStatus :=
  match performer.version with
  | .error err => .error ("Could not fetch Istio version: " ++ err)
  | .ok istioStatus => .ok istioStatus

theorem getInstalledVersion_eq_ok {performer : IstioPerformer} {istioStatus : IstioStatus} :
    getInstalledVersion performer = .ok istioStatus ↔ performer.version = .ok istioStatus := by
  unfold getInstalledVersion
  split <;> simp_all

section Actions

variable (newVersion : String → Except String Version)

/-- `StatusPreAction.Run`, from the result of `getIstioPerformer`. -/
def StatusPreAction.run (getIstioPerformer : Except String IstioPerformer) : Option String :=
  match getIstioPerformer with
  | .error err => some err
  | .ok performer =>
    match getInstalledVersion performer with
    | .error err => some err
    | .ok istioStatus =>
      if !isClientCompatibleWithTargetVersion newVersion istioStatus then
        some ("Istio could not be updated since the binary version: " ++ istioStatus.clientVersion ++
          " is not compatible with the target version: " ++ istioStatus.targetVersion ++
          " - the difference between versions exceeds one minor version")
      else none

/-- The pre-action passes exactly when the client and the target lie within one minor
version. -/
theorem StatusPreAction.run_eq_none_iff (getIstioPerformer : Except String IstioPerformer) :
    StatusPreAction.run newVersion getIstioPerformer = none ↔
      ∃ performer istioStatus, getIstioPerformer = .ok performer ∧
        performer.version = .ok istioStatus ∧
        WithinOneMinor newVersion istioStatus.clientVersion istioStatus.targetVersion := by
  rcases getIstioPerformer with err | performer
  · simp [StatusPreAction.run]
  · cases hv : performer.version with
    | error err => simp [StatusPreAction.run, getInstalledVersion, hv]
    | ok istioStatus =>
      cases hc : isClientCompatibleWithTargetVersion newVersion istioStatus <;>
        simp [StatusPreAction.run, getInstalledVersion, hv, hc,
          ← isClientCompatibleWithTargetVersion_iff]

/-- `deployIstio`, from the manifest `ChartProvider.RenderManifest` renders. -/
def deployIstio (renderManifest : Except String String) (performer : IstioPerformer) :
    List Call × Option String :=
  match renderManifest with
  | .error err => ([], some err)
  | .ok istioManifest =>
    match getInstalledVersion performer with
    | .error err => ([], some err)
    | .ok istioStatus =>
      if canInstall istioStatus then
        ([.install istioManifest istioStatus.targetVersion],
          (performer.install istioManifest istioStatus.targetVersion).map
            ("Could not install Istio: " ++ ·))
      else
        let (canUpdateResult, err) := canUpdate newVersion istioStatus
        if canUpdateResult then
          ([.update istioManifest istioStatus.targetVersion],
            (performer.update istioManifest istioStatus.targetVersion).map
              ("Could not update Istio: " ++ ·))
        else ([], err)

/-- What `deployIstio` can do: fail before it touches the cluster, install Istio where none runs,
or update an installation whose pilot and data planes are all updatable.  It never returns
without an error and without a call. -/
theorem deployIstio_cases {renderManifest : Except String String} {performer : IstioPerformer}
    {calls : List Call} {err : Option String}
    (h : deployIstio newVersion renderManifest performer = (calls, err)) :
    (calls = [] ∧ err.isSome) ∨
    (∃ istioManifest istioStatus, renderManifest = .ok istioManifest ∧
      performer.version = .ok istioStatus ∧ isInstalled istioStatus = false ∧
      calls = [.install istioManifest istioStatus.targetVersion] ∧
      err = (performer.install istioManifest istioStatus.targetVersion).map
        ("Could not install Istio: " ++ ·)) ∨
    (∃ istioManifest istioStatus, renderManifest = .ok istioManifest ∧
      performer.version = .ok istioStatus ∧ isInstalled istioStatus = true ∧
      (∀ version ∈ istioStatus.pilotVersion :: istioStatus.dataPlaneVersions,
        Updatable newVersion istioStatus.targetVersion version) ∧
      calls = [.update istioManifest istioStatus.targetVersion] ∧
      err = (performer.update istioManifest istioStatus.targetVersion).map
        ("Could not update Istio: " ++ ·)) := by
  unfold deployIstio getInstalledVersion at h
  cases hm : renderManifest with
  | error e =>
    simp only [hm, Prod.mk.injEq] at h
    exact .inl ⟨h.1.symm, by simp [← h.2]⟩
  | ok istioManifest =>
    cases hv : performer.version with
    | error e =>
      simp only [hm, hv, Prod.mk.injEq] at h
      exact .inl ⟨h.1.symm, by simp [← h.2]⟩
    | ok istioStatus =>
      simp only [hm, hv, canInstall] at h
      cases hinst : isInstalled istioStatus with
      | false =>
        simp only [hinst, Bool.not_false, if_true, Prod.mk.injEq] at h
        exact .inr (.inl ⟨istioManifest, istioStatus, rfl, rfl, hinst, h.1.symm, h.2.symm⟩)
      | true =>
        -- an installation is updated only when `canUpdate` lets it, and then with no error
        have hupdatable := (canUpdate_fst newVersion istioStatus).1
        rcases canUpdate_cases newVersion istioStatus with hc | ⟨e, hc⟩
        · simp only [hinst, Bool.not_true, Bool.false_eq_true, if_false, hc, if_true,
            Prod.mk.injEq] at h
          exact .inr (.inr ⟨istioManifest, istioStatus, rfl, rfl, hinst,
            hupdatable (by simp [hc]), h.1.symm, h.2.symm⟩)
        · simp only [hinst, Bool.not_true, Bool.false_eq_true, if_false, hc, Prod.mk.injEq] at h
          exact .inl ⟨h.1.symm, by simp [← h.2]⟩

/-- `MainReconcileAction.Run`: the namespaces are labelled whatever the deployment did, and an
error of the labelling is put in front of the deployment's. -/
def MainReconcileAction.run (getIstioPerformer : Except String IstioPerformer)
    (renderManifest : Except String String) : List Call × Option String :=
  match getIstioPerformer with
  | .error err => ([], some err)
  | .ok performer =>
    let (calls, err) := deployIstio newVersion renderManifest performer
    match performer.labelNamespaces with
    | none => (calls ++ [.labelNamespaces], err)
    | some errLabelNamespaces =>
      let errLabelNamespaces := "Could not label namespaces: " ++ errLabelNamespaces
      match err with
      | some err => (calls ++ [.labelNamespaces], some (errLabelNamespaces ++ ": " ++ err))
      | none => (calls ++ [.labelNamespaces], some errLabelNamespaces)

/-- A performer on a cluster that runs Istio 1.10.2, with a client and a chart at 1.11.0, on
which every call succeeds. -/
def upgradePerformer : IstioPerformer where
  version := .ok ⟨"1.11.0", "1.11.0", "istio", "1.10.2", ["1.10.2"]⟩
  install _ _ := none
  update _ _ := none
  labelNamespaces := none
  uninstall _ := none

namespace MainReconcileAction

/-- Once the performer is at hand, the namespaces are labelled after whatever `deployIstio`
called. -/
theorem run_fst (performer : IstioPerformer) (renderManifest : Except String String) :
    (run newVersion (.ok performer) renderManifest).1 =
      (deployIstio newVersion renderManifest performer).1 ++ [.labelNamespaces] := by
  rcases hd : deployIstio newVersion renderManifest performer with ⟨calls, err⟩
  simp only [run, hd]
  cases performer.labelNamespaces <;> cases err <;> rfl

/-- The action succeeds exactly when both the deployment and the labelling do. -/
theorem run_snd_eq_none (performer : IstioPerformer) (renderManifest : Except String String) :
    (run newVersion (.ok performer) renderManifest).2 = none ↔
      (deployIstio newVersion renderManifest performer).2 = none ∧
        performer.labelNamespaces = none := by
  rcases hd : deployIstio newVersion renderManifest performer with ⟨calls, err⟩
  simp only [run, hd]
  cases performer.labelNamespaces <;> cases err <;> simp

/-- Istio is updated only where it runs, to the target of the chart, and only when the pilot
and every data plane lie within one minor version of that target: whatever the outcome, the
action never skips a minor version. -/
theorem update_within_one_minor {getIstioPerformer : Except String IstioPerformer}
    {renderManifest : Except String String} {istioChart targetVersion : String}
    (h : Call.update istioChart targetVersion ∈
      (run newVersion getIstioPerformer renderManifest).1) :
    ∃ performer istioStatus, getIstioPerformer = .ok performer ∧
      performer.version = .ok istioStatus ∧ isInstalled istioStatus = true ∧
      targetVersion = istioStatus.targetVersion ∧
      ∀ version ∈ istioStatus.pilotVersion :: istioStatus.dataPlaneVersions,
        Updatable newVersion istioStatus.targetVersion version := by
  cases hp : getIstioPerformer with
  | error err => simp [hp, run] at h
  | ok performer =>
    rw [hp, run_fst] at h
    rcases hd : deployIstio newVersion renderManifest performer with ⟨calls, err⟩
    rw [hd] at h
    rcases deployIstio_cases newVersion hd with ⟨rfl, -⟩ | ⟨m, s, -, -, -, rfl, -⟩ |
        ⟨m, s, -, hv, hinst, hupdatable, rfl, -⟩
    · simp at h
    · simp at h
    · simp only [List.cons_append, List.nil_append, List.mem_cons, Call.update.injEq,
        reduceCtorEq, List.not_mem_nil, or_false] at h
      exact ⟨performer, s, rfl, hv, hinst, h.2, hupdatable⟩

theorem update_within_one_minor_upgradePerformer :
    Call.update "manifest" "1.11.0" ∈
        (run sampleNewVersion (.ok upgradePerformer) (.ok "manifest")).1 ∧
      ∃ performer istioStatus,
        (.ok upgradePerformer : Except String IstioPerformer) = .ok performer ∧
        performer.version = .ok istioStatus ∧ isInstalled istioStatus = true ∧
        "1.11.0" = istioStatus.targetVersion ∧
        ∀ version ∈ istioStatus.pilotVersion :: istioStatus.dataPlaneVersions,
          Updatable sampleNewVersion istioStatus.targetVersion version := by
  have h : Call.update "manifest" "1.11.0" ∈
      (run sampleNewVersion (.ok upgradePerformer) (.ok "manifest")).1 := by
    decide
  exact ⟨h, update_within_one_minor sampleNewVersion h⟩

/-- The action succeeds only after it installed Istio where none ran, or updated an installation
whose pilot and data planes all lay within one minor version of the target, and labelled the
namespaces. -/
theorem installed_or_updated_of_run_eq_none {getIstioPerformer : Except String IstioPerformer}
    {renderManifest : Except String String}
    (h : (run newVersion getIstioPerformer renderManifest).2 = none) :
    ∃ performer istioManifest istioStatus, getIstioPerformer = .ok performer ∧
      renderManifest = .ok istioManifest ∧ performer.version = .ok istioStatus ∧
      performer.labelNamespaces = none ∧
      (isInstalled istioStatus = false ∧
          performer.install istioManifest istioStatus.targetVersion = none ∨
        isInstalled istioStatus = true ∧
          (∀ version ∈ istioStatus.pilotVersion :: istioStatus.dataPlaneVersions,
            Updatable newVersion istioStatus.targetVersion version) ∧
          performer.update istioManifest istioStatus.targetVersion = none) := by
  cases hp : getIstioPerformer with
  | error err => simp [hp, run] at h
  | ok performer =>
    rw [hp, run_snd_eq_none] at h
    obtain ⟨hdeploy, hlabel⟩ := h
    rcases hd : deployIstio newVersion renderManifest performer with ⟨calls, err⟩
    rw [hd] at hdeploy
    subst hdeploy
    rcases deployIstio_cases newVersion hd with ⟨-, hsome⟩ | ⟨m, s, hm, hv, hinst, -, herr⟩ |
        ⟨m, s, hm, hv, hinst, hupdatable, -, herr⟩
    · simp at hsome
    · exact ⟨performer, m, s, rfl, hm, hv, hlabel, .inl ⟨hinst, by simpa using herr.symm⟩⟩
    · exact ⟨performer, m, s, rfl, hm, hv, hlabel,
        .inr ⟨hinst, hupdatable, by simpa using herr.symm⟩⟩

theorem installed_or_updated_upgradePerformer :
    (run sampleNewVersion (.ok upgradePerformer) (.ok "manifest")).2 = none ∧
      ∃ performer istioManifest istioStatus,
        (.ok upgradePerformer : Except String IstioPerformer) = .ok performer ∧
        (.ok "manifest" : Except String String) = .ok istioManifest ∧
        performer.version = .ok istioStatus ∧ performer.labelNamespaces = none ∧
        (isInstalled istioStatus = false ∧
            performer.install istioManifest istioStatus.targetVersion = none ∨
          isInstalled istioStatus = true ∧
            (∀ version ∈ istioStatus.pilotVersion :: istioStatus.dataPlaneVersions,
              Updatable sampleNewVersion istioStatus.targetVersion version) ∧
            performer.update istioManifest istioStatus.targetVersion = none) := by
  have h : (run sampleNewVersion (.ok upgradePerformer) (.ok "manifest")).2 = none := by
    decide
  exact ⟨h, installed_or_updated_of_run_eq_none sampleNewVersion h⟩

end MainReconcileAction

variable (trimSpace : String → String)

/-- `ProxyResetPostAction.Run`: a reset that cannot or does not run is only logged. -/
def ProxyResetPostAction.run (getIstioPerformer : Except String IstioPerformer) :
    List Call × Option String :=
  match getIstioPerformer with
  | .error err => ([], some err)
  | .ok performer =>
    match getInstalledVersion performer with
    | .error err => ([], some err)
    | .ok istioStatus =>
      match ensureCanResetProxies newVersion trimSpace istioStatus with
      | some _ => ([], none)
      | none => ([.resetProxy istioStatus.targetVersion istioStatus.targetPrefix], none)

namespace ProxyResetPostAction

/-- The proxies are reset, to the target version and prefix, exactly when the pilot runs the
target's major, minor and patch and every data plane is updatable. -/
theorem resetProxy_mem_run_iff {getIstioPerformer : Except String IstioPerformer}
    {proxyImageVersion proxyImagePrefix : String} :
    Call.resetProxy proxyImageVersion proxyImagePrefix ∈
        (run newVersion trimSpace getIstioPerformer).1 ↔
      ∃ performer istioStatus, getIstioPerformer = .ok performer ∧
        performer.version = .ok istioStatus ∧ proxyImageVersion = istioStatus.targetVersion ∧
        proxyImagePrefix = istioStatus.targetPrefix ∧
        ∃ version, versionFromString newVersion trimSpace istioStatus.pilotVersion = .ok version ∧
          versionFromString newVersion trimSpace istioStatus.targetVersion = .ok version ∧
          ∀ dpVersion ∈ istioStatus.dataPlaneVersions,
            Updatable newVersion istioStatus.targetVersion dpVersion := by
  cases hp : getIstioPerformer with
  | error err => simp [run]
  | ok performer =>
    cases hv : performer.version with
    | error err => simp [run, getInstalledVersion, hv]
    | ok istioStatus =>
      simp only [run, getInstalledVersion, hv, Except.ok.injEq, exists_and_left, exists_eq_left']
      rw [← ensureCanResetProxies_eq_none_iff]
      cases ensureCanResetProxies newVersion trimSpace istioStatus <;> simp

/-- Once the versions are read, the post action succeeds whether or not it could reset the
proxies. -/
theorem run_snd_eq_none {performer : IstioPerformer} {istioStatus : IstioStatus}
    (hv : performer.version = .ok istioStatus) :
    (run newVersion trimSpace (.ok performer)).2 = none := by
  simp only [run, getInstalledVersion, hv]
  split <;> rfl

end ProxyResetPostAction

end Actions

/-- `unDeployIstioRelatedResources`: the manifest is deleted from `kyma-system`, then from the
Istio namespace. -/
def unDeployIstioRelatedResources (manifest : String) (delete : String → String → Option String) :
    List Call × Option String :=
  match delete manifest "kyma-system" with
  | some err => ([.delete manifest "kyma-system"], some err)
  | none =>
    match delete manifest istioNamespace with
    | some err => ([.delete manifest "kyma-system", .delete manifest istioNamespace], some err)
    | none => ([.delete manifest "kyma-system", .delete manifest istioNamespace], none)

/-- `UninstallAction.Run`, with the deletions of the kube client. -/
def UninstallAction.run (getIstioPerformer : Except String IstioPerformer)
    (renderManifest : Except String String) (delete : String → String → Option String) :
    List Call × Option String :=
  match getIstioPerformer with
  | .error err => ([], some err)
  | .ok performer =>
    match getInstalledVersion performer with
    | .error err => ([], some err)
    | .ok istioStatus =>
      if canUninstall istioStatus then
        match renderManifest with
        | .error err => ([], some err)
        | .ok istioManifest =>
          match unDeployIstioRelatedResources istioManifest delete with
          | (calls, some err) => (calls, some err)
          | (calls, none) =>
            (calls ++ [.uninstall istioStatus.targetVersion],
              (performer.uninstall istioStatus.targetVersion).map
                ("Could not uninstall istio: " ++ ·))
      else ([], none)

/-- Istio is uninstalled only where it runs and a client is at hand, with the version of the
chart, and only after the resources of its manifest are gone from `kyma-system` and from the
Istio namespace. -/
theorem UninstallAction.uninstall_after_deletes {getIstioPerformer : Except String IstioPerformer}
    {renderManifest : Except String String} {delete : String → String → Option String}
    {version : String}
    (h : Call.uninstall version ∈ (UninstallAction.run getIstioPerformer renderManifest delete).1) :
    ∃ performer istioStatus istioManifest, getIstioPerformer = .ok performer ∧
      performer.version = .ok istioStatus ∧ isInstalled istioStatus = true ∧
      istioStatus.clientVersion ≠ "" ∧ renderManifest = .ok istioManifest ∧
      delete istioManifest "kyma-system" = none ∧ delete istioManifest istioNamespace = none ∧
      version = istioStatus.targetVersion ∧
      (UninstallAction.run getIstioPerformer renderManifest delete).1 =
        [.delete istioManifest "kyma-system", .delete istioManifest istioNamespace,
          .uninstall version] := by
  rcases getIstioPerformer with err | performer
  · simp [UninstallAction.run] at h
  cases hv : performer.version with
  | error err => simp [hv, UninstallAction.run, getInstalledVersion] at h
  | ok istioStatus =>
    cases hu : canUninstall istioStatus with
    | false => simp [hv, hu, UninstallAction.run, getInstalledVersion] at h
    | true =>
      obtain ⟨hinst, hclient⟩ : isInstalled istioStatus = true ∧ istioStatus.clientVersion ≠ "" := by
        simpa [canUninstall] using hu
      rcases renderManifest with err | istioManifest
      · simp [hv, hu, UninstallAction.run, getInstalledVersion] at h
      -- the uninstall follows the two deletions, and only when both succeed
      cases hk : delete istioManifest "kyma-system" with
      | some err =>
        simp [hv, hu, hk, UninstallAction.run, getInstalledVersion,
          unDeployIstioRelatedResources] at h
      | none =>
        cases hi : delete istioManifest istioNamespace with
        | some err =>
          simp [hv, hu, hk, hi, UninstallAction.run, getInstalledVersion,
            unDeployIstioRelatedResources] at h
        | none =>
          have hcalls : (UninstallAction.run (.ok performer) (.ok istioManifest) delete).1 =
              [.delete istioManifest "kyma-system", .delete istioManifest istioNamespace,
                .uninstall istioStatus.targetVersion] := by
            simp [UninstallAction.run, getInstalledVersion, hv, hu, unDeployIstioRelatedResources,
              hk, hi]
          rw [hcalls] at h ⊢
          obtain rfl : version = istioStatus.targetVersion := by simpa using h
          exact ⟨performer, istioStatus, istioManifest, rfl, hv, hinst, hclient, rfl, hk, hi, rfl,
            rfl⟩

end Istio

end Reconciler
