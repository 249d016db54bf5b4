import EdgePlatform.Fleet.Report

/-!
# `EdgePlatform.Fleet.Transitions` — proposed transitions of the containers of a VM

`propose_vm_resource_transitions` decides one step per container from the report of the host,
`validate_vm_resource_transition_plan` checks that steps and reasons belong together, and
`validate_vm_native_start_dag` checks a plan that starts containers against the resource hierarchy.

The checks look at direct dependencies. Along a chain of dependencies every container is observed running or
is started or installed by the same plan (`start_closure`).
-/

namespace EdgePlatform.Fleet

open Foundation Foundation.Wire
open Host (FleetHost FleetHostKind FleetHostRunState FleetHostPlannedStep FleetVmContainer
  FleetVmObservedReason)

/-! ## Messages -/

inductive FleetVmResourceReason
  | unspecified | targetUnsetObserveOnly | absentAsDesired | containerAbsentInstallRequired
  | resourceIdentityOrStateUnproven | containerRunningButTargetStopped | stoppedAsDesired
  | containerStoppedButTargetRunning | runningRuntimeOnlyConfigUnproven | runtimeHealthOrConfigUnproven
  | credentialDependencyUnproven | firstUseWorkerVerifiedInstallProposalOnly
deriving DecidableEq

instance : ProtoEnum FleetVmResourceReason where
  all := [.unspecified, .targetUnsetObserveOnly, .absentAsDesired, .containerAbsentInstallRequired,
    .resourceIdentityOrStateUnproven, .containerRunningButTargetStopped, .stoppedAsDesired,
    .containerStoppedButTargetRunning, .runningRuntimeOnlyConfigUnproven, .runtimeHealthOrConfigUnproven,
    .credentialDependencyUnproven, .firstUseWorkerVerifiedInstallProposalOnly]
  code := FleetVmResourceReason.ctorIdx

/-- The name of a reason after its common part. -/
def resourceReasonCode : FleetVmResourceReason → String
  | .unspecified => "UNSPECIFIED"
  | .targetUnsetObserveOnly => "TARGET_UNSET_OBSERVE_ONLY"
  | .absentAsDesired => "ABSENT_AS_DESIRED"
  | .containerAbsentInstallRequired => "CONTAINER_ABSENT_INSTALL_REQUIRED"
  | .resourceIdentityOrStateUnproven => "RESOURCE_IDENTITY_OR_STATE_UNPROVEN"
  | .containerRunningButTargetStopped => "CONTAINER_RUNNING_BUT_TARGET_STOPPED"
  | .stoppedAsDesired => "STOPPED_AS_DESIRED"
  | .containerStoppedButTargetRunning => "CONTAINER_STOPPED_BUT_TARGET_RUNNING"
  | .runningRuntimeOnlyConfigUnproven => "RUNNING_RUNTIME_ONLY_CONFIG_UNPROVEN"
  | .runtimeHealthOrConfigUnproven => "RUNTIME_HEALTH_OR_CONFIG_UNPROVEN"
  | .credentialDependencyUnproven => "CREDENTIAL_DEPENDENCY_UNPROVEN"
  | .firstUseWorkerVerifiedInstallProposalOnly => "FIRST_USE_WORKER_VERIFIED_INSTALL_PROPOSAL_ONLY"

structure FleetVmResourceTransition where
  resource : Option FleetVmContainer
  step : Int32
  reasonCode : String
  reason : Int32
  resourceId : String
deriving DecidableEq

structure FleetVmResourceTransitionPlan where
  schemaVersion : UInt32
  machineId : String
  resources : List FleetVmResourceTransition
  ownerAttested : Bool
  mutationAuthorized : Bool
deriving DecidableEq

/-! ## The proposal -/

/-- The step a reason stands for. -/
def reasonStep : FleetVmResourceReason → Option FleetHostPlannedStep
  | .targetUnsetObserveOnly | .resourceIdentityOrStateUnproven | .runtimeHealthOrConfigUnproven
  | .credentialDependencyUnproven => some .blocked
  | .absentAsDesired | .stoppedAsDesired | .runningRuntimeOnlyConfigUnproven => some .noop
  | .containerAbsentInstallRequired | .firstUseWorkerVerifiedInstallProposalOnly => some .install
  | .containerRunningButTargetStopped => some .stop
  | .containerStoppedButTargetRunning => some .start
  | .unspecified => none

/-- One entry for each container, with the step of its reason. -/
def validateVmResourceTransitionPlan (plan : FleetVmResourceTransitionPlan) (host : FleetHost) :
    Except String Unit := do
  rejectIf (host.kind ≠ toI32 FleetHostKind.vm ∨ plan.schemaVersion ≠ 1 ∨ plan.machineId ≠ host.machineId ∨
    plan.resources.length ≠ host.vmContainers.length ∨ plan.ownerAttested = true ∨
    plan.mutationAuthorized = true)
    "VM_RESOURCE_PLAN_SCOPE_OR_AUTHORITY_INVALID"
  (plan.resources.zip host.vmContainers).forM fun p => do
    let (entry, selector) := p
    rejectIf (entry.resource ≠ some selector) "VM_RESOURCE_PLAN_IDENTITY_INVALID"
    let id ← vmContainerResourceId host selector
    rejectIf (entry.resourceId ≠ id) "VM_RESOURCE_PLAN_IDENTITY_INVALID"
    let reason ← okOr (tryFrom FleetVmResourceReason entry.reason) "VM_RESOURCE_PLAN_REASON_UNRECOGNIZED"
    rejectIf (reason = .unspecified) "VM_RESOURCE_PLAN_REASON_UNSPECIFIED"
    rejectIf (entry.reasonCode ≠ resourceReasonCode reason) "VM_RESOURCE_PLAN_REASON_CODE_MISMATCH"
    let step ← okOr (reasonStep reason) "VM_RESOURCE_PLAN_REASON_UNSPECIFIED"
    rejectIf (entry.step ≠ toI32 step) "VM_RESOURCE_PLAN_ACTION_REASON_CONFLICT"

/-- The run state the registry asks for. -/
def desiredRunState (host : FleetHost) : Option FleetHostRunState :=
  host.target.bind fun target => tryFrom FleetHostRunState target.runState

def credentialReady (report : FleetVmResourceReport) : Bool :=
  report.credential.any fun c => c.state = toI32 FleetVmCredentialState.activeLocalValid

/-- Observed to be absent. -/
def observedAbsent (row : FleetVmResourceReadback) : Bool :=
  !row.present && row.observedReason = toI32 FleetVmObservedReason.containerAbsent

def firstUseInstallProposal (report : FleetVmResourceReport) : Bool :=
  !credentialReady report &&
    report.bootstrapPhase = toI32 FleetVmBootstrapPhase.firstUseWorkerSourceVerifiedLocal &&
    (report.credential.any fun c => c.state = toI32 FleetVmCredentialState.storeAbsent) &&
    report.resources.all observedAbsent

/-- Running, and healthy as far as Docker knows. -/
def observedHealthy (row : FleetVmResourceReadback) : Bool :=
  tryFrom FleetVmObservedReason row.observedReason = some .healthy ||
    tryFrom FleetVmObservedReason row.observedReason = some .runningNoHealthcheck

def stateUnproven (row : FleetVmResourceReadback) : Bool :=
  !row.present || !row.ownershipProven || !row.runningProven

def planRow (desired : Option FleetHostRunState) (firstUse ready : Bool) (row : FleetVmResourceReadback) :
    FleetHostPlannedStep × FleetVmResourceReason :=
  match desired with
  | some .running =>
    if firstUse then (.install, .firstUseWorkerVerifiedInstallProposalOnly)
    else if !ready then (.blocked, .credentialDependencyUnproven)
    else if observedAbsent row then (.install, .containerAbsentInstallRequired)
    else if stateUnproven row then (.blocked, .resourceIdentityOrStateUnproven)
    else if !row.running then (.start, .containerStoppedButTargetRunning)
    else if observedHealthy row then (.noop, .runningRuntimeOnlyConfigUnproven)
    else (.blocked, .runtimeHealthOrConfigUnproven)
  | some .stopped =>
    if observedAbsent row then (.noop, .absentAsDesired)
    else if stateUnproven row then (.blocked, .resourceIdentityOrStateUnproven)
    else if row.running then (.stop, .containerRunningButTargetStopped)
    else (.noop, .stoppedAsDesired)
  | none | some .unspecified => (.blocked, .targetUnsetObserveOnly)

def proposeRow (host : FleetHost) (desired : Option FleetHostRunState) (firstUse ready : Bool)
    (row : FleetVmResourceReadback) : Except String FleetVmResourceTransition := do
  let (step, reason) := planRow desired firstUse ready row
  let selector ← okOr row.resource "VM_RESOURCE_PLAN_SELECTOR_MISSING"
  let resourceId ← vmContainerResourceId host selector
  pure { resource := row.resource, resourceId, step := toI32 step, reasonCode := resourceReasonCode reason,
         reason := toI32 reason }

/-- The step of each container, from an accepted report. -/
def proposeVmResourceTransitions (T : IpText) (host : FleetHost) (report : FleetVmResourceReport) :
    Except String FleetVmResourceTransitionPlan := do
  validateVmResourceReport T report host
  let resources ← report.resources.mapM
    (proposeRow host (desiredRunState host) (firstUseInstallProposal report) (credentialReady report))
  let proposed : FleetVmResourceTransitionPlan :=
    { schemaVersion := 1, machineId := host.machineId, resources, ownerAttested := false,
      mutationAuthorized := false }
  validateVmResourceTransitionPlan proposed host
  pure proposed

/-! ## The check of a starting plan -/

/-- Insertion into a map kept in the order of its keys. -/
def insertEntry {α : Type} (k : String) (v : α) : List (String × α) → List (String × α)
  | [] => [(k, v)]
  | (k', v') :: rest =>
    if k = k' then (k, v) :: rest
    else if Host.strLt k k' then (k, v) :: (k', v') :: rest
    else (k', v') :: insertEntry k v rest

/-- `collect` into a `BTreeMap`. -/
def toMap {α : Type} (key : α → String) (xs : List α) : List (String × α) :=
  xs.foldl (fun m x => insertEntry (key x) x m) []

def checkStartDependency (host : FleetHost) (nodes : List (String × FleetResourceNode))
    (transitions : List (String × FleetVmResourceTransition)) (dependencyId : String) :
    Except String Unit := do
  let dependency ← okOr (nodes.lookup dependencyId) "VM_START_DAG_DEPENDENCY_UNREGISTERED"
  let kind ← okOr (tryFrom FleetResourceKind dependency.kind) "VM_START_DAG_DEPENDENCY_KIND_UNRECOGNIZED"
  if kind = .credentialRef then
    rejectIf (dependency.owner ≠ toI32 FleetResourceOwner.workerSecrets ∨
      dependency.resourceId ≠ vmWorkerCredentialResourceId host ∨
      dependency.parentResourceId ≠ vmHostResourceId host)
      "VM_START_DAG_CREDENTIAL_OWNER_UNPROVEN"
  else do
    rejectIf (dependency.owner ≠ toI32 FleetResourceOwner.vmRootAgent)
      "VM_START_DAG_DEPENDENCY_OWNER_UNPROVEN"
    match kind with
    | .dockerNetwork =>
      rejectIf (dependency.parentResourceId ≠ vmHostResourceId host) "VM_START_DAG_NETWORK_PARENT_UNPROVEN"
    | .dockerContainer => do
        let upstream ← okOr (transitions.lookup dependencyId) "VM_START_DAG_CONTAINER_DEPENDENCY_NOT_IN_PLAN"
        let step ← okOr (tryFrom FleetHostPlannedStep upstream.step) "VM_START_DAG_DEPENDENCY_STEP_INVALID"
        rejectIf (step ≠ .noop ∧ step ≠ .start) "VM_START_DAG_UPSTREAM_NOT_READY"
    | _ => .error "VM_START_DAG_DEPENDENCY_KIND_UNSUPPORTED"

/-- One transition of the plan; answers whether it changes anything. -/
def checkStartTransition (host : FleetHost) (nodes : List (String × FleetResourceNode))
    (transitions : List (String × FleetVmResourceTransition)) (entry : String × FleetVmResourceTransition) :
    Except String Bool := do
  let node ← okOr (nodes.lookup entry.1) "VM_START_DAG_RESOURCE_NOT_REGISTERED"
  rejectIf (node.kind ≠ toI32 FleetResourceKind.dockerContainer ∨
    node.owner ≠ toI32 FleetResourceOwner.vmRootAgent ∨ node.parentResourceId ≠ vmHostResourceId host ∨
    node.dependencyIds = []) "VM_START_DAG_OWNER_OR_PARENT_UNPROVEN"
  let step ← okOr (tryFrom FleetHostPlannedStep entry.2.step) "VM_START_DAG_STEP_INVALID"
  match step with
  | .noop => pure false
  | .start | .install => do
      node.dependencyIds.forM (checkStartDependency host nodes transitions)
      pure true
  | _ => .error "VM_START_DAG_ACTION_NOT_START"

/-- Whatever is started has what it depends on. -/
def validateVmNativeStartDag (host : FleetHost) (installedPolicy : FleetVmDesiredGraph)
    (plan : FleetVmResourceTransitionPlan) : Except String Unit := do
  validateVmResourceTransitionPlan plan host
  let hierarchy ← deriveVmResourceHierarchy host installedPolicy
  let nodes := toMap (·.resourceId) hierarchy.nodes
  let transitions := toMap (·.resourceId) plan.resources
  rejectIf (transitions.length ≠ installedPolicy.resources.length) "VM_START_DAG_SCOPE_INCOMPLETE"
  let mutating ← transitions.mapM (checkStartTransition host nodes transitions)
  rejectIf (mutating.all (· = false)) "VM_START_DAG_NO_MUTATION"

/-! ## Maps -/

section Map

variable {α : Type} {k : String} {v : α} {m : List (String × α)}

theorem mem_insertEntry_self : (k, v) ∈ insertEntry k v m := by
  induction m with
  | nil => exact List.mem_singleton.mpr rfl
  | cons p rest ih =>
    unfold insertEntry
    split_ifs
    · exact (.head _)
    · exact (.head _)
    · exact List.mem_cons_of_mem _ ih

theorem mem_insertEntry_of_ne {p : String × α} (hp : p ∈ m) (hne : p.1 ≠ k) : p ∈ insertEntry k v m := by
  induction m with
  | nil => cases hp
  | cons q rest ih =>
    unfold insertEntry
    split_ifs with heq hlt
    · rcases List.mem_cons.mp hp with rfl | hp
      · exact absurd heq.symm hne
      · exact List.mem_cons_of_mem _ hp
    · exact List.mem_cons_of_mem _ hp
    · rcases List.mem_cons.mp hp with rfl | hp
      · exact (.head _)
      · exact List.mem_cons_of_mem _ (ih hp)

/-- With distinct keys every element is in the map. -/
theorem mem_toMap {key : α → String} {xs : List α} (hnodup : (xs.map key).Nodup) {x : α} (hx : x ∈ xs) :
    (key x, x) ∈ toMap key xs := by
  have hfold : ∀ (ys : List α) (m : List (String × α)), (ys.map key).Nodup →
      (∀ p ∈ m, p.1 ∉ ys.map key → p ∈ ys.foldl (fun m x => insertEntry (key x) x m) m) ∧
        ∀ y ∈ ys, (key y, y) ∈ ys.foldl (fun m x => insertEntry (key x) x m) m := by
    intro ys
    induction ys with
    | nil => intro m _; exact ⟨fun p hp _ => hp, by simp⟩
    | cons y ys ih =>
      intro m hys
      obtain ⟨hfresh, hrest⟩ := List.nodup_cons.mp hys
      obtain ⟨hkeep, hmem⟩ := ih (insertEntry (key y) y m) hrest
      refine ⟨fun p hp hnot => ?_, fun z hz => ?_⟩
      · simp only [List.map_cons, List.mem_cons, not_or] at hnot
        exact hkeep p (mem_insertEntry_of_ne hp hnot.1) hnot.2
      · rcases List.mem_cons.mp hz with rfl | hz
        · exact hkeep _ mem_insertEntry_self hfresh
        · exact hmem z hz
  exact (hfold xs [] hnodup).2 x hx

theorem mem_of_insertEntry {p : String × α} (hp : p ∈ insertEntry k v m) : p = (k, v) ∨ p ∈ m := by
  induction m with
  | nil => exact .inl (List.mem_singleton.mp hp)
  | cons q rest ih =>
    unfold insertEntry at hp
    split_ifs at hp
    · exact (List.mem_cons.mp hp).imp_right (List.mem_cons_of_mem _)
    · exact List.mem_cons.mp hp
    · rcases List.mem_cons.mp hp with rfl | hp
      · exact .inr (.head _)
      · exact (ih hp).imp_right (List.mem_cons_of_mem _)

/-- What a map answers is an element with that key. -/
theorem of_lookup_toMap {key : α → String} {xs : List α} {x : α} (h : (toMap key xs).lookup k = some x) :
    x ∈ xs ∧ key x = k := by
  have hfold : ∀ (ys : List α) (m : List (String × α)), (∀ p ∈ m, p.2 ∈ xs ∧ key p.2 = p.1) →
      (∀ y ∈ ys, y ∈ xs) → ∀ p ∈ ys.foldl (fun m x => insertEntry (key x) x m) m, p.2 ∈ xs ∧
      key p.2 = p.1 := by
    intro ys
    induction ys with
    | nil => intro m hm _; exact hm
    | cons y ys ih =>
      intro m hm hys
      refine ih _ (fun p hp => ?_) fun z hz => hys z (.tail _ hz)
      rcases mem_of_insertEntry hp with rfl | hp
      · exact ⟨hys y (.head _), rfl⟩
      · exact hm p hp
  exact hfold xs [] (by simp) (fun _ hy => hy) (k, x) (mem_of_lookup h)

end Map

/-! ## What the three functions establish -/

/-- The plan takes a step for the container of a service. -/
def FleetVmResourceTransitionPlan.Takes (plan : FleetVmResourceTransitionPlan) (step : FleetHostPlannedStep)
    (service : String) : Prop :=
  ∃ e ∈ plan.resources, e.step = toI32 step ∧ ∃ c, e.resource = some c ∧ c.composeService = service

/-- The container of a service was observed running. -/
def FleetVmResourceReport.Running (report : FleetVmResourceReport) (service : String) : Prop :=
  ∃ row ∈ report.resources, row.running = true ∧ ∃ c, row.resource = some c ∧ c.composeService = service

theorem planRow_start {desired : Option FleetHostRunState} {firstUse ready : Bool}
    {row : FleetVmResourceReadback} (h : (planRow desired firstUse ready row).1 = .start) :
    desired = some .running := by
  unfold planRow at h
  split at h
  · rfl
  · split_ifs at h
  · cases h
  · cases h

theorem planRow_noop {firstUse ready : Bool} {row : FleetVmResourceReadback}
    (h : (planRow (some .running) firstUse ready row).1 = .noop) : row.running = true := by
  simp only [planRow] at h
  split_ifs at h with _ _ _ _ hrunning _
  simpa using hrunning

section Plan

variable {T : IpText} {host : FleetHost} {report : FleetVmResourceReport} {graph : FleetVmDesiredGraph}
  {plan : FleetVmResourceTransitionPlan}

/-- Every entry of a proposal is decided by its row of the report. -/
theorem rows_of_propose (h : proposeVmResourceTransitions T host report = .ok plan) :
    List.Forall₂ (fun row e => e.resource = row.resource ∧ e.step = toI32
      (planRow (desiredRunState host) (firstUseInstallProposal report) (credentialReady report) row).1)
      report.resources plan.resources := by
  simp only [proposeVmResourceTransitions, ok_iff, Except.mapM_eq_ok] at h
  obtain ⟨-, entries, hrows, -, hplan⟩ := h
  obtain rfl := Except.ok.inj hplan
  refine hrows.imp fun row e hrow => ?_
  simp only [proposeRow, ok_iff] at hrow
  obtain ⟨_, -, _, -, he⟩ := hrow
  obtain rfl := Except.ok.inj he
  exact ⟨rfl, rfl⟩

section

variable (h : validateVmResourceTransitionPlan plan host = .ok ())
include h

/-- The entries of an accepted plan are the registered containers in registry order. -/
theorem entries_of_plan :
    plan.resources.length = host.vmContainers.length ∧
      ∀ i (_ : i < plan.resources.length) (_ : i < host.vmContainers.length),
        plan.resources[i].resource = some host.vmContainers[i] ∧
          plan.resources[i].resourceId = containerResourceId host.vmContainers[i] := by
  simp only [validateVmResourceTransitionPlan, ok_iff, List.forM_eq_forM, Except.forM_eq_ok,
    vmContainerResourceId_eq_ok, not_or, not_not] at h
  obtain ⟨⟨-, -, -, hlen, -⟩, hall⟩ := h
  refine ⟨hlen, fun i hi hi' => ?_⟩
  obtain ⟨hresource, _, ⟨-, rfl⟩, hid, -⟩ := hall (plan.resources[i], host.vmContainers[i])
    (List.mem_iff_getElem.mpr ⟨i, by simp; omega, by simp⟩)
  exact ⟨hresource, hid⟩

theorem exists_entry {c : FleetVmContainer} (hc : c ∈ host.vmContainers) :
    ∃ e ∈ plan.resources, e.resource = some c ∧ e.resourceId = containerResourceId c := by
  obtain ⟨hlen, hall⟩ := entries_of_plan h
  obtain ⟨i, hi, rfl⟩ := List.mem_iff_getElem.mp hc
  have hi' : i < plan.resources.length := hlen ▸ hi
  exact ⟨_, List.getElem_mem hi', hall i hi' hi⟩

theorem resourceId_of_entry {e : FleetVmResourceTransition} (he : e ∈ plan.resources) :
    ∃ c ∈ host.vmContainers, e.resource = some c ∧ e.resourceId = containerResourceId c := by
  obtain ⟨hlen, hall⟩ := entries_of_plan h
  obtain ⟨i, hi, rfl⟩ := List.mem_iff_getElem.mp he
  have hi' : i < host.vmContainers.length := hlen ▸ hi
  exact ⟨_, List.getElem_mem hi', hall i hi hi'⟩

theorem resourceIds_nodup (hv : ValidGraph graph host)
    (hsingle : SingleProject host) : (plan.resources.map (·.resourceId)).Nodup := by
  obtain ⟨hlen, hall⟩ := entries_of_plan h
  have hids : plan.resources.map (·.resourceId) = host.vmContainers.map containerResourceId := by
    refine List.ext_getElem (by simpa using hlen) fun i hi hi' => ?_
    simp only [List.length_map] at hi hi'
    simpa using (hall i hi hi').2
  rw [hids]
  refine List.pairwise_map.mpr
    ((List.pairwise_map.mp hv.services_nodup).imp_of_mem fun {a b} ha hb hab heq => ?_)
  exact hab (containerResourceId_inj ((hsingle a ha).trans (hsingle b hb).symm) heq)

end

/-- What the check of a starting plan establishes: every step is one of three, and a starting or installing
    container has its direct dependencies checked. -/
structure StartDag (host : FleetHost) (graph : FleetVmDesiredGraph) (plan : FleetVmResourceTransitionPlan)
    (nodes : List FleetResourceNode) : Prop where
  valid : ValidGraph graph host
  single : SingleProject host
  projected : projectVmHierarchyNodesUnchecked host graph = .ok nodes
  accepted : validateVmResourceTransitionPlan plan host = .ok ()
  steps : ∀ e ∈ plan.resources, e.step = toI32 FleetHostPlannedStep.noop ∨
    e.step = toI32 FleetHostPlannedStep.start ∨ e.step = toI32 FleetHostPlannedStep.install
  upstream : ∀ e ∈ plan.resources, e.step = toI32 FleetHostPlannedStep.start →
    ∃ n ∈ nodes, n.resourceId = e.resourceId ∧ ∀ d ∈ n.dependencyIds,
      checkStartDependency host (toMap (·.resourceId) nodes) (toMap (·.resourceId) plan.resources) d = .ok ()

theorem startDag_of_ok (h : validateVmNativeStartDag host graph plan = .ok ()) :
    ∃ nodes, StartDag host graph plan nodes := by
  simp only [validateVmNativeStartDag, ok_iff, Except.mapM_eq_ok] at h
  obtain ⟨hplan, hierarchy, hderive, -, _, hchecks, -⟩ := h
  obtain ⟨hv, nodes, hp, rfl, hok⟩ := derive_eq_ok.mp hderive
  have hsingle :=
    ((validateNodes_projection_iff hv hp).mp ((validateVmResourceHierarchy_eq_ok hv hp).mp hok).2.2).1
  have hcheck : ∀ e ∈ plan.resources, ∃ b, checkStartTransition host (toMap (·.resourceId) nodes)
      (toMap (·.resourceId) plan.resources) (e.resourceId, e) = .ok b := by
    intro e he
    obtain ⟨b, -, hb⟩ := exists_of_forall₂_left hchecks (mem_toMap (resourceIds_nodup hplan hv hsingle) he)
    exact ⟨b, hb⟩
  simp only [checkStartTransition, ok_iff] at hcheck
  refine ⟨nodes, hv, hsingle, hp, hplan, fun e he => ?_, fun e he hstart => ?_⟩
  · obtain ⟨_, _, -, -, step, hstep, hmatch⟩ := hcheck e he
    rw [tryFrom_eq_some] at hstep
    rw [← hstep]
    cases step <;> simp at hmatch ⊢
  · obtain ⟨_, n, hlookup, -, step, hstep, hmatch⟩ := hcheck e he
    obtain ⟨hn, hid⟩ := of_lookup_toMap hlookup
    obtain rfl : step = .start := by
      rw [hstart, tryFrom_toI32] at hstep
      exact (Option.some.inj hstep).symm
    simp only [ok_iff, List.forM_eq_forM, Except.forM_eq_ok] at hmatch
    exact ⟨n, hn, hid, hmatch.1⟩

variable {s d : String}

/-- The service of a dependency is registered. -/
theorem registered_of_dependsOn (hv : ValidGraph graph host) (h : graph.DependsOn s d) :
    ∃ c ∈ host.vmContainers, c.composeService = d := by
  obtain ⟨r, hr, -, hd⟩ := h
  obtain ⟨selector, hzip, -, -⟩ := hv.row_of_mem hr
  exact List.mem_map.mp (registered_iff.mp (hv.dependencies _ hzip d hd).2)

/-- A direct dependency of a container to be started is to be left alone or started. -/
theorem direct_dependency {nodes : List FleetResourceNode} (h : StartDag host graph plan nodes)
    (hs : plan.Takes .start s) (hd : graph.DependsOn s d) : plan.Takes .noop d ∨ plan.Takes .start d := by
  obtain ⟨e, he, hstart, c, hc, rfl⟩ := hs
  obtain ⟨c', hmem', hc', hid⟩ := resourceId_of_entry h.accepted he
  obtain rfl : c = c' := Option.some.inj (hc.symm.trans hc')
  obtain ⟨n, hn, hnid, hdeps⟩ := h.upstream e he hstart
  -- the node is the container node of the row that has the dependency
  obtain ⟨r, hr, hservice, hdep⟩ := hd
  obtain ⟨rows, hrows, -⟩ := project_eq_ok.mp h.projected
  obtain ⟨ns, -, hok⟩ := exists_of_forall₂_left hrows hr
  obtain ⟨selector, network, ids, hselector, hident, -, hids, rfl⟩ := resourceNodes_eq_ok.mp hok
  have hrnode : containerNode host (containerResourceId selector)
      (containerDependencies host selector network ids) r ∈ nodes :=
    (mem_projection h.projected).mpr (.inr (.inr (.inr ⟨r, hr, _, hok, (.head _)⟩)))
  have hsame : selector.composeService = c.composeService := by
    rw [← hservice]
    simp [FleetVmDesiredResource.service, hselector]
  have hselid : containerResourceId selector = containerResourceId c := by
    unfold containerResourceId
    rw [hsame, h.single _ hident.2.1, h.single _ hmem']
  have hnode : n = containerNode host (containerResourceId selector)
      (containerDependencies host selector network ids) r :=
    List.inj_on_of_nodup_map (nodup_projection h.valid h.projected h.single) hn hrnode
      (hnid.trans (hid.trans hselid.symm))
  obtain ⟨id, hidmem, hdepid⟩ := exists_of_forall₂_left hids hdep
  obtain ⟨t, hfind, ht, rfl⟩ := dependencyResourceId_eq_ok.mp hdepid
  have htd : t.composeService = d := by simpa using List.find?_some hfind
  have hcheck := hdeps (containerResourceId t) (by
    rw [hnode]
    exact mem_containerDependencies.mpr (.inr (.inr hidmem)))
  simp only [checkStartDependency, ok_iff] at hcheck
  obtain ⟨m, hlookup, kind, hkind, hcheck⟩ := hcheck
  obtain ⟨hm, hmid⟩ := of_lookup_toMap hlookup
  -- an identity with the tag of containers belongs to a container node
  have hcontainer : kind = .dockerContainer := by
    rw [tryFrom_eq_some] at hkind
    rcases (mem_projection h.projected).mp hm with rfl | rfl | ⟨w, -, rfl⟩ | ⟨q, -, qs, hq, hqmem⟩
    · exact absurd hmid (ne_of_idTag (by rw [hostNode, idTag_host, idTag_container]; decide))
    · exact absurd hmid (ne_of_idTag (by rw [credentialNode, idTag_credential, idTag_container]; decide))
    · exact absurd hmid (ne_of_idTag (by rw [networkNode, idTag_network, idTag_container]; decide))
    · obtain ⟨_, _, _, -, -, -, -, rfl⟩ := resourceNodes_eq_ok.mp hq
      rcases mem_rowNodes.mp hqmem with rfl | ⟨-, rfl⟩
      · exact toI32_injective hkind
      · exact absurd hmid (ne_of_idTag (by rw [configNode, idTag_config, idTag_container]; decide))
  rw [hcontainer] at hcheck
  simp only [reduceCtorEq, if_false, ok_iff] at hcheck
  obtain ⟨-, u, hu, step, hstep, hready⟩ := hcheck
  obtain ⟨humem, huid⟩ := of_lookup_toMap hu
  obtain ⟨b, hb, hub, hbid⟩ := resourceId_of_entry h.accepted humem
  have hbd : b.composeService = d := by
    rw [← htd]
    exact containerResourceId_inj ((h.single _ hb).trans (h.single _ ht.2.1).symm) (hbid.symm.trans huid)
  rw [tryFrom_eq_some] at hstep
  have hcases : step = .noop ∨ step = .start := by
    by_contra hnot
    exact hready (not_or.mp hnot)
  rcases hcases with rfl | rfl
  · exact .inl ⟨u, humem, hstep.symm, b, hub, hbd⟩
  · exact .inr ⟨u, humem, hstep.symm, b, hub, hbd⟩

/-- In a proposal that starts a container, what is left alone was observed running. -/
theorem running_of_noop (hpropose : proposeVmResourceTransitions T host report = .ok plan)
    (hs : plan.Takes .start s) (hd : plan.Takes .noop d) : report.Running d := by
  have hrows := rows_of_propose hpropose
  obtain ⟨e, he, hstart, -⟩ := hs
  obtain ⟨row, -, -, hstep⟩ := exists_of_forall₂_right hrows he
  have hrunning := planRow_start (toI32_injective (hstep.symm.trans hstart))
  obtain ⟨f, hf, hnoop, c, hc, hcd⟩ := hd
  obtain ⟨row', hrow', hres', hstep'⟩ := exists_of_forall₂_right hrows hf
  rw [hrunning] at hstep'
  exact ⟨row', hrow', planRow_noop (toI32_injective (hstep'.symm.trans hnoop)), c, hres' ▸ hc, hcd⟩

end Plan

/-- **Start closure.** When a proposed plan that starts a container passes the check of its dependency graph,
    the container's direct dependencies run or are started by the plan, everything it depends on along any
    chain runs or is started or installed by it, and nothing along a chain is stopped or blocked. -/
theorem start_closure {T : IpText} {host : FleetHost} {report : FleetVmResourceReport}
    {graph : FleetVmDesiredGraph} {plan : FleetVmResourceTransitionPlan}
    (hpropose : proposeVmResourceTransitions T host report = .ok plan)
    (hdag : validateVmNativeStartDag host graph plan = .ok ()) {s : String} (hs : plan.Takes .start s) :
    (∀ d, graph.DependsOn s d → report.Running d ∨ plan.Takes .start d) ∧
      ∀ d, Relation.TransGen graph.DependsOn s d →
        (report.Running d ∨ plan.Takes .start d ∨ plan.Takes .install d) ∧
          ¬ plan.Takes .stop d ∧ ¬ plan.Takes .blocked d := by
  obtain ⟨nodes, h⟩ := startDag_of_ok hdag
  refine ⟨fun d hd => ?_, fun d hd => ⟨?_, ?_, ?_⟩⟩
  · exact (direct_dependency h hs hd).imp_left (running_of_noop hpropose hs)
  · -- the last link of the chain names a registered container, whose entry takes one of three steps
    obtain ⟨x, -, hxd⟩ := Relation.TransGen.tail'_iff.mp hd
    obtain ⟨c, hc, hcd⟩ := registered_of_dependsOn h.valid hxd
    obtain ⟨e, he, hres, -⟩ := exists_entry h.accepted hc
    rcases h.steps e he with hstep | hstep | hstep
    · exact .inl (running_of_noop hpropose hs ⟨e, he, hstep, c, hres, hcd⟩)
    · exact .inr (.inl ⟨e, he, hstep, c, hres, hcd⟩)
    · exact .inr (.inr ⟨e, he, hstep, c, hres, hcd⟩)
  · rintro ⟨e, he, hstop, -⟩
    rcases h.steps e he with hstep | hstep | hstep <;>
      exact absurd (toI32_injective (hstep.symm.trans hstop)) (by decide)
  · rintro ⟨e, he, hblocked, -⟩
    rcases h.steps e he with hstep | hstep | hstep <;>
      exact absurd (toI32_injective (hstep.symm.trans hblocked)) (by decide)

namespace StartSample

open HierarchySample (container image)

def app : FleetVmContainer := container "a-app" "edge" "app"
def relay : FleetVmContainer := container "b-relay" "edge" "relay"
def warp : FleetVmContainer := container "c-warp" "edge" "warp-egress"

/-- A host whose containers shall run. -/
def host : FleetHost :=
  { HierarchySample.host [app, relay, warp] with target := some ⟨toI32 FleetHostRunState.running, 0⟩ }

/-- The application depends on the relay, the relay on the egress. -/
def graph : FleetVmDesiredGraph :=
  { schemaVersion := 1, machineId := "vm-a",
    resources :=
    [⟨some app, image, ["relay"], []⟩, ⟨some relay, image, ["warp-egress"], []⟩, ⟨some warp, image, [], []⟩],
      networks := [⟨"edge", "edge_net", "bridge", ["app", "relay", "warp-egress"]⟩] }

def containerId : String := "aaaaaaaaaaaaaaaaaaaaaaaaaaaaaaaaaaaaaaaaaaaaaaaaaaaaaaaaaaaaaaaa"

def row (c : FleetVmContainer) (present running : Bool) (reason : FleetVmObservedReason) :
    FleetVmResourceReadback :=
  { resource := some c, present, ownershipProven := present, running, runningProven := present,
    containerId := if present then containerId else "", image := "", health := "", restartCount := 0,
    restartCountProven := false, reasonCode := observedReasonCode reason, configProof := 0,
    configSha256 := [], observedReason := toI32 reason, lastExitCode := 0, lastExitCodeProven := false,
    oomKilled := false, oomKilledProven := false, dockerStateErrorPresent := false,
    runtimeFailureClass := 0 }

/-- The application is stopped and the relay runs; the egress is as given. -/
def report (egress : FleetVmResourceReadback) : FleetVmResourceReport :=
  { schemaVersion := 2, machineId := "vm-a", observedAtUnix := 1,
    resources := [row app true false .stopped, row relay true true .runningNoHealthcheck, egress],
    remoteAttested := false, network := none, installedPolicyGraph := none, installedPolicyStatus := 0,
    installedPolicyErrorCode := "", credential := some ⟨toI32 FleetVmCredentialState.activeLocalValid, 1, 0⟩,
    bootstrapPhase := 0, processes := none, managedDocker := [], managedKernelRoutes := [],
    managedFirewall := [], managedSystemDns := [] }

/-- The reports above carry no addresses. -/
def addresses : IpText := ⟨fun _ => none, fun _ => ""⟩

def entry (c : FleetVmContainer) (step : FleetHostPlannedStep) (reason : FleetVmResourceReason) :
    FleetVmResourceTransition :=
  ⟨some c, toI32 step, resourceReasonCode reason, toI32 reason, containerResourceId c⟩

def plan (egress : FleetVmResourceTransition) : FleetVmResourceTransitionPlan :=
  ⟨1, "vm-a", [entry app .start .containerStoppedButTargetRunning,
    entry relay .noop .runningRuntimeOnlyConfigUnproven, egress], false, false⟩

theorem app_depends_on_warp : Relation.TransGen graph.DependsOn "app" "warp-egress" := by
  have hrelay : graph.DependsOn "app" "relay" :=
    ⟨⟨some app, image, ["relay"], []⟩, by simp [graph], rfl, by simp⟩
  have hwarp : graph.DependsOn "relay" "warp-egress" :=
    ⟨⟨some relay, image, ["warp-egress"], []⟩, by simp [graph], rfl, by simp⟩
  exact .tail (.single hrelay) hwarp

theorem app_started (egress : FleetVmResourceTransition) : (plan egress).Takes .start "app" :=
  ⟨_, (.head _), rfl, app, rfl, rfl⟩

end StartSample

open StartSample in
/-- A stopped application over a running relay and a running egress. -/
theorem start_above_running :
    (report (row warp true true .runningNoHealthcheck)).Running "warp-egress" ∨
      (plan (entry warp .noop .runningRuntimeOnlyConfigUnproven)).Takes .start "warp-egress" ∨
      (plan (entry warp .noop .runningRuntimeOnlyConfigUnproven)).Takes .install "warp-egress" := by
  have hpropose : proposeVmResourceTransitions addresses host
      (report (row warp true true .runningNoHealthcheck)) =
        .ok (plan (entry warp .noop .runningRuntimeOnlyConfigUnproven)) := by decide +kernel
  have hdag : validateVmNativeStartDag host graph
      (plan (entry warp .noop .runningRuntimeOnlyConfigUnproven)) = .ok () := by
    decide +kernel
  exact ((start_closure hpropose hdag (app_started _)).2 "warp-egress" app_depends_on_warp).1

open StartSample in
/-- A stopped application over a running relay whose egress is absent: the plan starts the application and
    installs the egress two links below it. -/
theorem started_above_installed :
    proposeVmResourceTransitions addresses host (report (row warp false false .containerAbsent)) =
        .ok (plan (entry warp .install .containerAbsentInstallRequired)) ∧
      validateVmNativeStartDag host graph (plan (entry warp .install .containerAbsentInstallRequired)) =
      .ok () ∧ (plan (entry warp .install .containerAbsentInstallRequired)).Takes .start "app" ∧
      Relation.TransGen graph.DependsOn "app" "warp-egress" ∧
      ¬ (report (row warp false false .containerAbsent)).Running "warp-egress" ∧
      ¬ (plan (entry warp .install .containerAbsentInstallRequired)).Takes .start "warp-egress" := by
  refine ⟨by decide +kernel, by decide +kernel, app_started _, app_depends_on_warp, ?_, ?_⟩
  · rintro ⟨r, hr, hrunning, c, hc, hservice⟩
    simp only [report, List.mem_cons, List.not_mem_nil, or_false] at hr
    rcases hr with rfl | rfl | rfl
    · cases hrunning
    · obtain rfl : relay = c := Option.some.inj hc
      exact absurd hservice (by decide)
    · cases hrunning
  · rintro ⟨e, he, hstep, c, hc, hservice⟩
    simp only [plan, List.mem_cons, List.not_mem_nil, or_false] at he
    rcases he with rfl | rfl | rfl
    · obtain rfl : app = c := Option.some.inj hc
      exact absurd hservice (by decide)
    · exact absurd (toI32_injective hstep) (by decide)
    · exact absurd (toI32_injective hstep) (by decide)

end EdgePlatform.Fleet
