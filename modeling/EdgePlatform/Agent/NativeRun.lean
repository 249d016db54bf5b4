import EdgePlatform.Fleet.Transitions
import EdgePlatform.Foundation.Within

/-!
# `EdgePlatform.Agent.NativeRun` — starting and stopping the containers of a VM

`apply_native_vm_run_once` re-inspects every registered container after the durable BEGIN, compares them with
the plan, starts or stops them in dependency order, and compares the result with the plan again. The orders
are the sweeps of `Foundation.settle` over the inspected containers, keyed by Compose service.

Docker and the files of the stack are operations of the procedure (`RunOp`). `poststate_sound` is about the
last comparison alone: what an accepted pair of snapshots has in common, and what it may differ in.
-/

namespace EdgePlatform.Agent

open Foundation Foundation.Wire
open Host (FleetHost FleetHostPlannedStep FleetVmContainer)
open Fleet

/-! ## Inspection -/

structure ContainerState where
  running : Option Bool
  paused : Option Bool
  restarting : Option Bool
  dead : Option Bool
deriving DecidableEq

structure ContainerConfig where
  labels : Option (List (String × String))
  image : Option String
deriving DecidableEq

/-- The fields of Docker's answer about a container that the agent reads. -/
structure ContainerInspect where
  name : Option String
  id : Option String
  config : Option ContainerConfig
  state : Option ContainerState
deriving DecidableEq

/-- A container as it was inspected. -/
structure OwnedVmContainer where
  id : String
  running : Bool
  service : String
  dependencies : List String
  imageRef : String
deriving DecidableEq

def isContainerId (id : String) : Bool := (utf8 id).length = 64 && (utf8 id).all isAsciiHexdigit

/-- The labels of a registered container. -/
def exactApplicationComposeOwner (name : String) (labels : List (String × String))
    (expected : List FleetVmContainer) :
    Except String Unit := do
  let resource ← okOr (expected.find? (·.containerName = name))
    "HOST_NATIVE_CONTAINER_OUTSIDE_APPLICATION_SCOPE"
  rejectIf (labels.lookup "com.docker.compose.project" ≠ some resource.composeProject ∨
    labels.lookup "com.docker.compose.service" ≠ some resource.composeService)
    "HOST_NATIVE_CONTAINER_OWNERSHIP_UNPROVEN"

/-- Whether it runs, if it is in no transition. -/
def requireKnownNativeContainerState (state : ContainerState) : Except String Bool := do
  rejectIf (state.paused ≠ some false ∨ state.restarting ≠ some false ∨ state.dead ≠ some false)
    "HOST_NATIVE_CONTAINER_TRANSITION_UNPROVEN"
  okOr state.running "HOST_NATIVE_CONTAINER_RUNNING_UNPROVEN"

/-- The services named in a `depends_on` label, each entry up to its first colon. -/
def labelServices (value : String) : List String :=
  ((value.toList.splitOn ',').filter (· ≠ [])).map fun entry => String.ofList (entry.takeWhile (· ≠ ':'))

/-- Each name is a registered service other than `service`, and none is repeated. -/
def checkDependencyNames (expected : List FleetVmContainer) (service error : String) :
    (seen names : List String) → Except String Unit
  | _, [] => .ok ()
  | seen, name :: rest => do
      rejectIf (name = service ∨ name ∉ expected.map (·.composeService) ∨ name ∈ seen) error
      checkDependencyNames expected service error (name :: seen) rest

def labelDependencies (expected : List FleetVmContainer) (service : String)
    (labels : List (String × String)) :
    Except String (List String) :=
  match labels.lookup "com.docker.compose.depends_on" with
  | none => .ok []
  | some value => do
      checkDependencyNames expected service "HOST_NATIVE_CONTAINER_DEPENDENCY_UNTRUSTED" []
        (labelServices value)
      .ok (labelServices value)

/-- One container of the loop, once Docker has answered. -/
def ownedContainer (expected : List FleetVmContainer) (resource : FleetVmContainer)
    (inspect : ContainerInspect) :
    Except String OwnedVmContainer := do
  rejectIf (inspect.name ≠ some ("/" ++ resource.containerName)) "HOST_NATIVE_CONTAINER_NAME_UNPROVEN"
  let config ← okOr inspect.config "HOST_NATIVE_CONTAINER_CONFIG_MISSING"
  let labels ← okOr config.labels "HOST_NATIVE_CONTAINER_LABELS_MISSING"
  exactApplicationComposeOwner resource.containerName labels expected
  let id ← okOr inspect.id "HOST_NATIVE_CONTAINER_ID_MISSING"
  rejectIf (isContainerId id = false) "HOST_NATIVE_CONTAINER_ID_INVALID"
  let state ← okOr inspect.state "HOST_NATIVE_CONTAINER_STATE_UNAVAILABLE"
  let running ← requireKnownNativeContainerState state
  let dependencies ← labelDependencies expected resource.composeService labels
  let imageRef ← okOr config.image "HOST_NATIVE_CONTAINER_IMAGE_UNPROVEN"
  pure ⟨id, running, resource.composeService, dependencies, imageRef⟩

/-! ## Declared dependencies -/

/-- A `depends_on` key: absent or null, a sequence or mapping (with its strings), or anything else. -/
inductive ComposeDependsOn
  | absent
  | entries (names : List (Option String))
  | other
deriving DecidableEq

/-- The parts of the parsed Compose file that dependencies are read from. -/
structure Compose where
  name : Option String
  services : Option (List (String × ComposeDependsOn))
deriving DecidableEq

def ComposeDependsOn.names : ComposeDependsOn → Except String (List String)
  | .absent => .ok []
  | .entries names => names.mapM fun name => okOr name "HOST_NATIVE_COMPOSE_DEPENDENCY_INVALID"
  | .other => .error "HOST_NATIVE_COMPOSE_DEPENDENCY_INVALID"

def resolveComposeService (services : List (String × ComposeDependsOn)) (expected : List FleetVmContainer)
    (resource : FleetVmContainer) : Except String (String × List String) := do
  let dependsOn ← okOr (services.lookup resource.composeService) "HOST_NATIVE_COMPOSE_SERVICE_MISSING"
  let deps ← dependsOn.names
  checkDependencyNames expected resource.composeService
    "HOST_NATIVE_COMPOSE_DEPENDENCY_OUTSIDE_OWNER_SCOPE" [] deps
  pure (resource.composeService, deps)

/-- The dependencies that the Compose file declares. -/
def resolveComposeDependencies (compose : Compose) (expected : List FleetVmContainer) :
    Except String (List (String × List String)) := do
  let services ← okOr compose.services "HOST_NATIVE_COMPOSE_SERVICES_UNPROVEN"
  rejectIf (expected = [] ∨
    (∃ item ∈ expected, some item.composeProject ≠ expected.head?.map (·.composeProject)) ∨
    compose.name ≠ expected.head?.map (·.composeProject)) "HOST_NATIVE_COMPOSE_PROJECT_MISMATCH"
  expected.mapM (resolveComposeService services expected)

/-- Give an inspected container the dependencies of the Compose file; a label may be missing but not
contradict. -/
def bindDependencies (declared : List (String × List String)) (container : OwnedVmContainer) :
    Except String OwnedVmContainer := do
  let expected ← okOr (declared.lookup container.service) "HOST_NATIVE_COMPOSE_SERVICE_MISSING"
  rejectIf (container.dependencies ≠ [] ∧
    ¬ ((∀ d ∈ container.dependencies, d ∈ expected) ∧ ∀ d ∈ expected, d ∈ container.dependencies))
    "HOST_NATIVE_DOCKER_DEPENDENCY_LABEL_MISMATCH"
  pure { container with dependencies := expected }

/-- Containers with their declared dependencies. -/
def bindOwnedVmComposeDependencies (compose : Compose) (expected : List FleetVmContainer)
    (owned : List OwnedVmContainer) : Except String (List OwnedVmContainer) := do
  let declared ← resolveComposeDependencies compose expected
  owned.mapM (bindDependencies declared)

/-! ## Orders -/

/-- Dependencies first. -/
def ownedVmStartOrder (owned : List OwnedVmContainer) : Except String (List Nat) :=
  match settle (fun r => r.1.service) (fun r => r.1.dependencies) owned.zipIdx [] with
  | some order => .ok (order.map (·.2))
  | none => .error "HOST_NATIVE_VM_DEPENDENCIES_MISSING_OR_CYCLIC"

/-- Keep the dependencies on services that are present. -/
def OwnedVmContainer.retain (services : List String) (r : OwnedVmContainer) : OwnedVmContainer :=
  { r with dependencies := r.dependencies.filter (· ∈ services) }

/-- Dependents first. -/
def ownedVmStopOrder (owned : List OwnedVmContainer) : Except String (List Nat) := do
  let order ← ownedVmStartOrder (owned.map (·.retain (owned.map (·.service))))
  pure order.reverse

/-! ## Plans and snapshots -/

/-- The plan of a run. What is compiled for `create_container` and for the network repair is carried as it
is. -/
structure NativeVmRunPlan (β ρ : Type) where
  step : FleetHostPlannedStep
  /-- For each registered container its id, whether it ran, and its image; `none` for an absent one. -/
  identities : List (Option (String × Bool × String))
  desiredGraph : Option FleetVmDesiredGraph
  createMissing : Option String
  aliasRepairs : List String
  preparedCreate : Option β
  composeSha256 : Option Bytes
  edgeNetworkId : Option String
  networkRepair : Option ρ
deriving DecidableEq

/-- The container a snapshot has for a service. -/
def observedService (owned : List OwnedVmContainer) (service : String) : Option OwnedVmContainer :=
  owned.find? (·.service = service)

def snapshotEntry (owned : List OwnedVmContainer) :
    FleetVmContainer × Option (String × Bool × String) → Except String Unit
  | (resource, original) =>
    match original, observedService owned resource.composeService with
    | none, none => .ok ()
    | some (id, wasRunning, image), some current =>
      rejectIf (¬ (id = current.id ∧ wasRunning = current.running ∧ image = current.imageRef))
        "HOST_NATIVE_VM_IDENTITY_OR_STATE_CHANGED_NO_REPLAY"
    | _, _ => .error "HOST_NATIVE_VM_IDENTITY_OR_STATE_CHANGED_NO_REPLAY"

/-- Nothing changed since the plan was made. -/
def checkOwnedVmSnapshot (host : FleetHost) (owned : List OwnedVmContainer)
    (identities : List (Option (String × Bool × String))) : Except String Unit := do
  rejectIf (host.vmContainers.length ≠ identities.length) "HOST_NATIVE_VM_SNAPSHOT_SCOPE_CHANGED"
  (host.vmContainers.zip identities).forM (snapshotEntry owned)

def isGatewayService (service : String) : Bool := service = "line1-gateway" || service = "line2-proxy"

/-- The one gateway to create, if nothing else is to change. -/
def selectScopedVmCreate (host : FleetHost) (plan : FleetVmResourceTransitionPlan)
    (step : FleetHostPlannedStep) :
    Except String (Option String) :=
  if step ≠ .start then .ok none
  else
    match plan.resources.filter (·.step = toI32 FleetHostPlannedStep.install) with
    | [] => .ok none
    | [target] => do
        let resource ← okOr target.resource "HOST_VM_CREATE_RESOURCE_IDENTITY_MISSING"
        rejectIf (isGatewayService resource.composeService = false ∨ resource ∉ host.vmContainers ∨
          ∃ entry ∈ plan.resources, entry.resource ≠ some resource ∧
          entry.step ≠ toI32 FleetHostPlannedStep.noop)
          "HOST_VM_CREATE_SCOPE_OR_NEIGHBOUR_NOT_READY"
        pure (some resource.composeService)
    | _ => .error "HOST_VM_CREATE_MULTIPLE_MISSING_RESOURCES"

/-- The one network a missing gateway may be created on. -/
def verifyScopedGatewayNetworkPolicy (host : FleetHost) (graph : FleetVmDesiredGraph) (service : String) :
    Except String Unit :=
  match graph.networks with
  | [network] => do
      rejectIf (network.networkName ≠ "edge_net" ∨ network.driver ≠ "bridge" ∨
        service ∉ network.attachedServices)
        "HOST_VM_CREATE_NETWORK_SCOPE_UNSUPPORTED"
      let hierarchy ← deriveVmResourceHierarchy host graph
      let selector ← okOr (host.vmContainers.find? (·.composeService = service))
        "HOST_VM_CREATE_RESOURCE_NOT_REGISTERED"
      let resourceId ← vmContainerResourceId host selector
      let node ← okOr (hierarchy.nodes.find? (·.resourceId = resourceId))
        "HOST_VM_CREATE_RESOURCE_NODE_MISSING"
      rejectIf (isGatewayService service = false ∨ node.kind ≠ toI32 FleetResourceKind.dockerContainer ∨
        node.owner ≠ toI32 FleetResourceOwner.vmRootAgent ∨
        node.parentResourceId ≠ "host/" ++ host.machineId ∨
        "network/" ++ network.composeProject ++ "/" ++ network.networkName ∉ node.dependencyIds)
        "HOST_VM_CREATE_RESOURCE_GRAPH_SCOPE_INVALID"
  | _ => .error "HOST_VM_CREATE_NETWORK_SCOPE_UNSUPPORTED"

/-! ## The poststate -/

/-- The run state a step asks for. -/
def desiredRunning : FleetHostPlannedStep → Except String Bool
  | .start => .ok true
  | .stop => .ok false
  | _ => .error "HOST_NATIVE_VM_POSTSTATE_STEP_UNSUPPORTED"

section

variable {β ρ : Type}

/-- A container that was absent and is there now: only the gateway the plan creates, running the image of the
graph. -/
def NativeVmRunPlan.Creates (plan : NativeVmRunPlan β ρ) (selector : FleetVmContainer)
    (current : OwnedVmContainer) :
    Prop :=
  plan.createMissing = some selector.composeService ∧ current.running = true ∧
    ∃ graph ∈ plan.desiredGraph, ∃ row ∈ graph.resources,
      row.resource = some selector ∧ row.imageRef = current.imageRef

instance (plan : NativeVmRunPlan β ρ) (selector : FleetVmContainer) (current : OwnedVmContainer) :
    Decidable (plan.Creates selector current) := by
  unfold NativeVmRunPlan.Creates; infer_instance

/-- One registered container of the loop; the answer says whether it counts as a change. -/
def poststateEntry (plan : NativeVmRunPlan β ρ) (desired : Bool) (after : List OwnedVmContainer) :
    FleetVmContainer × Option (String × Bool × String) → Except String Bool
  | (selector, expected) =>
    match expected, observedService after selector.composeService with
    | none, none => do
        rejectIf (desired = true) "HOST_NATIVE_VM_POSTSTATE_OWNER_CHANGED_NO_REPLAY"
        pure false
    | none, some current => do
        rejectIf (¬ (desired = true ∧ plan.Creates selector current))
          "HOST_NATIVE_VM_POSTSTATE_OWNER_CHANGED_NO_REPLAY"
        pure true
    | some (id, wasRunning, image), some current => do
        rejectIf (¬ (current.id = id ∧ current.imageRef = image))
          "HOST_NATIVE_VM_POSTSTATE_OWNER_CHANGED_NO_REPLAY"
        rejectIf (current.running ≠ desired) "HOST_NATIVE_VM_POSTSTATE_NOT_CONVERGED_NO_REPLAY"
        pure (wasRunning != desired)
    | some _, none => .error "HOST_NATIVE_VM_POSTSTATE_OWNER_CHANGED_NO_REPLAY"

/-- The containers run as the step asks, and are those of the plan. -/
def verifyNativeVmRunPoststate (host : FleetHost) (plan : NativeVmRunPlan β ρ)
    (after : List OwnedVmContainer) :
    Except String Unit := do
  rejectIf (plan.identities.length ≠ host.vmContainers.length) "HOST_NATIVE_VM_POSTSTATE_SCOPE_MISMATCH"
  let desired ← desiredRunning plan.step
  let changed ← (host.vmContainers.zip plan.identities).mapM (poststateEntry plan desired after)
  rejectIf ((changed.count true = 0 ∧ plan.aliasRepairs = [] ∧ plan.networkRepair.isNone) ∨
    after.length > host.vmContainers.length) "HOST_NATIVE_VM_POSTSTATE_CHANGE_UNPROVEN_NO_REPLAY"

/-! ## What an accepted poststate says -/

/-- The identity a snapshot records for a container. -/
def OwnedVmContainer.identity (r : OwnedVmContainer) : String × Bool × String :=
  (r.id, r.running, r.imageRef)

variable {owned : List OwnedVmContainer} {selector : FleetVmContainer} {host : FleetHost}

theorem snapshotEntry_eq_ok
    {original : Option (String × Bool × String)} (h : snapshotEntry owned (selector, original) = .ok ()) :
    original = (observedService owned selector.composeService).map (·.identity) := by
  cases hobs : observedService owned selector.composeService with
  | none =>
    simp only [snapshotEntry, hobs] at h
    cases original with
    | none => rfl
    | some entry => cases h
  | some current =>
    simp only [snapshotEntry, hobs] at h
    cases original with
    | none => cases h
    | some entry =>
      obtain ⟨id, wasRunning, image⟩ := entry
      obtain ⟨rfl, rfl, rfl⟩ := not_not.mp (rejectIf_eq_ok.mp h)
      rfl

/-- The identities of the plan are those of the snapshot it was checked against. -/
theorem checkOwnedVmSnapshot_eq_ok
    {identities : List (Option (String × Bool × String))}
    (h : checkOwnedVmSnapshot host owned identities = .ok ()) :
    identities = host.vmContainers.map fun c => (observedService owned c.composeService).map
      (·.identity) := by
  simp only [checkOwnedVmSnapshot, ok_iff, not_not, List.forM_eq_forM, Except.forM_eq_ok] at h
  obtain ⟨hlen, hentries⟩ := h
  refine List.ext_getElem (by simpa using hlen.symm) fun i hi hi' => ?_
  rw [List.length_map] at hi'
  rw [List.getElem_map]
  refine snapshotEntry_eq_ok (hentries (host.vmContainers[i], identities[i]) ?_)
  have hzip : i < (host.vmContainers.zip identities).length := by simp only [List.length_zip]; omega
  simpa using List.getElem_mem hzip

theorem selectScopedVmCreate_eq_ok {plan : FleetVmResourceTransitionPlan} {step : FleetHostPlannedStep}
    {service : String} (h : selectScopedVmCreate host plan step = .ok (some service)) :
    step = .start ∧ isGatewayService service = true := by
  unfold selectScopedVmCreate at h
  split at h
  · cases h
  next hstep =>
    refine ⟨not_not.mp hstep, ?_⟩
    split at h
    · cases h
    · simp only [ok_iff, not_or, Bool.not_eq_false, pure_eq_ok, Option.some.injEq] at h
      obtain ⟨resource, -, ⟨hgateway, -⟩, rfl⟩ := h
      exact hgateway
    · cases h

/-- The entry of one registered container, read against the snapshot before: absent in both, created, or the
same. -/
theorem poststateEntry_cases {plan : NativeVmRunPlan β ρ} {desired changed : Bool}
    {after : List OwnedVmContainer} {before : Option OwnedVmContainer}
    (h : poststateEntry plan desired after (selector, before.map (·.identity)) = .ok changed) :
    (before = none ∧ observedService after selector.composeService = none ∧ desired = false ∧
      changed = false) ∨
      (∃ current, before = none ∧ observedService after selector.composeService = some current ∧
        desired = true ∧ plan.Creates selector current) ∨
      ∃ old current, before = some old ∧ observedService after selector.composeService = some current ∧
        current.id = old.id ∧ current.imageRef = old.imageRef ∧ current.running = desired ∧
        changed = (old.running != desired) := by
  cases before with
  | none =>
    cases hobs : observedService after selector.composeService with
    | none =>
      simp only [poststateEntry, Option.map_none, hobs, ok_iff, Bool.not_eq_true, pure_eq_ok] at h
      exact Or.inl ⟨rfl, rfl, h.1, h.2.symm⟩
    | some current =>
      simp only [poststateEntry, Option.map_none, hobs, ok_iff, not_not] at h
      exact Or.inr (Or.inl ⟨current, rfl, rfl, h.1⟩)
  | some old =>
    cases hobs : observedService after selector.composeService with
    | none => simp [poststateEntry, hobs, OwnedVmContainer.identity] at h
    | some current =>
      simp only [poststateEntry, OwnedVmContainer.identity, Option.map_some, hobs, ok_iff, not_not, ne_eq,
        pure_eq_ok] at h
      obtain ⟨⟨hid, himage⟩, hrunning, rfl⟩ := h
      exact Or.inr (Or.inr ⟨old, current, rfl, rfl, hid, himage, hrunning, rfl⟩)

/-- The loop over a plan whose identities come from the snapshot `before`. -/
theorem verifyNativeVmRunPoststate_eq_ok {plan : NativeVmRunPlan β ρ}
    {before after : List OwnedVmContainer}
    (hbefore : checkOwnedVmSnapshot host before plan.identities = .ok ())
    (h : verifyNativeVmRunPoststate host plan after = .ok ()) :
    ∃ desired changed, desiredRunning plan.step = .ok desired ∧
      List.Forall₂ (fun c ch => poststateEntry plan desired after
        (c, (observedService before c.composeService).map (·.identity)) = .ok ch) host.vmContainers changed ∧
      (true ∈ changed ∨ plan.aliasRepairs ≠ [] ∨ plan.networkRepair.isSome = true) := by
  simp only [verifyNativeVmRunPoststate, ok_iff, Except.mapM_eq_ok] at h
  obtain ⟨-, desired, hdesired, changed, hrows, hchange⟩ := h
  refine ⟨desired, changed, hdesired, ?_, ?_⟩
  · rw [checkOwnedVmSnapshot_eq_ok hbefore] at hrows
    simpa [← List.map_prod_left_eq_zip, List.forall₂_map_left_iff] using hrows
  · by_contra hnone
    simp only [not_or, ne_eq, not_not, Bool.not_eq_true, Option.isSome_eq_false_iff] at hnone
    obtain ⟨hcount, halias, hrepair⟩ := hnone
    exact hchange (Or.inl ⟨List.count_eq_zero.mpr hcount, halias, hrepair⟩)

end

/-- A registered container has the same id and image in two snapshots, or is in neither. -/
def SameContainer (before after : List OwnedVmContainer) (c : FleetVmContainer) : Prop :=
  (observedService after c.composeService).map (fun r => (r.id, r.imageRef)) =
    (observedService before c.composeService).map fun r => (r.id, r.imageRef)

/-- A registered container runs in one snapshot and not in the other. -/
def RunStateChanged (before after : List OwnedVmContainer) (c : FleetVmContainer) : Prop :=
  ((observedService after c.composeService).any (·.running)) ≠
  (observedService before c.composeService).any (·.running)

section Entry

variable {β ρ : Type} {plan : NativeVmRunPlan β ρ} {desired changed : Bool}
    {before after : List OwnedVmContainer}
variable {c : FleetVmContainer}

section

variable (h : poststateEntry plan desired after
    (c, (observedService before c.composeService).map (·.identity)) = .ok changed)
include h

theorem running_of_entry : ((observedService after c.composeService).any (·.running)) = desired := by
  obtain ⟨-, hnew, hdesired, -⟩ | ⟨r, -, hnew, hdesired, -, hrunning, -⟩
    | ⟨-, r, -, hnew, -, -, hrunning, -⟩ :=
    poststateEntry_cases h
  · rw [hnew, hdesired]
    rfl
  · rw [hnew, hdesired, Option.any_some, hrunning]
  · rw [hnew, Option.any_some, hrunning]

theorem same_or_created_of_entry :
    SameContainer before after c ∨ (observedService before c.composeService = none ∧
      ∃ r, observedService after c.composeService = some r ∧ plan.Creates c r) := by
  unfold SameContainer
  obtain ⟨hold, hnew, -⟩ | ⟨r, hold, hnew, -, hcreates⟩ | ⟨old, r, hold, hnew, hid, himage, -⟩ :=
    poststateEntry_cases h
  · exact Or.inl (by rw [hold, hnew])
  · exact Or.inr ⟨hold, r, hnew, hcreates⟩
  · refine Or.inl ?_
    rw [hold, hnew, Option.map_some, Option.map_some, hid, himage]

end

theorem runStateChanged_of_entry
    (h : poststateEntry plan desired after (c, (observedService before c.composeService).map (·.identity)) =
      .ok true) :
    RunStateChanged before after c := by
  unfold RunStateChanged
  rw [running_of_entry h]
  obtain ⟨-, -, -, hchanged⟩ | ⟨r, hold, -, hdesired, -⟩ | ⟨old, r, hold, -, -, -, -, hchanged⟩ :=
    poststateEntry_cases h
  · cases hchanged
  · rw [hold, hdesired]
    simp
  · rw [hold, Option.any_some]
    exact (bne_iff_ne.mp hchanged.symm).symm

end Entry

/-- **An accepted poststate.** Every registered container is in the run state the step asks for. Each has the
    id and image it had before, except the one gateway the plan creates, which was absent and now has the
    image of the graph. Some container changed its run state, or the plan repairs a service alias or the
    managed network. -/
theorem poststate_sound {β ρ : Type} (host : FleetHost) (transitions : FleetVmResourceTransitionPlan)
    (plan : NativeVmRunPlan β ρ) (before after : List OwnedVmContainer)
    (hselect : selectScopedVmCreate host transitions plan.step = .ok plan.createMissing)
    (hbefore : checkOwnedVmSnapshot host before plan.identities = .ok ())
    (hafter : verifyNativeVmRunPoststate host plan after = .ok ()) :
    ((plan.step = .start ∧ ∀ c ∈ host.vmContainers, ∃ r, observedService after c.composeService = some r ∧
          r.running = true) ∨
        (plan.step = .stop ∧ ∀ c ∈ host.vmContainers, ∀ r, observedService after c.composeService = some r →
          r.running = false)) ∧
      (∀ c ∈ host.vmContainers, SameContainer before after c ∨
        (plan.createMissing = some c.composeService ∧ isGatewayService c.composeService = true ∧
          observedService before c.composeService = none ∧
          ∃ r, observedService after c.composeService = some r ∧ ∃ graph ∈ plan.desiredGraph,
            ∃ row ∈ graph.resources, row.resource = some c ∧ row.imageRef = r.imageRef)) ∧
      ((∃ c ∈ host.vmContainers, RunStateChanged before after c) ∨ plan.aliasRepairs ≠ [] ∨
        plan.networkRepair.isSome = true) := by
  obtain ⟨desired, changed, hdesired, hrows, hchange⟩ := verifyNativeVmRunPoststate_eq_ok hbefore hafter
  refine ⟨?_, fun c hc => ?_, hchange.imp_left fun htrue => ?_⟩
  · -- only a start and a stop have a run state
    have hrun : ∀ c ∈ host.vmContainers, ((observedService after c.composeService).any (·.running)) =
        desired := by
      intro c hc
      obtain ⟨ch, -, hentry⟩ := exists_of_forall₂_left hrows hc
      exact running_of_entry hentry
    unfold desiredRunning at hdesired
    split at hdesired <;> cases hdesired
    next hstep =>
      refine Or.inl ⟨hstep, fun c hc => ?_⟩
      simpa [Option.any_eq_true] using hrun c hc
    next hstep =>
      refine Or.inr ⟨hstep, fun c hc r hr => ?_⟩
      simpa [hr] using hrun c hc
  · obtain ⟨ch, -, hentry⟩ := exists_of_forall₂_left hrows hc
    refine (same_or_created_of_entry hentry).imp_right ?_
    rintro ⟨habsent, r, hr, hcreated, -, himage⟩
    rw [hcreated] at hselect
    exact ⟨hcreated, (selectScopedVmCreate_eq_ok hselect).2, habsent, r, hr, himage⟩
  · obtain ⟨c, hc, hentry⟩ := exists_of_forall₂_right hrows htrue
    exact ⟨c, hc, runStateChanged_of_entry hentry⟩

namespace RunSample

open HierarchySample (gateway egress image)

def host : FleetHost := HierarchySample.host [gateway, egress "edge"]

def gatewayId : String := "aaaaaaaaaaaaaaaaaaaaaaaaaaaaaaaaaaaaaaaaaaaaaaaaaaaaaaaaaaaaaaaa"
def egressId : String := "bbbbbbbbbbbbbbbbbbbbbbbbbbbbbbbbbbbbbbbbbbbbbbbbbbbbbbbbbbbbbbbb"

def ownedGateway : OwnedVmContainer := ⟨gatewayId, true, "line1-gateway", ["warp-egress"], image⟩
def ownedEgress : OwnedVmContainer := ⟨egressId, true, "warp-egress", [], image⟩

/-- A start of containers seen as in `before`, without repairs and without a creation. -/
def plan (before : List OwnedVmContainer) : NativeVmRunPlan Unit Unit :=
  { step := .start,
    identities := host.vmContainers.map fun c => (observedService before c.composeService).map (·.identity),
    desiredGraph := some (HierarchySample.graph gateway (egress "edge")), createMissing := none,
    aliasRepairs := [], preparedCreate := none, composeSha256 := none, edgeNetworkId := none,
    networkRepair := none }

def transitions (gatewayStep : FleetHostPlannedStep) : FleetVmResourceTransitionPlan :=
  { schemaVersion := 1, machineId := "vm-a", ownerAttested := false, mutationAuthorized := false,
    resources := [⟨some gateway, toI32 gatewayStep, "", 0, ""⟩,
      ⟨some (egress "edge"), toI32 FleetHostPlannedStep.noop, "", 0, ""⟩] }

end RunSample

open RunSample HierarchySample in
/-- The missing gateway was created beside the running egress. -/
theorem poststate_of_created_gateway :
    (∀ c ∈ host.vmContainers, ∃ r, observedService [ownedGateway, ownedEgress] c.composeService = some r ∧
        r.running = true) ∧
      SameContainer [ownedEgress] [ownedGateway, ownedEgress] (egress "edge") := by
  obtain ⟨hrun, hsame, -⟩ := poststate_sound host (transitions .install)
    { plan [ownedEgress] with createMissing := some "line1-gateway" } [ownedEgress]
    [ownedGateway, ownedEgress] (by decide) (by decide) (by decide)
  constructor
  · rcases hrun with ⟨-, hrun⟩ | ⟨hstop, -⟩
    · exact hrun
    · cases hstop
  · rcases hsame (egress "edge") (by decide) with hsame | ⟨hcreated, -⟩
    · exact hsame
    · exact absurd hcreated (by decide)

open RunSample HierarchySample in
/-- A start that only repairs the managed network is accepted, and no container is other than it was. -/
theorem network_repair_changes_no_container :
    selectScopedVmCreate host (transitions .noop) .start = .ok none ∧
      checkOwnedVmSnapshot host [ownedGateway, ownedEgress]
      (plan [ownedGateway, ownedEgress]).identities = .ok () ∧
        verifyNativeVmRunPoststate host { plan [ownedGateway, ownedEgress] with networkRepair := some () }
        [ownedGateway, ownedEgress] = .ok () ∧
      (∀ c ∈ host.vmContainers, ¬ RunStateChanged [ownedGateway, ownedEgress]
        [ownedGateway, ownedEgress] c) ∧
      (plan [ownedGateway, ownedEgress]).aliasRepairs = [] :=
  ⟨by decide, by decide, by decide, fun _ _ h => h rfl, rfl⟩

end EdgePlatform.Agent
