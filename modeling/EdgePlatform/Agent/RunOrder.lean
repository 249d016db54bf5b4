import EdgePlatform.Agent.NativeRun

/-!
# `EdgePlatform.Agent.RunOrder` — containers are started and stopped in dependency order

`applyNativeVmRunOnce` with Docker, the Compose file and the managed network as operations (`RunOp`). The
world is what matters for order: which containers exist, which of them run, and the installed Compose file
(`DockerHost`). Any operation may fail, and a start, stop or creation whose answer is lost may have happened.

The loop carries one invariant (`Progress`): the world is that of the first inspection with every container
visited so far in the wanted run state. What the order says about the containers visited so far then guards
the next call. The two orders say opposite things: before a start come the dependencies, before a stop the
dependents.
-/

namespace EdgePlatform.Agent

open Foundation Foundation.Wire Foundation.Proc
open Host (FleetHost FleetHostPlannedStep FleetVmContainer)
open Fleet

/-! ## The orders -/

section Orders

variable {owned : List OwnedVmContainer} {order : List Nat}

/-- An order of indices read as an order of containers. -/
structure Visits (owned : List OwnedVmContainer) (order : List Nat)
    (seq : List OwnedVmContainer) : Prop where
  entries : List.Forall₂ (fun i r => owned[i]? = some r) order seq
  perm : seq.Perm owned
  indices : order.Perm (List.range owned.length)

theorem Visits.reverse {seq : List OwnedVmContainer} (h : Visits owned order seq) :
    Visits owned order.reverse seq.reverse :=
  ⟨List.rel_reverse h.entries, (List.reverse_perm seq).trans h.perm,
    (List.reverse_perm order).trans h.indices⟩

theorem visits_of_settle (deps : OwnedVmContainer → List String) {items : List (OwnedVmContainer × Nat)}
    (h : settle (fun r => r.1.service) (fun r => deps r.1) owned.zipIdx [] = some items) :
    Visits owned (items.map (·.2)) (items.map (·.1)) ∧ ((items.map (·.1)).map (·.service)).Nodup ∧
      Ordered (·.service) deps (items.map (·.1)) := by
  obtain ⟨hperm, hnodup, hord⟩ := settle_eq_some h
  have hentry : ∀ item ∈ items, owned[item.2]? = some item.1 := by
    intro item hitem
    exact List.mk_mem_zipIdx_iff_getElem?.mp (hperm.mem_iff.mp hitem)
  refine ⟨⟨?_, ?_, ?_⟩, ?_, ?_⟩
  · rw [List.forall₂_map_left_iff, List.forall₂_map_right_iff, List.forall₂_same]
    exact hentry
  · simpa using hperm.map (·.1)
  · simpa [List.range_eq_range'] using hperm.map (·.2)
  · simpa [Function.comp_def] using hnodup
  · intro l a r hsplit d hd
    obtain ⟨l', rest, rfl, rfl, hrest⟩ := List.map_eq_append_iff.mp hsplit
    obtain ⟨a', r', rfl, rfl, rfl⟩ := List.map_eq_cons_iff.mp hrest
    simpa using hord l' a' r' rfl d hd

theorem settle_zipIdx (owned : List OwnedVmContainer) (deps : OwnedVmContainer → List String) :
    (settle (fun r => r.1.service) (fun r => deps r.1) owned.zipIdx []).isSome = true ↔
      (owned.map (·.service)).Nodup ∧ ClosedDeps (·.service) deps owned ∧
      Acyclic (Foundation.DependsOn (·.service) deps owned) := by
  have hmap := settle_map (·.service) deps (·.1) owned.zipIdx []
  rw [List.zipIdx_map_fst, List.map_nil] at hmap
  rw [← settle_isSome_iff, hmap, Option.isSome_map]
  rfl

theorem ownedVmStartOrder_eq_ok (h : ownedVmStartOrder owned = .ok order) :
    ∃ seq, Visits owned order seq ∧ Ordered (·.service) (·.dependencies) seq := by
  unfold ownedVmStartOrder at h
  split at h
  next items hsettle =>
    obtain rfl : items.map (·.2) = order := by simpa using h
    obtain ⟨hvisits, -, hord⟩ := visits_of_settle (·.dependencies) hsettle
    exact ⟨_, hvisits, hord⟩
  next => cases h

theorem exists_ownedVmStartOrder_iff (hnodup : (owned.map (·.service)).Nodup) :
    (∃ order, ownedVmStartOrder owned = .ok order) ↔
      ClosedDeps (·.service) (·.dependencies) owned ∧
      Acyclic (Foundation.DependsOn (·.service) (·.dependencies) owned) := by
  have hsettle := settle_zipIdx owned (·.dependencies)
  rw [ownedVmStartOrder]
  split
  next items hrun => simpa [hrun, hnodup] using hsettle
  next hrun => simpa [hrun, hnodup] using hsettle

/-- The dependencies of a container on services that are present. -/
def presentDependencies (owned : List OwnedVmContainer) (r : OwnedVmContainer) : List String :=
  r.dependencies.filter (· ∈ owned.map (·.service))

theorem ownedVmStopOrder_eq (owned : List OwnedVmContainer) :
    ownedVmStopOrder owned =
      match settle (fun r => r.1.service) (fun r => presentDependencies owned r.1) owned.zipIdx [] with
      | some items => .ok (items.map (·.2)).reverse
      | none => .error "HOST_NATIVE_VM_DEPENDENCIES_MISSING_OR_CYCLIC" := by
  have hmap : settle (fun r => r.1.service) (fun r => r.1.dependencies)
      (owned.map (·.retain (owned.map (·.service)))).zipIdx [] =
        (settle (fun r => r.1.service) (fun r => presentDependencies owned r.1) owned.zipIdx []).map
          (List.map (Prod.map (·.retain (owned.map (·.service))) id)) := by
    rw [List.zipIdx_map]
    exact settle_map _ _ _ owned.zipIdx []
  rw [ownedVmStopOrder, ownedVmStartOrder, hmap]
  cases settle (fun r => r.1.service) (fun r => presentDependencies owned r.1) owned.zipIdx [] with
  | none => rfl
  | some items => simp [bind, Except.bind, pure, Except.pure, Function.comp_def]

theorem exists_ownedVmStopOrder_iff (hnodup : (owned.map (·.service)).Nodup) :
    (∃ order, ownedVmStopOrder owned = .ok order) ↔
      Acyclic (Foundation.DependsOn (·.service) (presentDependencies owned) owned) := by
  have hclosed : ClosedDeps (·.service) (presentDependencies owned) owned := by
    intro r _ d hd
    simpa [presentDependencies] using (List.mem_filter.mp hd).2
  have hsettle := settle_zipIdx owned (presentDependencies owned)
  rw [ownedVmStopOrder_eq]
  split
  next items hrun => simpa [hrun, hnodup, hclosed] using hsettle
  next hrun => simpa [hrun, hnodup, hclosed] using hsettle

/-- When the stop order comes to a container, it has been at everything that depends on it. -/
theorem ownedVmStopOrder_eq_ok (h : ownedVmStopOrder owned = .ok order) :
    ∃ seq, Visits owned order seq ∧ ∀ l r rest, seq = l ++ r :: rest →
      ∀ r' ∈ owned, r.service ∈ r'.dependencies → r' ∈ l := by
  rw [ownedVmStopOrder_eq] at h
  split at h
  next items hsettle =>
    obtain rfl : (items.map (·.2)).reverse = order := by simpa using h
    obtain ⟨hvisits, hnodup, hord⟩ := visits_of_settle (presentDependencies owned) hsettle
    refine ⟨_, hvisits.reverse, fun l r rest hsplit r' hr' hdep => ?_⟩
    have hseq : items.map (·.1) = rest.reverse ++ r :: l.reverse := by
      rw [← List.reverse_inj, hsplit]
      simp
    have hr : r ∈ owned := hvisits.perm.mem_iff.mp (by simp [hseq])
    have hpresent : r.service ∈ presentDependencies owned r' := by
      refine List.mem_filter.mpr ⟨hdep, ?_⟩
      simpa using ⟨r, hr, rfl⟩
    exact List.mem_reverse.mp (hord.mem_after hnodup hseq (hvisits.perm.mem_iff.mpr hr') hpresent)
  next => cases h

end Orders
/-! ## The procedure -/

inductive RunOp (β ρ : Type)
  | connection
  | inspect (name : String)
  | compose
  | composeDigest
  | desiredGraph
  | expectedImages
  | edgeNetworkId
  | missingAliases (owned : List OwnedVmContainer) (networkId : String)
  | disconnect (networkId id : String)
  | connect (networkId id service : String)
  | attached (networkId id service : String)
  | attachments (owned : List OwnedVmContainer) (networkId : String)
  | repairNetwork (repair : ρ)
  | create (name : String) (body : β)
  | start (id : String)
  | stop (id : String)

def runSig (β ρ : Type) : Sig where
  Op := RunOp β ρ
  Ans
    | .connection | .attachments _ _ | .repairNetwork _ => Except String Unit
    | .inspect _ => Option (Option ContainerInspect)
    | .compose => Except String Compose
    | .composeDigest => Except String Bytes
    | .desiredGraph => Except String FleetVmDesiredGraph
    | .expectedImages => Except String (List (String × String))
    | .edgeNetworkId => Except String String
    | .missingAliases _ _ => Except String (List String)
    | .disconnect _ _ | .connect _ _ _ | .attached _ _ _ | .start _ | .stop _ => Bool
    | .create _ _ => Option String

section

variable {β ρ : Type}

abbrev RunProc (β ρ α : Type) := Proc (runSig β ρ) α

/-! One procedure for each call of Docker and of the stack. A lost answer is `false` or `none`. -/

/-- Docker answers. -/
def dockerEffectConnection : RunProc β ρ Unit := .call .connection fun answer => .lift answer

/-- The Compose file. -/
def readNativeVmCompose : RunProc β ρ Compose := .call .compose fun answer => .lift answer

/-- The digest of the Compose file. -/
def nativeVmComposeDigest : RunProc β ρ Bytes := .call .composeDigest fun answer => .lift answer

/-- The graph of the installed files. -/
def compileNativeVmDesiredGraph : RunProc β ρ FleetVmDesiredGraph :=
  .call .desiredGraph fun answer => .lift answer

/-- The images of the installed files. -/
def readVmExpectedImageRefs : RunProc β ρ (List (String × String)) :=
  .call .expectedImages fun answer => .lift answer

/-- The network of the containers. -/
def readOwnedEdgeNetworkId : RunProc β ρ String := .call .edgeNetworkId fun answer => .lift answer

/-- Containers without their alias. -/
def missingOwnedVmServiceAliases (owned : List OwnedVmContainer) (networkId : String) :
    RunProc β ρ (List String) :=
  .call (.missingAliases owned networkId) fun answer => .lift answer

/-- Every container is attached. -/
def verifyVmNetworkAttachments (owned : List OwnedVmContainer) (networkId : String) : RunProc β ρ Unit :=
  .call (.attachments owned networkId) fun answer => .lift answer

/-- The repair of the managed network. -/
def applyScopedNetworkRepairOnce (repair : ρ) : RunProc β ρ Unit :=
  .call (.repairNetwork repair) fun answer => .lift answer

def disconnectNetwork (networkId id : String) : RunProc β ρ Unit :=
  .call (.disconnect networkId id) fun (acked : Bool) =>
    .lift (rejectIf (acked = false) "HOST_VM_ALIAS_DISCONNECT_UNCERTAIN_NO_REPLAY")

def connectNetwork (networkId id service : String) : RunProc β ρ Unit :=
  .call (.connect networkId id service) fun (acked : Bool) =>
    .lift (rejectIf (acked = false) "HOST_VM_ALIAS_CONNECT_UNCERTAIN_NO_REPLAY")

/-- Inspect a container by its id and compare its one endpoint (`exact_owned_network_attachment`). -/
def proveAttachment (networkId id service : String) : RunProc β ρ Unit :=
  .call (.attached networkId id service) fun (proven : Bool) =>
    .lift (rejectIf (proven = false) "HOST_VM_ALIAS_POSTSTATE_UNPROVEN_NO_REPLAY")

def createContainer (name : String) (body : β) : RunProc β ρ String :=
  .call (.create name body) fun (created : Option String) => .lift
    (okOr created "HOST_VM_CREATE_ACK_UNCERTAIN_NO_REPLAY")

def startContainer (id error : String) : RunProc β ρ Unit :=
  .call (.start id) fun (acked : Bool) => .lift (rejectIf (acked = false) error)

def stopContainer (id error : String) : RunProc β ρ Unit :=
  .call (.stop id) fun (acked : Bool) => .lift (rejectIf (acked = false) error)

/-- The containers of the list that exist, inspected one after the other; 404 is an absent container. -/
def inspectOwned (expected : List FleetVmContainer) :
    List FleetVmContainer → RunProc β ρ (List OwnedVmContainer)
  | [] => .ret []
  | resource :: rest => .call (.inspect resource.containerName) fun
      | none => .fail "HOST_NATIVE_DOCKER_IDENTITY_UNAVAILABLE"
      | some none => inspectOwned expected rest
      | some (some inspect) => do
          let r ← ownedContainer expected resource inspect
          let rs ← inspectOwned expected rest
          pure (r :: rs)

/-- The registered containers that are present. -/
def ownedApplicationContainerIds (expected : List FleetVmContainer) :
    RunProc β ρ (List OwnedVmContainer) := do
  rejectIf (expected = []) "HOST_NATIVE_VM_RESOURCE_SCOPE_MISSING"
  inspectOwned expected expected

/-- Inspect the registered containers and bind them to the Compose file. -/
def boundContainers (host : FleetHost) : RunProc β ρ (List OwnedVmContainer) := do
  let owned ← ownedApplicationContainerIds host.vmContainers
  let compose ← readNativeVmCompose
  bindOwnedVmComposeDependencies compose host.vmContainers owned

def verifyComposeDigest (plan : NativeVmRunPlan β ρ) : RunProc β ρ Unit :=
  match plan.composeSha256 with
  | none => .ret ()
  | some expected => do
      let digest ← nativeVmComposeDigest
      rejectIf (digest ≠ expected) "HOST_VM_COMPOSE_BYTES_CHANGED_BEFORE_MUTATION_NO_REPLAY"

/-- The graph compiled from the installed files is still that of the plan. -/
def verifyDesiredGraph (plan : NativeVmRunPlan β ρ) (error : String) : RunProc β ρ Unit :=
  match plan.desiredGraph with
  | none => .ret ()
  | some graph => do
      let current ← compileNativeVmDesiredGraph
      rejectIf (current ≠ graph) error

def verifyStartImages (step : FleetHostPlannedStep) (owned : List OwnedVmContainer) : RunProc β ρ Unit :=
  if step = .start then do
    let images ← readVmExpectedImageRefs
    rejectIf (∃ container ∈ owned, images.lookup container.service ≠ some container.imageRef)
      "HOST_NATIVE_VM_START_IMAGE_MISMATCH_NO_REPLAY"
  else .ret ()

def runOrderOf (step : FleetHostPlannedStep) (owned : List OwnedVmContainer) : Except String (List Nat) :=
  if step = .stop then ownedVmStopOrder owned else ownedVmStartOrder owned

def repairManagedNetwork (plan : NativeVmRunPlan β ρ) : RunProc β ρ Unit :=
  match plan.networkRepair with
  | none => .ret ()
  | some repair => do
      rejectIf (plan.step ≠ .start ∨ plan.createMissing.isSome ∨ plan.aliasRepairs ≠ [])
        "HOST_VM_MANAGED_REPAIR_CONFLICTING_EFFECT_NO_REPLAY"
      applyScopedNetworkRepairOnce repair

/-- Take one running container off the network and put it back with its service alias. -/
def reattach (owned : List OwnedVmContainer) (networkId service : String) : RunProc β ρ Unit := do
  let container ← okOr (owned.find? fun item => item.service = service && item.running)
    "HOST_VM_ALIAS_REGISTERED_OWNER_MISSING_NO_REPLAY"
  disconnectNetwork networkId container.id
  connectNetwork networkId container.id service
  proveAttachment networkId container.id service

def reattachAll (owned : List OwnedVmContainer) (networkId : String) : List String → RunProc β ρ Unit
  | [] => .ret ()
  | service :: rest => do
      reattach owned networkId service
      reattachAll owned networkId rest

/-- Reattach the containers that the plan found without alias. -/
def applyOwnedVmServiceAliasesOnce (owned : List OwnedVmContainer) (networkId : String)
    (aliases : List String) :
    RunProc β ρ Unit := do
  let current ← readOwnedEdgeNetworkId
  rejectIf (current ≠ networkId) "HOST_VM_ALIAS_PRESTATE_CHANGED_NO_REPLAY"
  let missing ← missingOwnedVmServiceAliases owned networkId
  rejectIf (missing ≠ aliases) "HOST_VM_ALIAS_PRESTATE_CHANGED_NO_REPLAY"
  reattachAll owned networkId aliases

def repairAliases (plan : NativeVmRunPlan β ρ) (owned : List OwnedVmContainer) : RunProc β ρ Unit :=
  if plan.aliasRepairs = [] then .ret ()
  else do
    let networkId ← okOr plan.edgeNetworkId "HOST_VM_ALIAS_PLAN_NETWORK_UNPROVEN_NO_REPLAY"
    applyOwnedVmServiceAliasesOnce owned networkId plan.aliasRepairs

/-- Create one missing gateway and start it. -/
def createAndStart (host : FleetHost) (plan : NativeVmRunPlan β ρ) (service : String) :
    RunProc β ρ Unit := do
  let body ← okOr plan.preparedCreate "HOST_VM_CREATE_PREPARED_BODY_MISSING_NO_REPLAY"
  let selector ← okOr (host.vmContainers.find? (·.composeService = service))
    "HOST_VM_CREATE_SELECTOR_MISSING_NO_REPLAY"
  let id ← createContainer selector.containerName body
  rejectIf (isContainerId id = false) "HOST_VM_CREATE_ID_UNPROVEN_NO_REPLAY"
  startContainer id "HOST_VM_CREATE_START_UNCERTAIN_NO_REPLAY"

/-- What must hold before a creation is issued. -/
def preadmitCreate (host : FleetHost) (plan : NativeVmRunPlan β ρ) (owned : List OwnedVmContainer)
    (service : String) :
    RunProc β ρ Unit := do
  let networkId ← readOwnedEdgeNetworkId
  rejectIf (plan.edgeNetworkId ≠ some networkId) "HOST_VM_CREATE_PREADMISSION_CHANGED_NO_REPLAY"
  let graph ← okOr plan.desiredGraph "HOST_VM_CREATE_DESIRED_GRAPH_MISSING_NO_REPLAY"
  verifyScopedGatewayNetworkPolicy host graph service
  verifyVmNetworkAttachments owned networkId

def createMissingGateway (host : FleetHost) (plan : NativeVmRunPlan β ρ) (owned : List OwnedVmContainer) :
    RunProc β ρ Unit :=
  match plan.createMissing with
  | none => .ret ()
  | some service => do
      rejectIf (plan.step ≠ .start ∨ owned.length + 1 ≠ host.vmContainers.length ∨
        ∃ item ∈ owned, item.running = false)
        "HOST_VM_CREATE_PREADMISSION_CHANGED_NO_REPLAY"
      preadmitCreate host plan owned service
      createAndStart host plan service

/-- One container of the loop: only one that is not yet in the wanted state is touched. -/
def runContainer (step : FleetHostPlannedStep) (container : OwnedVmContainer) : RunProc β ρ Unit :=
  match step with
  | .start =>
    if container.running then .ret () else startContainer container.id
      "HOST_NATIVE_VM_START_UNCERTAIN_NO_REPLAY"
  | .stop =>
    if container.running then stopContainer container.id
      "HOST_NATIVE_VM_STOP_UNCERTAIN_NO_REPLAY" else .ret ()
  | _ => .fail "HOST_NATIVE_VM_RUN_STEP_INVALID"

def runInOrder (step : FleetHostPlannedStep) (owned : List OwnedVmContainer) : List Nat → RunProc β ρ Unit
  | [] => .ret ()
  | index :: rest => do
      -- the orders hold indices into `owned` only
      let container ← okOr owned[index]? "index out of bounds"
      runContainer step container
      runInOrder step owned rest

def verifyEdgeNetwork (plan : NativeVmRunPlan β ρ) (after : List OwnedVmContainer) : RunProc β ρ Unit :=
  match plan.edgeNetworkId with
  | none => .ret ()
  | some expected => do
      let current ← readOwnedEdgeNetworkId
      rejectIf (current ≠ expected) "HOST_VM_CREATE_NETWORK_CHANGED_NO_REPLAY"
      .call (.attachments after expected) fun answer => .lift
        (orError answer "HOST_VM_CREATE_NETWORK_ATTACHMENT_NO_REPLAY")

/-- What is read back after the loop. -/
def verifyRun (host : FleetHost) (plan : NativeVmRunPlan β ρ) : RunProc β ρ Unit := do
  let after ← boundContainers host
  verifyNativeVmRunPoststate host plan after
  verifyEdgeNetwork plan after
  verifyDesiredGraph plan "HOST_VM_GRAPH_POSTSTATE_CHANGED_NO_REPLAY"

/-- Check the plan again, repair, create, run in order, verify. -/
def applyNativeVmRunOnce (host : FleetHost) (plan : NativeVmRunPlan β ρ) : RunProc β ρ Unit := do
  dockerEffectConnection
  let owned ← boundContainers host
  checkOwnedVmSnapshot host owned plan.identities
  verifyComposeDigest plan
  verifyDesiredGraph plan "HOST_VM_GRAPH_CHANGED_BEFORE_MUTATION"
  verifyStartImages plan.step owned
  let order ← runOrderOf plan.step owned
  repairManagedNetwork plan
  repairAliases plan owned
  createMissingGateway host plan owned
  runInOrder plan.step owned order
  verifyRun host plan

/-! ## The world -/

structure Container where
  id : String
  running : Bool
deriving DecidableEq

/-- The containers by name, ids being unique, and the installed Compose file. -/
structure DockerHost where
  container : String → Option Container
  compose : Compose
  ids_unique : ∀ n m x y, container n = some x → container m = some y → x.id = y.id → n = m

namespace DockerHost

def setRunning (w : DockerHost) (id : String) (running : Bool) : DockerHost where
  container n := (w.container n).map fun c => if c.id = id then { c with running } else c
  compose := w.compose
  ids_unique := by
    intro n m x y hx hy hid
    simp only [Option.map_eq_some_iff] at hx hy
    obtain ⟨x', hx', rfl⟩ := hx
    obtain ⟨y', hy', rfl⟩ := hy
    refine w.ids_unique n m x' y' hx' hy' ?_
    split at hid <;> split at hid <;> exact hid

/-- A container that did not exist is created under a new id; it does not run. -/
structure Created (w : DockerHost) (name id : String) (w' : DockerHost) : Prop where
  absent : w.container name = none
  created : w'.container name = some ⟨id, false⟩
  others : ∀ n, n ≠ name → w'.container n = w.container n
  compose : w'.compose = w.compose

end DockerHost

/-- What Docker tells about a container is true of it; labels, image and health are whatever they are. -/
def Container.Shown (c : Container) (inspect : ContainerInspect) : Prop :=
  (∀ id ∈ inspect.id, id = c.id) ∧ ∀ state ∈ inspect.state, ∀ running ∈ state.running, running = c.running

/-- Docker and the stack. Run states change by `start`, `stop` and `create` only; a lost answer leaves open
    whether the change was made. -/
def runSem : Sem (runSig β ρ) DockerHost
  | .inspect name, w, (a : Option (Option ContainerInspect)), w' => w' = w ∧
      (a = none ∨ (a = some none ∧ w.container name = none) ∨
        ∃ inspect c, a = some (some inspect) ∧ w.container name = some c ∧ c.Shown inspect)
  | .compose, w, (a : Except String Compose), w' => w' = w ∧ ∀ compose, a = .ok compose → compose = w.compose
  | .create name _, w, (a : Option String), w' =>
    (a = none ∧ w' = w) ∨ ∃ id, w.Created name id w' ∧ (a = none ∨ a = some id)
  | .start id, w, (a : Bool), w' => w' = w.setRunning id true ∨ (a = false ∧ w' = w)
  | .stop id, w, (a : Bool), w' => w' = w.setRunning id false ∨ (a = false ∧ w' = w)
  | _, w, _, w' => w' = w

/-- An operation that changes no container. -/
def RunOp.Quiet : RunOp β ρ → Prop
  | .create _ _ | .start _ | .stop _ => False
  | _ => True

theorem quiet_frame {op : RunOp β ρ} {w w' : DockerHost} {a : (runSig β ρ).Ans op} (hop : op.Quiet)
    (h : runSem op w a w') : w' = w := by
  cases op with
  | inspect | compose => exact h.1
  | create | start | stop => exact hop.elim
  | _ => exact h

/-! ## Safety -/

/-- The dependencies the Compose file declares for a service. -/
def declaredDependencies (compose : Compose) (host : FleetHost) (service : String) : List String :=
  match resolveComposeDependencies compose host.vmContainers with
  | .ok declared => (declared.lookup service).getD []
  | .error _ => []

namespace DockerHost

def HasId (w : DockerHost) (c : FleetVmContainer) (id : String) : Prop :=
  ∃ x, w.container c.containerName = some x ∧ x.id = id

def Running (w : DockerHost) (c : FleetVmContainer) : Prop :=
  ∃ x, w.container c.containerName = some x ∧ x.running = true

end DockerHost

/-- A start is of a registered container whose declared dependencies all run, a stop of one on which nothing
    that runs depends. -/
def InOrder (host : FleetHost) : RunOp β ρ → DockerHost → Prop
  | .start id, w => ∃ c ∈ host.vmContainers, w.HasId c id ∧
      ∀ d ∈ declaredDependencies w.compose host c.composeService,
        ∃ c' ∈ host.vmContainers, c'.composeService = d ∧ w.Running c'
  | .stop id, w => ∃ c ∈ host.vmContainers, w.HasId c id ∧
      ∀ c' ∈ host.vmContainers, c.composeService ∈ declaredDependencies w.compose host c'.composeService →
      ¬ w.Running c'
  | _, _ => True

/-- Run one wanted change. -/
def runOp (running : Bool) (id : String) : RunOp β ρ := if running then .start id else .stop id

theorem inOrder_of_quiet {host : FleetHost} {op : RunOp β ρ} {w : DockerHost} (hop : op.Quiet) :
    InOrder host op w := by
  cases op <;> trivial

theorem safe_of_quiet {α : Type} {host : FleetHost} {p : RunProc β ρ α} {w : DockerHost}
    (h : p.Within RunOp.Quiet) :
    Safe runSem (InOrder host) p (fun _ w' => w' = w) w :=
  h.frame (fun _ _ hop => inOrder_of_quiet hop) fun _ _ _ _ hop hsem => quiet_frame hop hsem

/-! ### Quiet procedures -/

theorem within_answer {α : Type} {op : (runSig β ρ).Op} {f : (runSig β ρ).Ans op → Except String α}
    (hop : RunOp.Quiet op) :
    (Proc.call op fun a => .lift (f a)).Within RunOp.Quiet :=
  ⟨hop, fun a => within_lift (f a)⟩

theorem within_inspectOwned (expected cs : List FleetVmContainer) :
    (inspectOwned expected cs : RunProc β ρ _).Within RunOp.Quiet := by
  induction cs with
  | nil => trivial
  | cons c cs ih =>
    refine ⟨trivial, fun a => ?_⟩
    match a with
    | none => trivial
    | some none => exact ih
    | some (some inspect) => exact Within.lift_bind fun _ _ => Within.bind ih fun _ => trivial

theorem within_boundContainers (host : FleetHost) :
    (boundContainers host : RunProc β ρ _).Within RunOp.Quiet := by
  refine Within.bind (Within.lift_bind fun _ _ => within_inspectOwned _ _) fun _ => ?_
  exact Within.bind (within_answer trivial) fun _ => within_lift _

theorem within_verifyComposeDigest (plan : NativeVmRunPlan β ρ) :
    (verifyComposeDigest plan).Within RunOp.Quiet := by
  unfold verifyComposeDigest
  split
  · trivial
  · exact Within.bind (within_answer trivial) fun _ => within_lift _

theorem within_verifyDesiredGraph (plan : NativeVmRunPlan β ρ) (error : String) :
    (verifyDesiredGraph plan error).Within RunOp.Quiet := by
  unfold verifyDesiredGraph
  split
  · trivial
  · exact Within.bind (within_answer trivial) fun _ => within_lift _

theorem within_verifyStartImages (step : FleetHostPlannedStep) (owned : List OwnedVmContainer) :
    (verifyStartImages step owned : RunProc β ρ _).Within RunOp.Quiet := by
  unfold verifyStartImages
  split
  · exact Within.bind (within_answer trivial) fun _ => within_lift _
  · trivial

theorem within_repairManagedNetwork (plan : NativeVmRunPlan β ρ) :
    (repairManagedNetwork plan).Within RunOp.Quiet := by
  unfold repairManagedNetwork
  split
  · trivial
  · exact Within.lift_bind fun _ _ => within_answer trivial

theorem within_reattach (owned : List OwnedVmContainer) (networkId service : String) :
    (reattach owned networkId service : RunProc β ρ _).Within RunOp.Quiet := by
  refine Within.lift_bind fun _ _ => ?_
  refine Within.bind (within_answer trivial) fun _ => ?_
  exact Within.bind (within_answer trivial) fun _ => within_answer trivial

theorem within_reattachAll (owned : List OwnedVmContainer) (networkId : String) (aliases : List String) :
    (reattachAll owned networkId aliases : RunProc β ρ _).Within RunOp.Quiet := by
  induction aliases with
  | nil => trivial
  | cons service rest ih => exact Within.bind (within_reattach owned networkId service) fun _ => ih

theorem within_repairAliases (plan : NativeVmRunPlan β ρ) (owned : List OwnedVmContainer) :
    (repairAliases plan owned).Within RunOp.Quiet := by
  unfold repairAliases
  split
  · trivial
  · refine Within.lift_bind fun _ _ => Within.bind (within_answer trivial) fun _ => ?_
    refine Within.lift_bind fun _ _ => Within.bind (within_answer trivial) fun _ => ?_
    exact Within.lift_bind fun _ _ => within_reattachAll _ _ _

theorem within_preadmitCreate (host : FleetHost) (plan : NativeVmRunPlan β ρ) (owned : List OwnedVmContainer)
    (service : String) : (preadmitCreate host plan owned service).Within RunOp.Quiet := by
  refine Within.bind (within_answer trivial) fun _ => ?_
  refine Within.lift_bind fun _ _ => Within.lift_bind fun _ _ => Within.lift_bind fun _ _ => ?_
  exact within_answer trivial

theorem within_verifyRun (host : FleetHost) (plan : NativeVmRunPlan β ρ) :
    (verifyRun host plan).Within RunOp.Quiet := by
  refine Within.bind (within_boundContainers host) fun after => Within.lift_bind fun _ _ => ?_
  refine Within.bind ?_ fun _ => within_verifyDesiredGraph _ _
  unfold verifyEdgeNetwork
  split
  · trivial
  · exact Within.bind (within_answer trivial) fun _ => Within.lift_bind fun _ _ => within_answer trivial

/-! ### Inspection -/

/-- The containers of the list that exist, as they are. -/
inductive Observed (w : DockerHost) : List FleetVmContainer → List OwnedVmContainer → Prop
  | nil : Observed w [] []
  | absent {c : FleetVmContainer} {cs : List FleetVmContainer} {rs : List OwnedVmContainer} :
      w.container c.containerName = none → Observed w cs rs → Observed w (c :: cs) rs
  | present {c : FleetVmContainer} {r : OwnedVmContainer} {cs : List FleetVmContainer}
    {rs : List OwnedVmContainer} :
      w.container c.containerName = some ⟨r.id, r.running⟩ → r.service = c.composeService →
        Observed w cs rs →
      Observed w (c :: cs) (r :: rs)

variable {host : FleetHost} {w : DockerHost} {cs : List FleetVmContainer} {c : FleetVmContainer}
    {r : OwnedVmContainer}
variable {rs owned : List OwnedVmContainer} {step : FleetHostPlannedStep} {order : List Nat}

theorem Observed.exists_registered (h : Observed w cs rs) (hr : r ∈ rs) :
    ∃ c ∈ cs, r.service = c.composeService ∧ w.container c.containerName = some ⟨r.id, r.running⟩ := by
  induction h with
  | nil => cases hr
  | absent _ _ ih =>
    obtain ⟨c, hc, hfacts⟩ := ih hr
    exact ⟨c, .tail _ hc, hfacts⟩
  | present hcontainer hservice _ ih =>
    rcases List.mem_cons.mp hr with rfl | hr
    · exact ⟨_, .head _, hservice, hcontainer⟩
    · obtain ⟨c, hc, hfacts⟩ := ih hr
      exact ⟨c, .tail _ hc, hfacts⟩

theorem Observed.exists_owned (h : Observed w cs rs) {x : Container} (hc : c ∈ cs)
    (hx : w.container c.containerName = some x) :
    ∃ r ∈ rs, r.service = c.composeService ∧ x = ⟨r.id, r.running⟩ := by
  induction h with
  | nil => cases hc
  | absent hnone _ ih =>
    rcases List.mem_cons.mp hc with rfl | hc
    · rw [hnone] at hx
      cases hx
    · exact ih hc
  | present hcontainer hservice _ ih =>
    rcases List.mem_cons.mp hc with rfl | hc
    · rw [hcontainer] at hx
      exact ⟨_, .head _, hservice, (Option.some.inj hx).symm⟩
    · obtain ⟨r, hr, hfacts⟩ := ih hc
      exact ⟨r, .tail _ hr, hfacts⟩

theorem Observed.length_absent (h : Observed w cs rs) :
    rs.length + (cs.filter fun c => (w.container c.containerName).isNone).length = cs.length := by
  induction h with
  | nil => rfl
  | absent hnone _ ih =>
    rw [List.filter_cons_of_pos (by simp [hnone]), List.length_cons, List.length_cons]
    omega
  | present hcontainer _ _ ih =>
    rw [List.filter_cons_of_neg (by simp [hcontainer]), List.length_cons, List.length_cons]
    omega

/-- Where one container of the list is missing, every other one is there. -/
theorem Observed.present_of_one_absent (h : Observed w cs rs) (hlen : rs.length + 1 = cs.length)
    {c' : FleetVmContainer} (hc : c ∈ cs) (habsent : w.container c.containerName = none) (hc' : c' ∈ cs)
    (hne : c' ≠ c) : ∃ x, w.container c'.containerName = some x := by
  have hone : (cs.filter fun c => (w.container c.containerName).isNone).length = 1 := by
    have := h.length_absent
    omega
  obtain ⟨only, honly⟩ := List.length_eq_one_iff.mp hone
  have hmem : ∀ {d}, d ∈ cs → w.container d.containerName = none → d = only := by
    intro d hd hnone
    have hin : d ∈ cs.filter fun c => (w.container c.containerName).isNone := by simp [hd, hnone]
    simpa [honly] using hin
  by_contra hnone
  rw [← Option.ne_none_iff_exists', not_not] at hnone
  exact hne ((hmem hc' hnone).trans (hmem hc habsent).symm)

variable {expected : List FleetVmContainer}

theorem ownedContainer_eq_ok {resource : FleetVmContainer} {inspect : ContainerInspect}
    (h : ownedContainer expected resource inspect = .ok r) :
    inspect.id = some r.id ∧ (∃ state, inspect.state = some state ∧ state.running = some r.running) ∧
      r.service = resource.composeService := by
  simp only [ownedContainer, requireKnownNativeContainerState, ok_iff, pure_eq_ok] at h
  obtain ⟨-, config, -, labels, -, -, id, hid, -, state, hstate, running, ⟨-, hrunning⟩, deps, -,
    image, -, rfl⟩ := h
  exact ⟨hid, ⟨state, hstate, hrunning⟩, rfl⟩

theorem safe_inspectOwned (host : FleetHost) (w : DockerHost) (expected cs : List FleetVmContainer) :
    Safe runSem (InOrder host) (inspectOwned expected cs : RunProc β ρ _)
      (fun r w' => w' = w ∧ ∀ rs, r = .ok rs → Observed w cs rs) w := by
  induction cs with
  | nil =>
    refine ⟨rfl, fun rs hrs => ?_⟩
    cases hrs
    exact .nil
  | cons c cs ih =>
    refine ⟨trivial, fun a w' hop => ?_⟩
    obtain ⟨rfl, rfl | ⟨rfl, habsent⟩ | ⟨inspect, x, rfl, hx, hshown⟩⟩ := hop
    · exact ⟨rfl, nofun⟩
    · exact ih.post fun r w'' hpost => ⟨hpost.1, fun rs hrs => .absent habsent (hpost.2 rs hrs)⟩
    · refine Safe.check (fun e => ⟨rfl, nofun⟩) fun r hr => ?_
      obtain ⟨hid, ⟨state, hstate, hrunning⟩, hservice⟩ := ownedContainer_eq_ok hr
      have hxr : x = ⟨r.id, r.running⟩ := by
        rw [hshown.1 r.id hid, hshown.2 state hstate r.running hrunning]
      refine ih.bind (fun rs w'' hpost => ?_) fun e w'' hpost => ⟨hpost.1, nofun⟩
      refine ⟨hpost.1, fun rs' hrs' => ?_⟩
      cases hrs'
      exact .present (hxr ▸ hx) hservice (hpost.2 rs rfl)

/-! ### Declared dependencies -/

theorem checkDependencyNames_eq_ok {service error : String} {seen names : List String}
    (h : checkDependencyNames expected service error seen names = .ok ()) :
    ∀ name ∈ names, name ≠ service ∧ name ∈ expected.map (·.composeService) := by
  induction names generalizing seen with
  | nil => simp
  | cons name rest ih =>
    simp only [checkDependencyNames, ok_iff, not_or, not_not] at h
    obtain ⟨⟨hself, hregistered, -⟩, hrest⟩ := h
    exact List.forall_mem_cons.mpr ⟨⟨hself, hregistered⟩, ih hrest⟩

/-- A declared dependency is another registered service. -/
theorem declaredDependencies_registered {compose : Compose} {service d : String}
    (h : d ∈ declaredDependencies compose host service) :
    d ≠ service ∧ d ∈ host.vmContainers.map (·.composeService) := by
  unfold declaredDependencies at h
  split at h
  next declared hdeclared =>
    simp only [resolveComposeDependencies, ok_iff, Except.mapM_eq_ok] at hdeclared
    obtain ⟨services, -, -, hentries⟩ := hdeclared
    cases hlookup : declared.lookup service with
    | none => simp [hlookup] at h
    | some deps =>
      obtain ⟨resource, -, hresource⟩ := exists_of_forall₂_right hentries (mem_of_lookup hlookup)
      simp only [resolveComposeService, ok_iff, pure_eq_ok, Prod.mk.injEq] at hresource
      obtain ⟨-, -, names, -, hnames, rfl, rfl⟩ := hresource
      exact checkDependencyNames_eq_ok hnames d (by simpa [hlookup] using h)
  next => cases h

/-- The inspected containers, bound to the dependencies the Compose file declares. -/
structure Bound (host : FleetHost) (w : DockerHost) (owned : List OwnedVmContainer) : Prop where
  observed : Observed w host.vmContainers owned
  declared : ∀ r ∈ owned, r.dependencies = declaredDependencies w.compose host r.service

theorem Observed.rebind {rs' : List OwnedVmContainer} {declared : List (String × List String)}
    (h : Observed w cs rs) (hbind : List.Forall₂ (fun r r' => bindDependencies declared r = .ok r') rs rs') :
    Observed w cs rs' := by
  induction h generalizing rs' with
  | nil =>
    cases hbind
    exact .nil
  | absent hnone _ ih => exact .absent hnone (ih hbind)
  | present hcontainer hservice _ ih =>
    cases hbind with
    | cons hr hrest =>
      simp only [bindDependencies, ok_iff, pure_eq_ok] at hr
      obtain ⟨-, -, -, -, rfl⟩ := hr
      exact .present hcontainer hservice (ih hrest)

theorem bound_of_bind (h : Observed w host.vmContainers rs)
    (hbind : bindOwnedVmComposeDependencies w.compose host.vmContainers rs = .ok owned) :
    Bound host w owned := by
  simp only [bindOwnedVmComposeDependencies, ok_iff, Except.mapM_eq_ok] at hbind
  obtain ⟨declared, hdeclared, hrows⟩ := hbind
  refine ⟨h.rebind hrows, fun r hr => ?_⟩
  obtain ⟨old, -, hold⟩ := exists_of_forall₂_right hrows hr
  simp only [bindDependencies, ok_iff, pure_eq_ok] at hold
  obtain ⟨deps, hlookup, -, -, rfl⟩ := hold
  simp [declaredDependencies, hdeclared, hlookup]

theorem safe_boundContainers (host : FleetHost) (w : DockerHost) :
    Safe runSem (InOrder host) (boundContainers host : RunProc β ρ _)
      (fun r w' => w' = w ∧ ∀ owned, r = .ok owned → Bound host w owned) w := by
  have hinspect : Safe runSem (InOrder host) (ownedApplicationContainerIds host.vmContainers : RunProc β ρ _)
      (fun r w' => w' = w ∧ ∀ rs, r = .ok rs → Observed w host.vmContainers rs) w :=
    Safe.check (fun e => ⟨rfl, nofun⟩) fun _ _ => safe_inspectOwned host w _ _
  refine hinspect.bind ?_ fun e w' hpost => ⟨hpost.1, nofun⟩
  rintro rs w' ⟨rfl, hobserved⟩
  refine ⟨trivial, fun (answer : Except String Compose) w'' hop => ?_⟩
  obtain ⟨rfl, hcompose⟩ := hop
  refine Safe.check (fun e => ⟨rfl, nofun⟩) fun compose hread => ?_
  obtain rfl : compose = w''.compose := hcompose compose hread
  refine Safe.lift (fun e _ => ⟨rfl, nofun⟩) fun owned hbind => ⟨rfl, fun owned' howned => ?_⟩
  cases howned
  exact bound_of_bind (hobserved rs rfl) hbind

/-! ### The loop -/

/-- A container once those with the given ids are in the wanted run state. -/
def Container.settled (target : Bool) (ids : List String) (x : Container) : Container :=
  if x.id ∈ ids then { x with running := target } else x

@[simp] theorem Container.settled_id (target : Bool) (ids : List String) (x : Container) :
    (x.settled target ids).id = x.id := by
  unfold Container.settled
  split <;> rfl

/-- The world is that of the inspection, with the containers visited so far in the wanted run state. -/
structure Progress (target : Bool) (w₀ : DockerHost) (visited : List OwnedVmContainer)
    (w : DockerHost) : Prop where
  compose : w.compose = w₀.compose
  container : ∀ n, w.container n = (w₀.container n).map (·.settled target (visited.map (·.id)))

section Loop

variable {target : Bool} {w₀ : DockerHost} {visited : List OwnedVmContainer}

theorem Progress.init (target : Bool) (w : DockerHost) : Progress target w [] w := by
  refine ⟨rfl, fun n => ?_⟩
  have hid : Container.settled target (([] : List OwnedVmContainer).map (·.id)) = id := by
    funext x
    simp [Container.settled]
  rw [hid, Option.map_id, id]

/-- A container that was in the wanted state when it was inspected is passed over. -/
theorem Progress.skip (hbound : Bound host w₀ owned) (h : Progress target w₀ visited w) (hr : r ∈ owned)
    (hrunning : r.running = target) : Progress target w₀ (visited ++ [r]) w := by
  refine ⟨h.compose, fun n => ?_⟩
  rw [h.container n]
  refine Option.map_congr fun x hx => ?_
  obtain ⟨c, -, -, hcontainer⟩ := hbound.observed.exists_registered hr
  by_cases hid : x.id = r.id
  · -- the only container with this id is the one inspected as `r`
    obtain rfl := w₀.ids_unique _ _ _ _ hx hcontainer hid
    obtain rfl : x = ⟨r.id, r.running⟩ := by simpa [hx] using hcontainer
    simp [Container.settled, hrunning]
  · simp [Container.settled, hid]

theorem Progress.change (h : Progress target w₀ visited w) (r : OwnedVmContainer) :
    Progress target w₀ (visited ++ [r]) (w.setRunning r.id target) := by
  refine ⟨h.compose, fun n => ?_⟩
  show (w.container n).map _ = _
  rw [h.container n, Option.map_map]
  refine Option.map_congr fun x _ => ?_
  rw [Function.comp_apply, Container.settled_id]
  by_cases hid : x.id = r.id
  · rw [if_pos hid]
    simp [Container.settled, hid]
  · rw [if_neg hid]
    simp [Container.settled, hid]

/-- A container that has been visited is in the wanted state. -/
theorem Progress.running_iff (hbound : Bound host w₀ owned) (h : Progress target w₀ visited w)
    (hc : c ∈ host.vmContainers) :
    w.Running c ↔ ∃ r ∈ owned, r.service = c.composeService ∧
      w₀.container c.containerName = some ⟨r.id, r.running⟩ ∧
      (if r.id ∈ visited.map (·.id) then target else r.running) = true := by
  unfold DockerHost.Running
  simp only [h.container, Option.map_eq_some_iff]
  constructor
  · rintro ⟨_, ⟨x, hx, rfl⟩, hrunning⟩
    obtain ⟨r, hr, hservice, rfl⟩ := hbound.observed.exists_owned hc hx
    refine ⟨r, hr, hservice, hx, ?_⟩
    unfold Container.settled at hrunning
    split at hrunning <;> simp_all
  · rintro ⟨r, -, -, hx, hrunning⟩
    refine ⟨_, ⟨_, hx, rfl⟩, ?_⟩
    unfold Container.settled
    split <;> simp_all

theorem Progress.hasId (h : Progress target w₀ visited w)
    (hcontainer : w₀.container c.containerName = some ⟨r.id, r.running⟩) : w.HasId c r.id :=
  ⟨_, by rw [h.container, hcontainer]; rfl, Container.settled_id ..⟩

/-- A start that comes after the dependencies of the container. -/
theorem inOrder_start (hbound : Bound host w₀ owned) (h : Progress true w₀ visited w) (hr : r ∈ owned)
    (hvisited : ∀ r' ∈ visited, r' ∈ owned) (hdeps : ∀ d ∈ r.dependencies, d ∈ visited.map (·.service)) :
    InOrder host (.start r.id : RunOp β ρ) w := by
  obtain ⟨c, hc, hservice, hcontainer⟩ := hbound.observed.exists_registered hr
  refine ⟨c, hc, h.hasId hcontainer, fun d hd => ?_⟩
  rw [h.compose, ← hservice, ← hbound.declared r hr] at hd
  obtain ⟨r', hr', rfl⟩ := List.mem_map.mp (hdeps d hd)
  obtain ⟨c', hc', hservice', hcontainer'⟩ := hbound.observed.exists_registered (hvisited r' hr')
  refine ⟨c', hc', hservice'.symm, (h.running_iff hbound hc').mpr
    ⟨r', hvisited r' hr', hservice', hcontainer', ?_⟩⟩
  rw [if_pos (List.mem_map_of_mem hr')]

/-- A stop that comes after everything that depends on the container. -/
theorem inOrder_stop (hbound : Bound host w₀ owned) (h : Progress false w₀ visited w) (hr : r ∈ owned)
    (hdependents : ∀ r' ∈ owned, r.service ∈ r'.dependencies → r' ∈ visited) :
    InOrder host (.stop r.id : RunOp β ρ) w := by
  obtain ⟨c, hc, hservice, hcontainer⟩ := hbound.observed.exists_registered hr
  refine ⟨c, hc, h.hasId hcontainer, fun c' hc' hdep hrun => ?_⟩
  obtain ⟨r', hr', hservice', -, hrunning⟩ := (h.running_iff hbound hc').mp hrun
  rw [h.compose, ← hservice, ← hservice', ← hbound.declared r' hr'] at hdep
  rw [if_pos (List.mem_map_of_mem (hdependents r' hr' hdep))] at hrunning
  cases hrunning

theorem safe_startContainer {id : String} (error : String) (hturn : InOrder host (.start id : RunOp β ρ) w) :
    Safe runSem (InOrder host) (startContainer id error : RunProc β ρ _)
      (fun result w' => result = .ok () → w' = w.setRunning id true) w := by
  refine ⟨hturn, fun (acked : Bool) w' hop => Safe.lift (fun e _ => nofun) fun _ hacked _ => ?_⟩
  rcases hop with hset | ⟨hlost, -⟩
  · exact hset
  · exact absurd hlost (rejectIf_eq_ok.mp hacked)

theorem safe_stopContainer {id : String} (error : String) (hturn : InOrder host (.stop id : RunOp β ρ) w) :
    Safe runSem (InOrder host) (stopContainer id error : RunProc β ρ _)
      (fun result w' => result = .ok () → w' = w.setRunning id false) w := by
  refine ⟨hturn, fun (acked : Bool) w' hop => Safe.lift (fun e _ => nofun) fun _ hacked _ => ?_⟩
  rcases hop with hset | ⟨hlost, -⟩
  · exact hset
  · exact absurd hlost (rejectIf_eq_ok.mp hacked)

/-- **One container.** Where its turn is in order, the loop moves on. -/
theorem safe_runContainer (hstep : desiredRunning step = .ok target) (hbound : Bound host w₀ owned)
    (h : Progress target w₀ visited w) (hr : r ∈ owned)
    (hturn : InOrder host (runOp target r.id : RunOp β ρ) w) :
    Safe runSem (InOrder host) (runContainer step r : RunProc β ρ _)
      (fun result w' => result = .ok () → Progress target w₀ (visited ++ [r]) w') w := by
  unfold desiredRunning at hstep
  split at hstep <;> cases hstep
  · simp only [runContainer]
    by_cases hrunning : r.running = true
    · rw [if_pos hrunning]
      exact fun _ => h.skip hbound hr hrunning
    · rw [if_neg hrunning]
      refine (safe_startContainer _ hturn).post fun result w' hpost hok => ?_
      rw [hpost hok]
      exact h.change r
  · simp only [runContainer]
    by_cases hrunning : r.running = true
    · rw [if_pos hrunning]
      refine (safe_stopContainer _ hturn).post fun result w' hpost hok => ?_
      rw [hpost hok]
      exact h.change r
    · rw [if_neg hrunning]
      exact fun _ => h.skip hbound hr (by simpa using hrunning)

/-- **The loop.** An order in which every turn is in order after the turns before it. -/
theorem safe_runInOrder (hstep : desiredRunning step = .ok target)
    (hbound : Bound host w₀ owned) {seq : List OwnedVmContainer}
    (hentries : List.Forall₂ (fun i r => owned[i]? = some r) order seq)
    (hturn : ∀ l r rest, visited ++ seq = l ++ r :: rest → r ∈ owned → (∀ r' ∈ l, r' ∈ owned) →
      ∀ w, Progress target w₀ l w → InOrder host (runOp target r.id : RunOp β ρ) w)
    (hvisited : ∀ r ∈ visited, r ∈ owned) (h : Progress target w₀ visited w) :
    Safe runSem (InOrder host) (runInOrder step owned order : RunProc β ρ _) (fun _ _ => True) w := by
  induction hentries generalizing visited w with
  | nil => trivial
  | cons hentry _ ih =>
    refine Safe.lift_ok (okOr_eq_ok.mpr hentry) ?_
    have hr := List.mem_of_getElem? hentry
    refine (safe_runContainer hstep hbound h hr (hturn visited _ _ rfl hr hvisited w h)).bind ?_ fun _ _ _ =>
      trivial
    intro _ w' hprogress
    refine ih (fun l r rest hsplit => hturn l r rest (by simpa using hsplit)) ?_ (hprogress rfl)
    intro r' hr'
    rcases List.mem_append.mp hr' with hr' | hr'
    · exact hvisited r' hr'
    · obtain rfl := List.mem_singleton.mp hr'
      exact hr

/-- A start where everything inspected already runs touches nothing. -/
theorem safe_runInOrder_of_running (hrunning : ∀ r ∈ owned, r.running = true) (order : List Nat) :
    Safe runSem (InOrder host) (runInOrder .start owned order : RunProc β ρ _) (fun _ _ => True) w := by
  induction order with
  | nil => trivial
  | cons index rest ih =>
    refine Safe.check (fun _ => trivial) fun r hr => ?_
    have hr : r ∈ owned := List.mem_of_getElem? (okOr_eq_ok.mp hr)
    simp only [runContainer, if_pos (hrunning r hr)]
    exact ih

end Loop

/-! ### The creation -/

/-- The missing gateway is started when every other registered container runs. -/
theorem safe_createAndStart (plan : NativeVmRunPlan β ρ) (service : String) (hbound : Bound host w owned)
    (hlen : owned.length + 1 = host.vmContainers.length) (hrunning : ∀ r ∈ owned, r.running = true) :
    Safe runSem (InOrder host) (createAndStart host plan service) (fun _ _ => True) w := by
  refine Safe.check (fun _ => trivial) fun body _ => ?_
  refine Safe.check (fun _ => trivial) fun selector hselector => ?_
  rw [okOr_eq_ok] at hselector
  have hmem := List.mem_of_find?_eq_some hselector
  refine ⟨trivial, fun (created : Option String) w' hop => ?_⟩
  refine Safe.check (fun _ => trivial) fun id hid => ?_
  have hid : created = some id := okOr_eq_ok.mp hid
  obtain ⟨hlost, -⟩ | ⟨id', hcreated, hlost | hid'⟩ := hop
  · cases hlost.symm.trans hid
  · cases hlost.symm.trans hid
  obtain rfl : id' = id := Option.some.inj (hid'.symm.trans hid)
  refine Safe.check (fun _ => trivial) fun _ _ => ?_
  refine (safe_startContainer _ ⟨selector, hmem, ⟨_, hcreated.created, rfl⟩, fun d hd => ?_⟩).post fun _
    _ _ => trivial
  obtain ⟨hother, hregistered⟩ := declaredDependencies_registered hd
  obtain ⟨c, hc, rfl⟩ := List.mem_map.mp hregistered
  have hne : c ≠ selector := fun h => hother (by rw [h])
  obtain ⟨x, hx⟩ := hbound.observed.present_of_one_absent hlen hmem hcreated.absent hc hne
  obtain ⟨r, hr, -, rfl⟩ := hbound.observed.exists_owned hc hx
  have hname : c.containerName ≠ selector.containerName := by
    intro hname
    rw [hname, hcreated.absent] at hx
    cases hx
  exact ⟨c, hc, rfl, _, (hcreated.others _ hname).trans hx, hrunning r hr⟩

theorem safe_createMissingGateway (plan : NativeVmRunPlan β ρ) (hbound : Bound host w owned) :
    Safe runSem (InOrder host) (createMissingGateway host plan owned)
      (fun _ w' => w' = w ∨ (plan.step = .start ∧ ∀ r ∈ owned, r.running = true)) w := by
  unfold createMissingGateway
  split
  · exact Or.inl rfl
  next service _ =>
    refine Safe.lift_bind (fun _ _ => Or.inl rfl) fun _ hadmitted => ?_
    simp only [rejectIf_eq_ok, not_or, not_not, not_exists, not_and, Bool.not_eq_false] at hadmitted
    obtain ⟨hstart, hlen, hrunning⟩ := hadmitted
    refine (safe_of_quiet (within_preadmitCreate host plan owned service)).bind ?_ fun _ w' hw' => Or.inl hw'
    rintro _ w' rfl
    exact (safe_createAndStart plan service hbound hlen hrunning).post fun _ _ _ => Or.inr ⟨hstart, hrunning⟩

/-! ### The run -/

theorem safe_runInOrder_of_order (hbound : Bound host w owned) (horder : runOrderOf step owned = .ok order) :
    Safe runSem (InOrder host) (runInOrder step owned order : RunProc β ρ _) (fun _ _ => True) w := by
  cases hstep : desiredRunning step with
  | error e =>
    -- the first container of the loop refuses any other step
    cases order with
    | nil => trivial
    | cons index rest =>
      refine Safe.check (fun _ => trivial) fun r _ => ?_
      cases step <;> trivial
  | ok target =>
    cases target with
    | true =>
      have hstart : step = .start := by cases step <;> first | rfl | cases hstep
      rw [runOrderOf, if_neg (by rw [hstart]; decide)] at horder
      obtain ⟨seq, hvisits, hord⟩ := ownedVmStartOrder_eq_ok horder
      refine safe_runInOrder hstep hbound hvisits.entries ?_ (by simp) (Progress.init _ _)
      intro l r rest hsplit hr hl w' hprogress
      exact inOrder_start hbound hprogress hr hl (hord l r rest (by simpa using hsplit))
    | false =>
      have hstop : step = .stop := by cases step <;> first | rfl | cases hstep
      rw [runOrderOf, if_pos hstop] at horder
      obtain ⟨seq, hvisits, hdependents⟩ := ownedVmStopOrder_eq_ok horder
      refine safe_runInOrder hstep hbound hvisits.entries ?_ (by simp) (Progress.init _ _)
      intro l r rest hsplit hr hl w' hprogress
      exact inOrder_stop hbound hprogress hr (hdependents l r rest (by simpa using hsplit))

/-- **Every start and stop of a run is in order.** -/
theorem safe_applyNativeVmRunOnce (host : FleetHost) (plan : NativeVmRunPlan β ρ) (w : DockerHost) :
    Safe runSem (InOrder host) (applyNativeVmRunOnce host plan) (fun _ _ => True) w := by
  have hconnection : (dockerEffectConnection : RunProc β ρ _).Within RunOp.Quiet := within_answer trivial
  refine (safe_of_quiet hconnection).bind ?_ fun _ _ _ => trivial
  rintro _ w' rfl
  refine (safe_boundContainers host w').bind ?_ fun _ _ _ => trivial
  rintro owned _ ⟨rfl, hbound⟩
  have hbound := hbound owned rfl
  refine Safe.check (fun _ => trivial) fun _ _ => ?_
  refine (safe_of_quiet (within_verifyComposeDigest plan)).bind ?_ fun _ _ _ => trivial
  rintro _ _ rfl
  refine (safe_of_quiet (within_verifyDesiredGraph plan _)).bind ?_ fun _ _ _ => trivial
  rintro _ _ rfl
  refine (safe_of_quiet (within_verifyStartImages plan.step owned)).bind ?_ fun _ _ _ => trivial
  rintro _ _ rfl
  refine Safe.check (fun _ => trivial) fun order horder => ?_
  refine (safe_of_quiet (within_repairManagedNetwork plan)).bind ?_ fun _ _ _ => trivial
  rintro _ _ rfl
  refine (safe_of_quiet (within_repairAliases plan owned)).bind ?_ fun _ _ _ => trivial
  rintro _ w rfl
  refine (safe_createMissingGateway plan hbound).bind ?_ fun _ _ _ => trivial
  rintro _ w' hcreated
  have hloop : Safe runSem (InOrder host) (runInOrder plan.step owned order : RunProc β ρ _)
      (fun _ _ => True) w' := by
    rcases hcreated with rfl | ⟨hstart, hrunning⟩
    · exact safe_runInOrder_of_order hbound horder
    · rw [hstart]
      exact safe_runInOrder_of_running hrunning order
  refine hloop.bind ?_ fun _ _ _ => trivial
  intro _ w'' _
  exact (safe_of_quiet (within_verifyRun host plan)).post fun _ _ _ => trivial

/-- **Dependency order.** The start order exists exactly when the dependencies are closed and acyclic, the
    stop order exactly when they are acyclic among the services that are present; both are permutations of
    the containers. Wherever a run issues a start, the declared dependencies of the container run; wherever
    it issues a stop, nothing that depends on the container does. -/
theorem run_in_dependency_order :
    (∀ owned : List OwnedVmContainer, (owned.map (·.service)).Nodup →
        ((∃ order, ownedVmStartOrder owned = .ok order) ↔
          ClosedDeps (·.service) (·.dependencies) owned ∧
          Acyclic (Foundation.DependsOn (·.service) (·.dependencies) owned)) ∧
        ((∃ order, ownedVmStopOrder owned = .ok order) ↔
          Acyclic fun x y => Foundation.DependsOn (·.service) (·.dependencies) owned x y ∧
          y ∈ owned.map (·.service)) ∧
        ∀ order, ownedVmStartOrder owned = .ok order ∨ ownedVmStopOrder owned = .ok order →
          order.Perm (List.range owned.length)) ∧
      ∀ (host : FleetHost) (plan : NativeVmRunPlan β ρ) (w w' : DockerHost) (op : RunOp β ρ)
        (k : (runSig β ρ).Ans op → RunProc β ρ Unit),
        Steps runSem (applyNativeVmRunOnce host plan) w (.call op k) w' → InOrder host op w' := by
  refine ⟨fun owned hnodup => ⟨exists_ownedVmStartOrder_iff hnodup, ?_, ?_⟩, ?_⟩
  · rw [exists_ownedVmStopOrder_iff hnodup]
    have hrestricted : Foundation.DependsOn (·.service) (presentDependencies owned) owned =
        fun x y => Foundation.DependsOn (·.service) (·.dependencies) owned x y ∧
        y ∈ owned.map (·.service) := by
      funext x y
      simp only [Foundation.DependsOn, presentDependencies, List.mem_filter, decide_eq_true_eq, eq_iff_iff]
      constructor
      · rintro ⟨r, hr, hx, hy, hpresent⟩
        exact ⟨⟨r, hr, hx, hy⟩, hpresent⟩
      · rintro ⟨⟨r, hr, hx, hy⟩, hpresent⟩
        exact ⟨r, hr, hx, hy, hpresent⟩
    rw [hrestricted]
  · rintro order (hstart | hstop)
    · obtain ⟨seq, hvisits, -⟩ := ownedVmStartOrder_eq_ok hstart
      exact hvisits.indices
    · obtain ⟨seq, hvisits, -⟩ := ownedVmStopOrder_eq_ok hstop
      exact hvisits.indices
  · intro host plan w w' op k hsteps
    exact (safe_applyNativeVmRunOnce host plan w).issued hsteps

end

namespace RunSample

open HierarchySample (gateway egress image)

/-- The gateway and the egress under their names. -/
def containers (running : Bool) : String → Option Container
  | "a-gateway" => some ⟨gatewayId, running⟩
  | "b-warp" => some ⟨egressId, running⟩
  | _ => none

/-- Both containers are stopped, and the gateway depends on the egress. -/
def stopped : DockerHost where
  container := containers false
  compose := ⟨some "edge", some [("line1-gateway", .entries [some "warp-egress"]), ("warp-egress", .absent)]⟩
  ids_unique := by
    intro n m x y hx hy hid
    unfold containers at hx hy
    split at hx <;> split at hy <;> cases hx <;> cases hy <;> first | rfl | exact absurd hid (by decide)

/-- A start of both containers. -/
def startPlan : NativeVmRunPlan Unit Unit :=
  plan [{ ownedGateway with running := false }, { ownedEgress with running := false }]

/-- What Docker shows of a registered container. -/
def shown (name : String) (c : Container) : ContainerInspect where
  name := some ("/" ++ name)
  id := some c.id
  config := (host.vmContainers.find? (·.containerName = name)).map fun r =>
    ⟨some [("com.docker.compose.project", r.composeProject),
      ("com.docker.compose.service", r.composeService)], some image⟩
  state := some ⟨some c.running, some false, some false, some false⟩

/-- Docker and the stack answer every read and perform every start and stop. -/
def answer : (op : RunOp Unit Unit) → DockerHost → (runSig Unit Unit).Ans op × DockerHost
  | .inspect name, w => (some ((w.container name).map (shown name)), w)
  | .compose, w => (.ok w.compose, w)
  | .start id, w => (true, w.setRunning id true)
  | .stop id, w => (true, w.setRunning id false)
  | .create _ _, w => (none, w)
  | .connection, w | .attachments _ _, w | .repairNetwork _, w => (.ok (), w)
  | .composeDigest, w => (.ok [], w)
  | .desiredGraph, w => (.ok (HierarchySample.graph gateway (egress "edge")), w)
  | .expectedImages, w => (.ok [("line1-gateway", image), ("warp-egress", image)], w)
  | .edgeNetworkId, w => (.ok "", w)
  | .missingAliases _ _, w => (.ok [], w)
  | .disconnect _ _, w | .connect _ _ _, w | .attached _ _ _, w => (true, w)

theorem runSem_answer (op : RunOp Unit Unit) (w : DockerHost) :
    runSem op w (answer op w).1 (answer op w).2 := by
  cases op with
  | inspect name =>
    refine ⟨rfl, Or.inr ?_⟩
    cases hc : w.container name with
    | none => exact Or.inl ⟨by simp [answer, hc], rfl⟩
    | some c =>
      refine Or.inr ⟨shown name c, c, by simp [answer, hc], rfl, ?_⟩
      simp [Container.Shown, shown]
  | compose => exact ⟨rfl, fun compose h => (Except.ok.inj h).symm⟩
  | create => exact Or.inl ⟨rfl, rfl⟩
  | start | stop => exact Or.inl rfl
  | _ => rfl

/-- The id of the start that a procedure issues next. -/
def issuedStart : RunProc Unit Unit Unit → Option String
  | .call (.start id) _ => some id
  | _ => none

theorem issuedStart_eq_some {p : RunProc Unit Unit Unit} {id : String} (h : issuedStart p = some id) :
    ∃ k, p = .call (.start id) k := by
  unfold issuedStart at h
  split at h
  · cases h
    exact ⟨_, rfl⟩
  · cases h

end RunSample

open RunSample in
/-- The gateway and the egress can be ordered, and a run that finds both stopped comes to the start of the
    gateway, where the egress runs. -/
theorem gateway_started_after_egress :
    (ClosedDeps (·.service) (·.dependencies) [ownedGateway, ownedEgress] ∧
        Acyclic (Foundation.DependsOn (·.service) (·.dependencies) [ownedGateway, ownedEgress])) ∧
      ∃ w' k, Steps runSem (applyNativeVmRunOnce host startPlan) stopped (.call (.start gatewayId) k) w' ∧
        InOrder (β := Unit) (ρ := Unit) host (.start gatewayId) w' := by
  obtain ⟨horders, hissued⟩ := run_in_dependency_order (β := Unit) (ρ := Unit)
  obtain ⟨hstart, -, -⟩ := horders [ownedGateway, ownedEgress] (by decide)
  refine ⟨hstart.mp ⟨[1, 0], by decide +kernel⟩, ?_⟩
  have hsteps := runFor_steps runSem_answer 7 (applyNativeVmRunOnce host startPlan) stopped
  have hnext : issuedStart (runFor answer 7 (applyNativeVmRunOnce host startPlan) stopped).1 =
      some gatewayId := by
    decide +kernel
  obtain ⟨k, hk⟩ := issuedStart_eq_some hnext
  rw [hk] at hsteps
  exact ⟨_, k, hsteps, hissued _ _ _ _ _ _ hsteps⟩

end EdgePlatform.Agent
