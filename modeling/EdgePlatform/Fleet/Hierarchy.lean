import EdgePlatform.Fleet.Graph
import EdgePlatform.Foundation.Assoc

/-!
# `EdgePlatform.Fleet.Hierarchy` — the resource hierarchy projected from a desired graph

`derive_vm_resource_hierarchy` turns an accepted graph into one list of nodes: the host, the credential
reference of the Worker, the networks, and per container its node and its configuration.
`validate_vm_resource_hierarchy` checks a list against the projection of the policy. A derived hierarchy is
well formed (`WellFormed`): identities are unique, parents come first, dependencies resolve, and parents and
dependencies together have no cycle.

A network belongs to the project of the first container, while a container asks for its network in its own
project: the projection of an accepted graph is refused when the registered containers are spread over
several projects.
-/

namespace EdgePlatform.Fleet

open Foundation Foundation.Wire
open Host (FleetHost FleetHostKind FleetVmContainer allZero HostRegistry)

/-! ## Messages -/

inductive FleetResourceKind
  | unspecified | host | dockerNetwork | dockerContainer | singboxConfig | dns | firewall | route
  | credentialRef
deriving DecidableEq

inductive FleetResourceOwner
  | unspecified | vmRootAgent | windowsSystemController | workerSecrets
deriving DecidableEq

instance : ProtoEnum FleetResourceKind where
  all := [.unspecified, .host, .dockerNetwork, .dockerContainer, .singboxConfig, .dns, .firewall, .route,
    .credentialRef]
  code := FleetResourceKind.ctorIdx

instance : ProtoEnum FleetResourceOwner where
  all := [.unspecified, .vmRootAgent, .windowsSystemController, .workerSecrets]
  code := FleetResourceOwner.ctorIdx

structure FleetResourceNode where
  resourceId : String
  kind : Int32
  parentResourceId : String
  dependencyIds : List String
  owner : Int32
  expectedPolicySha256 : Bytes
deriving DecidableEq

structure FleetResourceHierarchy where
  schemaVersion : UInt32
  machineId : String
  nodes : List FleetResourceNode
  ownerAttested : Bool
  mutationAuthorized : Bool
deriving DecidableEq

def FleetResourceNode.encodeToVec (n : FleetResourceNode) : Bytes :=
  encodeFields (put 1 (stringValue n.resourceId) ++ put 2 (i32Value n.kind) ++
    put 3 (stringValue n.parentResourceId) ++ putStrings 4 n.dependencyIds ++ put 5 (i32Value n.owner) ++
    put 6 (bytesValue n.expectedPolicySha256))

def FleetResourceHierarchy.encodeToVec (h : FleetResourceHierarchy) : Bytes :=
  encodeFields (put 1 (u32Value h.schemaVersion) ++ put 2 (stringValue h.machineId) ++
    putMessages 3 FleetResourceNode.encodeToVec h.nodes ++ put 4 (boolValue h.ownerAttested) ++
    put 5 (boolValue h.mutationAuthorized))

/-! ## Identities -/

def containerResourceId (selector : FleetVmContainer) : String :=
  "container/" ++ selector.composeProject ++ "/" ++ selector.composeService

/-- The id of a registered container. -/
def vmContainerResourceId (host : FleetHost) (selector : FleetVmContainer) : Except String String := do
  rejectIf (host.kind ≠ toI32 FleetHostKind.vm ∨ selector ∉ host.vmContainers ∨
    selector.composeProject = "" ∨ selector.composeService = "") "VM_RESOURCE_ID_NOT_REGISTERED"
  pure (containerResourceId selector)

/-- The id of a network. -/
def vmNetworkResourceId (project name : String) : String := "network/" ++ project ++ "/" ++ name

/-- The id of a configuration. -/
def vmConfigResourceId (project service : String) : String := "config/" ++ project ++ "/" ++ service

/-- The id of a host. -/
def vmHostResourceId (host : FleetHost) : String := "host/" ++ host.machineId

/-- The id of the credential. -/
def vmWorkerCredentialResourceId (host : FleetHost) : String :=
  "credential/" ++ host.machineId ++ "/application-v2"

/-! ## The projection -/

def hostNode (host : FleetHost) : FleetResourceNode :=
  ⟨vmHostResourceId host, toI32 FleetResourceKind.host, "", [], toI32 FleetResourceOwner.vmRootAgent, []⟩

def credentialNode (host : FleetHost) : FleetResourceNode :=
  ⟨vmWorkerCredentialResourceId host, toI32 FleetResourceKind.credentialRef, vmHostResourceId host, [],
    toI32 FleetResourceOwner.workerSecrets, []⟩

def networkNode (host : FleetHost) (network : FleetVmDesiredNetwork) : FleetResourceNode :=
  ⟨vmNetworkResourceId network.composeProject network.networkName, toI32 FleetResourceKind.dockerNetwork,
    vmHostResourceId host, [], toI32 FleetResourceOwner.vmRootAgent, sha256 network.encodeToVec⟩

def containerNode (host : FleetHost) (id : String) (dependencies : List String)
    (resource : FleetVmDesiredResource) :
    FleetResourceNode :=
  ⟨id, toI32 FleetResourceKind.dockerContainer, vmHostResourceId host, dependencies,
    toI32 FleetResourceOwner.vmRootAgent, sha256 resource.encodeToVec⟩

def configNode (selector : FleetVmContainer) (id : String)
    (resource : FleetVmDesiredResource) : FleetResourceNode :=
  ⟨vmConfigResourceId selector.composeProject selector.composeService,
    toI32 FleetResourceKind.singboxConfig, id, [id], toI32 FleetResourceOwner.vmRootAgent,
    resource.configTemplateSha256⟩

/-- The network a service is attached to; a later attachment replaces an earlier one. -/
def networkOf (desired : FleetVmDesiredGraph) (service : String) : Option String :=
  (desired.networks.flatMap fun n => n.attachedServices.map fun s => (s, n.networkName)).reverse.lookup
  service

/-- `Vec::dedup`: of a run of equal elements one stays. -/
def dedupRuns : List String → List String
  | a :: b :: rest => if a = b then dedupRuns (b :: rest) else a :: dedupRuns (b :: rest)
  | l => l

/-- `sort` and `dedup`. -/
def sortedUnique (ids : List String) : List String :=
  dedupRuns (ids.insertionSort fun a b => Host.strLt b a = false)

def dependencyResourceId (host : FleetHost) (dependency : String) : Except String String := do
  let s ← okOr (host.vmContainers.find? (·.composeService = dependency))
    "VM_HIERARCHY_FOREIGN_CONTAINER_DEPENDENCY"
  vmContainerResourceId host s

/-- The dependencies of a container node: its network, for the gateway the credential, and those of the
row. -/
def containerDependencies (host : FleetHost) (selector : FleetVmContainer) (network : String)
    (ids : List String) :
    List String :=
  sortedUnique ([vmNetworkResourceId selector.composeProject network] ++
    (if isGateway selector.composeService then [vmWorkerCredentialResourceId host] else []) ++ ids)

/-- The nodes of one row: its container, and its configuration if it has one. -/
def rowNodes (host : FleetHost) (selector : FleetVmContainer) (id : String) (dependencies : List String)
    (resource : FleetVmDesiredResource) : List FleetResourceNode :=
  containerNode host id dependencies resource ::
    if resource.configTemplateSha256 ≠ [] then [configNode selector id resource] else []

/-- The nodes of one row, looked up and refused where something it names is not registered. -/
def resourceNodes (host : FleetHost) (desired : FleetVmDesiredGraph) (resource : FleetVmDesiredResource) :
    Except String (List FleetResourceNode) := do
  let selector ← okOr resource.resource "VM_HIERARCHY_SELECTOR_MISSING"
  let id ← vmContainerResourceId host selector
  let network ← okOr (networkOf desired selector.composeService) "VM_HIERARCHY_NETWORK_DEPENDENCY_MISSING"
  let dependencies ← resource.dependencies.mapM (dependencyResourceId host)
  pure (rowNodes host selector id (containerDependencies host selector network dependencies) resource)

/-- The nodes of a graph. -/
def projectVmHierarchyNodesUnchecked (host : FleetHost) (desired : FleetVmDesiredGraph) :
    Except String (List FleetResourceNode) := do
  let rows ← desired.resources.mapM (resourceNodes host desired)
  pure (hostNode host :: credentialNode host :: desired.networks.map (networkNode host) ++ rows.flatten)

/-! ## The validator -/

def expectedOwner (kind : Int32) : FleetResourceOwner :=
  if kind = toI32 FleetResourceKind.credentialRef then .workerSecrets else .vmRootAgent

/-- The pass over the nodes; `seen` are the identities before this one (the source keeps them in two
sets). -/
def validateNodes (host : FleetHost) (allIds : List String) :
    (seen : List String) → List FleetResourceNode → Except String Unit
  | _, [] => .ok ()
  | seen, node :: rest => do
      rejectIf (node.resourceId ∈ seen ∨ node.owner ≠ toI32 (expectedOwner node.kind) ∨
        tryFrom FleetResourceKind node.kind = none ∨ node.kind = toI32 FleetResourceKind.unspecified)
        "VM_HIERARCHY_NODE_IDENTITY_INVALID"
      (if node.parentResourceId = "" then
        rejectIf (node.resourceId ≠ vmHostResourceId host ∨ node.kind ≠ toI32 FleetResourceKind.host ∨
          node.dependencyIds ≠ []) "VM_HIERARCHY_ROOT_INVALID"
      else rejectIf (node.parentResourceId ∉ seen) "VM_HIERARCHY_PARENT_NOT_FOUND_OR_UNORDERED")
      rejectIf (∃ dep ∈ node.dependencyIds, dep ∉ allIds ∨ dep = node.resourceId)
        "VM_HIERARCHY_DEPENDENCY_UNREGISTERED"
      rejectIf (node.expectedPolicySha256 ≠ [] ∧ digestMalformed node.expectedPolicySha256)
        "VM_HIERARCHY_DIGEST_INVALID"
      validateNodes host allIds (node.resourceId :: seen) rest

def HierarchyScopeInvalid (observed : FleetResourceHierarchy) (host : FleetHost) : Prop :=
  observed.schemaVersion ≠ 1 ∨ observed.machineId ≠ host.machineId ∨ observed.nodes = [] ∨
    observed.nodes.length > 128 ∨ observed.ownerAttested = true ∨ observed.mutationAuthorized = true ∨
    observed.encodeToVec.length > 32768

instance (observed : FleetResourceHierarchy) (host : FleetHost) :
    Decidable (HierarchyScopeInvalid observed host) := by
  unfold HierarchyScopeInvalid; infer_instance

/-- How many nodes a graph projects to. -/
def nodeCount (desired : FleetVmDesiredGraph) : Nat :=
  2 + desired.networks.length + desired.resources.length +
    (desired.resources.filter fun r => r.configTemplateSha256 ≠ []).length

/-- The nodes are well formed and those of the graph. -/
def validateVmResourceHierarchy (observed : FleetResourceHierarchy) (host : FleetHost)
    (desired : FleetVmDesiredGraph) : Except String Unit := do
  validateVmDesiredGraph desired host
  rejectIf (HierarchyScopeInvalid observed host) "VM_HIERARCHY_SCOPE_OR_AUTHORITY_INVALID"
  validateNodes host (observed.nodes.map (·.resourceId)) [] observed.nodes
  rejectIf (observed.nodes.head?.map (·.resourceId) ≠ some (vmHostResourceId host) ∨
    observed.nodes.length ≠ nodeCount desired) "VM_HIERARCHY_INCOMPLETE"
  let expected ← projectVmHierarchyNodesUnchecked host desired
  rejectIf (observed.nodes ≠ expected) "VM_HIERARCHY_POLICY_DRIFT"

/-- The hierarchy that carries the given nodes. -/
def hierarchyOf (host : FleetHost) (nodes : List FleetResourceNode) : FleetResourceHierarchy :=
  { schemaVersion := 1, machineId := host.machineId, nodes, ownerAttested := false,
    mutationAuthorized := false }

/-- The hierarchy of an accepted graph. -/
def deriveVmResourceHierarchy (host : FleetHost) (desired : FleetVmDesiredGraph) :
    Except String FleetResourceHierarchy := do
  validateVmDesiredGraph desired host
  let nodes ← projectVmHierarchyNodesUnchecked host desired
  validateVmResourceHierarchy (hierarchyOf host nodes) host desired
  pure (hierarchyOf host nodes)

/-! ## Identities of different kinds differ -/

/-- The part of an identity before its first slash. -/
def idTag (id : String) : List Char := id.toList.takeWhile (· ≠ '/')

@[simp] theorem idTag_host (host : FleetHost) : idTag (vmHostResourceId host) = "host".toList := by
  simp [idTag, vmHostResourceId, List.takeWhile]

@[simp] theorem idTag_credential (host : FleetHost) :
    idTag (vmWorkerCredentialResourceId host) = "credential".toList := by
  simp [idTag, vmWorkerCredentialResourceId, List.takeWhile]

@[simp] theorem idTag_network (p n : String) : idTag (vmNetworkResourceId p n) = "network".toList := by
  simp [idTag, vmNetworkResourceId, List.takeWhile]

@[simp] theorem idTag_container (c : FleetVmContainer) :
    idTag (containerResourceId c) = "container".toList := by
  simp [idTag, containerResourceId, List.takeWhile]

@[simp] theorem idTag_config (p s : String) : idTag (vmConfigResourceId p s) = "config".toList := by
  simp [idTag, vmConfigResourceId, List.takeWhile]

section

variable {a b p x id service : String} {ids seen : List String} {selector : FleetVmContainer}
variable {desired graph : FleetVmDesiredGraph} {host : FleetHost} {nodes : List FleetResourceNode}

theorem ne_of_idTag (h : idTag a ≠ idTag b) : a ≠ b := fun hab => h (congrArg idTag hab)

/-- A text is split at its last slash in one way. -/
theorem last_slash_unique {a b c d : List Char} (hb : '/' ∉ b) (hd : '/' ∉ d)
    (h : a ++ '/' :: b = c ++ '/' :: d) :
    a = c ∧ b = d := by
  -- what one of the first parts has more than the other holds no slash
  rcases List.append_eq_append_iff.mp h with ⟨e, rfl, he⟩ | ⟨e, rfl, he⟩ <;> cases e <;> simp_all

theorem vmNetworkResourceId_inj {q m n : String} (hm : '/' ∉ m.toList) (hn : '/' ∉ n.toList)
    (h : vmNetworkResourceId p m = vmNetworkResourceId q n) : p = q ∧ m = n := by
  have hlist := congrArg String.toList h
  simp only [vmNetworkResourceId, String.toList_append, List.append_assoc] at hlist
  have hslash : "/".toList = ['/'] := rfl
  obtain ⟨hp, hname⟩ := last_slash_unique hm hn (by simpa [hslash] using List.append_cancel_left hlist)
  exact ⟨String.toList_inj.mp hp, String.toList_inj.mp hname⟩

theorem append_left_cancel (h : p ++ a = p ++ b) : a = b := by
  have hlist := congrArg String.toList h
  simp only [String.toList_append] at hlist
  exact String.toList_inj.mp (List.append_cancel_left hlist)

/-- In one project the service tells containers apart. -/
theorem containerResourceId_inj {a b : FleetVmContainer} (hp : a.composeProject = b.composeProject)
    (h : containerResourceId a = containerResourceId b) : a.composeService = b.composeService := by
  unfold containerResourceId at h
  rw [hp] at h
  exact append_left_cancel h

theorem vmConfigResourceId_inj {s t : String}
    (h : vmConfigResourceId p s = vmConfigResourceId p t) : s = t :=
  append_left_cancel h

/-! ## Sorting -/

theorem mem_dedupRuns : x ∈ dedupRuns ids ↔ x ∈ ids := by
  fun_induction dedupRuns ids with
  | case1 b rest ih => simp [ih]
  | case2 a b rest hne ih => simp [ih]
  | case3 l _ => rfl

@[simp] theorem mem_sortedUnique : x ∈ sortedUnique ids ↔ x ∈ ids := by
  rw [sortedUnique, mem_dedupRuns, List.mem_insertionSort]

/-! ## What the pass over the nodes establishes -/

/-- One node on its own. -/
structure NodeValid (host : FleetHost) (allIds : List String) (node : FleetResourceNode) : Prop where
  owner : node.owner = toI32 (expectedOwner node.kind)
  kind_known : tryFrom FleetResourceKind node.kind ≠ none
  kind_specified : node.kind ≠ toI32 FleetResourceKind.unspecified
  root : node.parentResourceId = "" →
    node.resourceId = vmHostResourceId host ∧ node.kind = toI32 FleetResourceKind.host ∧
    node.dependencyIds = []
  dependencies : ∀ dep ∈ node.dependencyIds, dep ∈ allIds ∧ dep ≠ node.resourceId
  digest : node.expectedPolicySha256 ≠ [] → ¬ digestMalformed node.expectedPolicySha256

/-- Every node with a parent comes after it, or the parent was seen before the list. -/
def ParentsFirst (seen : List String) (nodes : List FleetResourceNode) : Prop :=
  ∀ l n r, nodes = l ++ n :: r →
    n.parentResourceId = "" ∨ n.parentResourceId ∈ seen ∨ n.parentResourceId ∈ l.map (·.resourceId)

theorem parentsFirst_nil (seen : List String) : ParentsFirst seen [] := by
  intro l n r h
  simp at h

theorem parentsFirst_cons {node : FleetResourceNode} {rest : List FleetResourceNode} :
    ParentsFirst seen (node :: rest) ↔
      (node.parentResourceId = "" ∨ node.parentResourceId ∈ seen) ∧
      ParentsFirst (node.resourceId :: seen) rest := by
  constructor
  · intro h
    refine ⟨by simpa using h [] node rest rfl, fun l n r hsplit => ?_⟩
    rcases h (node :: l) n r (by simp [hsplit]) with hn | hn | hn
    · exact .inl hn
    · exact .inr (.inl (.tail _ hn))
    · rcases List.mem_cons.mp hn with hn | hn
      · exact .inr (.inl (by rw [hn]; exact (.head _)))
      · exact .inr (.inr hn)
  · rintro ⟨hnode, hrest⟩ l n r hsplit
    cases l with
    | nil =>
      obtain ⟨rfl, -⟩ := List.cons.inj hsplit
      exact hnode.imp_right .inl
    | cons m l =>
      obtain ⟨rfl, htail⟩ := List.cons.inj hsplit
      rcases hrest l n r htail with hn | hn | hn
      · exact .inl hn
      · rcases List.mem_cons.mp hn with hn | hn
        · exact .inr (.inr (by rw [hn]; exact (.head _)))
        · exact .inr (.inl hn)
      · exact .inr (.inr (.tail _ hn))

theorem ParentsFirst.mono {seen' : List String} (h : ParentsFirst seen nodes)
    (hsub : ∀ x ∈ seen, x ∈ seen') : ParentsFirst seen' nodes := by
  intro l n r hsplit
  rcases h l n r hsplit with hn | hn | hn
  · exact .inl hn
  · exact .inr (.inl (hsub _ hn))
  · exact .inr (.inr hn)

theorem ParentsFirst.append {l₁ l₂ : List FleetResourceNode} (h₁ : ParentsFirst seen l₁)
    (h₂ : ParentsFirst seen l₂) : ParentsFirst seen (l₁ ++ l₂) := by
  induction l₁ generalizing seen with
  | nil => exact h₂
  | cons n l₁ ih =>
    obtain ⟨hn, hrest⟩ := parentsFirst_cons.mp h₁
    exact parentsFirst_cons.mpr ⟨hn, ih hrest (h₂.mono fun _ hx => List.mem_cons_of_mem _ hx)⟩

theorem ParentsFirst.flatten {chunks : List (List FleetResourceNode)}
    (h : ∀ c ∈ chunks, ParentsFirst seen c) : ParentsFirst seen chunks.flatten := by
  induction chunks with
  | nil => exact parentsFirst_nil seen
  | cons c rest ih =>
    exact (h c (.head _)).append (ih fun d hd => h d (.tail _ hd))

theorem validateNodes_eq_ok {allIds : List String} {u : Unit} :
    validateNodes host allIds seen nodes = .ok u ↔
      (∀ n ∈ nodes, NodeValid host allIds n) ∧ ParentsFirst seen nodes ∧ (∀ n ∈ nodes, n.resourceId ∉ seen) ∧
        (nodes.map (·.resourceId)).Nodup := by
  induction nodes generalizing seen with
  | nil => simp [validateNodes, parentsFirst_nil]
  | cons node rest ih =>
    have hparent : (if node.parentResourceId = "" then
          rejectIf (node.resourceId ≠ vmHostResourceId host ∨ node.kind ≠ toI32 FleetResourceKind.host ∨
            node.dependencyIds ≠ []) "VM_HIERARCHY_ROOT_INVALID"
        else rejectIf (node.parentResourceId ∉ seen) "VM_HIERARCHY_PARENT_NOT_FOUND_OR_UNORDERED") = .ok () ↔
        (node.parentResourceId = "" → node.resourceId = vmHostResourceId host ∧
          node.kind = toI32 FleetResourceKind.host ∧ node.dependencyIds = []) ∧
        (node.parentResourceId = "" ∨ node.parentResourceId ∈ seen) := by
      split_ifs with hempty
      · simp [hempty, not_or]
      · simp [hempty]
    simp only [validateNodes, ok_iff, hparent, ih, List.map_cons, List.nodup_cons, List.forall_mem_cons,
      parentsFirst_cons, not_or, not_not, not_exists, not_and]
    constructor
    · rintro ⟨⟨hseen, howner, hknown, hspec⟩, ⟨hroot, hpar⟩, hdeps, hdigest, hvalid, hfirst, hnew, hnodup⟩
      refine ⟨⟨⟨howner, hknown, hspec, hroot, hdeps, hdigest⟩, hvalid⟩, ⟨hpar, hfirst⟩,
        ⟨hseen, fun n hn hmem => hnew n hn (.tail _ hmem)⟩, fun hmem => ?_, hnodup⟩
      obtain ⟨n, hn, heq⟩ := List.mem_map.mp hmem
      exact hnew n hn (by rw [heq]; exact (.head _))
    · rintro ⟨⟨hv, hvalid⟩, ⟨hpar, hfirst⟩, ⟨hseen, hnew⟩, hfresh, hnodup⟩
      refine ⟨⟨hseen, hv.owner, hv.kind_known, hv.kind_specified⟩, ⟨hv.root, hpar⟩,
        hv.dependencies, hv.digest, hvalid, hfirst, fun n hn hmem => ?_, hnodup⟩
      rcases List.mem_cons.mp hmem with heq | hmem
      · exact hfresh (List.mem_map.mpr ⟨n, hn, heq⟩)
      · exact hnew n hn hmem

/-! ## What the projection consists of -/

/-- A container that has an identity. -/
def Identified (host : FleetHost) (selector : FleetVmContainer) : Prop :=
  host.kind = toI32 FleetHostKind.vm ∧ selector ∈ host.vmContainers ∧ selector.composeProject ≠ "" ∧
    selector.composeService ≠ ""

theorem vmContainerResourceId_eq_ok :
    vmContainerResourceId host selector = .ok id ↔ Identified host selector ∧
      id = containerResourceId selector := by
  simp only [vmContainerResourceId, ok_iff, not_or, not_not, Identified]
  exact and_congr_right fun _ => ⟨fun h => (Except.ok.inj h).symm, fun h => h ▸ rfl⟩

theorem mem_containerDependencies {network : String} :
    x ∈ containerDependencies host selector network ids ↔
      x = vmNetworkResourceId selector.composeProject network ∨
        (isGateway selector.composeService ∧ x = vmWorkerCredentialResourceId host) ∨ x ∈ ids := by
  simp only [containerDependencies, mem_sortedUnique, List.mem_append, List.mem_singleton, or_assoc]
  by_cases hgateway : isGateway selector.composeService <;> simp [hgateway]

theorem mem_rowNodes {n : FleetResourceNode} {dependencies : List String} {r : FleetVmDesiredResource} :
    n ∈ rowNodes host selector id dependencies r ↔ n = containerNode host id dependencies r ∨
      r.configTemplateSha256 ≠ [] ∧ n = configNode selector id r := by
  unfold rowNodes
  split_ifs <;> simp_all

theorem dependencyResourceId_eq_ok {dependency : String} :
    dependencyResourceId host dependency = .ok id ↔
      ∃ s, host.vmContainers.find? (·.composeService = dependency) = some s ∧ Identified host s ∧
        id = containerResourceId s := by
  simp only [dependencyResourceId, ok_iff, vmContainerResourceId_eq_ok]

theorem resourceNodes_eq_ok {resource : FleetVmDesiredResource} :
    resourceNodes host desired resource = .ok nodes ↔
      ∃ selector network ids, resource.resource = some selector ∧ Identified host selector ∧
        networkOf desired selector.composeService = some network ∧
        List.Forall₂ (fun d id => dependencyResourceId host d = .ok id) resource.dependencies ids ∧
        nodes = rowNodes host selector (containerResourceId selector)
          (containerDependencies host selector network ids) resource := by
  simp only [resourceNodes, ok_iff, vmContainerResourceId_eq_ok, Except.mapM_eq_ok]
  constructor
  · rintro ⟨selector, hselector, _, ⟨hid, rfl⟩, network, hnetwork, ids, hids, hnodes⟩
    exact ⟨selector, network, ids, hselector, hid, hnetwork, hids, (Except.ok.inj hnodes).symm⟩
  · rintro ⟨selector, network, ids, hselector, hid, hnetwork, hids, rfl⟩
    exact ⟨selector, hselector, _, ⟨hid, rfl⟩, network, hnetwork, ids, hids, rfl⟩

theorem project_eq_ok :
    projectVmHierarchyNodesUnchecked host desired = .ok nodes ↔
      ∃ rows, List.Forall₂ (fun r ns => resourceNodes host desired r = .ok ns) desired.resources rows ∧
        nodes = hostNode host :: credentialNode host :: desired.networks.map (networkNode host) ++
        rows.flatten := by
  simp only [projectVmHierarchyNodesUnchecked, ok_iff, Except.mapM_eq_ok]
  exact exists_congr fun rows => and_congr_right fun _ =>
    ⟨fun h => (Except.ok.inj h).symm, fun h => h ▸ rfl⟩

/-! ## Registered hosts -/

theorem hostToken_ne_empty {value : String} {max : Nat}
    (h : Host.hostToken value max = true) : value ≠ "" := by
  rintro rfl
  cases h

theorem validateContainers_named {previous : Option String} {services : List (String × String)}
    {containers : List FleetVmContainer}
    (h : Host.validateContainers previous services containers = .ok ()) :
    ∀ c ∈ containers, c.composeProject ≠ "" ∧ c.composeService ≠ "" := by
  induction containers generalizing previous services with
  | nil => simp
  | cons c rest ih =>
    simp only [Host.validateContainers, ok_iff, not_or, not_not] at h
    obtain ⟨⟨-, hproject, hservice, -, -⟩, hrest⟩ := h
    exact List.forall_mem_cons.mpr ⟨⟨hostToken_ne_empty hproject, hostToken_ne_empty hservice⟩, ih hrest⟩

theorem validateRegisteredHost_containers {scan scan' : Host.RegistryScan}
    (h : Host.validateRegisteredHost scan host = .ok scan') :
    Host.validateContainers none [] host.vmContainers = .ok () := by
  simp only [Host.validateRegisteredHost, ok_iff] at h
  obtain ⟨-, -, _, -, _, -, -, -, -, -, -, -, -, -, hcontainers, -⟩ := h
  exact hcontainers

/-- The containers of a registered host are named. -/
theorem containers_named {registry : HostRegistry}
    (hregistry : Host.validateHostRegistry registry = .ok ()) (hhost : host ∈ registry.hosts) :
    ∀ c ∈ host.vmContainers, c.composeProject ≠ "" ∧ c.composeService ≠ "" := by
  obtain ⟨s, s', hok⟩ := Host.exists_scan_of_registered hregistry hhost
  exact validateContainers_named (validateRegisteredHost_containers hok)

/-! ## When the projection is accepted -/

/-- All registered containers are in the project of the first. -/
def SingleProject (host : FleetHost) : Prop :=
  ∀ c ∈ host.vmContainers, c.composeProject = composeProject host

/-- No digest of a policy is all zero. -/
def PolicyDigestsNonzero (nodes : List FleetResourceNode) : Prop :=
  ∀ n ∈ nodes, n.expectedPolicySha256 ≠ [] → allZero n.expectedPolicySha256 = false

theorem networkOf_eq_some {name : String}
    (h : networkOf graph service = some name) : ∃ n ∈ graph.networks, n.networkName = name := by
  have hmem := List.mem_reverse.mp (mem_of_lookup h)
  simp only [List.mem_flatMap, List.mem_map, Prod.mk.injEq] at hmem
  obtain ⟨n, hn, _, -, -, hname⟩ := hmem
  exact ⟨n, hn, hname⟩

theorem exists_networkOf {n : FleetVmDesiredNetwork}
    (hn : n ∈ graph.networks) (hs : service ∈ n.attachedServices) :
    ∃ name, networkOf graph service = some name := by
  rw [← Option.isSome_iff_exists, networkOf, List.lookup_isSome_iff]
  refine ⟨(service, n.networkName), ?_, by simp⟩
  rw [List.mem_reverse]
  exact List.mem_flatMap.mpr ⟨n, hn, List.mem_map_of_mem hs⟩

theorem kind_of_validGraph (hv : ValidGraph graph host) : host.kind = toI32 FleetHostKind.vm := by
  have hscope := hv.scope
  simp only [ScopeInvalid, not_or, not_not] at hscope
  exact hscope.1

theorem exists_dependencyResourceId (hv : ValidGraph graph host)
    (hnamed : ∀ c ∈ host.vmContainers, c.composeProject ≠ "" ∧ c.composeService ≠ "") {d : String}
    (hd : registered host d = true) : ∃ id, dependencyResourceId host d = .ok id := by
  have hsome : (host.vmContainers.find? (·.composeService = d)).isSome := by
    simpa [registered, List.find?_isSome] using hd
  obtain ⟨s, hs⟩ := Option.isSome_iff_exists.mp hsome
  have hmem := List.mem_of_find?_eq_some hs
  exact ⟨_, dependencyResourceId_eq_ok.mpr ⟨s, hs, ⟨kind_of_validGraph hv, hmem, hnamed s hmem⟩, rfl⟩⟩

theorem forall₂_of_exists {α β : Type} {R : α → β → Prop} {xs : List α} (h : ∀ x ∈ xs, ∃ y, R x y) :
    ∃ ys, List.Forall₂ R xs ys := by
  induction xs with
  | nil => exact ⟨[], .nil⟩
  | cons x xs ih =>
    obtain ⟨y, hy⟩ := h x (.head _)
    obtain ⟨ys, hys⟩ := ih fun z hz => h z (.tail _ hz)
    exact ⟨y :: ys, .cons hy hys⟩

/-- An accepted graph of a host with named containers is projected. -/
theorem exists_projection (hv : ValidGraph graph host)
    (hnamed : ∀ c ∈ host.vmContainers, c.composeProject ≠ "" ∧ c.composeService ≠ "") :
    ∃ nodes, projectVmHierarchyNodesUnchecked host graph = .ok nodes := by
  have hrow : ∀ r ∈ graph.resources, ∃ ns, resourceNodes host graph r = .ok ns := by
    intro r hr
    obtain ⟨selector, hmem, hselector, -⟩ := hv.row_of_mem hr
    have hreg : selector ∈ host.vmContainers := (List.of_mem_zip hmem).2
    obtain ⟨n, hn, hattached⟩ := hv.attached_of_container hreg
    obtain ⟨name, hname⟩ := exists_networkOf hn hattached
    obtain ⟨ids, hids⟩ := forall₂_of_exists fun d hd =>
      exists_dependencyResourceId hv hnamed (hv.dependencies _ hmem d hd).2
    exact ⟨_, resourceNodes_eq_ok.mpr
      ⟨selector, name, ids, hselector, ⟨kind_of_validGraph hv, hreg, hnamed _ hreg⟩, hname, hids, rfl⟩⟩
  obtain ⟨rows, hrows⟩ := forall₂_of_exists hrow
  exact ⟨_, project_eq_ok.mpr ⟨rows, hrows, rfl⟩⟩

/-- The identities of a row in the project of the host. -/
def rowIds (project : String) (r : FleetVmDesiredResource) : List String :=
  ("container/" ++ project ++ "/" ++ r.service) ::
    if r.configTemplateSha256 ≠ [] then [vmConfigResourceId project r.service] else []

variable {r : FleetVmDesiredResource} {resources : List FleetVmDesiredResource}
variable {rows : List (List FleetResourceNode)}

theorem ids_rowNodes {dependencies : List String}
    (hproject : selector.composeProject = composeProject host) (hr : r.resource = some selector) :
    (rowNodes host selector (containerResourceId selector) dependencies r).map (·.resourceId) =
    rowIds (composeProject host) r := by
  have hservice : r.service = selector.composeService := by simp [FleetVmDesiredResource.service, hr]
  unfold rowNodes rowIds
  rw [hservice, ← hproject]
  split_ifs <;> simp [containerNode, configNode, containerResourceId]

theorem ids_rows (hsingle : SingleProject host)
    (hrows : List.Forall₂ (fun r ns => resourceNodes host graph r = .ok ns) resources rows) :
    rows.flatten.map (·.resourceId) = resources.flatMap (rowIds (composeProject host)) := by
  induction hrows with
  | nil => rfl
  | cons hrow _ ih =>
    obtain ⟨selector, _, _, hr, hid, -, -, rfl⟩ := resourceNodes_eq_ok.mp hrow
    rw [List.flatten_cons, List.map_append, ih, List.flatMap_cons, ids_rowNodes (hsingle _ hid.2.1) hr]

theorem length_rows (hrows : List.Forall₂ (fun r ns => resourceNodes host graph r = .ok ns) resources rows) :
    rows.flatten.length =
      resources.length + (resources.filter fun r => r.configTemplateSha256 ≠ []).length := by
  induction hrows with
  | nil => rfl
  | cons hrow _ ih =>
    obtain ⟨_, _, _, -, -, -, -, rfl⟩ := resourceNodes_eq_ok.mp hrow
    unfold rowNodes
    split_ifs <;> simp_all <;> omega

theorem nodup_rowIds {project : String}
    (h : (resources.map FleetVmDesiredResource.service).Nodup) :
    (resources.flatMap (rowIds project)).Nodup := by
  have htag : ∀ {r : FleetVmDesiredResource} {x : String}, x ∈ rowIds project r →
      x = "container/" ++ project ++ "/" ++ r.service ∨ x = vmConfigResourceId project r.service := by
    intro r x hx
    unfold rowIds at hx
    split_ifs at hx <;> simp_all
  have hne : ∀ s t : String, "container/" ++ project ++ "/" ++ s ≠ vmConfigResourceId project t := fun s t =>
    ne_of_idTag (by
      have hcontainer : idTag ("container/" ++ project ++ "/" ++ s) = "container".toList :=
        idTag_container ⟨"", project, s⟩
      rw [hcontainer, idTag_config]
      decide)
  refine List.nodup_flatMap.mpr ⟨fun r _ => ?_, ?_⟩
  · unfold rowIds
    split_ifs
    · simpa using hne _ _
    · simp
  · have hpair : resources.Pairwise fun a b => a.service ≠ b.service := List.pairwise_map.mp h
    refine hpair.imp fun {a b} hab x hxa hxb => ?_
    rcases htag hxa with rfl | rfl <;> rcases htag hxb with hx | hx
    · exact hab (append_left_cancel hx)
    · exact hne _ _ hx
    · exact hne _ _ hx.symm
    · exact hab (vmConfigResourceId_inj hx)

section

variable (hp : projectVmHierarchyNodesUnchecked host graph = .ok nodes)
include hp

/-- The nodes of a projection, by kind. -/
theorem mem_projection {n : FleetResourceNode} :
    n ∈ nodes ↔ n = hostNode host ∨ n = credentialNode host ∨
      (∃ w ∈ graph.networks, n = networkNode host w) ∨
      ∃ r ∈ graph.resources, ∃ ns, resourceNodes host graph r = .ok ns ∧ n ∈ ns := by
  obtain ⟨rows, hrows, rfl⟩ := project_eq_ok.mp hp
  simp only [List.mem_cons, List.cons_append, List.mem_append, List.mem_map, List.mem_flatten,
    eq_comm (a := n)]
  refine or_congr_right (or_congr_right (or_congr_right ⟨?_, ?_⟩))
  · rintro ⟨ns, hns, hn⟩
    obtain ⟨r, hr, hok⟩ := exists_of_forall₂_right hrows hns
    exact ⟨r, hr, ns, hok, hn⟩
  · rintro ⟨r, hr, ns, hok, hn⟩
    obtain ⟨ns', hns', hok'⟩ := exists_of_forall₂_left hrows hr
    obtain rfl : ns = ns' := by rw [hok] at hok'; exact Except.ok.inj hok'
    exact ⟨ns, hns', hn⟩

theorem ids_projection (hsingle : SingleProject host) :
    nodes.map (·.resourceId) = vmHostResourceId host :: vmWorkerCredentialResourceId host ::
      graph.networks.map (fun n => vmNetworkResourceId n.composeProject n.networkName) ++
      graph.resources.flatMap (rowIds (composeProject host)) := by
  obtain ⟨rows, hrows, rfl⟩ := project_eq_ok.mp hp
  simp only [List.cons_append, List.map_cons, List.map_append, ids_rows hsingle hrows, List.map_map]
  rfl

theorem length_projection : nodes.length = nodeCount graph := by
  obtain ⟨rows, hrows, rfl⟩ := project_eq_ok.mp hp
  simp only [List.cons_append, List.length_cons, List.length_append, List.length_map, length_rows hrows,
    nodeCount]
  omega

theorem parentsFirst_projection : ParentsFirst [] nodes := by
  obtain ⟨rows, hrows, rfl⟩ := project_eq_ok.mp hp
  have hnets : ParentsFirst [vmHostResourceId host] (graph.networks.map (networkNode host)) := by
    intro l n r hsplit
    have hmem : n ∈ graph.networks.map (networkNode host) := by rw [hsplit]; simp
    obtain ⟨w, -, rfl⟩ := List.mem_map.mp hmem
    exact .inr (.inl (List.mem_singleton.mpr rfl))
  have hflat : ParentsFirst [vmHostResourceId host] rows.flatten := by
    refine ParentsFirst.flatten fun ns hns => ?_
    obtain ⟨r, -, hrow⟩ := exists_of_forall₂_right hrows hns
    obtain ⟨selector, _, _, -, -, -, -, rfl⟩ := resourceNodes_eq_ok.mp hrow
    refine parentsFirst_cons.mpr ⟨.inr (List.mem_singleton.mpr rfl), ?_⟩
    split_ifs
    · exact parentsFirst_cons.mpr ⟨.inr (.head _), parentsFirst_nil _⟩
    · exact parentsFirst_nil _
  refine parentsFirst_cons.mpr ⟨.inl rfl, parentsFirst_cons.mpr ⟨.inr (.head _), ?_⟩⟩
  exact (hnets.append hflat).mono fun x hx => List.mem_cons_of_mem _ hx

theorem head_projection : ∃ rest, nodes = hostNode host :: rest := by
  obtain ⟨rows, -, rfl⟩ := project_eq_ok.mp hp
  exact ⟨_, rfl⟩

end

theorem toI32_ne {E : Type} [ProtoEnum E] {a b : E} (h : a ≠ b) : toI32 a ≠ toI32 b :=
  fun heq => h (toI32_injective heq)

theorem hostId_ne_empty (host : FleetHost) : vmHostResourceId host ≠ "" := by
  intro h
  simpa [vmHostResourceId] using congrArg String.toList h

theorem containerResourceId_ne_empty (selector : FleetVmContainer) : containerResourceId selector ≠ "" := by
  intro h
  simpa [containerResourceId] using congrArg String.toList h

/-- A node whose kind is known and specified, with a parent, is valid once its references and its digest
are. -/
theorem NodeValid.of_parent {allIds : List String} {node : FleetResourceNode} (kind : FleetResourceKind)
    (hkind : node.kind = toI32 kind) (hspecified : kind ≠ .unspecified)
    (howner : node.owner = toI32 (expectedOwner (toI32 kind))) (hparent : node.parentResourceId ≠ "")
    (hdeps : ∀ dep ∈ node.dependencyIds, dep ∈ allIds ∧ dep ≠ node.resourceId)
    (hdigest : node.expectedPolicySha256 ≠ [] → ¬ digestMalformed node.expectedPolicySha256) :
    NodeValid host allIds node where
  owner := by rw [hkind]; exact howner
  kind_known := by rw [hkind, tryFrom_toI32]; simp
  kind_specified := by rw [hkind]; exact toI32_ne hspecified
  root := fun h => absurd h hparent
  dependencies := hdeps
  digest := hdigest

theorem nodeValid_host (allIds : List String) : NodeValid host allIds (hostNode host) where
  owner := rfl
  kind_known := by rw [hostNode, tryFrom_toI32]; simp
  kind_specified := toI32_ne (by decide)
  root := fun _ => ⟨rfl, rfl, rfl⟩
  dependencies := by simp [hostNode]
  digest := fun h => absurd rfl h

section

variable (hv : ValidGraph graph host)
include hv

theorem config_digest (hr : r ∈ graph.resources)
    (hconfig : r.configTemplateSha256 ≠ []) : ¬ digestMalformed r.configTemplateSha256 := by
  obtain ⟨selector, hzip, -, -⟩ := hv.row_of_mem hr
  exact (validateConfigTemplate_eq_ok.mp (hv.rows _ hzip).config).2.2 hconfig

variable (hp : projectVmHierarchyNodesUnchecked host graph = .ok nodes)
include hp

/-- In a single project the identities of the projection are distinct. -/
theorem nodup_projection (hsingle : SingleProject host) : (nodes.map (·.resourceId)).Nodup := by
  have hnets : (graph.networks.map fun n => vmNetworkResourceId n.composeProject n.networkName).Nodup := by
    refine List.pairwise_map.mpr
      ((List.pairwise_map.mp hv.networks.names_nodup).imp_of_mem fun {m n} hm hn hmn heq => ?_)
    exact hmn (vmNetworkResourceId_inj (hv.slash_not_mem_networkName hm)
      (hv.slash_not_mem_networkName hn) heq).2
  have hrows : (graph.resources.flatMap (rowIds (composeProject host))).Nodup :=
    nodup_rowIds (hv.services_eq ▸ hv.services_nodup)
  have hrowTag : ∀ x ∈ graph.resources.flatMap (rowIds (composeProject host)),
      idTag x = "container".toList ∨ idTag x = "config".toList := by
    intro x hx
    obtain ⟨r, -, hr⟩ := List.mem_flatMap.mp hx
    rcases List.mem_cons.mp hr with rfl | hr
    · exact .inl (idTag_container ⟨"", composeProject host, r.service⟩)
    · split_ifs at hr with hconfig
      · obtain rfl := List.mem_singleton.mp hr
        exact .inr (idTag_config _ _)
      · cases hr
  have hnetTag : ∀ x ∈ graph.networks.map fun n => vmNetworkResourceId n.composeProject n.networkName,
      idTag x = "network".toList := by
    intro x hx
    obtain ⟨n, -, rfl⟩ := List.mem_map.mp hx
    exact idTag_network _ _
  -- every other identity has another tag than the one at the head
  have htail : ∀ {id : String} {x : String}, idTag id = "host".toList ∨ idTag id = "credential".toList →
      x ∈ (graph.networks.map fun n => vmNetworkResourceId n.composeProject n.networkName) ++
        graph.resources.flatMap (rowIds (composeProject host)) → id ≠ x := by
    intro id x hid hx
    apply ne_of_idTag
    rcases List.mem_append.mp hx with hx | hx
    · rw [hnetTag x hx]
      rcases hid with hid | hid <;> rw [hid] <;> decide
    · rcases hrowTag x hx with hx | hx <;> rw [hx] <;> rcases hid with hid | hid <;> rw [hid] <;> decide
  rw [ids_projection hp hsingle, List.cons_append, List.cons_append, List.nodup_cons, List.nodup_cons]
  refine ⟨fun hmem => ?_, fun hmem => htail (.inr (idTag_credential host)) hmem rfl, ?_⟩
  · rcases List.mem_cons.mp hmem with heq | hmem
    · exact ne_of_idTag (by rw [idTag_host, idTag_credential]; decide) heq
    · exact htail (.inl (idTag_host host)) hmem rfl
  · refine List.Nodup.append hnets hrows fun x hx hx' => ?_
    rcases hrowTag x hx' with htag | htag <;> rw [hnetTag x hx] at htag <;> exact absurd htag (by decide)

/-- A container node of the projection refers to nodes of the projection other than itself. -/
theorem dependencies_of_container (hsingle : SingleProject host) (hr : r ∈ graph.resources)
    {network : String} {ids : List String} (hselector : r.resource = some selector)
    (hid : Identified host selector) (hnetwork : networkOf graph selector.composeService = some network)
    (hids : List.Forall₂ (fun d id => dependencyResourceId host d = .ok id) r.dependencies ids) :
    ∀ dep ∈ containerDependencies host selector network ids,
      dep ∈ nodes.map (·.resourceId) ∧ dep ≠ containerResourceId selector := by
  intro dep hdep
  rw [ids_projection hp hsingle]
  rcases mem_containerDependencies.mp hdep with rfl | ⟨-, rfl⟩ | hdep
  · obtain ⟨n, hn, rfl⟩ := networkOf_eq_some hnetwork
    refine ⟨?_, ne_of_idTag (by rw [idTag_network, idTag_container]; decide)⟩
    rw [hsingle _ hid.2.1, ← hv.project_of_network hn]
    simp only [List.cons_append, List.mem_cons, List.mem_append, List.mem_map]
    exact .inr (.inr (.inl ⟨n, hn, rfl⟩))
  · refine ⟨by simp, ne_of_idTag (by rw [idTag_credential, idTag_container]; decide)⟩
  · obtain ⟨d, hd, hok⟩ := exists_of_forall₂_right hids hdep
    obtain ⟨s, hfind, hs, rfl⟩ := dependencyResourceId_eq_ok.mp hok
    have hsd : s.composeService = d := by simpa using List.find?_some hfind
    obtain ⟨selector', hzip, hselector', -⟩ := hv.row_of_mem hr
    obtain rfl : selector = selector' := Option.some.inj (hselector.symm.trans hselector')
    have hneService := (hv.dependencies _ hzip d hd).1
    refine ⟨?_, fun heq => hneService ?_⟩
    · -- the dependency is a registered container, so it has a row
      have hrow : s.composeService ∈ graph.resources.map FleetVmDesiredResource.service := by
        rw [hv.services_eq]
        exact List.mem_map_of_mem hs.2.1
      obtain ⟨q, hq, hservice⟩ := List.mem_map.mp hrow
      simp only [List.cons_append, List.mem_cons, List.mem_append, List.mem_flatMap]
      refine .inr (.inr (.inr ⟨q, hq, ?_⟩))
      unfold rowIds containerResourceId
      rw [hservice, hsingle _ hs.2.1]
      exact (.head _)
    · rw [← hsd]
      exact containerResourceId_inj ((hsingle _ hs.2.1).trans (hsingle _ hid.2.1).symm) heq

theorem nodeValid_projection (hsingle : SingleProject host) (hdigests : PolicyDigestsNonzero nodes) :
    ∀ n ∈ nodes, NodeValid host (nodes.map (·.resourceId)) n := by
  intro n hn
  have hsha : ∀ {b : Bytes}, n.expectedPolicySha256 = sha256 b →
      n.expectedPolicySha256 ≠ [] → ¬ digestMalformed n.expectedPolicySha256 := by
    intro b hb hne
    simp only [digestMalformed, not_or, not_not, Bool.not_eq_true]
    exact ⟨by rw [hb]; exact length_sha256 b, hdigests n hn hne⟩
  rcases (mem_projection hp).mp hn with rfl | rfl | ⟨w, -, rfl⟩ | ⟨r, hr, ns, hrow, hmem⟩
  · exact nodeValid_host _
  · exact NodeValid.of_parent .credentialRef rfl (by decide) rfl (hostId_ne_empty host)
      (by simp [credentialNode]) (fun h => absurd rfl h)
  · exact NodeValid.of_parent .dockerNetwork rfl (by decide) rfl (hostId_ne_empty host)
      (by simp [networkNode]) (hsha rfl)
  · obtain ⟨selector, network, ids, hselector, hid, hnetwork, hids, rfl⟩ := resourceNodes_eq_ok.mp hrow
    have hcontainer : containerNode host (containerResourceId selector)
        (containerDependencies host selector network ids) r ∈ nodes :=
      (mem_projection hp).mpr (.inr (.inr (.inr ⟨r, hr, _, hrow, (.head _)⟩)))
    rcases mem_rowNodes.mp hmem with rfl | ⟨-, rfl⟩
    · exact NodeValid.of_parent .dockerContainer rfl (by decide) rfl (hostId_ne_empty host)
        (dependencies_of_container hv hp hsingle hr hselector hid hnetwork hids) (hsha rfl)
    · refine NodeValid.of_parent .singboxConfig rfl (by decide) rfl
        (containerResourceId_ne_empty selector) (fun dep hdep => ?_) (fun h => config_digest hv hr h)
      obtain rfl : dep = containerResourceId selector := by simpa [configNode] using hdep
      exact ⟨List.mem_map.mpr ⟨_, hcontainer, rfl⟩,
        ne_of_idTag (by rw [idTag_container, configNode, idTag_config]; decide)⟩

/-- Only containers of one project find their networks among the nodes. -/
theorem singleProject_of_nodeValid
    (hnodes : ∀ n ∈ nodes, NodeValid host (nodes.map (·.resourceId)) n) : SingleProject host := by
  intro c hc
  have hrow : some c ∈ graph.resources.map (·.resource) := by
    rw [hv.resources]
    exact List.mem_map_of_mem hc
  obtain ⟨r, hr, hselector⟩ := List.mem_map.mp hrow
  obtain ⟨rows, hrows, -⟩ := project_eq_ok.mp hp
  obtain ⟨ns, -, hok⟩ := exists_of_forall₂_left hrows hr
  obtain ⟨selector, network, ids, hselector', -, hnetwork, -, rfl⟩ := resourceNodes_eq_ok.mp hok
  obtain rfl : c = selector := Option.some.inj (hselector.symm.trans hselector')
  have hnode := hnodes _ ((mem_projection hp).mpr (.inr (.inr (.inr ⟨r, hr, _, hok, (.head _)⟩))))
  have hdep := (hnode.dependencies (vmNetworkResourceId c.composeProject network)
    (mem_containerDependencies.mpr (.inl rfl))).1
  obtain ⟨m, hm, hid⟩ := List.mem_map.mp hdep
  obtain ⟨n, hn, hname⟩ := networkOf_eq_some hnetwork
  -- the tag leaves only network nodes
  rcases (mem_projection hp).mp hm with rfl | rfl | ⟨w, hw, rfl⟩ | ⟨q, -, qs, hq, hmem⟩
  · exact absurd hid (ne_of_idTag (by rw [hostNode, idTag_host, idTag_network]; decide))
  · exact absurd hid (ne_of_idTag (by rw [credentialNode, idTag_credential, idTag_network]; decide))
  · have heq := vmNetworkResourceId_inj (hv.slash_not_mem_networkName hw)
      (hname ▸ hv.slash_not_mem_networkName hn) hid
    rw [← heq.1]
    exact hv.project_of_network hw
  · obtain ⟨selector, _, _, -, -, -, -, rfl⟩ := resourceNodes_eq_ok.mp hq
    rcases mem_rowNodes.mp hmem with rfl | ⟨-, rfl⟩
    · exact absurd hid (ne_of_idTag (by rw [containerNode, idTag_container, idTag_network]; decide))
    · exact absurd hid (ne_of_idTag (by rw [configNode, idTag_config, idTag_network]; decide))

theorem validateNodes_projection_iff :
    validateNodes host (nodes.map (·.resourceId)) [] nodes = .ok () ↔
      SingleProject host ∧ PolicyDigestsNonzero nodes := by
  rw [validateNodes_eq_ok]
  constructor
  · rintro ⟨hnodes, -, -, -⟩
    refine ⟨singleProject_of_nodeValid hv hp hnodes, fun n hn hne => ?_⟩
    have hdigest := (hnodes n hn).digest hne
    simp only [digestMalformed, not_or, Bool.not_eq_true] at hdigest
    exact hdigest.2
  · rintro ⟨hsingle, hdigests⟩
    exact ⟨nodeValid_projection hv hp hsingle hdigests, parentsFirst_projection hp, by simp,
      nodup_projection hv hp hsingle⟩

end

/-! ## A rank for parents and dependencies -/

/-- The rank of an identity, from a rank of the services: host, then credential and networks, then containers
    by their dependencies, each configuration after its container. -/
def idRank (host : FleetHost) (rank : String → Nat) (id : String) : Nat :=
  if idTag id = "host".toList then 0
  else if idTag id = "container".toList then
    2 + rank ((stripPrefix id ("container/" ++ composeProject host ++ "/")).getD "")
  else if idTag id = "config".toList then
    3 + rank ((stripPrefix id ("config/" ++ composeProject host ++ "/")).getD "")
  else 1

variable {rank : String → Nat}

theorem idRank_host : idRank host rank (vmHostResourceId host) = 0 := by
  rw [idRank, idTag_host, if_pos rfl]

theorem idRank_credential : idRank host rank (vmWorkerCredentialResourceId host) = 1 := by
  rw [idRank, idTag_credential, if_neg (by decide), if_neg (by decide), if_neg (by decide)]

theorem idRank_network (p n : String) : idRank host rank (vmNetworkResourceId p n) = 1 := by
  rw [idRank, idTag_network, if_neg (by decide), if_neg (by decide), if_neg (by decide)]

theorem idRank_container {c : FleetVmContainer} (hc : c.composeProject = composeProject host) :
    idRank host rank (containerResourceId c) = 2 + rank c.composeService := by
  have hstrip : stripPrefix (containerResourceId c) ("container/" ++ composeProject host ++ "/") =
      some c.composeService := stripPrefix_eq_some.mpr (by rw [containerResourceId, hc])
  rw [idRank, idTag_container, if_neg (by decide), if_pos rfl, hstrip, Option.getD_some]

theorem idRank_config (service : String) :
    idRank host rank (vmConfigResourceId (composeProject host) service) = 3 + rank service := by
  have hstrip : stripPrefix (vmConfigResourceId (composeProject host) service)
      ("config/" ++ composeProject host ++ "/") = some service := stripPrefix_eq_some.mpr rfl
  rw [idRank, idTag_config, if_neg (by decide), if_neg (by decide), if_pos rfl, hstrip, Option.getD_some]

/-- A node of the projection ranks above its parent and its dependencies. -/
theorem idRank_lt (hsingle : SingleProject host)
    (hp : projectVmHierarchyNodesUnchecked host graph = .ok nodes)
    (hrank : ∀ x y, graph.DependsOn x y → rank y < rank x) {n : FleetResourceNode} (hn : n ∈ nodes)
    {y : String} (hy : (n.parentResourceId = y ∧ y ≠ "") ∨ y ∈ n.dependencyIds) :
    idRank host rank y < idRank host rank n.resourceId := by
  rcases (mem_projection hp).mp hn with rfl | rfl | ⟨w, -, rfl⟩ | ⟨r, hr, ns, hrow, hmem⟩
  · rcases hy with ⟨rfl, hne⟩ | hy
    · exact absurd rfl hne
    · cases hy
  · rcases hy with ⟨rfl, -⟩ | hy
    · rw [credentialNode, idRank_host, idRank_credential]
      omega
    · cases hy
  · rcases hy with ⟨rfl, -⟩ | hy
    · rw [networkNode, idRank_host, idRank_network]
      omega
    · cases hy
  · obtain ⟨selector, network, ids, hselector, hid, -, hids, rfl⟩ := resourceNodes_eq_ok.mp hrow
    have hproject : selector.composeProject = composeProject host := hsingle _ hid.2.1
    have hservice : r.service = selector.composeService := by
      simp [FleetVmDesiredResource.service, hselector]
    rcases mem_rowNodes.mp hmem with rfl | ⟨-, rfl⟩
    · show idRank host rank y < idRank host rank (containerResourceId selector)
      rw [idRank_container hproject]
      rcases hy with ⟨rfl, -⟩ | hy
      · rw [containerNode, idRank_host]
        omega
      · rcases mem_containerDependencies.mp hy with rfl | ⟨-, rfl⟩ | hy
        · rw [idRank_network]
          omega
        · rw [idRank_credential]
          omega
        · obtain ⟨d, hd, hok⟩ := exists_of_forall₂_right hids hy
          obtain ⟨s, hfind, hs, rfl⟩ := dependencyResourceId_eq_ok.mp hok
          have hsd : s.composeService = d := by simpa using List.find?_some hfind
          have hlt := hrank selector.composeService d ⟨r, hr, hservice, hd⟩
          rw [idRank_container (hsingle _ hs.2.1), hsd]
          omega
    · obtain rfl : y = containerResourceId selector := by
        rcases hy with ⟨rfl, -⟩ | hy
        · rfl
        · simpa [configNode] using hy
      rw [configNode, idRank_container hproject, hproject, idRank_config]
      omega

/-! ## Well-formedness -/

/-- Containment and dependency together: the node `x` has `y` as its parent or among its dependencies. -/
def FleetResourceHierarchy.Refers (h : FleetResourceHierarchy) (x y : String) : Prop :=
  ∃ n ∈ h.nodes, n.resourceId = x ∧ ((n.parentResourceId = y ∧ y ≠ "") ∨ y ∈ n.dependencyIds)

structure FleetResourceHierarchy.WellFormed (h : FleetResourceHierarchy) : Prop where
  ids : (h.nodes.map (·.resourceId)).Nodup
  /-- Every parent is listed before its children; the first node alone has none. -/
  parents : ∀ l n r, h.nodes = l ++ n :: r →
    n.parentResourceId ∈ l.map (·.resourceId) ∨ (l = [] ∧ n.parentResourceId = "")
  dependencies : ∀ n ∈ h.nodes, ∀ d ∈ n.dependencyIds, d ∈ h.nodes.map (·.resourceId)
  acyclic : Acyclic h.Refers

/-- On the projection of an accepted graph the validator's scope and pass over the nodes decide. -/
theorem validateVmResourceHierarchy_eq_ok (hv : ValidGraph graph host)
    (hp : projectVmHierarchyNodesUnchecked host graph = .ok nodes) :
    validateVmResourceHierarchy (hierarchyOf host nodes) host graph = .ok () ↔
      nodeCount graph ≤ 128 ∧ (hierarchyOf host nodes).encodeToVec.length ≤ 32768 ∧
        validateNodes host (nodes.map (·.resourceId)) [] nodes = .ok () := by
  have hlen := length_projection hp
  obtain ⟨rest, hhead⟩ := head_projection hp
  have hne : nodes ≠ [] := by rw [hhead]; simp
  have hfirst : nodes.head?.map (·.resourceId) = some (vmHostResourceId host) := by rw [hhead]; rfl
  simp only [validateVmResourceHierarchy, ok_iff, hp, HierarchyScopeInvalid, hierarchyOf, hlen, hfirst,
    not_or, not_not, validGraph_iff]
  constructor
  · rintro ⟨-, ⟨-, -, -, hcount, -, -, hsize⟩, hnodes, -⟩
    exact ⟨not_lt.mp hcount, not_lt.mp hsize, hnodes⟩
  · rintro ⟨hcount, hsize, hnodes⟩
    exact ⟨hv, ⟨trivial, trivial, hne, not_lt.mpr hcount, by simp, by simp, not_lt.mpr hsize⟩, hnodes,
      ⟨trivial, trivial⟩, nodes, rfl, rejectIf_of_not (by simp)⟩

variable {h : FleetResourceHierarchy}

theorem derive_eq_ok :
    deriveVmResourceHierarchy host graph = .ok h ↔
      ValidGraph graph host ∧ ∃ nodes, projectVmHierarchyNodesUnchecked host graph = .ok nodes ∧
        h = hierarchyOf host nodes ∧ validateVmResourceHierarchy h host graph = .ok () := by
  simp only [deriveVmResourceHierarchy, ok_iff, validGraph_iff]
  refine and_congr_right fun _ => exists_congr fun nodes => and_congr_right fun _ => ?_
  constructor
  · rintro ⟨hok, heq⟩
    obtain rfl := Except.ok.inj heq
    exact ⟨rfl, hok⟩
  · rintro ⟨rfl, hok⟩
    exact ⟨hok, rfl⟩

/-- A derived hierarchy is well formed. -/
theorem wellFormed_of_derive (hderive : deriveVmResourceHierarchy host graph = .ok h) : h.WellFormed := by
  obtain ⟨hv, nodes, hp, rfl, hok⟩ := derive_eq_ok.mp hderive
  have hpass := ((validateVmResourceHierarchy_eq_ok hv hp).mp hok).2.2
  obtain ⟨hsingle, -⟩ := (validateNodes_projection_iff hv hp).mp hpass
  obtain ⟨hnodes, hfirst, -, hnodup⟩ := validateNodes_eq_ok.mp hpass
  obtain ⟨order, hsettle⟩ := Option.isSome_iff_exists.mp hv.settles
  obtain ⟨rank, hrank⟩ := exists_rank_of_settle hsettle
  refine ⟨hnodup, fun l n r hsplit => ?_, fun n hn d hd => ((hnodes n hn).dependencies d hd).1, ?_⟩
  · have hsplit' : nodes = l ++ n :: r := hsplit
    rcases hfirst l n r hsplit' with hempty | hmem | hmem
    · -- a node without a parent is the host, and the host is the first node
      refine .inr ⟨?_, hempty⟩
      cases l with
      | nil => rfl
      | cons m l =>
        obtain ⟨rest, hhead⟩ := head_projection hp
        obtain rfl : hostNode host = m := by
          rw [hsplit'] at hhead
          exact (List.cons.inj hhead).1.symm
        have hroot := ((hnodes n (by rw [hsplit']; simp)).root hempty).1
        rw [hsplit', List.cons_append, List.map_cons, List.nodup_cons] at hnodup
        exact absurd (List.mem_map.mpr ⟨n, by simp, hroot⟩) hnodup.1
    · cases hmem
    · exact .inl hmem
  · refine acyclic_of_rank (idRank host rank) fun x y hxy => ?_
    obtain ⟨n, hn, rfl, hy⟩ := hxy
    exact idRank_lt hsingle hp hrank hn hy

/-- **The projection of an accepted graph.** On a registered host it is derived exactly when the containers
    share one project, the nodes and their encoding stay within bounds and no policy digest is zero; what is
    derived is accepted by the validator and well formed. -/
theorem hierarchy_derived_iff {registry : HostRegistry} {host : FleetHost} {graph : FleetVmDesiredGraph}
    (hregistry : Host.validateHostRegistry registry = .ok ()) (hhost : host ∈ registry.hosts)
    (hgraph : validateVmDesiredGraph graph host = .ok ()) :
    ((∃ h, deriveVmResourceHierarchy host graph = .ok h) ↔
      SingleProject host ∧ nodeCount graph ≤ 128 ∧
        ∃ nodes, projectVmHierarchyNodesUnchecked host graph = .ok nodes ∧
          (hierarchyOf host nodes).encodeToVec.length ≤ 32768 ∧ PolicyDigestsNonzero nodes) ∧
    ∀ h, deriveVmResourceHierarchy host graph = .ok h →
      validateVmResourceHierarchy h host graph = .ok () ∧ h.WellFormed := by
  have hv : ValidGraph graph host := validGraph_iff.mp hgraph
  obtain ⟨nodes, hp⟩ := exists_projection hv (containers_named hregistry hhost)
  refine ⟨⟨?_, ?_⟩, fun h hderive => ?_⟩
  · rintro ⟨h, hderive⟩
    obtain ⟨-, nodes', hp', rfl, hok⟩ := derive_eq_ok.mp hderive
    obtain ⟨hcount, hsize, hpass⟩ := (validateVmResourceHierarchy_eq_ok hv hp').mp hok
    obtain ⟨hsingle, hdigests⟩ := (validateNodes_projection_iff hv hp').mp hpass
    exact ⟨hsingle, hcount, nodes', hp', hsize, hdigests⟩
  · rintro ⟨hsingle, hcount, nodes', hp', hsize, hdigests⟩
    refine ⟨hierarchyOf host nodes', derive_eq_ok.mpr ⟨hv, nodes', hp', rfl, ?_⟩⟩
    exact (validateVmResourceHierarchy_eq_ok hv hp').mpr
      ⟨hcount, hsize, (validateNodes_projection_iff hv hp').mpr ⟨hsingle, hdigests⟩⟩
  · obtain ⟨-, _, -, -, hok⟩ := derive_eq_ok.mp hderive
    exact ⟨hok, wellFormed_of_derive hderive⟩

end

namespace HierarchySample

def container (name project service : String) : FleetVmContainer := ⟨name, project, service⟩

def host (containers : List FleetVmContainer) : FleetHost :=
  { machineId := "vm-a", kind := toI32 FleetHostKind.vm, owner := some (.vmMachineId "vm-a"),
    windowsRunnerLabel := "", desiredSpecPath := "infra/hosts/specs/vm-a.textproto", target := none,
    vmContainers := containers, nativeReceiptPublicKey := [], vmFirstUseCredential := none,
    workerAuthorityPublicKey := [], vmProviderSpecPath := "" }

def registry (containers : List FleetVmContainer) : HostRegistry := ⟨1, [host containers]⟩

def image : String := "app@sha256:aaaaaaaaaaaaaaaaaaaaaaaaaaaaaaaaaaaaaaaaaaaaaaaaaaaaaaaaaaaaaaaa"

/-- A gateway that depends on the egress, both on one network of the project of the gateway. -/
def graph (gateway egress : FleetVmContainer) : FleetVmDesiredGraph :=
  { schemaVersion := 1, machineId := "vm-a",
    resources := [⟨some gateway, image, ["warp-egress"], List.replicate 32 7⟩, ⟨some egress, image, [], []⟩],
    networks := [⟨gateway.composeProject, "edge_net", "bridge", ["line1-gateway", "warp-egress"]⟩] }

def gateway : FleetVmContainer := container "a-gateway" "edge" "line1-gateway"

def egress (project : String) : FleetVmContainer := container "b-warp" project "warp-egress"

end HierarchySample

open HierarchySample in
/-- A gateway and its egress in one project. -/
theorem single_project_hierarchy :
    ∃ h, deriveVmResourceHierarchy (host [gateway, egress "edge"]) (graph gateway (egress "edge")) = .ok h ∧
      validateVmResourceHierarchy h (host [gateway, egress "edge"])
      (graph gateway (egress "edge")) = .ok () ∧ h.WellFormed := by
  have hregistry : Host.validateHostRegistry (registry [gateway, egress "edge"]) = .ok () := by decide
  have hgraph : validateVmDesiredGraph (graph gateway (egress "edge"))
      (host [gateway, egress "edge"]) = .ok () := by
    decide +kernel
  have hderived : ∃ h, deriveVmResourceHierarchy (host [gateway, egress "edge"])
      (graph gateway (egress "edge")) = .ok h := by
    have hsome : (deriveVmResourceHierarchy (host [gateway, egress "edge"])
        (graph gateway (egress "edge"))).toOption.isSome = true := by decide +kernel
    cases hrun : deriveVmResourceHierarchy (host [gateway, egress "edge"])
      (graph gateway (egress "edge")) with
    | ok h => exact ⟨h, rfl⟩
    | error e => rw [hrun] at hsome; cases hsome
  obtain ⟨h, hderive⟩ := hderived
  exact ⟨h, hderive, (hierarchy_derived_iff hregistry (List.mem_singleton.mpr rfl) hgraph).2 h hderive⟩

open HierarchySample in
/-- The registry admits containers of two projects and the graph is accepted, but its projection is refused:
    the egress has no network in its own project. -/
theorem two_projects_not_derived :
    Host.validateHostRegistry (registry [gateway, egress "other"]) = .ok () ∧
      validateVmDesiredGraph (graph gateway (egress "other")) (host [gateway, egress "other"]) = .ok () ∧
      deriveVmResourceHierarchy (host [gateway, egress "other"]) (graph gateway (egress "other")) =
        .error "VM_HIERARCHY_DEPENDENCY_UNREGISTERED" := by
  decide +kernel

end EdgePlatform.Fleet
