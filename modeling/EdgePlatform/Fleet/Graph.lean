import EdgePlatform.Foundation.Dependency
import EdgePlatform.Host.Registry

/-!
# `EdgePlatform.Fleet.Graph` — the desired resource graph of a VM

`validate_vm_desired_graph`: the per-resource graph an agent derives from an installed bundle, checked
against the registered containers of its host. The networks must partition the registered services, the rows
must be the registered containers in registry order, and the dependencies must settle (`Foundation.settle`).

The messages here are complete (the records of `Host.Types` of the same names keep only what planning reads),
since their encodings are measured and hashed.
-/

namespace EdgePlatform.Fleet

open Foundation Foundation.Wire
open Host (FleetHost FleetHostKind FleetVmContainer allZero)

/-! ## Messages -/

structure FleetVmDesiredResource where
  resource : Option FleetVmContainer
  imageRef : String
  dependencies : List String
  configTemplateSha256 : Bytes
deriving DecidableEq

structure FleetVmDesiredNetwork where
  composeProject : String
  networkName : String
  driver : String
  attachedServices : List String
deriving DecidableEq

structure FleetVmDesiredGraph where
  schemaVersion : UInt32
  machineId : String
  resources : List FleetVmDesiredResource
  networks : List FleetVmDesiredNetwork
deriving DecidableEq

/-- A repeated string field: every element is written, the empty ones too. -/
def putStrings (k : Nat) (xs : List String) : List Field := xs.map fun s => (k, .len (utf8 s))

/-- A repeated embedded message. -/
def putMessages {α : Type} (k : Nat) (encode : α → Bytes) (xs : List α) : List Field :=
  xs.map fun a => (k, .len (encode a))

def encodeContainer (c : FleetVmContainer) : Bytes :=
  encodeFields (put 1 (stringValue c.containerName) ++ put 2 (stringValue c.composeProject) ++
    put 3 (stringValue c.composeService))

def FleetVmDesiredResource.encodeToVec (r : FleetVmDesiredResource) : Bytes :=
  encodeFields (put 1 (messageValue (r.resource.map encodeContainer)) ++ put 2 (stringValue r.imageRef) ++
    putStrings 3 r.dependencies ++ put 4 (bytesValue r.configTemplateSha256))

def FleetVmDesiredNetwork.encodeToVec (n : FleetVmDesiredNetwork) : Bytes :=
  encodeFields (put 1 (stringValue n.composeProject) ++ put 2 (stringValue n.networkName) ++
    put 3 (stringValue n.driver) ++ putStrings 4 n.attachedServices)

def FleetVmDesiredGraph.encodeToVec (g : FleetVmDesiredGraph) : Bytes :=
  encodeFields (put 1 (u32Value g.schemaVersion) ++ put 2 (stringValue g.machineId) ++
    putMessages 3 FleetVmDesiredResource.encodeToVec g.resources ++
    putMessages 4 FleetVmDesiredNetwork.encodeToVec g.networks)

/-! ## Text -/

/-- `str::rsplit_once` on characters: the tail is searched first, so the last occurrence is found. -/
def rsplitOnceChars (p : List Char) : List Char → Option (List Char × List Char)
  | [] => none
  | c :: cs =>
    match rsplitOnceChars p cs with
    | some (l, r) => some (c :: l, r)
    | none => if p.isPrefixOf (c :: cs) then some ([], (c :: cs).drop p.length) else none

/-- `str::rsplit_once` at a non-empty pattern. -/
def rsplitOnce (s p : String) : Option (String × String) :=
  (rsplitOnceChars p.toList s.toList).map fun (l, r) => (String.ofList l, String.ofList r)

def isAsciiHexdigit (b : UInt8) : Bool := isAsciiDigit b || (97 ≤ b && b ≤ 102) || (65 ≤ b && b ≤ 70)

/-- An image named by the digest of its manifest. -/
def imageRefPinned (imageRef : String) : Bool :=
  match rsplitOnce imageRef "@sha256:" with
  | some (name, sha) => name ≠ "" && (utf8 sha).length = 64 && (utf8 sha).all isAsciiHexdigit
  | none => false

/-! ## Checks -/

def registered (host : FleetHost) (service : String) : Bool :=
  host.vmContainers.any (·.composeService = service)

/-- The project every network must belong to: that of the first container, which exists once the scope is
checked. -/
def composeProject (host : FleetHost) : String := (host.vmContainers.head?.map (·.composeProject)).getD ""

/-- The service of a row; every row has a container once the rows are checked. -/
def FleetVmDesiredResource.service (r : FleetVmDesiredResource) : String :=
  (r.resource.map (·.composeService)).getD ""

def isNetworkNameByte (b : UInt8) : Bool := isAsciiAlphanumeric b || b = 95 || b = 45

def ScopeInvalid (graph : FleetVmDesiredGraph) (host : FleetHost) : Prop :=
  host.kind ≠ toI32 FleetHostKind.vm ∨ graph.schemaVersion ≠ 1 ∨ graph.machineId ≠ host.machineId ∨
    graph.resources = [] ∨ graph.resources.length ≠ host.vmContainers.length ∨ graph.networks = [] ∨
    graph.networks.length > 16 ∨ graph.encodeToVec.length > 16384

instance (graph : FleetVmDesiredGraph) (host : FleetHost) : Decidable (ScopeInvalid graph host) := by
  unfold ScopeInvalid; infer_instance

/-- The scope of one network, without its name being new. -/
def NetworkScopeInvalid (project : String) (network : FleetVmDesiredNetwork) : Prop :=
  network.composeProject ≠ project ∨ network.driver ≠ "bridge" ∨ network.networkName = "" ∨
    (utf8 network.networkName).length > 64 ∨ ¬ (utf8 network.networkName).all isNetworkNameByte ∨
    network.networkName = "mesh_net"

instance (project : String) (network : FleetVmDesiredNetwork) :
    Decidable (NetworkScopeInvalid project network) := by
  unfold NetworkScopeInvalid; infer_instance

/-- The services attached to one network: `members` are those seen on it, `membership` those seen on any. -/
def validateMembers (host : FleetHost) : (members membership services : List String) →
    Except String (List String)
  | _, membership, [] => .ok membership
  | members, membership, service :: rest => do
      rejectIf (¬ registered host service ∨ service ∈ members ∨ service ∈ membership)
        "VM_GRAPH_NETWORK_MEMBERSHIP_INVALID"
      validateMembers host (service :: members) (service :: membership) rest

def validateNetworks (host : FleetHost) (project : String) :
    (names membership : List String) → List FleetVmDesiredNetwork → Except String (List String)
  | _, membership, [] => .ok membership
  | names, membership, network :: rest => do
      rejectIf (NetworkScopeInvalid project network ∨ network.networkName ∈ names ∨
        network.attachedServices = [])
        "VM_GRAPH_NETWORK_SCOPE_INVALID"
      let membership ← validateMembers host [] membership network.attachedServices
      validateNetworks host project (network.networkName :: names) membership rest

/-- A digest field that holds no digest. -/
def digestMalformed (sha : Bytes) : Prop := sha.length ≠ 32 ∨ allZero sha = true

instance (sha : Bytes) : Decidable (digestMalformed sha) := by unfold digestMalformed; infer_instance

/-- The two sing-box services, which must carry a configuration. -/
def isGateway (service : String) : Prop := service = "line1-gateway" ∨ service = "line2-proxy"

instance (service : String) : Decidable (isGateway service) := by unfold isGateway; infer_instance

def validateConfigTemplate (service : String) (sha : Bytes) : Except String Unit :=
  if isGateway service ∧ digestMalformed sha then .error "VM_GRAPH_CONFIG_MISSING"
  else if service = "warp-egress" ∧ sha ≠ [] then .error "VM_GRAPH_WARP_CONFIG_FOREIGN"
  else if sha ≠ [] ∧ digestMalformed sha then .error "VM_GRAPH_CONFIG_INVALID"
  else .ok ()

def validateDependencies (host : FleetHost) (service : String) :
    (seen deps : List String) → Except String Unit
  | _, [] => .ok ()
  | seen, dep :: rest => do
      rejectIf (dep = service ∨ ¬ registered host dep ∨ dep ∈ seen) "VM_GRAPH_DEPENDENCY_INVALID"
      validateDependencies host service (dep :: seen) rest

/-- The row of one registered container, without its service being new. -/
def RowInvalid (rows : Nat) (row : FleetVmDesiredResource) (selector : FleetVmContainer) : Prop :=
  row.resource ≠ some selector ∨ (utf8 row.imageRef).length > 256 ∨ ¬ imageRefPinned row.imageRef ∨
    row.dependencies.length > rows

instance (rows : Nat) (row : FleetVmDesiredResource) (selector : FleetVmContainer) :
    Decidable (RowInvalid rows row selector) := by
  unfold RowInvalid; infer_instance

def validateRows (host : FleetHost) (rows : Nat) :
    (unique : List String) → List (FleetVmDesiredResource × FleetVmContainer) → Except String Unit
  | _, [] => .ok ()
  | unique, (row, selector) :: rest => do
      rejectIf (RowInvalid rows row selector ∨ selector.composeService ∈ unique) "VM_GRAPH_RESOURCE_INVALID"
      validateConfigTemplate selector.composeService row.configTemplateSha256
      validateDependencies host selector.composeService [] row.dependencies
      validateRows host rows (selector.composeService :: unique) rest

/-- The rows in an order in which dependencies come first. -/
def FleetVmDesiredGraph.settled (graph : FleetVmDesiredGraph) : Option (List FleetVmDesiredResource) :=
  settle FleetVmDesiredResource.service FleetVmDesiredResource.dependencies graph.resources []

/-- A graph has exactly the registered containers, and no cycles. -/
def validateVmDesiredGraph (graph : FleetVmDesiredGraph) (host : FleetHost) : Except String Unit := do
  rejectIf (ScopeInvalid graph host) "VM_GRAPH_SCOPE_INVALID"
  let membership ← validateNetworks host (composeProject host) [] [] graph.networks
  rejectIf (membership.length ≠ host.vmContainers.length) "VM_GRAPH_NETWORK_MEMBERSHIP_INCOMPLETE"
  validateRows host graph.resources.length [] (graph.resources.zip host.vmContainers)
  let _ ← okOr graph.settled "VM_GRAPH_DEPENDENCY_CYCLE"
  pure ()

/-! ## What the loops establish -/

variable {service : String} {membership result : List String} {u : Unit}
variable {graph : FleetVmDesiredGraph} {host : FleetHost}

theorem registered_iff : registered host service = true ↔
    service ∈ host.vmContainers.map (·.composeService) := by
  simp [registered]

theorem validateMembers_eq_ok {members services : List String} :
    validateMembers host members membership services = .ok result ↔
      (∀ s ∈ services, registered host s = true ∧ s ∉ members ∧ s ∉ membership) ∧ services.Nodup ∧
        result = services.reverse ++ membership := by
  induction services generalizing members membership with
  | nil => simpa [validateMembers] using eq_comm
  | cons s rest ih =>
    simp only [validateMembers, ok_iff, ih, List.mem_cons, List.nodup_cons, List.reverse_cons,
      List.append_assoc, List.singleton_append, forall_eq_or_imp, not_or, not_not]
    constructor
    · rintro ⟨⟨hreg, hmem, hship⟩, hrest, hnodup, rfl⟩
      exact ⟨⟨⟨hreg, hmem, hship⟩, fun t ht => ⟨(hrest t ht).1, (hrest t ht).2.1.2, (hrest t ht).2.2.2⟩⟩,
        ⟨fun hs => (hrest s hs).2.1.1 rfl, hnodup⟩, rfl⟩
    · rintro ⟨⟨hhead, hrest⟩, ⟨hfresh, hnodup⟩, rfl⟩
      refine ⟨hhead, fun t ht => ?_, hnodup, rfl⟩
      have hne : t ≠ s := fun h => hfresh (h ▸ ht)
      exact ⟨(hrest t ht).1, ⟨hne, (hrest t ht).2.1⟩, ⟨hne, (hrest t ht).2.2⟩⟩

/-- What the pass over the networks establishes, with the networks seen before it. -/
structure NetworksValid (host : FleetHost) (project : String) (names membership : List String)
    (networks : List FleetVmDesiredNetwork) : Prop where
  scope : ∀ n ∈ networks, ¬ NetworkScopeInvalid project n
  attached : ∀ n ∈ networks, n.attachedServices ≠ []
  names_new : ∀ n ∈ networks, n.networkName ∉ names
  names_nodup : (networks.map (·.networkName)).Nodup
  services : ∀ s ∈ networks.flatMap (·.attachedServices), registered host s = true ∧ s ∉ membership
  services_nodup : (networks.flatMap (·.attachedServices)).Nodup

theorem validateNetworks_eq_ok {project : String} {names : List String}
    {networks : List FleetVmDesiredNetwork} :
    validateNetworks host project names membership networks = .ok result ↔
      NetworksValid host project names membership networks ∧
        result = (networks.flatMap (·.attachedServices)).reverse ++ membership := by
  induction networks generalizing names membership with
  | nil =>
    constructor
    · intro h
      exact ⟨⟨by simp, by simp, by simp, by simp, by simp, by simp⟩, by
          simpa [validateNetworks, eq_comm] using h⟩
    · rintro ⟨-, rfl⟩
      rfl
  | cons n rest ih =>
    simp only [validateNetworks, ok_iff, validateMembers_eq_ok, ih, not_or]
    constructor
    · rintro ⟨⟨hscope, hname, hatt⟩, _, ⟨hsvc, hnodup, rfl⟩, hv, rfl⟩
      refine ⟨⟨?_, ?_, ?_, ?_, ?_, ?_⟩, by simp⟩
      · simpa using ⟨hscope, hv.scope⟩
      · simpa using ⟨hatt, hv.attached⟩
      · simp only [List.forall_mem_cons]
        exact ⟨hname, fun m hm hmem => hv.names_new m hm (.tail _ hmem)⟩
      · simp only [List.map_cons, List.nodup_cons]
        refine ⟨fun hmem => ?_, hv.names_nodup⟩
        obtain ⟨m, hm, heq⟩ := List.mem_map.mp hmem
        exact hv.names_new m hm (by rw [heq]; exact (.head _))
      · intro s hs
        rw [List.flatMap_cons] at hs
        rcases List.mem_append.mp hs with hs | hs
        · exact ⟨(hsvc s hs).1, (hsvc s hs).2.2⟩
        · obtain ⟨hreg, hfresh⟩ := hv.services s hs
          exact ⟨hreg, fun hmem => hfresh (List.mem_append_right _ hmem)⟩
      · rw [List.flatMap_cons]
        refine List.Nodup.append hnodup hv.services_nodup fun s hs hs' => ?_
        exact (hv.services s hs').2 (List.mem_append_left _ (List.mem_reverse.mpr hs))
    · rintro ⟨hv, rfl⟩
      have hflat : ∀ s ∈ n.attachedServices, s ∈ (n :: rest).flatMap (·.attachedServices) := fun s hs => by
        rw [List.flatMap_cons]; exact List.mem_append_left _ hs
      have hflatNodup := hv.services_nodup
      rw [List.flatMap_cons] at hflatNodup
      obtain ⟨hnodup, hrest, hdis⟩ := List.nodup_append.mp hflatNodup
      have hnamesNodup := hv.names_nodup
      rw [List.map_cons] at hnamesNodup
      obtain ⟨hnew, hnames⟩ := List.nodup_cons.mp hnamesNodup
      refine ⟨⟨hv.scope n (.head _), hv.names_new n (.head _),
        hv.attached n (.head _)⟩, _, ⟨fun s hs => ?_, hnodup, rfl⟩, ⟨?_, ?_, ?_, ?_, ?_, ?_⟩, by simp⟩
      · obtain ⟨hreg, hship⟩ := hv.services s (hflat s hs)
        exact ⟨hreg, List.not_mem_nil, hship⟩
      · exact fun m hm => hv.scope m (.tail _ hm)
      · exact fun m hm => hv.attached m (.tail _ hm)
      · intro m hm hmem
        rcases List.mem_cons.mp hmem with heq | hmem
        · exact hnew (List.mem_map.mpr ⟨m, hm, heq⟩)
        · exact hv.names_new m (.tail _ hm) hmem
      · exact hnames
      · intro s hs
        obtain ⟨hreg, hship⟩ := hv.services s (by rw [List.flatMap_cons]; exact List.mem_append_right _ hs)
        refine ⟨hreg, fun hmem => ?_⟩
        rcases List.mem_append.mp hmem with hmem | hmem
        · exact hdis s (List.mem_reverse.mp hmem) s hs rfl
        · exact hship hmem
      · exact hrest

theorem validateConfigTemplate_eq_ok {sha : Bytes} :
    validateConfigTemplate service sha = .ok u ↔
      (isGateway service → ¬ digestMalformed sha) ∧ (service = "warp-egress" → sha = []) ∧
        (sha ≠ [] → ¬ digestMalformed sha) := by
  unfold validateConfigTemplate
  split_ifs with h₁ h₂ h₃ <;> simp_all

theorem validateDependencies_eq_ok {seen deps : List String} :
    validateDependencies host service seen deps = .ok u ↔
      (∀ d ∈ deps, d ≠ service ∧ registered host d = true ∧ d ∉ seen) ∧ deps.Nodup := by
  induction deps generalizing seen with
  | nil => simp [validateDependencies]
  | cons d rest ih =>
    simp only [validateDependencies, ok_iff, ih, List.nodup_cons, List.forall_mem_cons, not_or, not_not]
    constructor
    · rintro ⟨hhead, hrest, hnodup⟩
      exact ⟨⟨hhead, fun t ht => ⟨(hrest t ht).1, (hrest t ht).2.1,
        fun hmem => (hrest t ht).2.2 (.tail _ hmem)⟩⟩,
        fun hd => (hrest d hd).2.2 (.head _), hnodup⟩
    · rintro ⟨⟨hhead, hrest⟩, hfresh, hnodup⟩
      refine ⟨hhead, fun t ht => ⟨(hrest t ht).1, (hrest t ht).2.1, ?_⟩, hnodup⟩
      intro hmem
      rcases List.mem_cons.mp hmem with rfl | hmem
      · exact hfresh ht
      · exact (hrest t ht).2.2 hmem

/-- The checks of one row other than where its dependencies lead. -/
structure RowValid (rows : Nat) (row : FleetVmDesiredResource) (selector : FleetVmContainer) : Prop where
  identity : ¬ RowInvalid rows row selector
  config : validateConfigTemplate selector.composeService row.configTemplateSha256 = .ok ()
  dependencies_nodup : row.dependencies.Nodup

theorem validateRows_eq_ok {rows : Nat} {unique : List String}
    {pairs : List (FleetVmDesiredResource × FleetVmContainer)} :
    validateRows host rows unique pairs = .ok u ↔
      (∀ p ∈ pairs, RowValid rows p.1 p.2) ∧
        (∀ p ∈ pairs, ∀ d ∈ p.1.dependencies, d ≠ p.2.composeService ∧ registered host d = true) ∧
        (∀ p ∈ pairs, p.2.composeService ∉ unique) ∧ (pairs.map (·.2.composeService)).Nodup := by
  induction pairs generalizing unique with
  | nil => simp [validateRows]
  | cons p rest ih =>
    obtain ⟨row, selector⟩ := p
    simp only [validateRows, ok_iff, validateDependencies_eq_ok, ih, List.map_cons, List.nodup_cons,
      List.forall_mem_cons, not_or, List.not_mem_nil, not_false_eq_true, and_true]
    constructor
    · rintro ⟨⟨hrow, hnew⟩, hconfig, ⟨hdeps, hnodup⟩, hrows, hrest, hunique, hservices⟩
      refine ⟨⟨⟨hrow, hconfig, hnodup⟩, hrows⟩, ⟨hdeps, hrest⟩,
        ⟨hnew, fun p hp hmem => hunique p hp (.tail _ hmem)⟩, fun hmem => ?_, hservices⟩
      obtain ⟨p, hp, heq⟩ := List.mem_map.mp hmem
      exact hunique p hp (by rw [heq]; exact (.head _))
    · rintro ⟨⟨hv, hrows⟩, ⟨hdeps, hrest⟩, ⟨hnew, hunique⟩, hfresh, hservices⟩
      refine ⟨⟨hv.identity, hnew⟩, hv.config, ⟨hdeps, hv.dependencies_nodup⟩, hrows, hrest,
        fun p hp hmem => ?_, hservices⟩
      rcases List.mem_cons.mp hmem with heq | hmem
      · exact hfresh (List.mem_map.mpr ⟨p, hp, heq⟩)
      · exact hunique p hp hmem

/-! ## Acceptance -/

/-- Every check of the validator other than the two on where dependencies lead: that each is a registered
    service other than the row's own, and that the sweep over the rows settles. -/
structure OtherChecks (graph : FleetVmDesiredGraph) (host : FleetHost) : Prop where
  scope : ¬ ScopeInvalid graph host
  networks : NetworksValid host (composeProject host) [] [] graph.networks
  membership : (graph.networks.flatMap (·.attachedServices)).length = host.vmContainers.length
  rows : ∀ p ∈ graph.resources.zip host.vmContainers, RowValid graph.resources.length p.1 p.2
  services : ((graph.resources.zip host.vmContainers).map (·.2.composeService)).Nodup

theorem validateVmDesiredGraph_eq_ok :
    validateVmDesiredGraph graph host = .ok u ↔
      OtherChecks graph host ∧
        (∀ p ∈ graph.resources.zip host.vmContainers, ∀ d ∈ p.1.dependencies,
          d ≠ p.2.composeService ∧ registered host d = true) ∧ graph.settled.isSome := by
  simp only [validateVmDesiredGraph, ok_iff, validateNetworks_eq_ok, validateRows_eq_ok, not_not,
    List.append_nil, List.not_mem_nil, not_false_eq_true, implies_true, true_and, Option.isSome_iff_exists]
  constructor
  · rintro ⟨hscope, _, ⟨hnetworks, rfl⟩, hmember, ⟨hrows, hdeps, hservices⟩, order, hsettled, -⟩
    exact ⟨⟨hscope, hnetworks, by simpa using hmember, hrows, hservices⟩, hdeps, order, hsettled⟩
  · rintro ⟨hv, hdeps, order, hsettled⟩
    exact ⟨hv.scope, _, ⟨hv.networks, rfl⟩, by simpa using hv.membership,
      ⟨hv.rows, hdeps, hv.services⟩, order, hsettled, rfl⟩

/-- An accepted graph. -/
structure ValidGraph (graph : FleetVmDesiredGraph) (host : FleetHost) :
    Prop extends OtherChecks graph host where
  dependencies : ∀ p ∈ graph.resources.zip host.vmContainers, ∀ d ∈ p.1.dependencies,
    d ≠ p.2.composeService ∧ registered host d = true
  settles : graph.settled.isSome

theorem validGraph_iff : validateVmDesiredGraph graph host = .ok u ↔ ValidGraph graph host := by
  rw [validateVmDesiredGraph_eq_ok]
  exact ⟨fun ⟨hother, hdeps, hsettles⟩ => ⟨hother, hdeps, hsettles⟩,
    fun h => ⟨h.toOtherChecks, h.dependencies, h.settles⟩⟩

namespace OtherChecks

section

variable (h : OtherChecks graph host)
include h

theorem length_eq : graph.resources.length = host.vmContainers.length := by
  have hscope := h.scope
  simp only [ScopeInvalid, not_or, not_not] at hscope
  exact hscope.2.2.2.2.1

/-- The rows are the registered containers, in registry order. -/
theorem resources : graph.resources.map (·.resource) = host.vmContainers.map some := by
  refine List.ext_getElem (by simp [h.length_eq]) fun i hi hi' => ?_
  simp only [List.length_map] at hi hi'
  have hmem : (graph.resources[i], host.vmContainers[i]) ∈ graph.resources.zip host.vmContainers := by
    rw [List.mem_iff_getElem]
    exact ⟨i, by simp [h.length_eq] at hi ⊢; omega, by simp⟩
  have hrow := (h.rows _ hmem).identity
  simp only [RowInvalid, not_or, not_not] at hrow
  simpa using hrow.1

theorem services_eq :
    graph.resources.map FleetVmDesiredResource.service = host.vmContainers.map (·.composeService) := by
  have hmap :=
    congrArg (List.map fun r : Option FleetVmContainer => (r.map (·.composeService)).getD "") h.resources
  simp only [List.map_map] at hmap
  exact hmap

theorem services_nodup : (host.vmContainers.map (·.composeService)).Nodup := by
  have hzip : (graph.resources.zip host.vmContainers).map (·.2.composeService) =
      host.vmContainers.map (·.composeService) := by
    have hsnd : (graph.resources.zip host.vmContainers).map Prod.snd = host.vmContainers :=
      List.map_snd_zip (by simp [h.length_eq])
    calc (graph.resources.zip host.vmContainers).map (·.2.composeService)
        = ((graph.resources.zip host.vmContainers).map Prod.snd).map (·.composeService) := by
          rw [List.map_map]; rfl
      _ = host.vmContainers.map (·.composeService) := by rw [hsnd]
  exact hzip ▸ h.services

/-- A row and its container. -/
theorem row_of_mem {row : FleetVmDesiredResource} (hrow : row ∈ graph.resources) :
    ∃ selector, (row, selector) ∈ graph.resources.zip host.vmContainers ∧ row.resource = some selector ∧
      row.service = selector.composeService := by
  obtain ⟨i, hi, rfl⟩ := List.mem_iff_getElem.mp hrow
  have hi' : i < host.vmContainers.length := h.length_eq ▸ hi
  have hmem : (graph.resources[i], host.vmContainers[i]) ∈ graph.resources.zip host.vmContainers :=
    List.mem_iff_getElem.mpr ⟨i, by simp; omega, by simp⟩
  have hvalid := (h.rows _ hmem).identity
  simp only [RowInvalid, not_or, not_not] at hvalid
  exact ⟨_, hmem, hvalid.1, by simp [FleetVmDesiredResource.service, hvalid.1]⟩

/-- The networks cover the registered services. -/
theorem attached_of_container {c : FleetVmContainer} (hc : c ∈ host.vmContainers) :
    ∃ n ∈ graph.networks, c.composeService ∈ n.attachedServices := by
  have hsub : graph.networks.flatMap (·.attachedServices) ⊆ host.vmContainers.map (·.composeService) :=
    fun s hs =>
    registered_iff.mp (h.networks.services s hs).1
  have hperm := (List.subperm_of_subset h.networks.services_nodup hsub).perm_of_length_le
    (by simp [h.membership])
  have hmem := hperm.mem_iff.mpr (List.mem_map_of_mem hc)
  simpa using hmem

end

variable {n : FleetVmDesiredNetwork}

theorem project_of_network (h : OtherChecks graph host) (hn : n ∈ graph.networks) :
    n.composeProject = composeProject host := by
  have hscope := h.networks.scope n hn
  simp only [NetworkScopeInvalid, not_or, not_not] at hscope
  exact hscope.1

theorem slash_not_mem_networkName (h : OtherChecks graph host) (hn : n ∈ graph.networks) :
    '/' ∉ n.networkName.toList := by
  have hscope := h.networks.scope n hn
  simp only [NetworkScopeInvalid, not_or, not_not] at hscope
  exact not_mem_of_bytes hscope.2.2.2.2.1 (by decide)

end OtherChecks

/-- The dependency relation between the services of a graph. -/
def FleetVmDesiredGraph.DependsOn (graph : FleetVmDesiredGraph) : String → String → Prop :=
  Foundation.DependsOn FleetVmDesiredResource.service FleetVmDesiredResource.dependencies graph.resources

/-- Every dependency is the service of a row. -/
def FleetVmDesiredGraph.Closed (graph : FleetVmDesiredGraph) : Prop :=
  ClosedDeps FleetVmDesiredResource.service FleetVmDesiredResource.dependencies graph.resources

theorem settled_isSome_iff :
    graph.settled.isSome ↔ (graph.resources.map FleetVmDesiredResource.service).Nodup ∧ graph.Closed ∧
      Acyclic graph.DependsOn := settle_isSome_iff

/-- Once the other checks pass, the checks on dependencies ask for a closed acyclic relation. -/
theorem dependencies_iff (h : OtherChecks graph host) :
    ((∀ p ∈ graph.resources.zip host.vmContainers, ∀ d ∈ p.1.dependencies,
      d ≠ p.2.composeService ∧ registered host d = true) ∧ graph.settled.isSome) ↔
      graph.Closed ∧ Acyclic graph.DependsOn := by
  have hnodup : (graph.resources.map FleetVmDesiredResource.service).Nodup :=
    h.services_eq ▸ h.services_nodup
  rw [settled_isSome_iff]
  constructor
  · rintro ⟨-, -, hclosed, hacyclic⟩
    exact ⟨hclosed, hacyclic⟩
  · rintro ⟨hclosed, hacyclic⟩
    refine ⟨fun p hp d hd => ?_, hnodup, hclosed, hacyclic⟩
    obtain ⟨row, selector⟩ := p
    have hrow : row ∈ graph.resources := (List.of_mem_zip hp).1
    have hvalid := (h.rows _ hp).identity
    simp only [RowInvalid, not_or, not_not] at hvalid
    have hservice : row.service = selector.composeService := by
      simp [FleetVmDesiredResource.service, hvalid.1]
    refine ⟨fun heq => ?_, ?_⟩
    · -- a row that depends on itself is a cycle of length one
      exact hacyclic d (.single ⟨row, hrow, hservice.trans heq.symm, hd⟩)
    · rw [registered_iff, ← h.services_eq]
      exact hclosed row hrow d hd

/-- **Exactness on cycles.** The validator accepts a graph exactly when its other checks pass and the
    dependency relation is closed over the rows and acyclic. -/
theorem accepts_iff_closed_and_acyclic (graph : FleetVmDesiredGraph) (host : FleetHost) :
    validateVmDesiredGraph graph host = .ok () ↔
      OtherChecks graph host ∧ graph.Closed ∧ Acyclic graph.DependsOn := by
  rw [validateVmDesiredGraph_eq_ok]
  exact and_congr_right fun h => dependencies_iff h

end EdgePlatform.Fleet
