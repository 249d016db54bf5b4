import EdgePlatform.Controller.Vpc
import EdgePlatform.Credential.Bundle
import EdgePlatform.Fleet.Report

/-!
# `EdgePlatform.Controller.Mesh` — the cleanup of a mesh node

`cloudflare_mesh_lifecycle.rs` removes what an environment has in the mesh one action at a time: its routes
first, the node when none is left. The planner looks at the routes of type `warp_connector` only, so a route
of another type, or of none, does not keep the node (`cleanup_owned`).

Errors are modelled by their text; parsing and displaying addresses is the standard library's (`IpText`).
-/

namespace EdgePlatform.Controller.Mesh

open Foundation Fleet
open Credential (isLowerHexText)

/-! ## Networks -/

/-- The network of a CIDR, its host bits cleared. -/
def canonicalNetwork (T : IpText) (value : String) : Except String String := do
  let (address, length) ← okOr (splitOnce value '/') s!"Cloudflare Mesh route {value} must use CIDR notation"
  let address ← okOr (T.parse address)
    s!"invalid Cloudflare Mesh route address {address}: invalid IP address syntax"
  let length ← (parseU8 length).mapError fun err =>
      s!"invalid Cloudflare Mesh route prefix in {value}: {err}"
  let length := length.toNat
  rejectIf (length = 0)
    (s!"default Cloudflare Mesh route {value} is intentionally disabled until the explicit " ++
      "full-Internet PoC gate")
  match address with
  | .v4 ip => do
      rejectIf (32 < length) s!"IPv4 Cloudflare Mesh route prefix must be <= 32: {value}"
      pure (T.display (.v4 (ip &&& BitVec.allOnes 32 <<< (32 - length))) ++ "/" ++ decimal length)
  | .v6 ip => do
      rejectIf (128 < length) s!"IPv6 Cloudflare Mesh route prefix must be <= 128: {value}"
      pure (T.display (.v6 (ip &&& BitVec.allOnes 128 <<< (128 - length))) ++ "/" ++ decimal length)

/-! ## The desired state -/

/-- The node and the routes that are wanted. -/
structure DesiredMeshState where
  schema : UInt32
  accountId : String
  environment : String
  nodeName : String
  routes : List String

/-- The comment on our routes. -/
def DesiredMeshState.ownershipComment (desired : DesiredMeshState) : String :=
  "managed-by-sing-box:line3:" ++ desired.environment

/-- A bounded name. -/
def validateIdentifier (label value : String) (maxLen : Nat) : Except String Unit :=
  rejectIf (value = "" ∨ maxLen < (utf8 value).length ∨
      ¬ value.toList.all fun c => c.isAlphanum || c = '-' || c = '_')
    s!"{label} must be 1..={maxLen} ASCII alphanumeric, '-' or '_' characters"

/-- The loop over the desired networks, with those seen so far. -/
def validateRoutes (T : IpText) : List String → List String → Except String Unit
  | _, [] => .ok ()
  | seen, network :: rest => do
      let canonical ← canonicalNetwork T network
      rejectIf (canonical ≠ network) s!"Cloudflare Mesh route {network} is not canonical; use {canonical}"
      rejectIf (network ∈ seen) s!"duplicate Cloudflare Mesh route {network}"
      validateRoutes T (network :: seen) rest

/-- Names and canonical routes. -/
def DesiredMeshState.validate (T : IpText) (desired : DesiredMeshState) : Except String Unit := do
  rejectIf (desired.schema ≠ 1) s!"unsupported Cloudflare Mesh lifecycle schema {desired.schema}"
  rejectIf (isLowerHexText desired.accountId 32 = false)
    "Cloudflare account_id must be exactly 32 lowercase hexadecimal characters"
  validateIdentifier "environment" desired.environment 64
  validateIdentifier "node_name" desired.nodeName 128
  rejectIf (startsWith desired.nodeName "singbox-line3-" = false)
    "Cloudflare Mesh node_name must start with singbox-line3-"
  rejectIf (100 < (utf8 desired.ownershipComment).length)
    "derived Cloudflare Mesh ownership comment exceeds 100 characters"
  validateRoutes T [] desired.routes

/-! ## Cleanup -/

/-- A node of the provider. -/
structure ObservedMeshNode where
  providerId : String
  name : String
  status : Option String

/-- A route of the provider. -/
structure ObservedMeshRoute where
  providerId : String
  network : String
  tunnelId : String
  tunnelType : Option String
  comment : Option String

/-- What the provider lists. -/
structure MeshObservation where
  nodes : List ObservedMeshNode
  routes : List ObservedMeshRoute

/-- The next deletion. -/
inductive CleanupAction
  | noop
  | deleteRoute (routeId network : String)
  | deleteNode (nodeId : String)

/-- It is authorized by its digest. -/
structure CleanupPlan where
  action : CleanupAction
  destructiveDigest : Option String

def named (desired : DesiredMeshState) (observed : MeshObservation) : List ObservedMeshNode :=
  observed.nodes.filter (·.name == desired.nodeName)

/-- The one node of the name, if any. -/
def selectExactNode (desired : DesiredMeshState) (observed : MeshObservation) :
    Except String (Option ObservedMeshNode) :=
  match named desired observed with
  | [] => .ok none
  | [node] => .ok (some node)
  | found => .error
      (s!"Cloudflare Mesh node {desired.nodeName} is ambiguous: observed {found.length} exact-name " ++
        "matches")

/-- The routes the planner looks at. -/
def connects (node : ObservedMeshNode) (route : ObservedMeshRoute) : Bool :=
  route.tunnelId == node.providerId && route.tunnelType == some "warp_connector"

def checkRoute (T : IpText) (desired : DesiredMeshState) (route : ObservedMeshRoute) :
    Except String Unit := do
  let canonical ← (canonicalNetwork T route.network).mapError fun err =>
    s!"Cloudflare Mesh node {desired.nodeName} returned invalid route {route.providerId}: {err}"
  rejectIf (canonical ≠ route.network)
    s!"Cloudflare Mesh node {desired.nodeName} returned non-canonical route {route.providerId}: {route.network}"

/-- The canonical routes of the node. -/
def exactNodeRoutes (T : IpText) (desired : DesiredMeshState) (observed : MeshObservation)
    (node : ObservedMeshNode) :
    Except String (List ObservedMeshRoute) := do
  let routes := observed.routes.filter (connects node)
  forM routes (checkRoute T desired)
  pure routes

def sorted (routes : List ObservedMeshRoute) : List ObservedMeshRoute := routes.mergeSort fun left right =>
  left.network < right.network || left.network == right.network &&
    decide (left.providerId ≤ right.providerId)

def optional (value : Option String) : Json := value.elim .null .str

/-- The value a cleanup is bound to; the members of an object are in the order of their names. -/
def cleanupMaterial (desired : DesiredMeshState) (observed : MeshObservation)
    (action : CleanupAction) : Json :=
  let nodes := (named desired observed).mergeSort fun left right =>
      decide (left.providerId ≤ right.providerId)
  let routes := sorted (observed.routes.filter fun route => nodes.any (·.providerId == route.tunnelId))
  .obj [("account_id", .str desired.accountId),
    ("action", .obj <| match action with
      | .noop => [("kind", .str "NOOP")]
      | .deleteRoute routeId network =>
        [("kind", .str "DELETE_ROUTE"), ("network", .str network), ("route_id", .str routeId)]
      | .deleteNode nodeId => [("kind", .str "DELETE_NODE"), ("node_id", .str nodeId)]),
    ("environment", .str desired.environment), ("node_name", .str desired.nodeName),
    ("nodes", .arr
      (nodes.map fun node => .obj
        [("name", .str node.name), ("provider_id", .str node.providerId),
          ("status", optional node.status)])),
    ("routes", .arr
      (routes.map fun route => .obj
        [("comment", optional route.comment), ("network", .str route.network),
          ("provider_id", .str route.providerId), ("tunnel_id", .str route.tunnelId),
      ("tunnel_type", optional route.tunnelType)])),
    ("schema", .int desired.schema.toNat)]

/-- The digest of an action and its observation. -/
def cleanupDigest (desired : DesiredMeshState) (observed : MeshObservation)
    (action : CleanupAction) : String :=
  hex (sha256 (utf8 (cleanupMaterial desired observed action).compact))

/-- The action where the node exists, by its routes. -/
def cleanupAction (node : ObservedMeshNode) (routes : List ObservedMeshRoute) : CleanupAction :=
  match sorted routes with
  | route :: _ => .deleteRoute route.providerId route.network
  | [] => .deleteNode node.providerId

/-- Delete a route of ours; without routes, the node. -/
def planCleanup (T : IpText) (desired : DesiredMeshState) (observed : MeshObservation) :
    Except String CleanupPlan := do
  desired.validate T
  match ← selectExactNode desired observed with
  | none => pure ⟨.noop, none⟩
  | some node => do
      let routes ← exactNodeRoutes T desired observed node
      forM routes fun route => rejectIf (route.comment ≠ some desired.ownershipComment)
        (s!"refusing Cloudflare Mesh cleanup because node {desired.nodeName} has foreign route " ++
          s!"{route.providerId} ({route.network})")
      let action := cleanupAction node routes
      pure ⟨action, some (cleanupDigest desired observed action)⟩

variable {T : IpText} {desired : DesiredMeshState} {observed : MeshObservation} {node : ObservedMeshNode}

theorem selectExactNode_eq_some :
    selectExactNode desired observed = .ok (some node) ↔ named desired observed = [node] := by
  unfold selectExactNode
  split <;> simp_all

/-- When there is something to clean up, and what is planned then. -/
theorem planCleanup_some (hnode : named desired observed = [node]) {plan : CleanupPlan} :
    planCleanup T desired observed = .ok plan ↔ desired.validate T = .ok () ∧
      (∀ route ∈ observed.routes, connects node route = true →
        checkRoute T desired route = .ok () ∧ route.comment = some desired.ownershipComment) ∧
      (let action := cleanupAction node (observed.routes.filter (connects node))
       ⟨action, some (cleanupDigest desired observed action)⟩ = plan) := by
  simp only [planCleanup, exactNodeRoutes, selectExactNode_eq_some.mpr hnode, ok_iff, pure_eq_ok,
    Except.forM_eq_ok, Except.ok.injEq, exists_eq_left', List.mem_filter, not_not]
  constructor
  · rintro ⟨hvalid, _, ⟨hchecked, rfl⟩, howned, hplan⟩
    refine ⟨hvalid, fun route hroute hconnects => ⟨hchecked route ⟨hroute, hconnects⟩, ?_⟩, hplan⟩
    exact howned route (List.mem_filter.mpr ⟨hroute, hconnects⟩)
  · rintro ⟨hvalid, hroutes, hplan⟩
    refine ⟨hvalid, _, ⟨fun route h => (hroutes route h.1 h.2).1, rfl⟩, fun route h => ?_, hplan⟩
    obtain ⟨hroute, hconnects⟩ := List.mem_filter.mp h
    exact (hroutes route hroute hconnects).2

theorem planCleanup_none (hnode : named desired observed = []) {plan : CleanupPlan}
    (h : planCleanup T desired observed = .ok plan) : plan.action = .noop := by
  simp only [planCleanup, selectExactNode, hnode, ok_iff] at h
  obtain ⟨-, _, hselected, h⟩ := h
  cases hselected
  rw [← pure_eq_ok.mp h]

/-- What is deleted belongs to the one node of the name: a route of it that the planner looks at, or the node
    itself when there is no such route. -/
theorem cleanupAction_cases (node : ObservedMeshNode) (routes : List ObservedMeshRoute) :
    (∃ route ∈ routes, cleanupAction node routes = .deleteRoute route.providerId route.network) ∨
      routes = [] ∧ cleanupAction node routes = .deleteNode node.providerId := by
  have hmem : ∀ route, route ∈ sorted routes ↔ route ∈ routes := fun route => List.mem_mergeSort
  unfold cleanupAction
  split
  next route rest hsorted => exact .inl ⟨route, (hmem route).mp (hsorted ▸ .head _), rfl⟩
  next hsorted =>
    refine .inr ⟨List.eq_nil_iff_forall_not_mem.mpr fun route hroute => ?_, rfl⟩
    simpa [hsorted] using (hmem route).mpr hroute

/-- **What a cleanup deletes.** A route only if it is a `warp_connector` route of the one node of the desired
    name and carries the ownership comment; the node only if no `warp_connector` route references it. -/
theorem cleanup_owned (T : IpText) (desired : DesiredMeshState) (observed : MeshObservation)
    (plan : CleanupPlan) (h : planCleanup T desired observed = .ok plan) :
    (∀ routeId network, plan.action = .deleteRoute routeId network → ∃ node, ∃ route ∈ observed.routes,
      named desired observed = [node] ∧ route.tunnelId = node.providerId ∧
      route.tunnelType = some "warp_connector" ∧ route.comment = some desired.ownershipComment ∧
      route.providerId = routeId ∧ route.network = network) ∧
    ∀ nodeId, plan.action = .deleteNode nodeId →
      (∃ node, named desired observed = [node] ∧ node.providerId = nodeId) ∧
      ∀ route ∈ observed.routes, route.tunnelId = nodeId → route.tunnelType ≠ some "warp_connector" := by
  rcases hfound : named desired observed with _ | ⟨node, _ | ⟨other, rest⟩⟩
  · rw [planCleanup_none hfound h]
    exact ⟨nofun, nofun⟩
  · obtain ⟨-, hroutes, rfl⟩ := (planCleanup_some hfound).mp h
    rcases cleanupAction_cases node (observed.routes.filter (connects node)) with
      ⟨route, hroute, haction⟩ | ⟨hnone, haction⟩
    · simp only [haction]
      refine ⟨?_, nofun⟩
      rintro _ _ ⟨⟩
      obtain ⟨hmem, hconnects⟩ := List.mem_filter.mp hroute
      obtain ⟨htunnel, htype⟩ : route.tunnelId = node.providerId ∧
        route.tunnelType = some "warp_connector" := by
        simpa [connects] using hconnects
      exact ⟨node, route, hmem, rfl, htunnel, htype, (hroutes route hmem hconnects).2, rfl, rfl⟩
    · simp only [haction]
      refine ⟨nofun, ?_⟩
      rintro _ ⟨⟩
      exact ⟨⟨node, rfl, rfl⟩, by simpa [List.filter_eq_nil_iff, connects] using hnone⟩
  · simp [planCleanup, selectExactNode, hfound, ok_iff] at h

/-- Addresses of version 4. -/
def sampleAddresses : IpText where
  parse s := (parseAddress s).map .v4
  display
    | .v4 n => display n
    | .v6 _ => ""

def sampleState : DesiredMeshState :=
  ⟨1, "0123456789abcdef0123456789abcdef", "prod", "singbox-line3-prod", ["10.8.0.0/24"]⟩

def sampleNode : ObservedMeshNode := ⟨"node-1", "singbox-line3-prod", none⟩

/-- The node with one route of the type. -/
def sampleObservation (tunnelType : String) : MeshObservation :=
  ⟨[sampleNode],
    [⟨"route-1", "10.8.0.0/24", "node-1", some tunnelType, some "managed-by-sing-box:line3:prod"⟩]⟩

/-- A route of the environment is deleted before its node. -/
theorem owned_route_deleted_first : ∃ plan,
    planCleanup sampleAddresses sampleState (sampleObservation "warp_connector") = .ok plan ∧
      plan.action = .deleteRoute "route-1" "10.8.0.0/24" ∧
        ∃ node, ∃ route ∈ (sampleObservation "warp_connector").routes,
        named sampleState (sampleObservation "warp_connector") = [node] ∧ route.tunnelId = node.providerId ∧
        route.comment = some sampleState.ownershipComment := by
  have hfound : named sampleState (sampleObservation "warp_connector") = [sampleNode] := rfl
  have hplan := (planCleanup_some (T := sampleAddresses) hfound).mpr
      ⟨by decide +kernel, by decide +kernel, rfl⟩
  have haction :
      cleanupAction sampleNode ((sampleObservation "warp_connector").routes.filter (connects sampleNode)) =
        .deleteRoute "route-1" "10.8.0.0/24" := by
    simp [cleanupAction, sorted, sampleObservation, sampleNode, connects]
  obtain ⟨node, route, hroute, hnode, htunnel, -, howned, -⟩ := (cleanup_owned _ _ _ _ hplan).1 _ _ haction
  exact ⟨_, hplan, haction, node, route, hroute, hnode, htunnel, howned⟩

/-- The node is deleted although a route of a tunnel of another type references it. -/
theorem node_deleted_under_route : ∃ plan,
    planCleanup sampleAddresses sampleState (sampleObservation "cfd_tunnel") = .ok plan ∧
      plan.action = .deleteNode "node-1" ∧
      ∃ route ∈ (sampleObservation "cfd_tunnel").routes, route.tunnelId = "node-1" := by
  have hfound : named sampleState (sampleObservation "cfd_tunnel") = [sampleNode] := rfl
  have hplan := (planCleanup_some (T := sampleAddresses) hfound).mpr
      ⟨by decide +kernel, by decide +kernel, rfl⟩
  refine ⟨_, hplan, ?_, _, List.mem_singleton_self _, rfl⟩
  simp [cleanupAction, sorted, sampleObservation, sampleNode, connects]

end EdgePlatform.Controller.Mesh
