import EdgePlatform.Fleet.Hierarchy

/-!
# `EdgePlatform.Fleet.Reconcile` — the policy difference between an installed and a desired graph

`propose_vm_graph_reconcile` compares two graphs of one host row by row and reports what changes in each row.
What the report is for is said by `applyReconcile`: applied to the installed graph, it gives the desired one.
-/

namespace EdgePlatform.Fleet

open Foundation Foundation.Wire
open Host (FleetHost FleetVmContainer)

/-! ## Messages -/

inductive FleetVmPolicyChange
  | unspecified | noChange | configTemplateReplaced | imageReplaced
deriving DecidableEq

instance : ProtoEnum FleetVmPolicyChange where
  all := [.unspecified, .noChange, .configTemplateReplaced, .imageReplaced]
  code := FleetVmPolicyChange.ctorIdx

structure FleetVmGraphResourceChange where
  resource : Option FleetVmContainer
  change : Int32
  expectedImageRef : String
  expectedConfigTemplateSha256 : Bytes
  resourceId : String
  resourceKind : Int32
deriving DecidableEq

structure FleetVmGraphReconcile where
  schemaVersion : UInt32
  machineId : String
  resources : List FleetVmGraphResourceChange
  ownerAttested : Bool
  mutationAuthorized : Bool
deriving DecidableEq

/-! ## The proposal -/

def policyChange (before after : FleetVmDesiredResource) : FleetVmPolicyChange :=
  if before.imageRef ≠ after.imageRef then .imageReplaced
  else if before.configTemplateSha256 ≠ after.configTemplateSha256 then .configTemplateReplaced
  else .noChange

/-- The node a change addresses. -/
def changeTarget (host : FleetHost) (selector : FleetVmContainer) (change : FleetVmPolicyChange) :
    Except String (String × FleetResourceKind) :=
  if change = .configTemplateReplaced then
    .ok (vmConfigResourceId selector.composeProject selector.composeService, .singboxConfig)
  else do
    let id ← vmContainerResourceId host selector
    pure (id, .dockerContainer)

/-- The parent a node of the kind must have. -/
def expectedParent (host : FleetHost) (selector : FleetVmContainer) (kind : FleetResourceKind) :
    Except String String :=
  if kind = .singboxConfig then vmContainerResourceId host selector else .ok (vmHostResourceId host)

def reconcileRow (host : FleetHost) (desired : FleetResourceHierarchy)
    (rows : FleetVmDesiredResource × FleetVmDesiredResource) : Except String FleetVmGraphResourceChange := do
  let (before, after) := rows
  rejectIf (before.resource ≠ after.resource ∨ before.dependencies ≠ after.dependencies)
    "VM_RECONCILE_DEPENDENCY_OR_IDENTITY_CHANGED"
  rejectIf (before.imageRef ≠ after.imageRef ∧ before.configTemplateSha256 ≠ after.configTemplateSha256)
    "VM_RECONCILE_COMBINED_IMAGE_AND_CONFIG_UNSUPPORTED"
  let selector ← okOr after.resource "VM_RECONCILE_RESOURCE_MISSING"
  let (resourceId, kind) ← changeTarget host selector (policyChange before after)
  let node ← okOr (desired.nodes.find? (·.resourceId = resourceId)) "VM_RECONCILE_RESOURCE_NODE_NOT_IN_GRAPH"
  rejectIf (node.kind ≠ toI32 kind ∨ node.owner ≠ toI32 FleetResourceOwner.vmRootAgent)
    "VM_RECONCILE_NODE_OWNER_OR_PARENT_INVALID"
  let parent ← expectedParent host selector kind
  rejectIf (node.parentResourceId ≠ parent) "VM_RECONCILE_NODE_OWNER_OR_PARENT_INVALID"
  pure { resource := after.resource, change := toI32 (policyChange before after),
         expectedImageRef := after.imageRef, expectedConfigTemplateSha256 := after.configTemplateSha256,
         resourceId, resourceKind := toI32 kind }

/-- The rows that use an image before the change. -/
def consumers (rows : List (FleetVmDesiredResource × FleetVmDesiredResource)) (image : String) :
    List (FleetVmDesiredResource × FleetVmDesiredResource) := rows.filter (·.1.imageRef = image)

/-- An image with several consumers that do not all move to one image. -/
def SharedImageSplit (rows : List (FleetVmDesiredResource × FleetVmDesiredResource)) : Prop :=
  ∃ p ∈ rows, 1 < (consumers rows p.1.imageRef).length ∧
    ((consumers rows p.1.imageRef).map (·.2.imageRef)).eraseDups.length ≠ 1

instance (rows : List (FleetVmDesiredResource × FleetVmDesiredResource)) :
    Decidable (SharedImageSplit rows) := by
  unfold SharedImageSplit; infer_instance

/-- The changes that lead from the installed graph to the desired one. -/
def proposeVmGraphReconcile (host : FleetHost) (installed desired : FleetVmDesiredGraph) :
    Except String FleetVmGraphReconcile := do
  let installedHierarchy ← deriveVmResourceHierarchy host installed
  let desiredHierarchy ← deriveVmResourceHierarchy host desired
  rejectIf (installedHierarchy.nodes.length ≠ desiredHierarchy.nodes.length)
    "VM_RECONCILE_HIERARCHY_SCOPE_CHANGED"
  rejectIf (installed.networks ≠ desired.networks) "VM_RECONCILE_NETWORK_POLICY_REQUIRES_NATIVE_HANDLER"
  let rows := installed.resources.zip desired.resources
  let resources ← rows.mapM (reconcileRow host desiredHierarchy)
  rejectIf (SharedImageSplit rows) "VM_RECONCILE_SHARED_IMAGE_PARTIAL_REPLACE"
  pure { schemaVersion := 1, machineId := host.machineId, resources, ownerAttested := false,
         mutationAuthorized := false }

/-! ## What a change list means -/

/-- One reported change, carried out on a row. -/
def applyChange (row : FleetVmDesiredResource) (c : FleetVmGraphResourceChange) : FleetVmDesiredResource :=
  if c.change = toI32 FleetVmPolicyChange.imageReplaced then { row with imageRef := c.expectedImageRef }
  else if c.change = toI32 FleetVmPolicyChange.configTemplateReplaced then
    { row with configTemplateSha256 := c.expectedConfigTemplateSha256 }
  else row

/-- The change list carried out on a graph: each row takes the entry of its container. -/
def applyReconcile (installed : FleetVmDesiredGraph) (plan : FleetVmGraphReconcile) : FleetVmDesiredGraph :=
  { installed with resources := installed.resources.map fun row =>
      match plan.resources.find? (·.resource = row.resource) with
      | some c => applyChange row c
      | none => row }

/-! ## Correctness -/

/-- What a reported row is. -/
structure Reported (before after : FleetVmDesiredResource) (c : FleetVmGraphResourceChange) : Prop where
  resource : before.resource = after.resource
  dependencies : before.dependencies = after.dependencies
  single : before.imageRef = after.imageRef ∨ before.configTemplateSha256 = after.configTemplateSha256
  entry : c.resource = after.resource
  change : c.change = toI32 (policyChange before after)
  image : c.expectedImageRef = after.imageRef
  config : c.expectedConfigTemplateSha256 = after.configTemplateSha256

variable {c : FleetVmGraphResourceChange} {before after : List FleetVmDesiredResource}
variable {entries : List FleetVmGraphResourceChange}

theorem reported_of_reconcileRow {host : FleetHost} {hierarchy : FleetResourceHierarchy}
    {rows : FleetVmDesiredResource × FleetVmDesiredResource}
    (h : reconcileRow host hierarchy rows = .ok c) : Reported rows.1 rows.2 c := by
  obtain ⟨before, after⟩ := rows
  simp only [reconcileRow, ok_iff, not_or, not_not, not_and] at h
  obtain ⟨⟨hresource, hdeps⟩, hcombined, _, -, _, -, _, -, -, _, -, -, hc⟩ := h
  obtain rfl := Except.ok.inj hc
  refine ⟨hresource, hdeps, ?_, rfl, rfl, rfl, rfl⟩
  by_cases himage : before.imageRef = after.imageRef
  · exact .inl himage
  · exact .inr (hcombined himage)

/-- The reported change turns the installed row into the desired one. -/
theorem Reported.apply {before after : FleetVmDesiredResource}
    (h : Reported before after c) : applyChange before c = after := by
  obtain ⟨resource, image, deps, config⟩ := before
  obtain ⟨resource', image', deps', config'⟩ := after
  obtain ⟨rfl, rfl, hsingle, -, hchange, rfl, rfl⟩ := h
  simp only [applyChange, hchange, policyChange, toI32_inj] at hsingle ⊢
  by_cases himage : image = c.expectedImageRef
  · by_cases hconfig : config = c.expectedConfigTemplateSha256
    · simp [himage, hconfig]
    · simp [himage, hconfig]
  · have hconfig := hsingle.resolve_left himage
    simp [himage, hconfig]

/-- In a list of entries without repeated containers, each entry is found by its container. -/
theorem find_entry (hnodup : (entries.map (·.resource)).Nodup)
    (hc : c ∈ entries) : entries.find? (·.resource = c.resource) = some c := by
  induction entries with
  | nil => cases hc
  | cons e entries ih =>
    obtain ⟨hfresh, hrest⟩ := List.nodup_cons.mp hnodup
    rcases List.mem_cons.mp hc with rfl | hc
    · simp
    · have hne : e.resource ≠ c.resource := fun heq => hfresh (List.mem_map.mpr ⟨c, hc, heq.symm⟩)
      rw [List.find?_cons_of_neg (by simpa using hne)]
      exact ih hrest hc

/-- Rows that are all reported, with the rows they lead to. -/
theorem map_apply_of_reported {all : List FleetVmGraphResourceChange} (hnodup : (all.map (·.resource)).Nodup)
    (hsub : ∀ c ∈ entries, c ∈ all) (hlen : before.length = after.length)
    (h : List.Forall₂ (fun rows c => Reported rows.1 rows.2 c) (before.zip after) entries) :
    before.map (fun row => match all.find? (·.resource = row.resource) with
      | some c => applyChange row c
      | none => row) = after := by
  induction before generalizing after entries with
  | nil => simpa [eq_comm] using hlen
  | cons row before ih =>
    cases after with
    | nil => cases hlen
    | cons row' after =>
      rw [List.zip_cons_cons] at h
      cases h with
      | cons hrow hrest =>
        rename_i c entries
        have hfind : all.find? (·.resource = row.resource) = some c := by
          rw [hrow.resource, ← hrow.entry]
          exact find_entry hnodup (hsub c (.head _))
        have happly : applyChange row c = row' := hrow.apply
        rw [List.map_cons, hfind, ih (fun d hd => hsub d (.tail _ hd)) (Nat.succ.inj hlen) hrest]
        exact congrArg (· :: after) happly

theorem map_resource_of_reported (hlen : before.length = after.length)
    (h : List.Forall₂ (fun rows c => Reported rows.1 rows.2 c) (before.zip after) entries) :
    entries.map (·.resource) = after.map (·.resource) := by
  induction before generalizing after entries with
  | nil =>
    obtain rfl : after = [] := List.length_eq_zero_iff.mp hlen.symm
    cases h
    rfl
  | cons row before ih =>
    cases after with
    | nil => cases hlen
    | cons row' after =>
      rw [List.zip_cons_cons] at h
      cases h with
      | cons hrow hrest => rw [List.map_cons, List.map_cons, hrow.entry, ih (Nat.succ.inj hlen) hrest]

theorem propose_eq_ok {host : FleetHost} {installed desired : FleetVmDesiredGraph}
    {plan : FleetVmGraphReconcile} (h : proposeVmGraphReconcile host installed desired = .ok plan) :
    ValidGraph installed host ∧ ValidGraph desired host ∧ installed.networks = desired.networks ∧
      List.Forall₂ (fun rows c => Reported rows.1 rows.2 c) (installed.resources.zip desired.resources)
        plan.resources := by
  simp only [proposeVmGraphReconcile, ok_iff, Except.mapM_eq_ok, not_not] at h
  obtain ⟨_, hinstalled, _, hdesired, -, hnetworks, _, hrows, -, hplan⟩ := h
  obtain rfl := Except.ok.inj hplan
  exact ⟨(derive_eq_ok.mp hinstalled).1, (derive_eq_ok.mp hdesired).1, hnetworks,
    hrows.imp fun _ _ hrow => reported_of_reconcileRow hrow⟩

/-- **Reconcile correctness.** A proposed change list has one entry per registered container in registry
    order, turns the installed graph into the desired one, and is made only between graphs with the same
    identities, dependencies and networks whose rows do not change in image and configuration at once. -/
theorem reconcile_reaches_desired {host : FleetHost} {installed desired : FleetVmDesiredGraph}
    {plan : FleetVmGraphReconcile} (h : proposeVmGraphReconcile host installed desired = .ok plan) :
    applyReconcile installed plan = desired ∧
      plan.resources.map (·.resource) = host.vmContainers.map some ∧
      installed.resources.map (·.resource) = desired.resources.map (·.resource) ∧
      installed.resources.map (·.dependencies) = desired.resources.map (·.dependencies) ∧
      installed.networks = desired.networks ∧
      ∀ rows ∈ installed.resources.zip desired.resources,
        rows.1.imageRef = rows.2.imageRef ∨ rows.1.configTemplateSha256 = rows.2.configTemplateSha256 := by
  obtain ⟨hinstalled, hdesired, hnetworks, hrows⟩ := propose_eq_ok h
  have hlen : installed.resources.length = desired.resources.length :=
    hinstalled.length_eq.trans hdesired.length_eq.symm
  have hentries : plan.resources.map (·.resource) = host.vmContainers.map some :=
    (map_resource_of_reported hlen hrows).trans hdesired.resources
  have hnodup : (plan.resources.map (·.resource)).Nodup := by
    rw [hentries]
    exact (List.Nodup.of_map _ hdesired.services_nodup).map (Option.some_injective _)
  have hresources := map_apply_of_reported hnodup (fun _ hc => hc) hlen hrows
  refine ⟨?_, hentries, hinstalled.resources.trans hdesired.resources.symm, ?_, hnetworks,
    fun rows hmem => ?_⟩
  · -- what the two graphs have outside the rows is fixed by the host
    have hscope := hinstalled.scope
    have hscope' := hdesired.scope
    simp only [ScopeInvalid, not_or, not_not] at hscope hscope'
    obtain ⟨schema, machine, resources, networks⟩ := desired
    obtain ⟨schema', machine', resources', networks'⟩ := installed
    simp only [applyReconcile, FleetVmDesiredGraph.mk.injEq]
    exact ⟨hscope.2.1.trans hscope'.2.1.symm, hscope.2.2.1.trans hscope'.2.2.1.symm, hresources, hnetworks⟩
  · refine List.ext_getElem (by simpa using hlen) fun i hi hi' => ?_
    simp only [List.length_map] at hi hi'
    have hmem : (installed.resources[i], desired.resources[i]) ∈ installed.resources.zip desired.resources :=
      List.mem_iff_getElem.mpr ⟨i, by simp; omega, by simp⟩
    obtain ⟨c, -, hrow⟩ := exists_of_forall₂_left hrows hmem
    simpa using hrow.dependencies
  · obtain ⟨c, -, hrow⟩ := exists_of_forall₂_left hrows hmem
    exact hrow.single

namespace ReconcileSample

open HierarchySample

/-- The sample graph with another image for both containers. -/
def replaced : FleetVmDesiredGraph :=
  { graph gateway (egress "edge") with
    resources := (graph gateway (egress "edge")).resources.map fun r =>
      { r with imageRef := "app@sha256:bbbbbbbbbbbbbbbbbbbbbbbbbbbbbbbbbbbbbbbbbbbbbbbbbbbbbbbbbbbbbbbb" } }

end ReconcileSample

open HierarchySample ReconcileSample in
/-- Both containers move to another image. -/
theorem reconcile_replaced_image :
    ∃ plan, proposeVmGraphReconcile (host [gateway, egress "edge"])
      (graph gateway (egress "edge")) replaced = .ok plan ∧
        plan.resources.map (·.change) =
        [toI32 FleetVmPolicyChange.imageReplaced, toI32 FleetVmPolicyChange.imageReplaced] ∧
      applyReconcile (graph gateway (egress "edge")) plan = replaced := by
  have hchanges : (proposeVmGraphReconcile (host [gateway, egress "edge"]) (graph gateway (egress "edge"))
      replaced).toOption.map (fun plan => plan.resources.map (·.change)) =
      some [toI32 FleetVmPolicyChange.imageReplaced, toI32 FleetVmPolicyChange.imageReplaced] := by
    decide +kernel
  cases hrun : proposeVmGraphReconcile (host [gateway, egress "edge"])
    (graph gateway (egress "edge")) replaced with
  | error e => rw [hrun] at hchanges; cases hchanges
  | ok plan =>
    rw [hrun] at hchanges
    exact ⟨plan, rfl, Option.some.inj hchanges, (reconcile_reaches_desired hrun).1⟩

end EdgePlatform.Fleet
