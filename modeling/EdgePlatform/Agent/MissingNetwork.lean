import EdgePlatform.Agent.OwnershipScope
import Mathlib.Data.List.ReduceOption

/-!
# `EdgePlatform.Agent.MissingNetwork` — which lost network object a repair selects

A signed repair restores one managed route, firewall table or resolver from its installed manifest.
`select_exact_missing_managed_network` reads every manifest back and takes the only one that is missing. It
then spells the path of the manifest from the resource name, and allows no hyphen in the suffix; the decoder
of routes does. `selects_missing_iff` says when a missing object is selected.
-/

namespace EdgePlatform.Agent

open Foundation
open Host (FleetHost)
open Fleet

/-! ## Reading back -/

inductive NetworkKind
  | route | firewall | dns
deriving DecidableEq

/-- The files under `managed/`, owned as they have to be. -/
abbrev ManagedDir := List (String × Bytes)

/-- The resolver of a link. -/
structure LinkDnsState where
  nameservers : List String
  domains : List String
deriving DecidableEq

/-- The resolver that a manifest asks for. -/
def expectedState (spec : FleetVmManagedSystemDns) : LinkDnsState := ⟨spec.nameServers, [spec.routingDomain]⟩

/-- What the kernel, `nft` and the resolver say of an object, or why they say nothing. -/
structure NativeNetwork where
  /-- The route is in its table, which is otherwise empty, on an interface of its owner. -/
  route : FleetVmManagedKernelRoute → Except String Bool
  firewall : FleetVmManagedFirewall → Except String (Option (List RuleKey))
  dns : FleetVmManagedSystemDns → Except String LinkDnsState

/-- A row that could not be read. -/
def readbackFailure (code : String) : FleetVmManagedReadback := ⟨"", [], false, false, code⟩

section Rows

variable (D : ManifestDecoders) (T : IpText) (N : NativeNetwork) (host : FleetHost)

def routeRow (name : String) (bytes : Bytes) : FleetVmManagedReadback :=
  match decodeRoute D T host ("managed/" ++ name) bytes with
  | .error _ => readbackFailure "MANAGED_ROUTE_MANIFEST_UNPROVEN"
  | .ok spec =>
    match N.route spec with
    | .ok true => ⟨spec.resourceName, sha256 bytes, true, true, "DESIRED_PRESENT"⟩
    | .ok false => ⟨spec.resourceName, sha256 bytes, false, false, "ROUTE_MISSING"⟩
    | .error reason => ⟨spec.resourceName, sha256 bytes, false, false, reason⟩

def firewallRow (name : String) (bytes : Bytes) : FleetVmManagedReadback :=
  match decodeFirewallScope D host ("managed/" ++ name) bytes with
  | .error reason => readbackFailure reason
  | .ok spec =>
    match N.firewall spec with
    | .ok (some live) =>
      if some live =
          canonicalRules spec then ⟨spec.resourceName, sha256 bytes, true, true, "DESIRED_PRESENT"⟩
      else ⟨spec.resourceName, sha256 bytes, true, false, "MANAGED_FIREWALL_RULESET_DRIFT"⟩
    | .ok none => ⟨spec.resourceName, sha256 bytes, false, false, "MANAGED_FIREWALL_TABLE_MISSING"⟩
    | .error reason => ⟨spec.resourceName, sha256 bytes, false, false, reason⟩

def dnsRow (name : String) (bytes : Bytes) : FleetVmManagedReadback :=
  match decodeDnsScope D T host ("managed/" ++ name) bytes with
  | .error code => readbackFailure code
  | .ok spec =>
    match N.dns spec with
    | .ok actual =>
      if actual = expectedState spec then ⟨spec.resourceName, sha256 bytes, true, true, "DESIRED_PRESENT"⟩
      else ⟨spec.resourceName, sha256 bytes, actual.nameservers ≠ [] ∨ actual.domains ≠ [], false,
        "MANAGED_SYSTEM_DNS_DRIFT"⟩
    | .error code => ⟨spec.resourceName, sha256 bytes, false, false, code⟩

end Rows

namespace NetworkKind

def stem : NetworkKind → String
  | route => "host-route"
  | firewall => "host-firewall"
  | dns => "host-dns"

def missingCode : NetworkKind → String
  | route => "ROUTE_MISSING"
  | firewall => "MANAGED_FIREWALL_TABLE_MISSING"
  | dns => "MANAGED_SYSTEM_DNS_DRIFT"

def oversizeCode : NetworkKind → String
  | route => "MANAGED_ROUTE_MANIFEST_COUNT_EXCEEDED"
  | firewall => "MANAGED_FIREWALL_MANIFESTS_OVERSIZE"
  | dns => "MANAGED_SYSTEM_DNS_COUNT_OVERSIZE"

def row (D : ManifestDecoders) (T : IpText) (N : NativeNetwork) (host : FleetHost) :
    NetworkKind → String → Bytes → FleetVmManagedReadback
  | route => routeRow D T N host
  | firewall => firewallRow D N host
  | dns => dnsRow D T N host

/-- A manifest of the kind. -/
def isManifest (k : NetworkKind) (path : String) : Bool :=
  startsWith path ("managed/" ++ k.stem ++ "-") && endsWith path ".pb"

/-- The manifests of a kind, by name. -/
def names (k : NetworkKind) (managed : ManagedDir) : List String :=
  ((managed.map Prod.fst).filter fun name => k.isManifest ("managed/" ++ name)).mergeSort fun a b =>
  decide (a ≤ b)

/-- `collect_native_managed_kernel_routes`, `.._firewall` and `.._system_dns`. -/
def collect (D : ManifestDecoders) (T : IpText) (N : NativeNetwork) (host : FleetHost) (managed : ManagedDir)
    (k : NetworkKind) : List FleetVmManagedReadback :=
  if (k.names managed).length > 32 then [readbackFailure k.oversizeCode]
  else (k.names managed).map fun name => k.row D T N host name ((managed.lookup name).getD [])

end NetworkKind

/-! ## The selection -/

/-- An object that is known to be absent. -/
def knownMissingNetworkRow (row : FleetVmManagedReadback) (expected : String) : Bool :=
  !row.present && !row.converged && row.reasonCode = expected && row.manifestSha256.length = 32 &&
    row.manifestSha256.any (· ≠ 0)

/-- Nothing of a row as desired; the manifest of one that is missing. -/
def inspectRow (host : FleetHost) (managed : ManagedDir) (k : NetworkKind) (row : FleetVmManagedReadback) :
    Except String (Option (String × Bytes)) :=
  if row.converged ∧ row.reasonCode = "DESIRED_PRESENT" then pure none
  else do
    rejectIf (knownMissingNetworkRow row k.missingCode = false)
      "HOST_VM_MANAGED_REPAIR_UNKNOWN_OR_FOREIGN_NO_REPLAY"
    let suffix ← okOr (stripPrefix row.resourceName ("sb-" ++ host.machineId ++ "-"))
      "HOST_VM_MANAGED_REPAIR_FOREIGN_RESOURCE"
    rejectIf (plainSuffix suffix = false) "HOST_VM_MANAGED_REPAIR_FOREIGN_RESOURCE"
    let bytes ← okOr (managed.lookup (k.stem ++ "-" ++ suffix ++ ".pb"))
      "HOST_VM_MANAGED_REPAIR_MANIFEST_MISSING"
    rejectIf (sha256 bytes ≠ row.manifestSha256) "HOST_VM_MANAGED_REPAIR_MANIFEST_CHANGED"
    pure (some ("managed/" ++ (k.stem ++ "-" ++ suffix ++ ".pb"), bytes))

/-- The one missing object, if Docker has converged and only one is missing. -/
def selectExactMissingManagedNetwork (D : ManifestDecoders) (T : IpText) (N : NativeNetwork)
    (host : FleetHost) (dockerRows : List FleetVmManagedDockerReadback) (managed : ManagedDir) :
    Except String (String × Bytes) := do
  rejectIf (dockerRows.any (fun row => !row.converged) = true) "HOST_VM_MANAGED_REPAIR_DOCKER_NOT_CONVERGED"
  let inspected ← [NetworkKind.route, .firewall, .dns].mapM fun k =>
    (k.collect D T N host managed).mapM (inspectRow host managed k)
  match inspected.flatten.reduceOption with
  | [missing] => pure missing
  | _ => .error "HOST_VM_MANAGED_REPAIR_NOT_EXACTLY_ONE_KNOWN_MISSING"

/-! ## Rows of objects that match or are missing -/

section States

variable (D : ManifestDecoders) (T : IpText) (N : NativeNetwork) (host : FleetHost)

/-- The manifest is accepted and its object is there as declared. -/
def Matches (name : String) (bytes : Bytes) : NetworkKind → Prop
  | .route => ∃ spec, decodeRoute D T host ("managed/" ++ name) bytes = .ok spec ∧ N.route spec = .ok true
  | .firewall => ∃ spec, decodeFirewallScope D host ("managed/" ++ name) bytes = .ok spec ∧
      ∃ live, N.firewall spec = .ok (some live) ∧ canonicalRules spec = some live
  | .dns => ∃ spec, decodeDnsScope D T host ("managed/" ++ name) bytes = .ok spec ∧
      N.dns spec = .ok (expectedState spec)

/-- The manifest is accepted and there is no such object. -/
def Missing (name : String) (bytes : Bytes) : NetworkKind → Prop
  | .route => ∃ spec, decodeRoute D T host ("managed/" ++ name) bytes = .ok spec ∧ N.route spec = .ok false
  | .firewall => ∃ spec, decodeFirewallScope D host ("managed/" ++ name) bytes = .ok spec ∧
      N.firewall spec = .ok none
  | .dns => ∃ spec, decodeDnsScope D T host ("managed/" ++ name) bytes = .ok spec ∧ N.dns spec = .ok ⟨[], []⟩

end States

section Inspection

variable {D : ManifestDecoders} {T : IpText} {N : NativeNetwork} {host : FleetHost} {managed : ManagedDir}
variable {k : NetworkKind} {name suffix : String} {bytes : Bytes}

/-- The file of a manifest. -/
def NetworkKind.fileName (k : NetworkKind) (suffix : String) : String := k.stem ++ "-" ++ suffix ++ ".pb"

theorem fileName_inj {suffix' : String} (h : k.fileName suffix = k.fileName suffix') : suffix = suffix' := by
  have hchars := congrArg String.toList h
  simpa [NetworkKind.fileName, ← String.toList_inj] using hchars

theorem name_of_pathSuffix {start : String} (hstart : start = "managed/" ++ (k.stem ++ "-"))
    (h : pathSuffix ("managed/" ++ name) start = some suffix) : name = k.fileName suffix := by
  obtain ⟨rest, hrest, hsuffix⟩ := Option.bind_eq_some_iff.mp h
  rw [stripPrefix_eq_some, hstart, stripSuffix_eq_some.mp hsuffix] at hrest
  have hchars := congrArg String.toList hrest
  simp only [String.toList_append, List.append_assoc, List.append_cancel_left_eq] at hchars
  rw [← String.toList_inj, NetworkKind.fileName]
  simpa using hchars

theorem inspectRow_of_matches (h : Matches D T N host name bytes k) :
    inspectRow host managed k (k.row D T N host name bytes) = .ok none := by
  cases k with
  | route =>
    obtain ⟨spec, hspec, hstate⟩ := h
    simp [NetworkKind.row, routeRow, hspec, hstate, inspectRow, pure, Except.pure]
  | firewall =>
    obtain ⟨spec, hspec, live, hstate, hrules⟩ := h
    simp [NetworkKind.row, firewallRow, hspec, hstate, hrules, inspectRow, pure, Except.pure]
  | dns =>
    obtain ⟨spec, hspec, hstate⟩ := h
    simp [NetworkKind.row, dnsRow, hspec, hstate, inspectRow, pure, Except.pure]

theorem row_of_missing (h : Missing D T N host name bytes k) : ∃ suffix, name = k.fileName suffix ∧
    k.row D T N host name bytes =
    ⟨ownershipStart host.machineId ++ suffix, sha256 bytes, false, false, k.missingCode⟩ := by
  cases k with
  | route =>
    obtain ⟨spec, hspec, hstate⟩ := h
    obtain ⟨suffix, hpath, -, hname⟩ := decodeRoute_name hspec
    exact ⟨suffix, name_of_pathSuffix rfl hpath, by
      simp [NetworkKind.row, routeRow, hspec, hstate, hname, NetworkKind.missingCode]⟩
  | firewall =>
    obtain ⟨spec, hspec, hstate⟩ := h
    obtain ⟨suffix, hpath, -, hname⟩ := decodeFirewallScope_name hspec
    exact ⟨suffix, name_of_pathSuffix rfl hpath, by
      simp [NetworkKind.row, firewallRow, hspec, hstate, hname, NetworkKind.missingCode]⟩
  | dns =>
    obtain ⟨spec, hspec, hstate⟩ := h
    obtain ⟨suffix, hpath, -, hname⟩ := decodeDnsScope_name hspec
    exact ⟨suffix, name_of_pathSuffix rfl hpath, by
      simp [NetworkKind.row, dnsRow, hspec, hstate, hname, NetworkKind.missingCode, expectedState]⟩

/-- What is asked of a missing object. -/
def Selectable (suffix : String) (bytes : Bytes) : Prop :=
  plainSuffix suffix = true ∧ (sha256 bytes).any (· ≠ 0) = true

theorem inspectRow_of_missing (hrow : k.row D T N host name bytes =
      ⟨ownershipStart host.machineId ++ suffix, sha256 bytes, false, false, k.missingCode⟩)
    (hname : name = k.fileName suffix) (hlookup : managed.lookup name = some bytes)
    (found : Option (String × Bytes)) :
    inspectRow host managed k (k.row D T N host name bytes) = .ok found ↔
      Selectable suffix bytes ∧ found = some ("managed/" ++ name, bytes) := by
  have hfile : managed.lookup (k.stem ++ "-" ++ suffix ++ ".pb") = some bytes := by
    rw [← hlookup, hname, NetworkKind.fileName]
  have hstripped : stripPrefix (ownershipStart host.machineId ++ suffix)
      ("sb-" ++ host.machineId ++ "-") = some suffix :=
    stripPrefix_append _ _
  rw [hrow, inspectRow]
  simp only [Bool.false_eq_true, false_and, if_false, ok_iff, hstripped, Option.some.injEq,
    exists_eq_left', hfile, ne_eq, not_true_eq_false, not_false_eq_true, true_and, pure_eq_ok,
    Bool.not_eq_false, knownMissingNetworkRow, Bool.and_eq_true, decide_true, length_sha256, Bool.not_false,
    Selectable, hname, NetworkKind.fileName]
  tauto

end Inspection

/-! ## Exactly one is missing -/

theorem reduceOption_map_ite {α β : Type} [DecidableEq α] {l : List α} {a : α} {b : β} (hnodup : l.Nodup)
    (ha : a ∈ l) :
    (l.map fun x => if x = a then some b else none).reduceOption = [b] := by
  induction l with
  | nil => cases ha
  | cons x l ih =>
    obtain ⟨hx, hnodup⟩ := List.nodup_cons.mp hnodup
    rw [List.map_cons]
    by_cases hxa : x = a
    · have hnone : ∀ y ∈ l, (if y = a then some b else none) = none := fun y hy =>
        if_neg fun hya : y = a => hx (hxa ▸ hya ▸ hy)
      rw [if_pos hxa, List.reduceOption_cons_of_some, List.map_congr_left hnone, List.map_const',
        List.reduceOption_replicate_none]
    · rw [if_neg hxa, List.reduceOption_cons_of_none,
        ih hnodup ((List.mem_cons.mp ha).resolve_left (Ne.symm hxa))]

theorem exists_of_mapM {α β : Type} {xs : List α} {f : α → Except String β} {ys : List β}
    (h : xs.mapM f = .ok ys) {x : α} (hx : x ∈ xs) : ∃ y, f x = .ok y := by
  have hall := Except.mapM_eq_ok.mp h
  clear h
  induction hall with
  | nil => cases hx
  | cons hfirst _ ih =>
    rcases List.mem_cons.mp hx with rfl | hx
    · exact ⟨_, hfirst⟩
    · exact ih hx

section Selection

variable {D : ManifestDecoders} {T : IpText} {N : NativeNetwork} {host : FleetHost} {managed : ManagedDir}
variable {k : NetworkKind} {name : String} {bytes : Bytes}

theorem mem_names {k : NetworkKind} {name : String} :
    name ∈ k.names managed ↔ (∃ bytes, (name, bytes) ∈ managed) ∧
      k.isManifest ("managed/" ++ name) = true := by
  rw [NetworkKind.names, List.mem_mergeSort, List.mem_filter, List.mem_map]
  simp

theorem isManifest_fileName (k : NetworkKind) (suffix : String) :
    k.isManifest ("managed/" ++ k.fileName suffix) = true := by
  rw [NetworkKind.isManifest, Bool.and_eq_true, startsWith_iff, endsWith_iff, NetworkKind.fileName]
  constructor
  · refine ⟨suffix.toList ++ ".pb".toList, ?_⟩
    simp
  · refine ⟨"managed/".toList ++ (k.stem.toList ++ ("-".toList ++ suffix.toList)), ?_⟩
    simp

theorem inspectRow_failure (code : String) (found : Option (String × Bytes)) :
    inspectRow host managed k (readbackFailure code) ≠ .ok found := by
  simp [inspectRow, readbackFailure, knownMissingNetworkRow, rejectIf, ok_iff]

/-- What the inspection of a kind finds, where only the object `(k, name)` is missing. -/
theorem inspect_kind {suffix : String} (hnodup : (managed.map Prod.fst).Nodup)
    (hmem : (name, bytes) ∈ managed) (hname : name = k.fileName suffix) (hrow : k.row D T N host name bytes =
      ⟨ownershipStart host.machineId ++ suffix, sha256 bytes, false, false, k.missingCode⟩)
    (hrest : ∀ k' name' bytes', (name', bytes') ∈ managed → k'.isManifest ("managed/" ++ name') = true →
      (k', name') ≠ (k, name) → Matches D T N host name' bytes' k')
    (hselectable : Selectable suffix bytes) (k' : NetworkKind) (hcount : (k'.names managed).length ≤ 32) :
    ∃ found, (k'.collect D T N host managed).mapM (inspectRow host managed k') = .ok found ∧
      found.reduceOption = if k' = k then [("managed/" ++ name, bytes)] else [] := by
  refine ⟨(k'.names managed).map fun name' => if (k', name') =
    (k, name) then some ("managed/" ++ name, bytes) else none, ?_, ?_⟩
  · rw [NetworkKind.collect, if_neg (by omega), Except.mapM_eq_ok, List.forall₂_map_left_iff,
      List.forall₂_map_right_iff, List.forall₂_same]
    intro name' hname'
    obtain ⟨⟨bytes', hmem'⟩, hmanifest⟩ := mem_names.mp hname'
    have hlookup := lookup_of_mem hnodup hmem'
    rw [hlookup, Option.getD_some]
    split
    · rename_i heq
      obtain ⟨rfl, rfl⟩ := Prod.mk.inj heq
      obtain rfl : bytes' = bytes := Option.some.inj (hlookup.symm.trans (lookup_of_mem hnodup hmem))
      exact (inspectRow_of_missing hrow hname hlookup _).mpr ⟨hselectable, rfl⟩
    · rename_i hne
      exact inspectRow_of_matches (hrest k' name' bytes' hmem' hmanifest hne)
  · by_cases hk : k' = k
    · subst hk
      have hthere : name ∈ k'.names managed :=
        mem_names.mpr ⟨⟨bytes, hmem⟩, hname ▸ isManifest_fileName k' suffix⟩
      have hsorted : (k'.names managed).Nodup := (List.mergeSort_perm ..).nodup_iff.mpr (hnodup.filter _)
      simpa using reduceOption_map_ite hsorted hthere
    · simp [hk, List.reduceOption_replicate_none]

/-- Any selection is one after all rows were inspected, that of a missing object among them. -/
theorem selectable_of_selected {dockerRows : List FleetVmManagedDockerReadback} {selected : String × Bytes}
    {suffix : String} (hnodup : (managed.map Prod.fst).Nodup) (hmem : (name, bytes) ∈ managed)
    (hname : name = k.fileName suffix) (hrow : k.row D T N host name bytes =
      ⟨ownershipStart host.machineId ++ suffix, sha256 bytes, false, false, k.missingCode⟩)
    (h : selectExactMissingManagedNetwork D T N host dockerRows managed = .ok selected) :
    (∀ k' : NetworkKind, (k'.names managed).length ≤ 32) ∧ Selectable suffix bytes := by
  obtain ⟨-, -, h⟩ := bind_ok h
  obtain ⟨inspected, hinspected, -⟩ := bind_ok h
  have hall (k' : NetworkKind) := exists_of_mapM hinspected (x := k') (by cases k' <;> simp)
  have hcount : ∀ k' : NetworkKind, (k'.names managed).length ≤ 32 := by
    intro k'
    by_contra hover
    obtain ⟨found, hfound⟩ := hall k'
    rw [NetworkKind.collect, if_pos (by omega)] at hfound
    obtain ⟨y, hy⟩ := exists_of_mapM hfound (.head _)
    exact inspectRow_failure _ _ hy
  obtain ⟨found, hfound⟩ := hall k
  have hthere : name ∈ k.names managed := mem_names.mpr ⟨⟨bytes, hmem⟩, hname ▸ isManifest_fileName k suffix⟩
  have hlookup := lookup_of_mem hnodup hmem
  rw [NetworkKind.collect, if_neg (not_lt.mpr (hcount k))] at hfound
  obtain ⟨y, hy⟩ := exists_of_mapM hfound (List.mem_map_of_mem hthere)
  rw [hlookup, Option.getD_some, inspectRow_of_missing hrow hname hlookup] at hy
  exact ⟨hcount, hy.1⟩

/-- **A lost network object is selected** exactly when there are at most 32 manifests of each kind, its
    suffix has no hyphen, and the digest of its manifest is not zero. -/
theorem selects_missing_iff {dockerRows : List FleetVmManagedDockerReadback}
    (hdocker : ∀ row ∈ dockerRows, row.converged = true) (hnodup : (managed.map Prod.fst).Nodup)
    (hmem : (name, bytes) ∈ managed) (hmissing : Missing D T N host name bytes k)
    (hrest : ∀ k' name' bytes', (name', bytes') ∈ managed → k'.isManifest ("managed/" ++ name') = true →
      (k', name') ≠ (k, name) → Matches D T N host name' bytes' k') :
    selectExactMissingManagedNetwork D T N host dockerRows managed = .ok ("managed/" ++ name, bytes) ↔
      (∀ k' : NetworkKind, (k'.names managed).length ≤ 32) ∧
        ∃ suffix, name = k.fileName suffix ∧ plainSuffix suffix = true ∧
        (sha256 bytes).any (· ≠ 0) = true := by
  obtain ⟨suffix, hname, hrow⟩ := row_of_missing hmissing
  constructor
  · intro h
    obtain ⟨hcount, hselectable⟩ := selectable_of_selected hnodup hmem hname hrow h
    exact ⟨hcount, suffix, hname, hselectable⟩
  · rintro ⟨hcount, suffix', hname', hselectable⟩
    obtain rfl := fileName_inj (hname'.symm.trans hname)
    have hconverged : ¬ dockerRows.any (fun row => !row.converged) = true := by simpa using hdocker
    have hkind (k' : NetworkKind) := inspect_kind hnodup hmem hname hrow hrest hselectable k' (hcount k')
    obtain ⟨routes, hroutes, hr⟩ := hkind .route
    obtain ⟨firewalls, hfirewalls, hf⟩ := hkind .firewall
    obtain ⟨resolvers, hresolvers, hd⟩ := hkind .dns
    refine passes_bind hconverged (ok_bind (a := [routes, firewalls, resolvers]) ?_ ?_)
    · exact Except.mapM_eq_ok.mpr (.cons hroutes (.cons hfirewalls (.cons hresolvers .nil)))
    · have hfound : [routes, firewalls, resolvers].flatten.reduceOption = [("managed/" ++ name, bytes)] := by
        simp only [List.flatten_cons, List.flatten_nil, List.append_nil,
          List.reduceOption_append, hr, hf, hd]
        cases k <;> rfl
      rw [hfound]
      rfl

end Selection

namespace RepairSample

open ScopeSample

/-- A kernel without routes. -/
def network : NativeNetwork where
  route _ := .ok false
  firewall _ := .error "MANAGED_FIREWALL_UNAVAILABLE"
  dns _ := .error "MANAGED_SYSTEM_DNS_UNAVAILABLE"

end RepairSample

open ScopeSample RepairSample in
/-- The route of a plain suffix is selected. -/
theorem plain_route_selected :
    selectExactMissingManagedNetwork decoders addresses network (host "vm-a") []
      [("host-route-x.pb", (route "vm-a").encodeToVec)] =
        .ok ("managed/host-route-x.pb", (route "vm-a").encodeToVec) := by
  refine (selects_missing_iff (k := .route) (by simp) (by simp) (.head _)
    ⟨route "vm-a", by decide, rfl⟩ ?_).mpr ⟨?_, "x", rfl, by decide, by decide +kernel⟩
  · intro k' name' bytes' hmem hmanifest hne
    simp only [List.mem_singleton, Prod.mk.injEq] at hmem
    obtain ⟨rfl, rfl⟩ := hmem
    cases k' with
    | route => exact absurd rfl hne
    | firewall | dns => exact absurd hmanifest (by decide)
  · intro k'
    refine (List.length_mergeSort ..).trans_le ((List.length_filter_le ..).trans ?_)
    decide

open ScopeSample RepairSample in
/-- The decoder accepts the suffix `a-x`; the route is missing and nothing is selected. -/
theorem hyphenated_route_refused :
    Missing decoders addresses network (host "vm") "host-route-a-x.pb" (route "vm").encodeToVec .route ∧
      ∀ selected, selectExactMissingManagedNetwork decoders addresses network (host "vm") []
        [("host-route-a-x.pb", (route "vm").encodeToVec)] ≠ .ok selected := by
  have hmissing : Missing decoders addresses network (host "vm")
      "host-route-a-x.pb" (route "vm").encodeToVec .route :=
    ⟨route "vm", by decide, rfl⟩
  refine ⟨hmissing, fun selected h => ?_⟩
  obtain ⟨suffix, hname, hrow⟩ := row_of_missing hmissing
  obtain rfl : suffix = "a-x" := fileName_inj (k := .route) hname.symm
  have hselectable := (selectable_of_selected (by simp) (.head _) hname hrow h).2
  exact absurd hselectable.1 (by decide)

end EdgePlatform.Agent
