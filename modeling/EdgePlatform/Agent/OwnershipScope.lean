import EdgePlatform.Agent.Manifests

/-!
# `EdgePlatform.Agent.OwnershipScope` — which machine a managed resource name belongs to

Every managed name begins with `sb-<machine id>-`, and machine ids may contain hyphens. Where one machine id
is another one followed by a hyphen, a name of the longer one is also a name of the shorter one, with a
suffix that has a hyphen. The resolver and firewall decoders forbid that suffix; the Docker and route
decoders and the check of reported rows do not.

`scopes_disjoint_iff` says exactly when the scopes of two machines are disjoint, over every way a name is
accepted (`InScope`).
-/

namespace EdgePlatform.Agent

open Foundation Foundation.Wire
open Host (FleetHost FleetHostKind HostRegistry)
open Fleet

/-! ## Scopes -/

inductive ManagedClass
  | docker | route | dns | firewall
deriving DecidableEq

section

variable (D : ManifestDecoders) (T : IpText)

/-- A manifest of the class is accepted for the host and carries the name. -/
def ManifestNames : ManagedClass → FleetHost → String → Prop
  | .docker, host, name => ∃ path raw spec, decodeExactSpec D T host path raw = .ok spec ∧
      spec.resourceName = name
  | .route, host, name => ∃ path raw spec, decodeRoute D T host path raw = .ok spec ∧
      spec.resourceName = name
  | .dns, host, name => ∃ path raw spec, decodeDnsScope D T host path raw = .ok spec ∧
      spec.resourceName = name
  | .firewall, host, name => ∃ path raw spec, decodeFirewallScope D host path raw = .ok spec ∧
      spec.resourceName = name

/-- Reported rows of the class pass their check and one carries the name. `validate_vm_resource_report`
    checks more, so this is at least what it accepts. -/
def ReportNames : ManagedClass → FleetHost → String → Prop
  | .docker, host, name => ∃ rows, validateManagedDocker host [] rows = .ok () ∧
      ∃ row ∈ rows, row.resourceName = name
  | .route, host, name => ∃ rows, validateManagedRoutes host [] rows = .ok () ∧
      ∃ row ∈ rows, row.resourceName = name
  | .dns, host, name => ∃ rows, validateManagedSystemDns host [] rows = .ok () ∧
      ∃ row ∈ rows, row.resourceName = name
  | .firewall, host, name => ∃ rows, validateManagedFirewall host [] rows = .ok () ∧
      ∃ row ∈ rows, row.resourceName = name

/-- A name is accepted as in scope: by a manifest, as the network of a container, or in a report. A row
    without a name is evidence without a scope. -/
def InScope (c : ManagedClass) (host : FleetHost) (name : String) : Prop :=
  ManifestNames D T c host name ∨ (c = .docker ∧ exactOwnedNetworkName host.machineId name = true) ∨
    (name ≠ "" ∧ ReportNames c host name)

end

/-- What every name in the scope of a machine begins with. -/
def ownershipStart (machineId : String) : String := "sb-" ++ machineId ++ "-"

/-- The second machine id is the first one followed by a hyphen and something. -/
def Nested (m m' : String) : Prop := startsWith m' (m ++ "-") = true

instance (m m' : String) : Decidable (Nested m m') := inferInstanceAs (Decidable (_ = true))

/-! ## Names begin with their machine -/

section Names

variable {D : ManifestDecoders} {T : IpText} {c : ManagedClass} {host : FleetHost} {path name : String}
    {raw : Bytes}
variable {names : List String}

theorem nameMatches_eq_true {machineId suffix name : String} :
    nameMatches machineId suffix name = true ↔ name = ownershipStart machineId ++ suffix ∧
      (utf8 name).length ≤ 112 := by
  rw [nameMatches, Bool.and_eq_true, decide_eq_true_eq, decide_eq_true_eq]
  rfl

theorem resourcePathExpected_name {spec : FleetVmManagedDockerResource}
    (h : resourcePathExpected T host path spec = true) :
    ∃ suffix, dockerSuffix suffix = true ∧ spec.resourceName = ownershipStart host.machineId ++ suffix := by
  unfold resourcePathExpected at h
  split at h
  · cases h
  · split at h
    · cases h
    next suffix _ =>
      simp only [Bool.and_eq_true, nameMatches_eq_true] at h
      exact ⟨suffix, h.1.1.1.1.1, h.1.1.1.1.2.1⟩

theorem canonicalScope_name {spec : FleetVmManagedKernelRoute} (h : canonicalScope T host path spec = true) :
    ∃ suffix, pathSuffix path "managed/host-route-" = some suffix ∧ routeSuffix suffix = true ∧
      spec.resourceName = ownershipStart host.machineId ++ suffix := by
  unfold canonicalScope at h
  split at h
  · cases h
  next suffix hpath =>
    simp only [Bool.and_eq_true, nameMatches_eq_true] at h
    exact ⟨suffix, hpath, h.1.1.1.1.1.1.1.1.1, h.1.1.1.1.1.2.1⟩

theorem decodeRoute_name {spec : FleetVmManagedKernelRoute} (h : decodeRoute D T host path raw = .ok spec) :
    ∃ suffix, pathSuffix path "managed/host-route-" = some suffix ∧ routeSuffix suffix = true ∧
      spec.resourceName = ownershipStart host.machineId ++ suffix := by
  simp only [decodeRoute, ok_iff, not_or, Bool.not_eq_false, pure_eq_ok] at h
  obtain ⟨-, _, -, ⟨-, hscope⟩, rfl⟩ := h
  exact canonicalScope_name hscope

theorem decodeDnsScope_name {spec : FleetVmManagedSystemDns}
    (h : decodeDnsScope D T host path raw = .ok spec) :
    ∃ suffix, pathSuffix path "managed/host-dns-" = some suffix ∧ plainSuffix suffix = true ∧
      spec.resourceName = ownershipStart host.machineId ++ suffix := by
  simp only [decodeDnsScope, ok_iff, not_or, Bool.not_eq_false, pure_eq_ok, nameMatches_eq_true] at h
  obtain ⟨suffix, hpath, ⟨hsuffix, -⟩, _, -, ⟨-, -, -, -, -, ⟨hname, -⟩, -⟩, -, rfl⟩ := h
  exact ⟨suffix, hpath, hsuffix, hname⟩

theorem decodeFirewallScope_name {spec : FleetVmManagedFirewall}
    (h : decodeFirewallScope D host path raw = .ok spec) :
    ∃ suffix, pathSuffix path "managed/host-firewall-" = some suffix ∧ plainSuffix suffix = true ∧
      spec.resourceName = ownershipStart host.machineId ++ suffix := by
  simp only [decodeFirewallScope, ok_iff, not_or, Bool.not_eq_false, pure_eq_ok, nameMatches_eq_true] at h
  obtain ⟨suffix, hpath, hsuffix, -, _, -, ⟨-, -, -, -, -, ⟨hname, -⟩, -⟩, rfl⟩ := h
  exact ⟨suffix, hpath, hsuffix, hname⟩

theorem manifestNames_start 
    (h : ManifestNames D T c host name) : startsWith name (ownershipStart host.machineId) = true := by
  have hstart : ∃ suffix, name = ownershipStart host.machineId ++ suffix := by
    cases c with
    | docker =>
      obtain ⟨path, raw, spec, hspec, rfl⟩ := h
      simp only [decodeExactSpec, ok_iff, not_or, Bool.not_eq_false, pure_eq_ok] at hspec
      obtain ⟨-, _, -, ⟨-, hscope⟩, rfl⟩ := hspec
      exact (resourcePathExpected_name hscope).imp fun _ hs => hs.2
    | route =>
      obtain ⟨path, raw, spec, hspec, rfl⟩ := h
      exact (decodeRoute_name hspec).imp fun _ hs => hs.2.2
    | dns =>
      obtain ⟨path, raw, spec, hspec, rfl⟩ := h
      exact (decodeDnsScope_name hspec).imp fun _ hs => hs.2.2
    | firewall =>
      obtain ⟨path, raw, spec, hspec, rfl⟩ := h
      exact (decodeFirewallScope_name hspec).imp fun _ hs => hs.2.2
  obtain ⟨suffix, rfl⟩ := hstart
  exact startsWith_append _ _

/-! ## Reported rows -/

theorem validateManagedDocker_names {rows : List FleetVmManagedDockerReadback}
    (h : validateManagedDocker host names rows = .ok ()) :
    ∀ row ∈ rows, row.resourceName = "" ∨ reportNameInScope host.machineId row.resourceName = true := by
  induction rows generalizing names with
  | nil => simp
  | cons row rest ih =>
    simp only [validateManagedDocker, ok_iff] at h
    split at h
    next hempty =>
      simp only [ok_iff] at h
      exact List.forall_mem_cons.mpr ⟨Or.inl hempty, ih h.2.2⟩
    next =>
      simp only [ok_iff, not_or, Bool.not_eq_false] at h
      exact List.forall_mem_cons.mpr ⟨Or.inr h.2.1.1, ih h.2.2⟩

theorem validateManagedRoutes_names {rows : List FleetVmManagedKernelRouteReadback}
    (h : validateManagedRoutes host names rows = .ok ()) :
    ∀ row ∈ rows, row.resourceName = "" ∨ reportNameInScope host.machineId row.resourceName = true := by
  induction rows generalizing names with
  | nil => simp
  | cons row rest ih =>
    simp only [validateManagedRoutes, ok_iff] at h
    split at h
    next hempty =>
      simp only [ok_iff] at h
      exact List.forall_mem_cons.mpr ⟨Or.inl hempty, ih h.2.2⟩
    next =>
      simp only [ok_iff, not_or, Bool.not_eq_false] at h
      exact List.forall_mem_cons.mpr ⟨Or.inr h.2.1.1, ih h.2.2⟩

theorem validateManagedRows_names {errors : ManagedErrors} {rows : List FleetVmManagedReadback}
    (h : validateManagedRows errors host names rows = .ok ()) :
    ∀ row ∈ rows, row.resourceName = "" ∨ reportNameInScope host.machineId row.resourceName = true := by
  induction rows generalizing names with
  | nil => simp
  | cons row rest ih =>
    simp only [validateManagedRows, ok_iff] at h
    split at h
    next hempty =>
      simp only [ok_iff] at h
      exact List.forall_mem_cons.mpr ⟨Or.inl hempty, ih h.2.2⟩
    next =>
      simp only [ok_iff, not_or, Bool.not_eq_false] at h
      exact List.forall_mem_cons.mpr ⟨Or.inr h.2.1.1, ih h.2.2⟩

/-- What the report check asks of a name: that it begins with the machine and is short enough. -/
theorem reportNames_iff (hname : name ≠ "") :
    ReportNames c host name ↔ reportNameInScope host.machineId name = true := by
  constructor
  · intro h
    cases c with
    | docker =>
      obtain ⟨rows, hrows, row, hrow, rfl⟩ := h
      exact (validateManagedDocker_names hrows row hrow).resolve_left hname
    | route =>
      obtain ⟨rows, hrows, row, hrow, rfl⟩ := h
      exact (validateManagedRoutes_names hrows row hrow).resolve_left hname
    | dns | firewall =>
      obtain ⟨rows, hrows, row, hrow, rfl⟩ := h
      exact (validateManagedRows_names hrows row hrow).resolve_left hname
  · intro h
    have hcode : ¬ reasonCodeInvalid "ROW" := by decide
    cases c with
    | docker =>
      refine ⟨[⟨name, toI32 FleetVmManagedDockerKind.localVolume,
        toI32 FleetVmManagedDockerDesiredState.present, List.replicate 32 0, false, false, [], "ROW",
        false⟩], ?_, _, List.mem_singleton_self _, rfl⟩
      simp [validateManagedDocker, rejectIf, hname, h, hcode, bind, Except.bind, tryFrom_toI32]
    | route =>
      refine ⟨[⟨name, toI32 FleetVmIpFamily.v4, 20000, List.replicate 32 0, false, false, "ROW"⟩], ?_, _,
        List.mem_singleton_self _, rfl⟩
      simp [validateManagedRoutes, rejectIf, hname, h, hcode, bind, Except.bind, tryFrom_toI32]
    | dns | firewall =>
      refine ⟨[⟨name, List.replicate 32 0, false, false, "ROW"⟩], ?_, _, List.mem_singleton_self _, rfl⟩
      simp [validateManagedSystemDns, validateManagedFirewall, validateManagedRows, rejectIf, hname, h,
        hcode, bind, Except.bind]

theorem inScope_start (h : InScope D T c host name) :
    startsWith name (ownershipStart host.machineId) = true := by
  obtain hmanifest | ⟨-, hnetwork⟩ | ⟨hname, hreport⟩ := h
  · exact manifestNames_start hmanifest
  · unfold exactOwnedNetworkName at hnetwork
    split at hnetwork
    · cases hnetwork
    next suffix hsuffix =>
      rw [stripPrefix_eq_some.mp hsuffix]
      exact startsWith_append _ _
  · have hscope := (reportNames_iff hname).mp hreport
    rw [reportNameInScope, Bool.and_eq_true] at hscope
    exact hscope.1

end Names

/-! ## Disjointness -/

theorem snoc_prefix_snoc {α : Type} {l l' : List α} {a : α} (h : l ++ [a] <+: l' ++ [a]) :
    l = l' ∨ l ++ [a] <+: l' := by
  rcases List.prefix_concat_iff.mp h with heq | hprefix
  · exact Or.inl (List.append_left_injective _ heq)
  · exact Or.inr hprefix

/-- Two machines with a name in common. -/
theorem nested_of_common {m m' name : String} (hne : m ≠ m') (h : startsWith name (ownershipStart m) = true)
    (h' : startsWith name (ownershipStart m') = true) : Nested m m' ∨ Nested m' m := by
  have hcancel : ∀ {x y : String}, (ownershipStart x).toList <+: (ownershipStart y).toList → x ≠ y →
      Nested x y := by
    intro x y hxy hne
    simp only [ownershipStart, String.toList_append, List.append_assoc, List.prefix_append_right_inj] at hxy
    rcases snoc_prefix_snoc hxy with heq | hprefix
    · exact absurd (String.toList_inj.mp heq) hne
    · rw [Nested, startsWith_iff, String.toList_append]
      exact hprefix
  rcases List.prefix_or_prefix_of_prefix (startsWith_iff.mp h) (startsWith_iff.mp h') with hle | hle
  · exact Or.inl (hcancel hle hne)
  · exact Or.inr (hcancel hle hne.symm)

theorem length_of_hostToken {value : String} {max : Nat} (h : Host.hostToken value max = true) :
    (utf8 value).length ≤ max := by
  unfold Host.hostToken at h
  split at h
  · cases h
  next b bs hbytes =>
    simp only [Bool.and_eq_true, decide_eq_true_eq] at h
    rw [hbytes]
    exact h.1.1

/-- A name of the longer of two nested machines is in the scope of both. -/
theorem inScope_of_nested {D : ManifestDecoders} {T : IpText} (c : ManagedClass) {host host' : FleetHost}
    (hlen : (utf8 host'.machineId).length ≤ 64) (h : Nested host.machineId host'.machineId) :
    InScope D T c host (managedName host'.machineId "x") ∧
      InScope D T c host' (managedName host'.machineId "x") := by
  have hname : managedName host'.machineId "x" ≠ "" := by simp [managedName]
  have hbytes : (utf8 (managedName host'.machineId "x")).length ≤ 112 := by
    have hsplit : (utf8 (managedName host'.machineId "x")).length = 5 + (utf8 host'.machineId).length := by
      simp only [managedName, utf8_append, List.length_append]
      have : (utf8 "sb-").length = 3 ∧ (utf8 "-").length = 1 ∧ (utf8 "x").length = 1 := by decide
      omega
    omega
  have hscope : ∀ m, startsWith (managedName host'.machineId "x") (ownershipStart m) = true →
      reportNameInScope m (managedName host'.machineId "x") = true := by
    intro m hm
    rw [reportNameInScope, Bool.and_eq_true, decide_eq_true_eq]
    exact ⟨hm, hbytes⟩
  constructor
  · refine Or.inr (Or.inr ⟨hname, (reportNames_iff hname).mpr (hscope _ ?_)⟩)
    rw [Nested, startsWith_iff] at h
    obtain ⟨rest, hrest⟩ := h
    rw [startsWith_iff]
    refine ⟨rest ++ "-x".toList, ?_⟩
    simp [managedName, ownershipStart, ← hrest]
  · exact Or.inr (Or.inr ⟨hname, (reportNames_iff hname).mpr (hscope _ (startsWith_append _ _))⟩)

/-- **When two machines own disjoint names.** No name of any class is in the scope of both exactly when
    neither machine id is the other one followed by a hyphen and more. -/
theorem scopes_disjoint_iff (D : ManifestDecoders) (T : IpText) {registry registry' : HostRegistry}
    {host host' : FleetHost} (hregistry : Host.validateHostRegistry registry = .ok ())
    (hhost : host ∈ registry.hosts) (hregistry' : Host.validateHostRegistry registry' = .ok ())
    (hhost' : host' ∈ registry'.hosts) (hne : host.machineId ≠ host'.machineId) :
    (∀ c name, ¬ (InScope D T c host name ∧ InScope D T c host' name)) ↔
      ¬ Nested host.machineId host'.machineId ∧ ¬ Nested host'.machineId host.machineId := by
  have hlen := length_of_hostToken (Host.hostToken_of_registered hregistry hhost)
  have hlen' := length_of_hostToken (Host.hostToken_of_registered hregistry' hhost')
  constructor
  · intro hdisjoint
    refine ⟨fun hnested => ?_, fun hnested => ?_⟩
    · exact hdisjoint .docker _ (inScope_of_nested .docker hlen' hnested)
    · exact hdisjoint .docker _ (inScope_of_nested .docker hlen hnested).symm
  · rintro ⟨hnot, hnot'⟩ c name ⟨hin, hin'⟩
    rcases nested_of_common hne (inScope_start hin) (inScope_start hin') with hnested | hnested
    · exact hnot hnested
    · exact hnot' hnested

namespace ScopeSample

/-- A VM without containers. -/
def host (machineId : String) : FleetHost :=
  { machineId, kind := toI32 FleetHostKind.vm, owner := some (.vmMachineId machineId),
    windowsRunnerLabel := "", desiredSpecPath := "infra/hosts/specs/" ++ machineId ++ ".textproto",
    target := none, vmContainers := [], nativeReceiptPublicKey := [], vmFirstUseCredential := none,
    workerAuthorityPublicKey := [], vmProviderSpecPath := "" }

def registry (machineId machineId' : String) : HostRegistry := ⟨1, [host machineId, host machineId']⟩

/-- A volume and a route of one name, for the given machine. -/
def volume (machineId : String) : FleetVmManagedDockerResource :=
  { schemaVersion := 1, machineId, resourceName := "sb-vm-a-x",
    kind := toI32 FleetVmManagedDockerKind.localVolume,
    desiredState := toI32 FleetVmManagedDockerDesiredState.present, imageRef := "", networkName := "",
    restartGeneration := 0, ipv6Subnet := "", ipv6Gateway := "", dnsServers := [],
    bridgeInterfaceName := "" }

def route (machineId : String) : FleetVmManagedKernelRoute :=
  { schemaVersion := 1, machineId, resourceName := "sb-vm-a-x", family := toI32 FleetVmIpFamily.v4,
    destination := "10.9.0.0", prefixLength := 16, interfaceName := "sblab0", tableId := 20000 }

/-- The decoders, on the manifests above. -/
def decoders : ManifestDecoders where
  docker raw := [volume "vm", volume "vm-a"].find? (·.encodeToVec = raw)
  route raw := [route "vm", route "vm-a"].find? (·.encodeToVec = raw)
  firewall _ := none
  dns _ := none

/-- The one address of the manifests above. -/
def addresses : IpText where
  parse text := if text = "10.9.0.0" then some (.v4 0x0a090000) else none
  display _ := "10.9.0.0"

end ScopeSample

open ScopeSample in
/-- Two machines of one registry whose ids differ in their last letter: the volume of one is not in the scope
    of the other. -/
theorem sibling_scopes_disjoint :
    InScope decoders addresses .docker (host "vm-a") "sb-vm-a-x" ∧
      ¬ InScope decoders addresses .docker (host "vm-b") "sb-vm-a-x" := by
  have hregistry : Host.validateHostRegistry (registry "vm-a" "vm-b") = .ok () := by decide
  have hdisjoint : ∀ c name, ¬ (InScope decoders addresses c (host "vm-a") name ∧
      InScope decoders addresses c (host "vm-b") name) :=
    (scopes_disjoint_iff decoders addresses hregistry (by simp [registry]) hregistry (by simp [registry])
      (by decide)).mpr (by decide)
  have hscope : InScope decoders addresses .docker (host "vm-a") "sb-vm-a-x" :=
    .inl ⟨"managed/docker-volume-x.pb", (volume "vm-a").encodeToVec, volume "vm-a", by decide, rfl⟩
  exact ⟨hscope, fun hother => hdisjoint _ _ ⟨hscope, hother⟩⟩

open ScopeSample in
/-- One registry holds the machines `vm` and `vm-a`. The names of a volume and of a route of the second are
    accepted for the first as well, under the suffix `a-x`. -/
theorem nested_scopes_overlap :
    Host.validateHostRegistry (registry "vm" "vm-a") = .ok () ∧
      (host "vm").machineId ≠ (host "vm-a").machineId ∧
      (∃ name, InScope decoders addresses .docker (host "vm") name ∧
        InScope decoders addresses .docker (host "vm-a") name) ∧
        ∃ name, InScope decoders addresses .route (host "vm") name ∧
        InScope decoders addresses .route (host "vm-a") name := by
  refine ⟨by decide, by decide, ⟨"sb-vm-a-x", Or.inl ?_, Or.inl ?_⟩, ⟨"sb-vm-a-x", Or.inl ?_, Or.inl ?_⟩⟩
  · exact ⟨"managed/docker-volume-a-x.pb", (volume "vm").encodeToVec, volume "vm", by decide, rfl⟩
  · exact ⟨"managed/docker-volume-x.pb", (volume "vm-a").encodeToVec, volume "vm-a", by decide, rfl⟩
  · exact ⟨"managed/host-route-a-x.pb", (route "vm").encodeToVec, route "vm", by decide, rfl⟩
  · exact ⟨"managed/host-route-x.pb", (route "vm-a").encodeToVec, route "vm-a", by decide, rfl⟩

end EdgePlatform.Agent
