import EdgePlatform.Host.Codec
import EdgePlatform.Foundation.Lines
import EdgePlatform.Foundation.Proc

/-!
# `EdgePlatform.Host.Registry` — the Git-owned host registry

`decode_host_registry` and `validate_host_registry`: one pass over the hosts that accumulates the machine ids
and owner selectors seen so far. Strings are compared and measured by their bytes, as the source does.
-/

namespace EdgePlatform.Host

open Foundation Foundation.Wire

/-- `&str` order is the order of the bytes. -/
def strLt (a b : String) : Bool := decide (utf8 a < utf8 b)

def isTokenByte (b : UInt8) : Bool := isAsciiAlphanumeric b || b = 46 || b = 95 || b = 45

/-- Letters, digits and some marks, a letter or digit first. -/
def hostToken (value : String) (max : Nat) : Bool :=
  match utf8 value with
  | [] => false
  | b :: bs => (b :: bs).length ≤ max && isAsciiAlphanumeric b && (b :: bs).all isTokenByte

/-- `trim_start_matches`: every leading repetition goes. -/
def trimStartMatches (p : Bytes) : Nat → Bytes → Bytes
  | 0, b => b
  | fuel + 1, b => if p ≠ [] ∧ p.isPrefixOf b then trimStartMatches p fuel (b.drop p.length) else b

/-- `trim_end_matches`. -/
def trimEndMatches (p b : Bytes) : Bytes := (trimStartMatches p.reverse b.length b.reverse).reverse

/-- `str::contains`. -/
def containsBytes (p : Bytes) : Bytes → Bool
  | [] => p.isEmpty
  | b :: bs => p.isPrefixOf (b :: bs) || containsBytes p bs

structure RegistryScan where
  ids : List String
  selectors : List (String × String)
  precedingId : Option String

def allZero (b : Bytes) : Bool := b.all (· = 0)

/-- The path of a host's own typed desired state. -/
def perHostSpecPath (host : FleetHost) : String := "infra/hosts/specs/" ++ host.machineId ++ ".textproto"

/-- The application paths a VM may select. -/
def applicationSpecAllowed (spec : String) : Bool :=
  startsWith spec "infra/application/" && endsWith spec ".json" && (utf8 spec).length ≤ 160 &&
    (trimEndMatches (utf8 ".json")
      (trimStartMatches (utf8 "infra/application/") (utf8 spec).length (utf8 spec))).all
      (fun ch => isAsciiLowercase ch || isAsciiDigit ch || ch = 45 || ch = 95) &&
    spec ≠ "infra/application/.json"

def desiredSpecAllowed (kind : FleetHostKind) (host : FleetHost) : Bool :=
  (host.desiredSpecPath = perHostSpecPath host) ||
    match kind with
    | .windows => host.desiredSpecPath = "infra/production/production.textproto"
    | .vm =>
      (host.desiredSpecPath = "infra/production/production.textproto") ||
        applicationSpecAllowed host.desiredSpecPath
    | .unspecified => false

def legacyProviderSpec (spec : String) : Bool :=
  let b := utf8 spec
  let slugStart := (utf8 "infra/vultr/").length
  let tail := (utf8 ".json").length
  startsWith spec "infra/vultr/" && endsWith spec ".json" && slugStart + tail < b.length &&
    b.length ≤ 128 && !containsBytes (utf8 "..") b &&
    ((b.take (b.length - tail)).drop slugStart).all
      (fun ch => isAsciiLowercase ch || isAsciiDigit ch || ch = 45)

def firstUseCredentialInvalid (kind : FleetHostKind) (first : FleetVmFirstUseCredential) : Bool :=
  kind ≠ .vm || first.generation = 0 || (utf8 first.bundleSha256).length ≠ 64 ||
    !(utf8 first.bundleSha256).all isLowerHex || (utf8 first.bundleSha256).all (· = 48)

/-- The containers of one host are sorted by name and have distinct services. -/
def validateContainers : Option String → List (String × String) → List FleetVmContainer → Except String Unit
  | _, _, [] => .ok ()
  | previous, services, r :: rs => do
      rejectIf (¬ hostToken r.containerName 128 ∨ ¬ hostToken r.composeProject 128 ∨
        ¬ hostToken r.composeService 128 ∨ (∃ p ∈ previous, ¬ strLt p r.containerName) ∨
        (r.composeProject, r.composeService) ∈ services) "HOST_VM_RESOURCE_IDENTITY_INVALID_OR_DUPLICATED"
      validateContainers (some r.containerName) ((r.composeProject, r.composeService) :: services) rs

def validateTarget : Option FleetHostTarget → Except String Unit
  | none => .ok ()
  | some target => do
      let runState ← okOr (tryFrom FleetHostRunState target.runState) "HOST_TARGET_RUN_STATE_INVALID"
      let mode ← okOr (tryFrom FleetHostMode target.windowsMode) "HOST_TARGET_MODE_INVALID"
      rejectIf (runState = .unspecified) "HOST_TARGET_RUN_STATE_REQUIRED"
      rejectIf (mode ≠ .unspecified) "HOST_WINDOWS_DUPLICATE_GIT_MODE_FORBIDDEN"

/-- The owner selector, in the scope of the host's kind. -/
def ownerSelector : FleetHostKind → Option FleetHostOwner → Option (String × String)
  | .windows, some (.windowsRunnerName name) => some ("windows", name)
  | .vm, some (.vmMachineId name) => some ("vm", name)
  | _, _ => none

def publicKeyInvalid (key : Bytes) : Bool := !key.isEmpty && (key.length ≠ 32 || allZero key)

/-- One host of the pass. -/
def validateRegisteredHost (s : RegistryScan) (host : FleetHost) : Except String RegistryScan := do
  rejectIf (¬ hostToken host.machineId 64 ∨ host.machineId ∈ s.ids) "host machine_id invalid or duplicated"
  rejectIf (∃ p ∈ s.precedingId, ¬ strLt p host.machineId) "host hosts must be sorted by unique machine_id"
  let kind ← okOr (tryFrom FleetHostKind host.kind) "host host kind is invalid"
  let selector ← okOr (ownerSelector kind host.owner) "host host owner must match its kind"
  rejectIf (¬ hostToken selector.2 128 ∨ selector ∈ s.selectors) "host owner selector invalid or duplicated"
  rejectIf (¬ desiredSpecAllowed kind host ∨ containsBytes (utf8 "..") (utf8 host.desiredSpecPath))
    "host desired spec reference invalid for this kind"
  rejectIf (publicKeyInvalid host.nativeReceiptPublicKey) "HOST_NATIVE_RECEIPT_PUBLIC_KEY_INVALID"
  rejectIf (publicKeyInvalid host.workerAuthorityPublicKey) "HOST_GIT_WORKER_SIGNER_KEY_INVALID"
  rejectIf (host.vmProviderSpecPath ≠ "" ∧ (kind ≠ .vm ∨
      ¬ (legacyProviderSpec host.vmProviderSpecPath ∨ host.vmProviderSpecPath = perHostSpecPath host)))
    "HOST_VM_PROVIDER_SPEC_REFERENCE_INVALID"
  rejectIf (∃ first ∈ host.vmFirstUseCredential, firstUseCredentialInvalid kind first)
    "HOST_VM_FIRST_USE_CREDENTIAL_IDENTITY_INVALID"
  rejectIf (kind ≠ .vm ∧ host.vmContainers ≠ []) "HOST_VM_RESOURCES_ON_NON_VM"
  rejectIf (host.vmContainers.length > 64) "HOST_VM_RESOURCE_LIMIT_EXCEEDED"
  validateContainers none [] host.vmContainers
  validateTarget host.target
  let selectors := selector :: s.selectors
  match kind with
  | .windows => do
      let label := ("windows-label", host.windowsRunnerLabel)
      rejectIf (¬ hostToken host.windowsRunnerLabel 128 ∨ label ∈ selectors)
        "host Windows runner label invalid or duplicated"
      pure ⟨host.machineId :: s.ids, label :: selectors, some host.machineId⟩
  | .vm => do
      rejectIf (host.windowsRunnerLabel ≠ "") "host VM must not carry a Windows runner label"
      pure ⟨host.machineId :: s.ids, selectors, some host.machineId⟩
  | .unspecified => .error "host host kind unspecified"

def validateHosts : RegistryScan → List FleetHost → Except String Unit
  | _, [] => .ok ()
  | s, h :: hs => do
      let s' ← validateRegisteredHost s h
      validateHosts s' hs

/-- Every host is valid, and none shares an identity. -/
def validateHostRegistry (desired : HostRegistry) : Except String Unit := do
  rejectIf (desired.schemaVersion ≠ 1 ∨ desired.hosts = [])
    "host registry requires schema_version=1 and registered hosts"
  validateHosts ⟨[], [], none⟩ desired.hosts

variable {registry : HostRegistry}

/-- Every host of an accepted registry passed its turn of the scan. -/
theorem exists_scan_of_registered {host : FleetHost}
    (hregistry : validateHostRegistry registry = .ok ()) (hhost : host ∈ registry.hosts) :
    ∃ s s', validateRegisteredHost s host = .ok s' := by
  have hall : ∀ {scan : RegistryScan} {hosts : List FleetHost}, validateHosts scan hosts = .ok () →
      ∀ h ∈ hosts, ∃ s s', validateRegisteredHost s h = .ok s' := by
    intro scan hosts
    induction hosts generalizing scan with
    | nil => simp
    | cons h hosts ih =>
      intro hok
      simp only [validateHosts, ok_iff] at hok
      obtain ⟨scan', hscan, hrest⟩ := hok
      exact List.forall_mem_cons.mpr ⟨⟨_, _, hscan⟩, ih hrest⟩
  simp only [validateHostRegistry, ok_iff] at hregistry
  exact hall hregistry.2 host hhost

theorem hostToken_of_registered {host : FleetHost}
    (hregistry : validateHostRegistry registry = .ok ()) (hhost : host ∈ registry.hosts) :
    hostToken host.machineId 64 = true := by
  obtain ⟨s, s', hok⟩ := exists_scan_of_registered hregistry hhost
  simp only [validateRegisteredHost, ok_iff, not_or, not_not] at hok
  exact hok.1.1

/-! ## The paths of application specs -/

/-- The bytes of a slug. -/
def slugByte (ch : UInt8) : Bool := isAsciiLowercase ch || isAsciiDigit ch || ch = 45 || ch = 95

/-- One file of the application directory, named by its slug. -/
def ApplicationFile (path : String) : Prop :=
  ∃ slug, slug ≠ "" ∧ (utf8 slug).all slugByte = true ∧ path = "infra/application/" ++ slug ++ ".json"

/-- The directory or the extension stands twice. -/
def AffixRepeated (path : String) : Prop :=
  utf8 "infra/application/infra/application/" <+: utf8 path ∨ utf8 ".json.json" <:+ utf8 path

instance (path : String) : Decidable (AffixRepeated path) := inferInstanceAs (Decidable (_ ∨ _))

theorem trimStartMatches_once {p b : Bytes} {fuel : Nat} (hp : p ≠ []) (hfuel : fuel ≠ 0) (hb : ¬ p <+: b) :
    trimStartMatches p fuel (p ++ b) = b := by
  have hstop : ∀ n, trimStartMatches p n b = b := by
    intro n
    cases n with
    | zero => rfl
    | succ n => rw [trimStartMatches, if_neg (by simp [hb])]
  obtain ⟨n, rfl⟩ := Nat.exists_eq_succ_of_ne_zero hfuel
  rw [trimStartMatches, if_pos (by simp [hp]), List.drop_left, hstop]

theorem trimEndMatches_once {p b : Bytes} (hp : p ≠ []) (hb : ¬ p <:+ b) :
    trimEndMatches p (b ++ p) = b := by
  rw [trimEndMatches, List.reverse_append, trimStartMatches_once (by simpa using hp) (by simp [hp])
    (by simpa using hb), List.reverse_reverse]

theorem affixRepeated_iff {inner : String} : AffixRepeated ("infra/application/" ++ inner ++ ".json") ↔
    utf8 "infra/application/" <+: utf8 inner ++ utf8 ".json" ∨
    utf8 ".json" <:+ utf8 "infra/application/" ++ utf8 inner := by
  have hdirs : utf8 "infra/application/infra/application/" = utf8 "infra/application/" ++
      utf8 "infra/application/" :=
    utf8_append "infra/application/" "infra/application/"
  have hexts : utf8 ".json.json" = utf8 ".json" ++ utf8 ".json" := utf8_append ".json" ".json"
  rw [AffixRepeated, hdirs, hexts, utf8_append, utf8_append, List.suffix_append_self_iff, List.append_assoc,
    List.prefix_append_right_inj]

/-- A slug has neither the directory's `/` nor the extension's `.`. -/
theorem ApplicationFile.not_affixRepeated {path : String} (h : ApplicationFile path) :
    ¬ AffixRepeated path := by
  obtain ⟨slug, -, hslug, rfl⟩ := h
  have hno : ∀ ch, slugByte ch = false → ch ∉ utf8 slug := fun ch hch hmem =>
    absurd (List.all_eq_true.mp hslug ch hmem) (by simp [hch])
  rw [affixRepeated_iff]
  rintro (hdir | hext)
  · rcases List.mem_append.mp (hdir.subset (show (47 : UInt8) ∈ _ by decide)) with hmem | hmem
    · exact hno 47 (by decide) hmem
    · exact absurd hmem (by decide)
  · rcases List.mem_append.mp (hext.subset (show (46 : UInt8) ∈ _ by decide)) with hmem | hmem
    · exact absurd hmem (by decide)
    · exact hno 46 (by decide) hmem

/-- An accepted path has the directory and the extension around it, and they do not overlap. -/
theorem exists_inner_of_allowed {path : String} (h : applicationSpecAllowed path = true) :
    ∃ inner, path = "infra/application/" ++ inner ++ ".json" := by
  simp only [applicationSpecAllowed, Bool.and_eq_true, startsWith_iff, endsWith_iff] at h
  obtain ⟨tail, htail⟩ := h.1.1.1.1
  obtain ⟨start, hstart⟩ := h.1.1.1.2
  rcases List.append_eq_append_iff.mp (htail.trans hstart.symm) with ⟨inner, rfl, -⟩ | ⟨common, hdir, hext⟩
  · exact ⟨String.ofList inner, String.toList_inj.mp (by simp [← hstart])⟩
  · cases common with
    | nil =>
      obtain rfl : ".json".toList = tail := hext
      exact ⟨"", String.toList_inj.mp htail.symm⟩
    | cons c common =>
      -- the extension would begin inside the directory, which has no `.`
      have hdot : c = '.' := by simpa using congrArg List.head? hext.symm
      exact absurd (hdir ▸ by simp [hdot] : '.' ∈ "infra/application/".toList) (by decide)

/-- The check strips the directory and the extension as often as they stand there, so it is exact where each
    stands once. -/
theorem applicationFile_iff {path : String} (h : applicationSpecAllowed path = true) :
    ApplicationFile path ↔ ¬ AffixRepeated path := by
  refine ⟨ApplicationFile.not_affixRepeated, fun honce => ?_⟩
  obtain ⟨inner, rfl⟩ := exists_inner_of_allowed h
  rw [affixRepeated_iff, not_or] at honce
  simp only [applicationSpecAllowed, Bool.and_eq_true, decide_eq_true_eq] at h
  obtain ⟨⟨-, hall⟩, hne⟩ := h
  rw [utf8_append, utf8_append, List.append_assoc, trimStartMatches_once (by decide) (by simp) honce.1,
    trimEndMatches_once (by decide) fun hinner => honce.2 (hinner.trans (List.suffix_append _ _))] at hall
  refine ⟨inner, ?_, hall, rfl⟩
  rintro rfl
  exact hne rfl

theorem perHostSpecPath_not_application (host : FleetHost) :
    ¬ startsWith (perHostSpecPath host) "infra/application/" = true := by
  have hspecs := startsWith_append "infra/hosts/specs/" (host.machineId ++ ".textproto")
  rw [← String.append_assoc] at hspecs
  intro h
  have hcomparable := List.prefix_or_prefix_of_prefix (startsWith_iff.mp h) (startsWith_iff.mp hspecs)
  revert hcomparable
  decide

/-- The only spec paths under the application directory are those of that check. -/
theorem applicationSpecAllowed_of_registered {host : FleetHost}
    (hregistry : validateHostRegistry registry = .ok ()) (hhost : host ∈ registry.hosts)
    (hunder : startsWith host.desiredSpecPath "infra/application/" = true) :
    applicationSpecAllowed host.desiredSpecPath = true := by
  obtain ⟨s, s', hok⟩ := exists_scan_of_registered hregistry hhost
  simp only [validateRegisteredHost, ok_iff, not_or, not_not] at hok
  obtain ⟨-, -, kind, -, _, -, -, ⟨hallowed, -⟩, -⟩ := hok
  have htyped : host.desiredSpecPath ≠ perHostSpecPath host := fun heq =>
    absurd (heq ▸ hunder) (perHostSpecPath_not_application host)
  have hproduction : host.desiredSpecPath ≠ "infra/production/production.textproto" := fun heq =>
    absurd (heq ▸ hunder) (by decide)
  cases kind <;> simp [desiredSpecAllowed, htyped, hproduction] at hallowed
  exact hallowed

/-- **Where the spec paths of an accepted registry are exact.** A path under the application directory names
    one file of it exactly when neither the directory nor the extension stands twice. -/
theorem application_spec_exact_iff {host : FleetHost} (hregistry : validateHostRegistry registry = .ok ())
    (hhost : host ∈ registry.hosts) (hunder : startsWith host.desiredSpecPath "infra/application/" = true) :
    ApplicationFile host.desiredSpecPath ↔ ¬ AffixRepeated host.desiredSpecPath :=
  applicationFile_iff (applicationSpecAllowed_of_registered hregistry hhost hunder)

/-- A registry of one VM. -/
def registryOf (path : String) : HostRegistry :=
  ⟨1, [⟨"vm", toI32 FleetHostKind.vm, some (.vmMachineId "vm"), "", path, none, [], [], none, [], ""⟩]⟩

theorem disposable_spec_exact :
    validateHostRegistry (registryOf "infra/application/disposable-acceptance.json") = .ok () ∧
      ApplicationFile "infra/application/disposable-acceptance.json" :=
  have hregistry :
      validateHostRegistry (registryOf "infra/application/disposable-acceptance.json") = .ok () := by
    decide +kernel
  ⟨hregistry, (application_spec_exact_iff hregistry (.head _) (by decide)).mpr (by decide)⟩

/-- A path that enters the directory twice, and one that has nothing but extensions, are accepted. -/
theorem repeated_affixes_accepted :
    (validateHostRegistry (registryOf "infra/application/infra/application/vm.json") = .ok () ∧
      ¬ ApplicationFile "infra/application/infra/application/vm.json") ∧
      validateHostRegistry (registryOf "infra/application/.json.json") = .ok () ∧
      ¬ ApplicationFile "infra/application/.json.json" :=
  ⟨⟨by decide +kernel, fun h => h.not_affixRepeated (by decide)⟩, by decide +kernel,
    fun h => h.not_affixRepeated (by decide)⟩

/-- A registry that is valid. -/
def decodeHostRegistry (D : Deps) (b : Bytes) : Except String HostRegistry := do
  let desired ← okOr (D.decodeRegistry b) "host protobuf decode failed"
  validateHostRegistry desired
  pure desired

end EdgePlatform.Host
