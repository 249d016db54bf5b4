import EdgePlatform.Host.Types

/-!
# `EdgePlatform.Host.Codec` — the protobuf encodings the journal and the signatures use

`encodeToVec` and `decode` of the records that are written to the journal (intent and result) or hashed
(the registered host), over `Foundation.Wire`. A record is laid out once, by its `layout`; decoding reads the
same numbers back, one `Layout.scan*` rule a field.
-/

namespace EdgePlatform.Host

open Foundation Foundation.Wire

/-! ## Network admission -/

def FleetWindowsNetworkAdmission.layout (a : FleetWindowsNetworkAdmission) : Layout :=
  [(1, u32Value a.schemaVersion), (2, stringValue a.machineId), (3, stringValue a.operationId),
    (4, bytesValue a.installedReleaseSha256), (5, bytesValue a.desiredReleaseSetSha256),
    (6, bytesValue a.configSha256), (7, bytesValue a.beforeNetworkSha256),
    (8, u64Value a.observedAtUnix), (9, u64Value a.expiresAtUnix),
    (10, bytesValue a.line1WitnessSha256), (11, bytesValue a.controlWitnessSha256),
    (12, bytesValue a.dnsWitnessSha256), (13, bytesValue a.systemSignature)]

def FleetWindowsNetworkAdmission.encodeToVec (a : FleetWindowsNetworkAdmission) : Bytes :=
  a.layout.encode

def FleetWindowsNetworkAdmission.decode (b : Bytes) : Option FleetWindowsNetworkAdmission := do
  let fs ← decodeFields b
  let schemaVersion ← scanU32 1 fs
  let machineId ← scanString 2 fs
  let operationId ← scanString 3 fs
  let installedReleaseSha256 ← scanBytes 4 [] fs
  let desiredReleaseSetSha256 ← scanBytes 5 [] fs
  let configSha256 ← scanBytes 6 [] fs
  let beforeNetworkSha256 ← scanBytes 7 [] fs
  let observedAtUnix ← scanU64 8 fs
  let expiresAtUnix ← scanU64 9 fs
  let line1WitnessSha256 ← scanBytes 10 [] fs
  let controlWitnessSha256 ← scanBytes 11 [] fs
  let dnsWitnessSha256 ← scanBytes 12 [] fs
  let systemSignature ← scanBytes 13 [] fs
  some { schemaVersion, machineId, operationId, installedReleaseSha256, desiredReleaseSetSha256,
         configSha256, beforeNetworkSha256, observedAtUnix, expiresAtUnix, line1WitnessSha256,
         controlWitnessSha256, dnsWitnessSha256, systemSignature }

@[simp] theorem FleetWindowsNetworkAdmission.decode_encodeToVec (a : FleetWindowsNetworkAdmission) :
    FleetWindowsNetworkAdmission.decode a.encodeToVec = some a := by
  have hplain : ∀ e ∈ a.layout, PlainEntry e := by
    simp [layout, u32Value, u64Value, stringValue, plainEntry_nat, plainEntry_bytes]
  have hnd : (a.layout.map Prod.fst).Nodup := (by decide : (List.range' 1 13).Nodup)
  have hmem : ∀ k {e}, a.layout[k]? = some e → e ∈ a.layout := fun _ => List.mem_of_getElem?
  refine bind_of_eq_some (Layout.decodeFields_encode hplain) ?_
  refine bind_of_eq_some (Layout.scanU32 hnd (hmem 0 rfl)) ?_
  refine bind_of_eq_some (Layout.scanString hnd (hmem 1 rfl)) ?_
  refine bind_of_eq_some (Layout.scanString hnd (hmem 2 rfl)) ?_
  refine bind_of_eq_some (Layout.scanBytes hnd (hmem 3 rfl)) ?_
  refine bind_of_eq_some (Layout.scanBytes hnd (hmem 4 rfl)) ?_
  refine bind_of_eq_some (Layout.scanBytes hnd (hmem 5 rfl)) ?_
  refine bind_of_eq_some (Layout.scanBytes hnd (hmem 6 rfl)) ?_
  refine bind_of_eq_some (Layout.scanU64 hnd (hmem 7 rfl)) ?_
  refine bind_of_eq_some (Layout.scanU64 hnd (hmem 8 rfl)) ?_
  refine bind_of_eq_some (Layout.scanBytes hnd (hmem 9 rfl)) ?_
  refine bind_of_eq_some (Layout.scanBytes hnd (hmem 10 rfl)) ?_
  refine bind_of_eq_some (Layout.scanBytes hnd (hmem 11 rfl)) ?_
  exact bind_of_eq_some (Layout.scanBytes hnd (hmem 12 rfl)) rfl

/-! ## Intents -/

def FleetHostIntent.layout (i : FleetHostIntent) : Layout :=
  [(1, u32Value i.schemaVersion), (2, stringValue i.machineId), (3, i32Value i.kind),
    (4, stringValue i.resourceId), (5, stringValue i.operationId), (6, i32Value i.action),
    (7, bytesValue i.registrySha256), (8, bytesValue i.desiredSha256),
    (9, bytesValue i.releaseSetSha256), (10, i32Value i.requestedMode),
    (11, u64Value i.requestedAtUnix),
    (12, messageValue (i.networkAdmission.map FleetWindowsNetworkAdmission.encodeToVec))]

def FleetHostIntent.encodeToVec (i : FleetHostIntent) : Bytes := i.layout.encode

def FleetHostIntent.decode (b : Bytes) : Option FleetHostIntent := do
  let fs ← decodeFields b
  let schemaVersion ← scanU32 1 fs
  let machineId ← scanString 2 fs
  let kind ← scanI32 3 fs
  let resourceId ← scanString 4 fs
  let operationId ← scanString 5 fs
  let action ← scanI32 6 fs
  let registrySha256 ← scanBytes 7 [] fs
  let desiredSha256 ← scanBytes 8 [] fs
  let releaseSetSha256 ← scanBytes 9 [] fs
  let requestedMode ← scanI32 10 fs
  let requestedAtUnix ← scanU64 11 fs
  let admission ← scanMessage 12 none fs
  let networkAdmission ← match admission with
    | none => some none
    | some a => (FleetWindowsNetworkAdmission.decode a).map some
  some { schemaVersion, machineId, kind, resourceId, operationId, action, registrySha256, desiredSha256,
         releaseSetSha256, requestedMode, requestedAtUnix, networkAdmission }

/-- **An encoded intent is read back exactly.** -/
@[simp] theorem FleetHostIntent.decode_encodeToVec (i : FleetHostIntent) :
    FleetHostIntent.decode i.encodeToVec = some i := by
  have hplain : ∀ e ∈ i.layout, PlainEntry e := by
    simp [layout, u32Value, u64Value, i32Value, stringValue, plainEntry_nat, plainEntry_bytes,
      plainEntry_message]
  have hnd : (i.layout.map Prod.fst).Nodup := (by decide : (List.range' 1 12).Nodup)
  have hmem : ∀ k {e}, i.layout[k]? = some e → e ∈ i.layout := fun _ => List.mem_of_getElem?
  refine bind_of_eq_some (Layout.decodeFields_encode hplain) ?_
  refine bind_of_eq_some (Layout.scanU32 hnd (hmem 0 rfl)) ?_
  refine bind_of_eq_some (Layout.scanString hnd (hmem 1 rfl)) ?_
  refine bind_of_eq_some (Layout.scanI32 hnd (hmem 2 rfl)) ?_
  refine bind_of_eq_some (Layout.scanString hnd (hmem 3 rfl)) ?_
  refine bind_of_eq_some (Layout.scanString hnd (hmem 4 rfl)) ?_
  refine bind_of_eq_some (Layout.scanI32 hnd (hmem 5 rfl)) ?_
  refine bind_of_eq_some (Layout.scanBytes hnd (hmem 6 rfl)) ?_
  refine bind_of_eq_some (Layout.scanBytes hnd (hmem 7 rfl)) ?_
  refine bind_of_eq_some (Layout.scanBytes hnd (hmem 8 rfl)) ?_
  refine bind_of_eq_some (Layout.scanI32 hnd (hmem 9 rfl)) ?_
  refine bind_of_eq_some (Layout.scanU64 hnd (hmem 10 rfl)) ?_
  refine bind_of_eq_some (Layout.scanMessage hnd (hmem 11 rfl)) ?_
  obtain ⟨_, _, _, _, _, _, _, _, _, _, _, admission⟩ := i
  cases admission <;> simp

theorem FleetHostIntent.encodeToVec_injective : Function.Injective FleetHostIntent.encodeToVec := by
  intro i j h
  have := congrArg FleetHostIntent.decode h
  simpa using this

/-- The size of an intent without a network admission, by its strings and digests. -/
theorem FleetHostIntent.length_encodeToVec_le {i : FleetHostIntent} (hnet : i.networkAdmission = none)
    {m : Nat} (hmachine : (utf8 i.machineId).length ≤ m) (hresource : (utf8 i.resourceId).length ≤ m)
    (hop : (utf8 i.operationId).length ≤ m) (hregistry : i.registrySha256.length ≤ m)
    (hdesired : i.desiredSha256.length ≤ m) (hrelease : i.releaseSetSha256.length ≤ m) (hm : m ≤ 1024) :
    i.encodeToVec.length ≤ 12 * (20 + m) := by
  have hbytes : ∀ k (b : Bytes), k < 2 ^ 60 → b.length ≤ m →
      (encodeFields (put k (bytesValue b))).length ≤ 20 + m :=
    fun k b hk hb => length_put_bytes hk hb (by omega)
  refine Layout.length_encode_le (l := i.layout) ?_
  simp only [layout, List.forall_mem_cons]
  refine ⟨?_, ?_, ?_, ?_, ?_, ?_, ?_, ?_, ?_, ?_, ?_, ?_, by simp⟩
  · exact length_put_u32 _ (by decide)
  · exact hbytes _ _ (by decide) hmachine
  · exact length_put_i32 _ (by decide)
  · exact hbytes _ _ (by decide) hresource
  · exact hbytes _ _ (by decide) hop
  · exact length_put_i32 _ (by decide)
  · exact hbytes _ _ (by decide) hregistry
  · exact hbytes _ _ (by decide) hdesired
  · exact hbytes _ _ (by decide) hrelease
  · exact length_put_i32 _ (by decide)
  · exact length_put_u64 _ (by decide)
  · rw [hnet]
    exact Nat.zero_le _

theorem FleetHostIntent.encodeToVec_ne_nil {i : FleetHostIntent} (h : i.schemaVersion ≠ 0) :
    i.encodeToVec ≠ [] := by
  intro hnil
  have hdecode := FleetHostIntent.decode_encodeToVec i
  rw [hnil] at hdecode
  cases Option.some.inj hdecode
  exact h rfl

/-! ## Results -/

def FleetHostResult.layout (r : FleetHostResult) : Layout :=
  [(1, u32Value r.schemaVersion), (2, stringValue r.machineId), (3, stringValue r.resourceId),
    (4, stringValue r.operationId), (5, i32Value r.action), (6, i32Value r.state),
    (7, bytesValue r.releaseSetSha256), (8, bytesValue r.desiredSha256),
    (9, u64Value r.observedAtUnix), (10, stringValue r.errorClass), (11, stringValue r.nextAction),
    (12, boolValue r.physicalReadback), (13, i32Value r.reason)]

def FleetHostResult.encodeToVec (r : FleetHostResult) : Bytes := r.layout.encode

def FleetHostResult.decode (b : Bytes) : Option FleetHostResult := do
  let fs ← decodeFields b
  let schemaVersion ← scanU32 1 fs
  let machineId ← scanString 2 fs
  let resourceId ← scanString 3 fs
  let operationId ← scanString 4 fs
  let action ← scanI32 5 fs
  let state ← scanI32 6 fs
  let releaseSetSha256 ← scanBytes 7 [] fs
  let desiredSha256 ← scanBytes 8 [] fs
  let observedAtUnix ← scanU64 9 fs
  let errorClass ← scanString 10 fs
  let nextAction ← scanString 11 fs
  let physicalReadback ← scanBool 12 fs
  let reason ← scanI32 13 fs
  some { schemaVersion, machineId, resourceId, operationId, action, state, releaseSetSha256, desiredSha256,
         observedAtUnix, errorClass, nextAction, physicalReadback, reason }

/-- **An encoded result is read back exactly.** -/
@[simp] theorem FleetHostResult.decode_encodeToVec (r : FleetHostResult) :
    FleetHostResult.decode r.encodeToVec = some r := by
  have hplain : ∀ e ∈ r.layout, PlainEntry e := by
    simp [layout, u32Value, u64Value, i32Value, boolValue, stringValue, plainEntry_nat, plainEntry_bytes]
  have hnd : (r.layout.map Prod.fst).Nodup := (by decide : (List.range' 1 13).Nodup)
  have hmem : ∀ k {e}, r.layout[k]? = some e → e ∈ r.layout := fun _ => List.mem_of_getElem?
  refine bind_of_eq_some (Layout.decodeFields_encode hplain) ?_
  refine bind_of_eq_some (Layout.scanU32 hnd (hmem 0 rfl)) ?_
  refine bind_of_eq_some (Layout.scanString hnd (hmem 1 rfl)) ?_
  refine bind_of_eq_some (Layout.scanString hnd (hmem 2 rfl)) ?_
  refine bind_of_eq_some (Layout.scanString hnd (hmem 3 rfl)) ?_
  refine bind_of_eq_some (Layout.scanI32 hnd (hmem 4 rfl)) ?_
  refine bind_of_eq_some (Layout.scanI32 hnd (hmem 5 rfl)) ?_
  refine bind_of_eq_some (Layout.scanBytes hnd (hmem 6 rfl)) ?_
  refine bind_of_eq_some (Layout.scanBytes hnd (hmem 7 rfl)) ?_
  refine bind_of_eq_some (Layout.scanU64 hnd (hmem 8 rfl)) ?_
  refine bind_of_eq_some (Layout.scanString hnd (hmem 9 rfl)) ?_
  refine bind_of_eq_some (Layout.scanString hnd (hmem 10 rfl)) ?_
  refine bind_of_eq_some (Layout.scanBool hnd (hmem 11 rfl)) ?_
  exact bind_of_eq_some (Layout.scanI32 hnd (hmem 12 rfl)) rfl

/-! ## Registered hosts -/

def FleetHostTarget.encodeToVec (t : FleetHostTarget) : Bytes :=
  encodeFields (put 1 (i32Value t.runState) ++ put 2 (i32Value t.windowsMode))

def FleetVmContainer.encodeToVec (c : FleetVmContainer) : Bytes :=
  encodeFields (put 1 (stringValue c.containerName) ++ put 2 (stringValue c.composeProject) ++
    put 3 (stringValue c.composeService))

def FleetVmFirstUseCredential.encodeToVec (c : FleetVmFirstUseCredential) : Bytes :=
  encodeFields (put 1 (u64Value c.generation) ++ put 2 (stringValue c.bundleSha256))

/-- A `oneof` member is written even when it is empty. -/
def FleetHostOwner.field : FleetHostOwner → Field
  | .windowsRunnerName name => (3, .len (utf8 name))
  | .vmMachineId name => (4, .len (utf8 name))

def FleetHost.encodeToVec (h : FleetHost) : Bytes :=
  encodeFields (put 1 (stringValue h.machineId) ++ put 2 (i32Value h.kind) ++
    (h.owner.map FleetHostOwner.field).toList ++ put 5 (stringValue h.windowsRunnerLabel) ++
    put 6 (stringValue h.desiredSpecPath) ++
    put 7 (messageValue (h.target.map FleetHostTarget.encodeToVec)) ++
    h.vmContainers.map (fun c => (8, .len c.encodeToVec)) ++ put 9 (bytesValue h.nativeReceiptPublicKey) ++
    put 10 (messageValue (h.vmFirstUseCredential.map FleetVmFirstUseCredential.encodeToVec)) ++
    put 11 (bytesValue h.workerAuthorityPublicKey) ++ put 12 (stringValue h.vmProviderSpecPath))

theorem FleetHostResult.length_encodeToVec_le {r : FleetHostResult} {m : Nat}
    (hmachine : (utf8 r.machineId).length ≤ m) (hresource : (utf8 r.resourceId).length ≤ m)
    (hop : (utf8 r.operationId).length ≤ m) (hrelease : r.releaseSetSha256.length ≤ m)
    (hdesired : r.desiredSha256.length ≤ m) (herror : (utf8 r.errorClass).length ≤ m)
    (hnext : (utf8 r.nextAction).length ≤ m) (hm : m ≤ 1024) : r.encodeToVec.length ≤ 13 * (20 + m) := by
  have hbytes : ∀ k (b : Bytes), k < 2 ^ 60 → b.length ≤ m →
      (encodeFields (put k (bytesValue b))).length ≤ 20 + m :=
    fun k b hk hb => length_put_bytes hk hb (by omega)
  refine Layout.length_encode_le (l := r.layout) ?_
  simp only [layout, List.forall_mem_cons]
  refine ⟨?_, ?_, ?_, ?_, ?_, ?_, ?_, ?_, ?_, ?_, ?_, ?_, ?_, by simp⟩
  · exact length_put_u32 _ (by decide)
  · exact hbytes _ _ (by decide) hmachine
  · exact hbytes _ _ (by decide) hresource
  · exact hbytes _ _ (by decide) hop
  · exact length_put_i32 _ (by decide)
  · exact length_put_i32 _ (by decide)
  · exact hbytes _ _ (by decide) hrelease
  · exact hbytes _ _ (by decide) hdesired
  · exact length_put_u64 _ (by decide)
  · exact hbytes _ _ (by decide) herror
  · exact hbytes _ _ (by decide) hnext
  · exact length_put_bool _ (by decide)
  · exact length_put_i32 _ (by decide)

/-- A result of a known schema has at least one byte. -/
theorem FleetHostResult.encodeToVec_ne_nil {r : FleetHostResult} (h : r.schemaVersion ≠ 0) :
    r.encodeToVec ≠ [] := by
  intro hnil
  have hdecode := FleetHostResult.decode_encodeToVec r
  rw [hnil] at hdecode
  cases Option.some.inj hdecode
  exact h rfl

end EdgePlatform.Host
