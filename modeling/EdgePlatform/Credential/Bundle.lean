import EdgePlatform.Credential.Types
import EdgePlatform.Foundation.Lines
import EdgePlatform.Foundation.Proc

/-!
# `EdgePlatform.Credential.Bundle` — validation and identity of bundles and of the local state

The checks of `edge-shared-types` that stand between bytes and a bundle or a state that the store works with,
with their error texts. A bundle is identified by the digest of its canonical encoding; a reference records
that digest with the bundle's generation and slot. A rotation delta becomes a full bundle by
`materializeCredentialDeliveryCandidate`.

At the end of each group stands what its acceptance means: a state that passes has at most one of candidate
and previous, and its active reference differs from the other in generation, digest and slot.
-/

namespace EdgePlatform.Credential

open Foundation Foundation.Wire

/-! ## Credential material -/

/-- Exactly `size` lower-case hexadecimal digits. -/
def isLowerHexText (value : String) (size : Nat) : Bool :=
  (utf8 value).length = size && (utf8 value).all isLowerHex

/-- Lower-case hexadecimal. -/
def validateLowerHex (label value : String) (expectedLen : Nat) : Except String Unit :=
  rejectIf (¬ isLowerHexText value expectedLen)
    s!"{label} must be exactly {expectedLen} lowercase hexadecimal characters"

/-- The character at a position of a lower-case UUID. -/
def uuidChar (index : Nat) (c : Char) : Bool :=
  if index ∈ [8, 13, 18, 23] then c == '-'
  else c.isDigit || ('a' ≤ c && c ≤ 'f')

/-- A UUID in lower case. -/
def validateLowerUuid (label value : String) : Except String Unit :=
  rejectIf ((utf8 value).length ≠ 36 ∨ ¬ value.toList.zipIdx.all fun e => uuidChar e.2 e.1)
    s!"{label} must be a lowercase UUID"

/-- An X25519 key in unpadded base64url. -/
def validateRealityKey (label value : String) : Except String Unit :=
  rejectIf ((utf8 value).length ≠ 43 ∨ ¬ (utf8 value).all fun b => isAsciiAlphanumeric b ||
      b == 95 || b == 45)
    s!"{label} must be a 43-character unpadded base64url X25519 key"

/-- A UUID, a password and a short id. -/
def validateTunnelAuthentication (label : String) (value : TunnelAuthentication) : Except String Unit := do
  validateLowerUuid s!"{label}.vless_uuid" value.vlessUuid
  validateLowerHex s!"{label}.hysteria2_password" value.hysteria2Password 64
  validateLowerHex s!"{label}.reality_short_id" value.realityShortId 16

/-- A public key. -/
def validateRealityPublicIdentity (label : String) (value : RealityPublicIdentity) : Except String Unit :=
  validateRealityKey s!"{label}.public_key" value.publicKey

/-- A private key. -/
def validateRealityPrivateIdentity (label : String) (value : RealityPrivateIdentity) : Except String Unit :=
  validateRealityKey s!"{label}.private_key" value.privateKey

/-- The check of a generation, given the check of the material of one line. -/
def validateLineGeneration {α : Type} (validateLine : String → α → Except String Unit) (label : String)
    (value : LineGeneration α) : Except String Unit := do
  rejectIf (value.generation = 0) s!"{label}.generation must be greater than zero"
  let direct ← okOr value.direct s!"{label}.direct is required"
  validateLine s!"{label}.direct" direct
  let warp ← okOr value.warp s!"{label}.warp is required"
  validateLine s!"{label}.warp" warp

/-- Both lines and a generation. -/
def validateTunnelAuthGeneration : String → TunnelAuthenticationGeneration → Except String Unit :=
  validateLineGeneration validateTunnelAuthentication

/-- Both lines and a generation. -/
def validateRealityPublicGeneration : String → RealityPublicIdentityGeneration → Except String Unit :=
  validateLineGeneration validateRealityPublicIdentity

/-- Both lines and a generation. -/
def validateRealityPrivateGeneration : String → RealityPrivateIdentityGeneration → Except String Unit :=
  validateLineGeneration validateRealityPrivateIdentity

/-- A password under a positive generation. -/
def validateProxyCredentialGeneration (label : String) (value : ProxyCredentialGeneration) :
    Except String Unit := do
  rejectIf (value.generation = 0) s!"{label}.generation must be greater than zero"
  validateLowerHex s!"{label}.password" value.password 64

/-! ## Payloads -/

/-- Windows has tunnel authentication and public identities. -/
def validateWindowsCredentialProjection (value : WindowsCredentialProjection) : Except String Unit := do
  let tunnelAuth ← okOr value.tunnelAuth "Windows credential projection requires tunnel authentication"
  validateTunnelAuthGeneration "WindowsCredentialProjection.tunnel_auth" tunnelAuth
  let realityIdentity ← okOr value.realityIdentity "Windows credential projection requires Reality identity"
  validateRealityPublicGeneration "WindowsCredentialProjection.reality_identity" realityIdentity

/-- The VM has private identities and the Line 2 proxy, too. -/
def validateVmCredentialProjection (value : VmCredentialProjection) : Except String Unit := do
  let tunnelAuth ← okOr value.tunnelAuth "VM credential projection requires tunnel authentication"
  validateTunnelAuthGeneration "VmCredentialProjection.tunnel_auth" tunnelAuth
  let realityIdentity ← okOr value.realityIdentity "VM credential projection requires Reality identity"
  validateRealityPrivateGeneration "VmCredentialProjection.reality_identity" realityIdentity
  let line2 ← okOr value.line2Proxy "VM credential projection requires Line 2 proxy credentials"
  validateProxyCredentialGeneration "VmCredentialProjection.line2_proxy" line2

/-- A class that is named. -/
def validateRotationClass (value : Int32) : Except String CredentialRotationClass := do
  let cls ← okOr (tryFrom CredentialRotationClass value) "credential rotation class is unknown"
  rejectIf (cls = .unspecified) "credential rotation class is required"
  pure cls

/-- Only the credentials of the class, of this generation. -/
def validateWindowsCredentialRotationDelta (deliveryGeneration : UInt64)
    (value : WindowsCredentialRotationDelta) : Except String Unit := do
  match ← validateRotationClass value.credentialClass with
  | .tunnelAuth =>
    let tunnel ← okOr value.tunnelAuth "Windows tunnel-auth rotation requires tunnel_auth"
    rejectIf (value.realityIdentity ≠ none) "Windows tunnel-auth rotation must not carry Reality identity"
    validateTunnelAuthGeneration "WindowsCredentialRotationDelta.tunnel_auth" tunnel
    rejectIf (tunnel.generation ≠ deliveryGeneration)
      "Windows tunnel-auth rotation generation must equal delivery generation"
  | .realityIdentity =>
    rejectIf (value.tunnelAuth ≠ none) "Windows Reality rotation must not carry tunnel authentication"
    let reality ← okOr value.realityIdentity "Windows Reality rotation requires reality_identity"
    validateRealityPublicGeneration "WindowsCredentialRotationDelta.reality_identity" reality
    rejectIf (reality.generation ≠ deliveryGeneration)
      "Windows Reality rotation generation must equal delivery generation"
  | .line2ProxyAuth =>
    rejectIf (value.tunnelAuth ≠ none ∨ value.realityIdentity ≠ none)
      "Windows Line 2 rotation carries no Windows secret material"
  -- `validateRotationClass` never answers `unspecified`
  | .unspecified => pure ()

/-- Only the credentials of the class, of this generation. -/
def validateVmCredentialRotationDelta (deliveryGeneration : UInt64) (value : VmCredentialRotationDelta) :
    Except String Unit := do
  match ← validateRotationClass value.credentialClass with
  | .tunnelAuth =>
    let tunnel ← okOr value.tunnelAuth "VM tunnel-auth rotation requires tunnel_auth"
    rejectIf (value.realityIdentity ≠ none ∨ value.line2Proxy ≠ none)
      "VM tunnel-auth rotation must carry only tunnel authentication"
    validateTunnelAuthGeneration "VmCredentialRotationDelta.tunnel_auth" tunnel
    rejectIf (tunnel.generation ≠ deliveryGeneration)
      "VM tunnel-auth rotation generation must equal delivery generation"
  | .realityIdentity =>
    rejectIf (value.tunnelAuth ≠ none ∨ value.line2Proxy ≠ none)
      "VM Reality rotation must carry only Reality identity"
    let reality ← okOr value.realityIdentity "VM Reality rotation requires reality_identity"
    validateRealityPrivateGeneration "VmCredentialRotationDelta.reality_identity" reality
    rejectIf (reality.generation ≠ deliveryGeneration)
      "VM Reality rotation generation must equal delivery generation"
  | .line2ProxyAuth =>
    rejectIf (value.tunnelAuth ≠ none ∨ value.realityIdentity ≠ none)
      "VM Line 2 rotation must carry only line2_proxy"
    let line2 ← okOr value.line2Proxy "VM Line 2 rotation requires line2_proxy"
    validateProxyCredentialGeneration "VmCredentialRotationDelta.line2_proxy" line2
    rejectIf (line2.generation ≠ deliveryGeneration)
      "VM Line 2 rotation generation must equal delivery generation"
  | .unspecified => pure ()

/-! ## Bundles -/

/-- A real bundle has a slot and a payload of its projection; a dummy has neither. -/
def validateCredentialDeliveryBundle (bundle : CredentialDeliveryBundle) : Except String Unit := do
  rejectIf (bundle.schemaVersion ≠ 1)
    s!"unsupported credential-delivery schema_version {bundle.schemaVersion}"
  rejectIf (bundle.generation = 0) "credential-delivery generation must be greater than zero"
  let projection ← okOr (tryFrom CredentialProjectionKind bundle.projection)
    "credential-delivery projection is unknown"
  rejectIf (projection = .unspecified) "credential-delivery projection is required"
  let slot ← okOr (tryFrom CredentialDeliverySlot bundle.slot) "credential-delivery slot is unknown"
  if bundle.dummyNonSecret then
    rejectIf (slot ≠ .unspecified) "dummy credential-delivery bundle must not claim a real A/B slot"
    rejectIf (bundle.payload ≠ none) "dummy credential-delivery bundle must not carry a real payload"
  else
    rejectIf (slot = .unspecified) "real credential-delivery bundle requires fixed slot A or B"
    let payload ← okOr bundle.payload "real credential-delivery bundle requires a typed payload"
    match projection, payload with
    | .windows, .windows value => validateWindowsCredentialProjection value
    | .vm, .vm value => validateVmCredentialProjection value
    | .windows, .windowsRotation value => validateWindowsCredentialRotationDelta bundle.generation value
    | .vm, .vmRotation value => validateVmCredentialRotationDelta bundle.generation value
    | .windows, .vm _ | .windows, .vmRotation _ =>
      .error "Windows credential-delivery bundle cannot carry a VM payload"
    | .vm, .windows _ | .vm, .windowsRotation _ =>
      .error "VM credential-delivery bundle cannot carry a Windows payload"
    -- refused above
    | .unspecified, _ => pure ()

/-- Only an accepted bundle is encoded. -/
def encodeCredentialDeliveryBundle (bundle : CredentialDeliveryBundle) : Except String Bytes := do
  validateCredentialDeliveryBundle bundle
  pure (CredentialDeliveryBundle.codec.encode bundle)

/-- Only the canonical bytes of an accepted bundle are read. -/
def decodeCredentialDeliveryBundle (bytes : Bytes) : Except String CredentialDeliveryBundle := do
  let bundle ← okOr (CredentialDeliveryBundle.codec.decode bytes)
    "credential-delivery protobuf decode failed"
  validateCredentialDeliveryBundle bundle
  rejectIf (CredentialDeliveryBundle.codec.encode bundle ≠ bytes)
    "credential-delivery bundle is not canonical protobuf encoding"
  pure bundle

/-- The digest of the encoding. -/
def credentialDeliveryBundleSha256 (bundle : CredentialDeliveryBundle) : Except String String := do
  let bytes ← encodeCredentialDeliveryBundle bundle
  pure (hex (sha256 bytes))

/-- The payload replaces one class of credentials. -/
def credentialDeliveryIsRotationDelta (bundle : CredentialDeliveryBundle) : Bool :=
  match bundle.payload with
  | some (.windowsRotation _) | some (.vmRotation _) => true
  | _ => false

/-- The reference to a full, real bundle. -/
def localCredentialBundleRef (bundle : CredentialDeliveryBundle) :
    Except String LocalCredentialBundleRef := do
  validateCredentialDeliveryBundle bundle
  rejectIf bundle.dummyNonSecret "local credential state cannot reference a dummy delivery bundle"
  rejectIf (credentialDeliveryIsRotationDelta bundle)
    "local credential state cannot reference an unmaterialized rotation delta"
  let sha256 ← credentialDeliveryBundleSha256 bundle
  pure ⟨bundle.generation, bundle.slot, sha256⟩

/-- A rotation delta replaces the material of its class in the active projection. -/
def materializeWindows (active : WindowsCredentialProjection) (delta : WindowsCredentialRotationDelta) :
    Except String WindowsCredentialProjection := do
  match ← validateRotationClass delta.credentialClass with
  | .tunnelAuth => pure { active with tunnelAuth := delta.tunnelAuth }
  | .realityIdentity => pure { active with realityIdentity := delta.realityIdentity }
  | .line2ProxyAuth | .unspecified => pure active

def materializeVm (active : VmCredentialProjection) (delta : VmCredentialRotationDelta) :
    Except String VmCredentialProjection := do
  match ← validateRotationClass delta.credentialClass with
  | .tunnelAuth => pure { active with tunnelAuth := delta.tunnelAuth }
  | .realityIdentity => pure { active with realityIdentity := delta.realityIdentity }
  | .line2ProxyAuth => pure { active with line2Proxy := delta.line2Proxy }
  | .unspecified => pure active

/-- A full bundle as it is; a delta applied to the active bundle. -/
def materializeCredentialDeliveryCandidate (active : Option CredentialDeliveryBundle)
    (delivery : CredentialDeliveryBundle) : Except String CredentialDeliveryBundle := do
  validateCredentialDeliveryBundle delivery
  rejectIf delivery.dummyNonSecret "credential candidate materialization refuses dummy bundles"
  if ¬ credentialDeliveryIsRotationDelta delivery then
    let _ ← localCredentialBundleRef delivery
    pure delivery
  else
    let active ← okOr active "credential rotation delta requires one validated active local projection"
    validateCredentialDeliveryBundle active
    let _ ← localCredentialBundleRef active
    rejectIf (active.projection ≠ delivery.projection)
      "credential rotation delta projection differs from active projection"
    rejectIf (active.generation = delivery.generation)
      "credential rotation delivery generation must differ from active"
    rejectIf (active.slot = delivery.slot) "credential rotation delta must use the slot opposite active"
    let payload : Payload ← match active.payload, delivery.payload with
      | some (.windows active), some (.windowsRotation delta) =>
        Payload.windows <$> materializeWindows active delta
      | some (.vm active), some (.vmRotation delta) => Payload.vm <$> materializeVm active delta
      | _, _ => .error "credential rotation delta and active projection payloads do not match"
    let materialized : CredentialDeliveryBundle :=
      ⟨delivery.schemaVersion, delivery.generation, delivery.projection, false, delivery.slot, some payload⟩
    validateCredentialDeliveryBundle materialized
    let _ ← localCredentialBundleRef materialized
    pure materialized

/-! ## The local state -/

/-- A generation, a slot and a digest. -/
def validateLocalCredentialBundleRef (label : String) (reference : LocalCredentialBundleRef) :
    Except String Unit := do
  rejectIf (reference.generation = 0) s!"{label}.generation must be greater than zero"
  let slot ← okOr (tryFrom CredentialDeliverySlot reference.slot) s!"{label}.slot is unknown"
  rejectIf (slot ≠ .a ∧ slot ≠ .b) s!"{label}.slot must be A or B"
  validateLowerHex s!"{label}.sha256" reference.sha256 64

/-- Two references differ in generation, digest and slot. -/
def validateLocalCredentialRefsAreOpposite (leftLabel : String) (left : LocalCredentialBundleRef)
    (rightLabel : String) (right : LocalCredentialBundleRef) : Except String Unit := do
  rejectIf (left.generation = right.generation)
    s!"{leftLabel} and {rightLabel} must use different delivery generations"
  rejectIf (left.sha256 = right.sha256)
    s!"{leftLabel} and {rightLabel} must reference different bundle digests"
  rejectIf (left.slot = right.slot) s!"{leftLabel} and {rightLabel} must use opposite fixed A/B slots"

/-- A check of an optional reference. -/
def whenSome {α : Type} (x : Option α) (check : α → Except String Unit) : Except String Unit :=
  match x with
  | some a => check a
  | none => .ok ()

/-- A state refers to some bundle, and to no candidate beside a previous bundle. -/
def validateLocalCredentialState (state : LocalCredentialState) : Except String Unit := do
  rejectIf (state.schemaVersion ≠ 1)
    s!"unsupported local credential state schema_version {state.schemaVersion}"
  let projection ← okOr (tryFrom CredentialProjectionKind state.projection)
    "local credential state projection is unknown"
  rejectIf (projection = .unspecified) "local credential state projection is required"
  rejectIf (state.active = none ∧ state.candidate = none ∧ state.previous = none)
    "local credential state must reference at least one bundle"
  rejectIf (state.previous ≠ none ∧ state.active = none)
    "local credential previous state requires an active bundle"
  rejectIf (state.candidate ≠ none ∧ state.previous ≠ none)
    "local credential candidate and previous cannot coexist with fixed A/B transport"
  whenSome state.active (validateLocalCredentialBundleRef "active")
  whenSome state.candidate (validateLocalCredentialBundleRef "candidate")
  whenSome state.previous (validateLocalCredentialBundleRef "previous")
  whenSome state.active fun left => whenSome state.candidate fun right =>
    validateLocalCredentialRefsAreOpposite "active" left "candidate" right
  whenSome state.active fun left => whenSome state.previous fun right =>
    validateLocalCredentialRefsAreOpposite "active" left "previous" right

/-- Only an accepted state is encoded. -/
def encodeLocalCredentialState (state : LocalCredentialState) : Except String Bytes := do
  validateLocalCredentialState state
  pure (LocalCredentialState.codec.encode state)

/-- Only the canonical bytes of an accepted state are read. -/
def decodeLocalCredentialState (bytes : Bytes) : Except String LocalCredentialState := do
  let state ← okOr (LocalCredentialState.codec.decode bytes) "local credential state protobuf decode failed"
  validateLocalCredentialState state
  rejectIf (LocalCredentialState.codec.encode state ≠ bytes)
    "local credential state is not canonical protobuf encoding"
  pure state

/-- The bundle is the one referred to, of the projection. -/
def verifyLocalCredentialBundleReference (projection : CredentialProjectionKind)
    (reference : LocalCredentialBundleRef) (bundle : CredentialDeliveryBundle) : Except String Unit := do
  validateLocalCredentialBundleRef "bundle reference" reference
  validateCredentialDeliveryBundle bundle
  rejectIf bundle.dummyNonSecret "local credential state cannot reference a dummy delivery bundle"
  rejectIf (credentialDeliveryIsRotationDelta bundle)
    "local credential state cannot reference an unmaterialized rotation delta"
  rejectIf (bundle.projection ≠ toI32 projection)
    "local credential bundle projection does not match state projection"
  rejectIf (bundle.generation ≠ reference.generation)
    "local credential bundle generation does not match state reference"
  rejectIf (bundle.slot ≠ reference.slot) "local credential bundle slot does not match state reference"
  let sha256 ← credentialDeliveryBundleSha256 bundle
  rejectIf (sha256 ≠ reference.sha256) "local credential bundle digest does not match state reference"

/-! ## What acceptance means -/

theorem isLowerHexText_hex_sha256 (b : Bytes) : isLowerHexText (hex (sha256 b)) 64 = true := by
  obtain ⟨hlength, hall⟩ := utf8_hex (sha256 b)
  simp [isLowerHexText, hlength, hall]

/-- A lower-case hexadecimal text has no other characters. -/
theorem not_mem_of_isLowerHexText {value : String} {size : Nat} {c : Char}
    (h : isLowerHexText value size = true) (hc : (String.utf8EncodeChar c).all isLowerHex = false) :
    c ∉ value.toList := by
  simp only [isLowerHexText, Bool.and_eq_true] at h
  exact not_mem_of_bytes h.2 hc

variable {u : Unit}

theorem validateLowerHex_eq_ok {label value : String} {size : Nat} :
    validateLowerHex label value size = .ok u ↔ isLowerHexText value size = true := by
  simp [validateLowerHex]

@[simp] theorem whenSome_none {α : Type} (check : α → Except String Unit) : whenSome none check = .ok () :=
  rfl

@[simp] theorem whenSome_some {α : Type} (a : α) (check : α → Except String Unit) :
    whenSome (some a) check = check a := rfl

section Checked

variable {α : Type} {codec : Codec α} {check : α → Except String Unit} {a : α} {bytes : Bytes}
    {e e' : String}

/-- A decoder that refuses other encodings accepts exactly the canonical ones of what passes the check. -/
theorem decode_checked :
    (do
      let a ← okOr (codec.decode bytes) e
      check a
      rejectIf (codec.encode a ≠ bytes) e'
      pure a) = .ok a ↔ check a = .ok () ∧ bytes = codec.encode a := by
  constructor
  · intro h
    simp only [ok_iff] at h
    obtain ⟨b, -, hvalid, hcanonical, hb⟩ := h
    cases hb
    exact ⟨hvalid, (not_not.mp hcanonical).symm⟩
  · rintro ⟨hvalid, rfl⟩
    simp [ok_iff, okOr, hvalid, rejectIf]

theorem encode_checked :
    (check a >>= fun _ => pure (codec.encode a)) = .ok bytes ↔
    check a = .ok () ∧ bytes = codec.encode a := by
  simp only [ok_iff]
  exact ⟨fun ⟨hvalid, h⟩ => ⟨hvalid, (Except.ok.inj h).symm⟩, fun ⟨hvalid, h⟩ => ⟨hvalid, h ▸ rfl⟩⟩

end Checked

section Bundle

variable {bundle : CredentialDeliveryBundle} {bytes : Bytes}

/-- Decoding accepts exactly the canonical encodings of valid bundles. -/
theorem decodeCredentialDeliveryBundle_eq_ok :
    decodeCredentialDeliveryBundle bytes = .ok bundle ↔
      validateCredentialDeliveryBundle bundle = .ok () ∧
      bytes = CredentialDeliveryBundle.codec.encode bundle :=
  decode_checked

theorem encodeCredentialDeliveryBundle_eq_ok :
    encodeCredentialDeliveryBundle bundle = .ok bytes ↔
      validateCredentialDeliveryBundle bundle = .ok () ∧
      bytes = CredentialDeliveryBundle.codec.encode bundle :=
  encode_checked

theorem credentialDeliveryBundleSha256_eq_ok {digest : String} :
    credentialDeliveryBundleSha256 bundle = .ok digest ↔
      validateCredentialDeliveryBundle bundle = .ok () ∧
        digest = hex (sha256 (CredentialDeliveryBundle.codec.encode bundle)) := by
  simp only [credentialDeliveryBundleSha256, ok_iff, encodeCredentialDeliveryBundle_eq_ok]
  constructor
  · rintro ⟨b, ⟨hvalid, rfl⟩, h⟩
    exact ⟨hvalid, (Except.ok.inj h).symm⟩
  · rintro ⟨hvalid, rfl⟩
    exact ⟨_, ⟨hvalid, rfl⟩, rfl⟩

/-- A valid real bundle names a generation and one of the two slots. -/
theorem valid_bundle_slot (hvalid : validateCredentialDeliveryBundle bundle = .ok ())
    (hreal : bundle.dummyNonSecret = false) :
    bundle.generation ≠ 0 ∧
      (tryFrom CredentialDeliverySlot bundle.slot = some .a ∨
        tryFrom CredentialDeliverySlot bundle.slot = some .b) := by
  simp only [validateCredentialDeliveryBundle, ok_iff, hreal] at hvalid
  obtain ⟨-, hgeneration, projection, -, -, slot, hslot, hrest⟩ := hvalid
  simp only [Bool.false_eq_true, if_false, ok_iff] at hrest
  obtain ⟨hspecified, -⟩ := hrest
  refine ⟨hgeneration, ?_⟩
  cases slot with
  | unspecified => exact absurd rfl hspecified
  | a => exact .inl hslot
  | b => exact .inr hslot

variable {reference : LocalCredentialBundleRef}

theorem localCredentialBundleRef_eq_ok :
    localCredentialBundleRef bundle = .ok reference ↔
      validateCredentialDeliveryBundle bundle = .ok () ∧ bundle.dummyNonSecret = false ∧
        credentialDeliveryIsRotationDelta bundle = false ∧
        reference = ⟨bundle.generation, bundle.slot,
          hex (sha256 (CredentialDeliveryBundle.codec.encode bundle))⟩ := by
  simp only [localCredentialBundleRef, ok_iff, credentialDeliveryBundleSha256_eq_ok, Bool.not_eq_true]
  constructor
  · rintro ⟨hvalid, hdummy, hdelta, digest, ⟨-, rfl⟩, h⟩
    exact ⟨hvalid, hdummy, hdelta, (Except.ok.inj h).symm⟩
  · rintro ⟨hvalid, hdummy, hdelta, rfl⟩
    exact ⟨hvalid, hdummy, hdelta, _, ⟨hvalid, rfl⟩, rfl⟩

theorem validateLocalCredentialBundleRef_eq_ok {label : String} :
    validateLocalCredentialBundleRef label reference = .ok u ↔
      reference.generation ≠ 0 ∧
        (tryFrom CredentialDeliverySlot reference.slot = some .a ∨
          tryFrom CredentialDeliverySlot reference.slot = some .b) ∧
        isLowerHexText reference.sha256 64 = true := by
  simp only [validateLocalCredentialBundleRef, ok_iff, validateLowerHex_eq_ok, not_and, not_not]
  constructor
  · rintro ⟨hgeneration, slot, hslot, hab, hhex⟩
    refine ⟨hgeneration, ?_, hhex⟩
    by_cases ha : slot = .a
    · exact .inl (ha ▸ hslot)
    · exact .inr (hab ha ▸ hslot)
  · rintro ⟨hgeneration, hslot | hslot, hhex⟩
    · exact ⟨hgeneration, .a, hslot, fun h => absurd rfl h, hhex⟩
    · exact ⟨hgeneration, .b, hslot, fun _ => rfl, hhex⟩

/-- A bundle is what a reference says it is. -/
structure IsBundleOf (projection : CredentialProjectionKind) (reference : LocalCredentialBundleRef)
    (bundle : CredentialDeliveryBundle) : Prop where
  valid : validateCredentialDeliveryBundle bundle = .ok ()
  real : bundle.dummyNonSecret = false
  full : credentialDeliveryIsRotationDelta bundle = false
  projection : bundle.projection = toI32 projection
  reference : reference =
    ⟨bundle.generation, bundle.slot, hex (sha256 (CredentialDeliveryBundle.codec.encode bundle))⟩

theorem verifyLocalCredentialBundleReference_eq_ok {projection : CredentialProjectionKind} :
    verifyLocalCredentialBundleReference projection reference bundle = .ok u ↔
      IsBundleOf projection reference bundle := by
  simp only [verifyLocalCredentialBundleReference, ok_iff, validateLocalCredentialBundleRef_eq_ok,
    credentialDeliveryBundleSha256_eq_ok, Bool.not_eq_true, not_not]
  constructor
  · rintro ⟨-, hvalid, hdummy, hdelta, hprojection, hgeneration, hslot, digest, ⟨-, rfl⟩, hsha⟩
    refine ⟨hvalid, hdummy, hdelta, hprojection, ?_⟩
    cases reference
    simp only at hgeneration hslot hsha
    rw [hgeneration, hslot, hsha]
  · rintro ⟨hvalid, hdummy, hdelta, hprojection, rfl⟩
    obtain ⟨hgeneration, hslot⟩ := valid_bundle_slot hvalid hdummy
    exact ⟨⟨hgeneration, hslot, isLowerHexText_hex_sha256 _⟩, hvalid, hdummy, hdelta,
      hprojection, rfl, rfl, _, ⟨hvalid, rfl⟩, rfl⟩

end Bundle

section State

variable {state : LocalCredentialState} {bytes : Bytes}

theorem decodeLocalCredentialState_eq_ok :
    decodeLocalCredentialState bytes = .ok state ↔
      validateLocalCredentialState state = .ok () ∧ bytes = LocalCredentialState.codec.encode state :=
  decode_checked

theorem encodeLocalCredentialState_eq_ok :
    encodeLocalCredentialState state = .ok bytes ↔
      validateLocalCredentialState state = .ok () ∧ bytes = LocalCredentialState.codec.encode state :=
  encode_checked

/-- Two references that may stand beside each other. -/
structure Opposite (left right : LocalCredentialBundleRef) : Prop where
  generation : left.generation ≠ right.generation
  sha256 : left.sha256 ≠ right.sha256
  slot : left.slot ≠ right.slot

theorem validateLocalCredentialRefsAreOpposite_eq_ok {leftLabel rightLabel : String}
    {left right : LocalCredentialBundleRef} :
    validateLocalCredentialRefsAreOpposite leftLabel left rightLabel right = .ok u ↔
      Opposite left right := by
  simp only [validateLocalCredentialRefsAreOpposite, ok_iff]
  constructor
  · rintro ⟨hg, hs, hslot⟩
    exact ⟨hg, hs, hslot⟩
  · rintro ⟨hg, hs, hslot⟩
    exact ⟨hg, hs, hslot⟩

/-- The shape of an accepted state. -/
structure WellFormed (state : LocalCredentialState) : Prop where
  schema : state.schemaVersion = 1
  projection : ∃ kind : CredentialProjectionKind, kind ≠ .unspecified ∧ state.projection = toI32 kind
  nonempty : ¬ (state.active = none ∧ state.candidate = none ∧ state.previous = none)
  previous_active : state.previous ≠ none → state.active ≠ none
  exclusive : ¬ (state.candidate ≠ none ∧ state.previous ≠ none)
  valid : ∀ r ∈ state.references, validateLocalCredentialBundleRef "bundle reference" r = .ok ()
  candidate : ∀ a ∈ state.active, ∀ c ∈ state.candidate, Opposite a c
  previous : ∀ a ∈ state.active, ∀ p ∈ state.previous, Opposite a p

theorem whenSome_eq_ok {α : Type} {x : Option α} {check : α → Except String Unit} :
    whenSome x check = .ok u ↔ ∀ a ∈ x, check a = .ok () := by
  cases x <;> simp

theorem validateLocalCredentialState_eq_ok : validateLocalCredentialState state = .ok () ↔
    WellFormed state := by
  have hlabel : ∀ (label : String) (r : LocalCredentialBundleRef),
      validateLocalCredentialBundleRef label r = .ok () ↔
        validateLocalCredentialBundleRef "bundle reference" r = .ok () := fun label r => by
    rw [validateLocalCredentialBundleRef_eq_ok, validateLocalCredentialBundleRef_eq_ok]
  simp only [validateLocalCredentialState, ok_iff, whenSome_eq_ok,
    validateLocalCredentialRefsAreOpposite_eq_ok, hlabel "active", hlabel "candidate",
    hlabel "previous", not_not]
  constructor
  · rintro ⟨hschema, kind, hkind, hspecified, hnonempty, hprevious, hexclusive, ha, hc, hp, hac, hap⟩
    refine ⟨hschema, ⟨kind, hspecified, (tryFrom_eq_some.mp hkind).symm⟩, hnonempty, ?_, hexclusive,
      ?_, hac, hap⟩
    · intro h hnone
      exact hprevious ⟨h, hnone⟩
    · intro r hr
      simp only [LocalCredentialState.references, List.mem_append, Option.mem_toList] at hr
      rcases hr with (hr | hr) | hr
      · exact ha r hr
      · exact hc r hr
      · exact hp r hr
  · rintro ⟨hschema, ⟨kind, hspecified, hkind⟩, hnonempty, hprevious, hexclusive, hvalid, hac, hap⟩
    have hmem : ∀ r, r ∈ state.active ∨ r ∈ state.candidate ∨ r ∈ state.previous → r ∈ state.references := by
      intro r hr
      simp only [LocalCredentialState.references, List.mem_append, Option.mem_toList]
      tauto
    exact ⟨hschema, kind, tryFrom_eq_some.mpr hkind.symm, hspecified, hnonempty,
      fun h => hprevious h.1 h.2, hexclusive, fun r hr => hvalid r (hmem r (.inl hr)),
      fun r hr => hvalid r (hmem r (.inr (.inl hr))),
      fun r hr => hvalid r (hmem r (.inr (.inr hr))), hac, hap⟩

end State

end EdgePlatform.Credential
