import EdgePlatform.Host.Replay

/-!
# `EdgePlatform.Windows.RuntimeEffect` — the effects SYSTEM delegates to the Controller

SYSTEM signs an effect for the Controller process that answered with a challenge; the Controller verifies it
and consumes its operation id (`windows_runtime_effect.rs`). A consumed id is kept until the deadline of its
effect, and an effect is only accepted before its own deadline. The two deadlines need not be the same, so an
operation id can be used again by another effect once the first has expired; no effect is accepted twice.
-/

namespace EdgePlatform.Windows

open Foundation Foundation.Wire Host

/-! ## Messages -/

structure FleetWindowsRuntimeChallenge where
  nonce : Bytes
  processId : UInt64
  installedReleaseSha256 : Bytes
deriving DecidableEq

structure FleetWindowsRuntimeEffect where
  schemaVersion : UInt32
  intent : Option FleetHostIntent
  authorization : Option FleetHostAuthorization
  challenge : Option FleetWindowsRuntimeChallenge
  configSha256 : Bytes
  expiresAtUnix : UInt64
  systemSignature : Bytes
  registryPb : Bytes
  selectedSpecBytes : Bytes
  beforeNetworkSha256 : Bytes
deriving DecidableEq

def FleetWindowsRuntimeChallenge.encodeToVec (c : FleetWindowsRuntimeChallenge) : Bytes :=
  encodeFields (put 1 (bytesValue c.nonce) ++ put 2 (u64Value c.processId) ++
    put 3 (bytesValue c.installedReleaseSha256))

def authorizationEncodeToVec (a : FleetHostAuthorization) : Bytes :=
  encodeFields (put 1 (u32Value a.schemaVersion) ++ put 2 (stringValue a.keyId) ++
    put 3 (stringValue a.operationId) ++ put 4 (u64Value a.issuedAtUnix) ++
    put 5 (u64Value a.expiresAtUnix) ++ put 6 (bytesValue a.ed25519Signature))

def FleetWindowsRuntimeEffect.encodeToVec (e : FleetWindowsRuntimeEffect) : Bytes :=
  encodeFields (put 1 (u32Value e.schemaVersion) ++
    put 2 (messageValue (e.intent.map FleetHostIntent.encodeToVec)) ++
    put 3 (messageValue (e.authorization.map authorizationEncodeToVec)) ++
    put 4 (messageValue (e.challenge.map FleetWindowsRuntimeChallenge.encodeToVec)) ++
    put 5 (bytesValue e.configSha256) ++ put 6 (u64Value e.expiresAtUnix) ++
    put 7 (bytesValue e.systemSignature) ++ put 8 (bytesValue e.registryPb) ++
    put 9 (bytesValue e.selectedSpecBytes) ++ put 10 (bytesValue e.beforeNetworkSha256))

def registryEncodeToVec (r : HostRegistry) : Bytes :=
  encodeFields (put 1 (u32Value r.schemaVersion) ++ r.hosts.map fun h => (2, .len h.encodeToVec))

/-! ## Verification -/

namespace RuntimeEffect

def maxBytes : Nat := 262144

/-- What the system key signs. -/
def payload (effect : FleetWindowsRuntimeEffect) : Bytes :=
  utf8 "sing-box/windows-runtime-effect/v1:" ++ { effect with systemSignature := [] }.encodeToVec

/-- What the system key signs. -/
def networkAdmissionPayload (proof : FleetWindowsNetworkAdmission) : Bytes :=
  utf8 "sing-box/windows-network-admission/v1:" ++ { proof with systemSignature := [] }.encodeToVec

/-- An admission for this START, signed and fresh. -/
def verifyWindowsNetworkAdmission (D : Deps) (intent : FleetHostIntent) (trustedSystemPublicKey
    installedReleaseSha256 configSha256 nativeBeforeSha256 : Bytes) (now : UInt64) : Except String Unit := do
  let proof ← okOr intent.networkAdmission "HOST_WINDOWS_NETWORK_ADMISSION_MISSING"
  rejectIf (intent.kind ≠ toI32 FleetHostKind.windows ∨ intent.action ≠ toI32 FleetHostAction.start ∨
    proof.schemaVersion ≠ 1 ∨ proof.machineId ≠ intent.machineId ∨ proof.operationId ≠ intent.operationId ∨
    trustedSystemPublicKey.length ≠ 32 ∨ ¬ sha installedReleaseSha256 ∨ ¬ sha configSha256 ∨
    ¬ sha nativeBeforeSha256 ∨ proof.installedReleaseSha256 ≠ installedReleaseSha256 ∨
    proof.desiredReleaseSetSha256 ≠ intent.releaseSetSha256 ∨ proof.configSha256 ≠ configSha256 ∨
    proof.beforeNetworkSha256 ≠ nativeBeforeSha256 ∨ ¬ sha proof.line1WitnessSha256 ∨
    ¬ sha proof.controlWitnessSha256 ∨ ¬ sha proof.dnsWitnessSha256 ∨ proof.observedAtUnix = 0 ∨
    proof.expiresAtUnix ≤ proof.observedAtUnix ∨ proof.expiresAtUnix - proof.observedAtUnix > 60 ∨
    now < proof.observedAtUnix ∨ now > proof.expiresAtUnix ∨ proof.systemSignature.length ≠ 64)
    "HOST_WINDOWS_NETWORK_ADMISSION_BINDING_OR_FRESHNESS_INVALID"
  rejectIf (¬ D.ed25519Verify trustedSystemPublicKey (networkAdmissionPayload proof) proof.systemSignature)
    "HOST_WINDOWS_NETWORK_ADMISSION_SYSTEM_SIGNATURE_INVALID"

/-- Both keys of the host are registered. -/
def verifyWindowsSignedGitPrerequisites (host : FleetHost) : Except String Unit := do
  rejectIf (host.kind ≠ toI32 FleetHostKind.windows) "HOST_WINDOWS_SIGNED_KIND_REQUIRED"
  verifyGitHostWorkerSignerPin host host.workerAuthorityPublicKey
  rejectIf (host.nativeReceiptPublicKey.length ≠ 32 ∨ allZero host.nativeReceiptPublicKey)
    "HOST_WINDOWS_GIT_RECEIPT_REGISTRATION_REQUIRED"

/-- What a call brings with it: the effect, and what the Controller has read and computed itself. -/
structure Call where
  effect : FleetWindowsRuntimeEffect
  registry : HostRegistry
  registrySha256 : Bytes
  spec : Bytes
  configSha256 : Bytes
  now : UInt64
deriving DecidableEq

/-- An effect for this process, signed, fresh and with everything it names. -/
def verify (D : Deps) (challenge : FleetWindowsRuntimeChallenge) (call : Call) : Except String Unit := do
  let effect := call.effect
  let intent ← okOr effect.intent "HOST_WINDOWS_EFFECT_INTENT_MISSING"
  let auth ← okOr effect.authorization "HOST_WINDOWS_EFFECT_AUTH_MISSING"
  rejectIf (effect.schemaVersion ≠ 1 ∨ effect.encodeToVec.length > maxBytes ∨
    effect.challenge ≠ some challenge ∨ effect.registryPb ≠ registryEncodeToVec call.registry ∨
    effect.selectedSpecBytes ≠ call.spec ∨ challenge.nonce.length ≠ 32 ∨ allZero challenge.nonce ∨
    challenge.processId = 0 ∨ challenge.installedReleaseSha256.length ≠ 32 ∨ call.configSha256.length ≠ 32 ∨
    effect.configSha256 ≠ call.configSha256 ∨ effect.beforeNetworkSha256.length ≠ 32 ∨
    allZero effect.beforeNetworkSha256 ∨ effect.expiresAtUnix ≤ call.now ∨
    effect.expiresAtUnix > saturatingAdd call.now 120 ∨ effect.expiresAtUnix > auth.expiresAtUnix ∨
    effect.systemSignature.length ≠ 64 ∨ intent.kind ≠ toI32 FleetHostKind.windows ∨
    intent.resourceId ≠ "sing-box" ∨
    ¬ (tryFrom FleetHostAction intent.action = some .start ∨
      tryFrom FleetHostAction intent.action = some .apply))
    "HOST_WINDOWS_EFFECT_BINDING_OR_FRESHNESS_INVALID"
  let host ← okOr
      (call.registry.owned intent.machineId intent.kind) "HOST_WINDOWS_EFFECT_MACHINE_UNREGISTERED"
  let desired ← D.parseProductionDesiredText call.spec
  let mode ← validateWindowsModeTargetAndSpec host desired
  rejectIf (host.target.map (·.runState) ≠ some (toI32 FleetHostRunState.running))
    "HOST_WINDOWS_EFFECT_RUNNING_TARGET_REQUIRED"
  match mode with
  | .proxyOnly =>
    rejectIf intent.networkAdmission.isSome "HOST_WINDOWS_EFFECT_PROXY_ONLY_ADMISSION_FORBIDDEN"
  | .managedTun =>
    verifyWindowsNetworkAdmission D intent host.nativeReceiptPublicKey challenge.installedReleaseSha256
      call.configSha256 effect.beforeNetworkSha256 call.now
  | .unspecified => .error "HOST_WINDOWS_EFFECT_MODE_UNRECOGNIZED"
  verifyWindowsSignedGitPrerequisites host
  let digest ← digestHostDesired host call.spec
  validateHostIntent intent call.registry call.registrySha256 digest intent.releaseSetSha256
  validateIntentAgainstTarget intent call.registry
  verifyHostAuthorization D intent auth host.workerAuthorityPublicKey call.now
  rejectIf (¬ D.ed25519Verify host.nativeReceiptPublicKey (payload effect) effect.systemSignature)
    "HOST_WINDOWS_EFFECT_SYSTEM_SIGNATURE_REJECTED"

/-! ## The replay set -/

/-- The consumed operation ids and their deadlines (`BTreeMap<String, u64>`). -/
abbrev Used := List (String × UInt64)

/-- Expired entries are dropped even when the operation is refused. -/
def consume (used : Used) (operation : String) (expiry now : UInt64) : Except String Unit × Used :=
  let live := used.filter fun entry => entry.2 > now
  if live.any fun entry => entry.1 ==
      operation then (.error "HOST_WINDOWS_EFFECT_ALREADY_CONSUMED_NO_REPLAY", live)
  else if live.length ≥ 128 then (.error "HOST_WINDOWS_EFFECT_ADMISSION_BUSY", live)
  else (.ok (), (operation, expiry) :: live)

/-- The operation id of a call, as far as it has an intent. -/
def Call.operation (call : Call) : String := (call.effect.intent.map (·.operationId)).getD ""

/-- One call: verified first, then consumed at the same clock reading. -/
def admitCall (D : Deps) (challenge : FleetWindowsRuntimeChallenge) (used : Used) (call : Call) :
    Except String Unit × Used :=
  match verify D challenge call with
  | .error e => (.error e, used)
  | .ok () => consume used call.operation call.effect.expiresAtUnix call.now

/-- The calls of a process that are accepted. -/
def accepted (D : Deps) (challenge : FleetWindowsRuntimeChallenge) : Used → List Call → List Call
  | _, [] => []
  | used, call :: rest =>
    match admitCall D challenge used call with
    | (.ok (), used') => call :: accepted D challenge used' rest
    | (.error _, used') => accepted D challenge used' rest

section Replay

variable {D : Deps} {challenge : FleetWindowsRuntimeChallenge} {used used' : Used} {call : Call}
    {calls : List Call}

theorem consume_eq_ok {operation : String} {expiry now : UInt64} {u : Unit}
    (h : consume used operation expiry now = (.ok u, used')) :
    (∀ deadline, (operation, deadline) ∈ used → deadline ≤ now) ∧
      used' = (operation, expiry) :: used.filter fun entry => entry.2 > now := by
  unfold consume at h
  dsimp only at h
  split_ifs at h with hany hfull
  · cases h
  · cases h
  · cases h
    refine ⟨fun deadline hmem => ?_, rfl⟩
    by_contra hlive
    refine hany (List.any_eq_true.mpr
      ⟨(operation, deadline), List.mem_filter.mpr ⟨hmem, ?_⟩, beq_self_eq_true _⟩)
    simpa using hlive

variable {entry : String × UInt64}

/-- Whatever the outcome, an entry is only forgotten after its deadline. -/
theorem mem_consume {operation : String} {expiry now : UInt64} (hmem : entry ∈ used)
    (hlive : now < entry.2) : entry ∈ (consume used operation expiry now).2 := by
  have hkept : entry ∈ used.filter fun entry => entry.2 > now :=
    List.mem_filter.mpr ⟨hmem, by simpa using hlive⟩
  unfold consume
  dsimp only
  split_ifs
  · exact hkept
  · exact hkept
  · exact .tail _ hkept

/-- A verified effect has not expired. -/
theorem fresh_of_verify (h : verify D challenge call = .ok ()) : call.now < call.effect.expiresAtUnix := by
  simp only [verify, ok_iff, not_or] at h
  obtain ⟨intent, -, auth, -, ⟨-, -, -, -, -, -, -, -, -, -, -, -, -, hfresh, -⟩, -⟩ := h
  exact UInt64.not_le.mp hfresh

/-- What an accepted call leaves: the id was free or expired, the effect fresh, and the id is taken. -/
theorem admitCall_eq_ok {u : Unit} (h : admitCall D challenge used call = (.ok u, used')) :
    (∀ deadline, (call.operation, deadline) ∈ used → deadline ≤ call.now) ∧
      call.now < call.effect.expiresAtUnix ∧ (call.operation, call.effect.expiresAtUnix) ∈ used' := by
  unfold admitCall at h
  cases hverify : verify D challenge call with
  | error e =>
    rw [hverify] at h
    cases h
  | ok _ =>
    rw [hverify] at h
    obtain ⟨hfree, rfl⟩ := consume_eq_ok h
    exact ⟨hfree, fresh_of_verify hverify, .head _⟩

theorem mem_admit (hmem : entry ∈ used) (hlive : call.now < entry.2) :
    entry ∈ (admitCall D challenge used call).2 := by
  unfold admitCall
  split
  · exact hmem
  · exact mem_consume hmem hlive

theorem accepted_sublist (D : Deps) (challenge : FleetWindowsRuntimeChallenge) (used : Used)
    (calls : List Call) :
    (accepted D challenge used calls).Sublist calls := by
  induction calls generalizing used with
  | nil => exact .slnil
  | cons call rest ih =>
    unfold accepted
    split
    · exact (ih _).cons_cons _
    · exact (ih _).cons _

/-- An id that is taken is not accepted again before its deadline. -/
theorem deadline_le_of_mem_accepted (hclock : calls.Pairwise fun a b => a.now ≤ b.now) {deadline : UInt64}
    (hmem : (call.operation, deadline) ∈ used) (hcall : call ∈ accepted D challenge used calls) :
    deadline ≤ call.now := by
  induction calls generalizing used with
  | nil => cases hcall
  | cons next rest ih =>
    obtain ⟨hlater, hrest⟩ := List.pairwise_cons.mp hclock
    -- either the entry outlives the next call, or the call in question comes after its deadline
    have htail : ∀ used', call ∈ accepted D challenge used' rest →
        (admitCall D challenge used next).2 = used' → deadline ≤ call.now := by
      intro used' hcall hused
      by_cases hlive : next.now < deadline
      · exact ih hrest (hused ▸ mem_admit hmem hlive) hcall
      · exact UInt64.le_trans
          (UInt64.not_lt.mp hlive) (hlater call ((accepted_sublist _ _ _ _).subset hcall))
    unfold accepted at hcall
    split at hcall
    · next heq =>
        rcases List.mem_cons.mp hcall with rfl | hcall
        · exact (admitCall_eq_ok heq).1 deadline hmem
        · exact htail _ hcall (by rw [heq])
    · next heq => exact htail _ hcall (by rw [heq])

/-- The later of two accepted effects for one operation came after the earlier had expired. -/
def Expired (a b : Call) : Prop :=
  a.operation = b.operation →
    a.effect.expiresAtUnix ≤ b.now ∧ b.now < b.effect.expiresAtUnix ∧ a.effect ≠ b.effect

theorem fresh_of_mem_accepted (hcall : call ∈ accepted D challenge used calls) :
    call.now < call.effect.expiresAtUnix := by
  induction calls generalizing used with
  | nil => cases hcall
  | cons next rest ih =>
    unfold accepted at hcall
    split at hcall
    · next heq =>
        rcases List.mem_cons.mp hcall with rfl | hcall
        · exact (admitCall_eq_ok heq).2.1
        · exact ih hcall
    · exact ih hcall

theorem pairwise_expired (hclock : calls.Pairwise fun a b => a.now ≤ b.now) :
    (accepted D challenge used calls).Pairwise Expired := by
  induction calls generalizing used with
  | nil => exact .nil
  | cons next rest ih =>
    obtain ⟨-, hrest⟩ := List.pairwise_cons.mp hclock
    unfold accepted
    split
    · next heq =>
        refine List.pairwise_cons.mpr ⟨fun later hcall hsame => ?_, ih hrest⟩
        have htaken := (admitCall_eq_ok heq).2.2
        rw [hsame] at htaken
        have hdeadline := deadline_le_of_mem_accepted hrest htaken hcall
        have hfresh := fresh_of_mem_accepted hcall
        refine ⟨hdeadline, hfresh, fun heffect => ?_⟩
        rw [heffect] at hdeadline
        exact UInt64.not_le.mpr hfresh hdeadline
    · exact ih hrest

end Replay

/-! ### Two effects for one operation -/

namespace Sample

open WindowsSample (bytesOf workerKey spec)

def systemKey : Bytes := bytesOf 32 0x3d4017c3e843895a92b70aa74d1b7ebc9c982ccf2ec4968cc0cd55f12af4660c

/-- The registered host, with the key that SYSTEM signs with. -/
def registry : HostRegistry :=
  { schemaVersion := 1, hosts := [{ WindowsSample.host with nativeReceiptPublicKey := systemKey }] }

def registryDigest : Bytes := bytesOf 32 0x0b8e1afaafb062a6582caffd0d62db36aa3f1d05c2279715088e002fed5f9220

def intent : FleetHostIntent :=
  { WindowsSample.intent "a" .start 'a' with
    registrySha256 := registryDigest
    desiredSha256 := bytesOf 32 0xd2cf2c3762f4e41237171a84b0a916341f14db17e868a122a2afaca34a2fc46f
    releaseSetSha256 := List.replicate 32 1 }

def authorization : FleetHostAuthorization :=
  { WindowsSample.authorization "a" (bytesOf 64
      0xbcf48ab717fd7a70eb13c949923fe52fff75014097d3c7f6dbb4b81fdc9849a72edced2a6ec58a9d7f8610de005f5cc4235ab0ff736047b97cdeca48d89a9e05) with
    expiresAtUnix := 1200 }

def challenge : FleetWindowsRuntimeChallenge :=
  { nonce := List.replicate 32 2, processId := 123, installedReleaseSha256 := List.replicate 32 1 }

def effect (expiresAtUnix : UInt64) (systemSignature : Bytes) : FleetWindowsRuntimeEffect where
  schemaVersion := 1
  intent := some intent
  authorization := some authorization
  challenge := some challenge
  configSha256 := List.replicate 32 3
  expiresAtUnix := expiresAtUnix
  systemSignature := systemSignature
  registryPb := registryEncodeToVec registry
  selectedSpecBytes := spec
  beforeNetworkSha256 := List.replicate 32 4

def firstEffect : FleetWindowsRuntimeEffect :=
  effect 1060 (bytesOf 64
    0xf24a0f1aaa745e8dc27e4f7d5e08afb5984d35f497a7b99d5147b11567651793bdae89525d31013695e3b5066ddff2c9c681b23b5d562701cb0af3da6c209206)

def secondEffect : FleetWindowsRuntimeEffect :=
  effect 1120 (bytesOf 64
    0x59eaaf3f6e14f6b5e2856c48b3139080275c80904e8ddc620fc0d5fd19e7fb49f6301a32c43be69ed5e4f55b606062bc5c31a2dc27e09faa8c0462541eea050c)

/-- The signature scheme on the three signatures above. -/
def deps : Deps :=
  { WindowsSample.deps with
    ed25519Verify key message signature :=
      (key == workerKey && signature == authorization.ed25519Signature &&
          message == hostAuthorizationPayload intent authorization) ||
        (key == systemKey && [firstEffect, secondEffect].any fun e =>
          signature == e.systemSignature && message == payload e) }

def call (effect : FleetWindowsRuntimeEffect) (now : UInt64) : Call :=
  { effect, registry, registrySha256 := registryDigest, spec, configSha256 := List.replicate 32 3, now }

end Sample

open Sample in
/-- The second effect is signed for the same operation and accepted as soon as the first has expired. -/
theorem operation_accepted_twice :
    accepted deps challenge [] [call firstEffect 1000, call secondEffect 1060] =
        [call firstEffect 1000, call secondEffect 1060] ∧
      firstEffect.intent = secondEffect.intent ∧
      sha256 (registryEncodeToVec registry) = registryDigest := by
  decide +kernel

/-- **An operation is not used again before its effect has expired.** In every sequence of calls of one
process, of two accepted effects for one operation the later is accepted only after the deadline of the
earlier, and is another effect. -/
theorem operation_reused_after_expiry (D : Deps) (challenge : FleetWindowsRuntimeChallenge)
    (calls : List Call) (hclock : calls.Pairwise fun a b => a.now ≤ b.now) :
    (accepted D challenge [] calls).Pairwise fun a b => a.operation = b.operation →
      a.effect.expiresAtUnix ≤ b.now ∧ b.now < b.effect.expiresAtUnix ∧ a.effect ≠ b.effect :=
  pairwise_expired hclock

open Sample in
theorem reuse_of_second_effect :
    (accepted deps challenge []
        [call firstEffect 1000, call firstEffect 1001,
          call secondEffect 1060]).Pairwise fun a b =>
      a.operation = b.operation →
        a.effect.expiresAtUnix ≤ b.now ∧ b.now < b.effect.expiresAtUnix ∧ a.effect ≠ b.effect :=
  operation_reused_after_expiry deps challenge _ (by decide)

end RuntimeEffect

end EdgePlatform.Windows
