import EdgePlatform.Host.Registry

/-!
# `EdgePlatform.Host.Lifecycle` — what an intent, an observation and a result must look like

The checks of `host_lifecycle.rs` that stand before and after every journal operation: binding an intent to
the exact registry, desired spec and release bytes; the Worker's authorization; the admissible form of a
native observation; and the one typed reason of a result with its two printed projections.
-/

namespace EdgePlatform.Host

open Foundation Foundation.Wire

/-! ## Machine arithmetic and byte helpers -/

def saturatingAdd (a b : UInt64) : UInt64 :=
  if 2 ^ 64 ≤ a.toNat + b.toNat then 18446744073709551615 else a + b

def saturatingSub (a b : UInt64) : UInt64 := if b ≤ a then a - b else 0

/-- `(len as u32).to_be_bytes()`. -/
def be32Len (b : Bytes) : Bytes := Sha256.be32 (BitVec.ofNat 32 b.length)

/-- `u64::to_be_bytes`. -/
def be64 (x : UInt64) : Bytes := (List.range 8).map fun i => UInt8.ofNat (x.toNat / 256 ^ (7 - i) % 256)

/-- A short identifier. -/
def token (value : String) : Bool := hostToken value 128

/-- A digest that is present: 32 bytes, not all zero. -/
def sha (value : Bytes) : Bool := value.length = 32 && !allZero value

/-- An observation taken at `observedAt` is at most 60 s ahead of `now` and at most 300 s old. -/
def readbackFuture (observedAt now : UInt64) : Bool := observedAt > saturatingAdd now 60

def readbackStale (observedAt now : UInt64) : Bool := saturatingSub now observedAt > 300

/-! ## Observations -/

def reasonCodeInvalid (code : String) : Bool :=
  code = "" || (utf8 code).length > 96 ||
    !(utf8 code).all (fun ch => isAsciiUppercase ch || isAsciiDigit ch || ch = 95)

def maxNativeObservationBytes : Nat := 4096

/-- An observation does not contradict itself. -/
def validateNativeObservation (D : Deps) (o : FleetNativeObservation) : Except String Unit := do
  let kind ← okOr (tryFrom FleetHostKind o.hostKind) "HOST_OBSERVATION_KIND_INVALID"
  let state ← okOr (tryFrom FleetNativeOwnerState o.ownerState) "HOST_OBSERVATION_STATE_INVALID"
  let proof ← okOr (tryFrom FleetNativeReleaseProof o.releaseProof) "HOST_OBSERVATION_PROOF_INVALID"
  rejectIf (o.schemaVersion ≠ 1 ∨ o.observedAtUnix = 0 ∨ kind = .unspecified ∨ state = .unspecified ∨
      proof = .unspecified ∨ (kind = .windows ∧ proof = .applicationBundle) ∨
      (kind = .vm ∧ proof = .activationRecord) ∨
      ¬ (o.observedReleaseSha256 = [] ↔ proof = .unproven ∨ proof = .verifiedAbsent) ∨
      (proof = .verifiedAbsent ∧ (state ≠ .stopped ∨ o.runtimeReady)) ∨
      (o.observedReleaseSha256 ≠ [] ∧ o.observedReleaseSha256.length ≠ 32) ∨
      (o.runtimeReady ∧ ¬ o.runtimeReadyProven) ∨
      (o.windowsConfigSha256 ≠ [] ∧ (kind ≠ .windows ∨ ¬ sha o.windowsConfigSha256)) ∨
      o.reasonCodes.length > 12 ∨ o.reasonCodes.any reasonCodeInvalid ∨
      (∃ report ∈ o.vmRecoveryResources,
        kind ≠ .vm ∨ report.machineId = "" ∨ report.observedAtUnix ≠ o.observedAtUnix) ∨
      D.observationEncodedLen o > maxNativeObservationBytes)
    "HOST_OBSERVATION_EVIDENCE_INVALID"

/-- One row of a resource report against the installed policy: the number of stopped containers it adds. -/
def partialResourceRow (graph : FleetVmDesiredGraph) (ids : List String) (row : FleetVmResourceReadback) :
    Option Nat := do
  let resource ← row.resource
  let policy ← graph.resources.find? (fun candidate => candidate.resource = some resource)
  if !row.present || !row.ownershipProven || !row.runningProven || (utf8 row.containerId).length ≠ 64 ||
      row.containerId ∈ ids || row.dockerStateErrorPresent || row.image ≠ policy.imageRef then none
  else if row.running then
    if row.observedReason ≠ toI32 FleetVmObservedReason.runningNoHealthcheck ∧
        row.observedReason ≠ toI32 FleetVmObservedReason.healthy then none
    else if resource.composeService ≠ "warp-egress" ∧
        row.configProof ≠ toI32 FleetVmConfigProof.boundRunningProcess then none
    else some 0
  else if row.observedReason ≠ toI32 FleetVmObservedReason.stopped ∨
      (resource.composeService ≠ "warp-egress" ∧ row.configProof ≠ toI32 FleetVmConfigProof.notRunning) then
    none
  else some 1

def partialResourceRows (graph : FleetVmDesiredGraph) :
    List String → Nat → List FleetVmResourceReadback → Option Nat
  | _, stopped, [] => some stopped
  | ids, stopped, row :: rows => do
      let n ← partialResourceRow graph ids row
      partialResourceRows graph (row.containerId :: ids) (stopped + n) rows

def partialReasonCodes : List String :=
  ["CONTAINER_NOT_RUNNING", "EXACT_IMAGE_OR_CONTAINER_UNREADY", "WARP_CLIENT_CONNECTION_UNPROVEN"]

/-- A VM whose registered containers are known to be partly down. -/
def knownPartialVmResourceBaseline (D : Deps) (host : FleetHost) (o : FleetNativeObservation) : Bool :=
  if host.kind ≠ toI32 FleetHostKind.vm ∨ o.hostKind ≠ host.kind ∨
      ¬ (tryFrom FleetNativeOwnerState o.ownerState = some .running ∨
        tryFrom FleetNativeOwnerState o.ownerState = some .stopped) ∨
      ¬ o.runtimeReadyProven ∨ o.runtimeReady ∨ "CONTAINER_NOT_RUNNING" ∉ o.reasonCodes ∨
      (∃ code ∈ o.reasonCodes, code ∉ partialReasonCodes) then false
  else match o.vmRecoveryResources with
    | none => false
    | some report =>
      if report.observedAtUnix ≠ o.observedAtUnix ∨ isErr (D.validateVmResourceReport report host) ∨
          report.installedPolicyStatus ≠ toI32 FleetVmInstalledPolicyStatus.valid then false
      else match report.installedPolicyGraph with
        | none => false
        | some graph =>
          if graph.resources.length ≠ report.resources.length then false
          else match partialResourceRows graph [] 0 report.resources with
            | none => false
            | some stopped => 0 < stopped

/-- Ready, or degraded by its egress only. -/
def knownRuntimeOnlyHistoricalReasons (o : FleetNativeObservation) : Bool :=
  if ¬ o.runtimeReadyProven then false
  else if o.runtimeReady then o.reasonCodes = []
  else o.reasonCodes ≠ [] && o.reasonCodes.all
    (fun code => code = "WARP_LINE1_CONSUMER_EGRESS_FAILED" || code = "WARP_LINE2_CONSUMER_EGRESS_FAILED")

/-! ## The Windows datapath -/

/-- The mode of a Windows host is the one of its spec. -/
def validateWindowsModeTargetAndSpec (host : FleetHost) (desired : ProductionDesiredState) :
    Except String WindowsDatapathMode := do
  rejectIf (host.kind ≠ toI32 FleetHostKind.windows) "HOST_WINDOWS_MODE_HOST_KIND_MISMATCH"
  let target ← okOr host.target "HOST_TARGET_UNSET_OBSERVE_ONLY"
  let mode ← okOr (tryFrom FleetHostMode target.windowsMode) "HOST_TARGET_MODE_INVALID"
  rejectIf (mode ≠ .unspecified) "HOST_WINDOWS_DUPLICATE_GIT_MODE_FORBIDDEN"
  let datapath ← okOr (tryFrom WindowsDatapathMode desired.windowsDatapathMode)
    "HOST_WINDOWS_DATAPATH_MODE_INVALID"
  rejectIf (datapath = .unspecified) "HOST_WINDOWS_DATAPATH_MODE_INVALID"
  pure datapath

/-- The in-memory projection the planner sees: a Windows host carries the mode of its desired spec. -/
def projectHostForPlanner (D : Deps) (host : FleetHost) (specBytes : Bytes) : Except String FleetHost :=
  if host.kind ≠ toI32 FleetHostKind.windows then .ok host
  else do
    let spec ← D.parseProductionDesiredText specBytes
    let mode ← validateWindowsModeTargetAndSpec host spec
    let target ← okOr host.target "HOST_TARGET_UNSET_OBSERVE_ONLY"
    let windowsMode ← match mode with
      | .proxyOnly => .ok (toI32 FleetHostMode.proxyOnly)
      | .managedTun => .ok (toI32 FleetHostMode.managedTun)
      | .unspecified => .error "HOST_WINDOWS_DATAPATH_MODE_INVALID"
    pure { host with target := some { target with windowsMode } }

/-! ## Binding an intent to its artifacts -/

/-- The digest of a host entry and its spec. -/
def digestHostDesired (host : FleetHost) (specBytes : Bytes) : Except String Bytes := do
  rejectIf (specBytes = [] ∨ specBytes.length > 1048576) "HOST_DESIRED_SPEC_SIZE_INVALID"
  let hostBytes := host.encodeToVec
  pure (sha256 (utf8 "sing-box/host-desired/v1:" ++ be32Len hostBytes ++ hostBytes ++ be32Len specBytes ++
    specBytes))

/-- `char::to_digit(16)`. -/
def hexValue (b : UInt8) : Option Nat :=
  if isAsciiDigit b then some (b.toNat - 48)
  else if 97 ≤ b ∧ b ≤ 102 then some (b.toNat - 87)
  else if 65 ≤ b ∧ b ≤ 70 then some (b.toNat - 55)
  else none

/-- Pairs of digits; a last odd digit is dropped (`chunks_exact`). -/
def hexDecode : Bytes → Option Bytes
  | h :: l :: rest => do
      let h ← hexValue h
      let l ← hexValue l
      let rest ← hexDecode rest
      some (UInt8.ofNat (h * 16 + l) :: rest)
  | _ => some []

def releaseSchemaInvalid (release : ReleaseSet) : Bool :=
  release.schemaVersion < 7 || release.schemaVersion > 8

/-- The logical digest of the bundle that the release set names. -/
def nativeVmBundleRuntimeDigest (D : Deps) (release : ReleaseSet) (vmBundlePb : Bytes) :
    Except String Bytes := do
  rejectIf (releaseSchemaInvalid release ∨ vmBundlePb = [] ∨ vmBundlePb.length > 8 * 1024 * 1024)
    "HOST_NATIVE_VM_BUNDLE_ARTIFACT_INVALID"
  let runtime ← okOr release.vmRuntime "HOST_NATIVE_VM_RUNTIME_UNAVAILABLE"
  rejectIf (¬ sha runtime.applicationBundleSha256 ∨ sha256 vmBundlePb ≠ runtime.applicationBundleSha256)
    "HOST_NATIVE_VM_BUNDLE_TRANSPORT_MISMATCH"
  let request ← okOr (D.decodeBundle vmBundlePb) "HOST_NATIVE_VM_BUNDLE_PROTO_INVALID"
  rejectIf (¬ D.bundleCanonical vmBundlePb ∨ ¬ request.pruneExisting ∨ request.hostFiles ≠ [] ∨
    request.deploymentSummary.isSome ∨ request.agentEnvFile.isSome) "HOST_NATIVE_VM_BUNDLE_NONCANONICAL"
  let logical ← okOr request.bundleDigest "HOST_NATIVE_VM_BUNDLE_LOGICAL_DIGEST_MISSING"
  let computed ← orError (D.canonicalApplyBundleDigest request)
    "HOST_NATIVE_VM_BUNDLE_LOGICAL_DIGEST_INVALID"
  rejectIf (logical ≠ computed ∨ (utf8 logical).length ≠ 64) "HOST_NATIVE_VM_BUNDLE_LOGICAL_DIGEST_MISMATCH"
  let decoded ← okOr (hexDecode (utf8 logical)) "HOST_NATIVE_VM_BUNDLE_HEX_INVALID"
  rejectIf (¬ sha decoded) "HOST_NATIVE_VM_BUNDLE_LOGICAL_DIGEST_INVALID"
  pure decoded

/-- The key is the registered one. -/
def verifyGitHostWorkerSignerPin (host : FleetHost) (supplied : Bytes) : Except String Unit := do
  rejectIf (¬ (tryFrom FleetHostKind host.kind = some .vm ∨
    tryFrom FleetHostKind host.kind = some .windows) ∨ host.workerAuthorityPublicKey.length ≠ 32 ∨
    allZero host.workerAuthorityPublicKey)
    "HOST_GIT_WORKER_SIGNER_KEY_REQUIRED"
  rejectIf (supplied ≠ host.workerAuthorityPublicKey) "HOST_WORKER_SIGNER_DIFFERS_FROM_PROTECTED_GIT"

/-- The configuration of one registered gateway. -/
def validateScopedVmResourceId (host : FleetHost) (resourceId : String) : Except String Unit := do
  rejectIf (host.kind ≠ toI32 FleetHostKind.vm) "HOST_SCOPE_VM_OWNER_REQUIRED"
  rejectIf ((utf8 resourceId).length > 128 ∨
    (host.vmContainers.filter fun selector =>
      (selector.composeService = "line1-gateway" || selector.composeService = "line2-proxy") &&
        "config/" ++ selector.composeProject ++ "/" ++ selector.composeService = resourceId).length ≠ 1)
    "HOST_SCOPE_RESOURCE_NOT_REGISTERED"

/-- The first registered host with the intent's machine id. -/
def HostRegistry.machine (registry : HostRegistry) (machineId : String) : Option FleetHost :=
  registry.hosts.find? fun h => h.machineId = machineId

/-- The first registered host with the intent's machine id and kind. -/
def HostRegistry.owned (registry : HostRegistry) (machineId : String) (kind : Int32) : Option FleetHost :=
  registry.hosts.find? fun h => h.machineId = machineId && h.kind = kind

/-- The host's owner is of the host's kind. -/
def ownerMatchesKind (host : FleetHost) : Bool :=
  match tryFrom FleetHostKind host.kind, host.owner with
  | some .windows, some (.windowsRunnerName _) => true
  | some .vm, some (.vmMachineId _) => true
  | _, _ => false

/-- An intent names a registered host and the exact digests. -/
def validateHostIntent (intent : FleetHostIntent) (registry : HostRegistry)
    (exactRegistrySha256 exactDesiredSha256 exactReleaseSetSha256 : Bytes) : Except String Unit := do
  rejectIf (intent.schemaVersion ≠ 1 ∨ ¬ token intent.machineId ∨ intent.resourceId = "" ∨
    ¬ token intent.operationId ∨ intent.requestedAtUnix = 0) "HOST_INTENT_IDENTITY_INVALID"
  rejectIf (¬ sha exactRegistrySha256 ∨ ¬ sha exactDesiredSha256 ∨ ¬ sha exactReleaseSetSha256 ∨
    intent.registrySha256 ≠ exactRegistrySha256 ∨ intent.desiredSha256 ≠ exactDesiredSha256 ∨
    intent.releaseSetSha256 ≠ exactReleaseSetSha256) "HOST_INTENT_DIGEST_MISMATCH"
  let host ← okOr (registry.machine intent.machineId) "HOST_INTENT_UNKNOWN_MACHINE"
  rejectIf (host.kind ≠ intent.kind ∨ ¬ ownerMatchesKind host) "HOST_INTENT_OWNER_MISMATCH"
  let action ← okOr (tryFrom FleetHostAction intent.action) "HOST_INTENT_ACTION_INVALID"
  if intent.resourceId ≠ "sing-box" then do
    rejectIf (action ≠ .apply) "HOST_SCOPE_ACTION_NOT_APPLY"
    validateScopedVmResourceId host intent.resourceId
  let mode ← okOr (tryFrom FleetHostMode intent.requestedMode) "HOST_INTENT_MODE_INVALID"
  rejectIf (intent.networkAdmission.isSome ∧ (host.kind ≠ toI32 FleetHostKind.windows ∨ action ≠ .start))
    "HOST_WINDOWS_NETWORK_ADMISSION_UNEXPECTED_ACTION"
  rejectIf (action = .unspecified ∨
    (action = .setMode ∧ (host.kind ≠ toI32 FleetHostKind.windows ∨ mode = .unspecified)) ∨
    (action ≠ .setMode ∧ mode ≠ .unspecified)) "HOST_INTENT_ACTION_MODE_MISMATCH"

/-- The action does not contradict the target. -/
def validateIntentAgainstTarget (intent : FleetHostIntent) (registry : HostRegistry) :
    Except String Unit := do
  let host ← okOr (registry.machine intent.machineId) "HOST_INTENT_UNKNOWN_MACHINE"
  let target ← okOr host.target "HOST_TARGET_UNSET_OBSERVE_ONLY"
  let action ← okOr (tryFrom FleetHostAction intent.action) "HOST_INTENT_ACTION_INVALID"
  let state ← okOr (tryFrom FleetHostRunState target.runState) "HOST_TARGET_RUN_STATE_INVALID"
  rejectIf (state = .unspecified) "HOST_TARGET_RUN_STATE_REQUIRED"
  let mode ← okOr (tryFrom FleetHostMode target.windowsMode) "HOST_TARGET_MODE_INVALID"
  rejectIf (mode ≠ .unspecified) "HOST_WINDOWS_DUPLICATE_GIT_MODE_FORBIDDEN"
  rejectIf (action = .setMode) "HOST_SET_MODE_RETIRED_USE_GIT_APPLY"
  rejectIf ((action = .start ∧ state ≠ .running) ∨ (action = .stop ∧ state ≠ .stopped))
    "HOST_ACTION_CONFLICTS_WITH_DESIRED"

/-- The digests of the artifacts of an operation. -/
structure BoundNativeHostArtifacts where
  registrySha256 : Bytes
  desiredSha256 : Bytes
  releaseSetSha256 : Bytes
  runtimeReleaseSha256 : Bytes
deriving DecidableEq

/-- The digest a host that runs this release reports: on Windows the release set's own digest, on a VM the
    logical digest of the application bundle the release set names. -/
def runtimeReleaseDigest (D : Deps) (kind : Int32) (release : ReleaseSet) (releaseSetPb : Bytes)
    (vmBundlePb : Option Bytes) : Except String Bytes :=
  match tryFrom FleetHostKind kind with
  | some .windows => do
      rejectIf vmBundlePb.isSome "HOST_NATIVE_WINDOWS_VM_ARTIFACT_FORBIDDEN"
      pure (sha256 releaseSetPb)
  | some .vm => do
      let bundle ← okOr vmBundlePb "HOST_NATIVE_VM_BUNDLE_REQUIRED"
      nativeVmBundleRuntimeDigest D release bundle
  | _ => .error "HOST_NATIVE_OWNER_KIND_INVALID"

/-- The registry, and the digests of the artifacts of an intent. -/
def bindNativeHostArtifacts (D : Deps) (intent : FleetHostIntent)
    (registryPb exactSpecBytes releaseSetPb : Bytes) (vmBundlePb : Option Bytes) :
    Except String (HostRegistry × BoundNativeHostArtifacts) := do
  rejectIf (registryPb = [] ∨ registryPb.length > 65536 ∨ releaseSetPb = [] ∨ releaseSetPb.length > 65536)
    "HOST_NATIVE_ARTIFACT_SIZE_INVALID"
  let registry ← orError (decodeHostRegistry D registryPb) "HOST_NATIVE_REGISTRY_INVALID"
  let host ← okOr (registry.owned intent.machineId intent.kind) "HOST_NATIVE_MACHINE_UNREGISTERED"
  let release ← okOr (D.decodeReleaseSet releaseSetPb) "HOST_NATIVE_RELEASE_PROTO_INVALID"
  rejectIf (releaseSchemaInvalid release ∨ (utf8 release.sourceRevision).length ≠ 40 ∨
    ¬ (utf8 release.sourceRevision).all isLowerHex) "HOST_NATIVE_RELEASE_SCHEMA_INVALID"
  rejectIf (¬ D.releaseSetCanonical releaseSetPb) "HOST_NATIVE_RELEASE_NONCANONICAL"
  let runtimeReleaseSha256 ← runtimeReleaseDigest D intent.kind release releaseSetPb vmBundlePb
  rejectIf (¬ sha runtimeReleaseSha256) "HOST_NATIVE_RUNTIME_RELEASE_INVALID"
  let desiredSha256 ← digestHostDesired host exactSpecBytes
  let bound : BoundNativeHostArtifacts :=
    { registrySha256 := sha256 registryPb, desiredSha256, releaseSetSha256 := sha256 releaseSetPb,
      runtimeReleaseSha256 }
  validateHostIntent intent registry bound.registrySha256 bound.desiredSha256 bound.releaseSetSha256
  pure (registry, bound)

/-! ## Stored records -/

def maxHostIntentBytes : Nat := 8192
def maxHostResultBytes : Nat := 8192

/-- Only canonical bytes are read. -/
def decodeHostIntent (b : Bytes) : Except String FleetHostIntent := do
  rejectIf (b = [] ∨ b.length > maxHostIntentBytes) "HOST_INTENT_SIZE_INVALID"
  let intent ← okOr (FleetHostIntent.decode b) "HOST_INTENT_PROTO_INVALID"
  rejectIf (intent.encodeToVec ≠ b) "HOST_INTENT_NONCANONICAL"
  pure intent

/-- Only canonical bytes are read. -/
def decodeHostResult (b : Bytes) : Except String FleetHostResult := do
  rejectIf (b = [] ∨ b.length > maxHostResultBytes) "HOST_RESULT_SIZE_INVALID"
  let result ← okOr (FleetHostResult.decode b) "HOST_RESULT_PROTO_INVALID"
  rejectIf (result.encodeToVec ≠ b) "HOST_RESULT_NONCANONICAL"
  pure result

/-! ## The one reason of a result -/

/-- The two printed projections of a reason: its error class and the next action. -/
def hostResultReasonProjection : FleetHostResultReason → String × String
  | .unspecified => ("", "UNSPECIFIED")
  | .preparedNeedsOwnerTrust => ("NATIVE_INSTALL_AUTHORITY_NOT_ACCEPTED", "NEED_TRUSTED_OWNER_BOOTSTRAP")
  | .authorizedAwaitNativeReadback => ("", "NATIVE_OWNER_READBACK_REQUIRED")
  | .noFurtherAction => ("", "NONE")
  | .recoveredNativeRunning => ("", "RECOVERED_NATIVE_RUNNING")
  | .recoveredNativeStopped => ("", "RECOVERED_NATIVE_STOPPED")
  | .stoppedReleaseDriftRequiresInstallTarget => ("", "STOPPED_RELEASE_DRIFT_REQUIRES_INSTALL_TARGET")
  | .historicalPartialRequiresFreshApply => ("", "HISTORICAL_PARTIAL_REQUIRES_FRESH_APPLY")

/-- A reason, with the texts that belong to it. -/
def setHostResultReason (result : FleetHostResult) (reason : FleetHostResultReason) : FleetHostResult :=
  { result with
    reason := toI32 reason
    errorClass := (hostResultReasonProjection reason).1
    nextAction := (hostResultReasonProjection reason).2 }

/-- The states a reason may stand with. -/
def reasonAllows : FleetHostResultReason → FleetHostResultState → Bool
  | .unspecified, _ => false
  | .preparedNeedsOwnerTrust, state => state = .prepared
  | .authorizedAwaitNativeReadback, state => state = .authorized
  | .historicalPartialRequiresFreshApply, state => state = .unknownNoReplay || state = .observed
  | _, state => state = .observed || state = .verified

/-- The reason fits the state and its texts. -/
def validateHostResultReason (result : FleetHostResult) : Except String Unit := do
  let reason ← okOr (tryFrom FleetHostResultReason result.reason) "HOST_RESULT_REASON_UNKNOWN"
  let state ← okOr (tryFrom FleetHostResultState result.state) "HOST_RESULT_STATE_INVALID"
  rejectIf (¬ reasonAllows reason state ∨ result.errorClass ≠ (hostResultReasonProjection reason).1 ∨
    result.nextAction ≠ (hostResultReasonProjection reason).2)
    "HOST_RESULT_REASON_STATE_OR_PROJECTION_MISMATCH"

/-- A result about `intent` with every correlating field copied from it. -/
def correlatedResult (intent : FleetHostIntent) (state : FleetHostResultState) (observedAtUnix : UInt64)
    (physicalReadback : Bool) : FleetHostResult :=
  { schemaVersion := 1
    machineId := intent.machineId
    resourceId := intent.resourceId
    operationId := intent.operationId
    action := intent.action
    state := toI32 state
    releaseSetSha256 := intent.releaseSetSha256
    desiredSha256 := intent.desiredSha256
    observedAtUnix
    errorClass := ""
    nextAction := ""
    physicalReadback
    reason := 0 }

/-- The result before the owner trusts the intent. -/
def preparedHostResult (intent : FleetHostIntent) : FleetHostResult :=
  setHostResultReason (correlatedResult intent .prepared 0 false) .preparedNeedsOwnerTrust

/-! ## The Worker's authorization -/

/-- What the Worker signs: the intent and its authorization. -/
def hostAuthorizationPayload (intent : FleetHostIntent) (authorization : FleetHostAuthorization) : Bytes :=
  let intentBytes := intent.encodeToVec
  utf8 "sing-box/native-host-authorization/v1:" ++ be32Len intentBytes ++ intentBytes ++
    be32Len (utf8 authorization.keyId) ++ utf8 authorization.keyId ++
    be32Len (utf8 authorization.operationId) ++ utf8 authorization.operationId ++
    be64 authorization.issuedAtUnix ++ be64 authorization.expiresAtUnix

/-- Signed for this intent, and not expired. -/
def verifyHostAuthorization (D : Deps) (intent : FleetHostIntent) (authorization : FleetHostAuthorization)
    (trustedEd25519PublicKey : Bytes) (nowUnix : UInt64) : Except String Unit := do
  rejectIf (authorization.schemaVersion ≠ 1 ∨ ¬ token authorization.keyId ∨
    authorization.operationId ≠ intent.operationId ∨ trustedEd25519PublicKey.length ≠ 32 ∨
    authorization.ed25519Signature.length ≠ 64) "HOST_AUTHORIZATION_IDENTITY_INVALID"
  rejectIf (authorization.expiresAtUnix ≤ authorization.issuedAtUnix ∨
    authorization.expiresAtUnix - authorization.issuedAtUnix > 300 ∨
    saturatingAdd nowUnix 60 < authorization.issuedAtUnix ∨
    nowUnix > saturatingAdd authorization.expiresAtUnix 60) "HOST_AUTHORIZATION_EXPIRED_OR_FUTURE"
  rejectIf (¬ D.ed25519Verify trustedEd25519PublicKey (hostAuthorizationPayload intent authorization)
    authorization.ed25519Signature) "HOST_AUTHORIZATION_SIGNATURE_INVALID"

end EdgePlatform.Host
