import EdgePlatform.Host.Planner
import EdgePlatform.Foundation.FsProc

/-!
# `EdgePlatform.Host.Journal` — the native owner's no-replay journal

The journal procedures of `host_journal.rs` over one protected directory: admission (scope gate, then BEGIN),
the single native effect, the terminal record, and the adjudication of a BEGIN that an earlier call left
behind. The owner's closures (`observe`, `allow_step`, `apply_once`), the clock and the admin child are
operations of the signature and may answer anything; what matters of them later is recorded as a ghost
history of events.

Directory metadata (ownership, modes, that the path is a directory) is the caller's proof and is not
modelled.
-/

namespace EdgePlatform.Host

open Foundation Foundation.Wire

/-! ## File names -/

/-- Records are named by digests. -/
def journalHex (b : Bytes) : String := hex (sha256 b)

/-- The bytes a resource scope is hashed from: both identities behind their lengths. -/
def scopeKey (intent : FleetHostIntent) : Bytes :=
  utf8 "sing-box/native-resource-scope/v1:" ++
    be32Len (utf8 intent.machineId) ++ utf8 intent.machineId ++
    be32Len (utf8 intent.resourceId) ++ utf8 intent.resourceId

/-- The gate of a machine and resource, whichever operation holds it. -/
def nativeScopePendingPath (intent : FleetHostIntent) : String :=
  "resource-" ++ journalHex (scopeKey intent) ++ ".pending.pb"

/-- The BEGIN record of an operation. -/
def beginName (operationId : String) : String := journalHex (utf8 operationId) ++ ".pb"

inductive Terminal
  | verified | observed | incomplete
deriving DecidableEq

instance {P : Terminal → Prop} [DecidablePred P] : Decidable (∀ t, P t) :=
  decidable_of_iff (P .verified ∧ P .observed ∧ P .incomplete)
    ⟨fun h t => by cases t <;> simp only [h], fun h => ⟨h _, h _, h _⟩⟩

def Terminal.text : Terminal → String
  | .verified => "verified"
  | .observed => "observed"
  | .incomplete => "incomplete"

/-- A terminal record of an operation. -/
def terminalName (operationId : String) (t : Terminal) : String :=
  journalHex (utf8 operationId) ++ "." ++ t.text ++ ".pb"

/-- A file that freezes every other scope. -/
def isPendingName (name : String) : Bool :=
  (startsWith name "resource-" || startsWith name "admin-") && endsWith name ".pending.pb"

/-! ## The owner's operations -/

inductive OwnerOp
  | observe
  | allowStep (step : FleetHostPlannedStep)
  | applyOnce (intent : FleetHostIntent) (step : FleetHostPlannedStep)
  /-- Whole seconds since the effect started. -/
  | effectElapsedSecs
  /-- A protected file of the owner root. -/
  | rootFile (name : String)
  /-- The installed owner executable. -/
  | ownerExecutable
  | adminAuthorization (raw : Bytes)
  | clock
  | spawn (request : FleetNativeAdminRequest)

@[reducible] def OwnerOp.Ans : OwnerOp → Type
  | .observe => Except String FleetNativeObservation
  | .allowStep _ | .applyOnce .. => Except String Unit
  | .effectElapsedSecs => UInt64
  | .clock => Except String UInt64
  | .rootFile _ | .ownerExecutable => Except String Bytes
  | .adminAuthorization _ => Except String FleetNativeAdminAuthorization
  | .spawn _ => Except String AdminChildOutcome

@[reducible] def ownerSig : Sig := ⟨OwnerOp, OwnerOp.Ans⟩

/-- The effects worth remembering. An effect keeps the directory it was invoked in. -/
inductive Event
  | observed (answer : Except String FleetNativeObservation)
  | applied (intent : FleetHostIntent) (step : FleetHostPlannedStep) (dir : Dir)
  | spawned (request : FleetNativeAdminRequest) (dir : Dir)

abbrev JournalWorld := FsWorld Unit (List Event)

/-- The journal directory. -/
abbrev dirOf (w : JournalWorld) : Dir := w.dirs ()

abbrev JournalProc := Proc (fsSig Unit ownerSig)

/-- The event an operation leaves, given its answer. -/
def OwnerOp.events : (op : OwnerOp) → Dir → op.Ans → List Event
  | .observe, _, a => [.observed a]
  | .applyOnce intent step, d, _ => [.applied intent step d]
  | .spawn request, d, _ => [.spawned request d]
  | _, _, _ => []

/-- Every answer is possible; the history grows by the operation's events. -/
def ownerSem : OwnSem Unit (List Event) ownerSig :=
  fun op w a history => history = w.env ++ op.events (dirOf w) a

abbrev journalSem : Sem (fsSig Unit ownerSig) JournalWorld := fsSem ownerSem

def own (op : OwnerOp) : JournalProc op.Ans := Fs.own (X := ownerSig) op

/-- `observe()?`. -/
def observe : JournalProc FleetNativeObservation := do
  let answer ← own .observe
  liftM answer

/-- `allow_step(step)?`. -/
def allowStep (step : FleetHostPlannedStep) : JournalProc Unit := do
  let answer ← own (.allowStep step)
  liftM answer

/-- `apply_once(step)?`. -/
def applyOnce (intent : FleetHostIntent) (step : FleetHostPlannedStep) : JournalProc Unit := do
  let answer ← own (.applyOnce intent step)
  liftM answer

/-! ## Admission -/

/-- The BEGIN record of an admitted intent. -/
def beginRecord (intent : FleetHostIntent) (nowUnix : UInt64) : FleetHostResult :=
  setHostResultReason (correlatedResult intent .authorized nowUnix false) .authorizedAwaitNativeReadback

/-- What Windows SYSTEM proved of its own installation. -/
structure WindowsExecutionBinding where
  installedReleaseSha256 : Bytes
  expectedConfigSha256 : Option Bytes
deriving DecidableEq

/-- The inputs of one signed host execution. -/
structure HostCall where
  binding : Option WindowsExecutionBinding
  intent : FleetHostIntent
  authorization : FleetHostAuthorization
  registryPb : Bytes
  selectedSpecBytes : Bytes
  releaseSetPb : Bytes
  vmBundlePb : Option Bytes
  pinnedWorkerPublicKey : Bytes
  nativeMachineId : String
  nativeOwnerKind : Int32
  nowUnix : UInt64
deriving DecidableEq

/-- The checks an admission repeats before it touches the journal. -/
def validateAdmission (D : Deps) (c : HostCall) (registry : HostRegistry)
    (bound : BoundNativeHostArtifacts) :
    Except String Unit := do
  rejectIf (c.intent.machineId ≠ c.nativeMachineId ∨ c.intent.kind ≠ c.nativeOwnerKind)
    "HOST_LOCAL_OWNER_IDENTITY_MISMATCH"
  validateHostIntent c.intent registry bound.registrySha256 bound.desiredSha256 bound.releaseSetSha256
  validateIntentAgainstTarget c.intent registry
  verifyHostAuthorization D c.intent c.authorization c.pinnedWorkerPublicKey c.nowUnix

/-- Take the gate of the scope and record the BEGIN, once for an operation. -/
def admitAfterProtectedOwnerCheckOnce (D : Deps) (c : HostCall) (registry : HostRegistry)
    (bound : BoundNativeHostArtifacts) : JournalProc FleetHostResult := do
  validateAdmission D c registry bound
  let begun ← Fs.stat () (beginName c.intent.operationId)
  rejectIf (begun = true) "HOST_OPERATION_EXISTS_OR_JOURNAL_UNAVAILABLE"
  Fs.durableCreate () (nativeScopePendingPath c.intent) c.intent.encodeToVec
    "HOST_RESOURCE_PENDING_OR_UNAVAILABLE"
  let recorded := beginRecord c.intent c.nowUnix
  Fs.durableCreate () (beginName c.intent.operationId) recorded.encodeToVec
    "HOST_OPERATION_EXISTS_OR_JOURNAL_UNAVAILABLE"
  pure recorded

/-! ## Terminals -/

/-- The result may be stored under this terminal name. -/
def terminalAdmits (t : Terminal) (result : FleetHostResult) : Bool :=
  match t, tryFrom FleetHostResultState result.state with
  | .verified, some .verified => result.physicalReadback
  | .observed, some .observed => !result.physicalReadback
  | .incomplete, some .unknownNoReplay =>
    !result.physicalReadback &&
      result.reason = toI32 FleetHostResultReason.historicalPartialRequiresFreshApply
  | _, _ => false

/-- The result is about this intent and fits its terminal name. -/
def validateTerminal (intent : FleetHostIntent) (result : FleetHostResult) (t : Terminal) :
    Except String Unit :=
  rejectIf (result.operationId ≠ intent.operationId ∨ result.machineId ≠ intent.machineId ∨
    result.resourceId ≠ intent.resourceId ∨ result.releaseSetSha256 ≠ intent.releaseSetSha256 ∨
    result.desiredSha256 ≠ intent.desiredSha256 ∨ ¬ terminalAdmits t result ∨
    isErr (validateHostResultReason result)) "HOST_TERMINAL_RESULT_INVALID"

/-- Record the terminal, then give up the gate. -/
def storeNativeTerminalAndUnlockOnce (intent : FleetHostIntent) (result : FleetHostResult) (t : Terminal) :
    JournalProc Unit := do
  validateTerminal intent result t
  let pending ← Fs.readOr () (nativeScopePendingPath intent) "HOST_RESOURCE_PENDING_RECORD_REQUIRED"
  rejectIf (pending ≠ intent.encodeToVec) "HOST_RESOURCE_PENDING_IDENTITY_MISMATCH"
  Fs.durableCreate () (terminalName intent.operationId t) result.encodeToVec
    "HOST_TERMINAL_RECEIPT_EXISTS_OR_UNAVAILABLE"
  Fs.durableRemove () (nativeScopePendingPath intent) "HOST_SCOPE_RELEASE_UNCERTAIN_NO_REPLAY"

/-! ## The effect and its post-state -/

/-- Which actions a kind of host executes. -/
def validateNativeActionKind (kind : FleetHostKind) (action : FleetHostAction) : Except String Unit :=
  match kind, action with
  | .vm, .apply | .vm, .recover => .ok ()
  | .windows, .apply | .windows, .recover | .windows, .start | .windows, .stop => .ok ()
  | .windows, .setMode => .error "HOST_WINDOWS_SIGNED_MODE_EFFECT_NOT_ACCEPTED"
  | _, _ => .error "HOST_NATIVE_EXECUTION_ACTION_NOT_ALLOWED"

/-- A START only starts, a STOP only stops. -/
def validateNativeActionStep (kind : FleetHostKind) (action : FleetHostAction)
    (step : FleetHostPlannedStep) :
    Except String Unit := do
  validateNativeActionKind kind action
  rejectIf (kind = .windows ∧ action = .start ∧ ¬ (step = .start ∨ step = .noop))
    "HOST_WINDOWS_SIGNED_START_STEP_MISMATCH"
  rejectIf (kind = .windows ∧ action = .stop ∧ ¬ (step = .stop ∨ step = .noop))
    "HOST_WINDOWS_SIGNED_STOP_STEP_MISMATCH"

/-- The release proof a host of this kind can give. -/
def requiredProof : FleetHostKind → Option FleetNativeReleaseProof
  | .vm => some .applicationBundle
  | .windows => some .activationRecord
  | .unspecified => none

/-- The gate and the BEGIN record that `finish` demands before it looks at the host. -/
def finishRecords (intent : FleetHostIntent) : JournalProc Unit := do
  let bytes ← Fs.readOr () (nativeScopePendingPath intent) "HOST_RESOURCE_PENDING_RECORD_REQUIRED"
  let recordedIntent ← decodeHostIntent bytes
  rejectIf (recordedIntent ≠ intent) "HOST_RESOURCE_PENDING_IDENTITY_MISMATCH"
  let original ← Fs.readOr () (beginName intent.operationId) "HOST_AUTHORIZED_JOURNAL_MISSING"
  let recorded ← okOr (FleetHostResult.decode original) "HOST_AUTHORIZED_JOURNAL_INVALID"
  rejectIf (recorded.state ≠ toI32 FleetHostResultState.authorized ∨
    recorded.machineId ≠ intent.machineId ∨ recorded.resourceId ≠ intent.resourceId ∨
    recorded.operationId ≠ intent.operationId ∨ recorded.action ≠ intent.action ∨
    recorded.releaseSetSha256 ≠ intent.releaseSetSha256 ∨ recorded.desiredSha256 ≠ intent.desiredSha256)
    "HOST_AUTHORIZED_JOURNAL_MISMATCH"

/-- The checks of `finish` on the observed post-state. -/
def finishPoststate (D : Deps) (intent : FleetHostIntent) (target : FleetHostTarget)
    (expectedRuntimeDigest : Bytes) (executedStep : FleetHostPlannedStep) (previousRuntimeDigest : Bytes)
    (nowUnix : UInt64) (o : FleetNativeObservation) : Except String Unit := do
  validateNativeObservation D o
  rejectIf (o.hostKind ≠ intent.kind) "HOST_NATIVE_POSTSTATE_KIND_MISMATCH"
  rejectIf (readbackFuture o.observedAtUnix nowUnix) "HOST_NATIVE_POSTSTATE_FUTURE_TIMESTAMP"
  rejectIf (readbackStale o.observedAtUnix nowUnix) "HOST_NATIVE_POSTSTATE_STALE_TIMESTAMP"
  rejectIf (o.reasonCodes ≠ []) "HOST_NATIVE_POSTSTATE_REASONS_PRESENT"
  let kind ← okOr (tryFrom FleetHostKind intent.kind) "HOST_NATIVE_KIND_INVALID"
  let expectedProof ← okOr (requiredProof kind) "HOST_NATIVE_KIND_INVALID"
  -- STOP preserves the installed release; every other effect must converge to the bound one.
  rejectIf (executedStep = .stop ∧ previousRuntimeDigest.length ≠ 32) "HOST_NATIVE_PRESTATE_RELEASE_UNPROVEN"
  let poststateRelease := if executedStep = .stop then previousRuntimeDigest else expectedRuntimeDigest
  rejectIf (o.releaseProof ≠ toI32 expectedProof ∨ o.observedReleaseSha256 ≠ poststateRelease)
    "HOST_NATIVE_RELEASE_POSTSTATE_MISMATCH"
  let run ← okOr (tryFrom FleetHostRunState target.runState) "HOST_TARGET_RUN_STATE_INVALID"
  let owner ← okOr (tryFrom FleetNativeOwnerState o.ownerState) "HOST_NATIVE_OWNER_STATE_INVALID"
  rejectIf (¬ ((run = .stopped ∧ owner = .stopped) ∨ (run = .running ∧ owner = .running)) ∨
    (run = .running ∧ ¬ (o.runtimeReadyProven ∧ o.runtimeReady))) "HOST_NATIVE_RUNTIME_POSTSTATE_MISMATCH"

/-- The reason `finish` records. -/
def finishReason (executedStep : FleetHostPlannedStep)
    (previousRuntimeDigest expectedRuntimeDigest : Bytes) :
    FleetHostResultReason :=
  if executedStep = .stop ∧ previousRuntimeDigest ≠ expectedRuntimeDigest then
    .stoppedReleaseDriftRequiresInstallTarget
  else .noFurtherAction

/-- The record of a verified effect. -/
def finishResult (intent : FleetHostIntent) (reason : FleetHostResultReason) (observedAtUnix : UInt64) :
    FleetHostResult :=
  setHostResultReason (correlatedResult intent .verified observedAtUnix true) reason

/-- Observe the post-state of a step; record it as verified if it is proven. -/
def finishAfterProtectedOwnerCheckOnce (D : Deps) (c : HostCall) (registry : HostRegistry)
    (expectedRuntimeDigest : Bytes) (executedStep : FleetHostPlannedStep) (previousRuntimeDigest : Bytes)
    (nowUnix : UInt64) (nativeReadback : JournalProc FleetNativeObservation) :
    JournalProc FleetHostResult := do
  rejectIf (c.intent.machineId ≠ c.nativeMachineId ∨ c.intent.kind ≠ c.nativeOwnerKind)
    "HOST_LOCAL_OWNER_IDENTITY_MISMATCH"
  validateIntentAgainstTarget c.intent registry
  let target ← okOr ((registry.owned c.intent.machineId c.intent.kind).bind FleetHost.target)
    "HOST_TARGET_UNSET_OBSERVE_ONLY"
  rejectIf (¬ sha expectedRuntimeDigest) "HOST_EXPECTED_RUNTIME_DIGEST_INVALID"
  finishRecords c.intent
  let observed ← nativeReadback
  finishPoststate D c.intent target expectedRuntimeDigest executedStep previousRuntimeDigest nowUnix observed
  let result := finishResult c.intent (finishReason executedStep previousRuntimeDigest expectedRuntimeDigest)
    observed.observedAtUnix
  storeNativeTerminalAndUnlockOnce c.intent result .verified
  pure result

/-! ## Adjudicating an earlier BEGIN -/

/-- Whether an observation proves that the target was reached. -/
def verifyReadOnlyRecoveryState (D : Deps) (host : FleetHost) (o : FleetNativeObservation)
    (expectedRuntimeDigest : Bytes) (nowUnix : UInt64) : Except String FleetHostResultReason := do
  validateNativeObservation D o
  rejectIf (o.hostKind ≠ host.kind ∨ o.reasonCodes ≠ [] ∨ readbackFuture o.observedAtUnix nowUnix ∨
    readbackStale o.observedAtUnix nowUnix ∨ expectedRuntimeDigest.length ≠ 32)
    "HOST_NATIVE_RECOVERY_READBACK_UNPROVEN"
  let kind ← okOr (tryFrom FleetHostKind host.kind) "HOST_NATIVE_RECOVERY_KIND_INVALID"
  let proof ← okOr (requiredProof kind) "HOST_NATIVE_RECOVERY_KIND_INVALID"
  rejectIf (o.releaseProof ≠ toI32 proof ∨ o.observedReleaseSha256.length ≠ 32 ∨
    allZero o.observedReleaseSha256) "HOST_NATIVE_RECOVERY_RELEASE_UNPROVEN"
  let desired ← okOr host.target "HOST_NATIVE_RECOVERY_TARGET_UNPROVEN"
  let run ← okOr (tryFrom FleetHostRunState desired.runState) "HOST_NATIVE_RECOVERY_TARGET_INVALID"
  let mode ← okOr (tryFrom FleetHostMode desired.windowsMode) "HOST_NATIVE_RECOVERY_MODE_INVALID"
  rejectIf (mode ≠ .unspecified) "HOST_NATIVE_RECOVERY_MODE_NOT_ACCEPTED"
  let owner ← okOr (tryFrom FleetNativeOwnerState o.ownerState) "HOST_NATIVE_RECOVERY_OWNER_UNPROVEN"
  if run = .running ∧ owner = .running ∧ o.runtimeReadyProven ∧ o.runtimeReady ∧
      o.observedReleaseSha256 = expectedRuntimeDigest then .ok .recoveredNativeRunning
  else if run = .stopped ∧ owner = .stopped then
    if o.observedReleaseSha256 = expectedRuntimeDigest then .ok .recoveredNativeStopped
    else .ok .stoppedReleaseDriftRequiresInstallTarget
  else .error "HOST_NATIVE_RECOVERY_NOT_CONVERGED_NO_REPLAY"

/-- Whether a VM runs, though partly and perhaps with an earlier release. -/
def verifyHistoricalPartialRecoveryState (D : Deps) (host : FleetHost) (o : FleetNativeObservation)
    (currentRelease : Bytes) (nowUnix : UInt64) : Except String FleetHostResultReason := do
  validateNativeObservation D o
  rejectIf (host.kind ≠ toI32 FleetHostKind.vm ∨
    host.target.map FleetHostTarget.runState ≠ some (toI32 FleetHostRunState.running) ∨
    o.hostKind ≠ host.kind ∨ readbackFuture o.observedAtUnix nowUnix ∨
    readbackStale o.observedAtUnix nowUnix ∨
      ¬ ((o.ownerState = toI32 FleetNativeOwnerState.running ∧ knownRuntimeOnlyHistoricalReasons o) ∨
        knownPartialVmResourceBaseline D host o) ∨
    o.releaseProof ≠ toI32 FleetNativeReleaseProof.applicationBundle ∨ ¬ o.runtimeReadyProven ∨
    currentRelease.length ≠ 32 ∨ o.observedReleaseSha256.length ≠ 32 ∨ allZero o.observedReleaseSha256 ∨
    (o.observedReleaseSha256 = currentRelease ∧ (o.runtimeReady ∨ ¬ knownRuntimeOnlyHistoricalReasons o)))
    "HOST_NATIVE_HISTORICAL_BASELINE_UNPROVEN_NO_REPLAY"
  pure .historicalPartialRequiresFreshApply

/-- The pending intent may be adjudicated by this RECOVER. -/
def recoveryIdentityMismatch (intent original : FleetHostIntent) : Bool :=
  original.machineId ≠ intent.machineId || original.kind ≠ intent.kind ||
    original.resourceId ≠ intent.resourceId || original.operationId = intent.operationId ||
    !(tryFrom FleetHostAction original.action = some .apply ||
      tryFrom FleetHostAction original.action = some .recover)

/-- The BEGIN record found is not the one `original` was admitted with. -/
def recoveryBeginMismatch (original : FleetHostIntent) (recorded : FleetHostResult) : Bool :=
  recorded.schemaVersion ≠ 1 || recorded.state ≠ toI32 FleetHostResultState.authorized ||
    recorded.physicalReadback || recorded.errorClass ≠ "" || isErr (validateHostResultReason recorded) ||
    recorded.reason ≠ toI32 FleetHostResultReason.authorizedAwaitNativeReadback ||
    recorded.machineId ≠ original.machineId || recorded.resourceId ≠ original.resourceId ||
    recorded.operationId ≠ original.operationId || recorded.action ≠ original.action ||
    recorded.releaseSetSha256 ≠ original.releaseSetSha256 || recorded.desiredSha256 ≠ original.desiredSha256

/-- The earlier operation cannot count as complete: its sources changed, the host runs another release, or
    the VM shows a known runtime defect. -/
def recoveryIncomplete (intent original : FleetHostIntent) (selected : FleetHost)
    (bound : BoundNativeHostArtifacts) (o : FleetNativeObservation) : Bool :=
  original.registrySha256 ≠ intent.registrySha256 || original.desiredSha256 ≠ intent.desiredSha256 ||
    original.releaseSetSha256 ≠ intent.releaseSetSha256 ||
    o.observedReleaseSha256 ≠ bound.runtimeReleaseSha256 ||
    (selected.kind = toI32 FleetHostKind.vm && o.ownerState = toI32 FleetNativeOwnerState.running &&
      !o.runtimeReady && knownRuntimeOnlyHistoricalReasons o)

/-- The verdict on the earlier operation. -/
def recoveryVerdict (D : Deps) (intent original : FleetHostIntent) (selected : FleetHost)
    (bound : BoundNativeHostArtifacts) (nowUnix : UInt64) (o : FleetNativeObservation) :
    Except String FleetHostResultReason := do
  let incomplete := recoveryIncomplete intent original selected bound o
  rejectIf (incomplete ∧ (original.action ≠ toI32 FleetHostAction.apply ∨ original.resourceId ≠ "sing-box" ∨
    selected.kind ≠ toI32 FleetHostKind.vm)) "HOST_NATIVE_HISTORICAL_SCOPE_UNSUPPORTED_NO_REPLAY"
  if incomplete then verifyHistoricalPartialRecoveryState D selected o bound.runtimeReleaseSha256 nowUnix
  else verifyReadOnlyRecoveryState D selected o bound.runtimeReleaseSha256 nowUnix

/-- The verdict says the earlier effect is incomplete. -/
def partialVerdict (verdict : FleetHostResultReason) : Bool :=
  verdict = .historicalPartialRequiresFreshApply

/-- The record recovery writes for the earlier operation. -/
def priorResult (original : FleetHostIntent) (verdict : FleetHostResultReason) (observedAtUnix : UInt64) :
    FleetHostResult :=
  setHostResultReason
    (correlatedResult original (if partialVerdict verdict then .unknownNoReplay else .verified)
      observedAtUnix
      (!partialVerdict verdict)) verdict

def priorTerminal (verdict : FleetHostResultReason) : Terminal :=
  if partialVerdict verdict then .incomplete else .verified

def oppositeTerminal (verdict : FleetHostResultReason) : Terminal :=
  if partialVerdict verdict then .verified else .incomplete

/-- The terminal found is not the one this recovery would write. -/
def recoveryTerminalMismatch (original : FleetHostIntent) (prior exact : FleetHostResult) : Bool :=
  exact.state ≠ prior.state || exact.physicalReadback ≠ prior.physicalReadback ||
    exact.reason ≠ prior.reason || exact.errorClass ≠ prior.errorClass ||
    exact.nextAction ≠ prior.nextAction || exact.machineId ≠ original.machineId ||
    exact.resourceId ≠ original.resourceId || exact.operationId ≠ original.operationId ||
    exact.action ≠ original.action || exact.releaseSetSha256 ≠ original.releaseSetSha256 ||
    exact.desiredSha256 ≠ original.desiredSha256

/-- Settle the earlier operation: write its terminal, or find the same one already there, and release its
    gate. -/
def settlePrior (intent original : FleetHostIntent) (verdict : FleetHostResultReason)
    (observedAtUnix : UInt64) : JournalProc Unit := do
  let prior := priorResult original verdict observedAtUnix
  let conflicting ← Fs.stat () (terminalName original.operationId (oppositeTerminal verdict))
  rejectIf (conflicting = true) "HOST_NATIVE_RECOVERY_CONFLICTING_TERMINAL"
  let settled ← Fs.stat () (terminalName original.operationId (priorTerminal verdict))
  if settled then
    let bytes ← Fs.readOr () (terminalName original.operationId (priorTerminal verdict))
      "HOST_NATIVE_RECOVERY_TERMINAL_UNREADABLE"
    let exact ← decodeHostResult bytes
    rejectIf (recoveryTerminalMismatch original prior exact = true) "HOST_NATIVE_RECOVERY_TERMINAL_MISMATCH"
    Fs.durableRemove () (nativeScopePendingPath intent) "HOST_RECOVERY_SCOPE_UNCERTAIN_NO_REPLAY"
  else
    storeNativeTerminalAndUnlockOnce original prior (priorTerminal verdict)

/-- The result of an operation that changed nothing. -/
def observedResult (intent : FleetHostIntent) (reason : FleetHostResultReason) (observedAtUnix : UInt64) :
    FleetHostResult :=
  setHostResultReason
    { preparedHostResult intent with state := toI32 FleetHostResultState.observed, observedAtUnix } reason

/-- Settle the pending operation from an observation, then record the RECOVER. -/
def resolvePendingNativeRecoveryOnce (D : Deps) (c : HostCall) (registry : HostRegistry)
    (selected : FleetHost) (bound : BoundNativeHostArtifacts) (o : FleetNativeObservation) :
    JournalProc FleetHostResult := do
  let pending ← Fs.readOr () (nativeScopePendingPath c.intent) "HOST_RECOVERY_PENDING_RECORD_UNREADABLE"
  let original ← decodeHostIntent pending
  rejectIf (recoveryIdentityMismatch c.intent original = true)
    "HOST_NATIVE_RECOVERY_PENDING_IDENTITY_MISMATCH"
  let originalBegin ← Fs.readOr () (beginName original.operationId) "HOST_NATIVE_RECOVERY_BEGIN_MISSING"
  let recorded ← decodeHostResult originalBegin
  rejectIf (recoveryBeginMismatch original recorded = true) "HOST_NATIVE_RECOVERY_BEGIN_MISMATCH"
  let verdict ← recoveryVerdict D c.intent original selected bound c.nowUnix o
  settlePrior c.intent original verdict o.observedAtUnix
  -- No native action occurred for the new RECOVER: it is consumed as its own read-only record.
  let _ ← admitAfterProtectedOwnerCheckOnce D c registry bound
  let result := observedResult c.intent verdict o.observedAtUnix
  storeNativeTerminalAndUnlockOnce c.intent result .observed
  pure result

/-! ## One signed execution -/

/-- What an execution has established before it looks at the journal. -/
structure Admission where
  registry : HostRegistry
  bound : BoundNativeHostArtifacts
  action : FleetHostAction
  kind : FleetHostKind
deriving DecidableEq

/-- The config digest Windows SYSTEM expects, if it supplied one. -/
def HostCall.expectedConfig (c : HostCall) : Option Bytes :=
  c.binding.bind WindowsExecutionBinding.expectedConfigSha256

/-- The runtime digest that counts as bound: Windows SYSTEM replaces it with its installed release for every
    action but APPLY. -/
def bindInstalledRelease (c : HostCall) (bound : BoundNativeHostArtifacts) :
    Except String BoundNativeHostArtifacts :=
  match c.binding with
  | none => .ok bound
  | some binding => do
      rejectIf (∃ config ∈ binding.expectedConfigSha256, ¬ sha config)
        "HOST_WINDOWS_EXPECTED_CONFIG_DIGEST_INVALID"
      rejectIf (c.nativeOwnerKind ≠ toI32 FleetHostKind.windows ∨ c.intent.kind ≠ c.nativeOwnerKind ∨
        ¬ sha binding.installedReleaseSha256) "HOST_WINDOWS_INSTALLED_RUNTIME_PROOF_INVALID"
      if c.intent.action ≠ toI32 FleetHostAction.apply then
        pure { bound with runtimeReleaseSha256 := binding.installedReleaseSha256 }
      else pure bound

/-- A Windows owner takes the Worker's key from its own registry. -/
def verifyWindowsSignerPin (c : HostCall) (registry : HostRegistry) : Except String Unit :=
  if c.intent.kind = toI32 FleetHostKind.windows then do
    let selected ← okOr (registry.owned c.intent.machineId c.intent.kind) "HOST_INTENT_UNKNOWN_MACHINE"
    verifyGitHostWorkerSignerPin selected c.pinnedWorkerPublicKey
  else .ok ()

/-- The checks of `execute` that come before the journal. -/
def authenticate (D : Deps) (c : HostCall) : Except String Admission := do
  rejectIf (c.intent.machineId ≠ c.nativeMachineId ∨ c.intent.kind ≠ c.nativeOwnerKind)
    "HOST_LOCAL_OWNER_IDENTITY_MISMATCH"
  let (registry, derived) ← bindNativeHostArtifacts D c.intent c.registryPb c.selectedSpecBytes
      c.releaseSetPb
    c.vmBundlePb
  let bound ← bindInstalledRelease c derived
  validateIntentAgainstTarget c.intent registry
  verifyWindowsSignerPin c registry
  verifyHostAuthorization D c.intent c.authorization c.pinnedWorkerPublicKey c.nowUnix
  let action ← okOr (tryFrom FleetHostAction c.intent.action) "HOST_NATIVE_EXECUTION_ACTION_NOT_ALLOWED"
  let kind ← okOr (tryFrom FleetHostKind c.intent.kind) "HOST_NATIVE_EXECUTION_ACTION_NOT_ALLOWED"
  validateNativeActionKind kind action
  pure { registry, bound, action, kind }

/-- Any other pending scope freezes the host. -/
def rejectOtherPending (intent : FleetHostIntent) : JournalProc Unit := do
  let names ← Fs.list ()
  rejectIf (∃ name ∈ names, isPendingName name ∧ name ≠ nativeScopePendingPath intent)
    "HOST_OTHER_RESOURCE_PENDING_UNKNOWN_NO_REPLAY"

/-- A RECOVER that meets the gate of its scope. -/
def recoverPending (D : Deps) (c : HostCall) (a : Admission) (selected : FleetHost) :
    JournalProc FleetHostResult := do
  let observed ← observe
  if a.kind = .windows then do
    let expected ← okOr c.expectedConfig "HOST_WINDOWS_RECOVERY_CONFIGURATION_UNPROVEN_NO_REPLAY"
    rejectIf (observed.windowsConfigSha256 ≠ expected)
      "HOST_WINDOWS_RECOVERY_CONFIGURATION_NOT_CONVERGED_NO_REPLAY"
  resolvePendingNativeRecoveryOnce D c a.registry selected a.bound observed

/-- The observation's config digest is not the one Windows SYSTEM expects. -/
def configurationDrift (c : HostCall) (o : FleetNativeObservation) : Prop :=
  ∃ config ∈ c.expectedConfig, o.windowsConfigSha256 ≠ config

instance (c : HostCall) (o : FleetNativeObservation) : Decidable (configurationDrift c o) :=
  inferInstanceAs (Decidable (∃ config ∈ c.expectedConfig, o.windowsConfigSha256 ≠ config))

/-- The signed planner with the override for a stopped Windows host whose configuration drifted. -/
def proposeConfigured (D : Deps) (c : HostCall) (a : Admission) (plannedHost : FleetHost)
    (o : FleetNativeObservation) (nowUnix : UInt64) : Except String FleetHostTransitionPlan := do
  let proposal := proposeSignedHostTransition D plannedHost o a.action
    (if c.binding.isSome then a.bound.runtimeReleaseSha256 else a.bound.releaseSetSha256)
    a.bound.runtimeReleaseSha256 nowUnix
  if a.action = .apply ∧ proposal.step = toI32 FleetHostPlannedStep.noop ∧ configurationDrift c o then do
    rejectIf (a.kind ≠ .windows ∨ o.ownerState ≠ toI32 FleetNativeOwnerState.stopped)
      "HOST_WINDOWS_CONFIGURATION_REQUIRES_STOPPED_OWNER"
    pure { proposal with
      step := toI32 FleetHostPlannedStep.configure
      reason := toI32 FleetHostPlanReason.stoppedConfigurationDrift
      reasonCode := "STOPPED_CONFIGURATION_DRIFT" }
  else pure proposal

/-- The step this execution may take from the observed pre-state. -/
def planStep (D : Deps) (c : HostCall) (a : Admission) (selected : FleetHost)
    (before : FleetNativeObservation) :
    Except String FleetHostPlannedStep := do
  validateNativeObservation D before
  rejectIf (∃ binding ∈ c.binding,
    before.releaseProof ≠ toI32 FleetNativeReleaseProof.activationRecord ∨
      before.observedReleaseSha256 ≠ binding.installedReleaseSha256)
    "HOST_WINDOWS_INSTALLED_RUNTIME_READBACK_MISMATCH"
  let plannedHost ← projectHostForPlanner D selected c.selectedSpecBytes
  let proposal ← proposeConfigured D c a plannedHost before c.nowUnix
  validateHostTransitionPlan proposal plannedHost
  let step ← okOr (tryFrom FleetHostPlannedStep proposal.step) "HOST_NATIVE_PLAN_STEP_INVALID"
  rejectIf (step = .blocked) "HOST_NATIVE_PLAN_BLOCKED"
  validateNativeActionStep a.kind a.action step
  rejectIf (c.intent.resourceId ≠ "sing-box" ∧ step ≠ .replaceRelease)
    "HOST_SCOPED_INTENT_CANNOT_EXECUTE_HOST_WIDE_STEP"
  rejectIf (c.intent.action = toI32 FleetHostAction.recover ∧ step ≠ .noop)
    "HOST_NATIVE_RECOVER_READ_ONLY_STATE_NOT_CONVERGED"
  pure step

/-- A NOOP also consumes its operation id. -/
def executeNoop (D : Deps) (c : HostCall) (a : Admission) (before : FleetNativeObservation) :
    JournalProc FleetHostResult := do
  let _ ← admitAfterProtectedOwnerCheckOnce D c a.registry a.bound
  let result := observedResult c.intent .noFurtherAction before.observedAtUnix
  storeNativeTerminalAndUnlockOnce c.intent result .observed
  pure result

/-- The post-state readback of an effect. -/
def observeConfigured (c : HostCall) (a : Admission) : JournalProc FleetNativeObservation := do
  let observed ← observe
  rejectIf (a.action = .apply ∧ configurationDrift c observed) "HOST_WINDOWS_CONFIG_POSTSTATE_MISMATCH"
  pure observed

/-- The admitted native effect. After BEGIN any failure leaves the gate. -/
def executeEffect (D : Deps) (c : HostCall) (a : Admission) (before : FleetNativeObservation)
    (step : FleetHostPlannedStep) : JournalProc FleetHostResult := do
  allowStep step
  let _ ← admitAfterProtectedOwnerCheckOnce D c a.registry a.bound
  applyOnce c.intent step
  let elapsed ← own .effectElapsedSecs
  finishAfterProtectedOwnerCheckOnce D c a.registry a.bound.runtimeReleaseSha256 step
    before.observedReleaseSha256 (saturatingAdd c.nowUnix elapsed) (observeConfigured c a)

/-- The steps a native owner may be asked to take. -/
def FleetHostPlannedStep.isEffect (step : FleetHostPlannedStep) : Bool :=
  step = .start || step = .stop || step = .install || step = .replaceRelease || step = .configure

/-- `execute` from a scope without a gate. -/
def executePlanned (D : Deps) (c : HostCall) (a : Admission) (selected : FleetHost) :
    JournalProc FleetHostResult := do
  let before ← observe
  let step ← planStep D c a selected before
  if step = .noop then executeNoop D c a before
  else
    rejectIf (step.isEffect = false) "HOST_NATIVE_PLAN_UNSUPPORTED"
    executeEffect D c a before step

/-- `execute_after_protected_owner_check_once`. -/
def executeAfterProtectedOwnerCheckOnce (D : Deps) (c : HostCall) : JournalProc FleetHostResult := do
  let a ← authenticate D c
  rejectOtherPending c.intent
  let begun ← Fs.stat () (beginName c.intent.operationId)
  rejectIf (begun = true) "HOST_OPERATION_EXISTS_OR_JOURNAL_UNAVAILABLE"
  let selected ← okOr (a.registry.owned c.intent.machineId c.intent.kind) "HOST_INTENT_UNKNOWN_MACHINE"
  let gated ← Fs.stat () (nativeScopePendingPath c.intent)
  if gated then
    rejectIf (c.intent.action ≠ toI32 FleetHostAction.recover) "HOST_RESOURCE_PENDING_OR_UNAVAILABLE"
    recoverPending D c a selected
  else executePlanned D c a selected

end EdgePlatform.Host
