import EdgePlatform.Foundation.Wire

/-!
# `EdgePlatform.Host.Types` — the messages of the native host lifecycle

The records of `fleet.proto` that planning, admission and recovery read, with the field types prost gives
them: an enumeration field is an open `Int32`, recognised by `tryFrom`. Fields that no modelled function
reads are left out of the observation-side records; intent, result and authorization are complete because
their encodings are written to the journal or signed.
-/

namespace EdgePlatform.Host

open Foundation Foundation.Wire

/-! ## Enumerations -/

inductive FleetHostKind
  | unspecified | windows | vm
deriving DecidableEq

inductive FleetHostRunState
  | unspecified | stopped | running
deriving DecidableEq

inductive FleetHostMode
  | unspecified | proxyOnly | managedTun
deriving DecidableEq

inductive WindowsDatapathMode
  | unspecified | proxyOnly | managedTun
deriving DecidableEq

inductive FleetHostAction
  | unspecified | status | apply | recover | install | reinstall | configure | start | stop | setMode
deriving DecidableEq

inductive FleetHostResultState
  | unspecified | observed | prepared | authorized | verified | blocked | unknownNoReplay
deriving DecidableEq

inductive FleetHostResultReason
  | unspecified | preparedNeedsOwnerTrust | authorizedAwaitNativeReadback | noFurtherAction
  | recoveredNativeRunning | recoveredNativeStopped | stoppedReleaseDriftRequiresInstallTarget
  | historicalPartialRequiresFreshApply
deriving DecidableEq

inductive FleetNativeOwnerState
  | unspecified | unproven | stopped | running | transitioning
deriving DecidableEq

inductive FleetNativeReleaseProof
  | unspecified | unproven | activationRecord | applicationBundle | verifiedAbsent
deriving DecidableEq

inductive FleetHostPlannedStep
  | unspecified | blocked | noop | start | stop | replaceRelease | install | configure
deriving DecidableEq

inductive FleetHostPlanReason
  | unspecified | hostKindInvalid | expectedReleaseUnproven | targetUnsetObserveOnly
  | targetRunStateUnproven | targetModeUnproven | tunSeparatePhysicalGateRequired
  | targetModeKindMismatch | nativeReadbackRequired | nativeReadbackInvalidOrWrongKind
  | nativeReadbackStale | nativeReadbackDegraded | nativeStateUnproven
  | verifiedAbsentInstallProposalOnly | absentInstallWithStoppedTarget | absenceOwnerStateConflict
  | nativeReleaseProofUnproven | stopTargetOverridesReleaseMismatch
  | stoppedReleaseMismatchRequiresInstallTarget | stoppedMatchesDesiredLocalOnly
  | releaseMismatchProposalOnly | startProposalOnly | runningMatchesLocalNotExternal
  | vmDegradedRequiresScopedContainerPreadmission | runtimeReadinessUnproven | stoppedConfigurationDrift
deriving DecidableEq

inductive FleetVmInstalledPolicyStatus
  | unspecified | valid | composeInvalid | imageInvalid | networkInvalid | dependencyInvalid
  | configInvalid | otherInvalid
deriving DecidableEq

inductive FleetVmConfigProof
  | unproven | notApplicable | notRunning | boundRunningProcess
deriving DecidableEq

inductive FleetVmObservedReason
  | unspecified | dockerUnavailable | containerAbsent | inspectUnavailable | foreignOwner | stateUnproven
  | healthy | healthStarting | healthUnhealthy | runningNoHealthcheck | healthUnproven | stopped
deriving DecidableEq

-- Every enumeration of `fleet.proto` numbers its values from zero in declaration order.
instance : ProtoEnum FleetHostKind where
  all := [.unspecified, .windows, .vm]
  code := FleetHostKind.ctorIdx

instance : ProtoEnum FleetHostRunState where
  all := [.unspecified, .stopped, .running]
  code := FleetHostRunState.ctorIdx

instance : ProtoEnum FleetHostMode where
  all := [.unspecified, .proxyOnly, .managedTun]
  code := FleetHostMode.ctorIdx

instance : ProtoEnum WindowsDatapathMode where
  all := [.unspecified, .proxyOnly, .managedTun]
  code := WindowsDatapathMode.ctorIdx

instance : ProtoEnum FleetHostAction where
  all := [.unspecified, .status, .apply, .recover, .install, .reinstall, .configure, .start, .stop, .setMode]
  code := FleetHostAction.ctorIdx

instance : ProtoEnum FleetHostResultState where
  all := [.unspecified, .observed, .prepared, .authorized, .verified, .blocked, .unknownNoReplay]
  code := FleetHostResultState.ctorIdx

instance : ProtoEnum FleetHostResultReason where
  all := [.unspecified, .preparedNeedsOwnerTrust, .authorizedAwaitNativeReadback, .noFurtherAction,
    .recoveredNativeRunning, .recoveredNativeStopped, .stoppedReleaseDriftRequiresInstallTarget,
    .historicalPartialRequiresFreshApply]
  code := FleetHostResultReason.ctorIdx

instance : ProtoEnum FleetNativeOwnerState where
  all := [.unspecified, .unproven, .stopped, .running, .transitioning]
  code := FleetNativeOwnerState.ctorIdx

instance : ProtoEnum FleetNativeReleaseProof where
  all := [.unspecified, .unproven, .activationRecord, .applicationBundle, .verifiedAbsent]
  code := FleetNativeReleaseProof.ctorIdx

instance : ProtoEnum FleetHostPlannedStep where
  all := [.unspecified, .blocked, .noop, .start, .stop, .replaceRelease, .install, .configure]
  code := FleetHostPlannedStep.ctorIdx

instance : ProtoEnum FleetHostPlanReason where
  all := [.unspecified, .hostKindInvalid, .expectedReleaseUnproven, .targetUnsetObserveOnly,
    .targetRunStateUnproven, .targetModeUnproven, .tunSeparatePhysicalGateRequired, .targetModeKindMismatch,
    .nativeReadbackRequired, .nativeReadbackInvalidOrWrongKind, .nativeReadbackStale,
    .nativeReadbackDegraded, .nativeStateUnproven, .verifiedAbsentInstallProposalOnly,
    .absentInstallWithStoppedTarget, .absenceOwnerStateConflict, .nativeReleaseProofUnproven,
    .stopTargetOverridesReleaseMismatch, .stoppedReleaseMismatchRequiresInstallTarget,
    .stoppedMatchesDesiredLocalOnly, .releaseMismatchProposalOnly, .startProposalOnly,
    .runningMatchesLocalNotExternal, .vmDegradedRequiresScopedContainerPreadmission,
    .runtimeReadinessUnproven, .stoppedConfigurationDrift]
  code := FleetHostPlanReason.ctorIdx

instance : ProtoEnum FleetVmInstalledPolicyStatus where
  all := [.unspecified, .valid, .composeInvalid, .imageInvalid, .networkInvalid, .dependencyInvalid,
    .configInvalid, .otherInvalid]
  code := FleetVmInstalledPolicyStatus.ctorIdx

instance : ProtoEnum FleetVmConfigProof where
  all := [.unproven, .notApplicable, .notRunning, .boundRunningProcess]
  code := FleetVmConfigProof.ctorIdx

instance : ProtoEnum FleetVmObservedReason where
  all := [.unspecified, .dockerUnavailable, .containerAbsent, .inspectUnavailable, .foreignOwner,
    .stateUnproven, .healthy, .healthStarting, .healthUnhealthy, .runningNoHealthcheck, .healthUnproven,
    .stopped]
  code := FleetVmObservedReason.ctorIdx

/-! ## The registry -/

structure FleetHostTarget where
  runState : Int32
  windowsMode : Int32
deriving DecidableEq

/-- The `oneof owner` of a host. -/
inductive FleetHostOwner
  | windowsRunnerName (name : String)
  | vmMachineId (name : String)
deriving DecidableEq

structure FleetVmContainer where
  containerName : String
  composeProject : String
  composeService : String
deriving DecidableEq

structure FleetVmFirstUseCredential where
  generation : UInt64
  bundleSha256 : String
deriving DecidableEq

structure FleetHost where
  machineId : String
  kind : Int32
  owner : Option FleetHostOwner
  windowsRunnerLabel : String
  desiredSpecPath : String
  target : Option FleetHostTarget
  vmContainers : List FleetVmContainer
  nativeReceiptPublicKey : Bytes
  vmFirstUseCredential : Option FleetVmFirstUseCredential
  workerAuthorityPublicKey : Bytes
  vmProviderSpecPath : String
deriving DecidableEq

structure HostRegistry where
  schemaVersion : UInt32
  hosts : List FleetHost
deriving DecidableEq

/-! ## Observations -/

structure FleetVmDesiredResource where
  resource : Option FleetVmContainer
  imageRef : String
deriving DecidableEq

structure FleetVmDesiredGraph where
  resources : List FleetVmDesiredResource
deriving DecidableEq

structure FleetVmResourceReadback where
  resource : Option FleetVmContainer
  present : Bool
  ownershipProven : Bool
  running : Bool
  runningProven : Bool
  containerId : String
  image : String
  configProof : Int32
  observedReason : Int32
  dockerStateErrorPresent : Bool
deriving DecidableEq

structure FleetVmResourceReport where
  machineId : String
  observedAtUnix : UInt64
  resources : List FleetVmResourceReadback
  installedPolicyGraph : Option FleetVmDesiredGraph
  installedPolicyStatus : Int32
deriving DecidableEq

structure FleetNativeObservation where
  schemaVersion : UInt32
  hostKind : Int32
  observedAtUnix : UInt64
  ownerState : Int32
  releaseProof : Int32
  observedReleaseSha256 : Bytes
  runtimeReady : Bool
  runtimeReadyProven : Bool
  reasonCodes : List String
  vmRecoveryResources : Option FleetVmResourceReport
  windowsConfigSha256 : Bytes
deriving DecidableEq

/-! ## Intents, authorizations, results, plans -/

structure FleetWindowsNetworkAdmission where
  schemaVersion : UInt32
  machineId : String
  operationId : String
  installedReleaseSha256 : Bytes
  desiredReleaseSetSha256 : Bytes
  configSha256 : Bytes
  beforeNetworkSha256 : Bytes
  observedAtUnix : UInt64
  expiresAtUnix : UInt64
  line1WitnessSha256 : Bytes
  controlWitnessSha256 : Bytes
  dnsWitnessSha256 : Bytes
  systemSignature : Bytes
deriving DecidableEq

structure FleetHostIntent where
  schemaVersion : UInt32
  machineId : String
  kind : Int32
  resourceId : String
  operationId : String
  action : Int32
  registrySha256 : Bytes
  desiredSha256 : Bytes
  releaseSetSha256 : Bytes
  requestedMode : Int32
  requestedAtUnix : UInt64
  networkAdmission : Option FleetWindowsNetworkAdmission
deriving DecidableEq

structure FleetHostAuthorization where
  schemaVersion : UInt32
  keyId : String
  operationId : String
  issuedAtUnix : UInt64
  expiresAtUnix : UInt64
  ed25519Signature : Bytes
deriving DecidableEq

structure FleetHostResult where
  schemaVersion : UInt32
  machineId : String
  resourceId : String
  operationId : String
  action : Int32
  state : Int32
  releaseSetSha256 : Bytes
  desiredSha256 : Bytes
  observedAtUnix : UInt64
  errorClass : String
  nextAction : String
  physicalReadback : Bool
  reason : Int32
deriving DecidableEq

structure FleetHostTransitionPlan where
  schemaVersion : UInt32
  machineId : String
  step : Int32
  reasonCode : String
  expectedReleaseDigest : Bytes
  observedReleaseDigest : Bytes
  ownerAttested : Bool
  mutationAuthorized : Bool
  reason : Int32
deriving DecidableEq

/-! ## Native admin programs -/

structure FleetNativeAdminRequest where
  schemaVersion : UInt32
  machineId : String
  sourceCommentId : UInt64
  argv : List String
  releaseSetSha256 : Bytes
  requestedAtUnix : UInt64
  commentSha256 : Bytes
  workingDirectory : String
  environment : List String
  stdinBytes : Bytes
  timeoutSeconds : UInt32
  publishOutput : Bool
deriving DecidableEq

structure FleetNativeAdminAuthorization where
  schemaVersion : UInt32
  keyId : String
  operationId : String
  issuedAtUnix : UInt64
  expiresAtUnix : UInt64
  ed25519Signature : Bytes
deriving DecidableEq

/-- What the owner learns from a finished child: its exit code if it exited, the reads of each pipe and
    whether the pipe reached its end, and how much of the input was taken. -/
structure AdminChildOutcome where
  exitCode : Option Int32
  stdout : List Bytes
  stderr : List Bytes
  stdoutStreamEof : Bool
  stderrStreamEof : Bool
  stdinBytesWritten : UInt64
deriving DecidableEq

/-- The signed record of an admin program. -/
structure FleetNativeAdminResult where
  schemaVersion : UInt32
  machineId : String
  operationId : String
  requestSha256 : Bytes
  observedAtUnix : UInt64
  exitCode : Int32
  stdoutSha256 : Bytes
  stderrSha256 : Bytes
  processExited : Bool
  rootSignature : Bytes
  stdoutPreview : Bytes
  stderrPreview : Bytes
  stdoutTotalBytes : UInt64
  stderrTotalBytes : UInt64
  stdoutTruncated : Bool
  stderrTruncated : Bool
  stdoutCapturePath : String
  stderrCapturePath : String
  stdoutCaptureBytes : UInt64
  stderrCaptureBytes : UInt64
  stdoutCaptureComplete : Bool
  stderrCaptureComplete : Bool
  stdoutStreamEof : Bool
  stderrStreamEof : Bool
  stdinBytesWritten : UInt64
  stdinInputComplete : Bool
  rejectedBeforeBegin : Bool
  rejectionCode : String
  workerAuthorization : Option FleetNativeAdminAuthorization
deriving DecidableEq

/-- What the protected owner root of a VM trusts. -/
structure FleetNativeTrustSnapshot where
  schemaVersion : UInt32
  machineId : String
  registryPb : Bytes
  releaseSetPb : Bytes
  applicationBundlePb : Bytes
  selectedSpecBytes : Bytes
  pinnedWorkerPublicKey : Bytes
deriving DecidableEq

/-! ## Released artifacts -/

structure VmRuntime where
  edgeAgentSha256 : Bytes
  applicationBundleSha256 : Bytes
deriving DecidableEq

structure ReleaseSet where
  schemaVersion : UInt32
  sourceRevision : String
  vmRuntime : Option VmRuntime
deriving DecidableEq

structure BundleFile where
  relativePath : String
  content : Bytes
  executable : Bool
  sensitive : Bool
deriving DecidableEq

structure ApplyBundleRequest where
  stackFiles : List BundleFile
  hostFiles : List BundleFile
  deploymentSummary : Option BundleFile
  agentEnvFile : Option BundleFile
  pruneExisting : Bool
  bundleId : Option String
  bundleDigest : Option String
deriving DecidableEq

structure ProductionDesiredState where
  windowsDatapathMode : Int32
deriving DecidableEq

/-- What the lifecycle code takes from elsewhere: signatures, generated protobuf decoders, the text-format
    parser, and two checks of other modules. Nothing is assumed of them. -/
structure Deps where
  /-- `ring` Ed25519 verification of a message under a public key. -/
  ed25519Verify : (publicKey message signature : Bytes) → Bool
  /-- The public key of a PKCS#8 key pair, if the bytes are one. -/
  ed25519PublicKey : (pkcs8 : Bytes) → Option Bytes
  /-- The signature of a message by a PKCS#8 key pair, if the bytes are one. -/
  ed25519Sign : (pkcs8 message : Bytes) → Option Bytes
  decodeRegistry : Bytes → Option HostRegistry
  decodeReleaseSet : Bytes → Option ReleaseSet
  /-- The bytes are what the decoded release set encodes to. -/
  releaseSetCanonical : Bytes → Bool
  decodeBundle : Bytes → Option ApplyBundleRequest
  /-- The bytes are what the decoded bundle request encodes to. -/
  bundleCanonical : Bytes → Bool
  canonicalApplyBundleDigest : ApplyBundleRequest → Except String String
  parseProductionDesiredText : Bytes → Except String ProductionDesiredState
  validateVmResourceReport : FleetVmResourceReport → FleetHost → Except String Unit
  /-- The encoded length of an observation, its nested report included. -/
  observationEncodedLen : FleetNativeObservation → Nat

end EdgePlatform.Host
