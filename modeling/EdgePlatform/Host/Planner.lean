import EdgePlatform.Host.Lifecycle

/-!
# `EdgePlatform.Host.Planner` — the pure desired-to-observed transition planner

`propose_host_transition` decides one step for a host from its target and one native observation, as a chain
of early returns; each return names its step and reason. `propose_signed_host_transition` adds the only
override a signed action may have, and `validate_host_transition_plan` re-derives the step from the reason.
-/

namespace EdgePlatform.Host

open Foundation Foundation.Wire

/-- `as_str_name` without the common leading part. -/
def FleetHostPlanReason.text : FleetHostPlanReason → String
  | .unspecified => "UNSPECIFIED"
  | .hostKindInvalid => "HOST_KIND_INVALID"
  | .expectedReleaseUnproven => "EXPECTED_RELEASE_UNPROVEN"
  | .targetUnsetObserveOnly => "TARGET_UNSET_OBSERVE_ONLY"
  | .targetRunStateUnproven => "TARGET_RUN_STATE_UNPROVEN"
  | .targetModeUnproven => "TARGET_MODE_UNPROVEN"
  | .tunSeparatePhysicalGateRequired => "TUN_SEPARATE_PHYSICAL_GATE_REQUIRED"
  | .targetModeKindMismatch => "TARGET_MODE_KIND_MISMATCH"
  | .nativeReadbackRequired => "NATIVE_READBACK_REQUIRED"
  | .nativeReadbackInvalidOrWrongKind => "NATIVE_READBACK_INVALID_OR_WRONG_KIND"
  | .nativeReadbackStale => "NATIVE_READBACK_STALE"
  | .nativeReadbackDegraded => "NATIVE_READBACK_DEGRADED"
  | .nativeStateUnproven => "NATIVE_STATE_UNPROVEN"
  | .verifiedAbsentInstallProposalOnly => "VERIFIED_ABSENT_INSTALL_PROPOSAL_ONLY"
  | .absentInstallWithStoppedTarget => "ABSENT_INSTALL_WITH_STOPPED_TARGET"
  | .absenceOwnerStateConflict => "ABSENCE_OWNER_STATE_CONFLICT"
  | .nativeReleaseProofUnproven => "NATIVE_RELEASE_PROOF_UNPROVEN"
  | .stopTargetOverridesReleaseMismatch => "STOP_TARGET_OVERRIDES_RELEASE_MISMATCH"
  | .stoppedReleaseMismatchRequiresInstallTarget => "STOPPED_RELEASE_MISMATCH_REQUIRES_INSTALL_TARGET"
  | .stoppedMatchesDesiredLocalOnly => "STOPPED_MATCHES_DESIRED_LOCAL_ONLY"
  | .releaseMismatchProposalOnly => "RELEASE_MISMATCH_PROPOSAL_ONLY"
  | .startProposalOnly => "START_PROPOSAL_ONLY"
  | .runningMatchesLocalNotExternal => "RUNNING_MATCHES_LOCAL_NOT_EXTERNAL"
  | .vmDegradedRequiresScopedContainerPreadmission => "VM_DEGRADED_REQUIRES_SCOPED_CONTAINER_PREADMISSION"
  | .runtimeReadinessUnproven => "RUNTIME_READINESS_UNPROVEN"
  | .stoppedConfigurationDrift => "STOPPED_CONFIGURATION_DRIFT"

/-- A proposal; it authorizes nothing. -/
def plan (host : FleetHost) (step : FleetHostPlannedStep) (reason : FleetHostPlanReason)
    (expected observed : Bytes) : FleetHostTransitionPlan :=
  { schemaVersion := 1
    machineId := host.machineId
    step := toI32 step
    reasonCode := reason.text
    expectedReleaseDigest := expected
    observedReleaseDigest := observed
    ownerAttested := false
    mutationAuthorized := false
    reason := toI32 reason }

/-- A degraded or partial VM readback that may only converge to a different bundle. -/
def vmKnownResourceBundleDrift (D : Deps) (host : FleetHost) (kind : FleetHostKind) (run : FleetHostRunState)
    (o : FleetNativeObservation) (expected : Bytes) : Bool :=
  kind = .vm && run = .running && o.releaseProof = toI32 FleetNativeReleaseProof.applicationBundle &&
    o.observedReleaseSha256.length = 32 && !allZero o.observedReleaseSha256 &&
    o.observedReleaseSha256 ≠ expected && o.reasonCodes ≠ [] &&
    ((o.ownerState = toI32 FleetNativeOwnerState.running && knownRuntimeOnlyHistoricalReasons o) ||
      knownPartialVmResourceBaseline D host o)

def vmKnownSameReleaseRuntimeDefect (kind : FleetHostKind) (run : FleetHostRunState)
    (o : FleetNativeObservation) (expected : Bytes) : Bool :=
  kind = .vm && run = .running && o.ownerState = toI32 FleetNativeOwnerState.running &&
    o.releaseProof = toI32 FleetNativeReleaseProof.applicationBundle && o.observedReleaseSha256 = expected &&
    knownRuntimeOnlyHistoricalReasons o

def vmKnownSameReleaseNetworkLoss (kind : FleetHostKind) (run : FleetHostRunState)
    (o : FleetNativeObservation) (expected : Bytes) : Bool :=
  kind = .vm && run = .running && o.ownerState = toI32 FleetNativeOwnerState.running &&
    o.releaseProof = toI32 FleetNativeReleaseProof.applicationBundle && o.observedReleaseSha256 = expected &&
    o.runtimeReadyProven && !o.runtimeReady && o.reasonCodes = ["VM_MANAGED_NETWORK_MISSING"]

/-- The part of the planner after the readback was found current and undegraded. -/
def proposeFromState (host : FleetHost) (kind : FleetHostKind) (run : FleetHostRunState)
    (o : FleetNativeObservation) (expected : Bytes) : FleetHostTransitionPlan :=
  let actual := o.observedReleaseSha256
  match tryFrom FleetNativeOwnerState o.ownerState with
  | none | some .unproven | some .transitioning => plan host .blocked .nativeStateUnproven expected actual
  | some state =>
    let proof := tryFrom FleetNativeReleaseProof o.releaseProof
    let expectedProof : FleetNativeReleaseProof :=
      if kind = .windows then .activationRecord else .applicationBundle
    if proof = some .verifiedAbsent then
      match run, state with
      | .running, .stopped => plan host .install .verifiedAbsentInstallProposalOnly expected []
      | .stopped, .stopped => plan host .blocked .absentInstallWithStoppedTarget expected []
      | _, _ => plan host .blocked .absenceOwnerStateConflict expected []
    else if proof ≠ some expectedProof then
      plan host .blocked .nativeReleaseProofUnproven expected actual
    else if run = .stopped then
      match state with
      | .running => plan host .stop .stopTargetOverridesReleaseMismatch expected actual
      | .stopped =>
        if actual ≠ expected then
          plan host .blocked .stoppedReleaseMismatchRequiresInstallTarget expected actual
        else plan host .noop .stoppedMatchesDesiredLocalOnly expected actual
      | _ => plan host .blocked .nativeStateUnproven expected actual
    else if actual ≠ expected then plan host .replaceRelease .releaseMismatchProposalOnly expected actual
    else match run, state with
      | .running, .stopped => plan host .start .startProposalOnly expected actual
      | .running, .running =>
        if o.runtimeReadyProven ∧ o.runtimeReady then
          plan host .noop .runningMatchesLocalNotExternal expected actual
        else if kind = .vm ∧ o.runtimeReadyProven then
          plan host .start .vmDegradedRequiresScopedContainerPreadmission expected actual
        else plan host .blocked .runtimeReadinessUnproven expected actual
      | _, _ => plan host .blocked .runtimeReadinessUnproven expected actual

/-- The part of the planner after kind, release digest, target and mode were accepted. -/
def proposeFromReadback (D : Deps) (host : FleetHost) (kind : FleetHostKind) (run : FleetHostRunState)
    (observed : Option FleetNativeObservation) (expected : Bytes) (nowUnix : UInt64) :
    FleetHostTransitionPlan :=
  match observed with
  | none => plan host .blocked .nativeReadbackRequired expected []
  | some o =>
    let actual := o.observedReleaseSha256
    if isErr (validateNativeObservation D o) ∨ o.hostKind ≠ host.kind then
      plan host .blocked .nativeReadbackInvalidOrWrongKind expected actual
    else if readbackFuture o.observedAtUnix nowUnix ∨ readbackStale o.observedAtUnix nowUnix then
      plan host .blocked .nativeReadbackStale expected actual
    else if o.reasonCodes ≠ [] ∧ ¬ vmKnownResourceBundleDrift D host kind run o expected ∧
        ¬ vmKnownSameReleaseRuntimeDefect kind run o expected ∧
        ¬ vmKnownSameReleaseNetworkLoss kind run o expected then
      plan host .blocked .nativeReadbackDegraded expected actual
    else proposeFromState host kind run o expected

/-- The step that leads from an observation to the target. -/
def proposeHostTransition (D : Deps) (host : FleetHost) (observed : Option FleetNativeObservation)
    (expectedReleaseSetSha256 expectedVmBundleSha256 : Bytes) (nowUnix : UInt64) : FleetHostTransitionPlan :=
  match tryFrom FleetHostKind host.kind with
  | none | some .unspecified => plan host .blocked .hostKindInvalid [] []
  | some kind =>
    let expected := if kind = .windows then expectedReleaseSetSha256 else expectedVmBundleSha256
    if ¬ sha expected then plan host .blocked .expectedReleaseUnproven expected []
    else match host.target with
      | none => plan host .blocked .targetUnsetObserveOnly expected []
      | some target =>
        match tryFrom FleetHostRunState target.runState with
        | none | some .unspecified => plan host .blocked .targetRunStateUnproven expected []
        | some run =>
          match tryFrom FleetHostMode target.windowsMode with
          | none => plan host .blocked .targetModeUnproven expected []
          | some mode =>
            -- A managed TUN target may still be planned: the planner has no authority to route.
            if (kind = .windows ∧ ¬ (mode = .proxyOnly ∨ mode = .managedTun)) ∨
                (kind = .vm ∧ mode ≠ .unspecified) then
              plan host .blocked .targetModeKindMismatch expected []
            else proposeFromReadback D host kind run observed expected nowUnix

/-- A signed APPLY may also replace the release of a stopped host. -/
def proposeSignedHostTransition (D : Deps) (host : FleetHost) (observed : FleetNativeObservation)
    (action : FleetHostAction) (expectedRelease expectedBundle : Bytes) (now : UInt64) :
    FleetHostTransitionPlan :=
  let proposal := proposeHostTransition D host (some observed) expectedRelease expectedBundle now
  if host.kind = toI32 FleetHostKind.windows ∧ action = .apply ∧
      proposal.reason = toI32 FleetHostPlanReason.stoppedReleaseMismatchRequiresInstallTarget then
    plan host .replaceRelease .releaseMismatchProposalOnly expectedRelease observed.observedReleaseSha256
  else proposal

/-- The step a reason stands for. -/
def plannedStepOf : FleetHostPlanReason → Option FleetHostPlannedStep
  | .unspecified => none
  | .verifiedAbsentInstallProposalOnly => some .install
  | .stopTargetOverridesReleaseMismatch => some .stop
  | .stoppedMatchesDesiredLocalOnly | .runningMatchesLocalNotExternal => some .noop
  | .releaseMismatchProposalOnly => some .replaceRelease
  | .startProposalOnly | .vmDegradedRequiresScopedContainerPreadmission => some .start
  | .stoppedConfigurationDrift => some .configure
  | _ => some .blocked

/-- The step and the texts of a proposal belong to its reason. -/
def validateHostTransitionPlan (proposal : FleetHostTransitionPlan) (host : FleetHost) :
    Except String Unit := do
  rejectIf (proposal.schemaVersion ≠ 1 ∨ proposal.machineId ≠ host.machineId ∨ proposal.ownerAttested ∨
    proposal.mutationAuthorized) "HOST_PLAN_SCOPE_OR_AUTHORITY_INVALID"
  let reason ← okOr (tryFrom FleetHostPlanReason proposal.reason) "HOST_PLAN_REASON_UNRECOGNIZED"
  rejectIf (reason = .unspecified) "HOST_PLAN_REASON_UNSPECIFIED"
  rejectIf (proposal.reasonCode ≠ reason.text) "HOST_PLAN_REASON_CODE_MISMATCH"
  let expectedStep ← okOr (plannedStepOf reason) "HOST_PLAN_REASON_UNSPECIFIED"
  rejectIf (proposal.step ≠ toI32 expectedStep) "HOST_PLAN_ACTION_REASON_CONFLICT"

end EdgePlatform.Host
