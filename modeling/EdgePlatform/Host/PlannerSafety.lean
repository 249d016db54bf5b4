import EdgePlatform.Host.Journal

/-!
# `EdgePlatform.Host.PlannerSafety` — what every proposal of the planner rests on

The planner is a chain of early returns with three exceptions for degraded VM readbacks. `Justified` lists
the combinations of target and observation from which it proposes each step, one constructor per return;
`proposeHostTransition_justified` is the only place where the chain is taken apart. What a proposal may do,
and that it passes `validate_host_transition_plan`, is then read off the constructors.
-/

namespace EdgePlatform.Host

open Foundation Foundation.Wire

/-! ## Why a step is proposed -/

/-- The release proof the planner accepts from a host of this kind. -/
def plannerProof (kind : FleetHostKind) : FleetNativeReleaseProof :=
  if kind = .windows then .activationRecord else .applicationBundle

/-- The observation proves the release in the way of its host kind, and the owner state. -/
structure Proves (kind : FleetHostKind) (o : FleetNativeObservation)
    (state : FleetNativeOwnerState) : Prop where
  proof : o.releaseProof = toI32 (plannerProof kind)
  owner : o.ownerState = toI32 state

/-- Why the planner proposes a step, and under which reason, for a host with run target `run` whose current
    observation is `o`. -/
inductive Justified (kind : FleetHostKind) (run : FleetHostRunState) (o : FleetNativeObservation)
    (expected : Bytes) : FleetHostPlannedStep → FleetHostPlanReason → Prop
  | blocked {reason : FleetHostPlanReason} : plannedStepOf reason = some .blocked →
      reason ≠ .stoppedReleaseMismatchRequiresInstallTarget → Justified kind run o expected .blocked reason
  | absent : o.releaseProof = toI32 FleetNativeReleaseProof.verifiedAbsent →
      o.ownerState = toI32 FleetNativeOwnerState.stopped → run = .running →
      Justified kind run o expected .install .verifiedAbsentInstallProposalOnly
  | stopRunning : Proves kind o .running → run = .stopped →
      Justified kind run o expected .stop .stopTargetOverridesReleaseMismatch
  | stoppedMismatch : Proves kind o .stopped → run = .stopped → o.observedReleaseSha256 ≠ expected →
      Justified kind run o expected .blocked .stoppedReleaseMismatchRequiresInstallTarget
  | stoppedMatch : Proves kind o .stopped → run = .stopped → o.observedReleaseSha256 = expected →
      Justified kind run o expected .noop .stoppedMatchesDesiredLocalOnly
  | mismatch {state : FleetNativeOwnerState} : Proves kind o state → state = .running ∨ state = .stopped →
      run ≠ .stopped → o.observedReleaseSha256 ≠ expected →
      Justified kind run o expected .replaceRelease .releaseMismatchProposalOnly
  | startStopped : Proves kind o .stopped → run = .running → o.observedReleaseSha256 = expected →
      Justified kind run o expected .start .startProposalOnly
  | ready : Proves kind o .running → run = .running → o.observedReleaseSha256 = expected →
      o.runtimeReady = true → Justified kind run o expected .noop .runningMatchesLocalNotExternal
  | degraded : Proves kind o .running → run = .running → o.observedReleaseSha256 = expected → kind = .vm →
      Justified kind run o expected .start .vmDegradedRequiresScopedContainerPreadmission

variable {D : Deps} {o : FleetNativeObservation} {kind : FleetHostKind} {run : FleetHostRunState}
variable {observedAt now : UInt64} {host : FleetHost} {expected seen e : Bytes} {step : FleetHostPlannedStep}
variable {reason : FleetHostPlanReason} {observed : Option FleetNativeObservation}

/-- A validated observation has an owner state of the protocol. -/
theorem ownerState_of_validate (h : validateNativeObservation D o = .ok ()) :
    ∃ state : FleetNativeOwnerState, o.ownerState = toI32 state ∧ state ≠ .unspecified := by
  simp only [validateNativeObservation, ok_iff, not_or] at h
  obtain ⟨kind, -, state, hstate, proof, -, h⟩ := h
  exact ⟨state, (tryFrom_eq_some.mp hstate).symm, h.2.2.2.1⟩

/-- The chain after a current observation: one return per constructor. -/
theorem proposeFromState_justified (host : FleetHost)
    (expected : Bytes) (hvalid : validateNativeObservation D o = .ok ()) :
    ∃ step reason seen, proposeFromState host kind run o expected = plan host step reason expected seen ∧
      Justified kind run o expected step reason := by
  obtain ⟨state, hstate, hspecified⟩ := ownerState_of_validate hvalid
  have hblocked : ∀ {reason : FleetHostPlanReason} (seen : Bytes), plannedStepOf reason = some .blocked →
      reason ≠ .stoppedReleaseMismatchRequiresInstallTarget →
      ∃ step reason' seen', plan host .blocked reason expected seen = plan host step reason' expected seen' ∧
        Justified kind run o expected step reason' :=
    fun seen hstep hne => ⟨_, _, seen, rfl, .blocked hstep hne⟩
  have hproofs : (if kind = .windows then .activationRecord else .applicationBundle) = plannerProof kind :=
    rfl
  unfold proposeFromState
  rw [hstate, tryFrom_toI32, hproofs]
  have hproven : state = .running ∨ state = .stopped ∨ state = .unproven ∨ state = .transitioning := by
    cases state <;> simp_all
  rcases hproven with rfl | rfl | rfl | rfl
  · -- The owner runs.
    dsimp only
    split
    · cases run <;> exact hblocked _ rfl (by decide)
    split
    · exact hblocked _ rfl (by decide)
    rename_i hproof
    have hproves : Proves kind o .running := ⟨(tryFrom_eq_some.mp (not_not.mp hproof)).symm, hstate⟩
    split
    · exact ⟨_, _, _, rfl, .stopRunning hproves ‹_›⟩
    split
    · exact ⟨_, _, _, rfl, .mismatch hproves (.inl rfl) ‹_› ‹_›⟩
    rename_i hrun hrelease
    cases run with
    | unspecified => exact hblocked _ rfl (by decide)
    | stopped => exact absurd rfl hrun
    | running =>
      dsimp only
      split
      · exact ⟨_, _, _, rfl, .ready hproves rfl (not_not.mp hrelease) (‹_ ∧ _›).2⟩
      split
      · exact ⟨_, _, _, rfl, .degraded hproves rfl (not_not.mp hrelease) (‹_ ∧ _›).1⟩
      · exact hblocked _ rfl (by decide)
  · -- The owner is stopped.
    dsimp only
    split
    · rename_i habsent
      cases run with
      | unspecified | stopped => exact hblocked _ rfl (by decide)
      | running => exact ⟨_, _, _, rfl, .absent (tryFrom_eq_some.mp habsent).symm hstate rfl⟩
    split
    · exact hblocked _ rfl (by decide)
    rename_i hproof
    have hproves : Proves kind o .stopped := ⟨(tryFrom_eq_some.mp (not_not.mp hproof)).symm, hstate⟩
    split
    · split
      · exact ⟨_, _, _, rfl, .stoppedMismatch hproves ‹_› ‹_›⟩
      · exact ⟨_, _, _, rfl, .stoppedMatch hproves ‹_› (not_not.mp ‹_›)⟩
    split
    · exact ⟨_, _, _, rfl, .mismatch hproves (.inr rfl) ‹_› ‹_›⟩
    rename_i hrun hrelease
    cases run with
    | unspecified => exact hblocked _ rfl (by decide)
    | stopped => exact absurd rfl hrun
    | running => exact ⟨_, _, _, rfl, .startStopped hproves rfl (not_not.mp hrelease)⟩
  · exact hblocked _ rfl (by decide)
  · exact hblocked _ rfl (by decide)

/-! ## Current observations -/

/-- The observation is a valid, current one of the host's own kind. -/
structure Current (D : Deps) (host : FleetHost) (o : FleetNativeObservation) (now : UInt64) : Prop where
  valid : validateNativeObservation D o = .ok ()
  kind : o.hostKind = host.kind
  young : now.toNat ≤ o.observedAtUnix.toNat + 300
  past : o.observedAtUnix.toNat ≤ now.toNat + 60

theorem toNat_saturatingAdd_le (a b : UInt64) : (saturatingAdd a b).toNat ≤ a.toNat + b.toNat := by
  unfold saturatingAdd
  split
  · rename_i h
    have : (18446744073709551615 : UInt64).toNat = 2 ^ 64 - 1 := rfl
    omega
  · rw [UInt64.toNat_add]
    exact Nat.mod_le _ _

theorem past_of_not_future (h : ¬ readbackFuture observedAt now = true) :
    observedAt.toNat ≤ now.toNat + 60 := by
  have hle : observedAt ≤ saturatingAdd now 60 := by simpa [readbackFuture] using h
  exact (UInt64.le_iff_toNat_le.mp hle).trans (toNat_saturatingAdd_le now 60)

theorem young_of_not_stale (h : ¬ readbackStale observedAt now = true) :
    now.toNat ≤ observedAt.toNat + 300 := by
  have hle : saturatingSub now observedAt ≤ 300 := by simpa [readbackStale] using h
  have hle := UInt64.le_iff_toNat_le.mp hle
  unfold saturatingSub at hle
  split at hle
  · rename_i hord
    rw [UInt64.toNat_sub_of_le _ _ hord] at hle
    have : (300 : UInt64).toNat = 300 := rfl
    omega
  · rename_i hord
    have := UInt64.lt_iff_toNat_lt.mp (UInt64.not_le.mp hord)
    omega

/-- The degraded readbacks that are let through never show a ready runtime of the expected release, and only
    a running target lets them through. -/
theorem known_defect (hcodes : o.reasonCodes ≠ [])
      (h : vmKnownResourceBundleDrift D host kind run o expected = true ∨
        vmKnownSameReleaseRuntimeDefect kind run o expected = true ∨
      vmKnownSameReleaseNetworkLoss kind run o expected = true) :
    run = .running ∧ ¬ (o.observedReleaseSha256 = expected ∧ o.runtimeReady = true) := by
  rcases h with h | h | h
  · simp only [vmKnownResourceBundleDrift, Bool.and_eq_true, decide_eq_true_eq] at h
    exact ⟨h.1.1.1.1.1.1.2, fun hsame => h.1.1.2 hsame.1⟩
  · simp only [vmKnownSameReleaseRuntimeDefect, Bool.and_eq_true, decide_eq_true_eq] at h
    refine ⟨h.1.1.1.1.2, fun hsame => hcodes ?_⟩
    have hknown := h.2
    unfold knownRuntimeOnlyHistoricalReasons at hknown
    split at hknown
    · cases hknown
    · simpa [hsame.2] using hknown
  · simp only [vmKnownSameReleaseNetworkLoss, Bool.and_eq_true, decide_eq_true_eq, Bool.not_eq_true'] at h
    exact ⟨h.1.1.1.1.1.1.2, fun hsame => by simp [hsame.2] at h⟩

/-! ## Whole proposals -/

/-- What a proposal comes from: it is blocked for a reason found before the state of the host was looked at,
    or it is justified by a current observation. -/
inductive Derived (D : Deps) (host : FleetHost) (observed : Option FleetNativeObservation) (now : UInt64)
    (expected : Bytes) : FleetHostPlannedStep → FleetHostPlanReason → Prop
  | early {reason : FleetHostPlanReason} : plannedStepOf reason = some .blocked →
      reason ≠ .stoppedReleaseMismatchRequiresInstallTarget →
      Derived D host observed now expected .blocked reason
  | observed {kind : FleetHostKind} {run : FleetHostRunState} {target : FleetHostTarget}
      {o : FleetNativeObservation} {step : FleetHostPlannedStep} {reason : FleetHostPlanReason} :
      host.kind = toI32 kind → kind ≠ .unspecified → host.target = some target →
        target.runState = toI32 run →
      run ≠ .unspecified → observed = some o → Current D host o now →
      (o.reasonCodes ≠ [] → run = .running ∧
        ¬ (o.observedReleaseSha256 = expected ∧ o.runtimeReady = true)) →
      Justified kind run o expected step reason → Derived D host observed now expected step reason

theorem proposeFromReadback_derived {target : FleetHostTarget} (observed : Option FleetNativeObservation)
    (expected : Bytes) (now : UInt64) (hkind : host.kind = toI32 kind) (hspecified : kind ≠ .unspecified)
    (htarget : host.target = some target) (hrun : target.runState = toI32 run) (hset : run ≠ .unspecified) :
    ∃ step reason seen, proposeFromReadback D host kind run observed expected now =
      plan host step reason expected seen ∧ Derived D host observed now expected step reason := by
  cases observed with
  | none => exact ⟨_, _, _, rfl, .early rfl (by decide)⟩
  | some o =>
    unfold proposeFromReadback
    dsimp only
    split
    · exact ⟨_, _, _, rfl, .early rfl (by decide)⟩
    rename_i hvalid
    split
    · exact ⟨_, _, _, rfl, .early rfl (by decide)⟩
    rename_i htime
    split
    · exact ⟨_, _, _, rfl, .early rfl (by decide)⟩
    rename_i hdegraded
    obtain ⟨hok, hown⟩ := not_or.mp hvalid
    obtain ⟨hfuture, hstale⟩ := not_or.mp htime
    have hok : validateNativeObservation D o = .ok () := by
      cases hv : validateNativeObservation D o with
      | ok u => rfl
      | error e => exact absurd (by rw [hv]; rfl) hok
    obtain ⟨step, reason, seen, hplan, hjustified⟩ := proposeFromState_justified host expected hok
    have hcurrent : Current D host o now :=
      ⟨hok, not_not.mp hown, young_of_not_stale hstale, past_of_not_future hfuture⟩
    refine ⟨step, reason, seen, hplan,
      .observed hkind hspecified htarget hrun hset rfl hcurrent ?_ hjustified⟩
    intro hcodes
    have hknown : vmKnownResourceBundleDrift D host kind run o expected = true ∨
        vmKnownSameReleaseRuntimeDefect kind run o expected = true ∨
        vmKnownSameReleaseNetworkLoss kind run o expected = true := by
      by_contra hnone
      simp only [not_or] at hnone
      exact hdegraded ⟨hcodes, hnone⟩
    exact known_defect hcodes hknown

/-- The release digest a proposal for this host is about. -/
def expectedRelease (host : FleetHost) (releaseSetSha256 vmBundleSha256 : Bytes) : Bytes :=
  if host.kind = toI32 FleetHostKind.windows then releaseSetSha256 else vmBundleSha256

theorem proposeHostTransition_derived (D : Deps) (host : FleetHost)
    (observed : Option FleetNativeObservation) (releaseSetSha256 vmBundleSha256 : Bytes) (now : UInt64) :
    ∃ step reason e seen,
      proposeHostTransition D host observed releaseSetSha256 vmBundleSha256 now =
      plan host step reason e seen ∧ Derived D host observed now
      (expectedRelease host releaseSetSha256 vmBundleSha256) step reason := by
  unfold proposeHostTransition
  split
  · exact ⟨_, _, _, _, rfl, .early rfl (by decide)⟩
  · exact ⟨_, _, _, _, rfl, .early rfl (by decide)⟩
  rename_i kind hspecified hkind
  have hkind := (tryFrom_eq_some.mp hkind).symm
  have hexpected : (if kind = .windows then releaseSetSha256 else vmBundleSha256) =
      expectedRelease host releaseSetSha256 vmBundleSha256 := by
    rw [expectedRelease, hkind]
    simp only [toI32_inj]
  dsimp only
  rw [hexpected]
  split
  · exact ⟨_, _, _, _, rfl, .early rfl (by decide)⟩
  split
  · exact ⟨_, _, _, _, rfl, .early rfl (by decide)⟩
  rename_i target htarget
  split
  · exact ⟨_, _, _, _, rfl, .early rfl (by decide)⟩
  · exact ⟨_, _, _, _, rfl, .early rfl (by decide)⟩
  rename_i run hset hrun
  split
  · exact ⟨_, _, _, _, rfl, .early rfl (by decide)⟩
  split
  · exact ⟨_, _, _, _, rfl, .early rfl (by decide)⟩
  obtain ⟨step, reason, seen, hplan, hderived⟩ := proposeFromReadback_derived observed
    (expectedRelease host releaseSetSha256 vmBundleSha256) now hkind (fun h => hspecified h) htarget
    (tryFrom_eq_some.mp hrun).symm (fun h => hset h)
  exact ⟨step, reason, _, seen, hplan, hderived⟩

theorem plannedStepOf_justified (h : Justified kind run o expected step reason) :
    plannedStepOf reason = some step := by
  cases h with
  | blocked hstep _ => exact hstep
  | _ => rfl

theorem plannedStepOf_derived
    (h : Derived D host observed now expected step reason) : plannedStepOf reason = some step := by
  cases h with
  | early hstep _ => exact hstep
  | observed _ _ _ _ _ _ _ _ hjustified => exact plannedStepOf_justified hjustified

/-- A plan is valid when its reason stands for its step. -/
theorem validate_plan (h : plannedStepOf reason = some step) :
    validateHostTransitionPlan (plan host step reason expected seen) host = .ok () := by
  have hset : reason ≠ .unspecified := by
    rintro rfl
    cases h
  refine passes_bind (by simp [plan]) ?_
  refine ok_bind (okOr_eq_ok.mpr (tryFrom_toI32 reason)) ?_
  refine passes_bind hset ?_
  refine passes_bind (not_not.mpr rfl) ?_
  exact ok_bind (okOr_eq_ok.mpr h) (rejectIf_eq_ok.mpr (not_not.mpr rfl))

/-! ## Safety -/

/-- What a mutating step rests on. -/
structure Grounded (D : Deps) (host : FleetHost) (o : FleetNativeObservation) (now : UInt64)
    (step : FleetHostPlannedStep) : Prop where
  current : Current D host o now
  owner : o.ownerState = toI32 FleetNativeOwnerState.running ∨
    o.ownerState = toI32 FleetNativeOwnerState.stopped
  proof : (host.kind = toI32 FleetHostKind.windows ∧
      o.releaseProof = toI32 FleetNativeReleaseProof.activationRecord) ∨
    (host.kind = toI32 FleetHostKind.vm ∧
      o.releaseProof = toI32 FleetNativeReleaseProof.applicationBundle) ∨
    (step = .install ∧ o.releaseProof = toI32 FleetNativeReleaseProof.verifiedAbsent)

/-- A safe plan. `replacesStopped` says when a host that shall be stopped may have its release replaced. -/
structure SafePlan (D : Deps) (host : FleetHost) (observed : Option FleetNativeObservation) (now : UInt64)
    (replacesStopped : FleetNativeObservation → Prop) (p : FleetHostTransitionPlan) : Prop where
  /-- A mutating step comes from a current observation with a proven state and release. -/
  grounded : ∀ step : FleetHostPlannedStep, p.step = toI32 step → step.isEffect = true →
    ∃ o, observed = some o ∧ Grounded D host o now step
  /-- A target that shall be stopped is never started or installed. -/
  stopped : ∀ target, host.target = some target → target.runState = toI32 FleetHostRunState.stopped →
    p.step ≠ toI32 FleetHostPlannedStep.start ∧ p.step ≠ toI32 FleetHostPlannedStep.install ∧
      (p.step = toI32 FleetHostPlannedStep.replaceRelease → ∃ o, observed = some o ∧ replacesStopped o)
  /-- A degraded observation is never taken as converged. -/
  noop : p.step = toI32 FleetHostPlannedStep.noop → ∃ o, observed = some o ∧ o.reasonCodes = []
  valid : validateHostTransitionPlan p host = .ok ()

theorem proof_of_proves {state : FleetNativeOwnerState} (h : Proves kind o state)
    (hkind : host.kind = toI32 kind) (hspecified : kind ≠ .unspecified) :
    (host.kind = toI32 FleetHostKind.windows ∧
        o.releaseProof = toI32 FleetNativeReleaseProof.activationRecord) ∨
      (host.kind = toI32 FleetHostKind.vm ∧
        o.releaseProof = toI32 FleetNativeReleaseProof.applicationBundle) ∨
      (step = .install ∧ o.releaseProof = toI32 FleetNativeReleaseProof.verifiedAbsent) := by
  cases kind with
  | unspecified => exact absurd rfl hspecified
  | windows => exact .inl ⟨hkind, h.proof⟩
  | vm => exact .inr (.inl ⟨hkind, h.proof⟩)

theorem grounded_of_justified (h : Justified kind run o expected step reason)
    (hkind : host.kind = toI32 kind) (hspecified : kind ≠ .unspecified) (hcurrent : Current D host o now)
    (heffect : step.isEffect = true) : Grounded D host o now step := by
  cases h with
  | blocked | stoppedMismatch | stoppedMatch | ready => cases heffect
  | absent hproof howner _ => exact ⟨hcurrent, .inr howner, .inr (.inr ⟨rfl, hproof⟩)⟩
  | stopRunning hp _ => exact ⟨hcurrent, .inl hp.owner, proof_of_proves hp hkind hspecified⟩
  | mismatch hp hstate _ _ =>
    refine ⟨hcurrent, ?_, proof_of_proves hp hkind hspecified⟩
    rcases hstate with rfl | rfl
    · exact .inl hp.owner
    · exact .inr hp.owner
  | startStopped hp _ _ => exact ⟨hcurrent, .inr hp.owner, proof_of_proves hp hkind hspecified⟩
  | degraded hp _ _ _ => exact ⟨hcurrent, .inl hp.owner, proof_of_proves hp hkind hspecified⟩

/-- A converged host shows no reason codes: the exceptions for degraded readbacks need a running target whose
    release differs or whose runtime is not ready. -/
theorem undegraded_of_noop (h : Justified kind run o expected .noop reason) (hdefect : o.reasonCodes ≠ [] →
      run = .running ∧ ¬ (o.observedReleaseSha256 = expected ∧ o.runtimeReady = true)) :
      o.reasonCodes = [] := by
  by_contra hcodes
  obtain ⟨hrun, hnot⟩ := hdefect hcodes
  cases h with
  | stoppedMatch _ hstopped _ =>
    rw [hstopped] at hrun
    cases hrun
  | ready _ _ hrelease hready => exact hnot ⟨hrelease, hready⟩

theorem safePlan_of_derived {replacesStopped : FleetNativeObservation → Prop}
    (h : Derived D host observed now expected step reason) :
    SafePlan D host observed now replacesStopped (plan host step reason e seen) where
  grounded step' hstep heffect := by
    obtain rfl : step = step' := toI32_inj.mp hstep
    cases h with
    | early => cases heffect
    | observed hkind hspecified _ _ _ ho hcurrent _ hj =>
      exact ⟨_, ho, grounded_of_justified hj hkind hspecified hcurrent heffect⟩
  stopped target htarget hstopped := by
    -- The two run states of a host are the same.
    have hrun : ∀ {run : FleetHostRunState} {target' : FleetHostTarget}, host.target = some target' →
        target'.runState = toI32 run → run = .stopped := by
      intro run target' htarget' hrun
      obtain rfl : target = target' := Option.some.inj (htarget.symm.trans htarget')
      exact toI32_inj.mp (hrun.symm.trans hstopped)
    show toI32 step ≠ _ ∧ toI32 step ≠ _ ∧ (toI32 step = _ → _)
    simp only [ne_eq, toI32_inj]
    cases h with
    | early => exact ⟨by decide, by decide, fun h => by cases h⟩
    | observed _ _ ht hr _ _ _ _ hj =>
      have hrun := hrun ht hr
      cases hj with
      | blocked | stopRunning | stoppedMismatch | stoppedMatch | ready =>
        exact ⟨by decide, by decide, fun h => by cases h⟩
      | absent _ _ hrunning | startStopped _ hrunning _ | degraded _ hrunning _ _ =>
        rw [hrunning] at hrun
        cases hrun
      | mismatch _ _ hne _ => exact absurd hrun hne
  noop hstep := by
    obtain rfl : step = .noop := toI32_inj.mp hstep
    cases h with
    | observed _ _ _ _ _ ho _ hdefect hj => exact ⟨_, ho, undegraded_of_noop hj hdefect⟩
  valid := validate_plan (plannedStepOf_derived h)

/-- The override of a signed APPLY: a stopped Windows host whose release differs gets it replaced. -/
theorem safePlan_override {action : FleetHostAction} (hwindows : host.kind = toI32 FleetHostKind.windows)
    (haction : action = .apply)
    (h : Derived D host (some o) now expected step .stoppedReleaseMismatchRequiresInstallTarget) :
    SafePlan D host (some o) now
      (fun o => host.kind = toI32 FleetHostKind.windows ∧ action = .apply ∧
        o.ownerState = toI32 FleetNativeOwnerState.stopped)
      (plan host .replaceRelease .releaseMismatchProposalOnly e seen) := by
  cases h with
  | early _ hne => exact absurd rfl hne
  | observed hkind hspecified htarget hrun hset ho hcurrent hdefect hj =>
    cases ho
    cases hj with
    | blocked _ hne => exact absurd rfl hne
    | stoppedMismatch hp _ _ =>
      exact
        { grounded := by
            intro step' hstep _
            obtain rfl : FleetHostPlannedStep.replaceRelease = step' := toI32_inj.mp hstep
            exact ⟨o, rfl, hcurrent, .inr hp.owner, proof_of_proves hp hkind hspecified⟩
          stopped := fun _ _ _ => ⟨fun h => (nomatch toI32_inj.mp h), fun h => (nomatch toI32_inj.mp h),
            fun _ => ⟨o, rfl, hwindows, haction, hp.owner⟩⟩
          noop := fun hstep => by cases toI32_inj.mp hstep
          valid := validate_plan rfl }

/-- **The planner is safe**, for every host, observation, digests and time: without a signed action, and for
    every signed action. Only a signed APPLY of a Windows host whose owner is stopped replaces the release of
    a host that shall stay stopped. -/
theorem planner_safe (D : Deps) (host : FleetHost) (releaseSetSha256 vmBundleSha256 : Bytes) (now : UInt64) :
    (∀ observed, SafePlan D host observed now (fun _ => False)
      (proposeHostTransition D host observed releaseSetSha256 vmBundleSha256 now)) ∧
    ∀ o action, SafePlan D host (some o) now
      (fun o => host.kind = toI32 FleetHostKind.windows ∧ action = .apply ∧
        o.ownerState = toI32 FleetNativeOwnerState.stopped)
      (proposeSignedHostTransition D host o action releaseSetSha256 vmBundleSha256 now) := by
  constructor
  · intro observed
    obtain ⟨step, reason, e, seen, hplan, hderived⟩ :=
      proposeHostTransition_derived D host observed releaseSetSha256 vmBundleSha256 now
    rw [hplan]
    exact safePlan_of_derived hderived
  · intro o action
    obtain ⟨step, reason, e, seen, hplan, hderived⟩ :=
      proposeHostTransition_derived D host (some o) releaseSetSha256 vmBundleSha256 now
    unfold proposeSignedHostTransition
    rw [hplan]
    dsimp only
    split
    · rename_i hoverride
      obtain ⟨hwindows, haction, hreason⟩ := hoverride
      obtain rfl : reason = .stoppedReleaseMismatchRequiresInstallTarget := toI32_inj.mp hreason
      exact safePlan_override hwindows haction hderived
    · exact safePlan_of_derived hderived

end EdgePlatform.Host
