import EdgePlatform.Host.Checks
import EdgePlatform.Host.Runs

/-!
# `EdgePlatform.Host.Coherence` — what `finish` accepts, the planner leaves alone

`finish` and the planner decide over the same observations by two separate chains of checks. This module
compares them: on a post-state that `finish` recorded as verified, the planner of the same call proposes
NOOP. The one post-state that is not converged is that of a STOP which left another release than the bound
one; there the planner may ask for the release, never for START, INSTALL or STOP.
-/

namespace EdgePlatform.Host

open Foundation Foundation.Wire

/-! ## The host the planner sees -/

/-- The mode of a target suits the kind of its host. -/
def modeFits (kind : FleetHostKind) (mode : FleetHostMode) : Prop :=
  ¬ ((kind = .windows ∧ ¬ (mode = .proxyOnly ∨ mode = .managedTun)) ∨ (kind = .vm ∧ mode ≠ .unspecified))

/-- The projection keeps kind and run state, and gives the target a mode that suits the kind. -/
structure Projected (host planned : FleetHost) (target : FleetHostTarget) (kind : FleetHostKind) : Prop where
  sameKind : planned.kind = host.kind
  target : ∃ target' mode, planned.target = some target' ∧ target'.runState = target.runState ∧
    tryFrom FleetHostMode target'.windowsMode = some mode ∧ modeFits kind mode

theorem projected_of_project {D : Deps} {host planned : FleetHost} {spec : Bytes} {target : FleetHostTarget}
    {kind : FleetHostKind} (h : projectHostForPlanner D host spec = .ok planned)
    (hkind : tryFrom FleetHostKind host.kind = some kind) (htarget : host.target = some target)
    (hmode : tryFrom FleetHostMode target.windowsMode = some .unspecified) :
    Projected host planned target kind := by
  unfold projectHostForPlanner at h
  split at h
  · rename_i hne
    cases h
    have hvm : kind ≠ .windows := by
      rintro rfl
      exact hne (tryFrom_eq_some.mp hkind).symm
    refine ⟨rfl, target, .unspecified, htarget, rfl, hmode, ?_⟩
    rintro (⟨hw, -⟩ | ⟨-, hmode⟩)
    · exact hvm hw
    · exact hmode rfl
  · rename_i hwindows
    have hwin : kind = .windows := by
      rw [not_not.mp hwindows, tryFrom_toI32] at hkind
      exact (Option.some.inj hkind).symm
    obtain ⟨desired, -, h⟩ := bind_ok h
    obtain ⟨datapath, -, h⟩ := bind_ok h
    obtain ⟨target', htarget', h⟩ := bind_ok h
    obtain rfl : target = target' := Option.some.inj (htarget.symm.trans (okOr_eq_ok.mp htarget'))
    -- The datapath of the spec gives one of the two Windows modes.
    cases datapath with
    | unspecified => cases h
    | proxyOnly =>
      cases h
      refine ⟨rfl, _, .proxyOnly, rfl, rfl, tryFrom_toI32 _, ?_⟩
      rintro (⟨-, hmode⟩ | ⟨hvm, -⟩)
      · exact hmode (.inl rfl)
      · rw [hwin] at hvm
        cases hvm
    | managedTun =>
      cases h
      refine ⟨rfl, _, .managedTun, rfl, rfl, tryFrom_toI32 _, ?_⟩
      rintro (⟨-, hmode⟩ | ⟨hvm, -⟩)
      · exact hmode (.inr rfl)
      · rw [hwin] at hvm
        cases hvm

/-! ## The planner on a post-state -/

/-- The digest of a host's kind among the two the planner is given. -/
def expectedFor (kind : FleetHostKind) (releaseSet bundle : Bytes) : Bytes :=
  if kind = .windows then releaseSet else bundle

section Planner

variable {D : Deps} {intent : FleetHostIntent} {goal target : FleetHostTarget} {expected previous : Bytes}
  {step : FleetHostPlannedStep} {now : UInt64} {o : FleetNativeObservation} {kind : FleetHostKind}
  {proof : FleetNativeReleaseProof} {run : FleetHostRunState} {host : FleetHost}

variable {releaseSet bundle release : Bytes}

section

variable (hpost : Poststate D intent goal expected step previous now o kind proof run)
include hpost

/-- Every gate of the planner up to the owner's state is open on a post-state. -/
theorem proposeHostTransition_poststate {mode : FleetHostMode} (hkind : host.kind = intent.kind)
    (hsha : sha (expectedFor kind releaseSet bundle) = true) (htarget : host.target = some target)
    (hrun : target.runState = goal.runState) (hmode : tryFrom FleetHostMode target.windowsMode = some mode)
    (hfits : modeFits kind mode) :
    proposeHostTransition D host (some o) releaseSet bundle now =
      proposeFromState host kind run o (expectedFor kind releaseSet bundle) := by
  have hkindOf : tryFrom FleetHostKind host.kind = some kind := hkind ▸ hpost.kindOf
  have hrunOf : tryFrom FleetHostRunState target.runState = some run := hrun ▸ hpost.runState
  have hreadback : proposeFromReadback D host kind run (some o) (expectedFor kind releaseSet bundle) now =
      proposeFromState host kind run o (expectedFor kind releaseSet bundle) := by
    have hvalid : ¬ (isErr (validateNativeObservation D o) = true ∨ o.hostKind ≠ host.kind) := by
      rw [hpost.valid, hpost.hostKind, hkind]
      simp [isErr]
    have hcurrent :
        ¬ (readbackFuture o.observedAtUnix now = true ∨ readbackStale o.observedAtUnix now = true) := by
      rw [hpost.past, hpost.fresh]
      simp
    have hcodes : ¬ (o.reasonCodes ≠ [] ∧ ¬ vmKnownResourceBundleDrift D host kind run o
        (expectedFor kind releaseSet bundle) = true ∧ ¬ vmKnownSameReleaseRuntimeDefect kind run o
        (expectedFor kind releaseSet bundle) = true ∧ ¬ vmKnownSameReleaseNetworkLoss kind run o
        (expectedFor kind releaseSet bundle) = true) := fun h => h.1 hpost.undegraded
    show (if _ then _ else if _ then _ else if _ then _ else _) = _
    rw [if_neg hvalid, if_neg hcurrent, if_neg hcodes]
  have hspecified : run ≠ .unspecified := by
    rcases hpost.state with ⟨rfl, -⟩ | ⟨rfl, -⟩ <;> exact FleetHostRunState.noConfusion
  have hproper : kind ≠ .unspecified := by
    rintro rfl
    exact absurd hpost.required (by simp [requiredProof])
  unfold proposeHostTransition
  rw [hkindOf]
  cases kind with
  | unspecified => exact absurd rfl hproper
  | windows | vm =>
    show (if ¬ sha (expectedFor _ releaseSet bundle) then _ else _) = _
    rw [if_neg (not_not.mpr hsha), htarget]
    simp only [hrunOf, hmode]
    cases run with
    | unspecified => exact absurd rfl hspecified
    | stopped | running => exact (if_neg (by simpa [modeFits] using hfits)).trans hreadback

/-- The proof a post-state carries is the one the planner asks for. -/
theorem proposeFromState_proof :
    tryFrom FleetNativeReleaseProof o.releaseProof =
        some (if kind = .windows then .activationRecord else .applicationBundle) ∧
      some (if kind = .windows then FleetNativeReleaseProof.activationRecord else .applicationBundle) ≠
        some .verifiedAbsent := by
  have hrequired := hpost.required
  rw [hpost.proven, tryFrom_toI32]
  cases kind with
  | unspecified => cases hrequired
  | windows | vm => cases hrequired; exact ⟨rfl, by decide⟩

end

/-- On a post-state with the expected release the planner proposes NOOP. -/
theorem proposeFromState_converged (host : FleetHost)
    (hpost : Poststate D intent goal expected step previous now o kind proof run)
    (hrelease : o.observedReleaseSha256 = release) :
    ∃ reason, proposeFromState host kind run o release = plan host .noop reason release release ∧
      reason ≠ .stoppedReleaseMismatchRequiresInstallTarget := by
  obtain ⟨hproof, hpresent⟩ := proposeFromState_proof hpost
  unfold proposeFromState
  rcases hpost.state with ⟨rfl, howner⟩ | ⟨rfl, howner, hproven, hready⟩
  · refine ⟨.stoppedMatchesDesiredLocalOnly, ?_, FleetHostPlanReason.noConfusion⟩
    simp [howner, hproof, hpresent, hrelease]
  · refine ⟨.runningMatchesLocalNotExternal, ?_, FleetHostPlanReason.noConfusion⟩
    simp [howner, hproof, hpresent, hrelease, hproven, hready]

/-- On a post-state with another release the planner is blocked or asks for the release. -/
theorem proposeFromState_drifted (host : FleetHost)
    (hpost : Poststate D intent goal expected step previous now o kind proof run)
    (hrelease : o.observedReleaseSha256 ≠ release) :
    ∃ planned reason, proposeFromState host kind run o release =
      plan host planned reason release o.observedReleaseSha256 ∧
      (planned = .blocked ∨ planned = .replaceRelease) := by
  obtain ⟨hproof, hpresent⟩ := proposeFromState_proof hpost
  unfold proposeFromState
  rcases hpost.state with ⟨rfl, howner⟩ | ⟨rfl, howner, -⟩
  · refine ⟨.blocked, .stoppedReleaseMismatchRequiresInstallTarget, ?_, .inl rfl⟩
    simp [howner, hproof, hpresent, hrelease]
  · refine ⟨.replaceRelease, .releaseMismatchProposalOnly, ?_, .inr rfl⟩
    simp [howner, hproof, hpresent, hrelease]

/-- The only override of a signed action replaces a stopped host's release. -/
theorem proposeSignedHostTransition_cases (D : Deps) (host : FleetHost) (o : FleetNativeObservation)
    (action : FleetHostAction) (releaseSet bundle : Bytes) (now : UInt64) :
    proposeSignedHostTransition D host o action releaseSet bundle now =
        proposeHostTransition D host (some o) releaseSet bundle now ∨
      ((proposeHostTransition D host (some o) releaseSet bundle now).reason =
          toI32 FleetHostPlanReason.stoppedReleaseMismatchRequiresInstallTarget ∧
        proposeSignedHostTransition D host o action releaseSet bundle now =
          plan host .replaceRelease .releaseMismatchProposalOnly releaseSet o.observedReleaseSha256) := by
  by_cases h : host.kind = toI32 FleetHostKind.windows ∧ action = .apply ∧
      (proposeHostTransition D host (some o) releaseSet bundle now).reason =
        toI32 FleetHostPlanReason.stoppedReleaseMismatchRequiresInstallTarget
  · exact .inr ⟨h.2.2, if_pos h⟩
  · exact .inl (if_neg h)

/-- The proposal starts, installs and stops nothing. -/
def LeavesRunState (proposal : FleetHostTransitionPlan) : Prop :=
  proposal.step ≠ toI32 FleetHostPlannedStep.start ∧ proposal.step ≠ toI32 FleetHostPlannedStep.install ∧
    proposal.step ≠ toI32 FleetHostPlannedStep.stop

theorem leavesRunState_plan {planned : FleetHostPlannedStep}
    (h : planned = .noop ∨ planned = .blocked ∨ planned = .replaceRelease) (host : FleetHost)
    (reason : FleetHostPlanReason) (release observed : Bytes) :
    LeavesRunState (plan host planned reason release observed) := by
  show toI32 planned ≠ _ ∧ toI32 planned ≠ _ ∧ toI32 planned ≠ _
  rcases h with rfl | rfl | rfl <;> exact ⟨by decide, by decide, by decide⟩

/-- The signed planner on a post-state: NOOP if the release is the expected one, and never a change of the
    run state. -/
theorem proposeSigned_poststate {mode : FleetHostMode} (action : FleetHostAction)
    (hpost : Poststate D intent goal expected step previous now o kind proof run)
    (hkind : host.kind = intent.kind) (hsha : sha (expectedFor kind releaseSet bundle) = true)
    (htarget : host.target = some target) (hrun : target.runState = goal.runState)
    (hmode : tryFrom FleetHostMode target.windowsMode = some mode) (hfits : modeFits kind mode) :
    (o.observedReleaseSha256 = expectedFor kind releaseSet bundle →
      (proposeSignedHostTransition D host o action releaseSet bundle now).step =
        toI32 FleetHostPlannedStep.noop) ∧
      LeavesRunState (proposeSignedHostTransition D host o action releaseSet bundle now) := by
  have hbase := proposeHostTransition_poststate hpost hkind hsha htarget hrun hmode hfits
  by_cases hconverged : o.observedReleaseSha256 = expectedFor kind releaseSet bundle
  · obtain ⟨reason, hstate, hreason⟩ := proposeFromState_converged host hpost hconverged
    rw [hstate] at hbase
    have hsigned : proposeSignedHostTransition D host o action releaseSet bundle now =
        proposeHostTransition D host (some o) releaseSet bundle now := by
      rcases proposeSignedHostTransition_cases D host o action releaseSet bundle now with heq
        | ⟨hmismatch, -⟩
      · exact heq
      · rw [hbase] at hmismatch
        exact absurd (toI32_injective hmismatch) hreason
    rw [hsigned, hbase]
    exact ⟨fun _ => rfl, leavesRunState_plan (.inl rfl) _ _ _ _⟩
  · refine ⟨fun h => absurd h hconverged, ?_⟩
    obtain ⟨planned, reason, hstate, hplanned⟩ := proposeFromState_drifted host hpost hconverged
    rw [hstate] at hbase
    rcases proposeSignedHostTransition_cases D host o action releaseSet bundle now with heq | ⟨-, heq⟩
    · rw [heq, hbase]
      exact leavesRunState_plan (.inr hplanned) _ _ _ _
    · rw [heq]
      exact leavesRunState_plan (.inr (.inr rfl)) _ _ _ _

end Planner

/-! ## `finish` and the planner of one call -/

/-- The planner of a call measures a host against the digest `finish` was given. -/
theorem expectedFor_authentic {D : Deps} {c : HostCall} {a : Admission} (hauth : Authentic D c a) :
    expectedFor a.kind (if c.binding.isSome then a.bound.runtimeReleaseSha256 else a.bound.releaseSetSha256)
      a.bound.runtimeReleaseSha256 = a.bound.runtimeReleaseSha256 := by
  unfold expectedFor
  by_cases hwin : a.kind = .windows
  · rw [if_pos hwin]
    cases hbinding : c.binding with
    | some binding => rfl
    | none =>
      -- Without a binding the runtime digest of a Windows host is that of its release set.
      obtain ⟨derived, hbind, hinstalled⟩ := hauth.bound
      have hbound := boundTo_of_bind hbind
      obtain ⟨release, -, hruntime⟩ := hbound.release
      have hkind := tryFrom_eq_some.mp hauth.kind
      rw [hwin] at hkind
      rw [← hkind] at hruntime
      rw [bindInstalledRelease_none hbinding hinstalled, runtimeReleaseDigest_windows hruntime]
      exact hbound.digests.2
  · rw [if_neg hwin]

/-- What the planner says about an observation that `finish` accepted. -/
theorem proposeConfigured_finished {D : Deps} {c : HostCall} {a : Admission} {selected planned : FleetHost}
    {step : FleetHostPlannedStep} {previous : Bytes} {now : UInt64} {o : FleetNativeObservation}
    (hauth : authenticate D c = .ok a)
    (hselected : a.registry.owned c.intent.machineId c.intent.kind = some selected)
    (hplanned : projectHostForPlanner D selected c.selectedSpecBytes = .ok planned)
    (hfin : Finished D c a a.bound.runtimeReleaseSha256 step previous now o) :
    ∃ proposal, proposeConfigured D c a planned o now = .ok proposal ∧
      (¬ (step = .stop ∧ previous ≠ a.bound.runtimeReleaseSha256) →
        proposal.step = toI32 FleetHostPlannedStep.noop) ∧ LeavesRunState proposal := by
  have hA := authentic_of_authenticate hauth
  obtain ⟨target, htarget, hpost⟩ := hfin.poststate
  obtain ⟨kind, proof, run, hpost⟩ := poststate_of_finish hpost
  -- The host of the call: found by id and kind alike, with an unspecified mode in its target.
  obtain ⟨derived, hbind, -⟩ := hA.bound
  obtain ⟨host, hhost, hhostKind⟩ := (validIntent_of_validate (boundTo_of_bind hbind).validated).registered
  obtain rfl : host = selected := Option.some.inj ((owned_of_machine hhost hhostKind).symm.trans hselected)
  obtain ⟨host', target', run', htargeted⟩ := targeted_of_validate hA.target
  obtain rfl : host' = host := Option.some.inj (htargeted.machine.symm.trans hhost)
  rw [hselected] at htarget
  obtain rfl : target' = target := Option.some.inj (htargeted.desired.symm.trans htarget)
  obtain rfl : a.kind = kind := Option.some.inj (hA.kind.symm.trans hpost.kindOf)
  have hkindOf : tryFrom FleetHostKind host'.kind = some a.kind := hhostKind ▸ hA.kind
  obtain ⟨hsame, goal, mode, hgoal, hrun, hmode, hfits⟩ :=
    projected_of_project hplanned hkindOf htargeted.desired htargeted.mode
  have hexpected := expectedFor_authentic hA
  have hsha : sha (expectedFor a.kind (if c.binding.isSome then a.bound.runtimeReleaseSha256
      else a.bound.releaseSetSha256) a.bound.runtimeReleaseSha256) = true := by
    rw [hexpected]
    exact hfin.expected
  obtain ⟨hnoop, hleaves⟩ :=
    proposeSigned_poststate a.action hpost (hsame.trans hhostKind) hsha hgoal hrun hmode
    hfits
  -- The override for a drifted configuration does not apply: `finish` has excluded the drift.
  unfold proposeConfigured
  rw [if_neg fun h => hfin.configured ⟨h.1, h.2.2⟩]
  refine ⟨_, rfl, fun hno => hnoop ?_, hleaves⟩
  -- Only a STOP leaves another release behind.
  rw [hexpected, hpost.release]
  by_cases hstop : step = .stop
  · rw [if_pos hstop]
    by_contra hne
    exact hno ⟨hstop, hne⟩
  · rw [if_neg hstop]

/-- **The planner agrees with `finish`.** Whenever `finish` stores its verified result, the planner of the
    same call proposes NOOP on the observation that `finish` accepted, at the same time. If the step was a
    STOP that left another release than the bound one, the planner may propose another step, but never START,
    INSTALL or STOP. -/
theorem planner_noop_after_finish (D : Deps) {c : HostCall} {a : Admission} {selected planned : FleetHost}
    {step : FleetHostPlannedStep} {previous : Bytes} {now : UInt64} {w w' : JournalWorld}
    {result : FleetHostResult} (hauth : authenticate D c = .ok a)
    (hselected : a.registry.owned c.intent.machineId c.intent.kind = some selected)
    (hplanned : projectHostForPlanner D selected c.selectedSpecBytes = .ok planned)
      (hdone : (finishAfterProtectedOwnerCheckOnce D c a.registry a.bound.runtimeReleaseSha256
        step previous now
      (observeConfigured c a)).Done journalSem w (.ok result) w') :
    ∃ o proposal, w'.env = w.env ++ [.observed (.ok o)] ∧
      proposeConfigured D c a planned o now = .ok proposal ∧
        (¬ (step = .stop ∧ previous ≠ a.bound.runtimeReleaseSha256) →
          proposal.step = toI32 FleetHostPlannedStep.noop) ∧
      proposal.step ≠ toI32 FleetHostPlannedStep.start ∧ proposal.step ≠ toI32 FleetHostPlannedStep.install ∧
      proposal.step ≠ toI32 FleetHostPlannedStep.stop := by
  have hlooks : Looks fun _ _ => True :=
    { stat := fun _ _ => trivial
      read := fun _ _ => trivial
      syncDir := fun _ => trivial
      ask := fun _ _ _ => trivial }
  have hsafe : Proc.Safe journalSem (fun _ _ => True) (finishAfterProtectedOwnerCheckOnce D c a.registry
      a.bound.runtimeReleaseSha256 step previous now (observeConfigured c a))
      (fun r w' => ∀ result, r = .ok result → ∃ o, w'.env = w.env ++ [.observed (.ok o)] ∧
        Finished D c a a.bound.runtimeReleaseSha256 step previous now o) w := by
    refine safe_finish hlooks (fun o result _ => ⟨fun _ _ _ _ => trivial, fun _ => trivial⟩) ?_ ?_ ?_
    · exact fun e result h => by cases h
    · exact fun e answer result h => by cases h
    · exact fun o hfin _ result _ => ⟨o, rfl, hfin⟩
  obtain ⟨o, henv, hfin⟩ := hsafe.done hdone result rfl
  obtain ⟨proposal, hproposal, hnoop⟩ := proposeConfigured_finished hauth hselected hplanned hfin
  exact ⟨o, proposal, henv, hproposal, hnoop⟩

open WindowsSample in
/-- `finish` of the START that APPLY of the installed release runs on the stopped Windows host. -/
theorem planner_noop_after_windows_start :
    ∃ o proposal, proposeConfigured deps (call "a" .apply 'a' 'a')
        ⟨registry, boundArtifacts 'a', .apply, .windows⟩
        { host with
          target := some
            { runState := toI32 FleetHostRunState.running, windowsMode := toI32 FleetHostMode.proxyOnly } }
        o 1000 = .ok proposal ∧ proposal.step = toI32 FleetHostPlannedStep.noop := by
  have hauth : authenticate deps (call "a" .apply 'a' 'a') =
      .ok ⟨registry, boundArtifacts 'a', .apply, .windows⟩ := by
    decide +kernel
  have hselected : registry.owned "w" (toI32 FleetHostKind.windows) = some host := by
    decide
  have hplanned : projectHostForPlanner deps host spec =
      .ok { host with target := some { runState := toI32 FleetHostRunState.running,
                                                     windowsMode := toI32 FleetHostMode.proxyOnly } } := by
    decide
  have hfinish : returned (replay (owner 'a' true) 60 (finishAfterProtectedOwnerCheckOnce
      deps (call "a" .apply 'a' 'a') registry
      (releaseDigest 'a') .start (releaseDigest 'a') 1000
      (observeConfigured (call "a" .apply 'a' 'a')
        ⟨registry, boundArtifacts 'a', .apply, .windows⟩))
      effectInvoked).1 =
        some (finishResult (intent "a" .apply 'a') .noFurtherAction 1000) := by
    decide +kernel
  obtain ⟨o, proposal, -, hproposal, hnoop, -⟩ := planner_noop_after_finish deps hauth hselected
    hplanned (replay_returned hfinish)
  exact ⟨o, proposal, hproposal, hnoop fun h => by cases h.1⟩

end EdgePlatform.Host
