import EdgePlatform.Host.Checks
import EdgePlatform.Host.Runs

/-!
# `EdgePlatform.Host.Recovery` — what a RECOVER concludes about an earlier operation

A RECOVER that meets a gate settles the operation named in it: from the bytes of the gate and of the BEGIN
record, one fresh observation, and the release the RECOVER itself is bound to. This module says what its
verdict means. A verdict other than "incomplete" always claims that the host runs the release the RECOVER is
bound to; on Windows that is the installed release, whatever the earlier operation was signed for.
-/

namespace EdgePlatform.Host

open Foundation Foundation.Wire

/-! ## The verdict -/

/-- A verdict is "incomplete", or it claims that the host has the bound release: then all sources agree
too. -/
theorem recoveryVerdict_cases {D : Deps} {intent original : FleetHostIntent} {selected : FleetHost}
    {bound : BoundNativeHostArtifacts} {now : UInt64} {o : FleetNativeObservation}
    {verdict : FleetHostResultReason}
    (h : recoveryVerdict D intent original selected bound now o = .ok verdict) :
    verdict = .historicalPartialRequiresFreshApply ∨
      ((verdict = .recoveredNativeRunning ∨ verdict = .recoveredNativeStopped) ∧
        original.releaseSetSha256 = intent.releaseSetSha256 ∧
        o.observedReleaseSha256 = bound.runtimeReleaseSha256) := by
  obtain ⟨_, -, h⟩ := bind_ok h
  split at h
  · -- An incomplete operation has one verdict.
    simp only [verifyHistoricalPartialRecoveryState, ok_iff] at h
    cases h.2.2
    exact .inl rfl
  · rename_i hcomplete
    simp only [recoveryIncomplete, Bool.or_eq_true, decide_eq_true_eq, not_or, not_not] at hcomplete
    have hrelease : o.observedReleaseSha256 = bound.runtimeReleaseSha256 := hcomplete.1.2
    refine .inr ⟨?_, hcomplete.1.1.2, hrelease⟩
    simp only [verifyReadOnlyRecoveryState, ok_iff] at h
    obtain ⟨-, -, kind, -, proof, -, -, desired, -, run, -, mode, -, -, owner, -, h⟩ := h
    -- The verdict "stopped, release drifted" needs two different releases: it is never reached from here.
    split_ifs at h
    · cases h; exact .inl rfl
    · cases h; exact .inr rfl

/-! ## A terminal that appears for a pending operation -/

section Pending

variable {D : Deps} {c : HostCall} {start w : JournalWorld} {i : FleetHostIntent} {t : Terminal}

/-- The one operation a call can adjudicate is the one pending in its scope. -/
theorem Adjudicates.eq_pending {i' : FleetHostIntent} {o : FleetNativeObservation}
    {verdict : FleetHostResultReason} (h : Adjudicates D c (dirOf start) i' o verdict)
    (hclear : Cleared c (dirOf start))
    (hgate : (dirOf start).read (nativeScopePendingPath i) = some i.encodeToVec) : i' = i := by
  have hname : nativeScopePendingPath i = nativeScopePendingPath c.intent := by
    by_contra hne
    have hnone := hclear.alone _ (isPendingName_gate i) hne
    simp [Dir.read, hnone] at hgate
  rw [hname, h.gate] at hgate
  exact FleetHostIntent.encodeToVec_injective (Option.some.inj hgate)

/-- What the call must have concluded once the pending operation `i` has the terminal `t`. -/
def Concluded (D : Deps) (c : HostCall) (start : JournalWorld) (i : FleetHostIntent) (t : Terminal)
    (w : JournalWorld) : Prop :=
  ∃ o rest verdict, Adjudicates D c (dirOf start) i o verdict ∧ priorTerminal verdict = t ∧
    observations w.env = observations start.env ++ o :: rest

/-- **A terminal of a pending operation is a verdict.** If an execution starts where `i` is pending without
    the terminal `t` and the terminal appears, then the execution is a RECOVER whose verdict on its first
    observation is that terminal. -/
theorem pending_terminal_concluded {p : JournalProc FleetHostResult}
    (hquiet : (dirOf start).QuietOn IsRecordName)
    (hgate : (dirOf start).read (nativeScopePendingPath i) = some i.encodeToVec)
    (hbegun : (dirOf start).get (beginName i.operationId) ≠ none)
    (hnew : (dirOf start).get (terminalName i.operationId t) = none)
    (hsteps : (executeAfterProtectedOwnerCheckOnce D c).Steps journalSem start p w)
    (hterm : (dirOf w).get (terminalName i.operationId t) ≠ none) : Concluded D c start i t w := by
  have hsafe := safe_execute D c start
  refine hsafe.invariant (I := fun w => ¬ (dirOf w).Absent (terminalName i.operationId t) →
    Concluded D c start i t w) ?_ ?_ hsteps fun ha => hterm ha.get
  · intro op w a w' hp ih hs habsent
    have hstep := hp.stepEffect hs
    rcases hstep.terminal_new habsent with hold | ⟨⟨b, hmay⟩, -, henv⟩
    · obtain ⟨o, rest, verdict, hadj, ht, hobs⟩ := ih hold
      obtain ⟨more, hmore⟩ := hstep.observations_grow
      refine ⟨o, rest ++ more, verdict, hadj, ht, ?_⟩
      rw [hmore, hobs, List.append_assoc, List.cons_append]
    · generalize hn : terminalName i.operationId t = n at hmay
      cases hmay with
      | reserve _ _ => exact absurd hn.symm (gate_ne_terminal _ _ _)
      | record _ _ => exact absurd hn.symm (begin_ne_terminal _ _ _)
      | conclude hclear _ _ _ =>
        -- The pending operation has a BEGIN, the call's own operation had none.
        rw [beginName_congr (terminalName_inj hn).1] at hbegun
        exact absurd hclear.unbegun hbegun
      | @adjudicate i' o verdict hclear hadj _ _ hobs _ =>
        have hi := hadj.eq_pending hclear hgate
        subst hi
        refine ⟨o, [], verdict, hadj, (terminalName_inj hn).2.symm, ?_⟩
        rw [henv, hobs, observations_append]
        rfl
  · exact fun ha => absurd ((hquiet _ (isRecordName_terminal _ _)).absent hnew) ha

end Pending

/-! ## What `.verified` says about the release -/

/-- **When `.verified` is true of the release.** An execution starts where the signed operation `i` is
    pending, and the `.verified` terminal of `i` appears. Then the release it observed first is the one `i`
    was signed for if and only if the release the owner supplied as installed, if any, is the release set of
    `i`. -/
theorem recovered_release_iff (D : Deps) {K : Set Bytes} (hK : Set.InjOn sha256 K) {c : HostCall}
    {start w : JournalWorld} {p : JournalProc FleetHostResult} {i : FleetHostIntent}
    {registryPb spec releaseSetPb : Bytes} {vmBundlePb : Option Bytes} {registry : HostRegistry}
    {bound : BoundNativeHostArtifacts} (hquiet : (dirOf start).QuietOn IsRecordName)
    (hgate : (dirOf start).read (nativeScopePendingPath i) = some i.encodeToVec)
    (hbegun : (dirOf start).get (beginName i.operationId) ≠ none)
    (hsigned : bindNativeHostArtifacts D i registryPb spec releaseSetPb vmBundlePb = .ok (registry, bound))
    (hrelease : releaseSetPb ∈ K) (hrelease' : c.releaseSetPb ∈ K) (hbundle : ∀ b ∈ vmBundlePb, b ∈ K)
    (hbundle' : ∀ b ∈ c.vmBundlePb, b ∈ K)
    (hsteps : (executeAfterProtectedOwnerCheckOnce D c).Steps journalSem start p w)
    (hnew : (dirOf start).get (terminalName i.operationId .verified) = none)
    (hterm : (dirOf w).get (terminalName i.operationId .verified) ≠ none) :
    ∃ o rest, observations w.env = observations start.env ++ o :: rest ∧
      (o.observedReleaseSha256 = bound.runtimeReleaseSha256 ↔
        ∀ binding ∈ c.binding, binding.installedReleaseSha256 = i.releaseSetSha256) := by
  obtain ⟨o, rest, verdict, hadj, ht, hobs⟩ :=
    pending_terminal_concluded hquiet hgate hbegun hnew hsteps hterm
  refine ⟨o, rest, hobs, ?_⟩
  obtain ⟨a, selected, hauth, -, hverdict⟩ := hadj.verdict
  have hauth := authentic_of_authenticate hauth
  obtain ⟨derived, hbind, hinstalled⟩ := hauth.bound
  have hb := boundTo_of_bind hsigned
  have hb' := boundTo_of_bind hbind
  -- The verdict is not "incomplete", so all digests agree.
  obtain ⟨hsame, hobserved⟩ : i.releaseSetSha256 = c.intent.releaseSetSha256 ∧
      o.observedReleaseSha256 = a.bound.runtimeReleaseSha256 := by
    rcases recoveryVerdict_cases hverdict with rfl | ⟨-, h⟩
    · cases ht
    · exact h
  have hkind : i.kind = c.intent.kind := by
    have hid := hadj.identity
    simp only [recoveryIdentityMismatch, Bool.or_eq_false_iff, decide_eq_false_iff_not, not_not] at hid
    exact hid.1.1.1.2
  have hsha : i.releaseSetSha256 = sha256 releaseSetPb :=
    (validIntent_of_validate hb.validated).digests.2.2.trans hb.digests.2
  have hsha' : c.intent.releaseSetSha256 = sha256 c.releaseSetPb :=
    (validIntent_of_validate hb'.validated).digests.2.2.trans hb'.digests.2
  obtain ⟨release, hdecode, hruntime⟩ := hb.release
  obtain ⟨release', hdecode', hruntime'⟩ := hb'.release
  cases hbinding : c.binding with
  | none =>
    have hpb : releaseSetPb = c.releaseSetPb := hK hrelease hrelease' (by rw [← hsha, hsame, hsha'])
    subst hpb
    have hrel : release = release' := Option.some.inj (hdecode.symm.trans hdecode')
    subst hrel
    rw [hkind] at hruntime
    have heq := runtimeReleaseDigest_unique hK hbundle hbundle' hruntime hruntime'
    refine iff_of_true ?_ fun binding hm => by cases hm
    rw [hobserved, bindInstalledRelease_none hbinding hinstalled, heq]
  | some binding =>
    obtain ⟨hwindows, hbound⟩ := bindInstalledRelease_some hbinding hinstalled
    have hrecover : c.intent.action ≠ toI32 FleetHostAction.apply := by
      rw [hadj.recover]
      decide
    rw [if_pos hrecover] at hbound
    rw [hkind, hwindows] at hruntime
    rw [hobserved, hbound, runtimeReleaseDigest_windows hruntime, ← hsha]
    constructor
    · intro h b hm
      cases hm
      exact h
    · exact fun h => h binding rfl

namespace WindowsSample

/-- APPLY of release `b` over the installed `a`; the power fails before the replacement takes effect. -/
def replacementCut : JournalWorld :=
  powerCycle (replay (owner 'a' true) 15 (executeAfterProtectedOwnerCheckOnce deps (call "a" .apply 'b' 'a'))
    emptyJournal).2

end WindowsSample

open WindowsSample in
/-- **A replacement that never happened, recorded as verified.** The RECOVER names the release set of the
    APPLY, the owner supplies the installed one, and the observation matches the installed one. -/
theorem unapplied_release_recorded_verified :
    ∃ ts w, (hostSystem deps).Run emptyJournal ts w ∧
      (∃ r : FleetHostResult, (dirOf w).read (terminalName "a" .verified) = some r.encodeToVec ∧
        r.action = toI32 FleetHostAction.apply ∧ r.state = toI32 FleetHostResultState.verified ∧
        r.physicalReadback = true ∧ r.releaseSetSha256 = sha256 (releaseSetPb 'b')) ∧
      ∃ o, (observations w.env).getLast? = some o ∧
        o.observedReleaseSha256 ≠ sha256 (releaseSetPb 'b') := by
  have hcut : (hostSystem deps).Run emptyJournal _ replacementCut :=
    run_cut .nil (owner 'a' true) 15 (call "a" .apply 'b' 'a')
  have hcheck :
      let rest := replay (owner 'a' true) 60 (executeAfterProtectedOwnerCheckOnce
        deps (call "b" .recover 'b' 'a')) replacementCut
      ended rest.1 = true ∧
        (dirOf rest.2).read (terminalName "a" .verified) = some
          (priorResult (intent "a" .apply 'b') .recoveredNativeRunning 1000).encodeToVec ∧
        (observations rest.2.env).getLast? = some (observation 'a' true) := by
    decide +kernel
  have hdigests : releaseDigest 'b' = sha256 (releaseSetPb 'b') ∧
      (observation 'a' true).observedReleaseSha256 ≠ sha256 (releaseSetPb 'b') := by
    decide +kernel
  exact ⟨_, _, run_ended hcut _ _ _ hcheck.1, ⟨_, hcheck.2.1, rfl, rfl, rfl, hdigests.1⟩, _,
    hcheck.2.2, hdigests.2⟩

open WindowsSample in
/-- The RECOVER of an interrupted APPLY of the installed release records what it observed. -/
theorem recovered_release_windows_start :
    let w := (replay (owner 'a' true) 60 (executeAfterProtectedOwnerCheckOnce deps
      (call "b" .recover 'a' 'a')) begunThenCut).2
    ∃ o rest, observations w.env = observations begunThenCut.env ++ o :: rest ∧
      o.observedReleaseSha256 = releaseDigest 'a' := by
  obtain ⟨hgate, hbegun, hnew, hterm, hsigned⟩ :
      (dirOf begunThenCut).read (nativeScopePendingPath (intent "a" .apply 'a')) =
        some (intent "a" .apply 'a').encodeToVec ∧
      (dirOf begunThenCut).get (beginName "a") ≠ none ∧
      (dirOf begunThenCut).get (terminalName "a" .verified) = none ∧
      (dirOf (replay (owner 'a' true) 60
        (executeAfterProtectedOwnerCheckOnce deps (call "b" .recover 'a' 'a'))
        begunThenCut).2).get (terminalName "a" .verified) ≠ none ∧
      bindNativeHostArtifacts deps (intent "a" .apply 'a') registryPb spec (releaseSetPb 'a') none =
        .ok (registry, boundArtifacts 'a') := by
    decide +kernel
  have hquiet : (dirOf begunThenCut).QuietOn IsRecordName :=
    fsCrash_quiet (fsCrash_powerCycle _)
  obtain ⟨o, rest, hobs, hiff⟩ := recovered_release_iff deps (K := {releaseSetPb 'a'})
    (Set.injOn_singleton _ _) (c := call "b" .recover 'a' 'a') hquiet hgate hbegun hsigned
    rfl rfl (fun _ h => by cases h) (fun _ h => by cases h) (replay_steps (owner 'a' true) 60 _ _) hnew hterm
  refine ⟨o, rest, hobs, hiff.mpr fun binding hb => ?_⟩
  cases hb
  rfl

end EdgePlatform.Host
