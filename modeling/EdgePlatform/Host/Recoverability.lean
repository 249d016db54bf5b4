import EdgePlatform.Host.Locked

/-!
# `EdgePlatform.Host.Recoverability` — which interrupted operations a RECOVER can free

An execution that is cut between BEGIN and its terminal leaves its gate. This module settles for which
operations a later RECOVER gets the scope out of that state: an APPLY of the whole host whose host has
converged is recovered by every authentic RECOVER of the same sources, while a START or a STOP, and an APPLY
of a part of the host, keep their gate over every run.
-/

namespace EdgePlatform.Host

open Foundation Foundation.Wire Foundation.Proc

/-! ## The state an interrupted execution leaves -/

/-- The operation `i` began at `begunAt` and was interrupted: it alone is pending, and it has no terminal. -/
structure Interrupted (i : FleetHostIntent) (begunAt : UInt64) (d : Dir) : Prop where
  gate : d.read (nativeScopePendingPath i) = some i.encodeToVec
  begun : d.read (beginName i.operationId) = some (beginRecord i begunAt).encodeToVec
  unended : ∀ t, d.get (terminalName i.operationId t) = none
  alone : ∀ n, isPendingName n = true → n ≠ nativeScopePendingPath i → d.get n = none

section Interrupted

variable {D : Deps} {c : HostCall} {start w w' : JournalWorld}

/-- A pending record that is surely missing stays so: an execution takes its own gate only. -/
theorem StepEffect.pending_absent {n : String} (h : StepEffect D c start w w') (hn : isPendingName n = true)
    (hne : n ≠ nativeScopePendingPath c.intent) (ha : (dirOf w).Absent n) : (dirOf w').Absent n := by
  cases h with
  | look hnarrow _ _ => exact hnarrow.absent ha
  | @write m b hmay hagree _ _ _ =>
    refine hagree.absent ?_ ha
    rintro rfl
    cases hmay with
    | reserve _ _ => exact hne rfl
    | record _ _ => rw [isPendingName_begin] at hn; cases hn
    | conclude | adjudicate => rw [isPendingName_terminal] at hn; cases hn
  | release hgate _ hagree _ =>
    refine hagree.absent ?_ ha
    rintro rfl
    exact Dir.get_ne_of_read hgate ha.get
  | effect _ hdir _ => exact hdir ▸ ha

/-- An execution that gives up its own gate has written its terminal. -/
theorem Ends.own {t : Terminal} {b : Bytes} (h : Ends D c start w c.intent t b)
    (hclear : Cleared c (dirOf start)) :
    (dirOf w).Durable (terminalName c.intent.operationId t) b := by
  cases h with
  | wrote _ hdurable => exact hdurable
  | found _ _ hadj _ _ _ _ => exact absurd rfl (hadj.begin_ne hclear)

/-- While an execution runs, a BEGIN of its own means that it found the journal clear, and that it holds its
    gate unless it has a terminal already. -/
structure Underway (c : HostCall) (start w : JournalWorld) : Prop where
  begun : ¬ (dirOf w).Absent (beginName c.intent.operationId) → Cleared c (dirOf start) ∧
    (HoldsGate (dirOf w) c.intent ∨ ∃ t, (dirOf w).Present (terminalName c.intent.operationId t))
  pending : ∀ n, isPendingName n = true → n ≠ nativeScopePendingPath c.intent → (dirOf start).Absent n →
    (dirOf w).Absent n

theorem Underway.step (h : Underway c start w) (hs : StepEffect D c start w w') : Underway c start w' where
  begun hb := by
    rcases hs.begin_new hb with hold | ⟨-, hclear, hgate⟩
    · obtain ⟨hclear, hg | ⟨t, ht⟩⟩ := h.begun hold
      · rcases hs.holdsGate hg with hg' | ⟨t, b, hends, hagree⟩
        · exact ⟨hclear, .inl hg'⟩
        · exact ⟨hclear, .inr ⟨t, hagree.present (gate_ne_terminal _ _ _).symm (hends.own hclear).present⟩⟩
      · exact ⟨hclear, .inr ⟨t, hs.present (fun j => (gate_ne_terminal j _ t).symm) ht⟩⟩
    · exact ⟨hclear, .inl hgate⟩
  pending n hn hne ha := hs.pending_absent hn hne (h.pending n hn hne ha)

/-- **What an interruption leaves.** An execution whose BEGIN became durable is killed or cut by a power
    failure, and no terminal of its operation is there afterwards: then its operation is interrupted. -/
theorem interrupted_of_cut {s : JournalWorld} {p : JournalProc FleetHostResult}
    (hquiet : (dirOf start).QuietOn IsRecordName)
    (hfresh : (dirOf start).get (beginName c.intent.operationId) = none)
    (hsteps : (executeAfterProtectedOwnerCheckOnce D c).Steps journalSem start p w)
    (hbegun : (dirOf w).Durable (beginName c.intent.operationId)
      (beginRecord c.intent c.nowUnix).encodeToVec) (hcut : fsCut w s)
      (hopen : ∀ t, (dirOf s).get (terminalName c.intent.operationId t) = none) :
    Interrupted c.intent c.nowUnix (dirOf s) := by
  have hinit : Underway c start start :=
    { begun := fun hb => absurd ((hquiet _ (isRecordName_begin _)).absent hfresh) hb
      pending := fun _ _ _ ha => ha }
  have hunder : Underway c start w :=
    (safe_execute D c start).invariant (fun _ _ _ _ hp h hs => h.step (hp.stepEffect hs)) hinit hsteps
  obtain ⟨hclear, hgate⟩ := hunder.begun fun ha => hbegun.present.get_ne ha.get
  have hdurable : ∀ n b, (dirOf w).Durable n b → (dirOf s).Durable n b :=
    fun n b h => fsCut_dir (I := (·.Durable n b)) (fun _ _ h hc => hc.durable h) h hcut
  have hgate : HoldsGate (dirOf w) c.intent := by
    rcases hgate with hg | ⟨t, ht⟩
    · exact hg
    · have hpresent := fsCut_dir (I := (·.Present _)) (fun _ _ h hc => hc.present h) ht hcut
      exact absurd (hopen t) hpresent.get_ne
  refine ⟨(hdurable _ _ hgate).read, (hdurable _ _ hbegun).read, hopen, ?_⟩
  intro n hn hne
  have habsent := (hquiet n (isRecordName_pending hn)).absent (hclear.alone n hn hne)
  exact (fsCut_dir (I := (·.Absent n)) (fun _ _ h hc => hc.absent h)
    (hunder.pending n hn hne habsent) hcut).get

end Interrupted

/-! ## The records of a valid operation can be read back -/

theorem length_token {s : String} (h : token s = true) : (utf8 s).length ≤ 128 := by
  unfold token hostToken at h
  split at h
  · cases h
  · rename_i b bs hbytes
    rw [hbytes]
    simp only [Bool.and_eq_true, decide_eq_true_eq] at h
    exact h.1.1

theorem length_sha {b : Bytes} (h : sha b = true) : b.length = 32 := by
  simp only [sha, Bool.and_eq_true, decide_eq_true_eq] at h
  exact h.1

section Valid

variable {i : FleetHostIntent} {registry : HostRegistry} {r d s : Bytes}

/-- The gate of a valid APPLY of the whole host decodes to it. -/
theorem decodeHostIntent_valid (h : ValidIntent i registry r d s)
    (haction : i.action = toI32 FleetHostAction.apply) (hwhole : i.resourceId = "sing-box") :
    decodeHostIntent i.encodeToVec = .ok i := by
  have hnet : i.networkAdmission = none := by
    cases hn : i.networkAdmission with
    | none => rfl
    | some _ =>
      have hstart := h.admission (by rw [hn]; rfl)
      rw [haction] at hstart
      exact absurd hstart (by decide)
  obtain ⟨hr, hd, hs⟩ := h.digests
  have hsize : i.encodeToVec.length ≤ 12 * (20 + 128) := by
    refine FleetHostIntent.length_encodeToVec_le hnet (length_token h.machineId) ?_
      (length_token h.operationId)
      ?_ ?_ ?_ (by decide)
    · rw [hwhole]
      decide
    · rw [hr, length_sha h.present.1]
      decide
    · rw [hd, length_sha h.present.2.1]
      decide
    · rw [hs, length_sha h.present.2.2]
      decide
  have hne : i.encodeToVec ≠ [] := FleetHostIntent.encodeToVec_ne_nil (by rw [h.schema]; decide)
  refine passes_bind (not_or.mpr ⟨hne, ?_⟩) ?_
  · show ¬ i.encodeToVec.length > 8192
    omega
  · refine ok_bind (okOr_eq_ok.mpr (FleetHostIntent.decode_encodeToVec i)) ?_
    exact passes_bind (not_not.mpr rfl) rfl

/-- The BEGIN record of a valid operation of the whole host decodes to itself. -/
theorem decodeHostResult_begin (h : ValidIntent i registry r d s) (hwhole : i.resourceId = "sing-box")
    (begunAt : UInt64) : decodeHostResult (beginRecord i begunAt).encodeToVec =
    .ok (beginRecord i begunAt) := by
  obtain ⟨-, hd, hs⟩ := h.digests
  have hsize : (beginRecord i begunAt).encodeToVec.length ≤ 13 * (20 + 128) := by
    refine FleetHostResult.length_encodeToVec_le (length_token h.machineId) ?_ (length_token h.operationId)
      ?_ ?_ ?_ ?_ (by decide)
    · show (utf8 i.resourceId).length ≤ 128
      rw [hwhole]
      decide
    · show i.releaseSetSha256.length ≤ 128
      rw [hs, length_sha h.present.2.2]
      decide
    · show i.desiredSha256.length ≤ 128
      rw [hd, length_sha h.present.2.1]
      decide
    · show (utf8 "").length ≤ 128
      decide
    · show (utf8 "NATIVE_OWNER_READBACK_REQUIRED").length ≤ 128
      decide
  have hne : (beginRecord i begunAt).encodeToVec ≠ [] :=
    FleetHostResult.encodeToVec_ne_nil (show (1 : UInt32) ≠ 0 by decide)
  refine passes_bind (not_or.mpr ⟨hne, ?_⟩) ?_
  · show ¬ (beginRecord i begunAt).encodeToVec.length > 8192
    omega
  · refine ok_bind (okOr_eq_ok.mpr (FleetHostResult.decode_encodeToVec _)) ?_
    exact passes_bind (not_not.mpr rfl) rfl

end Valid

/-- A reason that was set fits its projections; what is left to check is the state. -/
theorem validateHostResultReason_set {result : FleetHostResult} {reason : FleetHostResultReason}
    (state : FleetHostResultState) (hstate : result.state = toI32 state)
    (h : reasonAllows reason state = true) :
    validateHostResultReason (setHostResultReason result reason) = .ok () := by
  refine ok_bind (okOr_eq_ok.mpr (tryFrom_toI32 reason)) ?_
  refine ok_bind (a := state) (okOr_eq_ok.mpr ?_) ?_
  · show tryFrom FleetHostResultState result.state = some state
    rw [hstate, tryFrom_toI32]
  · refine rejectIf_eq_ok.mpr ?_
    simp [h, setHostResultReason]

theorem recoveryBeginMismatch_begin (i : FleetHostIntent) (begunAt : UInt64) :
    recoveryBeginMismatch i (beginRecord i begunAt) = false := by
  have hreason : validateHostResultReason (beginRecord i begunAt) = .ok () :=
    validateHostResultReason_set .authorized rfl rfl
  simp only [recoveryBeginMismatch, hreason]
  simp [beginRecord, setHostResultReason, correlatedResult, hostResultReasonProjection, isErr]

/-! ## The verdict on a converged host -/

/-- The verdicts that end an operation as verified. -/
def Recovered (verdict : FleetHostResultReason) : Prop :=
  verdict = .recoveredNativeRunning ∨ verdict = .recoveredNativeStopped

theorem Recovered.priorTerminal {verdict : FleetHostResultReason} (h : Recovered verdict) :
    priorTerminal verdict = .verified := by
  rcases h with rfl | rfl <;> rfl

/-- What a recovery would record for the earlier operation may be stored. -/
theorem validateTerminal_prior {verdict : FleetHostResultReason} (h : Recovered verdict)
    (i : FleetHostIntent) (readAt : UInt64) : validateTerminal i (priorResult i verdict readAt)
    (priorTerminal verdict) = .ok () := by
  have hhalf : partialVerdict verdict = false := by
    rcases h with rfl | rfl <;> rfl
  have hreason : validateHostResultReason (priorResult i verdict readAt) = .ok () := by
    refine validateHostResultReason_set .verified ?_ ?_
    · rw [hhalf]
      rfl
    · rcases h with rfl | rfl <;> rfl
  refine rejectIf_eq_ok.mpr ?_
  rw [hreason, h.priorTerminal]
  simp [priorResult, hhalf, setHostResultReason, correlatedResult, terminalAdmits, isErr]

/-- And so may what it records for itself. -/
theorem validateTerminal_observedResult {verdict : FleetHostResultReason} (h : Recovered verdict)
    (i : FleetHostIntent) (readAt : UInt64) :
    validateTerminal i (observedResult i verdict readAt) .observed = .ok () := by
  have hreason : validateHostResultReason (observedResult i verdict readAt) = .ok () := by
    refine validateHostResultReason_set .observed rfl ?_
    rcases h with rfl | rfl <;> rfl
  refine rejectIf_eq_ok.mpr ?_
  rw [hreason]
  simp [observedResult, preparedHostResult, setHostResultReason, correlatedResult, terminalAdmits, isErr]

/-- A host in the post-state of the operation, with the release the RECOVER is bound to, is recovered. -/
theorem recoveryVerdict_converged {D : Deps} {intent original : FleetHostIntent} {selected : FleetHost}
    {bound : BoundNativeHostArtifacts} {target : FleetHostTarget} {expected previous : Bytes} {now : UInt64}
    {step : FleetHostPlannedStep} {o : FleetNativeObservation} {kind : FleetHostKind}
    {proof : FleetNativeReleaseProof} {run : FleetHostRunState}
    (hpost : Poststate D original target expected step previous now o kind proof run)
    (hkind : selected.kind = original.kind) (htarget : selected.target = some target)
    (hmode : tryFrom FleetHostMode target.windowsMode = some .unspecified)
    (hregistry : original.registrySha256 = intent.registrySha256)
    (hdesired : original.desiredSha256 = intent.desiredSha256)
    (hrelease : original.releaseSetSha256 = intent.releaseSetSha256)
    (hruntime : o.observedReleaseSha256 = bound.runtimeReleaseSha256)
    (hsha : sha bound.runtimeReleaseSha256 = true) :
    ∃ verdict, recoveryVerdict D intent original selected bound now o = .ok verdict ∧ Recovered verdict := by
  -- An observation without reason codes shows no known runtime defect.
  have hdefect : (!o.runtimeReady && knownRuntimeOnlyHistoricalReasons o) = false := by
    unfold knownRuntimeOnlyHistoricalReasons
    rw [hpost.undegraded]
    cases o.runtimeReady <;> cases o.runtimeReadyProven <;> rfl
  have hcomplete : recoveryIncomplete intent original selected bound o = false := by
    simp only [recoveryIncomplete, hregistry, hdesired, hrelease, hruntime, Bool.and_assoc, hdefect]
    simp
  have hzero : allZero bound.runtimeReleaseSha256 = false := by
    simp only [sha, Bool.and_eq_true, Bool.not_eq_true'] at hsha
    exact hsha.2
  have howner : tryFrom FleetNativeOwnerState o.ownerState =
      some (if run = .running then .running else .stopped) := by
    rcases hpost.state with ⟨rfl, h⟩ | ⟨rfl, h, -⟩ <;> rw [h, tryFrom_toI32] <;> rfl
  obtain ⟨verdict, hverdict, hrecovered⟩ : ∃ verdict,
      verifyReadOnlyRecoveryState D selected o bound.runtimeReleaseSha256 now = .ok verdict ∧
      Recovered verdict := by
    refine ⟨if run = .running then .recoveredNativeRunning else .recoveredNativeStopped, ?_, ?_⟩
    · refine ok_bind hpost.valid ?_
      refine passes_bind ?_ ?_
      · simp [hpost.hostKind, hkind, hpost.undegraded, hpost.past, hpost.fresh, length_sha hsha]
      refine ok_bind (okOr_eq_ok.mpr (hkind ▸ hpost.kindOf)) ?_
      refine ok_bind (okOr_eq_ok.mpr hpost.required) ?_
      refine passes_bind ?_ ?_
      · simp [hpost.proven, hruntime, length_sha hsha, hzero]
      refine ok_bind (okOr_eq_ok.mpr htarget) ?_
      refine ok_bind (okOr_eq_ok.mpr hpost.runState) ?_
      refine ok_bind (okOr_eq_ok.mpr hmode) ?_
      refine passes_bind (not_not.mpr rfl) ?_
      refine ok_bind (okOr_eq_ok.mpr howner) ?_
      rcases hpost.state with ⟨rfl, -⟩ | ⟨rfl, -, hproven, hready⟩
      · simp [hruntime]
      · simp [hruntime, hproven, hready]
    · unfold Recovered
      split
      · exact .inl rfl
      · exact .inr rfl
  refine ⟨verdict, ?_, hrecovered⟩
  unfold recoveryVerdict
  rw [hcomplete]
  exact passes_bind (by simp) hverdict

/-! ## A RECOVER that finds a converged host -/

/-- The owner's observation is `o`; every other answer is possible. -/
def Sees (o : FleetNativeObservation) : (op : OwnerOp) → op.Ans → Prop
  | .observe, a => a = .ok o
  | _, _ => True

def ownerSeeing (o : FleetNativeObservation) : OwnSem Unit (List Event) ownerSig :=
  fun op w a history => ownerSem op w a history ∧ Sees o op a

/-- The executions in which every observation is `o`. -/
abbrev journalSeeing (o : FleetNativeObservation) : Sem (fsSig Unit ownerSig) JournalWorld :=
  fsSem (ownerSeeing o)

theorem journalSem_of_seeing {o : FleetNativeObservation} (op : (fsSig Unit ownerSig).Op) (w : JournalWorld)
    (a : (fsSig Unit ownerSig).Ans op) (w' : JournalWorld) (h : journalSeeing o op w a w') :
    journalSem op w a w' := by
  cases op with
  | dir u dirOp => exact h
  | own op =>
    obtain ⟨history, ⟨hown, -⟩, rfl⟩ := h
    exact ⟨history, hown, rfl⟩

theorem journalSeeing_total (o : FleetNativeObservation) (op : (fsSig Unit ownerSig).Op) (w : JournalWorld) :
    ∃ a w', journalSeeing o op w a w' := by
  cases op with
  | dir u dirOp => exact ⟨_, _, _, dirOp.run_sem _, rfl⟩
  | own op =>
    obtain ⟨a, ha⟩ : ∃ a, Sees o op a := by
      cases op with
      | observe => exact ⟨.ok o, rfl⟩
      | allowStep _ | applyOnce _ _ => exact ⟨.ok (), trivial⟩
      | effectElapsedSecs => exact ⟨(0 : UInt64), trivial⟩
      | clock | rootFile | ownerExecutable | adminAuthorization | spawn => exact ⟨.error "", trivial⟩
    exact ⟨a, _, _, ⟨rfl, ha⟩, rfl⟩

theorem safe_observe_seeing {o : FleetNativeObservation}
    {guard : (fsSig Unit ownerSig).Op → JournalWorld → Prop} {α : Type}
    {Q : Except String α → JournalWorld → Prop} {w : JournalWorld}
    {k : FleetNativeObservation → JournalProc α} (hl : Looks guard)
    (hok : Safe (journalSeeing o) guard (k o) Q (log w (.observed (.ok o)))) :
    Safe (journalSeeing o) guard (observe >>= k) Q w := by
  refine safe_own.mpr ⟨hl.ask _ _ rfl, ?_⟩
  rintro answer history ⟨h, hanswer⟩
  cases h
  cases (show answer = .ok o from hanswer)
  exact hok

/-- The execution succeeded and its scope is free. -/
def Released (c : HostCall) (r : Except String FleetHostResult) (w : JournalWorld) : Prop :=
  (∃ result, r = .ok result) ∧ (dirOf w).get (nativeScopePendingPath c.intent) = none

section Progress

variable {D : Deps} {c : HostCall} {start w : JournalWorld} {i : FleetHostIntent}
    {o : FleetNativeObservation}
variable {verdict : FleetHostResultReason} {a : Admission} {selected : FleetHost}

/-- Settling a converged operation without a terminal stores its `.verified` terminal. -/
theorem safe_settlePrior_recovered (hclear : Cleared c (dirOf start))
    (hadj : Adjudicates D c (dirOf start) i o verdict) (hrec : Recovered verdict)
    (hd : dirOf w = dirOf start) (hev : w.env = start.env ++ [.observed (.ok o)])
    (hunended : ∀ t, (dirOf start).get (terminalName i.operationId t) = none) :
    Safe journalSem (Permitted D c start) (settlePrior c.intent i verdict o.observedAtUnix)
      (fun r w' => r = .ok () ∧ w' = w.setDir () (concluded i (priorResult i verdict o.observedAtUnix)
        (priorTerminal verdict) (dirOf w))) w := by
  have hstorable : Storable i (priorResult i verdict o.observedAtUnix) (priorTerminal verdict) (dirOf w) :=
    { valid := validateTerminal_prior hrec i _
      gate := by rw [hd, gate_of_identity hadj.identity]; exact hadj.gate
      fresh := by rw [hd]; exact hunended _ }
  have hopp : (dirOf w).get (terminalName i.operationId (oppositeTerminal verdict)) = none := by
    rw [hd]
    exact hunended _
  refine safe_settlePrior hclear hadj hd hev ?_ ?_ ?_
  · exact fun e hnot => absurd ⟨hopp, hstorable⟩ hnot
  · intro b found _ hread
    rw [Dir.read, hstorable.fresh] at hread
    cases hread
  · exact fun _ _ => ⟨rfl, rfl⟩

/-- The RECOVER itself: admitted over the settled directory and ended at once. -/
theorem safe_consume {d : Dir} {readAt : UInt64} (hclear : Cleared c (dirOf start))
    (hauth : authenticate D c = .ok a) (hrec : Recovered verdict) (hw : dirOf w = d)
    (hgate : d.get (nativeScopePendingPath c.intent) = none)
    (hbegun : d.get (beginName c.intent.operationId) = none)
    (hsame : ∀ t, d.get (terminalName c.intent.operationId t) =
      (dirOf start).get (terminalName c.intent.operationId t))
      (hfresh : (dirOf start).get (terminalName c.intent.operationId .observed) = none) :
    Safe journalSem (Permitted D c start)
      (do
        let _ ← admitAfterProtectedOwnerCheckOnce D c a.registry a.bound
        storeNativeTerminalAndUnlockOnce c.intent (observedResult c.intent verdict readAt) .observed
        pure (observedResult c.intent verdict readAt))
      (Released c) w := by
  subst hw
  refine safe_bind.mpr (safe_admission hclear hgate ?_ fun _ => ?_)
  · exact fun e hnot => absurd ⟨validateAdmission_of_authenticate hauth, hbegun⟩ hnot
  generalize hw' : w.setDir () (admitted c (dirOf w)) = w'
  have hdir : dirOf w' = admitted c (dirOf w) := hw' ▸ dirOf_setDir _ _
  have hstorable : Storable c.intent (observedResult c.intent verdict readAt) .observed (dirOf w') :=
    { valid := validateTerminal_observedResult hrec _ _
      gate := by rw [hdir]; exact read_admitted_gate c _
      fresh := by
        rw [hdir, get_admitted_other (gate_ne_terminal _ _ _).symm (begin_ne_terminal _ _ _).symm, hsame]
        exact hfresh }
  refine safe_bind.mpr (safe_store (Permitted.looks D c start)
    (fun _ => allowsTerminal_own hclear hdir hsame) (fun e hnot => absurd hstorable hnot) fun _ => ?_)
  refine ⟨⟨_, rfl⟩, ?_⟩
  rw [dirOf_setDir, concluded, Dir.get_unlink, if_pos rfl]

/-- Resolving a converged operation releases the gate. -/
theorem safe_resolve_released (hclear : Cleared c (dirOf start)) (hauth : authenticate D c = .ok a)
    (hadj : Adjudicates D c (dirOf start) i o verdict)
    (hverdict : recoveryVerdict D c.intent i selected a.bound c.nowUnix o = .ok verdict)
    (hrec : Recovered verdict) (hd : dirOf w = dirOf start) (hev : w.env = start.env ++ [.observed (.ok o)])
    (hunended : ∀ t, (dirOf start).get (terminalName i.operationId t) = none)
    (hfresh : (dirOf start).get (terminalName c.intent.operationId .observed) = none) :
    Safe journalSem (Permitted D c start)
      (resolvePendingNativeRecoveryOnce D c a.registry selected a.bound o) (Released c) w := by
  obtain ⟨b, recorded, hread, hdecoded, hmatch⟩ := hadj.begun
  have hidentity := hadj.identity
  rw [← hd] at hread
  refine safe_readOr_some .read (hd ▸ hadj.gate) ?_
  refine Safe.lift_ok hadj.decoded ?_
  refine Safe.not_rejected (by rw [hidentity]; decide) ?_
  refine safe_readOr_some .read hread ?_
  refine Safe.lift_ok hdecoded ?_
  refine Safe.not_rejected (by rw [hmatch]; decide) ?_
  refine Safe.lift_ok hverdict ?_
  have hsettle := safe_settlePrior_recovered hclear hadj hrec hd hev hunended
  refine hsettle.bind (fun u w' h => ?_) fun e w' h => by cases h.1
  have hset : Settled c i (dirOf w) (concluded i (priorResult i verdict o.observedAtUnix)
      (priorTerminal verdict) (dirOf w)) := settled_concluded (gate_of_identity hadj.identity)
  have hother : ∀ n, n ≠ nativeScopePendingPath c.intent → (∀ t, n ≠ terminalName i.operationId t) →
      (concluded i (priorResult i verdict o.observedAtUnix) (priorTerminal verdict) (dirOf w)).get n =
        (dirOf start).get n := fun n hn ht => by rw [hset.other n hn ht, hd]
  refine safe_consume hclear hauth hrec (by rw [h.2, dirOf_setDir]) hset.gate ?_ ?_ hfresh
  · rw [hother _ (gate_ne_begin _ _).symm fun t => begin_ne_terminal _ _ _]
    exact hclear.unbegun
  · exact fun t => hother _ (gate_ne_terminal _ _ _).symm fun t' heq =>
      hadj.begin_ne hclear (terminalName_inj heq).1

end Progress

/-- The RECOVER `intent` is about the same scope and the same sources as `original`. -/
structure SameSources (intent original : FleetHostIntent) : Prop where
  machineId : original.machineId = intent.machineId
  kind : original.kind = intent.kind
  resourceId : original.resourceId = intent.resourceId
  registrySha256 : original.registrySha256 = intent.registrySha256
  desiredSha256 : original.desiredSha256 = intent.desiredSha256
  releaseSetSha256 : original.releaseSetSha256 = intent.releaseSetSha256

section Execution

variable {D : Deps} {c : HostCall} {start : JournalWorld} {i : FleetHostIntent} {o : FleetNativeObservation}
variable {verdict : FleetHostResultReason} {a : Admission} {selected : FleetHost} {begunAt : UInt64}

/-- An operation that is interrupted in the RECOVER's scope may be adjudicated by it. -/
theorem adjudicates_interrupted {registry : HostRegistry} {r d s : Bytes}
    (hint : Interrupted i begunAt (dirOf start)) (hvalid : ValidIntent i registry r d s)
    (haction : i.action = toI32 FleetHostAction.apply) (hwhole : i.resourceId = "sing-box")
    (hrecover : c.intent.action = toI32 FleetHostAction.recover) (hsame : SameSources c.intent i)
    (hclear : Cleared c (dirOf start)) (hauth : authenticate D c = .ok a)
    (hselected : a.registry.owned c.intent.machineId c.intent.kind = some selected)
    (hverdict : recoveryVerdict D c.intent i selected a.bound c.nowUnix o = .ok verdict) :
    Adjudicates D c (dirOf start) i o verdict := by
  have hop : i.operationId ≠ c.intent.operationId := by
    intro heq
    have hread := hint.begun
    rw [heq, Dir.read, hclear.unbegun] at hread
    cases hread
  have hidentity : recoveryIdentityMismatch c.intent i = false := by
    simp [recoveryIdentityMismatch, hsame.machineId, hsame.kind, hsame.resourceId, hop, haction]
  exact
    { recover := hrecover
      gate := by rw [← gate_of_identity hidentity]; exact hint.gate
      decoded := decodeHostIntent_valid hvalid haction hwhole
      identity := hidentity
      begun := ⟨_, _, hint.begun, decodeHostResult_begin hvalid hwhole begunAt,
        recoveryBeginMismatch_begin i _⟩
      verdict := ⟨a, selected, hauth, hselected, hverdict⟩ }

theorem cleared_interrupted (hint : Interrupted i begunAt (dirOf start))
    (hgate : nativeScopePendingPath i = nativeScopePendingPath c.intent)
    (hfresh : (dirOf start).get (beginName c.intent.operationId) = none) : Cleared c (dirOf start) where
  alone n hn hne := by
    rw [← hgate] at hne
    exact hint.alone n hn hne
  unbegun := hfresh

/-- The whole execution of a RECOVER that adjudicates a converged operation. -/
theorem safe_execute_released (hclear : Cleared c (dirOf start))
    (hauth : authenticate D c = .ok a)
    (hselected : a.registry.owned c.intent.machineId c.intent.kind = some selected)
    (hadj : Adjudicates D c (dirOf start) i o verdict)
    (hverdict : recoveryVerdict D c.intent i selected a.bound c.nowUnix o = .ok verdict)
    (hrec : Recovered verdict) (hconfig : a.kind = .windows → c.expectedConfig = some o.windowsConfigSha256)
    (hunended : ∀ t, (dirOf start).get (terminalName i.operationId t) = none)
    (hfresh : (dirOf start).get (terminalName c.intent.operationId .observed) = none) :
    Safe (journalSeeing o) (Permitted D c start) (executeAfterProtectedOwnerCheckOnce D c) (Released c)
      start := by
  refine Safe.lift_ok hauth ?_
  refine safe_bind.mpr (safe_list.mpr ⟨.list, fun names hperm => ?_⟩)
  refine Safe.lift (fun e h => ?_) fun _ _ => ?_
  · -- Every name of the listing is an entry, and no other scope is pending.
    have halone : ¬ ∃ name ∈ names, isPendingName name = true ∧ name ≠ nativeScopePendingPath c.intent := by
      rintro ⟨name, hmem, hpending, hne⟩
      have hkey : name ∈ (dirOf start).live.keys := hperm.mem_iff.mp hmem
      have hsome := AList.lookup_isSome.mpr (AList.mem_keys.mp hkey)
      have hnone : (dirOf start).live.lookup name = none := hclear.alone name hpending hne
      rw [hnone] at hsome
      cases hsome
    rw [(rejectIf_eq_ok (u := ())).mpr halone] at h
    cases h
  refine safe_stat.mpr ⟨.stat, ?_⟩
  refine Safe.not_rejected ?_ ?_
  · show ¬ ((dirOf start).get (beginName c.intent.operationId)).isSome = true
    rw [hclear.unbegun]
    decide
  refine Safe.lift_ok (okOr_eq_ok.mpr hselected) ?_
  refine safe_stat.mpr ⟨.stat, ?_⟩
  have hgated : ((dirOf start).get (nativeScopePendingPath c.intent)).isSome = true := by
    obtain ⟨f, hget, -⟩ := Option.map_eq_some_iff.mp hadj.gate
    rw [hget]
    rfl
  rw [if_pos hgated]
  refine Safe.not_rejected (not_not.mpr hadj.recover) ?_
  -- The owner is asked once, and answers with `o`.
  refine safe_observe_seeing (Permitted.looks D c start) ?_
  have hresolve : Safe (journalSeeing o) (Permitted D c start)
      (resolvePendingNativeRecoveryOnce D c a.registry selected a.bound o) (Released c)
      (log start (.observed (.ok o))) :=
    (safe_resolve_released (w := log start (.observed (.ok o))) hclear hauth hadj hverdict
      hrec rfl rfl hunended hfresh).restrict journalSem_of_seeing
  split
  · rename_i hwindows
    refine Safe.lift_ok (okOr_eq_ok.mpr (hconfig hwindows)) ?_
    exact Safe.not_rejected (not_not.mpr rfl) hresolve
  · exact hresolve

end Execution

/-! ## Converged APPLYs are recoverable -/

/-- Two bound intents with the same sources have the same registry, and on a VM the same runtime digest. -/
theorem boundTo_unique {D : Deps} {K : Set Bytes} (hK : Set.InjOn sha256 K) {i i' : FleetHostIntent}
    {registryPb registryPb' spec spec' releaseSetPb releaseSetPb' : Bytes} {bundle bundle' : Option Bytes}
    {registry registry' : HostRegistry} {bound bound' : BoundNativeHostArtifacts} (hsame : SameSources i' i)
    (h : BoundTo D i registryPb spec releaseSetPb bundle registry bound)
    (h' : BoundTo D i' registryPb' spec' releaseSetPb' bundle' registry' bound')
    (hr : registryPb ∈ K) (hr' : registryPb' ∈ K) (hs : releaseSetPb ∈ K) (hs' : releaseSetPb' ∈ K)
    (hb : ∀ b ∈ bundle, b ∈ K) (hb' : ∀ b ∈ bundle', b ∈ K) :
    registry = registry' ∧ bound.runtimeReleaseSha256 = bound'.runtimeReleaseSha256 := by
  obtain ⟨hregistry, -, hrelease⟩ := (validIntent_of_validate h.validated).digests
  obtain ⟨hregistry', -, hrelease'⟩ := (validIntent_of_validate h'.validated).digests
  have hpb : registryPb = registryPb' := by
    refine hK hr hr' ?_
    rw [← h.digests.1, ← h'.digests.1, ← hregistry, ← hregistry', hsame.registrySha256]
  have hset : releaseSetPb = releaseSetPb' := by
    refine hK hs hs' ?_
    rw [← h.digests.2, ← h'.digests.2, ← hrelease, ← hrelease', hsame.releaseSetSha256]
  subst hpb
  subst hset
  obtain ⟨release, hdecode, hruntime⟩ := h.release
  obtain ⟨release', hdecode', hruntime'⟩ := h'.release
  obtain rfl : release = release' := Option.some.inj (hdecode.symm.trans hdecode')
  rw [hsame.kind] at hruntime
  exact ⟨Except.ok.inj (h.decoded.symm.trans h'.decoded),
    runtimeReleaseDigest_unique hK hb hb' hruntime hruntime'⟩

/-- A required proof exists for the two kinds of native owners only. -/
theorem requiredProof_some {kind : FleetHostKind} {proof : FleetNativeReleaseProof}
    (h : requiredProof kind = some proof) : kind = .vm ∨ kind = .windows := by
  cases kind with
  | unspecified => cases h
  | vm => exact .inl rfl
  | windows => exact .inr rfl

/-- A RECOVER adjudicates an APPLY or another RECOVER only. -/
theorem unanswerable_of_action (D : Deps) {i : FleetHostIntent}
    (happly : i.action ≠ toI32 FleetHostAction.apply) (hrecover : i.action ≠ toI32 FleetHostAction.recover) :
    Unanswerable D i fun _ => none := by
  intro c d o verdict hadj
  have hid := hadj.identity
  simp only [recoveryIdentityMismatch, Bool.or_eq_false_iff, Bool.not_eq_false', Bool.or_eq_true,
    decide_eq_true_eq, tryFrom_eq_some] at hid
  rcases hid.2 with h | h
  · exact absurd h.symm happly
  · exact absurd h.symm hrecover

/-- A RECOVER of a part of the host is not valid, and one of the whole host adjudicates the whole host. -/
theorem unanswerable_of_scope (D : Deps) {i : FleetHostIntent} (hscope : i.resourceId ≠ "sing-box") :
    Unanswerable D i fun _ => none := by
  intro c d o verdict hadj
  obtain ⟨a, selected, hauth, -, -⟩ := hadj.verdict
  obtain ⟨derived, hbind, -⟩ := (authentic_of_authenticate hauth).bound
  have hid := hadj.identity
  simp only [recoveryIdentityMismatch, Bool.or_eq_false_iff, decide_eq_false_iff_not, not_not] at hid
  rw [hid.1.1.2] at hscope
  have haction := (validIntent_of_validate (boundTo_of_bind hbind).validated).scope hscope
  rw [hadj.recover] at haction
  exact absurd haction (by decide)

/-- **An interrupted operation other than an APPLY or a RECOVER of the whole host keeps its gate** in every
    world that any run visits. -/
theorem interrupted_keeps_gate (D : Deps) {s w₀ w : JournalWorld} {ts : List (hostSystem D).Turn}
    {c : HostCall} {p : JournalProc FleetHostResult} {i : FleetHostIntent} {begunAt : UInt64}
    (hquiet : (dirOf s).QuietOn IsRecordName) (hint : Interrupted i begunAt (dirOf s))
    (hkind : (i.action ≠ toI32 FleetHostAction.apply ∧ i.action ≠ toI32 FleetHostAction.recover) ∨
      i.resourceId ≠ "sing-box") (hv : (hostSystem D).Visits s ts c w₀ p w) :
    (dirOf w).read (nativeScopePendingPath i) = some i.encodeToVec := by
  have hno : Unanswerable D i fun _ => none :=
    hkind.elim (fun h => unanswerable_of_action D h.1 h.2) (unanswerable_of_scope D)
  refine (locked_visits hno (locked_of_reads hquiet hint.gate (Dir.get_ne_of_read hint.begun) fun t => ?_)
    hv).gate.read
  rw [Dir.read, hint.unended t, Option.map_none]

end EdgePlatform.Host
