import EdgePlatform.Foundation.Within
import EdgePlatform.Host.Checks
import EdgePlatform.Host.PlannerSafety
import EdgePlatform.Host.Runs

/-!
# `EdgePlatform.Host.Agreement` — effects agree with the signed intent, verdicts with the observation

The step of an execution is chosen by the planner from observation and target, not from the signed action.
That the two agree follows from the filters between planner and effect: kind and action, action and step, the
scope of the intent, and that a RECOVER only ever inspects. The second half is the other direction of a
RECOVER: which observations make it record the earlier operation as verified, and which as incomplete.
-/

namespace EdgePlatform.Host

open Foundation Foundation.Wire Foundation.Proc

/-! ## Steps and intents -/

/-- The step fits the signed intent. -/
structure AgreedStep (intent : FleetHostIntent) (step : FleetHostPlannedStep) : Prop where
  mutating : step = .start ∨ step = .stop ∨ step = .install ∨ step = .replaceRelease ∨ step = .configure
  notRecover : intent.action ≠ toI32 FleetHostAction.recover
  windowsStart : intent.kind = toI32 FleetHostKind.windows → intent.action = toI32 FleetHostAction.start →
    step = .start
  windowsStop : intent.kind = toI32 FleetHostKind.windows → intent.action = toI32 FleetHostAction.stop →
    step = .stop
  vm : intent.kind = toI32 FleetHostKind.vm → intent.action = toI32 FleetHostAction.apply
  scope : intent.resourceId ≠ "sing-box" → step = .replaceRelease

/-- What the filters after the planner leave of a step. -/
structure Filtered (c : HostCall) (a : Admission) (step : FleetHostPlannedStep) : Prop where
  actionStep : validateNativeActionStep a.kind a.action step = .ok ()
  scope : c.intent.resourceId ≠ "sing-box" → step = .replaceRelease
  readOnly : c.intent.action = toI32 FleetHostAction.recover → step = .noop

variable {step : FleetHostPlannedStep} {D : Deps} {c : HostCall} {a : Admission} {registry : HostRegistry}
variable {selected : FleetHost} {bound : BoundNativeHostArtifacts} {o : FleetNativeObservation}
variable {verdict : FleetHostResultReason} {result : FleetHostResult}

theorem filtered_of_planStep
    {before : FleetNativeObservation} (h : planStep D c a selected before = .ok step) :
    Filtered c a step := by
  simp only [planStep, ok_iff] at h
  obtain ⟨-, -, planned, -, proposal, -, -, chosen, -, -, hstep, hscope, hrecover, h⟩ := h
  cases h
  exact
    { actionStep := hstep
      scope := fun hne => not_not.mp fun hstep => hscope ⟨hne, hstep⟩
      readOnly := fun hr => not_not.mp fun hstep => hrecover ⟨hr, hstep⟩ }

/-- The filters leave steps that agree with the intent. -/
theorem agreed_of_filtered (hauth : authenticate D c = .ok a) (h : Filtered c a step)
    (heffect : step.isEffect = true) :
    AgreedStep c.intent step := by
  have hauth := authentic_of_authenticate hauth
  have haction := tryFrom_eq_some.mp hauth.action
  have hkind := tryFrom_eq_some.mp hauth.kind
  have hnoop : step ≠ .noop := by
    rintro rfl
    cases heffect
  have hstep := h.actionStep
  simp only [validateNativeActionStep, ok_iff] at hstep
  obtain ⟨hallowed, hstart, hstop⟩ := hstep
  refine
    { mutating := by simpa [FleetHostPlannedStep.isEffect, or_assoc] using heffect
      notRecover := fun hr => hnoop (h.readOnly hr)
      windowsStart := fun hw ha => ?_
      windowsStop := fun hw ha => ?_
      vm := fun hv => ?_
      scope := h.scope }
  · have hk : a.kind = .windows := toI32_inj.mp (hkind.trans hw)
    have ha' : a.action = .start := toI32_inj.mp (haction.trans ha)
    by_contra hne
    exact hstart ⟨hk, ha', fun hs => hs.elim hne hnoop⟩
  · have hk : a.kind = .windows := toI32_inj.mp (hkind.trans hw)
    have ha' : a.action = .stop := toI32_inj.mp (haction.trans ha)
    by_contra hne
    exact hstop ⟨hk, ha', fun hs => hs.elim hne hnoop⟩
  · have hk : a.kind = .vm := toI32_inj.mp (hkind.trans hv)
    have hne : a.action ≠ .recover := fun hr => hnoop (h.readOnly (by rw [← haction, hr]))
    rw [hk] at hallowed
    have happly : a.action = .apply := by
      cases hact : a.action with
      | apply => rfl
      | recover => exact absurd hact hne
      | _ => rw [hact] at hallowed; cases hallowed
    rw [← haction, happly]

/-! ## Every operation of an execution -/

/-- The operations an execution of `c` may issue at all. -/
def InAgreement (c : HostCall) : (fsSig Unit ownerSig).Op → Prop
  | .own (.applyOnce intent step) => intent = c.intent ∧ AgreedStep c.intent step
  | .own (.allowStep _) => c.intent.action ≠ toI32 FleetHostAction.recover
  | _ => True

theorem within_observe : observe.Within (InAgreement c) := by
  refine ⟨trivial, fun answer => ?_⟩
  exact within_lift answer

theorem within_admit : (admitAfterProtectedOwnerCheckOnce D c registry bound).Within (InAgreement c) := by
  refine Within.lift_bind fun _ _ => ?_
  refine Within.bind (within_stat trivial) fun _ => Within.lift_bind fun _ _ => ?_
  refine Within.bind (within_durableCreate (fun _ _ => trivial) trivial) fun _ => ?_
  exact Within.bind (within_durableCreate (fun _ _ => trivial) trivial) fun _ => trivial

theorem within_store {intent : FleetHostIntent} {t : Terminal} :
    (storeNativeTerminalAndUnlockOnce intent result t).Within (InAgreement c) := by
  refine Within.lift_bind fun _ _ => ?_
  refine Within.bind (within_readOr trivial) fun _ => ?_
  refine Within.lift_bind fun _ _ => ?_
  refine Within.bind (within_durableCreate (fun _ _ => trivial) trivial) fun _ => ?_
  exact within_durableRemove trivial trivial

theorem within_finish {expected previous : Bytes} {step : FleetHostPlannedStep}
    {now : UInt64} : (finishAfterProtectedOwnerCheckOnce D c registry expected step previous now
      (observeConfigured c a)).Within (InAgreement c) := by
  refine Within.lift_bind fun _ _ => ?_
  refine Within.lift_bind fun _ _ => ?_
  refine Within.lift_bind fun _ _ => ?_
  refine Within.lift_bind fun _ _ => ?_
  refine Within.bind ?_ fun _ => Within.bind ?_ fun _ => ?_
  · -- The gate and the BEGIN record.
    refine Within.bind (within_readOr trivial) fun _ => ?_
    refine Within.lift_bind fun _ _ => ?_
    refine Within.lift_bind fun _ _ => ?_
    refine Within.bind (within_readOr trivial) fun _ => ?_
    exact Within.lift_bind fun _ _ => within_lift _
  · exact Within.bind within_observe fun _ => Within.lift_bind fun _ _ => trivial
  · refine Within.lift_bind fun _ _ => ?_
    exact Within.bind within_store fun _ => trivial

theorem within_resolve : (resolvePendingNativeRecoveryOnce D c registry selected bound o).Within
    (InAgreement c) := by
  refine Within.bind (within_readOr trivial) fun _ => ?_
  refine Within.lift_bind fun _ _ => ?_
  refine Within.lift_bind fun _ _ => ?_
  refine Within.bind (within_readOr trivial) fun _ => ?_
  refine Within.lift_bind fun _ _ => ?_
  refine Within.lift_bind fun _ _ => ?_
  refine Within.lift_bind fun verdict _ => ?_
  refine Within.bind ?_ fun _ => ?_
  · refine Within.bind (within_stat trivial) fun _ => Within.lift_bind fun _ _ => ?_
    refine Within.bind (within_stat trivial) fun settled => ?_
    split
    · refine Within.bind (within_readOr trivial) fun _ => ?_
      refine Within.lift_bind fun _ _ => ?_
      exact Within.lift_bind fun _ _ => within_durableRemove trivial trivial
    · exact within_store
  · refine Within.bind within_admit fun _ => ?_
    exact Within.bind within_store fun _ => trivial

/-- The planned branch: the effect is the planned step, and a RECOVER is only ever planned a NOOP. -/
theorem within_executePlanned (hauth : authenticate D c = .ok a) :
    (executePlanned D c a selected).Within (InAgreement c) := by
  refine Within.bind within_observe fun before => ?_
  refine Within.lift_bind fun step hstep => ?_
  split
  · exact Within.bind within_admit fun _ => Within.bind within_store fun _ => trivial
  · refine Within.lift_bind fun _ heffect => ?_
    have hagreed : AgreedStep c.intent step :=
      agreed_of_filtered hauth (filtered_of_planStep hstep) (by simpa using heffect)
    refine Within.bind ⟨hagreed.notRecover, fun answer => within_lift answer⟩ fun _ => ?_
    refine Within.bind within_admit fun _ => ?_
    refine Within.bind ⟨⟨rfl, hagreed⟩, fun answer => within_lift answer⟩ fun _ => ?_
    exact ⟨trivial, fun _ => within_finish⟩

theorem within_execute (D : Deps) (c : HostCall) :
    (executeAfterProtectedOwnerCheckOnce D c).Within (InAgreement c) := by
  refine Within.lift_bind fun a hauth => ?_
  refine Within.bind ⟨trivial, fun names => within_lift _⟩ fun _ => ?_
  refine Within.bind (within_stat trivial) fun _ => Within.lift_bind fun _ _ => ?_
  refine Within.lift_bind fun selected _ => Within.bind (within_stat trivial) fun gated => ?_
  split
  · refine Within.lift_bind fun _ _ => ?_
    refine Within.bind within_observe fun o => ?_
    split
    · exact Within.lift_bind fun _ _ => Within.lift_bind fun _ _ => within_resolve
    · exact within_resolve
  · exact within_executePlanned hauth

/-- **Effect and intent agree.** In every execution, on any inputs and with any answers of the owner, an
    effect is invoked for the signed intent with a step that agrees with it, and a RECOVER neither asks for a
    step nor takes one. -/
theorem effect_agrees_with_intent (D : Deps) (c : HostCall) {w w' : JournalWorld} {op : OwnerOp}
    {k : op.Ans → JournalProc FleetHostResult}
    (hsteps : (executeAfterProtectedOwnerCheckOnce D c).Steps journalSem w (.call (.own op) k) w') :
    (∀ intent step, op = .applyOnce intent step → intent = c.intent ∧ AgreedStep c.intent step) ∧
    (c.intent.action = toI32 FleetHostAction.recover →
      (∀ step, op ≠ .allowStep step) ∧ ∀ intent step, op ≠ .applyOnce intent step) := by
  have hallowed : InAgreement c (.own op) := (within_execute D c).issued hsteps
  constructor
  · rintro intent step rfl
    exact hallowed
  · intro hrecover
    constructor
    · rintro step rfl
      exact hallowed hrecover
    · rintro intent step rfl
      exact hallowed.2.notRecover hrecover

/-- The effect a procedure is about to invoke. -/
def invokes {α : Type} : JournalProc α → Option (FleetHostIntent × FleetHostPlannedStep)
  | .call (.own (.applyOnce intent step)) _ => some (intent, step)
  | _ => none

theorem call_of_invokes {α : Type} {p : JournalProc α} {intent : FleetHostIntent}
    {step : FleetHostPlannedStep} (h : invokes p = some (intent, step)) :
    ∃ k, p = .call (.own (.applyOnce intent step)) k := by
  unfold invokes at h
  split at h
  · cases h
    exact ⟨_, rfl⟩
  · cases h

open WindowsSample in
/-- A Windows APPLY that starts the stopped host. -/
theorem effect_agrees_windows_apply :
    (intent "a" .apply 'a').action ≠ toI32 FleetHostAction.recover ∧
      AgreedStep (intent "a" .apply 'a') .start := by
  have hnext : invokes (replay (owner 'a' false) 14 (executeAfterProtectedOwnerCheckOnce
      deps (call "a" .apply 'a' 'a')) emptyJournal).1 =
        some (intent "a" .apply 'a', .start) := by
    decide +kernel
  obtain ⟨k, hk⟩ := call_of_invokes hnext
  have hsteps := replay_steps (owner 'a' false) 14 (executeAfterProtectedOwnerCheckOnce
    deps (call "a" .apply 'a' 'a')) emptyJournal
  rw [hk] at hsteps
  have hagreed := (effect_agrees_with_intent _ _ hsteps).1 _ _ rfl
  exact ⟨hagreed.2.notRecover, hagreed.2⟩

/-! ## Verdicts on an earlier operation -/

/-- The observation proves the earlier operation converged: it is about the same sources, and the host is
    freshly seen, undegraded, in the target's run state and on the bound release. -/
structure Converged (intent original : FleetHostIntent) (selected : FleetHost)
    (bound : BoundNativeHostArtifacts) (now : UInt64) (o : FleetNativeObservation) : Prop where
  sources : original.registrySha256 = intent.registrySha256 ∧ original.desiredSha256 = intent.desiredSha256 ∧
    original.releaseSetSha256 = intent.releaseSetSha256
  hostKind : o.hostKind = selected.kind
  fresh : now.toNat ≤ o.observedAtUnix.toNat + 300 ∧ o.observedAtUnix.toNat ≤ now.toNat + 60
  undegraded : o.reasonCodes = []
  release : o.observedReleaseSha256 = bound.runtimeReleaseSha256
  state : ∃ target, selected.target = some target ∧
    ((target.runState = toI32 FleetHostRunState.running ∧
        o.ownerState = toI32 FleetNativeOwnerState.running ∧ o.runtimeReadyProven = true ∧
        o.runtimeReady = true) ∨
      (target.runState = toI32 FleetHostRunState.stopped ∧
        o.ownerState = toI32 FleetNativeOwnerState.stopped))

/-- The observation proves the earlier operation incomplete: it was an APPLY of a whole VM that shall run,
    and the VM does not run the bound release in a ready runtime. -/
structure Incomplete (original : FleetHostIntent) (selected : FleetHost) (bound : BoundNativeHostArtifacts)
    (o : FleetNativeObservation) : Prop where
  wholeVmApply : selected.kind = toI32 FleetHostKind.vm ∧ original.resourceId = "sing-box" ∧
    original.action = toI32 FleetHostAction.apply
  running : ∃ target, selected.target = some target ∧ target.runState = toI32 FleetHostRunState.running
  notReady : ¬ (o.observedReleaseSha256 = bound.runtimeReleaseSha256 ∧ o.runtimeReady = true)

section Verdict

variable {intent original : FleetHostIntent} {now : UInt64}

/-- Where nothing changed and the release is the bound one, the read-only verdict is convergence. -/
theorem converged_of_readOnly (hsame : recoveryIncomplete intent original selected bound o = false)
    (h : verifyReadOnlyRecoveryState D selected o bound.runtimeReleaseSha256 now = .ok verdict) :
    partialVerdict verdict = false ∧ Converged intent original selected bound now o := by
  simp only [verifyReadOnlyRecoveryState, ok_iff, not_or, not_not, tryFrom_eq_some] at h
  obtain ⟨-, ⟨hkind, hcodes, hfuture, hstale, -⟩, kind, -, proof, -, -, target, htarget, run, hrun,
    mode, -, -, owner, howner, h⟩ := h
  simp only [recoveryIncomplete, Bool.or_eq_false_iff, decide_eq_false_iff_not, not_not] at hsame
  obtain ⟨⟨⟨⟨hregistry, hdesired⟩, hset⟩, hrelease⟩, -⟩ := hsame
  have hconverged :
      (run = .running ∧ owner = .running ∧ o.runtimeReadyProven = true ∧ o.runtimeReady = true ∨
        run = .stopped ∧ owner = .stopped) → Converged intent original selected bound now o := by
    intro hstate
    refine ⟨⟨hregistry, hdesired, hset⟩, hkind,
      ⟨young_of_not_stale hstale, past_of_not_future hfuture⟩, hcodes, hrelease, target, htarget, ?_⟩
    rcases hstate with ⟨hr, ho, hready⟩ | ⟨hr, ho⟩
    · exact .inl ⟨by rw [← hrun, hr], by rw [← howner, ho], hready⟩
    · exact .inr ⟨by rw [← hrun, hr], by rw [← howner, ho]⟩
  split at h
  · rename_i hstate
    cases h
    exact ⟨rfl, hconverged (.inl ⟨hstate.1, hstate.2.1, hstate.2.2.1, hstate.2.2.2.1⟩)⟩
  split at h
  · rename_i hstate
    cases h
    exact ⟨rfl, hconverged (.inr hstate)⟩
  · cases h

theorem incomplete_of_historical
    (hscope : original.action = toI32 FleetHostAction.apply ∧ original.resourceId = "sing-box")
    (h : verifyHistoricalPartialRecoveryState D selected o bound.runtimeReleaseSha256 now = .ok verdict) :
    partialVerdict verdict = true ∧ Incomplete original selected bound o := by
  simp only [verifyHistoricalPartialRecoveryState, ok_iff, not_or, not_not] at h
  obtain ⟨-, ⟨hvm, hrun, -, -, -, -, -, -, -, -, -, hready⟩, h⟩ := h
  cases h
  refine ⟨rfl, ⟨hvm, hscope.2, hscope.1⟩, ?_, fun hsame => hready ⟨hsame.1, .inl hsame.2⟩⟩
  obtain ⟨target, htarget, hstate⟩ := Option.map_eq_some_iff.mp hrun
  exact ⟨target, htarget, hstate⟩

/-- The two verdict functions do not leak into each other. -/
theorem recoveryVerdict_grounds (h : recoveryVerdict D intent original selected bound now o = .ok verdict) :
    (partialVerdict verdict = false ∧ Converged intent original selected bound now o) ∨
      (partialVerdict verdict = true ∧ Incomplete original selected bound o) := by
  unfold recoveryVerdict at h
  dsimp only at h
  simp only [ok_iff] at h
  obtain ⟨hscope, h⟩ := h
  split at h
  · rename_i hincomplete
    refine .inr (incomplete_of_historical ?_ h)
    by_contra hnot
    refine hscope ⟨hincomplete, ?_⟩
    by_cases haction : original.action = toI32 FleetHostAction.apply
    · exact .inr (.inl fun hresource => hnot ⟨haction, hresource⟩)
    · exact .inl haction
  · rename_i hsame
    exact .inl (converged_of_readOnly (by simpa using hsame) h)

end Verdict

/-- The record a RECOVER writes for the earlier operation `original` under the terminal `t`, and what the
    observation has proved then. -/
inductive Records (c : HostCall) (selected : FleetHost) (bound : BoundNativeHostArtifacts)
    (o : FleetNativeObservation) (original : FleetHostIntent) : Terminal → FleetHostResult → Prop
  | verified {result : FleetHostResult} : result.state = toI32 FleetHostResultState.verified →
      result.physicalReadback = true → Converged c.intent original selected bound c.nowUnix o →
      Records c selected bound o original .verified result
  | incomplete {result : FleetHostResult} : result.state = toI32 FleetHostResultState.unknownNoReplay →
      result.physicalReadback = false → Incomplete original selected bound o →
      Records c selected bound o original .incomplete result

theorem records_of_verdict {original : FleetHostIntent}
    (h : recoveryVerdict D c.intent original selected bound c.nowUnix o = .ok verdict) :
    Records c selected bound o original (priorTerminal verdict)
      (priorResult original verdict o.observedAtUnix) := by
  unfold priorTerminal priorResult
  rcases recoveryVerdict_grounds h with ⟨hverdict, hconverged⟩ | ⟨hverdict, hincomplete⟩
  · rw [hverdict]
    exact .verified rfl rfl hconverged
  · rw [hverdict]
    exact .incomplete rfl rfl hincomplete

/-- What a RECOVER of `c` that found `pending` in its gate may write under the name of a terminal: its own
    `.observed` record, or the record of the operation in the gate. -/
def RecordsSoundly (c : HostCall) (selected : FleetHost) (bound : BoundNativeHostArtifacts)
    (o : FleetNativeObservation) (pending : Option Bytes) : (fsSig Unit ownerSig).Op → Prop
  | .dir _ op => ∀ id t b, op.Writes (terminalName id t) b →
      (t = .observed ∧ terminalName id t = terminalName c.intent.operationId .observed) ∨
      ∃ original result, pending = some original.encodeToVec ∧
        terminalName id t = terminalName original.operationId t ∧
        (∀ written, op = .append (terminalName id t) written → written = result.encodeToVec) ∧
        Records c selected bound o original t result
  | .own _ => True

section Writes

variable {pending : Option Bytes} {op : DirOp}

/-- Writing under a name that is no terminal's. -/
theorem recordsSoundly_other {n : String} {b : Bytes} (hn : ∀ id t, n ≠ terminalName id t)
    (h : op.Writes n b) : RecordsSoundly c selected bound o pending (.dir () op) := by
  intro id t b' h'
  exact absurd (h.name_unique h') (hn id t)

theorem within_admit_soundly :
    (admitAfterProtectedOwnerCheckOnce D c registry bound).Within
      (RecordsSoundly c selected bound o pending) := by
  refine Within.lift_bind fun _ _ => ?_
  refine Within.bind (within_stat nofun) fun _ => Within.lift_bind fun _ _ => ?_
  refine Within.bind (within_durableCreate (fun _ => recordsSoundly_other fun id t =>
    gate_ne_terminal _ _ _) nofun) fun _ => ?_
  exact Within.bind (within_durableCreate (fun _ => recordsSoundly_other fun id t =>
    begin_ne_terminal _ _ _) nofun) fun _ => trivial

theorem within_store_soundly {intent : FleetHostIntent} {t : Terminal}
    (hwrite : ∀ op : DirOp, op.Writes (terminalName intent.operationId t) result.encodeToVec →
      RecordsSoundly c selected bound o pending (.dir () op)) :
    (storeNativeTerminalAndUnlockOnce intent result t).Within
      (RecordsSoundly c selected bound o pending) := by
  refine Within.lift_bind fun _ _ => ?_
  refine Within.bind (within_readOr nofun) fun _ => ?_
  refine Within.lift_bind fun _ _ => ?_
  refine Within.bind (within_durableCreate hwrite nofun) fun _ => ?_
  exact within_durableRemove nofun nofun

/-- The terminal of the earlier operation. -/
theorem recordsSoundly_prior {original : FleetHostIntent} (hpending : pending = some original.encodeToVec)
    (hverdict : recoveryVerdict D c.intent original selected bound c.nowUnix o = .ok verdict)
    (h : op.Writes (terminalName original.operationId (priorTerminal verdict))
      (priorResult original verdict o.observedAtUnix).encodeToVec) :
    RecordsSoundly c selected bound o pending (.dir () op) := by
  intro id t b h'
  have hname := h.name_unique h'
  obtain rfl : priorTerminal verdict = t := (terminalName_inj hname).2
  refine .inr ⟨original, priorResult original verdict o.observedAtUnix, hpending, hname.symm, ?_,
    records_of_verdict hverdict⟩
  rintro written rfl
  rw [← hname] at h
  cases h
  rfl

/-- The own terminal of a RECOVER. -/
theorem recordsSoundly_own (h : op.Writes (terminalName c.intent.operationId .observed) result.encodeToVec) :
    RecordsSoundly c selected bound o pending (.dir () op) := by
  intro id t b h'
  have hname := h.name_unique h'
  exact .inl ⟨(terminalName_inj hname).2.symm, hname.symm⟩

theorem safe_resolve_soundly {w : JournalWorld} :
    Safe journalSem (fun op _ => RecordsSoundly c selected bound o
        ((dirOf w).read (nativeScopePendingPath c.intent)) op)
      (resolvePendingNativeRecoveryOnce D c registry selected bound o) (fun _ _ => True) w := by
  refine safe_readOr nofun (fun _ => trivial) fun bytes hbytes => ?_
  refine Safe.check (fun _ => trivial) fun original horiginal => ?_
  have hpending : (dirOf w).read (nativeScopePendingPath c.intent) = some original.encodeToVec := by
    rw [decodeHostIntent_canonical horiginal]
    exact hbytes
  -- What follows has nothing more to learn from the world.
  refine Within.safe ?_ fun _ _ hop => hop
  refine Within.lift_bind fun _ _ => ?_
  refine Within.bind (within_readOr nofun) fun _ => ?_
  refine Within.lift_bind fun _ _ => ?_
  refine Within.lift_bind fun _ _ => ?_
  refine Within.lift_bind fun verdict hverdict => ?_
  refine Within.bind ?_ fun _ => ?_
  · unfold settlePrior
    refine Within.bind (within_stat (by rintro _ _ _ ⟨⟩)) fun _ => ?_
    refine Within.lift_bind fun _ _ => ?_
    refine Within.bind (within_stat (by rintro _ _ _ ⟨⟩)) fun settled => ?_
    split
    · refine Within.bind (within_readOr (by rintro _ _ _ ⟨⟩)) fun _ => ?_
      refine Within.lift_bind fun _ _ => ?_
      refine Within.lift_bind fun _ _ => ?_
      exact within_durableRemove (by rintro _ _ _ ⟨⟩) (by rintro _ _ _ ⟨⟩)
    · exact within_store_soundly fun _ => recordsSoundly_prior hpending hverdict
  · refine Within.bind within_admit_soundly fun _ => ?_
    exact Within.bind (within_store_soundly fun _ => recordsSoundly_own) fun _ => trivial

end Writes

/-- **Recovery verdicts are sound.** Whatever a RECOVER writes under a VERIFIED or INCOMPLETE name is the
    record of the operation its gate named when it began: VERIFIED only for a converged observation,
    INCOMPLETE only for a whole-VM APPLY that is not complete, and then without physical readback. -/
theorem recovery_verdict_sound (D : Deps) (c : HostCall) (registry : HostRegistry) (selected : FleetHost)
    (bound : BoundNativeHostArtifacts) (o : FleetNativeObservation) {w w' : JournalWorld} {op : DirOp}
    {k : op.Ans → JournalProc FleetHostResult} {id : String} {t : Terminal} {b : Bytes}
    (hsteps : (resolvePendingNativeRecoveryOnce D c registry selected bound o).Steps journalSem w
      (.call (.dir () op) k) w') (hwrites : op.Writes (terminalName id t) b) (ht : t ≠ .observed) :
    ∃ (original : FleetHostIntent) (result : FleetHostResult),
      (dirOf w).read (nativeScopePendingPath c.intent) = some original.encodeToVec ∧
      terminalName id t = terminalName original.operationId t ∧
      (∀ written, op = .append (terminalName id t) written → written = result.encodeToVec) ∧
      (t = .verified → result.state = toI32 FleetHostResultState.verified ∧
        Converged c.intent original selected bound c.nowUnix o) ∧
      (t = .incomplete → result.state = toI32 FleetHostResultState.unknownNoReplay ∧
        result.physicalReadback = false ∧ Incomplete original selected bound o) := by
  rcases safe_resolve_soundly.issued hsteps id t b hwrites with ⟨hown, -⟩
    | ⟨original, result, hgate, hname, hbytes, hrec⟩
  · exact absurd hown ht
  · refine ⟨original, result, hgate, hname, hbytes, ?_, ?_⟩
    · rintro rfl
      cases hrec with
      | verified hstate _ hconverged => exact ⟨hstate, hconverged⟩
    · rintro rfl
      cases hrec with
      | incomplete hstate hread hincomplete => exact ⟨hstate, hread, hincomplete⟩

/-- The new entry a procedure is about to create. -/
def creates {α : Type} : JournalProc α → Option String
  | .call (.dir _ (.createNew n)) _ => some n
  | _ => none

theorem call_of_creates {α : Type} {p : JournalProc α} {n : String} (h : creates p = some n) :
    ∃ k, p = .call (.dir () (.createNew n)) k := by
  unfold creates at h
  split at h
  · cases h
    exact ⟨_, rfl⟩
  · cases h

open WindowsSample in
/-- An APPLY was cut off after its BEGIN; the host runs the release by now, so the RECOVER records it
verified. -/
theorem recovery_verdict_windows_verified :
    Converged (intent "b" .recover 'a') (intent "a" .apply 'a') host
      (boundArtifacts 'a') 1000 (observation 'a' true) := by
  have hcheck : creates (replay (owner 'a' true) 5 (resolvePendingNativeRecoveryOnce
      deps (call "b" .recover 'a' 'a') registry host
      (boundArtifacts 'a') (observation 'a' true)) begunThenCut).1 =
        some (terminalName "a" .verified) ∧
      (dirOf begunThenCut).read (nativeScopePendingPath (intent "b" .recover 'a')) =
        some (intent "a" .apply 'a').encodeToVec := by
    decide +kernel
  obtain ⟨k, hk⟩ := call_of_creates hcheck.1
  have hsteps := replay_steps (owner 'a' true) 5 (resolvePendingNativeRecoveryOnce
    deps (call "b" .recover 'a' 'a') registry host
    (boundArtifacts 'a') (observation 'a' true)) begunThenCut
  rw [hk] at hsteps
  obtain ⟨original, result, hgate, -, -, hverified, -⟩ := recovery_verdict_sound _ _ _ _ _ _ hsteps
    (.createNew (b := [])) (by decide)
  obtain ⟨-, hconverged⟩ := hverified rfl
  -- The gate names one intent only.
  have hsame : original = intent "a" .apply 'a' :=
    FleetHostIntent.encodeToVec_injective (Option.some.inj (hgate.symm.trans hcheck.2))
  rw [hsame] at hconverged
  exact hconverged

end EdgePlatform.Host
