import EdgePlatform.Credential.Bound
import EdgePlatform.Orchestrator.ExistingJoin

/-!
# `EdgePlatform.Orchestrator.JoinStatus` — classification of a two-host join

An existing-active join changes two stores that crash independently: Windows prepares and later promotes its
candidate B, the VM promotes its candidate B. `reconcile` reads both stores and the journal and names the
state of the join. Here the snapshots it sees are the ones the store operations produce: each store goes
through any number of turns of its operations, any of which may be cut, and as long as no receipt is
truncated the status is one of the PREPARED, PARTIAL and POINTERS_COMPLETE ones, complete exactly if both
pointers are in place (`join_classified`).
-/

namespace EdgePlatform.Orchestrator.ExistingJoin

open Foundation Foundation.Proc Foundation.Wire Credential

/-! ## Snapshots -/

/-- The slot as witnesses name it. -/
def slotText (slot : Int32) : String := if slot = 1 then "A" else if slot = 2 then "B" else ""

def witness (r : LocalCredentialBundleRef) : Witness := ⟨r.generation, slotText r.slot, r.sha256⟩

theorem slot_of_slotText_A {slot : Int32} (h : slotText slot = "A") : slot = 1 := by
  unfold slotText at h
  split_ifs at h with h₁ h₂
  · exact h₁
  · exact absurd h (by decide)
  · exact absurd h (by decide)

theorem slot_of_slotText_B {slot : Int32} (h : slotText slot = "B") : slot = 2 := by
  unfold slotText at h
  split_ifs at h with h₁ h₂
  · exact absurd h (by decide)
  · exact h₂
  · exact absurd h (by decide)

/-- The snapshot is what the stores' own readers answer, with the owners verified. -/
structure SnapshotOf (windows vm : StoreWorld) (snapshot : ExistingJoinSnapshot) : Prop where
  windowsState : ∃ state active, (readState .windows).Done storeSem windows (.ok (some state)) windows ∧
    state.active = some active ∧ snapshot.windowsActive = witness active ∧
    snapshot.windowsCandidate = state.candidate.map witness ∧
    snapshot.windowsPrevious = state.previous.map witness
  vmState : ∃ state, (readState .vm).Done storeSem vm (.ok (some state)) vm ∧
    snapshot.vmActive = state.active.map witness ∧ snapshot.vmCandidate = state.candidate.map witness
  vmJoin : ∃ found, (readExistingJoinReceipt .vm).Done storeSem vm (.ok found) vm ∧
    snapshot.vmJoinReceiptIntentSha256 = found.bind (receiptDigest "intent_sha256=")
  windowsJoin : ∃ found, (readExistingJoinReceipt .windows).Done storeSem windows (.ok found) windows ∧
    snapshot.windowsJoinReceiptIntentSha256 = found.bind (receiptDigest "intent_sha256=")
  windowsPrepare : ∃ found, readWindowsExistingJoinPrepareReceipt.Done storeSem windows (.ok found) windows ∧
    snapshot.windowsPrepareBeginSha256 = found.bind (receiptDigest "begin_sha256=")
  owners : snapshot.windowsWorkerOriginVerified = true ∧ snapshot.vmWorkerOriginVerified = true ∧
    snapshot.windowsStoppedProxyOnly = true

/-! ## The operations of one join -/

section Calls

variable (spec : ExistingJoinIntent) (original : ExistingJoinBegin) (a b : LocalCredentialBundleRef)

def beginDigest : String := hex (sha256 (utf8 (beginComment original)))

def intentDigest : String := hex (sha256 (utf8 (commitComment spec)))

def windowsPreparation : StoreCall := .prepareWindowsJoin a b spec.vmCandidate.sha256 (beginDigest original)

def windowsPromotion : StoreCall :=
  .promoteWindowsJoin spec.windowsCandidate.generation 2 spec.windowsActive.sha256
    spec.windowsCandidate.sha256
    spec.vmCandidate.sha256 (intentDigest spec)

def vmPromotion : StoreCall :=
  .promoteExistingJoin spec.vmCandidate.generation 2 spec.vmCandidate.sha256 spec.windowsActive.generation 1
    spec.windowsActive.sha256 spec.windowsCandidate.sha256 (intentDigest spec)

def prepareReceiptText : String :=
  existingJoinPrepareText .windows a b spec.vmCandidate.sha256 (beginDigest original)

def windowsReceiptText : String :=
  existingJoinText .windows spec.windowsActive.generation 1 spec.windowsActive.sha256
    spec.windowsCandidate.generation
    2 spec.vmCandidate.sha256 spec.windowsCandidate.sha256 (intentDigest spec)

def vmReceiptText : String :=
  existingJoinText .vm spec.windowsActive.generation 1 spec.windowsActive.sha256
    spec.vmCandidate.generation 2
    spec.vmCandidate.sha256 spec.windowsCandidate.sha256 (intentDigest spec)

end Calls

/-- The Windows store before the join: A active, B staged, no receipt of a join. -/
structure WindowsStart (spec : ExistingJoinIntent) (w : StoreWorld) (state : LocalCredentialState)
    (a b : LocalCredentialBundleRef) : Prop where
  ready : Ready .windows w
  stored : stored w = some state
  active : state.active = some a
  candidate : state.candidate = some b
  isA : witness a = spec.windowsActive
  isB : witness b = spec.windowsCandidate
  join : (rootOf w).get existingJoinReceipt = none
  prepare : (rootOf w).get existingJoinPrepareReceipt = none

/-- The VM store before the join: B staged, nothing active, no receipt of a join. -/
structure VmStart (spec : ExistingJoinIntent) (w : StoreWorld) (state : LocalCredentialState)
    (b : LocalCredentialBundleRef) : Prop where
  ready : Ready .vm w
  stored : stored w = some state
  active : state.active = none
  candidate : state.candidate = some b
  isB : witness b = spec.vmCandidate
  join : (rootOf w).get existingJoinReceipt = none

/-- The Windows store after turns of the preparation and, once one has succeeded, of the promotion. -/
inductive WindowsHistory (preparation promotion : StoreCall) (s : StoreWorld) : Bool → StoreWorld → Prop
  | start : WindowsHistory preparation promotion s false s
  | attempt {prepared : Bool} {w w' : StoreWorld} :
      WindowsHistory preparation promotion s prepared w → (storeSystem .windows).Outcome preparation w w' →
      WindowsHistory preparation promotion s prepared w'
  | prepare {prepared : Bool} {w w' : StoreWorld} {r : Option LocalCredentialState} :
      WindowsHistory preparation promotion s prepared w →
        (preparation.run .windows).Done storeSem w (.ok r) w' →
      WindowsHistory preparation promotion s true w'
  | promote {w w' : StoreWorld} :
      WindowsHistory preparation promotion s true w → (storeSystem .windows).Outcome promotion w w' →
      WindowsHistory preparation promotion s true w'

/-- The VM store after turns of its promotion. -/
inductive VmHistory (promotion : StoreCall) (s : StoreWorld) : StoreWorld → Prop
  | start : VmHistory promotion s s
  | promote {w w' : StoreWorld} :
      VmHistory promotion s w → (storeSystem .vm).Outcome promotion w w' → VmHistory promotion s w'

/-! ## What the histories leave -/

section Histories

variable {spec : ExistingJoinIntent} {original : ExistingJoinBegin} {state : LocalCredentialState}
variable {a b : LocalCredentialBundleRef} {s w : StoreWorld} {prepared : Bool} {revision release : String}

variable {projection : CredentialProjectionKind} {next : Option LocalCredentialState}

theorem leading_of_absent {n text : String} (hs : Ready projection s)
    (h : (rootOf s).get n = none) : Leading n text s := by
  intro v hv
  have hget := (hs.quiet .root n v hv).1
  exact .inl (hget.trans h)

/-- The pointer is where it was, or it has moved and the receipt is whole. -/
def PointerAt (projection : CredentialProjectionKind) (state : LocalCredentialState)
    (b : LocalCredentialBundleRef) (text : String) (w : StoreWorld) : Prop :=
  stored w = some state ∨
    (stored w = some (promoted projection state b) ∧ (rootOf w).Durable existingJoinReceipt (utf8 text))

/-- A promoted state has no candidate, so nothing of a join moves it. -/
theorem not_transition_promoted {c : StoreCall}
    (hc : c.oneShot ≠ none ∨ ∃ source candidate vm begin,
      c = .prepareWindowsJoin source candidate vm begin) :
    ¬ Transition projection c (some (promoted projection state b)) next := by
  intro h
  generalize hcurrent : some (promoted projection state b) = current at h
  cases h with
  | stage hstages _ _ _ =>
    rcases hstages with rfl | ⟨_, _, rfl, _⟩
    · simp [StoreCall.oneShot] at hc
    · simp [StoreCall.oneShot] at hc
  | promote _ hcandidate _ =>
    cases hcurrent
    cases hcandidate
  | rollback | discard | clear | drop => simp [StoreCall.oneShot] at hc

structure VmLeft (spec : ExistingJoinIntent) (state : LocalCredentialState) (b : LocalCredentialBundleRef)
    (w : StoreWorld) : Prop where
  ready : Ready .vm w
  pointer : PointerAt .vm state b (vmReceiptText spec) w
  join : Leading existingJoinReceipt (vmReceiptText spec) w

theorem VmHistory.left (hstart : VmStart spec s state b) (h : VmHistory (vmPromotion spec) s w) :
    VmLeft spec state b w := by
  induction h with
  | start => exact ⟨hstart.ready, .inl hstart.stored, leading_of_absent hstart.ready hstart.join⟩
  | @promote w w' _ hout ih =>
    have hreceipt : ∀ st, receiptOf .vm (vmPromotion spec) st =
        some (existingJoinReceipt, vmReceiptText spec) :=
      fun _ => rfl
    refine ⟨ready_outcome ih.ready hout, ?_, ?_⟩
    · rcases ih.pointer with hsame | ⟨hmoved, hdurable⟩
      · exact promoted_outcome (k := .existingJoin) ih.ready rfl hsame hstart.candidate (hreceipt _) hout
      · refine .inr ⟨?_, durable_outcome ih.ready (by decide) hdurable hout⟩
        exact unchanged_outcome ih.ready hmoved
          (fun _ => not_transition_promoted (.inl (by simp [vmPromotion, StoreCall.oneShot]))) hout
    · refine leading_outcome ih.ready (by decide) ?_ ih.join hout
      intro st text _ htext _
      rw [hreceipt, Option.some.injEq, Prod.mk.injEq] at htext
      exact htext.2.symm

structure WindowsLeft (spec : ExistingJoinIntent) (original : ExistingJoinBegin)
    (state : LocalCredentialState) (a b : LocalCredentialBundleRef) (prepared : Bool)
    (w : StoreWorld) : Prop where
  ready : Ready .windows w
  pointer : PointerAt .windows state b (windowsReceiptText spec) w
  join : Leading existingJoinReceipt (windowsReceiptText spec) w
  prepare : Leading existingJoinPrepareReceipt (prepareReceiptText spec original a b) w
  whole : prepared = true → (rootOf w).Durable existingJoinPrepareReceipt
    (utf8 (prepareReceiptText spec original a b))
  /-- Only a prepared store has moved. -/
  moved : prepared = false → stored w = some state

theorem not_transition_prepare {st : Option LocalCredentialState}
    {source candidate : LocalCredentialBundleRef} {vm begin : String} :
    ¬ Transition projection (.prepareWindowsJoin source candidate vm begin) st next := by
  intro h
  cases h with
  | stage hstages _ _ _ => rcases hstages with h | ⟨_, _, h, _⟩ <;> cases h
  | promote hpromotes _ _ => exact hpromotes

/-- A turn of the preparation moves nothing. -/
theorem WindowsLeft.attempt {w' : StoreWorld} (ih : WindowsLeft spec original state a b prepared w)
    (hout : (storeSystem .windows).Outcome (windowsPreparation spec original a b) w w') :
    WindowsLeft spec original state a b prepared w' := by
  have hsame : stored w' = stored w := by
    by_contra hne
    exact not_transition_prepare ((pointed_outcome ih.ready hout).changed hne).transition
  have hother : ∀ st, receiptOf .windows (windowsPreparation spec original a b) st =
      some (existingJoinPrepareReceipt, prepareReceiptText spec original a b) := fun _ => rfl
  refine ⟨ready_outcome ih.ready hout, ?_, ?_, ?_, ?_, ?_⟩
  · rcases ih.pointer with h | ⟨hmoved, hdurable⟩
    · exact .inl (hsame.trans h)
    · exact .inr ⟨hsame.trans hmoved, durable_outcome ih.ready (by decide) hdurable hout⟩
  · refine leading_outcome ih.ready (by decide) ?_ ih.join hout
    intro st text _ htext _
    rw [hother, Option.some.injEq, Prod.mk.injEq] at htext
    exact absurd htext.1 (by decide)
  · refine leading_outcome ih.ready (by decide) ?_ ih.prepare hout
    intro st text _ htext _
    rw [hother, Option.some.injEq, Prod.mk.injEq] at htext
    exact htext.2.symm
  · exact fun hprepared => durable_outcome ih.ready (by decide) (ih.whole hprepared) hout
  · exact fun hprepared => hsame.trans (ih.moved hprepared)

theorem WindowsHistory.left (hvalid : validate spec revision release = .ok ())
    (hstart : WindowsStart spec s state a b)
    (h : WindowsHistory (windowsPreparation spec original a b) (windowsPromotion spec) s prepared w) :
    WindowsLeft spec original state a b prepared w := by
  induction h with
  | start =>
    exact ⟨hstart.ready, .inl hstart.stored, leading_of_absent hstart.ready hstart.join,
      leading_of_absent hstart.ready hstart.prepare, (fun h => nomatch h), fun _ => hstart.stored⟩
  | attempt _ hout ih => exact ih.attempt hout
  | @prepare prepared w w' r _ hdone ih =>
    have hleft := ih.attempt (.done hdone)
    exact ⟨hleft.ready, hleft.pointer, hleft.join, hleft.prepare, fun _ => prepare_done ih.ready hdone,
      fun h => nomatch h⟩
  | @promote w w' _ hout ih =>
    have hslot : a.slot = 1 := by
      apply slot_of_slotText_A
      have hwitness := congrArg Witness.slot hstart.isA
      obtain ⟨-, -, -, ⟨hA, -, -⟩, -⟩ := validate_eq_ok.mp hvalid
      exact hwitness.trans hA
    have hgeneration : a.generation = spec.windowsActive.generation := congrArg Witness.generation hstart.isA
    have hreceipt : receiptOf .windows (windowsPromotion spec) state =
        some (existingJoinReceipt, windowsReceiptText spec) := by
      simp only [receiptOf, windowsPromotion, hstart.active, Option.map_some, hslot, hgeneration,
        windowsReceiptText]
    refine ⟨ready_outcome ih.ready hout, ?_, ?_, ?_, ?_, fun h => nomatch h⟩
    · rcases ih.pointer with hsame | ⟨hmoved, hdurable⟩
      · exact promoted_outcome (k := .windowsJoin) ih.ready rfl hsame hstart.candidate hreceipt hout
      · refine .inr ⟨?_, durable_outcome ih.ready (by decide) hdurable hout⟩
        exact unchanged_outcome ih.ready hmoved
          (fun _ => not_transition_promoted (.inl (by simp [windowsPromotion, StoreCall.oneShot]))) hout
    · refine leading_outcome ih.ready (by decide) ?_ ih.join hout
      intro st text hst htext hfresh
      rcases ih.pointer with hsame | ⟨-, hdurable⟩
      · rw [hsame, Option.some.injEq] at hst
        rw [← hst, hreceipt, Option.some.injEq, Prod.mk.injEq] at htext
        exact htext.2.symm
      · rw [hdurable.get] at hfresh
        cases hfresh
    · refine leading_outcome ih.ready (by decide) ?_ ih.prepare hout
      intro st text _ htext _
      simp only [receiptOf, windowsPromotion, Option.map_eq_some_iff, Prod.mk.injEq] at htext
      obtain ⟨_, -, hname, -⟩ := htext
      exact absurd hname (by decide)
    · exact fun hprepared => durable_outcome ih.ready (by decide) (ih.whole hprepared) hout

end Histories

/-! ## What the snapshot says -/

section Reading

variable {spec : ExistingJoinIntent} {original : ExistingJoinBegin} {revision release history : String}
variable {bodies : List String} {a b : LocalCredentialBundleRef} {w : StoreWorld} {n text : String}

/-- The receipt is there, cut short. -/
def Truncated (n text : String) (w : StoreWorld) : Prop :=
  ∃ f, (rootOf w).get n = some f ∧ f.data <+: utf8 text ∧ f.data ≠ utf8 text

theorem notTruncated_of_leading (hlead : Leading n text w) (h : ¬ Truncated n text w) :
    NotTruncated n text w := by
  rcases hlead _ (Dir.possible_get _ _) with hnone | ⟨f, hf, hpart⟩
  · exact .inl hnone
  · refine .inr ?_
    have hwhole : f.data = utf8 text := by
      by_contra hne
      exact h ⟨f, hf, hpart, hne⟩
    rw [Dir.read, hf, Option.map_some, hwhole]

/-- A journal with the BEGIN and the COMMIT of one join, among other comments. -/
structure JoinJournal (spec : ExistingJoinIntent) (original : ExistingJoinBegin) (revision release : String)
    (bodies : List String) : Prop where
  valid : validate spec revision release = .ok ()
  begin : MatchingBegin spec revision release bodies original
  admissible : ∀ b ∈ bodies, Admissible b
  commit : marked family bodies = [commitComment spec]

theorem JoinJournal.reconcile (h : JoinJournal spec original revision release bodies)
    (hreads : Reads history bodies) (snapshot : ExistingJoinSnapshot) :
    reconcile spec history (commitComment spec) revision release snapshot =
      .ok (classify spec (beginDigest original) (intentDigest spec) snapshot) := by
  have hreadback : ExistingJoin.readback spec history (commitComment spec) revision release = .ok () :=
    (readback_eq_ok hreads).mpr ⟨h.valid, ⟨original, h.begin⟩, rfl, h.admissible, h.commit⟩
  have hbegins : beginRecords history = .ok [beginComment original] := by
    refine (beginRecords_eq_ok hreads).mpr ⟨fun b hb => ?_, h.begin.sole.symm⟩
    rw [h.begin.sole, List.mem_singleton] at hb
    rw [hb]
    exact startsWith_append _ _
  simp only [ExistingJoin.reconcile, hreadback, hbegins]
  rfl

theorem windowsReceiptText_digest (hvalid : validate spec revision release = .ok ()) :
    existingJoinWellFormed .windows (lines (windowsReceiptText spec)) = true ∧
      receiptDigest "intent_sha256=" (windowsReceiptText spec) = some (intentDigest spec) := by
  obtain ⟨-, -, ⟨hA, hB, hne, -⟩, -, ⟨hshaA, hshaB, hshaVm⟩, -⟩ := validate_eq_ok.mp hvalid
  exact existingJoinText_wellFormed ⟨rfl, rfl⟩ hA hB hne hshaA hshaVm hshaB (isLowerHexText_hex_sha256 _)

theorem vmReceiptText_digest (hvalid : validate spec revision release = .ok ()) :
    existingJoinWellFormed .vm (lines (vmReceiptText spec)) = true ∧
      receiptDigest "intent_sha256=" (vmReceiptText spec) = some (intentDigest spec) := by
  obtain ⟨-, -, ⟨hA, hB, hne, hsame⟩, -, ⟨hshaA, hshaB, hshaVm⟩, -⟩ := validate_eq_ok.mp hvalid
  rw [hsame] at hB hne
  exact existingJoinText_wellFormed ⟨rfl, rfl⟩ hA hB hne hshaA hshaVm hshaB (isLowerHexText_hex_sha256 _)

theorem prepareReceiptText_digest (original : ExistingJoinBegin)
    (hvalid : validate spec revision release = .ok ()) (hA : witness a = spec.windowsActive)
    (hB : witness b = spec.windowsCandidate) :
    existingJoinPrepareWellFormed (lines (prepareReceiptText spec original a b)) = true ∧
      receiptDigest "begin_sha256=" (prepareReceiptText spec original a b) =
      some (beginDigest original) := by
  obtain ⟨-, -, ⟨hgenA, hgenB, hne, -⟩, ⟨hslotA, hslotB, -⟩, ⟨hshaA, hshaB, hshaVm⟩, -⟩ :=
    validate_eq_ok.mp hvalid
  rw [← hA] at hgenA hne hslotA hshaA
  rw [← hB] at hgenB hne hslotB hshaB
  exact existingJoinPrepareText_wellFormed ⟨slot_of_slotText_A hslotA, slot_of_slotText_B hslotB⟩
    ⟨hgenA, hgenB, hne⟩ hshaA hshaB hshaVm (isLowerHexText_hex_sha256 _)

/-- A receipt of which no part is missing shows its digest or nothing. -/
theorem digest_readback {key digest : String} (hdigest : receiptDigest key text = some digest) :
    (Credential.readback n text w).bind (receiptDigest key) =
      if (rootOf w).get n = none then none else some digest := by
  unfold Credential.readback
  split_ifs
  · rfl
  · exact hdigest

end Reading

/-! ## The status -/

/-- The statuses of a join whose records are all accounted for. -/
def JoinStatus.IsKnown (status : JoinStatus) : Prop :=
  status ∈ [.intentDurablePreparedNoAutoApply, .preparedNetworkUnprovenNoReplay, .partialSafeBlockedNoReplay,
    .pointersCompleteRequiresIndependentAcceptance, .pointersCompleteNetworkUnprovenNoReplay]

instance (status : JoinStatus) : Decidable status.IsKnown := inferInstanceAs (Decidable (_ ∈ _))

def JoinStatus.IsComplete (status : JoinStatus) : Prop :=
  status ∈ [.pointersCompleteRequiresIndependentAcceptance, .pointersCompleteNetworkUnprovenNoReplay]

/-- What the two stores may look like: each pointer in one of its two places, each receipt absent or right,
    and the receipts present that a moved pointer relies on. -/
structure Accounted (spec : ExistingJoinIntent) (beginDigest intentDigest : String)
    (windowsMoved vmMoved : Prop) (snapshot : ExistingJoinSnapshot) : Prop where
  owners : snapshot.windowsWorkerOriginVerified = true ∧ snapshot.vmWorkerOriginVerified = true ∧
    snapshot.windowsStoppedProxyOnly = true
  windows : (¬ windowsMoved ∧ snapshot.windowsActive = spec.windowsActive) ∨
    (windowsMoved ∧ snapshot.windowsActive = spec.windowsCandidate ∧ snapshot.windowsCandidate = none ∧
      snapshot.windowsPrevious = some spec.windowsActive ∧
      snapshot.windowsJoinReceiptIntentSha256 = some intentDigest ∧
      snapshot.windowsPrepareBeginSha256 = some beginDigest)
  vm : (¬ vmMoved ∧ snapshot.vmActive = none ∧ snapshot.vmCandidate = some spec.vmCandidate) ∨
    (vmMoved ∧ snapshot.vmActive = some spec.vmCandidate ∧ snapshot.vmCandidate = none ∧
      snapshot.vmJoinReceiptIntentSha256 = some intentDigest)
  windowsReceipt : snapshot.windowsJoinReceiptIntentSha256 = none ∨
    snapshot.windowsJoinReceiptIntentSha256 = some intentDigest
  vmReceipt : snapshot.vmJoinReceiptIntentSha256 = none ∨
    snapshot.vmJoinReceiptIntentSha256 = some intentDigest
  prepareReceipt : snapshot.windowsPrepareBeginSha256 = none ∨
    snapshot.windowsPrepareBeginSha256 = some beginDigest

theorem Accounted.classify {spec : ExistingJoinIntent} {begin intent : String} {windowsMoved vmMoved : Prop}
    {snapshot : ExistingJoinSnapshot} (h : Accounted spec begin intent windowsMoved vmMoved snapshot)
    (hne : spec.windowsActive ≠ spec.windowsCandidate) :
    (classify spec begin intent snapshot).IsKnown ∧
      ((classify spec begin intent snapshot).IsComplete ↔ windowsMoved ∧ vmMoved) := by
  obtain ⟨⟨howner₁, howner₂, hstopped⟩, hwindows, hvm, hwindowsReceipt, hvmReceipt, hprepare⟩ := h
  have hright : ∀ {x : Option String} {d : String}, x = none ∨ x = some d →
      ¬ (¬ x = none ∧ ¬ x = some d) := by
    rintro x d (h | h) ⟨h₁, h₂⟩
    · exact h₁ h
    · exact h₂ h
  unfold ExistingJoin.classify
  simp only [howner₁, howner₂, hstopped, Bool.true_eq_false, or_self, if_false]
  rw [if_neg (not_or.mpr ⟨hright hwindowsReceipt, not_or.mpr ⟨hright hvmReceipt, hright hprepare⟩⟩)]
  rcases hwindows with ⟨hmoved, hactive⟩ | ⟨hmoved, hactive, hcandidate, hprevious, hjoin, hprepared⟩
  · -- Windows has not moved, so the status is not complete
    have hB : snapshot.windowsActive ≠ spec.windowsCandidate := hactive ▸ hne
    have hvmKnown : snapshot.vmActive = some spec.vmCandidate ∨
        snapshot.vmCandidate = some spec.vmCandidate :=
      hvm.elim (fun h => .inr h.2.2) (fun h => .inl h.2.1)
    split_ifs with hready hnetwork hboth hnetwork hpart
    · exact ⟨by decide, by simp [JoinStatus.IsComplete, hmoved]⟩
    · exact ⟨by decide, by simp [JoinStatus.IsComplete, hmoved]⟩
    · exact absurd hboth.1 hB
    · exact absurd hboth.1 hB
    · exact ⟨by decide, by simp [JoinStatus.IsComplete, hmoved]⟩
    · exact absurd ⟨.inl hactive, hvmKnown, hvmReceipt, hwindowsReceipt, hprepare⟩ hpart
  · have hA : snapshot.windowsActive ≠ spec.windowsActive := fun h => hne (h.symm.trans hactive)
    rw [if_neg (fun h => hA h.1)]
    rcases hvm with ⟨hvmMoved, hvmActive, hvmCandidate⟩ | ⟨hvmMoved, hvmActive, hvmCandidate, hvmJoin⟩
    · have hvmB : snapshot.vmActive ≠ some spec.vmCandidate := by simp [hvmActive]
      rw [if_neg (fun h => hvmB h.2.2.2.1),
        if_pos ⟨.inr hactive, .inr hvmCandidate, hvmReceipt, hwindowsReceipt, hprepare⟩]
      exact ⟨by decide, by simp [JoinStatus.IsComplete, hvmMoved]⟩
    · rw [if_pos ⟨hactive, hcandidate, hprevious, hvmActive, hvmCandidate, hvmJoin, hjoin, hprepared⟩]
      split_ifs
      · exact ⟨by decide, by simp [JoinStatus.IsComplete, hmoved, hvmMoved]⟩
      · exact ⟨by decide, by simp [JoinStatus.IsComplete, hmoved, hvmMoved]⟩

section Join

variable {spec : ExistingJoinIntent} {original : ExistingJoinBegin} {revision release history : String}
variable {bodies : List String} {windows₀ windows vm₀ vm : StoreWorld}
    {windowsState vmState : LocalCredentialState}
variable {a b c : LocalCredentialBundleRef} {prepared : Bool}

/-- No receipt of the join has been cut short. -/
structure Untruncated (spec : ExistingJoinIntent) (original : ExistingJoinBegin)
    (a b : LocalCredentialBundleRef) (windows vm : StoreWorld) : Prop where
  prepare : ¬ Truncated existingJoinPrepareReceipt (prepareReceiptText spec original a b) windows
  windowsJoin : ¬ Truncated existingJoinReceipt (windowsReceiptText spec) windows
  vmJoin : ¬ Truncated existingJoinReceipt (vmReceiptText spec) vm

theorem ne_promoted {projection : CredentialProjectionKind} {state : LocalCredentialState}
    (hcandidate : state.candidate = some b) : some state ≠ some (promoted projection state b) := by
  intro h
  have hnone := congrArg LocalCredentialState.candidate (Option.some.inj h)
  rw [hcandidate] at hnone
  cases hnone

theorem get_ne_none_of_durable {n text : String} {w : StoreWorld} (h : (rootOf w).Durable n (utf8 text)) :
    ¬ (rootOf w).get n = none := by
  rw [h.get]
  exact nofun

theorem absent_or_right {p : Prop} [Decidable p] {digest : String} {x : Option String}
    (h : x = if p then none else some digest) : x = none ∨ x = some digest := by
  split_ifs at h
  · exact .inl h
  · exact .inr h

theorem SnapshotOf.accounted {snapshot : ExistingJoinSnapshot} (hsnapshot : SnapshotOf windows vm snapshot)
    (hvalid : validate spec revision release = .ok ())
    (hwindows₀ : WindowsStart spec windows₀ windowsState a b) (hvm₀ : VmStart spec vm₀ vmState c)
    (hwindows : WindowsLeft spec original windowsState a b prepared windows) (hvm : VmLeft spec vmState c vm)
    (huncut : Untruncated spec original a b windows vm) :
    Accounted spec (beginDigest original) (intentDigest spec)
      (stored windows = some (promoted .windows windowsState b))
      (stored vm = some (promoted .vm vmState c)) snapshot := by
  obtain ⟨⟨state, active, hstate, hactive, hA, hB, hprevious⟩, ⟨state', hstate', hactive', hB'⟩,
    ⟨found, hfound, hvmJoin⟩, ⟨found', hfound', hwindowsJoin⟩, ⟨found'', hfound'', hprepare⟩, howners⟩ :=
    hsnapshot
  have hstored : some state = stored windows :=
    Except.ok.inj (readState_done hwindows.ready.consistent hstate).1
  have hstored' : some state' = stored vm := Except.ok.inj (readState_done hvm.ready.consistent hstate').1
  -- what each receipt shows
  obtain ⟨hshape, hdigest⟩ := vmReceiptText_digest hvalid
  rw [readback_done (notTruncated_of_leading hvm.join huncut.vmJoin) hshape hfound,
    digest_readback hdigest] at hvmJoin
  obtain ⟨hshape, hdigest⟩ := windowsReceiptText_digest hvalid
  rw [readback_done (notTruncated_of_leading hwindows.join huncut.windowsJoin) hshape hfound',
    digest_readback hdigest] at hwindowsJoin
  obtain ⟨hshape, hdigest⟩ := prepareReceiptText_digest original hvalid hwindows₀.isA hwindows₀.isB
  rw [readback_done (notTruncated_of_leading hwindows.prepare huncut.prepare) hshape hfound'',
    digest_readback hdigest] at hprepare
  refine ⟨howners, ?_, ?_, absent_or_right hwindowsJoin, absent_or_right hvmJoin, absent_or_right hprepare⟩
  · rcases hwindows.pointer with hsame | ⟨hmoved, hdurable⟩
    · left
      rw [hsame, Option.some.injEq] at hstored
      rw [hstored, hwindows₀.active, Option.some.injEq] at hactive
      refine ⟨?_, ?_⟩
      · rw [hsame]
        exact ne_promoted hwindows₀.candidate
      · rw [hA, ← hactive, hwindows₀.isA]
    · right
      have hprepared : prepared = true := by
        by_contra hnot
        rw [hwindows.moved (Bool.eq_false_iff.mpr hnot)] at hmoved
        exact ne_promoted hwindows₀.candidate hmoved
      rw [hmoved, Option.some.injEq] at hstored
      rw [if_neg (get_ne_none_of_durable hdurable)] at hwindowsJoin
      rw [if_neg (get_ne_none_of_durable (hwindows.whole hprepared))] at hprepare
      subst hstored
      cases hactive
      refine ⟨hmoved, hA.trans hwindows₀.isB, hB, ?_, hwindowsJoin, hprepare⟩
      rw [hprevious]
      simp only [promoted, hwindows₀.active, Option.map_some, hwindows₀.isA]
  · rcases hvm.pointer with hsame | ⟨hmoved, hdurable⟩
    · left
      rw [hsame, Option.some.injEq] at hstored'
      refine ⟨?_, ?_, ?_⟩
      · rw [hsame]
        exact ne_promoted hvm₀.candidate
      · rw [hactive', hstored', hvm₀.active]
        rfl
      · rw [hB', hstored', hvm₀.candidate, Option.map_some, hvm₀.isB]
    · right
      rw [hmoved, Option.some.injEq] at hstored'
      rw [if_neg (get_ne_none_of_durable hdurable)] at hvmJoin
      subst hstored'
      refine ⟨hmoved, ?_, hB', hvmJoin⟩
      rw [hactive']
      simp only [promoted, Option.map_some, hvm₀.isB]

/-- The readers of both stores answer, so there is a snapshot to classify. -/
theorem snapshot_exists (hvalid : validate spec revision release = .ok ())
    (hwindows₀ : WindowsStart spec windows₀ windowsState a b)
    (hwindows : WindowsLeft spec original windowsState a b prepared windows) (hvm : VmLeft spec vmState c vm)
    (huncut : Untruncated spec original a b windows vm) (line1 line2 : UInt8) :
    ∃ snapshot, SnapshotOf windows vm snapshot ∧ snapshot.line1AuthenticatedEndpoints = line1 ∧
      snapshot.line2AuthenticatedEndpoints = line2 := by
  have hwindowsState : ∃ state active, stored windows = some state ∧ state.active = some active := by
    rcases hwindows.pointer with hsame | ⟨hmoved, -⟩
    · exact ⟨_, _, hsame, hwindows₀.active⟩
    · exact ⟨_, _, hmoved, rfl⟩
  have hvmState : ∃ state, stored vm = some state := by
    rcases hvm.pointer with hsame | ⟨hmoved, -⟩
    · exact ⟨_, hsame⟩
    · exact ⟨_, hmoved⟩
  obtain ⟨state, active, hstored, hactive⟩ := hwindowsState
  obtain ⟨state', hstored'⟩ := hvmState
  have hread := readState_exists hwindows.ready.consistent
  have hread' := readState_exists hvm.ready.consistent
  rw [hstored] at hread
  rw [hstored'] at hread'
  have hvmJoin : (readExistingJoinReceipt .vm).Done storeSem vm
      (.ok (Credential.readback existingJoinReceipt (vmReceiptText spec) vm)) vm :=
    readback_exists (notTruncated_of_leading hvm.join huncut.vmJoin) (vmReceiptText_digest hvalid).1
  have hwindowsJoin : (readExistingJoinReceipt .windows).Done storeSem windows
      (.ok (Credential.readback existingJoinReceipt (windowsReceiptText spec) windows)) windows :=
    readback_exists (notTruncated_of_leading hwindows.join huncut.windowsJoin)
      (windowsReceiptText_digest hvalid).1
  have hprepare : readWindowsExistingJoinPrepareReceipt.Done storeSem windows
      (.ok (Credential.readback existingJoinPrepareReceipt (prepareReceiptText spec original a b) windows))
        windows :=
    readback_exists (notTruncated_of_leading hwindows.prepare huncut.prepare)
      (prepareReceiptText_digest original hvalid hwindows₀.isA hwindows₀.isB).1
  exact ⟨⟨_, _, _, _, _, _, _, _, true, true, true, line1, line2⟩,
    ⟨⟨state, active, hread, hactive, rfl, rfl, rfl⟩, ⟨state', hread', rfl, rfl⟩, ⟨_, hvmJoin, rfl⟩,
      ⟨_, hwindowsJoin, rfl⟩, ⟨_, hprepare, rfl⟩, rfl, rfl, rfl⟩, rfl, rfl⟩

/-- **Two-host join classification.** Over a journal with the BEGIN and the COMMIT of one join, let both
    stores start as the join found them and go through any turns, cut anywhere. If no receipt was cut short,
    the stores can be read, and `reconcile` classifies every snapshot of them as prepared, partial or
    complete, and as complete exactly if both pointers have been moved. -/
theorem join_classified (hjournal : JoinJournal spec original revision release bodies)
    (hreads : Reads history bodies) (hwindows₀ : WindowsStart spec windows₀ windowsState a b)
    (hvm₀ : VmStart spec vm₀ vmState c)
    (hwindows : WindowsHistory (windowsPreparation spec original a b)
      (windowsPromotion spec) windows₀ prepared windows) (hvm : VmHistory (vmPromotion spec) vm₀ vm)
      (huncut : Untruncated spec original a b windows vm) :
    (∀ line1 line2, ∃ snapshot, SnapshotOf windows vm snapshot ∧
      snapshot.line1AuthenticatedEndpoints = line1 ∧ snapshot.line2AuthenticatedEndpoints = line2) ∧
    ∀ snapshot, SnapshotOf windows vm snapshot →
      ∃ status, reconcile spec history (commitComment spec) revision release snapshot = .ok status ∧
        status.IsKnown ∧
        (status.IsComplete ↔ stored windows = some (promoted .windows windowsState b) ∧
          stored vm = some (promoted .vm vmState c)) := by
  have hwindowsLeft := hwindows.left hjournal.valid hwindows₀
  have hvmLeft := hvm.left hvm₀
  refine ⟨snapshot_exists hjournal.valid hwindows₀ hwindowsLeft hvmLeft huncut, fun snapshot hsnapshot => ?_⟩
  refine ⟨_, hjournal.reconcile hreads snapshot, ?_⟩
  have hne : spec.windowsActive ≠ spec.windowsCandidate := by
    obtain ⟨-, -, ⟨-, -, hgeneration, -⟩, -⟩ := validate_eq_ok.mp hjournal.valid
    exact fun h => hgeneration (congrArg Witness.generation h)
  exact (hsnapshot.accounted hjournal.valid hwindows₀ hvm₀ hwindowsLeft hvmLeft huncut).classify hne

end Join

/-! ### A join in which the VM is ahead -/

def sampleRevision : String := String.ofList (List.replicate 40 'a')

def sampleRelease : String := String.ofList (List.replicate 64 '4')

def sampleBegin : ExistingJoinBegin where
  schema := beginSchema
  runId := 21
  acceptedRevision := sampleRevision
  releaseSetSha256 := sampleRelease
  windowsActive := witness (bundleRef sampleA)
  vmCandidate := witness (bundleRef sampleVm)
  windowsWorkerOriginExact := true
  vmWorkerOriginExact := true
  vmLine2SixAuthenticated := true
  windowsStoppedProxyOnly := true

def sampleIntent : ExistingJoinIntent where
  schema := schema
  runId := 21
  acceptedRevision := sampleRevision
  releaseSetSha256 := sampleRelease
  windowsActive := witness (bundleRef sampleA)
  windowsCandidate := witness (bundleRef sampleB)
  vmCandidate := witness (bundleRef sampleVm)
  windowsWorkerBothExact := true
  windowsStoppedProxyOnly := true
  windowsLine1FourAuthenticated := true
  vmWorkerCandidateExact := true
  vmLine2SixAuthenticated := true

theorem sampleBegin_valid : validateBegin sampleBegin sampleRevision sampleRelease = .ok () := by
  obtain ⟨-, hAV, -⟩ := sample_digests
  exact validateBegin_eq_ok.mpr ⟨⟨rfl, by decide⟩, ⟨rfl, by decide, rfl, by decide⟩,
    ⟨by decide, by decide, sample_generations⟩, ⟨rfl, rfl⟩,
    ⟨isLowerHexText_hex_sha256 _, isLowerHexText_hex_sha256 _, hAV⟩, rfl, rfl, rfl, rfl⟩

theorem sampleIntent_valid : validate sampleIntent sampleRevision sampleRelease = .ok () := by
  refine validate_eq_ok.mpr ⟨⟨rfl, by decide⟩, ⟨by decide, by decide, rfl, rfl⟩,
    ⟨by decide, by decide, sample_generations, (rfl : (2 : UInt64) = 2)⟩, ⟨rfl, rfl, rfl⟩, ?_,
    sample_digests, rfl, rfl, rfl, rfl, rfl⟩
  exact ⟨isLowerHexText_hex_sha256 _, isLowerHexText_hex_sha256 _, isLowerHexText_hex_sha256 _⟩

theorem sample_journal : JoinJournal sampleIntent sampleBegin sampleRevision sampleRelease
    [beginComment sampleBegin, commitComment sampleIntent] := by
  have hbegin := marks_begin sampleBegin_valid
  have hcommit := marks_commit sampleIntent_valid
  refine ⟨sampleIntent_valid, ⟨?_, sampleBegin_valid, rfl, rfl, rfl, rfl, rfl⟩, ?_, ?_⟩
  · exact (hbegin.marked_cons (by decide) _).trans (congrArg (_ :: ·) (hcommit.marked_skip (by decide) []))
  · intro b hb
    rcases List.mem_pair.mp hb with rfl | rfl
    · exact admissible_begin sampleBegin_valid
    · exact admissible_commit sampleIntent_valid
  · exact (hbegin.marked_skip (by decide) _).trans (hcommit.marked_cons (by decide) [])

/-- A Windows store with A active and B staged. -/
theorem sampleWindows_start : ∃ w state, WindowsStart sampleIntent w state (bundleRef sampleA)
    (bundleRef sampleB) := by
  obtain ⟨ts, w, hrun, hstored, habsent⟩ := sampleWindows_staged
  exact ⟨w, _, run_ready ready_provisioned hrun, hstored, rfl, rfl, rfl, rfl, habsent _ (by decide),
    habsent _ (by decide)⟩

/-- A VM store with B staged, and the promotion of it that has gone through. -/
theorem sampleVm_promoted :
    ∃ w state w', VmStart sampleIntent w state (bundleRef sampleVm) ∧
      VmHistory (vmPromotion sampleIntent) w w' ∧
      stored w' = some (promoted .vm state (bundleRef sampleVm)) ∧
      (rootOf w').Durable existingJoinReceipt (utf8 (vmReceiptText sampleIntent)) := by
  obtain ⟨hAB, hAV, hBV⟩ := sample_digests
  obtain ⟨w₁, hstage, hstored₁, habsent₁⟩ := sampleVm_staged
  have hready₁ : Ready .vm w₁ := ready_done ready_provisioned hstage
  have hstart : VmStart sampleIntent w₁ (staged .vm none sampleVm) (bundleRef sampleVm) :=
    ⟨hready₁, hstored₁, rfl, rfl, rfl, habsent₁ _ (by decide)⟩
  let j : JoinWitness :=
    ⟨1, 1, (bundleRef sampleA).sha256, (bundleRef sampleB).sha256, intentDigest sampleIntent⟩
  have hfits : j.Fits (bundleRef sampleVm) :=
    ⟨by decide, sample_generations.symm, by decide,
      ⟨isLowerHexText_hex_sha256 _, isLowerHexText_hex_sha256 _, isLowerHexText_hex_sha256 _⟩,
      hAV.symm, hAB.symm, hBV⟩
  have hsteps := promoteExistingJoin_receipted hready₁ hstored₁ rfl rfl rfl hfits (habsent₁ _ (by decide))
    (habsent₁ _ (by decide)) (habsent₁ _ (by decide))
  obtain ⟨hready, hkept⟩ := ready_receipt hready₁ (n := existingJoinReceipt) (by decide)
    (utf8 (j.text .vm (bundleRef sampleVm)))
  obtain ⟨w₂, hdone, hstored₂, -⟩ := promoteCandidate_exists hready (hkept.trans hstored₁) rfl
  have hpromote : (StoreCall.run .vm (vmPromotion sampleIntent)).Done storeSem w₁ _ w₂ :=
    done_some (hsteps.trans hdone)
  have hhistory : VmHistory (vmPromotion sampleIntent) w₁ w₂ := .promote .start (.done hpromote)
  refine ⟨w₁, _, w₂, hstart, hhistory, hstored₂, ?_⟩
  rcases (hhistory.left hstart).pointer with hsame | ⟨-, hdurable⟩
  · rw [hsame] at hstored₂
    exact absurd hstored₂ (ne_promoted hstart.candidate)
  · exact hdurable

theorem not_truncated_of_absent {n text : String} {w : StoreWorld} (h : (rootOf w).get n = none) :
    ¬ Truncated n text w := by
  rintro ⟨f, hf, -⟩
  rw [h] at hf
  cases hf

/-- The VM has promoted B and Windows has done nothing: the join is partial. -/
theorem join_classified_sample :
    ∃ windows vm snapshot status, SnapshotOf windows vm snapshot ∧
      reconcile sampleIntent (commentsText [beginComment sampleBegin, commitComment sampleIntent])
        (commitComment sampleIntent) sampleRevision sampleRelease snapshot = .ok status ∧
      status.IsKnown ∧ ¬ status.IsComplete := by
  obtain ⟨windows, windowsState, hwindows⟩ := sampleWindows_start
  obtain ⟨vm₀, vmState, vm, hvm₀, hvm, -, hdurable⟩ := sampleVm_promoted
  have huncut : Untruncated sampleIntent sampleBegin (bundleRef sampleA) (bundleRef sampleB) windows vm := by
    refine ⟨not_truncated_of_absent hwindows.prepare, not_truncated_of_absent hwindows.join, ?_⟩
    rintro ⟨f, hf, -, hne⟩
    rw [hdurable.get] at hf
    cases hf
    exact hne rfl
  obtain ⟨hexists, hall⟩ :=
    join_classified sample_journal (reads_commentsText _) hwindows hvm₀ .start hvm huncut
  obtain ⟨snapshot, hsnapshot, -⟩ := hexists 0 6
  obtain ⟨status, hstatus, hknown, hcomplete⟩ := hall snapshot hsnapshot
  refine ⟨windows, vm, snapshot, status, hsnapshot, hstatus, hknown, fun h => ?_⟩
  have hmoved := (hcomplete.mp h).1
  rw [hwindows.stored] at hmoved
  exact ne_promoted hwindows.candidate hmoved

end EdgePlatform.Orchestrator.ExistingJoin
