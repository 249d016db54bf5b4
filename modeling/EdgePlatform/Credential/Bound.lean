import EdgePlatform.Credential.Receipts
import EdgePlatform.Foundation.Within

/-!
# `EdgePlatform.Credential.Bound` — a prepared candidate stays

`prepare_windows_existing_join` binds the Windows candidate B to a join by creating its receipt. From then on
the receipt file exists, whole or torn, and every operation that could take the candidate away looks at it or
at the candidate first: a discard reads the receipt and refuses a whole one as well as an unreadable one, a
staging and a rollback refuse a store that has a candidate. What is left is a promotion, which makes B
active.

A crash before the directory was synced may take the creation of the receipt back; such a store has no
receipt and is not bound.
-/

namespace EdgePlatform.Credential

open Foundation Foundation.Wire Foundation.Proc

/-- The candidate is `b`, and the receipt that binds it exists, whole or torn. -/
structure Bound (b : LocalCredentialBundleRef) (w : StoreWorld) : Prop where
  receipt : (rootOf w).get existingJoinPrepareReceipt ≠ none
  candidate : ∃ state, stored w = some state ∧ state.candidate = some b

/-- The store has been moved on to `b` by a promotion. -/
def Activates (c : StoreCall) (b : LocalCredentialBundleRef) (w : StoreWorld) : Prop :=
  c.Promotes ∧ ∃ state, stored w = some state ∧ state.active = some b

variable {c : StoreCall} {b : LocalCredentialBundleRef} {s w : StoreWorld}

theorem isReceipt_prepare : IsReceipt existingJoinPrepareReceipt := by decide

/-! ## One turn -/

/-- Where the candidate is bound, an admitted change keeps it or makes it active. -/
theorem Admitted.bound {next : Option LocalCredentialState} (h : Admitted .windows c s w next)
    (hs : Bound b s) :
    ∃ state, next = some state ∧ (state.candidate = some b ∨ c.Promotes ∧ state.active = some b) := by
  obtain ⟨current, hcurrent, hcandidate⟩ := hs.candidate
  have htransition := h.transition
  rw [hcurrent] at htransition
  cases htransition with
  | stage _ _ hnone _ =>
    rw [Option.getD_some, hcandidate] at hnone
    cases hnone
  | promote hpromotes hcandidate' _ =>
    rw [hcandidate] at hcandidate'
    cases hcandidate'
    exact ⟨_, rfl, .inr ⟨hpromotes, rfl⟩⟩
  | rollback hnone _ _ =>
    rw [hcandidate] at hnone
    cases hnone
  | discard | clear =>
    -- a discard has seen that there is no receipt
    exact absurd (h.fresh existingJoinPrepareReceipt (by simp [refusedReceipts])) hs.receipt
  | drop => exact ⟨_, rfl, .inl hcandidate⟩

/-- What a reader finds in the store during or after a turn that began with `b` bound. -/
theorem Pointed.bound (h : Pointed .windows c s w) (hs : Bound b s) :
    (∃ state, stored w = some state ∧ state.candidate = some b) ∨ Activates c b w := by
  by_cases hsame : stored w = stored s
  · rw [hsame]
    exact .inl hs.candidate
  · obtain ⟨state, hstate, hkept | ⟨hpromotes, hactive⟩⟩ := (h.changed hsame).bound hs
    · exact .inl ⟨state, hstate, hkept⟩
    · exact .inr ⟨hpromotes, state, hstate, hactive⟩

theorem Bound.present (h : Bound b w) (hw : Ready .windows w) :
    (rootOf w).Present existingJoinPrepareReceipt := by
  intro hnone
  exact h.receipt (hw.quiet .root existingJoinPrepareReceipt none hnone).1.symm

theorem bound_outcome (hs : Ready .windows s) (hb : Bound b s)
    (hout : (storeSystem .windows).Outcome c s w) :
    Bound b w ∨ Activates c b w := by
  have hpresent := present_outcome isReceipt_prepare hs (hb.present hs) hout
  rcases (pointed_outcome hs hout).bound hb with hkept | hactive
  · exact .inl ⟨hpresent.get_ne, hkept⟩
  · exact .inr hactive

/-! ## Whole runs -/

/-- A bound candidate stays the candidate until one turn of the run promotes it. -/
theorem bound_run {ts : List (storeSystem .windows).Turn} (hs : Ready .windows s) (hb : Bound b s)
    (hrun : (storeSystem .windows).Run s ts w) :
    Bound b w ∨ ∃ t ∈ ts, Bound b t.before ∧ Activates t.call b t.after := by
  induction hrun with
  | nil => exact .inl hb
  | @snoc ts w w' c hr hout ih =>
    rcases ih with hbound | ⟨t, ht, hactive⟩
    · rcases bound_outcome (run_ready hs hr) hbound hout with hkept | hactive
      · exact .inl hkept
      · exact .inr ⟨⟨c, w, w'⟩, by simp, hbound, hactive⟩
    · exact .inr ⟨t, List.mem_append_left _ ht, hactive⟩

/-! ## Refusals -/

section Refusals

variable {α β : Type}

/-- The call fails and has changed nothing. -/
def Refused (s : StoreWorld) (r : Except String α) (w : StoreWorld) : Prop := (∃ e, r = .error e) ∧ w = s

theorem refused_error (e : String) : Refused (α := α) s (.error e) s := ⟨⟨e, rfl⟩, rfl⟩

theorem refused_mapped {p : StoreProc α} {f : α → β} (h : StoreSafe .windows c s p (Refused s) s) :
    StoreSafe .windows c s (f <$> p) (Refused s) s := by
  refine safe_bind.mpr (h.post ?_)
  rintro r w ⟨⟨e, rfl⟩, hw⟩
  exact ⟨⟨e, rfl⟩, hw⟩

theorem discard_refused (hb : Bound b s) : StoreSafe .windows .discard s (discardCandidate .windows)
    (Refused s) s := by
  refine safe_refuseReceipt refused_error fun habsent => ?_
  exact absurd habsent hb.receipt

theorem rollback_refused (hs : Ready .windows s) (hb : Bound b s) :
    StoreSafe .windows .rollback s (rollbackPrevious .windows) (Refused s) s := by
  obtain ⟨current, hcurrent, hcandidate⟩ := hb.candidate
  refine safe_readState hs.consistent (Safe.check refused_error fun state hstate => ?_)
  rw [okOr_eq_ok, hcurrent, Option.some.injEq] at hstate
  subst hstate
  refine Safe.check refused_error fun _ hnone => ?_
  rw [rejectIf_eq_ok, not_not, hcandidate] at hnone
  cases hnone

/-- A staging is refused, unless it stages the candidate itself once more. -/
theorem stage_refused (hs : Ready .windows s) (hb : Bound b s) {bundle : CredentialDeliveryBundle}
    (hne : localCredentialBundleRef bundle ≠ .ok b) :
    StoreSafe .windows c s (stageCandidate .windows bundle) (Refused s) s := by
  obtain ⟨current, hcurrent, hcandidate⟩ := hb.candidate
  refine Safe.check refused_error fun _ _ => Safe.check refused_error fun _ _ => ?_
  refine Safe.check refused_error fun candidate href => safe_readState hs.consistent ?_
  rw [hcurrent]
  refine Safe.check refused_error fun _ _ => ?_
  simp only [Option.getD_some, hcandidate]
  refine Safe.check refused_error fun _ hsame => ?_
  rw [rejectIf_eq_ok, not_not] at hsame
  subst hsame
  exact absurd href hne

theorem stageDelivery_refused (hs : Ready .windows s) (hb : Bound b s) {delivery : CredentialDeliveryBundle}
    (hne : ∀ active bundle, materializeCredentialDeliveryCandidate active delivery = .ok bundle →
      localCredentialBundleRef bundle ≠ .ok b) :
    StoreSafe .windows c s (stageDeliveryCandidate .windows delivery) (Refused s) s := by
  have hrest : ∀ active, StoreSafe .windows c s
      ((liftM (materializeCredentialDeliveryCandidate active delivery) :
        StoreProc CredentialDeliveryBundle) >>=
        stageCandidate .windows) (Refused s) s := fun active =>
    Safe.check refused_error fun bundle hbundle => stage_refused hs hb (hne active bundle hbundle)
  obtain ⟨current, hcurrent, -⟩ := hb.candidate
  refine safe_readState hs.consistent ?_
  rw [hcurrent]
  cases hactive : current.active with
  | none =>
    simp only [Option.bind_some, hactive]
    exact hrest none
  | some r =>
    simp only [Option.bind_some, hactive]
    refine safe_bind.mpr (safe_readBundle_backed (hs.consistent.sound hcurrent).backed
      (mem_references_active hactive) fun bundle => ?_)
    exact hrest (some bundle)

end Refusals

/-- The calls that would take the candidate away or replace it. -/
inductive Replaces (b : LocalCredentialBundleRef) : StoreCall → Prop
  | discard : Replaces b .discard
  | rollback : Replaces b .rollback
  | stage {bundle : CredentialDeliveryBundle} : localCredentialBundleRef bundle ≠ .ok b →
    Replaces b (.stage bundle)
  | stageDelivery {delivery : CredentialDeliveryBundle} :
      (∀ active bundle, materializeCredentialDeliveryCandidate active delivery = .ok bundle →
        localCredentialBundleRef bundle ≠ .ok b) → Replaces b (.stageDelivery delivery)

variable {r : Except String (Option LocalCredentialState)} {source : LocalCredentialBundleRef}

theorem replaces_refused (hs : Ready .windows s) (hb : Bound b s)
    (hc : Replaces b c) (hdone : (c.run .windows).Done storeSem s r w) : Refused s r w := by
  cases hc with
  | discard => exact (discard_refused hb).done hdone
  | rollback => exact (refused_mapped (rollback_refused hs hb)).done hdone
  | @stage bundle hne => exact (refused_mapped (c := .stage bundle) (stage_refused hs hb hne)).done hdone
  | @stageDelivery delivery hne =>
    exact (refused_mapped (c := .stageDelivery delivery) (stageDelivery_refused hs hb hne)).done hdone

/-! ## The preparation -/

/-- The operations that only look. -/
def Looking : (fsSig StoreDir noOwn).Op → Prop
  | .dir _ o => DirOp.Looks o
  | .own _ => False

theorem Looking.same {op : (fsSig StoreDir noOwn).Op} {a : (fsSig StoreDir noOwn).Ans op} {w' : StoreWorld}
    (h : Looking op) (hop : storeSem op w a w') : w' = w := by
  cases op with
  | own x => exact x.elim
  | dir i o =>
    obtain ⟨d', hd, rfl⟩ := hop
    have hsame : d' = w.dirs i := by
      cases h <;> exact hd.2
    rw [hsame, FsWorld.setDir_self]

theorem within_readBundles (projection : CredentialProjectionKind) (rs : List LocalCredentialBundleRef) :
    (readBundles projection rs).Within Looking := by
  induction rs with
  | nil => trivial
  | cons r rs ih =>
    refine Within.bind (Within.bind (within_readOr (.read _)) fun bytes => ?_) fun _ => ih
    refine Within.lift_bind fun _ _ => ?_
    exact Within.lift_bind fun _ _ => trivial

theorem within_readState (projection : CredentialProjectionKind) :
    (readState projection).Within Looking := by
  refine ⟨.read _, fun answer => ?_⟩
  cases answer with
  | none => trivial
  | some bytes =>
    refine Within.lift_bind fun _ _ => ?_
    refine Within.lift_bind fun _ _ => ?_
    exact Within.bind (within_readBundles projection _) fun _ => trivial

/-- A preparation for another bundle than the candidate only looks. -/
theorem prepare_looks {candidate : LocalCredentialBundleRef} {vm begin : String}
    {p : StoreProc (Option LocalCredentialState)} (hs : Ready .windows s)
    (hother : ∀ state, stored s = some state → state.candidate ≠ some candidate)
    (hsteps : (StoreCall.run .windows (.prepareWindowsJoin source candidate vm begin)).Steps storeSem s p
      w) : w = s := by
  have hread : StoreSafe .windows .discard s (readState .windows)
      (fun r w => r = .ok (stored s) ∧ w = s) s := by
    have h := safe_readState (c := .discard) (s := s) (k := pure)
        (Q := fun r w => r = .ok (stored s) ∧ w = s)
      hs.consistent ⟨rfl, rfl⟩
    exact safe_bind.mp h |>.post fun r w hr => by cases r <;> exact hr
  have hsafe : Safe storeSem (fun op _ => Looking op)
      (prepareWindowsExistingJoin .windows source candidate vm begin >>= fun _ => pure none)
      (fun (_ : Except String (Option LocalCredentialState)) _ => True) s := by
    refine safe_bind.mpr (Safe.check (fun _ => trivial) fun _ _ => ?_)
    refine Safe.bind (hread.within (within_readState .windows)) (fun found w h => ?_) fun _ _ _ => trivial
    obtain ⟨hfound, rfl⟩ := h
    obtain rfl : found = stored w := Except.ok.inj hfound
    refine Safe.check (fun _ => trivial) fun state hstate => ?_
    refine Safe.check (fun _ => trivial) fun _ hmatch => ?_
    rw [rejectIf_eq_ok] at hmatch
    simp only [not_or, not_not] at hmatch
    exact absurd hmatch.2.1 (hother state (okOr_eq_ok.mp hstate))
  exact hsafe.invariant (I := fun w => w = s) (fun op w a w' hg hw hop => (hg.same hop).trans hw) rfl hsteps

/-- A turn of the preparation that leaves its receipt leaves the candidate bound. -/
theorem bound_of_prepare {vm begin : String} (hs : Ready .windows s)
    (hout : (storeSystem .windows).Outcome (.prepareWindowsJoin source b vm begin) s w)
    (hfresh : (rootOf s).get existingJoinPrepareReceipt = none)
    (hmade : (rootOf w).get existingJoinPrepareReceipt ≠ none) : Bound b w := by
  have hcandidate : ∃ state, stored s = some state ∧ state.candidate = some b := by
    by_contra hnot
    have hother : ∀ state, stored s = some state → state.candidate ≠ some b :=
      fun state hstate hb => hnot ⟨state, hstate, hb⟩
    refine hmade ?_
    cases hout with
    | done hdone => rw [prepare_looks hs hother hdone, hfresh]
    | cut hsteps hcrash =>
      -- what was cut had changed nothing, and a crash of a quiet directory leaves it as it is
      obtain rfl := prepare_looks hs hother hsteps
      obtain ⟨v, hv, htorn⟩ := hcrash.1.entry existingJoinPrepareReceipt
      rw [(hs.quiet .root existingJoinPrepareReceipt v hv).1, hfresh] at htorn
      generalize (rootOf w).get existingJoinPrepareReceipt = found at htorn ⊢
      cases htorn
      rfl
  obtain ⟨state, hstate, hb⟩ := hcandidate
  refine ⟨hmade, state, ?_, hb⟩
  refine unchanged_outcome hs hstate (fun next htransition => ?_) hout
  cases htransition with
  | stage hstages _ _ _ => rcases hstages with h | ⟨_, _, h, _⟩ <;> cases h
  | promote hpromotes _ _ => exact hpromotes

def sampleWindows (generation : UInt64) (slot : CredentialDeliverySlot) : CredentialDeliveryBundle :=
  ⟨1, generation, toI32 CredentialProjectionKind.windows, false, toI32 slot,
    some (.windows ⟨some ⟨generation, some sampleTunnel, some sampleTunnel⟩,
      some ⟨generation, some ⟨sampleKey⟩, some ⟨sampleKey⟩⟩⟩)⟩

def sampleA : CredentialDeliveryBundle := sampleWindows 1 .a

def sampleB : CredentialDeliveryBundle := sampleWindows 2 .b

def sampleC : CredentialDeliveryBundle := sampleWindows 3 .a

theorem sample_generations : (1 : UInt64) ≠ 2 := by decide

/-- The state of a Windows store with A active and B staged. -/
def sampleState : LocalCredentialState :=
  ⟨1, toI32 CredentialProjectionKind.windows, some (bundleRef sampleA), some (bundleRef sampleB), none⟩

/-- A is staged and promoted, B is staged. -/
def sampleCalls : List StoreCall := [.stage sampleA, .promote, .stage sampleB]

/-- The preparation for B, with some BEGIN. -/
def samplePrepare : StoreCall :=
  .prepareWindowsJoin (bundleRef sampleA) (bundleRef sampleB)
    (bundleRef sampleVm).sha256 sampleTunnel.hysteria2Password

/-- The receipt of that preparation. -/
def samplePrepareText : String :=
  existingJoinPrepareText .windows (bundleRef sampleA) (bundleRef sampleB) (bundleRef sampleVm).sha256
    sampleTunnel.hysteria2Password

/-- The store where the preparation has just created its receipt. -/
def sampleCut : StoreWorld := reach .windows 8 samplePrepare (after .windows sampleCalls)

/-- The state with B active and C staged. -/
def sampleLater : LocalCredentialState :=
  ⟨1, toI32 CredentialProjectionKind.windows, some (bundleRef sampleB), some (bundleRef sampleC), none⟩

/-- A is active, B is staged, prepared and joined, A is dropped and C is staged. -/
def sampleJoined : List StoreCall :=
  sampleCalls ++ [samplePrepare,
    .promoteWindowsJoin 2 (toI32 CredentialDeliverySlot.b)
      (bundleRef sampleA).sha256 (bundleRef sampleB).sha256
      (bundleRef sampleVm).sha256 sampleTunnel.hysteria2Password,
    .drop, .stage sampleC]

/-- What these calls leave. -/
theorem sample_checked :
    ((bundleRef sampleA).sha256 ≠ (bundleRef sampleB).sha256 ∧
      (bundleRef sampleA).sha256 ≠ (bundleRef sampleVm).sha256 ∧
      (bundleRef sampleB).sha256 ≠ (bundleRef sampleVm).sha256) ∧
    (stored (after .windows sampleCalls) = some sampleState ∧
      ∀ n, IsReceipt n → (rootOf (after .windows sampleCalls)).get n = none) ∧
    (rootOf sampleCut.settle).read existingJoinPrepareReceipt = some [] ∧
    (rootOf (after .windows sampleJoined)).read existingJoinPrepareReceipt = some (utf8 samplePrepareText) ∧
    stored (after .windows sampleJoined) = some sampleLater := by
  decide +kernel

theorem sample_digests : (bundleRef sampleA).sha256 ≠ (bundleRef sampleB).sha256 ∧
    (bundleRef sampleA).sha256 ≠ (bundleRef sampleVm).sha256 ∧
    (bundleRef sampleB).sha256 ≠ (bundleRef sampleVm).sha256 := sample_checked.1

theorem sampleWindows_staged : ∃ ts w, (storeSystem .windows).Run provisionedStore ts w ∧
    stored w = some sampleState ∧ ∀ n, IsReceipt n → (rootOf w).get n = none := by
  obtain ⟨ts, hrun⟩ := run_after sampleCalls
  exact ⟨ts, _, hrun, sample_checked.2.1⟩

end EdgePlatform.Credential
