import EdgePlatform.Credential.Runs

/-!
# `EdgePlatform.Credential.Exclusion` — the two ways a VM store gets its first active bundle

A VM candidate becomes active by a first-use promotion (the initial commit or its recovery) or by an
existing-active join. The join refuses a store with a first-use receipt, whole or torn, so an attempted first
use excludes the join for good. The converse check is missing: the first-use promotions never look at the
join's receipt. They are kept out only by the active bundle a *completed* join leaves; a join that was cut
between its receipt and the pointer change leaves a candidate that a first-use promotion takes.
-/

namespace EdgePlatform.Credential

open Foundation Foundation.Wire Foundation.Proc

inductive PromotionFamily
  | firstUse | existingJoin
deriving DecidableEq

def OneShot.family : OneShot → PromotionFamily
  | .initialPaired | .initialRecovery => .firstUse
  | .existingJoin | .windowsJoin => .existingJoin

def PromotionFamily.receipts : PromotionFamily → List String
  | .firstUse => [initialPairCommitReceipt, initialPairRecoveryReceipt]
  | .existingJoin => [existingJoinReceipt]

/-- A receipt of the family exists, complete or torn. -/
def Attempted (family : PromotionFamily) (w : StoreWorld) : Prop :=
  ∃ n ∈ family.receipts, (rootOf w).get n ≠ none

/-- A promotion of the family can change the stored pointer: a reader can find it changed during the call,
    after it, or after a crash. -/
def CanChange (projection : CredentialProjectionKind) (family : PromotionFamily) (w : StoreWorld) : Prop :=
  ∃ c k, StoreCall.oneShot c = some k ∧ k.family = family ∧
    ((∃ p m, (c.run projection).Steps storeSem w p m ∧ stored m ≠ stored w) ∨
      ∃ w', (storeSystem projection).Outcome c w w' ∧ stored w' ≠ stored w)

/-- A candidate is staged and nothing is active. -/
def Undecided (w : StoreWorld) : Prop :=
  ∃ state candidate, stored w = some state ∧ state.active = none ∧ state.candidate = some candidate

variable {projection : CredentialProjectionKind} {w : StoreWorld}

/-- A pointer change by a family is an admitted change of one of its promotions, which issued a step. -/
theorem CanChange.admitted {family : PromotionFamily} (hw : Ready projection w)
    (h : CanChange projection family w) :
    ∃ c k m, StoreCall.oneShot c = some k ∧ k.family = family ∧ Admitted projection c w m (stored m) ∧
      ∀ e, c.run projection ≠ .fail e := by
  obtain ⟨c, k, hc, hk, hchange⟩ := h
  -- a call that fails at once changes nothing
  have hfails : ∀ e m p, c.run projection = .fail e → (c.run projection).Steps storeSem w p m → m = w := by
    intro e m p he hsteps
    rw [he] at hsteps
    cases hsteps
    rfl
  rcases hchange with ⟨p, m, hsteps, hne⟩ | ⟨w', hout, hne⟩
  · refine ⟨c, k, m, hc, hk, (pointed_steps hw hsteps).changed hne, fun e he => hne ?_⟩
    rw [hfails e m p he hsteps]
  · refine ⟨c, k, w', hc, hk, (pointed_outcome hw hout).changed hne, fun e he => hne ?_⟩
    cases hout with
    | done hdone => rw [hfails e _ _ he hdone]
    | cut hsteps hcrash =>
      obtain rfl := hfails e _ _ he hsteps
      -- a crash of a quiet store leaves its pointer
      have hget := hw.consistent.crash_get (hw.housed.fsCrash_of hcrash)
      simp only [stored, Dir.read, (hw.quiet .root stateFile _ hget).1]

/-- The Windows half of a join is refused by a VM store at once. -/
theorem promoteWindowsJoin_vm (generation : UInt64) (slot : Int32) (active candidate vm intent : String) :
    ∃ e, StoreCall.run .vm (.promoteWindowsJoin generation slot active candidate vm intent) = .fail e :=
  ⟨_, rfl⟩

/-- An attempted first use excludes the join. -/
theorem not_canChange_join (hw : Ready .vm w) (h : Attempted .firstUse w) :
    ¬ CanChange .vm .existingJoin w := by
  intro hchange
  obtain ⟨c, k, m, hc, hk, hadmitted, hissued⟩ := hchange.admitted hw
  obtain ⟨n, hn, hpresent⟩ := h
  cases c with
  | promoteExistingJoin =>
    refine hpresent (hadmitted.fresh n ?_)
    simp only [PromotionFamily.receipts, List.mem_cons, List.not_mem_nil, or_false] at hn
    rcases hn with rfl | rfl <;> simp [refusedReceipts]
  | promoteWindowsJoin generation slot active candidate vm intent =>
    obtain ⟨e, he⟩ := promoteWindowsJoin_vm generation slot active candidate vm intent
    exact hissued e he
  | promoteInitialPaired | recoverInitialPaired =>
    cases hc
    cases hk
  | _ => cases hc

/-- A first-use promotion needs a candidate and no active bundle. -/
theorem undecided_of_canChange (hw : Ready projection w)
    (h : CanChange projection .firstUse w) : Undecided w := by
  obtain ⟨c, k, m, hc, hk, hadmitted, -⟩ := h.admitted hw
  have hfirst : c.IsFirst := by
    cases c <;> first | trivial | (cases hc; cases hk)
  have htransition := hadmitted.transition
  generalize hcurrent : stored w = current at htransition
  generalize stored m = next at htransition
  cases htransition with
  | stage hstages _ _ _ => rcases hstages with rfl | ⟨_, _, rfl, _⟩ <;> cases hc
  | @promote _ state candidate _ hcandidate hactive =>
    exact ⟨state, candidate, hcurrent, hactive hfirst, hcandidate⟩
  | rollback | discard | clear | drop => cases hc

/-- Where no first use was attempted, an undecided store takes one. -/
theorem canChange_of_undecided (hw : Ready projection w) (hundecided : Undecided w)
    (hfresh : ¬ Attempted .firstUse w) : CanChange projection .firstUse w := by
  obtain ⟨state, candidate, hstate, hactive, hcandidate⟩ := hundecided
  have hwellFormed := (hw.consistent.sound hstate).wellFormed
  have hprevious : state.previous = none := by
    by_contra hprevious
    exact hwellFormed.previous_active hprevious hactive
  have hslot : isSlot candidate.slot = true := by
    rcases hwellFormed.slot (mem_references_candidate hcandidate) with h | h <;> rw [h] <;> decide
  have habsent : ∀ n ∈ PromotionFamily.firstUse.receipts, (rootOf w).get n = none := fun n hn => by
    by_contra hne
    exact hfresh ⟨n, hn, hne⟩
  have hintent : validFirstUseDigest sampleTunnel.hysteria2Password = true := by decide
  obtain ⟨w', hdone, hstored⟩ := promoteInitial_done hw hstate hactive hprevious hcandidate hslot hintent
    (habsent _ (by simp [PromotionFamily.receipts])) (habsent _ (by simp [PromotionFamily.receipts]))
  refine ⟨_, .initialPaired, rfl, rfl, .inl ⟨_, w', hdone, ?_⟩⟩
  rw [hstored, hstate]
  intro hsame
  have hactive' := congrArg (Option.map LocalCredentialState.active) hsame
  simp [promoted, hactive] at hactive'

/-- **Exclusion of the families.** In every VM store a run can reach, an attempted first use keeps the join
    from changing the pointer. An attempted join keeps the first-use promotions from changing it unless the
    store is left undecided; and there, if no first use was attempted, one of them does change it. -/
theorem families_exclude (ts : List (storeSystem .vm).Turn) (w : StoreWorld)
    (hrun : (storeSystem .vm).Run provisionedStore ts w) :
    (Attempted .firstUse w → ¬ CanChange .vm .existingJoin w) ∧
      (Attempted .existingJoin w → ¬ Undecided w → ¬ CanChange .vm .firstUse w) ∧
      (Attempted .existingJoin w → ¬ Attempted .firstUse w → Undecided w → CanChange .vm .firstUse w) := by
  have hw := run_ready ready_provisioned hrun
  refine ⟨not_canChange_join hw, fun _ hdecided hchange => ?_, fun _ hfresh hundecided => ?_⟩
  · exact hdecided (undecided_of_canChange hw hchange)
  · exact canChange_of_undecided hw hundecided hfresh

/-! ## A join cut between its receipt and its pointer change -/

/-- Witnesses of a join that fit the sample candidate. -/
def sampleJoin : JoinWitness :=
  ⟨1, 1, sampleTunnel.hysteria2Password, "bbbbbbbbbbbbbbbbbbbbbbbbbbbbbbbbbbbbbbbbbbbbbbbbbbbbbbbbbbbbbbbb",
    "cccccccccccccccccccccccccccccccccccccccccccccccccccccccccccccccc"⟩

theorem sampleVm_sha256 :
    (bundleRef sampleVm).sha256 = "686535b09a7d9624592848cd947ad5df72dea02605bacf93abc125525af66f1d" := by
  decide +kernel

theorem sampleJoin_fits : sampleJoin.Fits (bundleRef sampleVm) where
  sourceGeneration := by decide
  generation := by decide
  slots := by decide
  digests := by decide
  distinct := by
    rw [sampleVm_sha256]
    decide

def sampleJoinCall : StoreCall :=
  .promoteExistingJoin (bundleRef sampleVm).generation (bundleRef sampleVm).slot (bundleRef sampleVm).sha256
    sampleJoin.sourceGeneration sampleJoin.sourceSlot sampleJoin.source sampleJoin.windowsCandidate
      sampleJoin.intent

/-- A VM store with a staged candidate, and the join of it up to its receipt. -/
theorem sampleJoin_receipted :
    ∃ w, (StoreCall.run .vm (.stage sampleVm)).Done storeSem provisionedStore
      (.ok (some (staged .vm none sampleVm))) w ∧ stored w = some (staged .vm none sampleVm) ∧
        (∀ n, IsReceipt n → (rootOf w).get n = none) ∧
      (promoteExistingActiveJoin .vm (bundleRef sampleVm).generation (bundleRef sampleVm).slot
        (bundleRef sampleVm).sha256 sampleJoin.sourceGeneration sampleJoin.sourceSlot sampleJoin.source
        sampleJoin.windowsCandidate sampleJoin.intent).Steps storeSem w (promoteCandidate .vm)
        (receipted w existingJoinReceipt (sampleJoin.text .vm (bundleRef sampleVm))) := by
  obtain ⟨w, hdone, hstored, hreceipts⟩ := sampleVm_staged
  refine ⟨w, hdone, hstored, hreceipts, ?_⟩
  exact promoteExistingJoin_receipted (run_ready ready_provisioned (run_done .nil hdone)) hstored rfl rfl rfl
    sampleJoin_fits (hreceipts _ (by decide)) (hreceipts _ (by decide)) (hreceipts _ (by decide))

/-- **The missing check.** A join is cut between its receipt and its pointer change; a first-use promotion
    then takes the candidate, in spite of the join's receipt. -/
theorem firstUse_after_cut_join :
    ∃ ts w, (storeSystem .vm).Run provisionedStore ts w ∧ Attempted .existingJoin w ∧
      CanChange .vm .firstUse w := by
  obtain ⟨w, hdone, hstored, hreceipts, hsteps⟩ := sampleJoin_receipted
  have hw : Ready .vm w := ready_done ready_provisioned hdone
  have hrun := run_cut (c := sampleJoinCall) (run_done .nil hdone) (Steps.bind hsteps _)
    (ready_receipt hw (by decide) _).1.housed
  refine ⟨_, _, hrun, ⟨existingJoinReceipt, by simp [PromotionFamily.receipts], ?_⟩, ?_⟩
  · exact mt Dir.get_settle_eq_none.mp (by simp [get_receipted])
  · refine canChange_of_undecided (run_ready ready_provisioned hrun) ?_ ?_
    · refine ⟨staged .vm none sampleVm, bundleRef sampleVm, ?_, rfl, rfl⟩
      rw [stored_settle]
      exact (ready_receipt (run_ready ready_provisioned (run_done .nil hdone)) (by decide) _).2.trans hstored
    · rintro ⟨n, hn, hpresent⟩
      have hreceipt : IsReceipt n ∧ n ≠ existingJoinReceipt := by
        simp only [PromotionFamily.receipts, List.mem_cons, List.not_mem_nil, or_false] at hn
        rcases hn with rfl | rfl <;> decide
      refine hpresent (Dir.get_settle_eq_none.mpr ?_)
      rw [get_receipted, if_neg hreceipt.2, hreceipts n hreceipt.1]

/-- A first use cut after its receipt keeps the join out; a completed join keeps the first-use promotions
out. -/
theorem families_exclude_sample :
    (∃ ts w, (storeSystem .vm).Run provisionedStore ts w ∧ Attempted .firstUse w ∧
      ¬ CanChange .vm .existingJoin w) ∧ ∃ ts w, (storeSystem .vm).Run provisionedStore ts w ∧
      Attempted .existingJoin w ∧ ¬ Undecided w ∧
        ¬ CanChange .vm .firstUse w := by
  obtain ⟨w, hdone, hstored, hreceipts, hsteps⟩ := sampleJoin_receipted
  have hw := run_ready ready_provisioned (run_done .nil hdone)
  constructor
  · have hfirst := promoteInitial_receipted hw hstored rfl rfl rfl (by decide)
      sampleJoin_fits.digests.2.2 (hreceipts _ (by decide)) (hreceipts _ (by decide))
    have hrun := run_cut (c := .promoteInitialPaired _ _ _) (run_done .nil hdone) (Steps.bind hfirst _)
      (ready_receipt hw (by decide) _).1.housed
    have hattempted : Attempted .firstUse (receipted w initialPairCommitReceipt (initialPairText .vm
        (bundleRef sampleVm).generation (bundleRef sampleVm).slot sampleJoin.intent)).settle :=
      ⟨initialPairCommitReceipt, by simp [PromotionFamily.receipts],
        mt Dir.get_settle_eq_none.mp (by simp [get_receipted])⟩
    exact ⟨_, _, hrun, hattempted, (families_exclude _ _ hrun).1 hattempted⟩
  · obtain ⟨hready, hkept⟩ := ready_receipt hw (n := existingJoinReceipt) (by decide)
      (utf8 (sampleJoin.text .vm (bundleRef sampleVm)))
    obtain ⟨w', hpromoted, hstored', -⟩ := promoteCandidate_exists hready (hkept.trans hstored) rfl
    have hcall : (StoreCall.run .vm sampleJoinCall).Done storeSem w _ w' :=
      done_some (hsteps.trans hpromoted)
    have hrun := run_done (run_done .nil hdone) hcall
    have hchanged : stored w' ≠ stored w := by
      rw [hstored', hstored]
      simp [promoted, staged]
    have hattempted : Attempted .existingJoin w' := by
      obtain ⟨_, _, -, -, hdurable⟩ := ((pointed_steps hw hcall).changed hchanged).receipt .existingJoin rfl
      exact ⟨existingJoinReceipt, by simp [PromotionFamily.receipts], hdurable.present.get_ne⟩
    have hdecided : ¬ Undecided w' := by
      rintro ⟨state, candidate, hstate, hactive, -⟩
      rw [hstored'] at hstate
      cases hstate
      simp [promoted] at hactive
    exact ⟨_, w', hrun, hattempted, hdecided, (families_exclude _ _ hrun).2.1 hattempted hdecided⟩

end EdgePlatform.Credential
