import EdgePlatform.Credential.Protocol
import EdgePlatform.Foundation.Progress

/-!
# `EdgePlatform.Credential.Success` — store operations that go through

`Credential.Protocol` says what an operation may do; this module says that it does it. A promotion of a
staged candidate, and a one-shot promotion whose arguments describe the candidate and whose receipts are
absent, have executions that succeed. For the one-shot promotions the execution is given up to the point
between the receipt and the pointer change, where a crash leaves the store with its receipt and its old
pointer.

On a concrete store the calls are carried out: `perform` runs one to its end and `reach` for a number of
operations, and what they compute is an execution of the model.
-/

namespace EdgePlatform.Credential

open Foundation Foundation.Wire Foundation.Proc

variable {projection : CredentialProjectionKind} {w w' s : StoreWorld}

theorem storeSem_total (op : (fsSig StoreDir noOwn).Op) (w : StoreWorld) : ∃ a w', storeSem op w a w' :=
  fsSem_total (fun (x : noOwn.Op) => x.elim) op w

/-! ## Reading -/

variable {r : Except String (Option LocalCredentialState)} {state current : LocalCredentialState}
variable {candidate : LocalCredentialBundleRef} {bundle : CredentialDeliveryBundle}
variable {ts : List (storeSystem projection).Turn}

/-- Reading a consistent store answers the stored state and changes nothing. -/
theorem readState_done (hw : Consistent projection w)
    (h : (readState projection).Done storeSem w r w') : r = .ok (stored w) ∧ w' = w := by
  have hsafe : StoreSafe projection .promote w (readState projection)
      (fun r w' => r = .ok (stored w) ∧ w' = w) w :=
    Safe.of_bind_pure (safe_readState hw ⟨rfl, rfl⟩)
  exact hsafe.done h

theorem readState_exists (hw : Consistent projection w) :
    (readState projection).Done storeSem w (.ok (stored w)) w := by
  obtain ⟨r, w', hdone⟩ := Proc.exists_done storeSem_total (readState projection) w
  obtain ⟨rfl, rfl⟩ := readState_done hw hdone
  exact hdone

theorem readBundle_exists {r : LocalCredentialBundleRef}
    (hbacked : Backed projection w state) (hr : r ∈ state.references) :
    ∃ bundle, (readBundle projection r).Done storeSem w (.ok bundle) w := by
  have hsafe : StoreSafe projection .promote w (readBundle projection r)
      (fun a w' => (∃ bundle, a = .ok bundle) ∧ w' = w) w :=
    Safe.of_bind_pure (safe_readBundle_backed hbacked hr fun bundle => ⟨⟨bundle, rfl⟩, rfl⟩)
  obtain ⟨a, w', hdone, ⟨bundle, rfl⟩, rfl⟩ := hsafe.exists_done storeSem_total
  exact ⟨bundle, hdone⟩

theorem readReceipt_exists {name unreadable malformed : String} {wellFormed : List String → Bool}
    (h : (rootOf w).get name = none) :
    (readReceipt name unreadable malformed wellFormed).Done storeSem w (.ok none) w := by
  have hread : storeSem (.dir .root (.read name)) w none w :=
    ⟨rootOf w, ⟨by simp [Dir.read, h], rfl⟩, by simp⟩
  exact .step hread (.refl _ _)

theorem writeReceipt_exists {n text taken : String} (h : (rootOf w).get n = none) :
    (writeReceipt n text taken).Done storeSem w (.ok ())
      (w.setDir .root ((rootOf w).install n (utf8 text))) := by
  have hsafe : Safe storeSem (fun _ _ => True) (writeReceipt n text taken)
      (fun r w' => r = .ok () ∧ w' = w.setDir .root ((rootOf w).install n (utf8 text))) w := by
    refine safe_durableCreate (fun _ => trivial) trivial (fun _ _ _ => trivial) (fun _ _ _ => trivial) ?_
      fun _ => ⟨rfl, rfl⟩
    intro f hf
    rw [h] at hf
    cases hf
  obtain ⟨r, w', hdone, rfl, rfl⟩ := hsafe.exists_done storeSem_total
  exact hdone

/-! ## Promotion -/

/-- The state after the promotion of an acceptable state is acceptable. -/
theorem WellFormed.promoted (h : WellFormed current) (howner : current.projection = toI32 projection)
    (hcandidate : current.candidate = some candidate) :
    WellFormed (promoted projection current candidate) where
  schema := rfl
  projection := by
    obtain ⟨kind, hkind, heq⟩ := h.projection
    exact ⟨kind, hkind, by rw [← heq, howner]; rfl⟩
  nonempty := by simp [Credential.promoted]
  previous_active := by simp [Credential.promoted]
  exclusive := by simp [Credential.promoted]
  valid r hr := by
    simp only [Credential.promoted, LocalCredentialState.references, Option.toList_some, Option.toList_none,
      List.append_nil, List.singleton_append, List.mem_cons, Option.mem_toList] at hr
    rcases hr with rfl | hr
    · exact h.valid r (mem_references_candidate hcandidate)
    · exact h.valid r (mem_references_active hr)
  candidate := by simp [Credential.promoted]
  previous a ha p hp := by
    cases ha
    have hopposite := h.candidate p hp candidate hcandidate
    exact ⟨hopposite.generation.symm, hopposite.sha256.symm, hopposite.slot.symm⟩

theorem promoteCandidate_exists
    (hw : Ready projection w) (hstored : stored w = some current)
    (hcandidate : current.candidate = some candidate) :
    ∃ w', (promoteCandidate projection).Done storeSem w (.ok (promoted projection current candidate)) w' ∧
      stored w' = some (promoted projection current candidate) ∧ Tidy w' := by
  have hsound := hw.consistent.sound hstored
  have hvalid := validateLocalCredentialState_eq_ok.mpr (hsound.wellFormed.promoted hsound.owner hcandidate)
  have hsafe : StoreSafe projection .promote w (promoteCandidate projection)
      (fun r w' => r = .ok (promoted projection current candidate) ∧
        stored w' = some (promoted projection current candidate) ∧ Tidy w') w := by
    refine safe_readState hw.consistent ?_
    rw [hstored]
    refine Safe.lift_ok rfl (Safe.lift_ok (okOr_eq_ok.mpr hcandidate) (Safe.lift_ok hvalid ?_))
    refine safe_finish hw.quiet ?_ ⟨?_, by simp [refusedReceipts], by simp [StoreCall.oneShot]⟩
      fun w' _ hnext htidy => ⟨rfl, hnext, htidy⟩
    · exact hsound.promoted hvalid hcandidate
    · rw [hstored]
      exact .promote trivial hcandidate fun h => h.elim
  obtain ⟨r, w', hdone, rfl, hnext⟩ := hsafe.exists_done storeSem_total
  exact ⟨w', hdone, hnext⟩

/-! ## Staging -/

/-- The reference to a bundle. -/
def bundleRef (bundle : CredentialDeliveryBundle) : LocalCredentialBundleRef :=
  ⟨bundle.generation, bundle.slot, hex (sha256 (CredentialDeliveryBundle.codec.encode bundle))⟩

/-- A full, valid bundle of a store. -/
structure Deliverable (projection : CredentialProjectionKind)
    (bundle : CredentialDeliveryBundle) : Prop where
  valid : validateCredentialDeliveryBundle bundle = .ok ()
  real : bundle.dummyNonSecret = false
  full : credentialDeliveryIsRotationDelta bundle = false
  owner : bundle.projection = toI32 projection

/-- The state after a staging. -/
def staged (projection : CredentialProjectionKind) (current : Option LocalCredentialState)
    (bundle : CredentialDeliveryBundle) : LocalCredentialState :=
  { current.getD (freshState projection) with candidate := some (bundleRef bundle) }

/-! ## One-shot promotions up to their receipt -/

/-- The store with one receipt more. -/
def receipted (s : StoreWorld) (n text : String) : StoreWorld :=
  s.setDir .root ((rootOf s).install n (utf8 text))

theorem get_receipted (s : StoreWorld) (n text m : String) :
    (rootOf (receipted s n text)).get m = if m = n then some ⟨utf8 text, true⟩ else (rootOf s).get m := by
  simp [receipted]

/-- The first-use promotion of a staged candidate, up to the point between its receipt and the pointer
change. -/
theorem promoteInitial_receipted {intent : String} (hs : Ready projection s) (hstate : stored s = some state)
    (hactive : state.active = none) (hprevious : state.previous = none)
    (hcandidate : state.candidate = some candidate) (hslot : isSlot candidate.slot = true)
    (hintent : validFirstUseDigest intent = true)
    (hrecovery : (rootOf s).get initialPairRecoveryReceipt = none)
    (hcommit : (rootOf s).get initialPairCommitReceipt = none) :
    (promoteInitialPairedCandidate projection candidate.generation candidate.slot intent).Steps storeSem s
      (promoteCandidate projection)
      (receipted s initialPairCommitReceipt
        (initialPairText projection candidate.generation candidate.slot intent)) := by
  have hsound := hs.consistent.sound hstate
  obtain ⟨hgeneration, -, -⟩ :=
    validateLocalCredentialBundleRef_eq_ok.mp
      (hsound.wellFormed.valid _ (mem_references_candidate hcandidate))
  obtain ⟨bundle, hbundle⟩ := readBundle_exists hsound.backed (mem_references_candidate hcandidate)
  refine Steps.not_rejected (by simp [hgeneration, hslot, hintent])
    (Done.bind (readState_exists hs.consistent) ?_)
  rw [hstate]
  refine Steps.lift_ok rfl (Steps.not_rejected (by simp [hactive, hprevious]) ?_)
  refine Steps.lift_ok (okOr_eq_ok.mpr hcandidate) (Steps.not_rejected (by simp) (Done.bind hbundle ?_))
  refine Done.bind (readReceipt_exists hrecovery) (Steps.not_rejected (by simp) ?_)
  exact Done.bind (writeReceipt_exists hcommit) (.refl _ _)

/-- The witnesses of an existing-active join: source A and target B on Windows, the VM's candidate, the
intent. -/
structure JoinWitness where
  sourceGeneration : UInt64
  sourceSlot : Int32
  source : String
  windowsCandidate : String
  intent : String

/-- The witnesses are well formed and fit the candidate. -/
structure JoinWitness.Fits (j : JoinWitness) (candidate : LocalCredentialBundleRef) : Prop where
  sourceGeneration : j.sourceGeneration ≠ 0
  generation : candidate.generation ≠ j.sourceGeneration
  slots : isSlot candidate.slot = true ∧ isSlot j.sourceSlot = true ∧ candidate.slot ≠ j.sourceSlot
  digests : validFirstUseDigest j.source = true ∧ validFirstUseDigest j.windowsCandidate = true ∧
    validFirstUseDigest j.intent = true
  distinct : candidate.sha256 ≠ j.source ∧ j.windowsCandidate ≠ j.source ∧
    j.windowsCandidate ≠ candidate.sha256

def JoinWitness.text (j : JoinWitness) (projection : CredentialProjectionKind)
    (candidate : LocalCredentialBundleRef) :
    String :=
  existingJoinText projection j.sourceGeneration j.sourceSlot j.source candidate.generation candidate.slot
    candidate.sha256 j.windowsCandidate j.intent

/-- The VM's half of an existing-active join, up to the point between its receipt and the pointer change. -/
theorem promoteExistingJoin_receipted {j : JoinWitness} (hs : Ready .vm s) (hstate : stored s = some state)
    (hactive : state.active = none) (hprevious : state.previous = none)
    (hcandidate : state.candidate = some candidate) (hfits : j.Fits candidate)
    (hcommit : (rootOf s).get initialPairCommitReceipt = none)
    (hrecovery : (rootOf s).get initialPairRecoveryReceipt = none)
    (hjoin : (rootOf s).get existingJoinReceipt = none) :
    (promoteExistingActiveJoin .vm candidate.generation candidate.slot candidate.sha256
      j.sourceGeneration j.sourceSlot
        j.source j.windowsCandidate j.intent).Steps storeSem s (promoteCandidate .vm)
      (receipted s existingJoinReceipt (j.text .vm candidate)) := by
  have hsound := hs.consistent.sound hstate
  obtain ⟨hgeneration, -, hhex⟩ :=
    validateLocalCredentialBundleRef_eq_ok.mp
      (hsound.wellFormed.valid _ (mem_references_candidate hcandidate))
  obtain ⟨bundle, hbundle⟩ := readBundle_exists hsound.backed (mem_references_candidate hcandidate)
  have hdigest : validFirstUseDigest candidate.sha256 = true := hhex
  obtain ⟨hslot, hsourceSlot, hslots⟩ := hfits.slots
  obtain ⟨hsource, hwindows, hintent⟩ := hfits.digests
  obtain ⟨hd₁, hd₂, hd₃⟩ := hfits.distinct
  refine Steps.not_rejected ?_ (Done.bind (readState_exists hs.consistent) ?_)
  · simp [hgeneration, hfits.sourceGeneration, hfits.generation, hslot, hsourceSlot, hslots, hdigest,
      hsource, hwindows, hintent, hd₁, hd₂, hd₃]
  rw [hstate]
  refine Steps.lift_ok rfl (Steps.not_rejected (by simp [hactive, hprevious]) ?_)
  refine Steps.lift_ok (okOr_eq_ok.mpr hcandidate) (Steps.not_rejected (by simp) (Done.bind hbundle ?_))
  refine Done.bind (readReceipt_exists hcommit) (Steps.not_rejected (by simp) ?_)
  refine Done.bind (readReceipt_exists hrecovery) (Steps.not_rejected (by simp) ?_)
  refine Done.bind (readReceipt_exists hjoin) (Steps.not_rejected (by simp) ?_)
  exact Done.bind (writeReceipt_exists hjoin) (.refl _ _)

/-! ## Whole calls -/

theorem run_done {c : StoreCall} (hrun : (storeSystem projection).Run s ts w)
    (hdone : (c.run projection).Done storeSem w r w') :
    (storeSystem projection).Run s (ts ++ [⟨c, w, w'⟩]) w' :=
  .snoc hrun (.done hdone)

/-- A call cut where its steps have led to, by a crash that loses nothing. -/
theorem run_cut {c : StoreCall} {p : StoreProc (Option LocalCredentialState)}
    (hrun : (storeSystem projection).Run s ts w) (hsteps : (c.run projection).Steps storeSem w p w')
    (hhoused : Housed w') : (storeSystem projection).Run s (ts ++ [⟨c, w, w'.settle⟩]) w'.settle :=
  .snoc hrun (.cut hsteps (hhoused.storeCrash_of (fsCrash_settle w')))

theorem stored_settle (w : StoreWorld) : stored w.settle = stored w := by
  have hread : (rootOf w.settle).read stateFile = (rootOf w).read stateFile := Dir.read_settle _ _
  rw [stored, stored, hread]

theorem done_some {p : StoreProc LocalCredentialState} {a : LocalCredentialState}
    (h : p.Done storeSem w (.ok a) w') : (some <$> p : StoreProc _).Done storeSem w (.ok (some a)) w' :=
  Done.bind h (.refl _ _)

/-- The file operations, carried out. -/
def storeHandle : (op : (fsSig StoreDir noOwn).Op) → StoreWorld →
    (fsSig StoreDir noOwn).Ans op × StoreWorld :=
  fsHandle fun (x : Empty) _ => x.elim

theorem storeHandle_sem (op : (fsSig StoreDir noOwn).Op) (w : StoreWorld) :
    storeSem op w (storeHandle op w).1 (storeHandle op w).2 := fsHandle_sem (fun (x : Empty) => x.elim) op w

/-- Run a call to its end: what it answers, and the store after it. -/
def perform (projection : CredentialProjectionKind) (c : StoreCall) (w : StoreWorld) :
    Except String (Option LocalCredentialState) × StoreWorld :=
  (c.run projection).finish storeHandle w

theorem perform_done (c : StoreCall) (w : StoreWorld) :
    (c.run projection).Done storeSem w (perform projection c w).1 (perform projection c w).2 :=
  finish_done storeHandle_sem _ w

/-- The store after the first `n` operations of a call. -/
def reach (projection : CredentialProjectionKind) (n : Nat) (c : StoreCall) (w : StoreWorld) : StoreWorld :=
  (runFor storeHandle n (c.run projection) w).2

theorem reach_steps (n : Nat) (c : StoreCall) (w : StoreWorld) :
    ∃ p, (c.run projection).Steps storeSem w p (reach projection n c w) :=
  ⟨_, runFor_steps storeHandle_sem n _ w⟩

/-- The store after calls that run to their ends. -/
def after (projection : CredentialProjectionKind) (cs : List StoreCall) : StoreWorld :=
  cs.foldl (fun w c => (perform projection c w).2) provisionedStore

theorem run_after (cs : List StoreCall) :
    ∃ ts, (storeSystem projection).Run provisionedStore ts (after projection cs) := by
  induction cs using List.reverseRecOn with
  | nil => exact ⟨[], .nil⟩
  | append_singleton cs c ih =>
    obtain ⟨ts, hrun⟩ := ih
    rw [after, List.foldl_append]
    exact ⟨_, run_done hrun (perform_done c _)⟩

/-- The first-use promotion of a staged candidate succeeds. -/
theorem promoteInitial_done {intent : String} (hs : Ready projection s) (hstate : stored s = some state)
    (hactive : state.active = none) (hprevious : state.previous = none)
    (hcandidate : state.candidate = some candidate) (hslot : isSlot candidate.slot = true)
    (hintent : validFirstUseDigest intent = true)
    (hrecovery : (rootOf s).get initialPairRecoveryReceipt = none)
    (hcommit : (rootOf s).get initialPairCommitReceipt = none) :
    ∃ w, (StoreCall.run projection (.promoteInitialPaired candidate.generation candidate.slot intent)).Done
        storeSem s
        (.ok (some (promoted projection state candidate))) w ∧
      stored w = some (promoted projection state candidate) := by
  have hsteps :=
    promoteInitial_receipted hs hstate hactive hprevious hcandidate hslot hintent hrecovery hcommit
  obtain ⟨hready, hkept⟩ := ready_receipt hs (n := initialPairCommitReceipt) (by decide)
    (utf8 (initialPairText projection candidate.generation candidate.slot intent))
  obtain ⟨w, hdone, hstored, -⟩ := promoteCandidate_exists hready (hkept.trans hstate) hcandidate
  exact ⟨w, done_some (hsteps.trans hdone), hstored⟩

/-! ### A bundle of the VM -/

def sampleTunnel : TunnelAuthentication :=
  ⟨"00000000-0000-4000-8000-000000000001",
    "aaaaaaaaaaaaaaaaaaaaaaaaaaaaaaaaaaaaaaaaaaaaaaaaaaaaaaaaaaaaaaaa", "0123456789abcdef"⟩

def sampleKey : String := "AAAAAAAAAAAAAAAAAAAAAAAAAAAAAAAAAAAAAAAAAAA"

def sampleVm : CredentialDeliveryBundle :=
  ⟨1, 2, toI32 CredentialProjectionKind.vm, false, toI32 CredentialDeliverySlot.b,
    some (.vm ⟨some ⟨2, some sampleTunnel, some sampleTunnel⟩, some ⟨2, some ⟨sampleKey⟩, some ⟨sampleKey⟩⟩,
      some ⟨2, sampleTunnel.hysteria2Password⟩⟩)⟩

theorem sampleVm_deliverable : Deliverable .vm sampleVm :=
  ⟨by decide, rfl, rfl, rfl⟩

/-- Staged in a new store it is the candidate, and there is no receipt yet. -/
theorem sampleVm_staged :
    ∃ w, (StoreCall.run .vm (.stage sampleVm)).Done storeSem provisionedStore
      (.ok (some (staged .vm none sampleVm))) w ∧ stored w = some (staged .vm none sampleVm) ∧
        ∀ n, IsReceipt n → (rootOf w).get n = none := by
  have hcheck : (perform .vm (.stage sampleVm) provisionedStore).1 = .ok (some (staged .vm none sampleVm)) ∧
      stored (perform .vm (.stage sampleVm) provisionedStore).2 = some (staged .vm none sampleVm) ∧
      ∀ n, IsReceipt n → (rootOf (perform .vm (.stage sampleVm) provisionedStore).2).get n = none := by
    decide +kernel
  have hdone : (StoreCall.run .vm (.stage sampleVm)).Done storeSem provisionedStore _ _ := perform_done _ _
  rw [hcheck.1] at hdone
  exact ⟨_, hdone, hcheck.2⟩

end EdgePlatform.Credential
