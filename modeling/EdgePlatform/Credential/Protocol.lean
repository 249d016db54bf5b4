import EdgePlatform.Credential.Store

/-!
# `EdgePlatform.Credential.Protocol` — what a store operation may do to its files

`StorePermitted` says once, for every file-system step a call can issue, in which state it may be issued:
only scratch names are written to; a bundle file appears by renaming its whole synced encoding to a free
name; the state file changes only to a state whose bundles are durable and by a transition of the call
(`Transition`), with the call's receipt durable before; a bundle file is removed only where no state the
state file may hold refers to it. `safe_run` proves that every call keeps to it from every store that is
`Ready`; what holds over whole runs is derived from `StorePermitted` alone.
-/

namespace EdgePlatform.Credential

open Foundation Foundation.Wire Foundation.Proc

/-! ## Families of names -/

/-- The names that only writers in progress use. -/
def IsTemp (n : String) : Prop := endsWith n ".new" = true

instance (n : String) : Decidable (IsTemp n) := inferInstanceAs (Decidable (_ = _))

theorem isTemp_stateTemp : IsTemp stateTemp := by decide

theorem isTemp_bundleTemp (r : LocalCredentialBundleRef) : IsTemp (bundleTemp r) := by
  have h : bundleTemp r = (r.sha256 ++ ".pb") ++ ".new" := by
    rw [String.append_assoc]
    rfl
  rw [IsTemp, h]
  exact endsWith_append _ _

variable {n t : String} {r : LocalCredentialBundleRef}

/-- Two ends of one name are ends of each other. -/
theorem endsWith_comparable {p q : String} (hp : endsWith n p = true) (hq : endsWith n q = true) :
    p.toList <:+ q.toList ∨ q.toList <:+ p.toList :=
  List.suffix_or_suffix_of_suffix (endsWith_iff.mp hp) (endsWith_iff.mp hq)

theorem not_isTemp_stateFile : ¬ IsTemp stateFile := by decide

theorem not_isTemp_bundleName (r : LocalCredentialBundleRef) : ¬ IsTemp (bundleName r) := by
  intro h
  have hpb : endsWith (bundleName r) ".pb" = true := endsWith_append _ _
  have hends := endsWith_comparable hpb h
  revert hends
  decide

theorem bundleName_ne_temp (ht : IsTemp t) : bundleName r ≠ t :=
  fun h => not_isTemp_bundleName r (h ▸ ht)

theorem stateFile_ne_temp (ht : IsTemp t) : stateFile ≠ t :=
  fun h => not_isTemp_stateFile (h ▸ ht)

/-- The receipts of the one-shot operations. -/
def IsReceipt (n : String) : Prop :=
  n ∈ [initialPairCommitReceipt, initialPairRecoveryReceipt, existingJoinReceipt, existingJoinPrepareReceipt]

instance (n : String) : Decidable (IsReceipt n) := inferInstanceAs (Decidable (_ ∈ _))

instance {P : String → Prop} [DecidablePred P] : Decidable (∀ n, IsReceipt n → P n) :=
  inferInstanceAs (Decidable (∀ n ∈ [_, _, _, _], P n))

theorem IsReceipt.not_isTemp (h : IsReceipt n) : ¬ IsTemp n := by
  revert n
  decide

theorem IsReceipt.ne_stateFile (h : IsReceipt n) : n ≠ stateFile := by
  rintro rfl
  revert h
  decide

theorem IsReceipt.ne_bundlesDir (h : IsReceipt n) : n ≠ bundlesDir := by
  rintro rfl
  revert h
  decide

/-! ## Consistent stores -/

section

variable (projection : CredentialProjectionKind)

/-- Every bundle the state refers to is durably there and is what its reference says. -/
def Backed (w : StoreWorld) (state : LocalCredentialState) : Prop :=
  ∀ r ∈ state.references, ∃ bundle, IsBundleOf projection r bundle ∧
    (bundlesOf w).Durable (bundleName r) (CredentialDeliveryBundle.codec.encode bundle)

/-- A state the store may point to. -/
structure Sound (w : StoreWorld) (state : LocalCredentialState) : Prop where
  wellFormed : WellFormed state
  owner : state.projection = toI32 projection
  backed : Backed projection w state

/-- Whatever the state file may hold after a crash, it is nothing or the whole of a sound state. -/
def Consistent (w : StoreWorld) : Prop :=
  ∀ v, (rootOf w).Possible stateFile v →
    v = none ∨ ∃ state, v = some ⟨LocalCredentialState.codec.encode state, true⟩ ∧ Sound projection w state

/-- Nothing is left to be lost. -/
def Quiet (w : StoreWorld) : Prop := ∀ i n, (w.dirs i).QuietAt n

/-- The bundle directory is there for good. -/
def Housed (w : StoreWorld) : Prop := (rootOf w).Durable bundlesDir []

/-- What holds between any two steps. -/
structure Whole (w : StoreWorld) : Prop where
  consistent : Consistent projection w
  housed : Housed w

/-- The stores in which a call may begin. -/
structure Ready (w : StoreWorld) : Prop extends Whole projection w where
  quiet : Quiet w

end

variable {projection : CredentialProjectionKind} {w w' s : StoreWorld}

/-- The bundle files are exactly those the stored state refers to. -/
def Tidy (w : StoreWorld) : Prop :=
  ∀ n, endsWith n ".pb" = true →
    (((bundlesOf w).get n).isSome = true ↔ ∃ state, stored w = some state ∧
      ∃ r ∈ state.references, n = bundleName r)

variable {state : LocalCredentialState}

theorem stored_of_read
    (h : (rootOf w).read stateFile = some (LocalCredentialState.codec.encode state)) :
    stored w = some state := by
  simp [stored, h]

theorem stored_of_durable
    (h : (rootOf w).Durable stateFile (LocalCredentialState.codec.encode state)) : stored w = some state :=
  stored_of_read h.read

/-- A consistent store holds no state, or the whole of a sound one. -/
theorem Consistent.cases (h : Consistent projection w) :
    ((rootOf w).get stateFile = none ∧ stored w = none) ∨
      ∃ state, (rootOf w).get stateFile = some ⟨LocalCredentialState.codec.encode state, true⟩ ∧
        stored w = some state ∧ Sound projection w state := by
  rcases h _ (Dir.possible_get _ _) with hnone | ⟨state, hsome, hsound⟩
  · exact .inl ⟨hnone, by simp [stored, Dir.read, hnone]⟩
  · exact .inr ⟨state, hsome, stored_of_read (by simp [Dir.read, hsome]), hsound⟩

theorem Consistent.sound (h : Consistent projection w)
    (hstored : stored w = some state) : Sound projection w state := by
  rcases h.cases with ⟨-, hnone⟩ | ⟨state', -, hsome, hsound⟩
  · rw [hnone] at hstored
    cases hstored
  · rw [hsome] at hstored
    cases hstored
    exact hsound

/-- Soundness of a state looks only at the bundles. -/
theorem Sound.of_bundles (h : Sound projection w state)
    (hkeep : ∀ r ∈ state.references, ∀ b, (bundlesOf w).Durable (bundleName r) b →
      (bundlesOf w').Durable (bundleName r) b) : Sound projection w' state := by
  refine ⟨h.wellFormed, h.owner, fun r hr => ?_⟩
  obtain ⟨bundle, hbundle, hdurable⟩ := h.backed r hr
  exact ⟨bundle, hbundle, hkeep r hr _ hdurable⟩

variable {d : Dir}

theorem Quiet.setDir {i : StoreDir} (h : Quiet w) (hd : ∀ n, d.QuietAt n) : Quiet (w.setDir i d) := by
  intro j n
  by_cases hj : j = i
  · subst hj
    simpa using hd n
  · simpa [hj] using h j n

theorem quiet_provisioned : Quiet provisionedStore :=
  Quiet.setDir (fun _ n => Dir.quietAt_empty n) fun n => (Dir.quietAt_empty n).install _ _

theorem ready_provisioned : Ready projection provisionedStore where
  consistent _ hv := .inl (by simpa [bundlesDir, stateFile] using Dir.possible_install hv)
  housed := Dir.durable_install _ _ _
  quiet := quiet_provisioned

/-- A power failure leaves a durable bundle directory. -/
theorem Housed.fsCrash_of (h : Housed w) (hcrash : storeCrash w w') : fsCrash w w' := by
  obtain ⟨hroot, hbundles⟩ := hcrash
  rw [if_neg (hroot.durable h).present.get_ne] at hbundles
  refine ⟨fun i => ?_, rfl⟩
  cases i with
  | root => exact hroot
  | bundles => exact hbundles

theorem Housed.storeCrash_of (h : Housed w) (hcrash : fsCrash w w') : storeCrash w w' := by
  refine ⟨hcrash.1 .root, ?_⟩
  rw [if_neg ((hcrash.1 .root).durable h).present.get_ne]
  exact hcrash.1 .bundles

/-! ## Permitted steps -/

/-- The receipts that must not exist when a call changes the pointer. -/
def refusedReceipts (projection : CredentialProjectionKind) : StoreCall → List String
  | .promoteInitialPaired .. => [initialPairCommitReceipt, initialPairRecoveryReceipt]
  | .recoverInitialPaired .. => [initialPairRecoveryReceipt]
  | .promoteExistingJoin .. => [initialPairCommitReceipt, initialPairRecoveryReceipt, existingJoinReceipt]
  | .prepareWindowsJoin .. => [existingJoinReceipt, existingJoinPrepareReceipt]
  | .promoteWindowsJoin .. => [initialPairRecoveryReceipt, existingJoinReceipt]
  | .discard => if projection = .windows then [existingJoinPrepareReceipt] else []
  | _ => []

/-- The receipt a call writes, by name and text. -/
def receiptOf (projection : CredentialProjectionKind) :
    StoreCall → LocalCredentialState → Option (String × String)
  | .promoteInitialPaired generation slot intent, _ =>
    some (initialPairCommitReceipt, initialPairText projection generation slot intent)
  | .recoverInitialPaired generation slot original recovery candidate, _ =>
    some (initialPairRecoveryReceipt,
      initialPairRecoveryText projection generation slot original recovery candidate)
  | .promoteExistingJoin generation slot candidate sourceGeneration sourceSlot source
      windowsCandidate intent, _ =>
    some (existingJoinReceipt, existingJoinText projection sourceGeneration sourceSlot source generation slot
      candidate windowsCandidate intent)
  | .prepareWindowsJoin source candidate vm begin, _ =>
    some (existingJoinPrepareReceipt, existingJoinPrepareText projection source candidate vm begin)
  | .promoteWindowsJoin generation slot windowsActive windowsCandidate vm intent, state =>
    state.active.map fun active =>
      (existingJoinReceipt, existingJoinText projection active.generation active.slot
      windowsActive generation slot vm windowsCandidate intent)
  | _, _ => none

/-- The one-shot promotions of a store that has no active bundle. -/
def StoreCall.IsFirst : StoreCall → Prop
  | .promoteInitialPaired .. | .recoverInitialPaired .. | .promoteExistingJoin .. => True
  | _ => False

/-- The calls that make the candidate active. -/
def StoreCall.Promotes : StoreCall → Prop
  | .promoteInitialPaired .. | .recoverInitialPaired .. | .promoteExistingJoin .. | .promoteWindowsJoin ..
  | .promote => True
  | _ => False

/-- The four promotions that may happen once. -/
inductive OneShot
  | initialPaired | initialRecovery | existingJoin | windowsJoin
deriving DecidableEq

def StoreCall.oneShot : StoreCall → Option OneShot
  | .promoteInitialPaired .. => some .initialPaired
  | .recoverInitialPaired .. => some .initialRecovery
  | .promoteExistingJoin .. => some .existingJoin
  | .promoteWindowsJoin .. => some .windowsJoin
  | _ => none

/-- The receipt of a one-shot promotion. -/
def OneShot.receipt : OneShot → String
  | .initialPaired => initialPairCommitReceipt
  | .initialRecovery => initialPairRecoveryReceipt
  | .existingJoin | .windowsJoin => existingJoinReceipt

/-- The bundle a call stages. -/
def StoreCall.Stages (c : StoreCall) (bundle : CredentialDeliveryBundle) : Prop :=
  c = .stage bundle ∨ ∃ delivery active, c = .stageDelivery delivery ∧
    materializeCredentialDeliveryCandidate active delivery = .ok bundle

/-- The changes of the stored state a call may make. -/
inductive Transition (projection : CredentialProjectionKind) :
    StoreCall → Option LocalCredentialState → Option LocalCredentialState → Prop
  | stage {c : StoreCall} {bundle : CredentialDeliveryBundle} {r : LocalCredentialBundleRef}
      {current : Option LocalCredentialState} :
      c.Stages bundle → localCredentialBundleRef bundle = .ok r →
      (current.getD (freshState projection)).candidate = none →
      (current.getD (freshState projection)).previous = none →
      Transition projection c current
      (some { current.getD (freshState projection) with candidate := some r })
  | promote {c : StoreCall} {current : LocalCredentialState} {candidate : LocalCredentialBundleRef} :
      c.Promotes → current.candidate = some candidate → (c.IsFirst → current.active = none) →
      Transition projection c (some current) (some (promoted projection current candidate))
  | rollback {current : LocalCredentialState} {active previous : LocalCredentialBundleRef} :
      current.candidate = none → current.active = some active → current.previous = some previous →
      Transition projection .rollback (some current)
        (some ⟨1, toI32 projection, some previous, none, some active⟩)
  | discard {current : LocalCredentialState} :
      current.candidate ≠ none → current.active ≠ none →
      Transition projection .discard (some current) (some { current with candidate := none })
  | clear {current : LocalCredentialState} :
      current.candidate ≠ none → current.active = none → current.previous = none →
      Transition projection .discard (some current) none
  | drop {current : LocalCredentialState} :
      current.previous ≠ none → Transition projection .drop (some current)
        (some { current with previous := none })

/-- A change of the pointer that call `c`, begun in `s`, may make in `w`. -/
structure Admitted (projection : CredentialProjectionKind) (c : StoreCall) (s w : StoreWorld)
    (next : Option LocalCredentialState) : Prop where
  transition : Transition projection c (stored s) next
  fresh : ∀ n ∈ refusedReceipts projection c, (rootOf s).get n = none
  receipt : ∀ k, c.oneShot = some k → ∃ state text, stored s = some state ∧
    receiptOf projection c state = some (k.receipt, text) ∧ (rootOf w).Durable k.receipt (utf8 text)

/-- The steps that only look. -/
inductive DirOp.Looks : DirOp → Prop
  | stat (n : String) : Looks (.stat n)
  | read (n : String) : Looks (.read n)
  | list : Looks .list

inductive StorePermitted (projection : CredentialProjectionKind) (c : StoreCall) (s : StoreWorld) :
    (fsSig StoreDir noOwn).Op → StoreWorld → Prop
  | look {i : StoreDir} {o : DirOp} {w : StoreWorld} :
    DirOp.Looks o → StorePermitted projection c s (.dir i o) w
  | syncDir {i : StoreDir} {w : StoreWorld} : StorePermitted projection c s (.dir i .syncDir) w
  | scratch {i : StoreDir} {t : String} {b : Bytes} {o : DirOp} {w : StoreWorld} :
      IsTemp t → o.Scratch t b → StorePermitted projection c s (.dir i o) w
  | publish {t : String} {r : LocalCredentialBundleRef} {bundle : CredentialDeliveryBundle}
    {w : StoreWorld} :
      IsTemp t → IsBundleOf projection r bundle →
      (bundlesOf w).get t = some ⟨CredentialDeliveryBundle.codec.encode bundle, true⟩ →
      (bundlesOf w).get (bundleName r) = none →
      StorePermitted projection c s (.dir .bundles (.rename t (bundleName r))) w
  | point {t : String} {next : LocalCredentialState} {w : StoreWorld} :
      IsTemp t → (rootOf w).get t = some ⟨LocalCredentialState.codec.encode next, true⟩ →
      Sound projection w next → Admitted projection c s w (some next) →
      StorePermitted projection c s (.dir .root (.rename t stateFile)) w
  | clear {w : StoreWorld} :
      Admitted projection c s w none → StorePermitted projection c s (.dir .root (.remove stateFile)) w
  | sweep {n : String} {w : StoreWorld} :
      (∀ f, (rootOf w).Possible stateFile (some f) → ∀ state : LocalCredentialState,
        f.data = LocalCredentialState.codec.encode state → ∀ r ∈ state.references, bundleName r ≠ n) →
      StorePermitted projection c s (.dir .bundles (.remove n)) w
  | house {w : StoreWorld} :
      Housed w → StorePermitted projection c s (.dir .root (.createNew bundlesDir)) w
  | attempt {state : LocalCredentialState} {n text : String} {w : StoreWorld} :
      stored s = some state → receiptOf projection c state = some (n, text) →
      StorePermitted projection c s (.dir .root (.createNew n)) w
  | record {state : LocalCredentialState} {n text : String} {o : DirOp} {w : StoreWorld} :
      stored s = some state → receiptOf projection c state = some (n, text) →
      o.Writes n (utf8 text) → (rootOf w).Possible n none → (rootOf s).get n = none →
      (rootOf w).get n = some ⟨[], false⟩ ∨ (o = .fsync n ∧ (rootOf w).get n = some ⟨utf8 text, false⟩) →
      StorePermitted projection c s (.dir .root o) w

theorem receiptOf_isReceipt {c : StoreCall} {n text : String}
    (h : receiptOf projection c state = some (n, text)) : IsReceipt n := by
  cases c <;> simp only [receiptOf, Option.map_eq_some_iff, Option.some.injEq, Prod.mk.injEq,
    reduceCtorEq] at h
  all_goals first
    | obtain ⟨rfl, -⟩ := h; decide
    | obtain ⟨_, -, rfl, -⟩ := h; decide

/-- Admission depends on the present store only through the receipt. -/
theorem Admitted.of_receipt {c : StoreCall} {next : Option LocalCredentialState}
    (h : Admitted projection c s w next)
    (hkeep : ∀ n b, IsReceipt n → (rootOf w).Durable n b → (rootOf w').Durable n b) :
    Admitted projection c s w' next := by
  refine ⟨h.transition, h.fresh, fun k hk => ?_⟩
  obtain ⟨state, text, hstate, htext, hdurable⟩ := h.receipt k hk
  exact ⟨state, text, hstate, htext, hkeep _ _ (receiptOf_isReceipt htext) hdurable⟩

/-! ## Rules -/

/-- A program that keeps to what call `c`, begun in `s`, may do. -/
abbrev StoreSafe (projection : CredentialProjectionKind) (c : StoreCall) (s : StoreWorld) {α : Type}
    (p : StoreProc α) (Q : Except String α → StoreWorld → Prop) (w : StoreWorld) : Prop :=
  Safe storeSem (StorePermitted projection c s) p Q w

section Rules

variable {c : StoreCall} {α : Type} {Q : Except String α → StoreWorld → Prop}

variable {name unreadable malformed : String} {wellFormed : List String → Bool} {k : Unit → StoreProc α}
variable {r : LocalCredentialBundleRef} {bundle : CredentialDeliveryBundle} {next : LocalCredentialState}

theorem safe_readReceipt {k : Option String → StoreProc α} (herr : ∀ e, Q (.error e) w)
    (habsent : (rootOf w).get name = none → StoreSafe projection c s (k none) Q w)
    (hpresent : ∀ text, StoreSafe projection c s (k (some text)) Q w) :
    StoreSafe projection c s (readReceipt name unreadable malformed wellFormed >>= k) Q w := by
  refine safe_bind.mpr (safe_read.mpr ⟨.look (.read name), ?_⟩)
  cases hread : (rootOf w).read name with
  | none => exact habsent (by simpa [Dir.read] using hread)
  | some bytes =>
    refine Safe.check herr fun text _ => ?_
    exact Safe.check herr fun _ _ => hpresent text

/-- A receipt that may be there or not. -/
theorem safe_readReceipt_any {k : Option String → StoreProc α} (herr : ∀ e, Q (.error e) w)
    (h : ∀ found, StoreSafe projection c s (k found) Q w) :
    StoreSafe projection c s (readReceipt name unreadable malformed wellFormed >>= k) Q w :=
  safe_readReceipt herr (fun _ => h none) fun text => h (some text)

/-- A receipt that must be absent. -/
theorem safe_refuseReceipt {refusal : String} (herr : ∀ e, Q (.error e) w)
    (habsent : (rootOf w).get name = none → StoreSafe projection c s (k ()) Q w) :
    StoreSafe projection c s (readReceipt name unreadable malformed wellFormed >>= fun found =>
      (liftM (rejectIf (found ≠ none) refusal) : StoreProc Unit) >>= k) Q w := by
  refine safe_readReceipt herr (fun hnone => ?_) fun text => ?_
  · exact Safe.not_rejected (by simp) (habsent hnone)
  · exact Safe.check herr fun _ hok => absurd (by simp) (rejectIf_eq_ok.mp hok)

theorem safe_readBundle {k : CredentialDeliveryBundle → StoreProc α}
    (hbundle : IsBundleOf projection r bundle)
    (hread : (bundlesOf w).read (bundleName r) = some (CredentialDeliveryBundle.codec.encode bundle))
    (h : StoreSafe projection c s (k bundle) Q w) :
    StoreSafe projection c s (readBundle projection r >>= k) Q w := by
  refine safe_bind.mpr (safe_readOr_some (.look (.read _)) hread ?_)
  refine Safe.lift_ok (decodeCredentialDeliveryBundle_eq_ok.mpr ⟨hbundle.valid, rfl⟩) ?_
  exact Safe.lift_ok (verifyLocalCredentialBundleReference_eq_ok (u := ()).mpr hbundle) h

theorem safe_readBundle_backed {state : LocalCredentialState}
    {k : CredentialDeliveryBundle → StoreProc α} (hbacked : Backed projection w state)
    (hr : r ∈ state.references) (h : ∀ bundle, StoreSafe projection c s (k bundle) Q w) :
    StoreSafe projection c s (readBundle projection r >>= k) Q w := by
  obtain ⟨bundle, hbundle, hdurable⟩ := hbacked r hr
  exact safe_readBundle hbundle hdurable.read (h bundle)

theorem safe_readBundles {rs : List LocalCredentialBundleRef}
    (hbacked : ∀ r ∈ rs, ∃ bundle, IsBundleOf projection r bundle ∧
      (bundlesOf w).Durable (bundleName r) (CredentialDeliveryBundle.codec.encode bundle))
    (h : StoreSafe projection c s (k ()) Q w) :
    StoreSafe projection c s (readBundles projection rs >>= k) Q w := by
  induction rs with
  | nil => exact h
  | cons r rs ih =>
    obtain ⟨bundle, hbundle, hdurable⟩ := hbacked r (.head _)
    have hrest := ih fun r' hr' => hbacked r' (.tail _ hr')
    refine safe_bind.mpr (safe_readBundle hbundle hdurable.read ?_)
    exact safe_bind.mp hrest

/-- **Reading a consistent store.** It succeeds with the stored state. -/
theorem safe_readState {k : Option LocalCredentialState → StoreProc α} (hw : Consistent projection w)
    (h : StoreSafe projection c s (k (stored w)) Q w) :
    StoreSafe projection c s (readState projection >>= k) Q w := by
  refine safe_bind.mpr (safe_read.mpr ⟨.look (.read _), ?_⟩)
  rcases hw.cases with ⟨hget, hstored⟩ | ⟨state, hget, hstored, hsound⟩
  · have hread : (rootOf w).read stateFile = none := by simp [Dir.read, hget]
    rw [hread]
    rw [hstored] at h
    exact h
  · have hread : (rootOf w).read stateFile = some (LocalCredentialState.codec.encode state) := by
      simp [Dir.read, hget]
    rw [hread]
    rw [hstored] at h
    have hvalid := validateLocalCredentialState_eq_ok.mpr hsound.wellFormed
    refine Safe.lift_ok (decodeLocalCredentialState_eq_ok.mpr ⟨hvalid, rfl⟩) ?_
    refine Safe.not_rejected (by simpa using hsound.owner) ?_
    exact safe_readBundles hsound.backed h

/-! ### Writing a bundle -/

/-- The directories are there. -/
theorem safe_createDirAll {i : StoreDir} (hhoused : Housed w) (h : StoreSafe projection c s (k ()) Q w) :
    StoreSafe projection c s (createDirAll i >>= k) Q w := by
  cases i with
  | root => exact h
  | bundles =>
    have hget : (rootOf w).get bundlesDir = some ⟨[], true⟩ := hhoused.get
    refine safe_bind.mpr (safe_createNew.mpr ⟨.house hhoused, ?_⟩)
    rw [hget]
    exact h

theorem safe_persistBundle (hbundle : IsBundleOf projection r bundle) (hquiet : Quiet w) (hhoused : Housed w)
    (herr : ∀ f, (bundlesOf w).get (bundleName r) = some f → ∀ e, Q (.error e) w)
    (hdone : ∀ d : Dir, (∀ n, d.QuietAt n) →
      (∀ r' b, (bundlesOf w).Durable (bundleName r') b → d.Durable (bundleName r') b) →
      d.Durable (bundleName r) (CredentialDeliveryBundle.codec.encode bundle) →
      StoreSafe projection c s (k ()) Q (w.setDir .bundles d)) :
    StoreSafe projection c s (persistBundle projection bundle r >>= k) Q w := by
  have hdigest : r.sha256 = hex (sha256 (CredentialDeliveryBundle.codec.encode bundle)) := by
    rw [hbundle.reference]
  refine safe_bind.mpr ?_
  refine Safe.lift_ok (encodeCredentialDeliveryBundle_eq_ok.mpr ⟨hbundle.valid, rfl⟩) ?_
  refine Safe.lift_ok (credentialDeliveryBundleSha256_eq_ok.mpr ⟨hbundle.valid, rfl⟩) ?_
  refine Safe.not_rejected (by simpa using hdigest.symm) (safe_stat.mpr ⟨.look (.stat _), ?_⟩)
  cases hget : (bundlesOf w).get (bundleName r) with
  | some f =>
    -- the file is there: it is used only if it holds exactly these bytes
    have hread : (bundlesOf w).read (bundleName r) = some f.data := by simp [Dir.read, hget]
    refine safe_readOr_some (.look (.read _)) hread ?_
    refine Safe.check (fun e => herr f hget e) fun _ hsame => ?_
    have hdata : f.data = CredentialDeliveryBundle.codec.encode bundle := by simpa using hsame
    refine Safe.lift_ok (decodeCredentialDeliveryBundle_eq_ok.mpr ⟨hbundle.valid, hdata⟩) ?_
    refine Safe.lift (fun e _ => herr f hget e) fun _ _ => ?_
    have hdurable := (hquiet .bundles (bundleName r)).durable (hdata ▸ hread)
    have hnext := hdone (bundlesOf w) (hquiet .bundles) (fun _ _ h => h) hdurable
    rwa [FsWorld.setDir_self] at hnext
  | none =>
    have htemp := isTemp_bundleTemp r
    refine safe_bind.mpr (safe_createDirAll hhoused ?_)
    refine safe_bind.mpr (safe_atomicReplace (fun _ => .syncDir) (fun _ _ ho _ => .scratch htemp ho) ?_ ?_)
    · refine .publish htemp hbundle ?_ ?_
      · simp [Dir.get_prepare]
      · simp only [FsWorld.setDir_dirs_self]
        rw [Dir.get_prepare, if_neg (bundleName_ne_temp htemp), hget]
    · have hdurable := Dir.durable_replace (bundlesOf w) (bundleTemp r) (bundleName r)
        (CredentialDeliveryBundle.codec.encode bundle)
      refine safe_readOr_some (.look (.read _)) (by simpa using hdurable.read) ?_
      refine Safe.lift (fun e he => absurd he (by simp [rejectIf])) fun _ _ => ?_
      refine hdone _ (fun n => (hquiet .bundles n).replace _ _ _) (fun r' b hb => ?_) hdurable
      have hne : bundleName r' ≠ bundleName r := fun heq => by
        have := hb.get
        rw [heq, hget] at this
        cases this
      exact hb.replace hne (bundleName_ne_temp htemp) _

/-! ### Changing the pointer -/

theorem safe_writeState (hsound : Sound projection w next)
    (hadmitted : Admitted projection c s w (some next)) (hdone : StoreSafe projection c s (k ()) Q
      (w.setDir .root ((rootOf w).replace stateTemp stateFile (LocalCredentialState.codec.encode next)))) :
    StoreSafe projection c s (writeState projection next >>= k) Q w := by
  have hvalid := validateLocalCredentialState_eq_ok.mpr hsound.wellFormed
  refine safe_bind.mpr (Safe.not_rejected (by simpa using hsound.owner) ?_)
  refine Safe.lift_ok hvalid (safe_readBundles hsound.backed ?_)
  refine Safe.lift_ok (encodeLocalCredentialState_eq_ok.mpr ⟨hvalid, rfl⟩) ?_
  refine safe_bind.mpr
    (safe_atomicReplace (fun _ => .syncDir) (fun _ _ ho _ => .scratch isTemp_stateTemp ho) ?_ ?_)
  · -- the rename: nothing but the scratch name differs from `w`
    have hagree := Dir.agreeOff_prepare (rootOf w) stateTemp (LocalCredentialState.codec.encode next)
    have hscratch : (rootOf (w.setDir .root ((rootOf w).prepare stateTemp
        (LocalCredentialState.codec.encode next)))).get stateTemp =
          some ⟨LocalCredentialState.codec.encode next, true⟩ := by
      simp [Dir.get_prepare]
    refine .point isTemp_stateTemp hscratch ?_ ?_
    · exact hsound.of_bundles fun _ _ _ hb => hb
    · refine hadmitted.of_receipt fun n b hn hb => ?_
      simp only [FsWorld.setDir_dirs_self]
      exact hagree.durable (fun h => hn.not_isTemp (h ▸ isTemp_stateTemp)) hb
  · have hdurable :=
      Dir.durable_replace (rootOf w) stateTemp stateFile (LocalCredentialState.codec.encode next)
    refine safe_readOr_some (.look (.read _)) (by simpa using hdurable.read) ?_
    exact Safe.lift (fun e he => absurd he (by simp [rejectIf])) fun _ _ => hdone

/-! ### Collecting garbage -/

theorem mem_keys_iff {n : String} : n ∈ d.live.keys ↔ (d.get n).isSome = true := by
  rw [Dir.get, AList.lookup_isSome, AList.mem_keys]

theorem isUnreferenced_bundleName {keep : List String} {digest : String} :
    isUnreferenced keep (digest ++ ".pb") = false ↔ digest ∈ keep := by
  simp [isUnreferenced]

/-- A directory whose entries are all synced is quiet after a sweep and a directory sync. -/
theorem quietAt_swept {test : String → Bool} {d' : Dir} (hd : ∀ n, d.QuietAt n) (h : d.Swept test d')
    (n : String) :
    d'.syncDir.QuietAt n :=
  Dir.quietAt_syncDir fun f hf => (hd n).synced (h.left n f hf)

theorem safe_gc (hquiet : Quiet w)
    (hpointer : (rootOf w).Durable stateFile (LocalCredentialState.codec.encode next))
      (hbacked : Backed projection w next)
      (hdone : ∀ d : Dir, (∀ n, d.QuietAt n) →
        (∀ n, endsWith n ".pb" = true →
          ((d.get n).isSome = true ↔ ∃ r ∈ next.references, n = bundleName r)) →
          StoreSafe projection c s (k ()) Q (w.setDir .bundles d)) :
    StoreSafe projection c s (gcUnreferencedBundles next >>= k) Q w := by
  set keep := next.references.map (·.sha256) with hkeep
  -- the names of referenced bundles are the names the sweep keeps
  have hreferenced : ∀ r ∈ next.references, isUnreferenced keep (bundleName r) = false := fun r hr =>
    isUnreferenced_bundleName.mpr (List.mem_map_of_mem hr)
  refine safe_bind.mpr (safe_list.mpr ⟨.look .list, fun names hnames => ?_⟩)
  refine safe_sweep (d := bundlesOf w) (fun _ => .syncDir) ?_ (hnames.nodup_iff.mpr (AList.keys_nodup _))
    (fun n hn => mem_keys_iff.mp (hnames.mem_iff.mp hn)) (Dir.Swept.refl _ _) ?_
  · intro n d' hn _
    refine .sweep fun f hf state hdata r hr heq => ?_
    have hsome : some f = some ⟨LocalCredentialState.codec.encode next, true⟩ := hpointer _ hf
    cases hsome
    rw [← LocalCredentialState.codec.encode_injective hdata] at hr
    rw [← heq, hreferenced r hr] at hn
    cases hn
  · intro d' hswept hgone _
    refine hdone _ (quietAt_swept (hquiet .bundles) hswept) fun n hpb => ?_
    obtain ⟨t, ht⟩ := endsWith_iff.mp hpb
    obtain rfl : n = String.ofList t ++ ".pb" := String.toList_inj.mp (by simpa using ht.symm)
    rw [Dir.get_syncDir]
    constructor
    · intro hsome
      by_contra hnot
      have htest : isUnreferenced keep (String.ofList t ++ ".pb") = true := by
        rw [← Bool.not_eq_false, isUnreferenced_bundleName, hkeep, List.mem_map]
        rintro ⟨r, hr, hsha⟩
        exact hnot ⟨r, hr, by rw [bundleName, hsha]⟩
      obtain ⟨f, hf⟩ := Option.isSome_iff_exists.mp hsome
      have hlisted : String.ofList t ++ ".pb" ∈ names :=
        hnames.mem_iff.mpr (mem_keys_iff.mpr (by rw [hswept.left _ f hf]; rfl))
      rw [hgone _ hlisted htest] at hf
      cases hf
    · rintro ⟨r, hr, hn⟩
      obtain ⟨bundle, -, hdurable⟩ := hbacked r hr
      rw [hn, (hswept.kept _ (hreferenced r hr)).1, hdurable.get]
      rfl

theorem safe_gcAll (hquiet : Quiet w) (hpointer : (rootOf w).Absent stateFile)
    (hdone : ∀ d : Dir, (∀ n, d.QuietAt n) → (∀ n, d.get n = none) →
      StoreSafe projection c s (k ()) Q (w.setDir .bundles d)) :
    StoreSafe projection c s (gcAllBundles >>= k) Q w := by
  refine safe_bind.mpr (safe_list.mpr ⟨.look .list, fun names hnames => ?_⟩)
  refine safe_sweep (d := bundlesOf w) (fun _ => .syncDir) ?_ (hnames.nodup_iff.mpr (AList.keys_nodup _))
    (fun n hn => mem_keys_iff.mp (hnames.mem_iff.mp hn)) (Dir.Swept.refl _ _) ?_
  · intro n d' _ _
    refine .sweep fun f hf => ?_
    have hnone : some f = none := hpointer _ hf
    cases hnone
  · intro d' hswept hgone hrest
    refine hdone _ (quietAt_swept (hquiet .bundles) hswept) fun n => ?_
    rw [Dir.get_syncDir]
    by_cases hn : n ∈ names
    · exact hgone n hn rfl
    · rw [hrest n hn]
      have hnot := mt (fun h => hnames.mem_iff.mpr (mem_keys_iff.mpr h)) hn
      simpa using hnot

/-- A pointer change and the collection after it leave a quiet and tidy store. -/
theorem safe_finish {a : α} (hquiet : Quiet w) (hsound : Sound projection w next)
    (hadmitted : Admitted projection c s w (some next))
    (hdone : ∀ w', Quiet w' → stored w' = some next → Tidy w' → Q (.ok a) w') :
    StoreSafe projection c s
      (writeState projection next >>= fun _ => gcUnreferencedBundles next >>= fun _ => pure a) Q w := by
  have hdurable := Dir.durable_replace (rootOf w) stateTemp stateFile
      (LocalCredentialState.codec.encode next)
  have hstored : ∀ d, stored ((w.setDir .root ((rootOf w).replace stateTemp stateFile
      (LocalCredentialState.codec.encode next))).setDir .bundles d) = some next :=
    fun d => stored_of_durable hdurable
  have hquiet' := hquiet.setDir (i := .root) fun n => (hquiet .root n).replace stateTemp stateFile
    (LocalCredentialState.codec.encode next)
  refine safe_writeState hsound hadmitted (safe_gc hquiet' ?_ ?_ fun d hd htidy =>
    hdone _ (hquiet'.setDir hd) (hstored d) ?_)
  · simpa using hdurable
  · intro r hr
    simpa using hsound.backed r hr
  · intro n hn
    rw [hstored]
    simpa using htidy n hn

end Rules

/-! ## Every call keeps to the protocol -/

/-- How a call begun in `s` ends: quiet, and if it reports success, with the pointer it began with or, except
    after a rollback, with a tidy bundle directory. -/
def Ending {α : Type} (c : StoreCall) (s : StoreWorld) (r : Except String α) (w : StoreWorld) : Prop :=
  Quiet w ∧ ∀ a, r = .ok a → stored w = stored s ∨ c = .rollback ∨ Tidy w

/-- The program `p` of call `c` keeps to the protocol and ends as it should. -/
abbrev Keeps (projection : CredentialProjectionKind) (c : StoreCall) (s : StoreWorld) {α : Type}
    (p : StoreProc α) : Prop :=
  StoreSafe projection c s p (Ending c s) s

section Calls

variable {c : StoreCall} {α β : Type}

theorem ending_error (hquiet : Quiet w) (e : String) : Ending (α := α) c s (.error e) w :=
  ⟨hquiet, fun _ h => nomatch h⟩

theorem ending_same (hquiet : Quiet s) (a : α) : Ending c s (.ok a) s := ⟨hquiet, fun _ _ => .inl rfl⟩

theorem ending_tidy (hquiet : Quiet w) (htidy : Tidy w) (a : α) : Ending c s (.ok a) w :=
  ⟨hquiet, fun _ _ => .inr (.inr htidy)⟩

/-- An answer may be rewrapped. -/
theorem safe_map {p : StoreProc α} {f : α → β} (h : StoreSafe projection c s p (Ending c s) w) :
    StoreSafe projection c s (f <$> p) (Ending c s) w := by
  refine h.bind (fun a w' ha => ?_) fun e w' he => ?_
  · exact ⟨ha.1, fun _ _ => ha.2 a rfl⟩
  · exact ending_error he.1 e

variable {n text taken : String} {state : LocalCredentialState} {k : Unit → StoreProc α}
variable {r active previous : LocalCredentialBundleRef} {bundle : CredentialDeliveryBundle}

/-- The store just after its receipt: nothing but the receipt is new. -/
theorem ready_receipt (hs : Ready projection s) (hn : IsReceipt n) (b : Bytes) :
    Ready projection (s.setDir .root ((rootOf s).install n b)) ∧
      stored (s.setDir .root ((rootOf s).install n b)) = stored s := by
  have hget : ((rootOf s).install n b).get stateFile = (rootOf s).get stateFile := by
    rw [Dir.get_install, if_neg hn.ne_stateFile.symm]
  refine ⟨⟨⟨fun v hv => ?_, ?_⟩, hs.quiet.setDir fun m => (hs.quiet .root m).install n b⟩, ?_⟩
  · have hv' : v = (rootOf s).get stateFile := by
      have h := Dir.possible_syncDir.mp (by simpa [Dir.install] using hv)
      rw [← hget]
      simpa [Dir.install] using h
    rcases hs.consistent v (hv' ▸ Dir.possible_get _ _) with hnone | ⟨state, hstate, hsound⟩
    · exact .inl hnone
    · exact .inr ⟨state, hstate, hsound.of_bundles fun _ _ _ hb => hb⟩
  · refine ((hs.quiet .root bundlesDir).install n b).durable ?_
    simp [Dir.read, hn.ne_bundlesDir.symm, hs.housed.get]
  · simp [stored, Dir.read, hn.ne_stateFile.symm]

theorem safe_writeReceipt {Q : Except String α → StoreWorld → Prop} (hstate : stored s = some state)
    (hreceipt : receiptOf projection c state = some (n, text)) (herr : ∀ e, Q (.error e) s)
    (hdone : (rootOf s).get n = none →
      StoreSafe projection c s (k ()) Q (s.setDir .root ((rootOf s).install n (utf8 text)))) :
    StoreSafe projection c s (writeReceipt n text taken >>= k) Q s := by
  refine safe_bind.mpr ?_
  cases hget : (rootOf s).get n with
  | some f =>
    -- the file exists, so none of its writes is reached
    refine safe_createNew.mpr ⟨.attempt hstate hreceipt, ?_⟩
    rw [if_neg (by simp [hget])]
    exact herr taken
  | none =>
    refine safe_durableCreate (fun _ => .syncDir) (.attempt hstate hreceipt) (fun d hd hempty => ?_)
      (fun d hd hwhole => ?_) (fun _ _ => herr taken) fun _ => hdone hget
    · exact .record hstate hreceipt .append (by simpa using hd.unsure) hget (.inl hempty)
    · exact .record hstate hreceipt .fsync (by simpa using hd.unsure) hget (.inr ⟨rfl, hwhole⟩)

theorem mem_references_active (h : state.active = some r) : r ∈ state.references := by
  simp [LocalCredentialState.references, h]

theorem mem_references_candidate (h : state.candidate = some r) : r ∈ state.references := by
  simp [LocalCredentialState.references, h]

theorem mem_references_previous (h : state.previous = some r) : r ∈ state.references := by
  simp [LocalCredentialState.references, h]

/-- A state that refers to no other bundles than a sound one is backed, too. -/
theorem Sound.of_subset {next : LocalCredentialState} (h : Sound projection w state)
    (hvalid : validateLocalCredentialState next = .ok ()) (howner : next.projection = toI32 projection)
    (hsub : ∀ r ∈ next.references, r ∈ state.references) : Sound projection w next :=
  ⟨validateLocalCredentialState_eq_ok.mp hvalid, howner, fun r hr => h.backed r (hsub r hr)⟩

variable {candidate : LocalCredentialBundleRef}

theorem Sound.promoted (h : Sound projection w state)
    (hvalid : validateLocalCredentialState (promoted projection state candidate) = .ok ())
    (hcandidate : state.candidate = some candidate) :
    Sound projection w (promoted projection state candidate) := by
  refine h.of_subset hvalid rfl fun r hr => ?_
  simp only [Credential.promoted, LocalCredentialState.references, Option.toList_some, Option.toList_none,
    List.append_nil, List.singleton_append, List.mem_cons, Option.mem_toList] at hr
  rcases hr with rfl | hr
  · exact mem_references_candidate hcandidate
  · exact mem_references_active hr

/-- **Promotion.** It may run in the store the call began in, or just after the call's receipt. -/
theorem safe_promoteCandidate (hw : Ready projection w) (hstored : stored w = stored s)
    (hpromotes : c.Promotes) (hfirst : ∀ state, stored s = some state → c.IsFirst → state.active = none)
    (hfresh : ∀ n ∈ refusedReceipts projection c, (rootOf s).get n = none)
    (hreceipt : ∀ k, c.oneShot = some k → ∃ state text, stored s = some state ∧
      receiptOf projection c state = some (k.receipt, text) ∧ (rootOf w).Durable k.receipt (utf8 text)) :
    StoreSafe projection c s (promoteCandidate projection) (Ending c s) w := by
  have herr : ∀ e, Ending (α := LocalCredentialState) c s (.error e) w := ending_error hw.quiet
  refine safe_readState hw.consistent (Safe.check herr fun current hcurrent => ?_)
  rw [okOr_eq_ok] at hcurrent
  refine Safe.check herr fun candidate hcandidate => ?_
  rw [okOr_eq_ok] at hcandidate
  refine Safe.check herr fun _ hvalid => ?_
  have hcurrent' : stored s = some current := hstored ▸ hcurrent
  refine safe_finish hw.quiet ?_ ⟨?_, hfresh, hreceipt⟩ fun w' hq _ ht => ending_tidy hq ht _
  · exact (hw.consistent.sound hcurrent).promoted hvalid hcandidate
  · rw [hcurrent']
    exact .promote hpromotes hcandidate (hfirst current hcurrent')

section

variable (hs : Ready projection s)
include hs

/-- A check of the call, before anything is changed. -/
theorem keeps_check {x : Except String β} {k : β → StoreProc α}
    (h : ∀ b, x = .ok b → Keeps projection c s (k b)) :
    Keeps projection c s ((liftM x : StoreProc β) >>= k) :=
  Safe.check (ending_error hs.quiet) h

/-- A receipt that refuses the call. -/
theorem keeps_refuse {name unreadable malformed refusal : String} {wellFormed : List String → Bool}
    (h : (rootOf s).get name = none → Keeps projection c s (k ())) :
    Keeps projection c s (readReceipt name unreadable malformed wellFormed >>= fun found =>
      (liftM (rejectIf (found ≠ none) refusal) : StoreProc Unit) >>= k) :=
  safe_refuseReceipt (ending_error hs.quiet) h

/-- The checks of a first promotion: nothing is active, and the bundle of the candidate is there. -/
theorem keeps_candidate {unset busy missing : String} {check : LocalCredentialBundleRef → Except String Unit}
    {k : StoreProc α} (h : ∀ state, stored s = some state → state.active = none → Keeps projection c s k) :
    Keeps projection c s (do
      let state ← readState projection
      let state ← okOr state unset
      rejectIf (state.active ≠ none ∨ state.previous ≠ none) busy
      let candidate ← okOr state.candidate missing
      check candidate
      let _ ← readBundle projection candidate
      k) := by
  refine safe_readState hs.consistent (keeps_check hs fun state hstate => keeps_check hs fun _ hempty => ?_)
  refine keeps_check hs fun candidate hcandidate => keeps_check hs fun _ _ => ?_
  rw [okOr_eq_ok] at hstate hcandidate
  refine safe_readBundle_backed (hs.consistent.sound hstate).backed
    (mem_references_candidate hcandidate) fun _ => ?_
  exact h state hstate (by simpa using (not_or.mp (rejectIf_eq_ok.mp hempty)).1)

/-- A one-shot promotion from its receipt on. -/
theorem safe_oneShot {k : OneShot} (hk : c.oneShot = some k) (hstate : stored s = some state)
    (hreceipt : receiptOf projection c state = some (k.receipt, text))
    (hfirst : c.IsFirst → state.active = none)
    (hfresh : (rootOf s).get k.receipt = none → ∀ m ∈ refusedReceipts projection c,
      (rootOf s).get m = none) :
    Keeps projection c s (writeReceipt k.receipt text taken >>= fun _ => promoteCandidate projection) := by
  have hpromotes : c.Promotes := by
    cases c <;> trivial
  refine safe_writeReceipt hstate hreceipt (ending_error hs.quiet) fun hnone => ?_
  obtain ⟨hready, hstored⟩ := ready_receipt hs (receiptOf_isReceipt hreceipt) (utf8 text)
  refine safe_promoteCandidate hready hstored hpromotes ?_ (hfresh hnone) ?_
  · intro state' hstate' hc
    rw [hstate] at hstate'
    cases hstate'
    exact hfirst hc
  · intro k' hk'
    rw [hk] at hk'
    cases hk'
    exact ⟨state, text, hstate,
      hreceipt, by simpa using Dir.durable_install (rootOf s) k.receipt (utf8 text)⟩

theorem safe_promoteInitial (generation : UInt64) (slot : Int32) (intent : String) :
    Keeps projection (.promoteInitialPaired generation slot intent) s
      (promoteInitialPairedCandidate projection generation slot intent) := by
  refine keeps_check hs fun _ _ => keeps_candidate hs fun state hstate hactive =>
    keeps_refuse hs fun hrecovery => ?_
  refine safe_oneShot (k := .initialPaired) hs rfl hstate rfl (fun _ => hactive) fun hcommit => ?_
  simp [refusedReceipts, hrecovery, show (rootOf s).get initialPairCommitReceipt = none from hcommit]

theorem safe_recoverInitial (generation : UInt64) (slot : Int32) (original recovery candidateSha : String) :
    Keeps projection (.recoverInitialPaired generation slot original recovery candidateSha) s
      (recoverInitialPairedCandidate projection generation slot original recovery candidateSha) := by
  refine keeps_check hs fun _ _ => keeps_refuse hs fun hrecovery => ?_
  -- an original receipt may be present; what it says does not matter here
  refine safe_readReceipt_any (ending_error hs.quiet) fun _ => keeps_check hs fun _ _ => ?_
  refine keeps_candidate hs fun state hstate hactive => ?_
  refine safe_oneShot (k := .initialRecovery) hs rfl hstate rfl (fun _ => hactive) fun _ => ?_
  simp [refusedReceipts, hrecovery]

theorem safe_promoteExistingJoin (generation : UInt64) (slot : Int32) (candidateSha : String)
    (sourceGeneration : UInt64) (sourceSlot : Int32) (source windowsCandidate intent : String) :
    Keeps projection
      (.promoteExistingJoin generation slot candidateSha sourceGeneration sourceSlot source
        windowsCandidate intent) s
      (promoteExistingActiveJoin projection generation slot candidateSha sourceGeneration sourceSlot source
        windowsCandidate intent) := by
  refine keeps_check hs fun _ _ => keeps_candidate hs fun state hstate hactive => ?_
  refine keeps_refuse hs fun hcommit => keeps_refuse hs fun hrecovery => keeps_refuse hs fun hjoin => ?_
  refine safe_oneShot (k := .existingJoin) hs rfl hstate rfl (fun _ => hactive) fun _ => ?_
  simp [refusedReceipts, hcommit, hrecovery, hjoin]

theorem safe_promoteWindowsJoin (generation : UInt64) (slot : Int32)
    (windowsActive windowsCandidate vm intent : String) :
    Keeps projection (.promoteWindowsJoin generation slot windowsActive windowsCandidate vm intent) s
      (promoteWindowsExistingJoin projection generation slot windowsActive windowsCandidate vm intent) := by
  refine keeps_check hs fun _ _ => safe_readState hs.consistent (keeps_check hs fun state hstate => ?_)
  rw [okOr_eq_ok] at hstate
  refine keeps_check hs fun _ _ => keeps_check hs fun active hactive =>
    keeps_check hs fun candidate hcandidate =>
    keeps_check hs fun _ _ => ?_
  rw [okOr_eq_ok] at hactive hcandidate
  have hbacked := (hs.consistent.sound hstate).backed
  refine safe_readBundle_backed hbacked (mem_references_active hactive) fun _ =>
    safe_readBundle_backed hbacked (mem_references_candidate hcandidate) fun _ => ?_
  refine keeps_refuse hs fun hrecovery => keeps_refuse hs fun hjoin => ?_
  refine safe_readReceipt_any (ending_error hs.quiet) fun _ => keeps_check hs fun _ _ => ?_
  refine safe_oneShot (k := .windowsJoin) hs rfl hstate (by simp only [receiptOf, hactive]; rfl)
    (fun h => h.elim)
    fun _ => ?_
  simp [refusedReceipts, hrecovery, hjoin]

/-- A preparation ends refused, or with its receipt and nothing else written. -/
theorem safe_prepare {source : LocalCredentialBundleRef} {vm begin : String}
    {Q : Except String (Option LocalCredentialState) → StoreWorld → Prop} (herr : ∀ e, Q (.error e) s)
    (hdone : Q (.ok none) (s.setDir .root ((rootOf s).install existingJoinPrepareReceipt
      (utf8 (existingJoinPrepareText projection source candidate vm begin))))) :
    StoreSafe projection (.prepareWindowsJoin source candidate vm begin) s
      (prepareWindowsExistingJoin projection source candidate vm begin >>= fun _ => pure none) Q s := by
  refine safe_bind.mpr (Safe.check herr fun _ _ => safe_readState hs.consistent
    (Safe.check herr fun state hstate => Safe.check herr fun _ hsame => ?_))
  rw [okOr_eq_ok] at hstate
  simp only [rejectIf_eq_ok, not_or, not_not] at hsame
  have hbacked := (hs.consistent.sound hstate).backed
  refine safe_refuseReceipt herr fun _ => safe_refuseReceipt herr fun _ => ?_
  refine safe_readBundle_backed hbacked (mem_references_active hsame.1) fun _ =>
    safe_readBundle_backed hbacked (mem_references_candidate hsame.2.1) fun _ => ?_
  exact safe_bind.mp (safe_writeReceipt (k := fun _ => pure none) hstate rfl herr fun _ => hdone)

theorem safe_prepareWindowsJoin (source candidate : LocalCredentialBundleRef) (vm begin : String) :
    Keeps (α := Option LocalCredentialState) projection (.prepareWindowsJoin source candidate vm begin) s
      (prepareWindowsExistingJoin projection source candidate vm begin >>= fun _ => pure none) := by
  obtain ⟨hready, hstored⟩ := ready_receipt hs (n := existingJoinPrepareReceipt) (by decide)
    (utf8 (existingJoinPrepareText projection source candidate vm begin))
  exact safe_prepare hs (ending_error hs.quiet) ⟨hready.quiet, fun _ _ => .inl hstored⟩

end

/-! ### The operations without receipts -/

/-- The state with the active and the previous bundle exchanged. -/
def swapped (projection : CredentialProjectionKind) (active previous : LocalCredentialBundleRef) :
    LocalCredentialState :=
  ⟨1, toI32 projection, some previous, none, some active⟩

theorem WellFormed.swapped (h : WellFormed state)
    (howner : state.projection = toI32 projection) (hactive : state.active = some active)
    (hprevious : state.previous = some previous) : WellFormed (swapped projection active previous) where
  schema := rfl
  projection := by
    obtain ⟨kind, hspecified, hkind⟩ := h.projection
    exact ⟨kind, hspecified, howner.symm.trans hkind⟩
  nonempty := by simp [Credential.swapped]
  previous_active := by simp [Credential.swapped]
  exclusive := by simp [Credential.swapped]
  valid r hr := by
    simp only [Credential.swapped, LocalCredentialState.references, Option.toList_some, Option.toList_none,
      List.append_nil, List.singleton_append, List.mem_cons, List.not_mem_nil, or_false] at hr
    rcases hr with rfl | rfl
    · exact h.valid _ (mem_references_previous hprevious)
    · exact h.valid _ (mem_references_active hactive)
  candidate := by simp [Credential.swapped]
  previous a ha p hp := by
    cases ha
    cases hp
    have hopposite := h.previous active hactive previous hprevious
    exact ⟨hopposite.generation.symm, hopposite.sha256.symm, hopposite.slot.symm⟩

/-- **Rolling back**, from the checks on. It leaves the exchanged state, and the bundles as they were. -/
theorem safe_swap {Q : Except String LocalCredentialState → StoreWorld → Prop}
    (hs : Ready projection s) (hstate : stored s = some state)
    (hcandidate : state.candidate = none) (hactive : state.active = some active)
    (hprevious : state.previous = some previous)
    (hdone : ∀ w', Quiet w' → stored w' = some (swapped projection active previous) →
      bundlesOf w' = bundlesOf s → Q (.ok (swapped projection active previous)) w') :
    StoreSafe projection .rollback s (do
      validateLocalCredentialState (swapped projection active previous)
      writeState projection (swapped projection active previous)
      pure (swapped projection active previous)) Q s := by
  have hsound := hs.consistent.sound hstate
  have hvalid := validateLocalCredentialState_eq_ok.mpr
      (hsound.wellFormed.swapped hsound.owner hactive hprevious)
  have hdurable := Dir.durable_replace (rootOf s) stateTemp stateFile
    (LocalCredentialState.codec.encode (swapped projection active previous))
  refine Safe.lift_ok hvalid (safe_writeState ?_ ⟨?_, by simp [refusedReceipts], by simp [StoreCall.oneShot]⟩
    (hdone _ (hs.quiet.setDir fun n => (hs.quiet .root n).replace _ _ _)
      (stored_of_durable hdurable) rfl))
  · refine hsound.of_subset hvalid rfl fun r hr => ?_
    simp only [swapped, LocalCredentialState.references, Option.toList_some, Option.toList_none,
      List.append_nil, List.singleton_append, List.mem_cons, List.not_mem_nil, or_false] at hr
    rcases hr with rfl | rfl
    · exact mem_references_previous hprevious
    · exact mem_references_active hactive
  · rw [hstate]
    exact .rollback hcandidate hactive hprevious

theorem safe_rollback (hs : Ready projection s) :
    Keeps projection .rollback s (rollbackPrevious projection) := by
  refine safe_readState hs.consistent (keeps_check hs fun state hstate => keeps_check hs fun _ hcandidate =>
    keeps_check hs fun active hactive => keeps_check hs fun previous hprevious => ?_)
  rw [okOr_eq_ok] at hstate hactive hprevious
  exact safe_swap hs hstate (by simpa using hcandidate) hactive hprevious fun _ hq _ _ =>
    ⟨hq, fun _ _ => .inr (.inl rfl)⟩

theorem safe_drop (hs : Ready projection s) :
    Keeps projection .drop s (dropPrevious projection) := by
  refine safe_readState hs.consistent ?_
  cases hstate : stored s with
  | none => exact ending_same hs.quiet none
  | some current =>
    dsimp only
    split_ifs with hprevious
    · exact ending_same hs.quiet _
    · refine keeps_check hs fun _ hvalid => ?_
      refine safe_finish hs.quiet ?_ ⟨?_, by simp [refusedReceipts], by simp [StoreCall.oneShot]⟩
        fun w' hq _ ht => ending_tidy hq ht _
      · have hsound := hs.consistent.sound hstate
        refine hsound.of_subset hvalid hsound.owner fun r hr => ?_
        simp only [LocalCredentialState.references, List.mem_append] at hr ⊢
        exact hr.imp_right fun h => by simp at h
      · rw [hstate]
        exact .drop hprevious

theorem safe_removeStateFile {Q : Except String α → StoreWorld → Prop} (hstate : stored s = some state)
    (hadmitted : Admitted projection c s s none)
    (hdone : StoreSafe projection c s (k ()) Q (s.setDir .root ((rootOf s).unlink stateFile))) :
    StoreSafe projection c s (removeStateFile >>= k) Q s := by
  have hpresent : ((rootOf s).get stateFile).isSome = true := by
    cases hget : (rootOf s).get stateFile with
    | none => simp [stored, Dir.read, hget] at hstate
    | some f => rfl
  refine safe_bind.mpr (safe_remove.mpr ⟨.clear hadmitted, ?_⟩)
  rw [if_pos hpresent]
  refine safe_syncDir.mpr ⟨.syncDir, ?_⟩
  simpa [Dir.unlink] using hdone

/-- The state without its candidate; a state without any bundle is no state. -/
def withoutCandidate (state : LocalCredentialState) : Option LocalCredentialState :=
  if state.active = none ∧ state.previous = none then none else some { state with candidate := none }

theorem WellFormed.discarded (h : WellFormed state) (hactive : state.active ≠ none) :
    WellFormed { state with candidate := none } where
  schema := h.schema
  projection := h.projection
  nonempty hnone := hactive hnone.1
  previous_active := h.previous_active
  exclusive := by simp
  valid r hr := by
    refine h.valid r ?_
    simp only [LocalCredentialState.references, Option.toList_none, List.append_nil, List.mem_append] at hr ⊢
    exact hr.imp_left .inl
  candidate := by simp
  previous := h.previous

/-- **Discarding**, from the check of the preparation receipt on. -/
theorem safe_removeCandidate {Q : Except String (Option LocalCredentialState) → StoreWorld → Prop}
    {current : LocalCredentialState} (hs : Ready projection s) (hstate : stored s = some current)
    (hcandidate : current.candidate ≠ none)
    (hfresh : ∀ n ∈ refusedReceipts projection .discard, (rootOf s).get n = none)
    (hdone : ∀ w', Quiet w' → stored w' = withoutCandidate current → Tidy w' →
      Q (.ok (withoutCandidate current)) w') :
    StoreSafe projection .discard s
      (if current.active = none ∧ current.previous = none then do
        removeStateFile
        gcAllBundles
        pure none
      else do
        let next := { current with candidate := none }
        validateLocalCredentialState next
        writeState projection next
        gcUnreferencedBundles next
        pure (some next)) Q s := by
  have hsound := hs.consistent.sound hstate
  split_ifs with hempty
  · -- the candidate was all there was
    rw [withoutCandidate, if_pos hempty] at hdone
    have hadmitted : Admitted projection .discard s s none :=
      ⟨by rw [hstate]; exact .clear hcandidate hempty.1 hempty.2, hfresh, by simp [StoreCall.oneShot]⟩
    have hquiet := hs.quiet.setDir (i := .root) fun n => (hs.quiet .root n).unlink stateFile
    have habsent : (rootOf (s.setDir .root ((rootOf s).unlink stateFile))).Absent stateFile :=
      (hquiet .root stateFile).absent (by simp)
    refine safe_removeStateFile hstate hadmitted (safe_gcAll hquiet habsent fun d hd hnone =>
      hdone _ (hquiet.setDir hd) ?_ ?_)
    · simp [stored, Dir.read]
    · intro n _
      simp [hnone, stored]
  · rw [withoutCandidate, if_neg hempty] at hdone
    have hactive : current.active ≠ none := fun hactive => hempty ⟨hactive, by
      by_contra hprevious
      exact hsound.wellFormed.previous_active hprevious hactive⟩
    have hvalid := validateLocalCredentialState_eq_ok.mpr (hsound.wellFormed.discarded hactive)
    refine Safe.lift_ok hvalid (safe_finish hs.quiet ?_ ⟨?_, hfresh, by simp [StoreCall.oneShot]⟩ hdone)
    · refine hsound.of_subset hvalid hsound.owner fun r hr => ?_
      simp only [LocalCredentialState.references, Option.toList_none, List.append_nil,
        List.mem_append] at hr ⊢
      exact hr.imp_left .inl
    · rw [hstate]
      exact .discard hcandidate hactive

theorem safe_discard (hs : Ready projection s) :
    Keeps projection .discard s (discardCandidate projection) := by
  unfold discardCandidate
  by_cases hwindows : projection = .windows
  case' pos =>
    rw [if_pos hwindows]
    refine keeps_refuse hs fun hprepare => ?_
    have hfresh : ∀ n ∈ refusedReceipts projection .discard, (rootOf s).get n = none := by
      simp [refusedReceipts, hwindows, hprepare]
  case' neg =>
    rw [if_neg hwindows]
    have hfresh : ∀ n ∈ refusedReceipts projection .discard, (rootOf s).get n = none := by
      simp [refusedReceipts, hwindows]
  -- from the check of the preparation receipt on
  all_goals
    refine safe_readState hs.consistent ?_
    cases hstate : stored s with
    | none => exact ending_same hs.quiet none
    | some current =>
      dsimp only
      by_cases hcandidate : current.candidate = none
      · rw [if_pos hcandidate]
        exact ending_same hs.quiet _
      · rw [if_neg hcandidate]
        exact safe_removeCandidate hs hstate hcandidate hfresh fun w' hq _ ht => ending_tidy hq ht _

/-! ### Staging -/

section

variable (hs : Ready projection s)
include hs

/-- The references of the state a staging works from are backed. -/
theorem backed_current :
    ∀ r ∈ ((stored s).getD (freshState projection)).references, ∃ bundle, IsBundleOf projection r bundle ∧
      (bundlesOf s).Durable (bundleName r) (CredentialDeliveryBundle.codec.encode bundle) := by
  intro r hr
  cases hstate : stored s with
  | none => simp [hstate, freshState, LocalCredentialState.references] at hr
  | some state =>
    rw [hstate] at hr
    exact (hs.consistent.sound hstate).backed r hr

/-- So are those of the state a staging makes, once the bundle is there. -/
theorem backed_staged (hprevious : ((stored s).getD (freshState projection)).previous = none)
    (hkept : ∀ r b, (bundlesOf s).Durable (bundleName r) b → d.Durable (bundleName r) b)
    (hbundle : IsBundleOf projection candidate bundle)
    (hdurable : d.Durable (bundleName candidate) (CredentialDeliveryBundle.codec.encode bundle)) :
    Backed projection (s.setDir .bundles d)
      { (stored s).getD (freshState projection) with candidate := some candidate } := by
  intro r hr
  simp only [LocalCredentialState.references, Option.toList_some, List.mem_append, List.mem_singleton] at hr
  rcases hr with (hr | rfl) | hr
  · obtain ⟨b, hb, hdur⟩ := backed_current hs r (mem_references_active (Option.mem_toList.mp hr))
    exact ⟨b, hb, by simpa using hkept r _ hdur⟩
  · exact ⟨bundle, hbundle, hdurable⟩
  · rw [hprevious] at hr
    cases hr

theorem current_owner : ((stored s).getD (freshState projection)).projection = toI32 projection := by
  cases hstate : stored s with
  | none => rfl
  | some state => exact (hs.consistent.sound hstate).owner

theorem safe_stage (hc : c.Stages bundle) (hplain : c.oneShot = none)
    (hrefused : refusedReceipts projection c = []) :
    Keeps projection c s (stageCandidate projection bundle) := by
  refine keeps_check hs fun _ howner => keeps_check hs fun _ hreal =>
    keeps_check hs fun candidate hcandidate => ?_
  obtain ⟨hvalid, hdummy, hfull, hreference⟩ := localCredentialBundleRef_eq_ok.mp hcandidate
  have hbundle : IsBundleOf projection candidate bundle :=
    ⟨hvalid, hdummy, hfull, by simpa using howner, hreference⟩
  refine safe_readState hs.consistent (keeps_check hs fun _ hprevious => ?_)
  have hprevious' : ((stored s).getD (freshState projection)).previous = none := by
    cases hp : ((stored s).getD (freshState projection)).previous with
    | none => rfl
    | some p => simp [hp] at hprevious
  split
  · -- the same bundle is staged already
    refine keeps_check hs fun _ _ => ending_same hs.quiet _
  · next hnone =>
      refine keeps_check hs fun _ _ => keeps_check hs fun _ _ => keeps_check hs fun _ hnext => ?_
      refine safe_createDirAll (i := .bundles) hs.housed ?_
      refine safe_persistBundle hbundle hs.quiet hs.housed
        (fun _ _ => ending_error hs.quiet) fun d hd hkept hdurable => ?_
      have hbacked := backed_staged hs hprevious' hkept hbundle hdurable
      exact safe_finish (hs.quiet.setDir hd)
        ⟨validateLocalCredentialState_eq_ok.mp hnext, current_owner hs, hbacked⟩
        ⟨.stage hc hcandidate hnone hprevious', by simp [hrefused], by simp [hplain]⟩
        fun w' hq _ ht => ending_tidy hq ht _

theorem safe_stageDelivery (delivery : CredentialDeliveryBundle) :
    Keeps projection (.stageDelivery delivery) s (stageDeliveryCandidate projection delivery) := by
  -- from the active bundle on
  have hrest : ∀ active, Keeps projection (.stageDelivery delivery) s
      ((liftM (materializeCredentialDeliveryCandidate active delivery) :
        StoreProc CredentialDeliveryBundle) >>=
        stageCandidate projection) := fun active =>
    keeps_check hs fun bundle hbundle =>
      safe_stage hs (.inr ⟨delivery, active, rfl, hbundle⟩) rfl rfl
  refine safe_readState hs.consistent ?_
  cases hstate : stored s with
  | none => exact hrest none
  | some state =>
    cases hactive : state.active with
    | none =>
      simp only [Option.bind_some, hactive]
      exact hrest none
    | some r =>
      simp only [Option.bind_some, hactive]
      refine safe_bind.mpr (safe_readBundle_backed (hs.consistent.sound hstate).backed
        (mem_references_active hactive) fun bundle => ?_)
      exact hrest (some bundle)

/-- **Every call keeps to the protocol.** -/
theorem safe_run (c : StoreCall) : Keeps projection c s (c.run projection) := by
  cases c with
  | stage bundle => exact safe_map (safe_stage hs (.inl rfl) rfl rfl)
  | stageDelivery delivery => exact safe_map (safe_stageDelivery hs delivery)
  | promoteInitialPaired generation slot intent =>
    exact safe_map (safe_promoteInitial hs generation slot intent)
  | recoverInitialPaired generation slot original recovery candidate =>
    exact safe_map (safe_recoverInitial hs generation slot original recovery candidate)
  | promoteExistingJoin generation slot candidate sourceGeneration sourceSlot source
      windowsCandidate intent =>
    exact safe_map (safe_promoteExistingJoin hs generation slot candidate sourceGeneration sourceSlot source
      windowsCandidate intent)
  | prepareWindowsJoin source candidate vm begin =>
    exact safe_prepareWindowsJoin hs source candidate vm begin
  | promoteWindowsJoin generation slot active candidate vm intent =>
    exact safe_map (safe_promoteWindowsJoin hs generation slot active candidate vm intent)
  | promote =>
    refine safe_map (safe_promoteCandidate hs rfl trivial (fun _ _ h => h.elim) ?_ ?_)
    · simp [refusedReceipts]
    · simp [StoreCall.oneShot]
  | rollback => exact safe_map (safe_rollback hs)
  | discard => exact safe_discard hs
  | drop => exact safe_drop hs

end

end Calls

end EdgePlatform.Credential
