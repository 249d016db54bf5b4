import EdgePlatform.Credential.Success

/-!
# `EdgePlatform.Credential.Runs` — what holds over every run of a credential store

A run is a finite sequence of store operations with any arguments, each of which may be cut off after any of
its file-system steps. `StepFacts` says what one permitted step does to the state file, to the bundles a
possible state refers to, and to the receipts; the invariants of this module are proved from these facts and
from nothing else:

* `Consistent`: whatever a crash leaves, the state file is absent or holds a whole state all of whose bundles
  are there;
* `Activated`: once an active bundle is recorded, one is recorded ever after;
* a receipt that exists keeps existing, and a pointer change of a one-shot operation is never without its
  whole receipt.

The process may be killed or the power may fail. What is proved needs every call to start over settled
directories (`Settled`) and the bundle directory to be there for good (`provisionedStore`). Without the
latter the first staging, and without the former a repeated one, can leave a state file that cannot be read
(`crash_leaves_unreadable_state`); and a pointer change that was killed before its sync can be lost and made
once more (`promoted_twice`).
-/

namespace EdgePlatform.Credential

open Foundation Foundation.Wire Foundation.Proc

variable {projection : CredentialProjectionKind} {c : StoreCall} {s w w' : StoreWorld}

/-! ## The facts of one step -/

/-- The state file as a file. -/
def stateValue (next : Option LocalCredentialState) : Option File :=
  next.map fun state => ⟨LocalCredentialState.codec.encode state, true⟩

/-- A crash may find the state file holding `state`. -/
def MayHold (w : StoreWorld) (state : LocalCredentialState) : Prop :=
  (rootOf w).Possible stateFile (stateValue (some state))

/-- What one permitted step of call `c`, begun in `s`, does. -/
structure StepFacts (projection : CredentialProjectionKind) (c : StoreCall)
    (s w w' : StoreWorld) : Prop where
  /-- What a reader finds in the state file changes only by an admitted change. -/
  live : (rootOf w').get stateFile = (rootOf w).get stateFile ∨
    ∃ next, (rootOf w').get stateFile = stateValue next ∧ Admitted projection c s w next
  /-- The state file may hold what it could hold before, or what the call is admitted to make of it. -/
  pointer : ∀ v, (rootOf w').Possible stateFile v → (rootOf w).Possible stateFile v ∨
    ∃ next, v = stateValue next ∧ Admitted projection c s w next ∧
      (∀ state, next = some state → Sound projection w state) ∧ bundlesOf w' = bundlesOf w
  /-- The bundles of a possible state are kept. -/
  kept : ∀ state, MayHold w state → ∀ r ∈ state.references, ∀ b,
    (bundlesOf w).Durable (bundleName r) b → (bundlesOf w').Durable (bundleName r) b
  /-- The bundle directory is kept. -/
  housed : Housed w → Housed w'
  /-- Receipts are kept, as they are if they are whole. -/
  durable : ∀ n b, IsReceipt n → (rootOf w).Durable n b → (rootOf w').Durable n b
  present : ∀ n, IsReceipt n → (rootOf w).Present n → (rootOf w').Present n

/-- What a call can make of a receipt: the empty file, or its text where there was none. -/
def MayRecord (projection : CredentialProjectionKind) (c : StoreCall) (s : StoreWorld) (n : String)
    (f : File) : Prop :=
  f.data = [] ∨ ∃ state text, stored s = some state ∧ receiptOf projection c state = some (n, text) ∧
    (rootOf s).get n = none ∧ f.data = utf8 text

/-- All that one permitted step does, with what it may write into a receipt. -/
structure StepEffects (projection : CredentialProjectionKind) (c : StoreCall) (s w w' : StoreWorld) : Prop
    extends StepFacts projection c s w w' where
  written : ∀ n v, IsReceipt n → (rootOf w').Possible n v →
    (rootOf w).Possible n v ∨ ∃ f, v = some f ∧ MayRecord projection c s n f

/-- The names in the root besides the scratch names. -/
def IsLasting (n : String) : Prop := n = stateFile ∨ n = bundlesDir ∨ IsReceipt n

theorem IsLasting.ne_temp {n t : String} (hn : IsLasting n) (ht : IsTemp t) : n ≠ t := by
  rintro rfl
  rcases hn with rfl | rfl | hn
  · exact not_isTemp_stateFile ht
  · exact absurd ht (by decide)
  · exact hn.not_isTemp ht

/-- A step that opens nothing new at a lasting name, and keeps every durable bundle. -/
theorem StepEffects.frame (hlive : (rootOf w').get stateFile = (rootOf w).get stateFile)
    (hroot : ∀ n, IsLasting n → ∀ v, (rootOf w').Possible n v → (rootOf w).Possible n v)
    (hbundles : ∀ r b, (bundlesOf w).Durable (bundleName r) b → (bundlesOf w').Durable (bundleName r) b) :
    StepEffects projection c s w w' where
  live := .inl hlive
  pointer v hv := .inl (hroot stateFile (.inl rfl) v hv)
  kept _ _ r _ b hb := hbundles r b hb
  housed h v hv := h v (hroot bundlesDir (.inr (.inl rfl)) v hv)
  durable n _ hn hb v hv := hb v (hroot n (.inr (.inr hn)) v hv)
  present n hn hp hv := hp (hroot n (.inr (.inr hn)) none hv)
  written n v hn hv := .inl (hroot n (.inr (.inr hn)) v hv)

/-- A step that rewrites nothing but the own receipt `n`. -/
theorem StepEffects.receipt {n : String} (hn : IsReceipt n) (hagree : Dir.AgreeOff n (rootOf w) (rootOf w'))
    (hbundles : bundlesOf w' = bundlesOf w)
    (hwritten : ∀ v, (rootOf w').Possible n v → (rootOf w).Possible n v ∨ ∃ f, v = some f ∧
      MayRecord projection c s n f)
    (hsame : ∀ b, (rootOf w).Durable n b → (rootOf w').Durable n b) : StepEffects projection c s w w' where
  live := .inl (hagree stateFile hn.ne_stateFile.symm).1
  pointer v hv := .inl (((hagree stateFile hn.ne_stateFile.symm).2 v).mp hv)
  kept _ _ _ _ _ hb := hbundles ▸ hb
  housed h := hagree.durable hn.ne_bundlesDir.symm h
  durable m b _ hb := by
    by_cases hm : m = n
    · exact hm ▸ hsame b (hm ▸ hb)
    · exact hagree.durable hm hb
  present m _ hp := by
    by_cases hm : m = n
    · exact fun hv => hp (hm ▸ (hwritten none (hm ▸ hv)).resolve_right fun ⟨_, hsome, _⟩ => nomatch hsome)
    · exact hagree.present hm hp
  written m v _ hv := by
    by_cases hm : m = n
    · exact hm ▸ hwritten v (hm ▸ hv)
    · exact .inl (((hagree m hm).2 v).mp hv)

variable {next : Option LocalCredentialState} {ts : List (storeSystem projection).Turn}
variable {state : LocalCredentialState} {k : OneShot} {r : LocalCredentialBundleRef}

/-- A step that changes the state file and nothing else that lasts. -/
theorem StepEffects.pointed (hadmitted : Admitted projection c s w next)
    (hsound : ∀ state, next = some state → Sound projection w state) (hbundles : bundlesOf w' = bundlesOf w)
    (hlive : (rootOf w').get stateFile = stateValue next)
    (hstate : ∀ v, (rootOf w').Possible stateFile v → (rootOf w).Possible stateFile v ∨ v = stateValue next)
    (hrest : ∀ n, IsLasting n → n ≠ stateFile → ∀ v, (rootOf w').Possible n v → (rootOf w).Possible n v) :
    StepEffects projection c s w w' where
  live := .inr ⟨next, hlive, hadmitted⟩
  pointer v hv := by
    rcases hstate v hv with hold | hnew
    · exact .inl hold
    · exact .inr ⟨next, hnew, hadmitted, hsound, hbundles⟩
  kept _ _ _ _ _ hb := hbundles ▸ hb
  housed h v hv := h v (hrest bundlesDir (.inr (.inl rfl)) (by decide) v hv)
  durable n _ hn hb v hv := hb v (hrest n (.inr (.inr hn)) hn.ne_stateFile v hv)
  present n hn hp hv := hp (hrest n (.inr (.inr hn)) hn.ne_stateFile none hv)
  written n v hn hv := .inl (hrest n (.inr (.inr hn)) hn.ne_stateFile v hv)

/-- **One step.** Every permitted step has these effects and no others that matter. -/
theorem StorePermitted.facts {op : (fsSig StoreDir noOwn).Op} {a : (fsSig StoreDir noOwn).Ans op}
    (hp : StorePermitted projection c s op w) (hs : storeSem op w a w') :
    StepEffects projection c s w w' := by
  cases hp with
  | @look i o _ ho =>
    obtain ⟨d', hd, rfl⟩ := hs
    have hsame : d' = w.dirs i := by
      cases ho <;> exact hd.2
    rw [hsame, FsWorld.setDir_self]
    exact .frame rfl (fun _ _ _ h => h) fun _ _ h => h
  | @syncDir i _ =>
    obtain ⟨d', rfl, rfl⟩ := hs
    cases i with
    | root =>
      refine .frame (by simp) (fun n _ v hv => ?_) fun _ _ h => h
      exact Dir.narrows_syncDir _ n v hv
    | bundles =>
      refine .frame (by simp) (fun n _ v hv => hv) fun r b hb => ?_
      simpa using (Dir.narrows_syncDir _).durable hb
  | @scratch i t b o _ ht ho =>
    obtain ⟨d', hd, rfl⟩ := hs
    have hagree := ho.agreeOff hd
    cases i with
    | root =>
      have hlive := (hagree stateFile (stateFile_ne_temp ht)).1
      refine .frame hlive (fun n hn v hv => ?_) fun _ _ h => h
      exact ((hagree n (hn.ne_temp ht)).2 v).mp hv
    | bundles =>
      refine .frame (by simp) (fun n _ v hv => hv) fun r b' hb => ?_
      simpa using hagree.durable (bundleName_ne_temp ht) hb
  | @publish t r bundle _ ht _ htemp hfree =>
    obtain ⟨d', ⟨-, rfl⟩, rfl⟩ := hs
    refine .frame (by simp) (fun n _ v hv => hv) fun r' b hb v hv => ?_
    -- the target name was free, so it was not durable
    have hne : bundleName r' ≠ bundleName r := fun heq => by
      have hget := hb.get
      rw [heq, hfree] at hget
      cases hget
    rcases Dir.possible_rename htemp hv with hold | ⟨heq, -⟩ | ⟨heq, -⟩
    · exact hb v hold
    · exact absurd heq (bundleName_ne_temp ht)
    · exact absurd heq hne
  | @point t next _ ht htemp hsound hadmitted =>
    obtain ⟨d', ⟨-, rfl⟩, rfl⟩ := hs
    refine .pointed hadmitted (fun state h => by cases h; exact hsound) (by simp) ?_ (fun v hv => ?_)
      fun n hn hne v hv => ?_
    · simp [Dir.get_rename htemp, stateValue]
    · rcases Dir.possible_rename htemp hv with hold | ⟨heq, -⟩ | ⟨-, hnew⟩
      · exact .inl hold
      · exact absurd heq (stateFile_ne_temp ht)
      · exact .inr hnew
    · rcases Dir.possible_rename htemp hv with hold | ⟨heq, -⟩ | ⟨heq, -⟩
      · exact hold
      · exact absurd heq (hn.ne_temp ht)
      · exact absurd heq hne
  | @clear _ hadmitted =>
    obtain ⟨d', ⟨-, rfl⟩, rfl⟩ := hs
    split_ifs
    · refine .pointed hadmitted (fun _ h => nomatch h) (by simp) (by simp [stateValue]) (fun v hv => ?_)
        fun n hn hne v hv => ?_
      · have hv' := Dir.possible_remove.mp hv
        exact hv'.imp_right fun h => h.2
      · rcases Dir.possible_remove.mp hv with hold | ⟨heq, -⟩
        · exact hold
        · exact absurd heq hne
    · rw [FsWorld.setDir_self]
      exact .frame rfl (fun _ _ _ h => h) fun _ _ h => h
  | @sweep n _ hunreferenced =>
    obtain ⟨d', ⟨-, rfl⟩, rfl⟩ := hs
    refine ⟨⟨.inl (by simp), fun v hv => .inl hv, fun state hstate r hr b hb => ?_,
      id, fun _ _ _ h => h, fun _ _ h => h⟩, fun _ _ _ h => .inl h⟩
    have hne : bundleName r ≠ n := hunreferenced _ hstate state rfl r hr
    split_ifs
    · simpa using (Dir.agreeOff_remove (bundlesOf w) n).durable hne hb
    · simpa using hb
  | house hhoused =>
    obtain ⟨d', ⟨-, rfl⟩, rfl⟩ := hs
    have hget : (rootOf w).get bundlesDir = some ⟨[], true⟩ := hhoused.get
    rw [if_neg (by simp [hget]), FsWorld.setDir_self]
    exact .frame rfl (fun _ _ _ h => h) fun _ _ h => h
  | @attempt state n text _ _ hreceipt =>
    obtain ⟨d', hd, rfl⟩ := hs
    have hwrites : (DirOp.createNew n).Writes n [] := .createNew
    refine .receipt (receiptOf_isReceipt hreceipt) (by simpa using hwrites.agreeOff hd) (by simp)
      (fun v hv => ?_)
      fun b hb => ?_
    · refine (hwrites.possible hd hv).imp_right fun ⟨f, hf, hnew⟩ => ⟨f, hf, .inl ?_⟩
      simpa using hnew
    · obtain ⟨-, rfl⟩ := hd
      rw [if_neg (by simp [hb.get])]
      simpa using hb
  | @record state n text o _ hstate hreceipt ho hunsure hfresh hcontent =>
    obtain ⟨d', hd, rfl⟩ := hs
    refine .receipt (receiptOf_isReceipt hreceipt) (by simpa using ho.agreeOff hd) (by simp) (fun v hv => ?_)
      fun b hb => nomatch hb none hunsure
    refine (ho.possible hd hv).imp_right fun ⟨f, hf, hnew⟩ => ⟨f, hf, ?_⟩
    -- the file is empty before the text is appended, and whole before it is synced
    have hwhole : f.data = utf8 text → MayRecord projection c s n f := fun hdata =>
      .inr ⟨state, text, hstate, hreceipt, hfresh, hdata⟩
    rcases hnew with hempty | ⟨g, hg, hnew⟩
    · exact .inl hempty
    · rcases hcontent with hold | ⟨rfl, hold⟩ <;> cases hg.symm.trans hold
      · rcases hnew with ⟨-, hdata⟩ | ⟨-, hdata⟩
        · exact hwhole hdata
        · exact .inl hdata
      · exact hwhole (by simpa using hnew)

/-! ## Consistency -/

/-- A step of any call keeps a store consistent. -/
theorem StepFacts.consistent (h : StepFacts projection c s w w') (hw : Consistent projection w) :
    Consistent projection w' := by
  intro v hv
  rcases h.pointer v hv with hold | ⟨next, rfl, -, hsound, hbundles⟩
  · rcases hw v hold with hnone | ⟨state, rfl, hstate⟩
    · exact .inl hnone
    · exact .inr ⟨state, rfl, hstate.of_bundles fun r hr b => h.kept state hold r hr b⟩
  · cases next with
    | none => exact .inl rfl
    | some state => exact .inr ⟨state, rfl, (hsound state rfl).of_bundles fun _ _ _ hb => hbundles ▸ hb⟩

/-- What the state file holds after a crash is what it could hold before. -/
theorem Consistent.crash_get (hw : Consistent projection w) (hcrash : fsCrash w w') :
    (rootOf w).Possible stateFile ((rootOf w').get stateFile) := by
  obtain ⟨v, hv, htorn⟩ := (hcrash.1 .root).entry stateFile
  rcases hw v hv with rfl | ⟨state, rfl, -⟩
  · generalize hget : (rootOf w').get stateFile = u at htorn
    cases htorn
    exact hv
  · generalize hget : (rootOf w').get stateFile = u at htorn
    cases htorn
    exact hv

/-- A power failure leaves a store in which calls may begin. -/
theorem Whole.crash (hw : Whole projection w) (hcrash : storeCrash w w') : Ready projection w' := by
  have hdirs := hw.housed.fsCrash_of hcrash
  refine ⟨⟨fun v hv => ?_, hcrash.1.durable hw.housed⟩, fun i n => (hdirs.1 i).quietAt n⟩
  have hget : v = (rootOf w').get stateFile := (hcrash.1.quietAt stateFile v hv).1
  rcases hw.consistent v (hget ▸ hw.consistent.crash_get hdirs) with hnone | ⟨state, rfl, hstate⟩
  · exact .inl hnone
  · exact .inr ⟨state, rfl, hstate.of_bundles fun _ _ _ hb => (hdirs.1 .bundles).durable hb⟩

/-- **Runs keep the store whole**, whatever else they are shown to keep, where every call starts over settled
    directories. -/
theorem preserves_store {I : StoreWorld → Prop}
    (hstep : ∀ c s w w', Ready projection s → I s → I w → StepFacts projection c s w w' → I w')
    (hcrash : ∀ w w', Whole projection w → I w → fsCrash w w' → I w') :
    (killableSystem projection).Preserves (fun _ s => Quiet s) (StorePermitted projection)
      (fun w => Whole projection w ∧ I w) where
  safe c _ hquiet hI := (safe_run ⟨hI.1, hquiet⟩ c).post fun _ _ _ => trivial
  step c s _ w _ w' hquiet hIs hg hI hop :=
    ⟨⟨(hg.facts hop).consistent hI.1.consistent, (hg.facts hop).housed hI.1.housed⟩,
      hstep c s w w' ⟨hIs.1, hquiet⟩ hIs.2 hI.2 (hg.facts hop).toStepFacts⟩
  crash w w' hI hc := by
    cases hc with
    | killed => exact hI
    | powerFailed hc => exact ⟨(hI.1.crash hc).toWhole, hcrash w w' hI.1 hI.2 (hI.1.housed.fsCrash_of hc)⟩

theorem preserves_whole : (killableSystem projection).Preserves (fun _ s => Quiet s)
    (StorePermitted projection) (fun w => Whole projection w ∧ True) :=
  preserves_store (fun _ _ _ _ _ _ _ _ => trivial) fun _ _ _ _ _ => trivial

theorem whole_steps {p : StoreProc (Option LocalCredentialState)} (hs : Ready projection s)
    (hsteps : (c.run projection).Steps storeSem s p w) : Whole projection w :=
  (preserves_whole.steps (c := c) hs.quiet ⟨hs.toWhole, trivial⟩ hsteps).1

/-- A call that ends leaves a store in which calls may begin. -/
theorem ready_done {r : Except String (Option LocalCredentialState)} (hs : Ready projection s)
    (hdone : (c.run projection).Done storeSem s r w) : Ready projection w :=
  ⟨whole_steps hs hdone, ((safe_run hs c).done hdone).1⟩

theorem ready_outcome (hs : Ready projection s) (hout : (storeSystem projection).Outcome c s w) :
    Ready projection w := by
  cases hout with
  | done hdone => exact ready_done hs hdone
  | cut hsteps hcrash => exact (whole_steps hs hsteps).crash hcrash

/-- Between two turns of a run the store is ready. -/
theorem run_ready (hs : Ready projection s) (hrun : (storeSystem projection).Run s ts w) :
    Ready projection w :=
  hrun.invariant (fun _ _ _ (_ : True) => ready_outcome) hs fun _ _ => trivial

/-! ## The active bundle -/

/-- Whatever the state file may hold, it names an active bundle. -/
def Activated (w : StoreWorld) : Prop :=
  ∀ v, (rootOf w).Possible stateFile v → ∃ state, v = stateValue (some state) ∧ state.active ≠ none

/-- Every transition of a state with an active bundle leads to one. -/
theorem Transition.active {current : LocalCredentialState}
    (h : Transition projection c (some current) next) (hactive : current.active ≠ none) :
    ∃ state, next = some state ∧ state.active ≠ none := by
  cases h with
  | stage => exact ⟨_, rfl, hactive⟩
  | promote => exact ⟨_, rfl, by simp [promoted]⟩
  | rollback => exact ⟨_, rfl, by simp⟩
  | discard => exact ⟨_, rfl, hactive⟩
  | clear _ hnone => exact absurd hnone hactive
  | drop => exact ⟨_, rfl, hactive⟩

theorem Activated.stored (h : Activated w) : ∃ state, stored w = some state ∧ state.active ≠ none := by
  obtain ⟨state, hget, hactive⟩ := h _ (Dir.possible_get _ _)
  exact ⟨state, stored_of_read (by simp [Dir.read, hget, stateValue]), hactive⟩

theorem activated_of_stored (hw : Ready projection w)
    (hstored : EdgePlatform.Credential.stored w = some state)
    (hactive : state.active ≠ none) : Activated w := by
  intro v hv
  have hget := (hw.quiet .root stateFile v hv).1
  rcases hw.consistent.cases with ⟨-, hnone⟩ | ⟨state', hget', hstored', -⟩
  · rw [hnone] at hstored
    cases hstored
  · rw [hstored'] at hstored
    cases hstored
    exact ⟨state, hget.trans hget', hactive⟩

theorem StepFacts.activated (h : StepFacts projection c s w w') (hs : Activated s) (hw : Activated w) :
    Activated w' := by
  intro v hv
  rcases h.pointer v hv with hold | ⟨next, rfl, hadmitted, -, -⟩
  · exact hw v hold
  · obtain ⟨current, hcurrent, hactive⟩ := hs.stored
    obtain ⟨state, rfl, hstate⟩ := (hcurrent ▸ hadmitted.transition).active hactive
    exact ⟨state, rfl, hstate⟩

theorem Activated.crash (hw : Consistent projection w) (h : Activated w)
    (hcrash : fsCrash w w') : Activated w' := by
  intro v hv
  have hget : v = (rootOf w').get stateFile := ((hcrash.1 .root).quietAt stateFile v hv).1
  exact h v (hget ▸ hw.crash_get hcrash)

theorem preserves_activated : (killableSystem projection).Preserves (fun _ s => Quiet s)
    (StorePermitted projection) (fun w => Whole projection w ∧ Activated w) :=
  preserves_store (fun _ _ _ _ _ hs hw hfacts => hfacts.activated hs hw) fun _ _ hw h hc =>
    h.crash hw.consistent hc

/-! ## The pointer during one call -/

/-- During a call begun in `s` the state file may hold what it held in `s`, or what the call is admitted to
    make of it; its receipt is durable from the first moment of the latter. -/
def Pointed (projection : CredentialProjectionKind) (c : StoreCall) (s w : StoreWorld) : Prop :=
  ∀ v, (rootOf w).Possible stateFile v →
    v = (rootOf s).get stateFile ∨ ∃ next, v = stateValue next ∧ Admitted projection c s w next

theorem pointed_start (hs : Quiet s) : Pointed projection c s s :=
  fun v hv => .inl (hs .root stateFile v hv).1

theorem StepFacts.pointed_step (h : StepFacts projection c s w w') (hw : Pointed projection c s w) :
    Pointed projection c s w' := by
  intro v hv
  rcases h.pointer v hv with hold | ⟨next, rfl, hadmitted, -, -⟩
  · rcases hw v hold with hsame | ⟨next, rfl, hadmitted⟩
    · exact .inl hsame
    · exact .inr ⟨next, rfl, hadmitted.of_receipt h.durable⟩
  · exact .inr ⟨next, rfl, hadmitted.of_receipt h.durable⟩

theorem Pointed.crash (hw : Consistent projection w) (h : Pointed projection c s w) (hcrash : fsCrash w w') :
    Pointed projection c s w' := by
  intro v hv
  have hget : v = (rootOf w').get stateFile := ((hcrash.1 .root).quietAt stateFile v hv).1
  rcases h v (hget ▸ hw.crash_get hcrash) with hsame | ⟨next, hnext, hadmitted⟩
  · exact .inl hsame
  · exact .inr ⟨next, hnext, hadmitted.of_receipt fun _ _ _ hb => (hcrash.1 .root).durable hb⟩

theorem pointed_steps {p : StoreProc (Option LocalCredentialState)} (hs : Ready projection s)
    (hsteps : (c.run projection).Steps storeSem s p w) : Pointed projection c s w :=
  (safe_run hs c).invariant (fun _ _ _ _ hg hw hop => (hg.facts hop).pointed_step hw)
  (pointed_start hs.quiet) hsteps

theorem pointed_crash {p : StoreProc (Option LocalCredentialState)} (hs : Ready projection s)
    (hsteps : (c.run projection).Steps storeSem s p w) (hcrash : storeCrash w w') :
    Pointed projection c s w' := by
  have hw := whole_steps hs hsteps
  exact (pointed_steps hs hsteps).crash hw.consistent (hw.housed.fsCrash_of hcrash)

theorem pointed_outcome (hs : Ready projection s) (hout : (storeSystem projection).Outcome c s w) :
    Pointed projection c s w := by
  cases hout with
  | done hd => exact pointed_steps hs hd
  | cut hsteps hcrash => exact pointed_crash hs hsteps hcrash

theorem pointed_killable (hs : Ready projection s) (hout : (killableSystem projection).Outcome c s w) :
    Pointed projection c s w := by
  cases hout with
  | done hd => exact pointed_steps hs hd
  | cut hsteps hcut =>
    cases hcut with
    | killed => exact pointed_steps hs hsteps
    | powerFailed hcrash => exact pointed_crash hs hsteps hcrash

/-- A store whose state is not the one the call began with got it by an admitted change. -/
theorem Pointed.changed (h : Pointed projection c s w) (hchanged : stored w ≠ stored s) :
    Admitted projection c s w (stored w) := by
  rcases h _ (Dir.possible_get _ _) with hsame | ⟨next, hnext, hadmitted⟩
  · exact absurd (by simp [stored, Dir.read, hsame]) hchanged
  · cases next with
    | none =>
      have hstored : stored w = none := by simp [stored, Dir.read, hnext, stateValue]
      rwa [hstored]
    | some state =>
      have hstored : stored w = some state := stored_of_read (by simp [Dir.read, hnext, stateValue])
      rwa [hstored]

/-! ## Receipts -/

theorem preserves_present (n : String) (hn : IsReceipt n) :
    (killableSystem projection).Preserves (fun _ s => Quiet s) (StorePermitted projection)
      (fun w => Whole projection w ∧ (rootOf w).Present n) :=
  preserves_store (fun _ _ _ _ _ _ hw hfacts => hfacts.present n hn hw) fun _ _ _ h hc =>
    (hc.1 .root).present h

theorem present_steps {n : String} {p : StoreProc (Option LocalCredentialState)} (hn : IsReceipt n)
    (hs : Ready projection s) (hpresent : (rootOf s).Present n)
    (hsteps : (c.run projection).Steps storeSem s p w) : (rootOf w).Present n :=
  ((preserves_present n hn).steps (c := c) hs.quiet ⟨hs.toWhole, hpresent⟩ hsteps).2

theorem present_outcome {n : String} (hn : IsReceipt n) (hs : Ready projection s)
    (hpresent : (rootOf s).Present n) (hout : (storeSystem projection).Outcome c s w) :
    (rootOf w).Present n := by
  cases hout with
  | done hdone => exact present_steps hn hs hpresent hdone
  | cut hsteps hcrash => exact hcrash.1.present (present_steps hn hs hpresent hsteps)

theorem OneShot.receipt_isReceipt (k : OneShot) : IsReceipt k.receipt := by
  cases k <;> decide

/-- A one-shot promotion refuses to run where its own receipt exists. -/
theorem refused_of_oneShot (hc : c.oneShot = some k) : k.receipt ∈ refusedReceipts projection c := by
  cases c <;> cases hc <;> simp [refusedReceipts, OneShot.receipt]

/-- **A changed pointer has its receipt.** A step of a one-shot promotion changes what a reader finds in the
    state file only where the whole receipt is durable already. -/
theorem StepFacts.receipted (h : StepFacts projection c s w w') (hc : c.oneShot = some k)
    (hchanged : stored w' ≠ stored w) :
    ∃ state text, stored s = some state ∧ receiptOf projection c state = some (k.receipt, text) ∧
      (rootOf w).Durable k.receipt (utf8 text) := by
  rcases h.live with hsame | ⟨_, -, hadmitted⟩
  · exact absurd (by simp [stored, Dir.read, hsame]) hchanged
  · exact hadmitted.receipt k hc

/-- A promotion of the first three leaves an active bundle. -/
theorem Admitted.first_active (h : Admitted projection c s w next)
    (hc : c.oneShot = some k) : ∃ state, next = some state ∧ state.active ≠ none := by
  have htransition := h.transition
  generalize stored s = current at htransition
  cases htransition with
  | stage hstages _ _ _ => rcases hstages with rfl | ⟨_, _, rfl, _⟩ <;> cases hc
  | promote => exact ⟨_, rfl, by simp [promoted]⟩
  | rollback | discard | clear | drop => cases hc

/-- The one-shot promotions that need a store without an active bundle. -/
def firstPromotions : List OneShot := [.initialPaired, .initialRecovery, .existingJoin]

/-- They are admitted only there. -/
theorem Admitted.first_inactive
    (h : Admitted projection c s w next) (hc : c.oneShot = some k)
    (hk : k ∈ firstPromotions) : ¬ Activated s := by
  intro hs
  obtain ⟨current, hcurrent, hactive⟩ := hs.stored
  have hfirst : c.IsFirst := by
    cases c <;> first | trivial | (cases hc; simp [firstPromotions] at hk)
  have htransition := h.transition
  rw [hcurrent] at htransition
  cases htransition with
  | stage hstages _ _ _ => rcases hstages with rfl | ⟨_, _, rfl, _⟩ <;> cases hc
  | promote _ _ hnone => exact hactive (hnone hfirst)
  | rollback | discard | clear | drop => cases hc

/-! ## Crash consistency -/

/-- Every call of a history, and one that begins in `w`, starts over settled directories. -/
def Settled (ts : List (killableSystem projection).Turn) (w : StoreWorld) : Prop :=
  (∀ t ∈ ts, Quiet t.before) ∧ Quiet w

/-- The store between any two file-system steps of any run, or as a kill or a power failure there leaves
it. -/
def Reached (projection : CredentialProjectionKind) (w : StoreWorld) : Prop :=
  ∃ ts c w₀ p m, (killableSystem projection).Visits provisionedStore ts c w₀ p m ∧
    Settled ts w₀ ∧ storeCut m w

theorem Reached.consistent (h : Reached projection w) : Consistent projection w := by
  obtain ⟨ts, c, w₀, p, m, hvisits, hsettled, hcut⟩ := h
  have hm := preserves_whole.visits ⟨ready_provisioned.toWhole, trivial⟩ hvisits hsettled.1 hsettled.2
  cases hcut with
  | killed => exact hm.1.consistent
  | powerFailed hcrash => exact (hm.1.crash hcrash).consistent

/-- What a sound state guarantees its reader. -/
structure Intact (w : StoreWorld) (state : LocalCredentialState) : Prop where
  /-- Every referenced bundle file exists and its bytes have the recorded digest. -/
  files : ∀ r ∈ state.references, ∃ bytes, (bundlesOf w).read (bundleName r) = some bytes ∧
    hex (sha256 bytes) = r.sha256
  /-- The active bundle uses the slot opposite to the other one. -/
  slots : ∀ active ∈ state.active, ∀ other, other ∈ state.candidate ∨ other ∈ state.previous →
    active.slot = toI32 CredentialDeliverySlot.a ∧ other.slot = toI32 CredentialDeliverySlot.b ∨
      active.slot = toI32 CredentialDeliverySlot.b ∧ other.slot = toI32 CredentialDeliverySlot.a
  exclusive : state.candidate = none ∨ state.previous = none

/-- A reference of a well-formed state names one of the two slots. -/
theorem WellFormed.slot (h : WellFormed state) (hr : r ∈ state.references) :
    r.slot = toI32 CredentialDeliverySlot.a ∨ r.slot = toI32 CredentialDeliverySlot.b := by
  obtain ⟨-, hslot, -⟩ := validateLocalCredentialBundleRef_eq_ok.mp (h.valid r hr)
  exact hslot.imp (fun ha => (tryFrom_eq_some.mp ha).symm) fun hb => (tryFrom_eq_some.mp hb).symm

theorem Sound.intact (h : Sound projection w state) : Intact w state where
  files r hr := by
    obtain ⟨bundle, hbundle, hdurable⟩ := h.backed r hr
    exact ⟨_, hdurable.read, by rw [hbundle.reference]⟩
  slots active hactive other hother := by
    have hopposite : Opposite active other :=
      hother.elim (h.wellFormed.candidate active hactive other) (h.wellFormed.previous active hactive other)
    have hreference : other ∈ state.references :=
      hother.elim mem_references_candidate mem_references_previous
    have hne := hopposite.slot
    rcases h.wellFormed.slot (mem_references_active hactive) with ha | ha <;>
      rcases h.wellFormed.slot hreference with hb | hb
    · exact absurd (ha.trans hb.symm) hne
    · exact .inl ⟨ha, hb⟩
    · exact .inr ⟨ha, hb⟩
    · exact absurd (ha.trans hb.symm) hne
  exclusive := by
    by_contra h'
    exact h.wellFormed.exclusive (not_or.mp h')

/-- The bundle files a call is about to remove are not those of a state the state file may hold. -/
theorem StorePermitted.removes {n : String} (h : StorePermitted projection c s (.dir .bundles (.remove n)) w)
    (hstate : MayHold w state) (hr : r ∈ state.references) : bundleName r ≠ n := by
  cases h with
  | look ho => cases ho
  | scratch ht ho =>
    cases ho
    exact bundleName_ne_temp ht
  | sweep hunreferenced => exact hunreferenced _ hstate state rfl r hr

/-- **Crash consistency.** In every state of a store, from a provisioned one on and where every call starts
    over settled directories: reading it succeeds and finds intact bundles; a bundle is removed only if no
    state a crash could leave refers to it; and a completed change of the state, a rollback apart, leaves
    exactly the referenced bundle files. -/
theorem store_crash_consistent (projection : CredentialProjectionKind) :
    (∀ w, Reached projection w →
      (readState projection).Done storeSem w (.ok (stored w)) w ∧
        (∀ r w', (readState projection).Done storeSem w r w' → r = .ok (stored w) ∧ w' = w) ∧
        ∀ state, stored w = some state → Intact w state) ∧
      (∀ ts c w₀ n k w,
        (killableSystem projection).Visits provisionedStore ts c w₀ (.call (.dir .bundles (.remove n)) k) w →
        Settled ts w₀ → ∀ state, MayHold w state → ∀ r ∈ state.references, bundleName r ≠ n) ∧
      ∀ ts w (c : StoreCall) a w', (killableSystem projection).Run provisionedStore ts w → Settled ts w →
        (c.run projection).Done storeSem w (.ok a) w' → c ≠ .rollback → stored w' ≠ stored w → Tidy w' := by
  refine ⟨fun w hw => ⟨readState_exists hw.consistent,
    fun r w' hdone => readState_done hw.consistent hdone, ?_⟩, ?_, ?_⟩
  · intro state hstate
    exact (hw.consistent.sound hstate).intact
  · intro ts c w₀ n k w hvisits hsettled state hstate r hr
    have hissued := preserves_whole.issued ⟨ready_provisioned.toWhole, trivial⟩ hvisits hsettled.1 hsettled.2
    exact hissued.removes hstate hr
  · intro ts w c a w' hrun hsettled hdone hc hchanged
    have hw := (preserves_whole.run ⟨ready_provisioned.toWhole, trivial⟩ hrun hsettled.1).1
    rcases ((safe_run ⟨hw, hsettled.2⟩ c).done hdone).2 a rfl with hsame | hrollback | htidy
    · exact absurd hsame hchanged
    · exact absurd hrollback hc
    · exact htidy

/-- A store with a staged candidate is reached, read and found intact. -/
theorem store_crash_consistent_staged :
    ∃ w, Reached .vm w ∧ stored w = some (staged .vm none sampleVm) ∧
      (readState .vm).Done storeSem w (.ok (some (staged .vm none sampleVm))) w ∧
      Intact w (staged .vm none sampleVm) ∧ Tidy w := by
  obtain ⟨w, hdone, hstored, -⟩ := sampleVm_staged
  have hreached : Reached .vm w := by
    refine ⟨[], .stage sampleVm, provisionedStore, _, w, ⟨.nil, hdone⟩, ?_, .killed⟩
    exact ⟨List.forall_mem_nil _, quiet_provisioned⟩
  obtain ⟨hread, -, hintact⟩ := (store_crash_consistent .vm).1 w hreached
  refine ⟨w, hreached, hstored, by rwa [hstored] at hread, hintact _ hstored, ?_⟩
  exact (store_crash_consistent .vm).2.2 [] provisionedStore _ _ w .nil
    ⟨List.forall_mem_nil _, quiet_provisioned⟩ hdone (by decide) (by simp [hstored])

/-! ### What the conditions exclude -/

/-- The store does not let its state be read. -/
def Unreadable (projection : CredentialProjectionKind) (w : StoreWorld) : Prop :=
  ∃ e w', (readState projection).Done storeSem w (.error e) w'

/-- A power failure that undoes what was done to the entry `n` since its directory was synced. -/
def undone (i : StoreDir) (n : String) (w : StoreWorld) : StoreWorld :=
  w.settle.setDir i ((w.dirs i).revert n)

theorem storeCrash_undone {i : StoreDir} {n : String} (h : (rootOf (undone i n w)).get bundlesDir ≠ none) :
    storeCrash w (undone i n w) := by
  have hdirs : ∀ j, (w.dirs j).Crash ((undone i n w).dirs j) := by
    intro j
    by_cases hj : j = i
    · subst hj
      simpa [undone] using Dir.crash_revert _ n
    · simpa [undone, hj, FsWorld.settle] using Dir.crash_settle (w.dirs j)
  exact ⟨hdirs .root, by rw [if_neg h]; exact hdirs .bundles⟩

theorem run_killed {c : StoreCall} {p : StoreProc (Option LocalCredentialState)}
    {ts : List (killableSystem projection).Turn} (hrun : (killableSystem projection).Run s ts w)
    (hsteps : (c.run projection).Steps storeSem w p w') :
    (killableSystem projection).Run s (ts ++ [⟨c, w, w'⟩]) w' :=
  .snoc hrun (.cut hsteps .killed)

theorem run_performed {ts : List (killableSystem projection).Turn}
    (hrun : (killableSystem projection).Run s ts w) (c : StoreCall) :
    (killableSystem projection).Run s (ts ++ [⟨c, w, (perform projection c w).2⟩])
      (perform projection c w).2 :=
  .snoc hrun (.done (perform_done c w))

theorem run_undone {c : StoreCall} {p : StoreProc (Option LocalCredentialState)} {i : StoreDir} {n : String}
    {ts : List (killableSystem projection).Turn} (hrun : (killableSystem projection).Run s ts w)
    (hsteps : (c.run projection).Steps storeSem w p w')
    (h : (rootOf (undone i n w')).get bundlesDir ≠ none) :
    (killableSystem projection).Run s (ts ++ [⟨c, w, undone i n w'⟩]) (undone i n w') :=
  .snoc hrun (.cut hsteps (.powerFailed (storeCrash_undone h)))

/-- The first staging has replaced the state file and not yet synced the root. -/
def firstStaging : StoreWorld := reach .vm 18 (.stage sampleVm) emptyStore

/-- A power failure keeps the state file and loses the bundle directory. -/
def firstStagingLost : StoreWorld := emptyStore.setDir .root ((rootOf firstStaging).revert bundlesDir)

/-- A staging is killed when it has renamed the bundle file and not yet synced the bundle directory. -/
def stagingKilled : StoreWorld := reach .vm 9 (.stage sampleVm) provisionedStore

/-- The staging is repeated; when it has changed the pointer, a power failure loses the bundle file. -/
def stagingLost : StoreWorld :=
  undone .bundles (bundleName (bundleRef sampleVm)) (reach .vm 12 (.stage sampleVm) stagingKilled)

/-- **A state without its bundle.** A power failure during the first staging, or after a staging that was
    killed and repeated, leaves a state file that names a bundle which is not there. -/
theorem crash_leaves_unreadable_state :
    (∃ ts w, (storeSystem .vm).Run emptyStore ts w ∧ Unreadable .vm w) ∧
      ∃ ts w, (killableSystem .vm).Run provisionedStore ts w ∧ Unreadable .vm w := by
  have hcheck : ((rootOf firstStagingLost).get bundlesDir = none ∧
        ((readState .vm).finish storeHandle firstStagingLost).1 =
        .error "failed to read local credential bundle") ∧
      (rootOf stagingLost).get bundlesDir ≠ none ∧
        ((readState .vm).finish storeHandle stagingLost).1 =
        .error "failed to read local credential bundle" := by
    decide +kernel
  obtain ⟨⟨hgone, hfirst⟩, hthere, hsecond⟩ := hcheck
  have hunreadable : ∀ w e, ((readState .vm).finish storeHandle w).1 = .error e → Unreadable .vm w :=
    fun w e he =>
    ⟨e, _, he ▸ finish_done storeHandle_sem (readState .vm) w⟩
  constructor
  · obtain ⟨p, hsteps⟩ :
      ∃ p, (StoreCall.run .vm (.stage sampleVm)).Steps storeSem emptyStore p firstStaging :=
      reach_steps _ _ _
    have hcrash : storeCrash firstStaging firstStagingLost :=
      ⟨by simpa [firstStagingLost] using Dir.crash_revert _ _, by rw [if_pos hgone]; rfl⟩
    exact ⟨[⟨.stage sampleVm, emptyStore, firstStagingLost⟩], _, .snoc .nil (.cut hsteps hcrash),
      hunreadable _ _ hfirst⟩
  · obtain ⟨p, hsteps⟩ :
      ∃ p, (StoreCall.run .vm (.stage sampleVm)).Steps storeSem provisionedStore p stagingKilled :=
      reach_steps _ _ _
    obtain ⟨q, hagain⟩ : ∃ q, (StoreCall.run .vm (.stage sampleVm)).Steps storeSem stagingKilled q
        (reach .vm 12 (.stage sampleVm) stagingKilled) := reach_steps _ _ _
    exact ⟨_, stagingLost, run_undone (run_killed .nil hsteps) hagain hthere, hunreadable _ _ hsecond⟩

/-! ## One-shot promotions -/

/-- The stored state names an active bundle. -/
def HasActive (w : StoreWorld) : Prop := ∃ state, stored w = some state ∧ state.active ≠ none

theorem HasActive.activated (h : HasActive w) (hw : Ready projection w) : Activated w := by
  obtain ⟨state, hstored, hactive⟩ := h
  exact activated_of_stored hw hstored hactive

/-- An active bundle stays through every call that starts over settled directories. -/
theorem HasActive.outcome (h : HasActive w) (hw : Ready projection w)
    (hout : (killableSystem projection).Outcome c w w') : HasActive w' :=
  (preserves_activated.outcome hw.quiet ⟨hw.toWhole, h.activated hw⟩ hout).2.stored

/-- **One-shot promotion.** Over a whole run from a provisioned store, where every call starts over settled
    directories, each one-shot promotion changes the stored state at most once, and of the first three at
    most one does; the step that changes it finds the whole receipt durable; and an active bundle is recorded
    in every later state. -/
theorem oneShot_promotions (projection : CredentialProjectionKind)
    (ts : List (killableSystem projection).Turn) (w : StoreWorld)
    (hrun : (killableSystem projection).Run provisionedStore ts w) (hts : ∀ t ∈ ts, Quiet t.before) :
    (∀ k, (ts.filter fun t => t.call.oneShot = some k ∧ stored t.after ≠ stored t.before).length ≤ 1) ∧
      (ts.filter fun t => t.call.oneShot.any (· ∈ firstPromotions) ∧
        stored t.after ≠ stored t.before).length ≤ 1 ∧
      (Quiet w → ∀ (c : StoreCall) k op next m a m', c.oneShot = some k →
        (c.run projection).Steps storeSem w (.call op next) m → storeSem op m a m' → stored m' ≠ stored m →
        ∃ state text, stored w = some state ∧ receiptOf projection c state = some (k.receipt, text) ∧
          (rootOf m).Durable k.receipt (utf8 text)) ∧
      (HasActive w → ∀ ts' c w₀ p m, (killableSystem projection).Visits w ts' c w₀ p m → Settled ts' w₀ →
        HasActive m) := by
  have hturn : ∀ c w w', Quiet w → Whole projection w → (killableSystem projection).Outcome c w w' →
      Whole projection w' :=
    fun c w w' hq hw hout => (preserves_whole.outcome hq ⟨hw, trivial⟩ hout).1
  refine ⟨fun k => ?_, ?_, ?_, ?_⟩
  · -- the receipt is the mark
    refine hrun.at_most_once (J := Whole projection)
      (D := fun w => (rootOf w).Present k.receipt) hturn ?_ ?_ ?_
      ready_provisioned.toWhole hts
    · intro c w w' hq hw hout hcounts
      simp only [decide_eq_true_eq] at hcounts
      obtain ⟨state, text, -, -, hdurable⟩ :=
        ((pointed_killable ⟨hw, hq⟩ hout).changed hcounts.2).receipt k hcounts.1
      exact hdurable.present
    · intro c w w' hq hw hD hout
      exact ((preserves_present k.receipt k.receipt_isReceipt).outcome hq ⟨hw, hD⟩ hout).2
    · intro c w w' hq hw hD hout
      simp only [decide_eq_false_iff_not]
      rintro ⟨hc, hchanged⟩
      exact hD.get_ne (((pointed_killable ⟨hw, hq⟩ hout).changed hchanged).fresh _ (refused_of_oneShot hc))
  · -- the active bundle is the mark; it lasts because the next call finds it settled
    refine hrun.at_most_once (J := Whole projection)
      (D := HasActive) hturn ?_ ?_ ?_ ready_provisioned.toWhole hts
    · intro c w w' hq hw hout hcounts
      simp only [decide_eq_true_eq, Option.any_eq_true] at hcounts
      obtain ⟨⟨k, hk, -⟩, hchanged⟩ := hcounts
      exact ((pointed_killable ⟨hw, hq⟩ hout).changed hchanged).first_active hk
    · intro c w w' hq hw hD hout
      exact hD.outcome ⟨hw, hq⟩ hout
    · intro c w w' hq hw hD hout
      simp only [decide_eq_false_iff_not, Option.any_eq_true]
      rintro ⟨⟨k, hk, hfirst⟩, hchanged⟩
      exact ((pointed_killable ⟨hw, hq⟩ hout).changed hchanged).first_inactive hk (by simpa using hfirst)
        (hD.activated ⟨hw, hq⟩)
  · intro hq c k op next m a m' hc hsteps hop hchanged
    have hw := (preserves_whole.run ⟨ready_provisioned.toWhole, trivial⟩ hrun hts).1
    have hpermitted := (safe_run ⟨hw, hq⟩ c).issued hsteps
    exact (hpermitted.facts hop).receipted hc hchanged
  · intro hactive ts' c w₀ p m hvisits hsettled
    have hw := (preserves_whole.run ⟨ready_provisioned.toWhole, trivial⟩ hrun hts).1
    have hkept := hvisits.run.invariant (J := fun w => Whole projection w ∧ HasActive w)
      (fun c w w' (hq : Quiet w) hJ hout => ⟨hturn c w w' hq hJ.1 hout, hJ.2.outcome ⟨hJ.1, hq⟩ hout⟩)
        ⟨hw, hactive⟩ hsettled.1
    have hactivated := hkept.2.activated ⟨hkept.1, hsettled.2⟩
    exact (preserves_activated.steps (c := c) hsettled.2 ⟨hkept.1, hactivated⟩ hvisits.steps).2.stored

/-- A store goes through a staging and its first promotion; no other promotion of the family can change it
after. -/
theorem oneShot_promotions_initial :
    ∃ ts w, (killableSystem .vm).Run provisionedStore ts w ∧ HasActive w ∧
      (ts.filter fun t => t.call.oneShot = some .initialPaired ∧ stored t.after ≠ stored t.before).length =
      1 ∧ ∀ ts' c w₀ p m, (killableSystem .vm).Visits w ts' c w₀ p m → Settled ts' w₀ → HasActive m := by
  obtain ⟨w, hdone₀, hstored, hreceipts⟩ := sampleVm_staged
  have hready : Ready .vm w := ready_done ready_provisioned hdone₀
  have hintent : validFirstUseDigest sampleTunnel.hysteria2Password = true := by decide
  obtain ⟨w', hdone, hstored'⟩ := promoteInitial_done hready hstored rfl rfl rfl (by decide)
    hintent (hreceipts _ (by decide)) (hreceipts _ (by decide))
  have hrun : (killableSystem .vm).Run provisionedStore [⟨.stage sampleVm, provisionedStore, w⟩,
      ⟨.promoteInitialPaired (bundleRef sampleVm).generation (bundleRef sampleVm).slot
        sampleTunnel.hysteria2Password, w, w'⟩] w' := .snoc (.snoc .nil (.done hdone₀)) (.done hdone)
  have hactive : HasActive w' := ⟨_, hstored', by simp [promoted]⟩
  refine ⟨_, w', hrun, hactive, ?_, (oneShot_promotions .vm _ w' hrun ?_).2.2.2 hactive⟩
  · simp [StoreCall.oneShot, hstored, hstored', staged, promoted]
  · intro t ht
    simp only [List.mem_cons, List.not_mem_nil, or_false] at ht
    rcases ht with rfl | rfl
    · exact quiet_provisioned
    · exact hready.quiet

/-- The first-use promotion of the sample candidate. -/
def samplePromotion : StoreCall := .promoteInitialPaired 2 2 sampleTunnel.hysteria2Password

/-- Its recovery. -/
def sampleRecovery : StoreCall :=
  .recoverInitialPaired 2 2 sampleTunnel.hysteria2Password
    "bbbbbbbbbbbbbbbbbbbbbbbbbbbbbbbbbbbbbbbbbbbbbbbbbbbbbbbbbbbbbbbb" (bundleRef sampleVm).sha256

/-- The promotion is killed when it has replaced the state file and not yet synced the root. -/
def promotionKilled : StoreWorld := reach .vm 16 samplePromotion (after .vm [.stage sampleVm])

/-- A power failure undoes the change, and a recovery makes it again. -/
def promotionUndone : StoreWorld := undone .root stateFile promotionKilled

/-- **A pointer changed twice.** The change that a killed promotion had not synced is lost with a power
    failure, and the recovery of the promotion changes the pointer once more. -/
theorem promoted_twice :
    ∃ ts w, (killableSystem .vm).Run provisionedStore ts w ∧
      2 ≤ (ts.filter fun t => t.call.oneShot.any (· ∈ firstPromotions) ∧
        stored t.after ≠ stored t.before).length ∧
      ∃ t ∈ ts, HasActive t.before ∧ ¬ HasActive t.after := by
  have hcheck : stored promotionKilled =
      some (promoted .vm (staged .vm none sampleVm) (bundleRef sampleVm)) ∧
      stored (after .vm [.stage sampleVm]) = some (staged .vm none sampleVm) ∧
      stored promotionUndone = some (staged .vm none sampleVm) ∧
      (rootOf promotionUndone).get bundlesDir ≠ none ∧
        stored (perform .vm sampleRecovery promotionUndone).2 =
        some (promoted .vm (staged .vm none sampleVm) (bundleRef sampleVm)) := by
    decide +kernel
  obtain ⟨hkilled, hstaged, hundone, hthere, hrecovered⟩ := hcheck
  obtain ⟨p, hsteps⟩ : ∃ p, (samplePromotion.run .vm).Steps storeSem
    (after .vm [.stage sampleVm]) p promotionKilled :=
    reach_steps _ _ _
  have hstage : (killableSystem .vm).Run provisionedStore
      [⟨.stage sampleVm, provisionedStore, after .vm [.stage sampleVm]⟩] (after .vm [.stage sampleVm]) :=
    run_performed .nil _
  have hlost : (killableSystem .vm).Run provisionedStore
      [⟨.stage sampleVm, provisionedStore, after .vm [.stage sampleVm]⟩,
        ⟨samplePromotion, after .vm [.stage sampleVm], promotionKilled⟩,
        ⟨.drop, promotionKilled, promotionUndone⟩]
      promotionUndone :=
    run_undone (run_killed hstage hsteps) (.refl _ promotionKilled) hthere
  have hrun := run_performed hlost sampleRecovery
  refine ⟨_, _, hrun, ?_, ?_⟩
  · have hpromotion : samplePromotion.oneShot = some .initialPaired := rfl
    have hrecovery : sampleRecovery.oneShot = some .initialRecovery := rfl
    have hothers : StoreCall.oneShot (.stage sampleVm) = none ∧ StoreCall.oneShot .drop = none := ⟨rfl, rfl⟩
    simp [hkilled, hstaged, hundone, hrecovered, hpromotion, hrecovery, hothers, firstPromotions,
      staged, promoted]
  · have hbefore : HasActive promotionKilled := ⟨_, hkilled, by simp [promoted]⟩
    have hafter : ¬ HasActive promotionUndone := by
      rintro ⟨state, hstate, hactive⟩
      rw [hundone] at hstate
      cases hstate
      exact hactive rfl
    refine ⟨_, List.mem_append_left _ (.tail _ (.tail _ (.head _))), ?_⟩
    dsimp only
    exact ⟨hbefore, hafter⟩

end EdgePlatform.Credential
