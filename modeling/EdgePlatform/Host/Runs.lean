import EdgePlatform.Host.Protocol
import EdgePlatform.Host.Replay

/-!
# `EdgePlatform.Host.Runs` — what holds over every run of signed executions

A run is a finite sequence of executions on one journal directory, each of which may be cut between any two
of its operations: its process is killed, and the next execution finds what it left, or the power fails. The
facts of this module are invariants of such runs. The effect of an operation is invoked at most once and only
under its durable records. An operation that began and has not ended keeps its gate, and has one terminal,
but here a recovery that trusts the records of a killed execution matters: it never syncs what it finds, so
both need that what it finds of the earlier operation is durable.

Every step of a call is one of the four cases of `StepEffect`; the invariants are proved from these cases and
from nothing else.
-/

namespace EdgePlatform.Host

open Foundation Foundation.Wire

/-- Executions that take turns on one journal. -/
abbrev hostSystem (D : Deps) : System (fsSig Unit ownerSig) JournalWorld where
  Call := HostCall
  Res := FleetHostResult
  prog := executeAfterProtectedOwnerCheckOnce D
  sem := journalSem
  crash := fsCut

section Replayed

variable {D : Deps} {s w : JournalWorld} {ts : List (hostSystem D).Turn}

/-- One more turn, cut by a power cycle after `n` operations. -/
theorem run_cut (h : (hostSystem D).Run s ts w) (owner : Owner) (n : Nat) (c : HostCall) :
    (hostSystem D).Run s
      (ts ++ [⟨c, w, powerCycle (replay owner n (executeAfterProtectedOwnerCheckOnce D c) w).2⟩])
      (powerCycle (replay owner n (executeAfterProtectedOwnerCheckOnce D c) w).2) :=
  .snoc h (.cut (replay_steps owner n _ w) (.powerFailed (fsCrash_powerCycle _)))

/-- One more turn, killed after `n` operations. -/
theorem run_killed (h : (hostSystem D).Run s ts w) (owner : Owner) (n : Nat) (c : HostCall) :
    (hostSystem D).Run s (ts ++ [⟨c, w, (replay owner n (executeAfterProtectedOwnerCheckOnce D c) w).2⟩])
      (replay owner n (executeAfterProtectedOwnerCheckOnce D c) w).2 :=
  .snoc h (.cut (replay_steps owner n _ w) .killed)

/-- One more turn, run to its end. -/
theorem run_ended (h : (hostSystem D).Run s ts w) (owner : Owner) (n : Nat) (c : HostCall)
    (hend : ended (replay owner n (executeAfterProtectedOwnerCheckOnce D c) w).1 = true) :
    (hostSystem D).Run s (ts ++ [⟨c, w, (replay owner n (executeAfterProtectedOwnerCheckOnce D c) w).2⟩])
      (replay owner n (executeAfterProtectedOwnerCheckOnce D c) w).2 := by
  obtain ⟨r, hdone⟩ := replay_done hend
  exact .snoc h (.done hdone)

end Replayed

/-! ## The effect of one step -/

/-- The history after an operation that only asks. -/
inductive Looked (history : List Event) : List Event → Prop
  | silent : Looked history history
  | observed (answer : Except String FleetNativeObservation) : Looked history (history ++ [.observed answer])

theorem Looked.appliedIds {h h' : List Event} (hl : Looked h h') :
    EdgePlatform.Host.appliedIds h' = EdgePlatform.Host.appliedIds h := by
  cases hl with
  | silent => rfl
  | observed a => rw [appliedIds_append]; exact List.append_nil _

variable {d : Dir}

theorem Looked.applied_mem {h h' : List Event} {i : FleetHostIntent} {step : FleetHostPlannedStep}
    (hl : Looked h h') (hm : Event.applied i step d ∈ h') : Event.applied i step d ∈ h := by
  cases hl with
  | silent => exact hm
  | observed a => simpa using hm

/-- The observations of a history, in order. -/
def observations (history : List Event) : List FleetNativeObservation :=
  history.filterMap fun
    | .observed (.ok o) => some o
    | _ => none

theorem observations_append (h h' : List Event) :
    observations (h ++ h') = observations h ++ observations h' :=
  List.filterMap_append

/-- What one permitted operation did. -/
inductive StepEffect (D : Deps) (c : HostCall) (start w w' : JournalWorld) : Prop
  | look : (dirOf w).Narrows (dirOf w') → (∀ n, (dirOf w').get n = (dirOf w).get n) → Looked w.env w'.env →
      StepEffect D c start w w'
  | write {n : String} {b : Bytes} : MayWrite D c start w n b → Dir.AgreeOff n (dirOf w) (dirOf w') →
      ((dirOf w').Possible n none → (dirOf w).Possible n none) →
      ((dirOf w').get n = none → dirOf w' = dirOf w) → w'.env = w.env → StepEffect D c start w w'
  | release {i : FleetHostIntent} {t : Terminal} {b : Bytes} :
      (dirOf w).read (nativeScopePendingPath i) = some i.encodeToVec → Ends D c start w i t b →
      Dir.AgreeOff (nativeScopePendingPath i) (dirOf w) (dirOf w') → w'.env = w.env →
      StepEffect D c start w w'
  | effect {step : FleetHostPlannedStep} : Permitted D c start (.own (.applyOnce c.intent step)) w →
      dirOf w' = dirOf w → w'.env = w.env ++ [.applied c.intent step (dirOf w)] → StepEffect D c start w w'

section Turns

variable {D : Deps} {c : HostCall} {start w w' : JournalWorld} {t : Terminal} {b : Bytes}

theorem Permitted.stepEffect {op : (fsSig Unit ownerSig).Op} {a : (fsSig Unit ownerSig).Ans op}
    (hp : Permitted D c start op w) (hs : journalSem op w a w') : StepEffect D c start w w' := by
  cases hp with
  | stat | read | list =>
    obtain ⟨d', ⟨-, rfl⟩, rfl⟩ := hs
    exact .look (Dir.Narrows.refl _) (fun _ => rfl) .silent
  | syncDir =>
    obtain ⟨d', rfl, rfl⟩ := hs
    exact .look (Dir.narrows_syncDir _) (fun _ => rfl) .silent
  | @ask op _ hask =>
    obtain ⟨history, h, rfl⟩ := hs
    refine .look (Dir.Narrows.refl _) (fun _ => rfl) ?_
    rw [show history = w.env ++ op.events (dirOf w) a from h]
    cases op with
    | observe => exact .observed a
    | allowStep | effectElapsedSecs => exact (List.append_nil w.env).symm ▸ .silent
    | _ => cases hask
  | write ho hmay =>
    obtain ⟨d', hd', rfl⟩ := hs
    exact .write hmay (ho.agreeOff hd') (ho.possible_none hd') (ho.same_of_none hd') rfl
  | @release _ i t b hgate hends =>
    obtain ⟨d', ⟨-, rfl⟩, rfl⟩ := hs
    refine .release hgate hends ?_ rfl
    split
    · exact Dir.agreeOff_remove _ _
    · exact Dir.AgreeOff.refl _ _
  | @effect _ step hclear hgate hbegin halone hhist =>
    obtain ⟨history, h, rfl⟩ := hs
    exact .effect (.effect hclear hgate hbegin halone hhist) rfl h

variable {op n : String}

section

variable (h : StepEffect D c start w w')
include h

/-- A step removes nothing but a gate. -/
theorem StepEffect.present
    (hn : ∀ i, n ≠ nativeScopePendingPath i) (hp : (dirOf w).Present n) : (dirOf w').Present n := by
  cases h with
  | look hnarrow _ _ => exact hnarrow.present hp
  | @write m _ _ hagree hnone _ _ =>
    by_cases hm : n = m
    · subst hm
      exact fun hv => hp (hnone hv)
    · exact hagree.present hm hp
  | release _ _ hagree _ => exact hagree.present (hn _) hp
  | effect _ hdir _ => exact hdir ▸ hp

/-- An entry a reader sees goes away only as a gate that is given up. -/
theorem StepEffect.lost {f : File} (hf : (dirOf w).get n = some f) (hnone : (dirOf w').get n = none) :
    ∃ i t b, n = nativeScopePendingPath i ∧ f.data = i.encodeToVec ∧ Ends D c start w i t b := by
  cases h with
  | look _ hget _ =>
    rw [hget, hf] at hnone
    cases hnone
  | @write m _ _ hagree _ hsame _ =>
    by_cases hm : n = m
    · subst hm
      rw [hsame hnone, hf] at hnone
      cases hnone
    · rw [(hagree n hm).1, hf] at hnone
      cases hnone
  | @release i t b hgate hends hagree _ =>
    by_cases hm : n = nativeScopePendingPath i
    · subst hm
      exact ⟨i, t, b, rfl, by simpa [Dir.read, hf] using hgate, hends⟩
    · rw [(hagree n hm).1, hf] at hnone
      cases hnone
  | effect _ hdir _ =>
    rw [hdir, hf] at hnone
    cases hnone

/-- Where a record other than a gate is missing, it is missing for certain. -/
theorem StepEffect.sure (hn : ∀ i, n ≠ nativeScopePendingPath i) (hs : (dirOf w).Sure n) :
    (dirOf w').Sure n := by
  intro hnone
  have hbefore : (dirOf w).get n = none := by
    by_contra hsome
    obtain ⟨f, hf⟩ := Option.ne_none_iff_exists'.mp hsome
    obtain ⟨i, -, -, hi, -⟩ := h.lost hf hnone
    exact hn i hi
  have habsent := hs hbefore
  cases h with
  | look hnarrow _ _ => exact hnarrow.absent habsent
  | @write m _ _ hagree _ hsame _ =>
    by_cases hm : n = m
    · subst hm
      exact hsame hnone ▸ habsent
    · exact hagree.absent hm habsent
  | release _ _ hagree _ => exact hagree.absent (hn _) habsent
  | effect _ hdir _ => exact hdir ▸ habsent

/-- A durable record stays as it is while nothing writes it. -/
theorem StepEffect.durable (hn : ∀ i, n ≠ nativeScopePendingPath i) (hw : ∀ b', ¬ MayWrite D c start w n b')
    (hd : (dirOf w).Durable n b) : (dirOf w').Durable n b := by
  cases h with
  | look hnarrow _ _ => exact hnarrow.durable hd
  | @write m b' hmay hagree _ _ _ =>
    refine hagree.durable ?_ hd
    rintro rfl
    exact hw b' hmay
  | release _ _ hagree _ => exact hagree.durable (hn _) hd
  | effect _ hdir _ => exact hdir ▸ hd

/-- A gate stays until it is given up over a terminal of its operation. -/
theorem StepEffect.holdsGate {i : FleetHostIntent} (hg : HoldsGate (dirOf w) i) :
    HoldsGate (dirOf w') i ∨
      ∃ t b, Ends D c start w i t b ∧ Dir.AgreeOff (nativeScopePendingPath i) (dirOf w) (dirOf w') := by
  cases h with
  | look hnarrow _ _ => exact .inl (hnarrow.durable hg)
  | write hmay hagree _ _ _ =>
    refine .inl (hagree.durable ?_ hg)
    cases hmay with
    -- A gate that is being taken may still be missing, so it is not the durable one.
    | reserve _ hlost =>
      intro heq
      rw [← heq] at hlost
      exact hg.present hlost
    | record _ _ => exact gate_ne_begin _ _
    | conclude | adjudicate => exact gate_ne_terminal _ _ _
  | @release j t b hj hends hagree _ =>
    by_cases heq : nativeScopePendingPath i = nativeScopePendingPath j
    · -- The released gate is this one, and it names one operation only.
      rw [← heq, hg.read] at hj
      have hij : i = j := FleetHostIntent.encodeToVec_injective (Option.some.inj hj)
      subst hij
      exact .inr ⟨t, b, hends, hagree⟩
    · exact .inl (hagree.durable heq hg)
  | effect _ hdir _ => exact .inl (hdir ▸ hg)

/-- A BEGIN record appears only under the gate of its operation. -/
theorem StepEffect.begin_new (hb : ¬ (dirOf w').Absent (beginName op)) :
    ¬ (dirOf w).Absent (beginName op) ∨
      (beginName op = beginName c.intent.operationId ∧ Cleared c (dirOf start) ∧
        HoldsGate (dirOf w') c.intent) := by
  cases h with
  | look hnarrow _ _ => exact .inl fun ha => hb (hnarrow.absent ha)
  | write hmay hagree _ _ _ =>
    cases hmay with
    | reserve _ _ => exact .inl fun ha => hb (hagree.absent (gate_ne_begin _ _).symm ha)
    | record hclear hgate =>
      by_cases heq : beginName op = beginName c.intent.operationId
      · exact .inr ⟨heq, hclear, hagree.durable (gate_ne_begin _ _) hgate⟩
      · exact .inl fun ha => hb (hagree.absent heq ha)
    | conclude | adjudicate => exact .inl fun ha => hb (hagree.absent (begin_ne_terminal _ _ _) ha)
  | release _ _ hagree _ => exact .inl fun ha => hb (hagree.absent (gate_ne_begin _ _).symm ha)
  | effect _ hdir _ => exact .inl (hdir ▸ hb)

/-- A terminal appears only by being written. -/
theorem StepEffect.terminal_new (ht : ¬ (dirOf w').Absent (terminalName op t)) :
    ¬ (dirOf w).Absent (terminalName op t) ∨
      ((∃ b, MayWrite D c start w (terminalName op t) b) ∧
        Dir.AgreeOff (terminalName op t) (dirOf w) (dirOf w') ∧ w'.env = w.env) := by
  cases h with
  | look hnarrow _ _ => exact .inl fun ha => ht (hnarrow.absent ha)
  | @write n b hmay hagree _ _ henv =>
    by_cases heq : terminalName op t = n
    · subst heq
      exact .inr ⟨⟨b, hmay⟩, hagree, henv⟩
    · exact .inl fun ha => ht (hagree.absent heq ha)
  | release _ _ hagree _ => exact .inl fun ha => ht (hagree.absent (gate_ne_terminal _ _ _).symm ha)
  | effect _ hdir _ => exact .inl (hdir ▸ ht)

/-- The history only grows. -/
theorem StepEffect.observations_grow : ∃ more, observations w'.env = observations w.env ++ more := by
  cases h with
  | look _ _ hlooked =>
    generalize w'.env = h' at hlooked
    cases hlooked with
    | silent => exact ⟨[], (List.append_nil _).symm⟩
    | observed answer => exact ⟨_, observations_append _ _⟩
  | write _ _ _ _ henv | release _ _ _ henv => exact ⟨[], by rw [henv, List.append_nil]⟩
  | effect _ _ henv => exact ⟨_, by rw [henv]; exact observations_append _ _⟩

end

theorem fsCrash_dir (h : fsCrash w w') : (dirOf w).Crash (dirOf w') := h.1 ()

theorem fsCrash_quiet (h : fsCrash w w') : (dirOf w').QuietOn IsRecordName :=
  fun n _ => (fsCrash_dir h).quietAt n

/-- What every power failure keeps of the journal, every cut keeps: a kill changes nothing. -/
theorem fsCut_dir {I : Dir → Prop} (hI : ∀ d d', I d → d.Crash d' → I d') (h : I (dirOf w))
    (hc : fsCut w w') :
    I (dirOf w') := by
  cases hc with
  | killed => exact h
  | powerFailed hcrash => exact hI _ _ h (fsCrash_dir hcrash)

/-! ## The effect is invoked once, over its durable records -/

/-- Each effect of the history was invoked once, under its durable gate and BEGIN and with no other scope
    pending; its BEGIN is still there. -/
structure EffectsRecorded (w : JournalWorld) : Prop where
  once : (appliedIds w.env).Nodup
  begun : ∀ op ∈ appliedIds w.env, (dirOf w).Present (beginName op)
  recorded : ∀ i step d, Event.applied i step d ∈ w.env →
    HoldsGate d i ∧ ∃ now, d.Durable (beginName i.operationId) (beginRecord i now).encodeToVec
  alone : ∀ i step d, Event.applied i step d ∈ w.env →
    ∀ n, isPendingName n = true → n ≠ nativeScopePendingPath i → d.get n = none

theorem effectsRecorded_init (h : w.env = []) : EffectsRecorded w where
  once := by rw [h]; exact List.nodup_nil
  begun op hop := by rw [h] at hop; cases hop
  recorded i step d hm := by rw [h] at hm; cases hm
  alone i step d hm := by rw [h] at hm; cases hm

theorem EffectsRecorded.of_same (h : EffectsRecorded w) (hids : appliedIds w'.env = appliedIds w.env)
    (hmem : ∀ i step d, Event.applied i step d ∈ w'.env → Event.applied i step d ∈ w.env)
    (hpresent : ∀ op, (dirOf w).Present (beginName op) → (dirOf w').Present (beginName op)) :
    EffectsRecorded w' where
  once := hids ▸ h.once
  begun op hop := hpresent op (h.begun op (hids ▸ hop))
  recorded i step d hm := h.recorded i step d (hmem i step d hm)
  alone i step d hm := h.alone i step d (hmem i step d hm)

theorem EffectsRecorded.step (hstart : EffectsRecorded start) (h : EffectsRecorded w)
    (hs : StepEffect D c start w w') : EffectsRecorded w' := by
  have hpresent : ∀ op, (dirOf w).Present (beginName op) → (dirOf w').Present (beginName op) :=
    fun op => hs.present fun i => (gate_ne_begin i op).symm
  cases hs with
  | look _ _ hlooked => exact h.of_same hlooked.appliedIds (fun _ _ _ => hlooked.applied_mem) hpresent
  | write _ _ _ _ henv | release _ _ _ henv =>
    exact h.of_same (by rw [henv]) (fun _ _ _ hm => henv ▸ hm) hpresent
  | @effect step hp hdir henv =>
    cases hp with
    | ask hask => cases hask
    | effect hclear hgate hbegin halone hhist =>
      have hids : appliedIds w'.env = appliedIds w.env ++ [c.intent.operationId] := by
        rw [henv, appliedIds_append]; rfl
      -- The call found no BEGIN of its operation, so the operation has no earlier effect.
      have hnew : c.intent.operationId ∉ appliedIds w.env := by
        rw [hhist]
        exact fun hm => (hstart.begun _ hm).get_ne hclear.unbegun
      have hcases : ∀ i st d, Event.applied i st d ∈ w'.env →
          Event.applied i st d ∈ w.env ∨ (i = c.intent ∧ d = dirOf w) := by
        intro i st d hm
        rw [henv, List.mem_append, List.mem_singleton] at hm
        rcases hm with hm | hm
        · exact .inl hm
        · cases hm
          exact .inr ⟨rfl, rfl⟩
      constructor
      · rw [hids]
        exact List.nodup_append.mpr ⟨h.once, List.nodup_singleton _, fun a ha b hb hab =>
          hnew (List.mem_singleton.mp hb ▸ hab ▸ ha)⟩
      · intro op hop
        rw [hids, List.mem_append, List.mem_singleton] at hop
        rcases hop with hop | rfl
        · exact hpresent op (h.begun op hop)
        · exact hpresent _ hbegin.present
      · intro i st d hm
        rcases hcases i st d hm with hm | ⟨rfl, rfl⟩
        · exact h.recorded i st d hm
        · exact ⟨hgate, c.nowUnix, hbegin⟩
      · intro i st d hm
        rcases hcases i st d hm with hm | ⟨rfl, rfl⟩
        · exact h.alone i st d hm
        · exact halone

theorem EffectsRecorded.cut (h : EffectsRecorded w) (hc : fsCut w w') : EffectsRecorded w' := by
  cases hc with
  | killed => exact h
  | powerFailed hc =>
    exact h.of_same (by rw [hc.2]) (fun _ _ _ hm => hc.2 ▸ hm) fun _ hp => (fsCrash_dir hc).present hp

theorem effectsRecorded_preserved (D : Deps) : (hostSystem D).Preserves (fun _ _ => True)
    (fun c start => Permitted D c start) EffectsRecorded where
  safe c s _ _ := safe_execute D c s
  step _ _ _ _ _ _ _ hI hg h hs := hI.step h (hg.stepEffect hs)
  crash _ _ h hc := h.cut hc

/-- **One effect per operation, and only over durable records.** In every world visited by a run of
    executions, kills and power failures, no operation id has two effects in the history, and each effect was
    invoked where the gate with exactly its intent and its BEGIN were durable. -/
theorem effect_once_over_durable_records (D : Deps) {s w₀ w : JournalWorld} {ts : List (hostSystem D).Turn}
    {c : HostCall} {p : JournalProc FleetHostResult} (hs : s.env = [])
    (hv : (hostSystem D).Visits s ts c w₀ p w) :
    (appliedIds w.env).Nodup ∧
      ∀ i step d, Event.applied i step d ∈ w.env →
        d.Durable (nativeScopePendingPath i) i.encodeToVec ∧
        ∃ now, d.Durable (beginName i.operationId) (beginRecord i now).encodeToVec := by
  have h := (effectsRecorded_preserved D).visits (effectsRecorded_init hs) hv (fun _ _ => trivial) trivial
  exact ⟨h.once, h.recorded⟩

open WindowsSample in
/-- APPLY of the installed release on the stopped Windows host: one START, invoked over its records. -/
theorem effect_once_windows_start :
    let w := (replay (owner 'a' false) 60 (executeAfterProtectedOwnerCheckOnce deps
      (call "a" .apply 'a' 'a')) emptyJournal).2
    appliedIds w.env = ["a"] ∧ (appliedIds w.env).Nodup ∧
      ∀ i step d, Event.applied i step d ∈ w.env →
        d.Durable (nativeScopePendingPath i) i.encodeToVec ∧
        ∃ now, d.Durable (beginName i.operationId) (beginRecord i now).encodeToVec :=
  ⟨by decide +kernel, effect_once_over_durable_records deps rfl ⟨.nil, replay_steps _ _ _ _⟩⟩

/-! ## What a recovery finds -/

/-- A RECOVER starts only where the operation that the gate of its scope names meets `P`. -/
def PriorMeets (P : Dir → FleetHostIntent → Prop) (c : HostCall) (start : JournalWorld) : Prop :=
  c.intent.action = toI32 FleetHostAction.recover → ∀ b i,
    (dirOf start).read (nativeScopePendingPath c.intent) = some b → decodeHostIntent b = .ok i →
    P (dirOf start) i

instance (P : Dir → FleetHostIntent → Prop) [∀ d i, Decidable (P d i)] (c : HostCall)
    (start : JournalWorld) :
    Decidable (PriorMeets P c start) :=
  decidable_of_iff (c.intent.action = toI32 FleetHostAction.recover →
      ∀ b ∈ (dirOf start).read (nativeScopePendingPath c.intent), ∀ i ∈ (decodeHostIntent b).toOption,
        P (dirOf start) i) (by
    refine imp_congr Iff.rfl (forall_congr' fun b => ?_)
    refine ⟨fun h i hb hi => h hb i (by rw [hi]; rfl), fun h hb i hi => h i hb ?_⟩
    cases hd : decodeHostIntent b with
    | error e => rw [hd] at hi; cases hi
    | ok j => rw [hd] at hi; cases hi; rfl)

variable {i : FleetHostIntent}

theorem PriorMeets.adjudicated {P : Dir → FleetHostIntent → Prop} {o : FleetNativeObservation}
    {verdict : FleetHostResultReason} (h : PriorMeets P c start)
    (hadj : Adjudicates D c (dirOf start) i o verdict) :
    P (dirOf start) i :=
  h hadj.recover _ i hadj.gate hadj.decoded

/-- A terminal of the operation that a reader finds is durable. -/
def TerminalsDurable (d : Dir) (i : FleetHostIntent) : Prop :=
  ∀ t, ∀ b ∈ d.read (terminalName i.operationId t), d.Durable (terminalName i.operationId t) b

instance (d : Dir) (i : FleetHostIntent) : Decidable (TerminalsDurable d i) :=
  inferInstanceAs (Decidable (∀ _, _))

/-- The operation has its BEGIN for certain and no `.observed` terminal, the one that a recovery does not
    look for. -/
def BegunUnobserved (d : Dir) (i : FleetHostIntent) : Prop :=
  d.Present (beginName i.operationId) ∧ d.get (terminalName i.operationId .observed) = none

instance (d : Dir) (i : FleetHostIntent) : Decidable (BegunUnobserved d i) :=
  inferInstanceAs (Decidable (_ ∧ _))

/-- Over such records a gate is given up under a durable terminal. -/
theorem Ends.durable (h : Ends D c start w i t b) (hprior : PriorMeets TerminalsDurable c start) :
    (dirOf w).Durable (terminalName i.operationId t) b := by
  cases h with
  | wrote _ hdurable => exact hdurable
  | found hdir hread hadj _ _ _ _ =>
    rw [hdir] at hread ⊢
    exact hprior.adjudicated hadj t b hread

/-! ## An operation that began and has not ended keeps its gate -/

/-- Each operation with a possible BEGIN has a terminal for certain, or durably holds its gate. -/
def GatesKept (K : Set Bytes) (d : Dir) : Prop :=
  ∀ op, utf8 op ∈ K → ¬ d.Absent (beginName op) →
    (∃ t, d.Present (terminalName op t)) ∨ ∃ i, i.operationId = op ∧ HoldsGate d i

variable {K : Set Bytes}

theorem operationId_eq_of_beginName (hK : Set.InjOn sha256 K) {op op' : String} (hop : utf8 op ∈ K)
    (hop' : utf8 op' ∈ K) (h : beginName op = beginName op') : op = op' :=
  utf8_injective (hK hop hop' (hex_injective (beginName_inj h)))

theorem GatesKept.step (hK : Set.InjOn sha256 K) (hc : utf8 c.intent.operationId ∈ K)
    (hprior : PriorMeets TerminalsDurable c start) (h : GatesKept K (dirOf w))
    (hs : StepEffect D c start w w') :
    GatesKept K (dirOf w') := by
  intro op hop hb
  rcases hs.begin_new hb with hold | ⟨hname, _, hgate⟩
  · rcases h op hop hold with ⟨t, ht⟩ | ⟨i, rfl, hg⟩
    · exact .inl ⟨t, hs.present (fun i => (gate_ne_terminal i op t).symm) ht⟩
    · rcases hs.holdsGate hg with hg' | ⟨t, b, hends, hagree⟩
      · exact .inr ⟨i, rfl, hg'⟩
      · exact .inl ⟨t, hagree.present (gate_ne_terminal _ _ _).symm (hends.durable hprior).present⟩
  · exact .inr ⟨c.intent, (operationId_eq_of_beginName hK hop hc hname).symm, hgate⟩

theorem GatesKept.crash {d' : Dir} (h : GatesKept K d) (hc : d.Crash d') : GatesKept K d' := by
  intro op hop hb
  rcases h op hop fun ha => hb (hc.absent ha) with ⟨t, ht⟩ | ⟨i, hi, hg⟩
  · exact .inl ⟨t, hc.present ht⟩
  · exact .inr ⟨i, hi, hc.durable hg⟩

theorem gatesKept_preserved (D : Deps) (hK : Set.InjOn sha256 K) :
    (hostSystem D).Preserves (fun c w => utf8 c.intent.operationId ∈ K ∧ PriorMeets TerminalsDurable c w)
      (fun c start => Permitted D c start) (fun w => GatesKept K (dirOf w)) where
  safe c s _ _ := safe_execute D c s
  step _ _ _ _ _ _ hc _ hg h hs := h.step hK hc.1 hc.2 (hg.stepEffect hs)
  crash _ _ h hc := fsCut_dir (fun _ _ => GatesKept.crash) h hc

namespace WindowsSample

/-- APPLY on the stopped Windows host right after its effect was invoked. -/
def effectInvoked : JournalWorld :=
  (replay (owner 'a' false) 14 (executeAfterProtectedOwnerCheckOnce deps
    (call "a" .apply 'a' 'a')) emptyJournal).2

/-- The power fails there. -/
def begunThenCut : JournalWorld := powerCycle effectInvoked

/-- The RECOVER of that APPLY, by its first `n` operations. -/
def recovering (n : Nat) (w : JournalWorld) : JournalWorld :=
  (replay (owner 'a' true) n (executeAfterProtectedOwnerCheckOnce deps (call "b" .recover 'a' 'a')) w).2

theorem recovering_steps (n : Nat) (w : JournalWorld) : ∃ p, (executeAfterProtectedOwnerCheckOnce deps
    (call "b" .recover 'a' 'a')).Steps journalSem w p (recovering n w) :=
  ⟨_, replay_steps (owner 'a' true) n _ w⟩

/-- The RECOVER is killed when it has written the terminal of the APPLY and not synced it yet. -/
def recoveryKilled : JournalWorld := recovering 11 begunThenCut

theorem begunThenCut_run : (hostSystem deps).Run emptyJournal
    [⟨call "a" .apply 'a' 'a', emptyJournal, begunThenCut⟩] begunThenCut :=
  run_cut .nil (owner 'a' false) 14 (call "a" .apply 'a' 'a')

theorem recoveryKilled_run : (hostSystem deps).Run emptyJournal
    [⟨call "a" .apply 'a' 'a', emptyJournal, begunThenCut⟩,
      ⟨call "b" .recover 'a' 'a', begunThenCut, recoveryKilled⟩]
    recoveryKilled :=
  run_killed begunThenCut_run (owner 'a' true) 11 (call "b" .recover 'a' 'a')

/-- The RECOVER is repeated, and the power fails when it has removed the gate: the terminal is lost. -/
def recoveryLost : JournalWorld := powerLoss (terminalName "a" .verified) (recovering 10 recoveryKilled)

end WindowsSample

/-- An operation with a possible terminal has its BEGIN for certain, and no other possible terminal; and a
    terminal that is missing is missing for certain. -/
structure TerminalsLone (d : Dir) : Prop where
  begun : ∀ op t, ¬ d.Absent (terminalName op t) → d.Present (beginName op)
  lone : ∀ op t t', ¬ d.Absent (terminalName op t) → ¬ d.Absent (terminalName op t') → t = t'
  sure : ∀ op t, d.Sure (terminalName op t)

theorem terminal_cases (verdict : FleetHostResultReason) (t : Terminal) :
    t = priorTerminal verdict ∨ t = oppositeTerminal verdict ∨ t = .observed := by
  unfold priorTerminal oppositeTerminal
  cases t <;> split <;> simp

theorem MayWrite.terminal_begun {op : String} (hprior : PriorMeets BegunUnobserved c start)
    (h : MayWrite D c start w (terminalName op t) b) : (dirOf w).Present (beginName op) := by
  generalize hn : terminalName op t = n at h
  cases h with
  | reserve _ _ => exact absurd hn.symm (gate_ne_terminal _ _ _)
  | record _ _ => exact absurd hn.symm (begin_ne_terminal _ _ _)
  | conclude _ _ hp _ =>
    rw [beginName_congr (terminalName_inj hn).1]
    exact hp
  | adjudicate _ hadj _ _ _ hagree =>
    rw [beginName_congr (terminalName_inj hn).1]
    exact hagree.present (begin_ne_terminal _ _ _) (hprior.adjudicated hadj).1

/-- Where a terminal may be written, the operation has no terminal of another kind. -/
theorem MayWrite.terminal_lone {op : String} {t' : Terminal} (hstart : TerminalsLone (dirOf start))
    (hprior : PriorMeets BegunUnobserved c start) (h : MayWrite D c start w (terminalName op t) b)
    (hne : t' ≠ t) :
    (dirOf w).Absent (terminalName op t') := by
  generalize hn : terminalName op t = n at h
  cases h with
  | reserve _ _ => exact absurd hn.symm (gate_ne_terminal _ _ _)
  | record _ _ => exact absurd hn.symm (begin_ne_terminal _ _ _)
  | conclude hclear _ _ hsame =>
    obtain ⟨hhex, rfl⟩ := terminalName_inj hn
    rw [terminalName_congr hhex]
    -- The call found no BEGIN of its operation, hence no terminal either.
    have hstart' : (dirOf start).Absent (terminalName c.intent.operationId t') := by
      by_contra hsome
      exact (hstart.begun _ _ hsome).get_ne hclear.unbegun
    exact fun v hv => hstart' v (hsame t' hne v hv)
  | @adjudicate i o verdict _ hadj _ hopp _ hagree =>
    obtain ⟨hhex, rfl⟩ := terminalName_inj hn
    rw [terminalName_congr hhex]
    have hnone : (dirOf start).get (terminalName i.operationId t') = none := by
      rcases terminal_cases verdict t' with rfl | rfl | rfl
      · exact absurd rfl hne
      · exact hopp
      · exact (hprior.adjudicated hadj).2
    exact hagree.absent (fun heq => hne (terminalName_inj heq).2) (hstart.sure _ _ hnone)

theorem TerminalsLone.step (hstart : TerminalsLone (dirOf start))
    (hprior : PriorMeets BegunUnobserved c start) (h : TerminalsLone (dirOf w))
    (hs : StepEffect D c start w w') : TerminalsLone (dirOf w') := by
  have hpresent : ∀ op, (dirOf w).Present (beginName op) → (dirOf w').Present (beginName op) :=
    fun op => hs.present fun i => (gate_ne_begin i op).symm
  -- Next to a terminal that is being written there is no terminal of another kind.
  have hnew : ∀ op t t', (∃ b, MayWrite D c start w (terminalName op t) b) →
      Dir.AgreeOff (terminalName op t) (dirOf w) (dirOf w') → ¬ (dirOf w').Absent (terminalName op t') →
      t = t' := by
    rintro op t t' ⟨b, hmay⟩ hagree ht'
    by_contra hne
    have habsent := hmay.terminal_lone hstart hprior (Ne.symm hne)
    have hname : terminalName op t' ≠ terminalName op t := fun heq => hne (terminalName_inj heq).2.symm
    exact ht' (hagree.absent hname habsent)
  refine ⟨?_, ?_, fun op t => hs.sure (fun i => (gate_ne_terminal i op t).symm) (h.sure op t)⟩
  · intro op t ht
    rcases hs.terminal_new ht with hold | ⟨⟨b, hmay⟩, -, -⟩
    · exact hpresent op (h.begun op t hold)
    · exact hpresent op (hmay.terminal_begun hprior)
  · intro op t t' ht ht'
    rcases hs.terminal_new ht with hold | ⟨hmay, hagree, -⟩
    · rcases hs.terminal_new ht' with hold' | ⟨hmay', hagree', -⟩
      · exact h.lone op t t' hold hold'
      · exact (hnew op t' t hmay' hagree' ht).symm
    · exact hnew op t t' hmay hagree ht'

theorem TerminalsLone.crash {d' : Dir} (h : TerminalsLone d) (hc : d.Crash d') : TerminalsLone d' where
  begun op t ht := hc.present (h.begun op t fun ha => ht (hc.absent ha))
  lone op t t' ht ht' := h.lone op t t' (fun ha => ht (hc.absent ha)) fun ha => ht' (hc.absent ha)
  sure _ _ := (hc.quietAt _).sure

theorem terminalsLone_preserved (D : Deps) : (hostSystem D).Preserves (PriorMeets BegunUnobserved)
    (fun c start => Permitted D c start) (fun w => TerminalsLone (dirOf w)) where
  safe c s _ _ := safe_execute D c s
  step _ _ _ _ _ _ hprior hI hg h hs := hI.step hprior h (hg.stepEffect hs)
  crash _ _ h hc := fsCut_dir (fun _ _ => TerminalsLone.crash) h hc

theorem terminalsLone_init (hnone : ∀ op t, d.Absent (terminalName op t)) : TerminalsLone d where
  begun op t ht := absurd (hnone op t) ht
  lone op t _ ht _ := absurd (hnone op t) ht
  sure op t _ := hnone op t

/-- **One terminal per operation, as long as a RECOVER starts only over operations whose BEGIN is durable and
    that have not ended as `.observed`.** From a journal without terminals, in every world visited by such a
    run, no operation has terminals of two kinds. -/
theorem one_terminal_without_observed_prior (D : Deps) {s w₀ w : JournalWorld}
    {ts : List (hostSystem D).Turn} {c : HostCall} {p : JournalProc FleetHostResult}
    (hempty : ∀ op t, (dirOf s).Absent (terminalName op t))
    (hts : ∀ t ∈ ts, PriorMeets BegunUnobserved t.call t.before) (hc : PriorMeets BegunUnobserved c w₀)
    (hv : (hostSystem D).Visits s ts c w₀ p w) :
    ∀ op t t', (dirOf w).get (terminalName op t) ≠ none →
      (dirOf w).get (terminalName op t') ≠ none → t = t' := by
  have h := (terminalsLone_preserved D).visits (terminalsLone_init hempty) hv hts hc
  exact fun op t t' ht ht' => h.lone op t t' (fun ha => ht ha.get) fun ha => ht' ha.get

end Turns

/-- APPLY of the installed release on the running host is a NOOP; the power fails between its `.observed`
    terminal and the release of its gate. -/
def WindowsSample.observedThenCut : JournalWorld :=
  powerCycle (replay (owner 'a' true) 18 (executeAfterProtectedOwnerCheckOnce deps (call "a" .apply 'a' 'a'))
    emptyJournal).2

open WindowsSample in
/-- **A second terminal.** The RECOVER that follows the interrupted NOOP writes `.verified` next to the
    `.observed` terminal of the same operation. -/
theorem second_terminal_after_observed :
    ∃ ts w, (hostSystem deps).Run emptyJournal ts w ∧
      (dirOf w).get (terminalName "a" .observed) ≠ none ∧
      (dirOf w).get (terminalName "a" .verified) ≠ none := by
  have hcut : (hostSystem deps).Run emptyJournal _ observedThenCut :=
    run_cut .nil (owner 'a' true) 18 (call "a" .apply 'a' 'a')
  have hcheck :
      let rest := replay (owner 'a' true) 60 (executeAfterProtectedOwnerCheckOnce
        deps (call "b" .recover 'a' 'a')) observedThenCut
      ended rest.1 = true ∧ (dirOf rest.2).get (terminalName "a" .observed) ≠ none ∧
        (dirOf rest.2).get (terminalName "a" .verified) ≠ none := by
    decide +kernel
  exact ⟨_, _, run_ended hcut _ _ _ hcheck.1, hcheck.2⟩

open WindowsSample in
/-- An effect cut by a power failure, a RECOVER of it killed over its unsynced terminal, and the RECOVER
    repeated meet the condition: the earlier operation has one terminal. -/
theorem one_terminal_after_interrupted_effect :
    (dirOf (recovering 60 recoveryKilled)).get (terminalName "a" .verified) ≠ none ∧
      ∀ op t t', (dirOf (recovering 60 recoveryKilled)).get (terminalName op t) ≠ none →
        (dirOf (recovering 60 recoveryKilled)).get (terminalName op t') ≠ none → t = t' := by
  have hcheck : (dirOf (recovering 60 recoveryKilled)).get (terminalName "a" .verified) ≠ none ∧
      PriorMeets BegunUnobserved (call "a" .apply 'a' 'a') emptyJournal ∧
      PriorMeets BegunUnobserved (call "b" .recover 'a' 'a') begunThenCut ∧
      PriorMeets BegunUnobserved (call "b" .recover 'a' 'a') recoveryKilled := by
    decide +kernel
  obtain ⟨hterm, happly, hfirst, hsecond⟩ := hcheck
  obtain ⟨_, hsteps⟩ := recovering_steps 60 recoveryKilled
  refine ⟨hterm, one_terminal_without_observed_prior deps (fun _ _ => Dir.absent_empty _)
    (fun t ht => ?_) hsecond
    ⟨recoveryKilled_run, hsteps⟩⟩
  simp only [List.mem_cons, List.not_mem_nil, or_false] at ht
  rcases ht with rfl | rfl
  · exact happly
  · exact hfirst

end EdgePlatform.Host
