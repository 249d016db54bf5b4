import EdgePlatform.Host.Journal

/-!
# `EdgePlatform.Host.Protocol` — what a signed execution may do to the journal

`Permitted` says once, for every operation an execution can issue, in which state it may be issued: a gate is
only reserved where none may be left behind, BEGIN only under the own gate, a terminal only over a present
BEGIN and the durable gate of the operation it ends, a gate is only released under a terminal, and the effect
is only invoked under a durable gate and BEGIN. `safe_execute` proves that every execution keeps to it, over
whatever directory a killed execution or a power failure left; what holds over whole runs is derived from
`Permitted` alone.

The records of an earlier operation are trusted as they are found: a RECOVER looks at what a reader sees and
never syncs it. The permissions to end an earlier operation therefore say what was seen, not what is durable.
-/

namespace EdgePlatform.Host

open Foundation Foundation.Wire Foundation.Proc

/-! ## Families of names -/

/-- The records of the journal. -/
def IsRecordName (n : String) : Prop := endsWith n ".pb" = true

theorem isRecordName_gate (i : FleetHostIntent) : IsRecordName (nativeScopePendingPath i) := by
  unfold IsRecordName nativeScopePendingPath
  rw [endsWith_iff, String.toList_append]
  exact (show ".pb".toList <:+ ".pending.pb".toList by decide).trans (List.suffix_append _ _)

theorem isRecordName_begin (op : String) : IsRecordName (beginName op) := endsWith_append _ _

theorem isRecordName_terminal (op : String) (t : Terminal) : IsRecordName (terminalName op t) :=
  endsWith_append _ _

theorem length_toList_journalHex (b : Bytes) : (journalHex b).toList.length = 64 := by
  simp [journalHex, length_sha256]

theorem length_toList_gate (i : FleetHostIntent) : (nativeScopePendingPath i).toList.length = 84 := by
  simp only [nativeScopePendingPath, String.toList_append, List.length_append, length_toList_journalHex]
  rfl

theorem length_toList_begin (op : String) : (beginName op).toList.length = 67 := by
  simp only [beginName, String.toList_append, List.length_append, length_toList_journalHex]
  rfl

theorem length_toList_terminal (op : String) (t : Terminal) :
    (terminalName op t).toList.length = 68 + t.text.toList.length := by
  simp only [terminalName, String.toList_append, List.length_append, length_toList_journalHex]
  have h1 : ".".toList.length = 1 := rfl
  have h2 : ".pb".toList.length = 3 := rfl
  omega

theorem length_text_bounds (t : Terminal) : 8 ≤ t.text.toList.length ∧ t.text.toList.length ≤ 10 := by
  cases t <;> decide

theorem ne_of_length {a b : String} (h : a.toList.length ≠ b.toList.length) : a ≠ b :=
  fun heq => h (heq ▸ rfl)

theorem gate_ne_begin (i : FleetHostIntent) (op : String) : nativeScopePendingPath i ≠ beginName op :=
  ne_of_length (by rw [length_toList_gate, length_toList_begin]; decide)

theorem gate_ne_terminal (i : FleetHostIntent) (op : String) (t : Terminal) :
    nativeScopePendingPath i ≠ terminalName op t := by
  have hb := length_text_bounds t
  exact ne_of_length (by rw [length_toList_gate, length_toList_terminal]; omega)

theorem begin_ne_terminal (op op' : String) (t : Terminal) : beginName op ≠ terminalName op' t := by
  have hb := length_text_bounds t
  exact ne_of_length (by rw [length_toList_begin, length_toList_terminal]; omega)

theorem Terminal.text_inj {t t' : Terminal} (h : t.text = t'.text) : t = t' := by
  cases t <;> cases t' <;> first | rfl | exact absurd h (by decide)

variable {op op' : String}

theorem terminalName_inj {t t' : Terminal} (h : terminalName op t = terminalName op' t') :
    journalHex (utf8 op) = journalHex (utf8 op') ∧ t = t' := by
  have hl := congrArg String.toList h
  simp only [terminalName, String.toList_append, List.append_assoc] at hl
  -- The digests have one length, so the two names split at the same place.
  obtain ⟨hhex, htail⟩ := List.append_inj hl (by simp only [length_toList_journalHex])
  have htext := List.append_cancel_right (List.append_cancel_left htail)
  exact ⟨String.toList_injective hhex, Terminal.text_inj (String.toList_injective htext)⟩

theorem beginName_inj (h : beginName op = beginName op') : journalHex (utf8 op) = journalHex (utf8 op') := by
  have hl := congrArg String.toList h
  simp only [beginName, String.toList_append] at hl
  exact String.toList_injective (List.append_cancel_right hl)

theorem beginName_congr (h : journalHex (utf8 op) = journalHex (utf8 op')) :
    beginName op = beginName op' := by rw [beginName, beginName, h]

theorem terminalName_congr (h : journalHex (utf8 op) = journalHex (utf8 op')) (t : Terminal) :
    terminalName op t = terminalName op' t := by rw [terminalName, terminalName, h]

theorem isPendingName_gate (i : FleetHostIntent) : isPendingName (nativeScopePendingPath i) = true := by
  have hs : startsWith (nativeScopePendingPath i) "resource-" = true := by
    rw [nativeScopePendingPath, startsWith_iff]
    simp only [String.toList_append, List.append_assoc]
    exact List.prefix_append _ _
  have he : endsWith (nativeScopePendingPath i) ".pending.pb" = true := endsWith_append _ _
  rw [isPendingName, hs, he]
  rfl

/-- A BEGIN record has one dot, a pending record two. -/
theorem isPendingName_begin (op : String) : isPendingName (beginName op) = false := by
  have he : endsWith (beginName op) ".pending.pb" = false := by
    rw [Bool.eq_false_iff]
    intro h
    have hcount := (endsWith_iff.mp h).sublist.count_le '.'
    have hhex : (journalHex (utf8 op)).toList.count '.' = 0 :=
      List.count_eq_zero.mpr (by rw [journalHex, toList_hex]; exact dot_not_mem_hexChars _)
    rw [beginName, String.toList_append, List.count_append, hhex] at hcount
    exact absurd hcount (by decide)
  rw [isPendingName, he, Bool.and_false]

theorem isPendingName_terminal (op : String) (t : Terminal) : isPendingName (terminalName op t) = false := by
  have he : endsWith (terminalName op t) ".pending.pb" = false := by
    rw [Bool.eq_false_iff]
    intro h
    have hsuffix := endsWith_iff.mp h
    -- The name ends in the terminal's own text, which is longer than ".pending".
    have hown : ("." ++ t.text ++ ".pb").toList <:+ (terminalName op t).toList := by
      rw [terminalName]
      generalize journalHex (utf8 op) = key
      refine ⟨key.toList, ?_⟩
      simp only [String.toList_append, List.append_assoc]
    have hlong : ".pending.pb".toList.length ≤ ("." ++ t.text ++ ".pb").toList.length := by
      cases t <;> decide
    have hnested := List.suffix_of_suffix_length_le hsuffix hown hlong
    cases t <;> exact absurd hnested (by decide)
  rw [isPendingName, he, Bool.and_false]

theorem isRecordName_pending {n : String} (h : isPendingName n = true) : IsRecordName n := by
  rw [isPendingName, Bool.and_eq_true, endsWith_iff] at h
  rw [IsRecordName, endsWith_iff]
  exact (show ".pb".toList <:+ ".pending.pb".toList by decide).trans h.2

/-! ## The protocol -/

/-- The gate of `i`'s scope durably names `i`. -/
def HoldsGate (d : Dir) (i : FleetHostIntent) : Prop := d.Durable (nativeScopePendingPath i) i.encodeToVec

/-- The ids of the operations whose effect was invoked, in order. -/
def appliedIds (history : List Event) : List String :=
  history.filterMap fun
    | .applied intent _ _ => some intent.operationId
    | _ => none

/-- What the execution found when it looked at the journal: no other scope is pending, and its operation has
    no BEGIN. -/
structure Cleared (c : HostCall) (start : Dir) : Prop where
  alone : ∀ n, isPendingName n = true → n ≠ nativeScopePendingPath c.intent → start.get n = none
  unbegun : start.get (beginName c.intent.operationId) = none

/-- This RECOVER may settle the earlier intent `i`: it found `i` in its gate and the BEGIN of `i`, and its
    verdict on the observation `o` is `verdict`. -/
structure Adjudicates (D : Deps) (c : HostCall) (start : Dir) (i : FleetHostIntent)
    (o : FleetNativeObservation) (verdict : FleetHostResultReason) : Prop where
  recover : c.intent.action = toI32 FleetHostAction.recover
  gate : start.read (nativeScopePendingPath c.intent) = some i.encodeToVec
  decoded : decodeHostIntent i.encodeToVec = .ok i
  identity : recoveryIdentityMismatch c.intent i = false
  begun : ∃ b recorded, start.read (beginName i.operationId) = some b ∧ decodeHostResult b = .ok recorded ∧
    recoveryBeginMismatch i recorded = false
  verdict : ∃ a selected, authenticate D c = .ok a ∧
    a.registry.owned c.intent.machineId c.intent.kind = some selected ∧
    recoveryVerdict D c.intent i selected a.bound c.nowUnix o = .ok verdict

/-- The operation only asks. -/
def OwnerOp.asks : OwnerOp → Bool
  | .observe | .allowStep _ | .effectElapsedSecs => true
  | _ => false

/-- The entries a call may write in the world `w`, with their contents. `start` is the world the call began
    in. -/
inductive MayWrite (D : Deps) (c : HostCall) (start w : JournalWorld) : String → Bytes → Prop
  /-- Take the gate of the own scope. -/
  | reserve : Cleared c (dirOf start) → (dirOf w).Possible (nativeScopePendingPath c.intent) none →
      MayWrite D c start w (nativeScopePendingPath c.intent) c.intent.encodeToVec
  /-- Record the BEGIN under the own gate. -/
  | record : Cleared c (dirOf start) → HoldsGate (dirOf w) c.intent →
      MayWrite D c start w (beginName c.intent.operationId) (beginRecord c.intent c.nowUnix).encodeToVec
  /-- Write the own terminal; no other terminal of the operation appeared since the call began. -/
  | conclude {t : Terminal} {b : Bytes} : Cleared c (dirOf start) → HoldsGate (dirOf w) c.intent →
      (dirOf w).Present (beginName c.intent.operationId) →
      (∀ t', t' ≠ t → ∀ v, (dirOf w).Possible (terminalName c.intent.operationId t') v →
        (dirOf start).Possible (terminalName c.intent.operationId t') v) →
      MayWrite D c start w (terminalName c.intent.operationId t) b
  /-- Write the terminal of an earlier operation, next to what the call found. Of its other terminals only
      `.observed` was not looked for. -/
  | adjudicate {i : FleetHostIntent} {o : FleetNativeObservation} {verdict : FleetHostResultReason} :
      Cleared c (dirOf start) → Adjudicates D c (dirOf start) i o verdict →
      (dirOf start).get (terminalName i.operationId (priorTerminal verdict)) = none →
      (dirOf start).get (terminalName i.operationId (oppositeTerminal verdict)) = none →
      w.env = start.env ++ [.observed (.ok o)] →
      Dir.AgreeOff (terminalName i.operationId (priorTerminal verdict)) (dirOf start) (dirOf w) →
      MayWrite D c start w (terminalName i.operationId (priorTerminal verdict))
        (priorResult i verdict o.observedAtUnix).encodeToVec

/-- Why a call may give up the gate of `i` over the terminal `t` with contents `b`: it wrote the terminal
    itself, or it is a recovery that found exactly the terminal it would write. -/
inductive Ends (D : Deps) (c : HostCall) (start w : JournalWorld) (i : FleetHostIntent) (t : Terminal)
    (b : Bytes) :
    Prop
  | wrote : (dirOf start).get (terminalName i.operationId t) = none →
      (dirOf w).Durable (terminalName i.operationId t) b → Ends D c start w i t b
  | found {o : FleetNativeObservation} {verdict : FleetHostResultReason} {result : FleetHostResult} :
      dirOf w = dirOf start → (dirOf w).read (terminalName i.operationId t) = some b →
      Adjudicates D c (dirOf start) i o verdict → t = priorTerminal verdict →
      (dirOf start).get (terminalName i.operationId (oppositeTerminal verdict)) = none →
      decodeHostResult b = .ok result →
      recoveryTerminalMismatch i (priorResult i verdict o.observedAtUnix) result = false →
      Ends D c start w i t b

theorem Ends.read {D : Deps} {c : HostCall} {start w : JournalWorld} {i : FleetHostIntent}
    {t : Terminal} {b : Bytes} (h : Ends D c start w i t b) :
    (dirOf w).read (terminalName i.operationId t) = some b := by
  cases h with
  | wrote _ hdurable => exact hdurable.read
  | found _ hread _ _ _ _ _ => exact hread

/-- The operations a call may issue, each with the worlds in which it may issue it. -/
inductive Permitted (D : Deps) (c : HostCall) (start : JournalWorld) :
    (fsSig Unit ownerSig).Op → JournalWorld → Prop
  | stat {n : String} {w : JournalWorld} : Permitted D c start (.dir () (.stat n)) w
  | read {n : String} {w : JournalWorld} : Permitted D c start (.dir () (.read n)) w
  | list {w : JournalWorld} : Permitted D c start (.dir () .list) w
  | syncDir {w : JournalWorld} : Permitted D c start (.dir () .syncDir) w
  | ask {op : OwnerOp} {w : JournalWorld} : op.asks = true → Permitted D c start (.own op) w
  | write {n : String} {b : Bytes} {o : DirOp} {w : JournalWorld} : o.Writes n b → MayWrite D c start w n b →
      Permitted D c start (.dir () o) w
  /-- Give up a gate whose operation has ended. -/
  | release {w : JournalWorld} {i : FleetHostIntent} {t : Terminal} {b : Bytes} :
      (dirOf w).read (nativeScopePendingPath i) = some i.encodeToVec → Ends D c start w i t b →
      Permitted D c start (.dir () (.remove (nativeScopePendingPath i))) w
  /-- Invoke the effect. -/
  | effect {w : JournalWorld} {step : FleetHostPlannedStep} : Cleared c (dirOf start) →
      HoldsGate (dirOf w) c.intent →
      (dirOf w).Durable (beginName c.intent.operationId) (beginRecord c.intent c.nowUnix).encodeToVec →
      (∀ n, isPendingName n = true → n ≠ nativeScopePendingPath c.intent → (dirOf w).get n = none) →
      appliedIds w.env = appliedIds start.env → Permitted D c start (.own (.applyOnce c.intent step)) w

/-- A guard that lets a procedure look around freely. -/
structure Looks (guard : (fsSig Unit ownerSig).Op → JournalWorld → Prop) : Prop where
  stat : ∀ n w, guard (.dir () (.stat n)) w
  read : ∀ n w, guard (.dir () (.read n)) w
  syncDir : ∀ w, guard (.dir () .syncDir) w
  ask : ∀ op w, op.asks = true → guard (.own op) w

theorem Permitted.looks (D : Deps) (c : HostCall) (start : JournalWorld) : Looks (Permitted D c start) where
  stat _ _ := .stat
  read _ _ := .read
  syncDir _ := .syncDir
  ask _ _ h := .ask h

/-! ## Rules of the owner's operations -/

theorem dirOf_setDir (w : JournalWorld) (d : Dir) : dirOf (w.setDir () d) = d :=
  FsWorld.setDir_dirs_self w () d

/-- The history after one more event. -/
def log (w : JournalWorld) (e : Event) : JournalWorld := { w with env := w.env ++ [e] }

@[simp] theorem dirs_log (w : JournalWorld) (e : Event) (u : Unit) : (log w e).dirs u = w.dirs u := rfl

@[simp] theorem env_log (w : JournalWorld) (e : Event) : (log w e).env = w.env ++ [e] := rfl

section Rules

variable {guard : (fsSig Unit ownerSig).Op → JournalWorld → Prop} {α : Type}
variable {Q : Except String α → JournalWorld → Prop} {w : JournalWorld}

theorem safe_observe {k : FleetNativeObservation → JournalProc α} (hl : Looks guard)
    (herr : ∀ e, Q (.error e) (log w (.observed (.error e))))
    (hok : ∀ o, Safe journalSem guard (k o) Q (log w (.observed (.ok o)))) :
    Safe journalSem guard (observe >>= k) Q w := by
  refine safe_own.mpr ⟨hl.ask _ _ rfl, ?_⟩
  intro a history h
  cases h
  cases a with
  | error e => exact herr e
  | ok o => exact hok o

variable {k : Unit → JournalProc α} {step : FleetHostPlannedStep}

theorem safe_allowStep (hl : Looks guard) (herr : ∀ e, Q (.error e) w)
    (hok : Safe journalSem guard (k ()) Q w) :
    Safe journalSem guard (allowStep step >>= k) Q w := by
  refine safe_own.mpr ⟨hl.ask _ _ rfl, ?_⟩
  intro a history h
  obtain rfl : history = w.env := h.trans (List.append_nil _)
  cases a with
  | error e => exact herr e
  | ok u => exact hok

theorem safe_elapsed {k : UInt64 → JournalProc α} (hl : Looks guard)
    (hok : ∀ secs, Safe journalSem guard (k secs) Q w) :
    Safe journalSem guard (own .effectElapsedSecs >>= k) Q w := by
  refine safe_own.mpr ⟨hl.ask _ _ rfl, ?_⟩
  intro secs history h
  obtain rfl : history = w.env := h.trans (List.append_nil _)
  exact hok secs

theorem safe_applyOnce {i : FleetHostIntent} (hg : guard (.own (.applyOnce i step)) w)
    (herr : ∀ e, Q (.error e) (log w (.applied i step (dirOf w))))
    (hok : Safe journalSem guard (k ()) Q (log w (.applied i step (dirOf w)))) :
    Safe journalSem guard (applyOnce i step >>= k) Q w := by
  refine safe_own.mpr ⟨hg, ?_⟩
  intro a history h
  cases h
  cases a with
  | error e => exact herr e
  | ok u => exact hok

end Rules

/-! ## Admission -/

variable {D : Deps} {c : HostCall} {a : Admission} {start w : JournalWorld} {d : Dir} {i : FleetHostIntent}
    {t : Terminal}
variable {guard : (fsSig Unit ownerSig).Op → JournalWorld → Prop} {n : String} {b : Bytes}
    {result : FleetHostResult}

/-- The directory an admission leaves. -/
def admitted (c : HostCall) (d : Dir) : Dir :=
  (d.install (nativeScopePendingPath c.intent) c.intent.encodeToVec).install
    (beginName c.intent.operationId) (beginRecord c.intent c.nowUnix).encodeToVec

theorem get_admitted_other (hg : n ≠ nativeScopePendingPath c.intent)
    (hb : n ≠ beginName c.intent.operationId) : (admitted c d).get n = d.get n := by
  rw [admitted, Dir.get_install, if_neg hb, Dir.get_install, if_neg hg]

theorem read_admitted_gate (c : HostCall) (d : Dir) :
    (admitted c d).read (nativeScopePendingPath c.intent) = some c.intent.encodeToVec := by
  rw [admitted, Dir.read_install, if_neg (gate_ne_begin _ _), Dir.read_install, if_pos rfl]

theorem possible_admitted {v : Option File} (h : (admitted c d).Possible n v) : v = (admitted c d).get n :=
  Dir.possible_install h

/-- An admission either changes nothing or leaves gate and BEGIN durable. -/
theorem safe_admission {registry : HostRegistry} {bound : BoundNativeHostArtifacts}
    {Q : Except String FleetHostResult → JournalWorld → Prop} (hclear : Cleared c (dirOf start))
    (hgate : (dirOf w).get (nativeScopePendingPath c.intent) = none)
    (herr : ∀ e, ¬ (validateAdmission D c registry bound = .ok () ∧
      (dirOf w).get (beginName c.intent.operationId) = none) → Q (.error e) w)
    (hok : (dirOf w).get (beginName c.intent.operationId) = none →
      Q (.ok (beginRecord c.intent c.nowUnix)) (w.setDir () (admitted c (dirOf w)))) :
    Safe journalSem (Permitted D c start) (admitAfterProtectedOwnerCheckOnce D c registry bound) Q w := by
  refine Safe.lift_bind (fun e h => herr e fun hv => by simp [h] at hv) fun _ _ => ?_
  refine safe_stat.mpr ⟨.stat, ?_⟩
  refine Safe.lift_bind (fun e h => herr e fun hv => by simp [rejectIf, hv.2] at h) fun _ hfresh => ?_
  have hbegin : (dirOf w).get (beginName c.intent.operationId) = none := by simpa using hfresh
  -- The gate: it may still be lost until the directory is synced.
  have hlost : (dirOf w).Possible (nativeScopePendingPath c.intent) none :=
    hgate ▸ Dir.possible_get (dirOf w) (nativeScopePendingPath c.intent)
  refine safe_bind.mpr (safe_durableCreate (fun _ => .syncDir)
    (.write .createNew (.reserve hclear hlost)) (fun d hd _ => ?_) (fun d hd _ => ?_)
    (fun f hf => ?_) fun _ => ?_)
  · exact .write .append (.reserve hclear (by simpa using hd.unsure))
  · exact .write .fsync (.reserve hclear (by simpa using hd.unsure))
  · rw [hgate] at hf
    cases hf
  -- BEGIN: written while the gate is durable.
  have hholds :
      HoldsGate ((dirOf w).install (nativeScopePendingPath c.intent) c.intent.encodeToVec) c.intent :=
    Dir.durable_install _ _ _
  have hstay : ∀ d, Dir.AgreeOff (beginName c.intent.operationId)
      ((dirOf w).install (nativeScopePendingPath c.intent) c.intent.encodeToVec) d → HoldsGate d c.intent :=
    fun d hd => hd.durable (gate_ne_begin _ _) hholds
  refine safe_bind.mpr (safe_durableCreate (fun _ => .syncDir)
    (.write .createNew (.record hclear hholds)) (fun d hd _ => ?_) (fun d hd _ => ?_)
    (fun f hf => ?_) fun _ => ?_)
  · exact .write .append (.record hclear (by simpa using hstay d (by simpa using hd.agree)))
  · exact .write .fsync (.record hclear (by simpa using hstay d (by simpa using hd.agree)))
  · rw [FsWorld.setDir_dirs_self, Dir.get_install, if_neg (gate_ne_begin _ _).symm, hbegin] at hf
    cases hf
  · simpa [admitted] using hok hbegin

/-! ## Terminals -/

/-- The directory a stored terminal leaves. -/
def concluded (i : FleetHostIntent) (result : FleetHostResult) (t : Terminal) (d : Dir) : Dir :=
  (d.install (terminalName i.operationId t) result.encodeToVec).unlink (nativeScopePendingPath i)

/-- What a guard must allow a stored terminal of `i`. -/
structure AllowsTerminal (guard : (fsSig Unit ownerSig).Op → JournalWorld → Prop) (i : FleetHostIntent)
    (result : FleetHostResult) (t : Terminal) (w : JournalWorld) : Prop where
  write : ∀ o d, o.Writes (terminalName i.operationId t) result.encodeToVec →
    Dir.AgreeOff (terminalName i.operationId t) (dirOf w) d → guard (.dir () o) (w.setDir () d)
  unlock : (dirOf w).get (terminalName i.operationId t) = none →
    guard (.dir () (.remove (nativeScopePendingPath i)))
      (w.setDir () ((dirOf w).install (terminalName i.operationId t) result.encodeToVec))

/-- The terminal can be stored in `d`. -/
structure Storable (i : FleetHostIntent) (result : FleetHostResult) (t : Terminal) (d : Dir) : Prop where
  valid : validateTerminal i result t = .ok ()
  gate : d.read (nativeScopePendingPath i) = some i.encodeToVec
  fresh : d.get (terminalName i.operationId t) = none

/-- Storing a terminal changes nothing, or writes it and gives up the gate that held exactly this intent. -/
theorem safe_store {Q : Except String Unit → JournalWorld → Prop} (hl : Looks guard)
    (hallow : (dirOf w).read (nativeScopePendingPath i) = some i.encodeToVec →
      AllowsTerminal guard i result t w)
    (herr : ∀ e, ¬ Storable i result t (dirOf w) → Q (.error e) w)
    (hok : Storable i result t (dirOf w) → Q (.ok ()) (w.setDir () (concluded i result t (dirOf w)))) :
    Safe journalSem guard (storeNativeTerminalAndUnlockOnce i result t) Q w := by
  refine Safe.lift_bind (fun e h => herr e fun hs => by simp [hs.valid] at h) fun _ hvalid => ?_
  refine safe_readOr (hl.read _ _) (fun h => herr _ fun hs => ?_) fun pending hread => ?_
  · exact absurd (h.symm.trans hs.gate) (by simp)
  refine Safe.lift_bind (fun e h => herr e fun hs => ?_) fun _ hsame => ?_
  · rw [Option.some.inj (hread.symm.trans hs.gate)] at h
    simp [rejectIf] at h
  have hgate : (dirOf w).read (nativeScopePendingPath i) = some i.encodeToVec := by
    rw [rejectIf_eq_ok, not_not] at hsame
    rw [hread, hsame]
  obtain ⟨hwrite, hunlock⟩ := hallow hgate
  refine safe_bind.mpr (safe_durableCreate hl.syncDir ?_ (fun d hd _ => ?_) (fun d hd _ => ?_)
    (fun f hf => herr _ fun hs => ?_) fun hnew => ?_)
  · have h := hwrite _ (dirOf w) .createNew (Dir.AgreeOff.refl _ _)
    rwa [FsWorld.setDir_self] at h
  · exact hwrite _ d .append hd.agree
  · exact hwrite _ d .fsync hd.agree
  · exact absurd (hf.symm.trans hs.fresh) (by simp)
  · refine safe_durableRemove hl.syncDir (hunlock hnew) (fun hmissing => ?_) fun f _ => ?_
    · -- The gate was just read and is not the terminal.
      rw [FsWorld.setDir_dirs_self, Dir.get_install, if_neg (gate_ne_terminal _ _ _)] at hmissing
      simp [Dir.read, hmissing] at hgate
    · simpa [concluded] using hok ⟨hvalid, hgate, hnew⟩

/-! ## The effect's post-state -/

theorem safe_finishRecords {α : Type} {k : Unit → JournalProc α} {Q : Except String α → JournalWorld → Prop}
    (hl : Looks guard) (herr : ∀ e, Q (.error e) w) (hok : Safe journalSem guard (k ()) Q w) :
    Safe journalSem guard (finishRecords i >>= k) Q w := by
  have hrecords : Safe journalSem guard (finishRecords i) (fun _ w' => w' = w) w := by
    refine safe_readOr (hl.read _ _) (fun _ => rfl) fun _ _ => ?_
    refine Safe.check (fun _ => rfl) fun _ _ => ?_
    refine Safe.check (fun _ => rfl) fun _ _ => ?_
    refine safe_readOr (hl.read _ _) (fun _ => rfl) fun _ _ => ?_
    refine Safe.check (fun _ => rfl) fun _ _ => ?_
    exact Safe.lift (fun _ _ => rfl) fun _ _ => rfl
  exact hrecords.bind (fun u w' h => h ▸ hok) fun e w' h => h ▸ herr e

theorem safe_observeConfigured {α : Type} {k : FleetNativeObservation → JournalProc α}
    {Q : Except String α → JournalWorld → Prop} (hl : Looks guard)
    (herr : ∀ e answer, Q (.error e) (log w (.observed answer)))
    (hok : ∀ o, ¬ (a.action = .apply ∧ configurationDrift c o) →
      Safe journalSem guard (k o) Q (log w (.observed (.ok o)))) :
    Safe journalSem guard (observeConfigured c a >>= k) Q w := by
  refine safe_bind.mpr (safe_observe hl (fun e => herr e _) fun o => ?_)
  refine Safe.check (fun e => herr e _) fun _ h => ?_
  rw [rejectIf_eq_ok] at h
  exact hok o h

/-- What `finish` establishes when it stores a terminal on the post-observation `o`. -/
structure Finished (D : Deps) (c : HostCall) (a : Admission) (expectedRuntimeDigest : Bytes)
    (step : FleetHostPlannedStep) (previousRuntimeDigest : Bytes) (nowUnix : UInt64)
    (o : FleetNativeObservation) : Prop where
  identity : c.intent.machineId = c.nativeMachineId ∧ c.intent.kind = c.nativeOwnerKind
  intentTarget : validateIntentAgainstTarget c.intent a.registry = .ok ()
  expected : sha expectedRuntimeDigest = true
  poststate : ∃ target, (a.registry.owned c.intent.machineId c.intent.kind).bind FleetHost.target =
    some target ∧ finishPoststate D c.intent target expectedRuntimeDigest step previousRuntimeDigest
    nowUnix o = .ok ()
  configured : ¬ (a.action = .apply ∧ configurationDrift c o)

theorem safe_finish {expected previous : Bytes} {step : FleetHostPlannedStep} {now : UInt64}
    {Q : Except String FleetHostResult → JournalWorld → Prop} (hl : Looks guard)
    (hallow : ∀ o result, (dirOf w).read (nativeScopePendingPath c.intent) = some c.intent.encodeToVec →
      AllowsTerminal guard c.intent result .verified (log w (.observed (.ok o))))
    (herr : ∀ e, Q (.error e) w) (herrObserved : ∀ e answer, Q (.error e) (log w (.observed answer)))
    (hok : ∀ o, Finished D c a expected step previous now o →
      Storable c.intent
        (finishResult c.intent (finishReason step previous expected) o.observedAtUnix) .verified
        (dirOf w) →
      Q (.ok (finishResult c.intent (finishReason step previous expected) o.observedAtUnix))
        ((log w (.observed (.ok o))).setDir () (concluded c.intent
          (finishResult c.intent (finishReason step previous expected) o.observedAtUnix) .verified
          (dirOf w)))) :
    Safe journalSem guard (finishAfterProtectedOwnerCheckOnce D c a.registry expected step previous now
      (observeConfigured c a)) Q w := by
  refine Safe.check herr fun _ hid => ?_
  refine Safe.check herr fun _ htarget => ?_
  refine Safe.check herr fun target hlookup => ?_
  refine Safe.check herr fun _ hsha => ?_
  refine safe_finishRecords hl herr ?_
  refine safe_observeConfigured hl herrObserved fun o hconfig => ?_
  refine Safe.check (fun e => herrObserved e _) fun _ hpost => ?_
  rw [rejectIf_eq_ok] at hid hsha
  have hfin : Finished D c a expected step previous now o :=
    { identity := by tauto
      intentTarget := htarget
      expected := by simpa using hsha
      poststate := ⟨target, okOr_eq_ok.mp hlookup, hpost⟩
      configured := hconfig }
  refine safe_bind.mpr (safe_store hl (hallow o _) (fun e _ => herrObserved e _) fun hs => ?_)
  exact hok o hfin hs

/-! ## Permission for terminals -/

theorem holdsGate_admitted (c : HostCall) (d : Dir) : HoldsGate (admitted c d) c.intent :=
  Dir.Durable.install (Dir.durable_install _ _ _) (gate_ne_begin _ _) _

theorem durable_begin_admitted (c : HostCall) (d : Dir) :
    (admitted c d).Durable (beginName c.intent.operationId) (beginRecord c.intent c.nowUnix).encodeToVec :=
  Dir.durable_install _ _ _

/-- Right after its admission a call may store any terminal of its own. -/
theorem allowsTerminal_own (hclear : Cleared c (dirOf start)) (hw : dirOf w = admitted c d)
    (hsame : ∀ t', d.get (terminalName c.intent.operationId t') =
      (dirOf start).get (terminalName c.intent.operationId t')) :
    AllowsTerminal (Permitted D c start) c.intent result t w := by
  have hgate := holdsGate_admitted c d
  have hbegin := (durable_begin_admitted c d).present
  rw [← hw] at hgate hbegin
  constructor
  · intro o d' ho hd'
    refine .write ho (.conclude hclear ?_ ?_ ?_)
    · exact hd'.durable (gate_ne_terminal _ _ _) hgate
    · simpa using hd'.present (begin_ne_terminal _ _ _) hbegin
    · intro t' hne v hv
      rw [dirOf_setDir] at hv
      have hname : terminalName c.intent.operationId t' ≠ terminalName c.intent.operationId t :=
        fun h => hne (terminalName_inj h).2
      have hv' := ((hd' _ hname).2 v).mp hv
      rw [hw] at hv'
      -- The admission ended with a directory sync, and it left this name as the call found it.
      have hget := possible_admitted hv'
      rw [get_admitted_other (gate_ne_terminal _ _ _).symm (begin_ne_terminal _ _ _).symm, hsame t'] at hget
      exact hget ▸ Dir.possible_get _ _
  · intro hnew
    refine .release (t := t) (b := result.encodeToVec) ?_ (.wrote ?_ (Dir.durable_install _ _ _))
    · exact (hgate.install (gate_ne_terminal _ _ _) _).read
    · rw [hw, get_admitted_other (gate_ne_terminal _ _ _).symm (begin_ne_terminal _ _ _).symm] at hnew
      exact (hsame t).symm.trans hnew

/-! ## Settling an earlier operation -/

/-- An earlier intent that may be adjudicated holds the caller's own gate. -/
theorem gate_of_identity {intent original : FleetHostIntent}
    (h : recoveryIdentityMismatch intent original = false) :
    nativeScopePendingPath original = nativeScopePendingPath intent := by
  unfold recoveryIdentityMismatch at h
  simp only [Bool.or_eq_false_iff, decide_eq_false_iff_not, not_not] at h
  unfold nativeScopePendingPath scopeKey
  rw [h.1.1.1.1, h.1.1.2]

theorem decodeHostIntent_canonical (h : decodeHostIntent b = .ok i) : i.encodeToVec = b := by
  simp only [decodeHostIntent, ok_iff, pure_eq_ok, not_not] at h
  obtain ⟨-, i', -, hsame, rfl⟩ := h
  exact hsame

variable {ob : FleetNativeObservation}
  {verdict : FleetHostResultReason}

section

variable (h : Adjudicates D c (dirOf start) i ob verdict)
include h

theorem Adjudicates.read_gate : (dirOf start).read (nativeScopePendingPath i) = some i.encodeToVec := by
  rw [gate_of_identity h.identity]
  exact h.gate

/-- The earlier operation is not the caller's, not even by its file names. -/
theorem Adjudicates.begin_ne (hclear : Cleared c (dirOf start)) :
    journalHex (utf8 c.intent.operationId) ≠ journalHex (utf8 i.operationId) := by
  intro heq
  obtain ⟨b, -, hread, -⟩ := h.begun
  have hnone := hclear.unbegun
  rw [beginName_congr heq] at hnone
  simp [Dir.read, hnone] at hread

end

/-- Without the opposite terminal, recovery may write the terminal of its verdict. -/
theorem allowsTerminal_prior (hclear : Cleared c (dirOf start))
    (hadj : Adjudicates D c (dirOf start) i ob verdict) (hd : dirOf w = dirOf start)
    (hev : w.env = start.env ++ [.observed (.ok ob)])
    (hopp : (dirOf w).get (terminalName i.operationId (oppositeTerminal verdict)) = none)
    (hfresh : (dirOf w).get (terminalName i.operationId (priorTerminal verdict)) = none) :
    AllowsTerminal (Permitted D c start) i (priorResult i verdict ob.observedAtUnix)
      (priorTerminal verdict) w := by
  constructor
  · intro o d' ho hd'
    refine .write ho (.adjudicate hclear hadj (hd ▸ hfresh) (hd ▸ hopp) hev ?_)
    rw [dirOf_setDir]
    exact hd ▸ hd'
  · intro hnew
    refine .release (t := priorTerminal verdict)
      (b := (priorResult i verdict ob.observedAtUnix).encodeToVec) ?_
      (.wrote (hd ▸ hnew) (Dir.durable_install _ _ _))
    rw [dirOf_setDir, Dir.read_install, if_neg (gate_ne_terminal _ _ _), hd]
    exact hadj.read_gate

/-- Settling changes nothing, or gives up the gate of the earlier operation: over the matching terminal it
    found, or over the terminal it stored. -/
theorem safe_settlePrior {Q : Except String Unit → JournalWorld → Prop} (hclear : Cleared c (dirOf start))
    (hadj : Adjudicates D c (dirOf start) i ob verdict) (hd : dirOf w = dirOf start)
    (hev : w.env = start.env ++ [.observed (.ok ob)])
    (herr : ∀ e, ¬ ((dirOf w).get (terminalName i.operationId (oppositeTerminal verdict)) = none ∧
      Storable i (priorResult i verdict ob.observedAtUnix) (priorTerminal verdict) (dirOf w)) →
      Q (.error e) w)
    (hadopt : ∀ b found, (dirOf w).get (terminalName i.operationId (oppositeTerminal verdict)) = none →
      (dirOf w).read (terminalName i.operationId (priorTerminal verdict)) = some b →
      decodeHostResult b = .ok found →
      recoveryTerminalMismatch i (priorResult i verdict ob.observedAtUnix) found = false →
      Q (.ok ()) (w.setDir () ((dirOf w).unlink (nativeScopePendingPath c.intent))))
    (hstore : (dirOf w).get (terminalName i.operationId (oppositeTerminal verdict)) = none →
      Storable i (priorResult i verdict ob.observedAtUnix) (priorTerminal verdict) (dirOf w) →
      Q (.ok ()) (w.setDir () (concluded i (priorResult i verdict ob.observedAtUnix) (priorTerminal verdict)
        (dirOf w)))) :
    Safe journalSem (Permitted D c start) (settlePrior c.intent i verdict ob.observedAtUnix) Q w := by
  have hl := Permitted.looks D c start
  refine safe_stat.mpr ⟨.stat, ?_⟩
  refine Safe.lift_bind (fun e h => herr e fun hs => by simp [rejectIf, hs.1] at h) fun _ hopp => ?_
  have hopp : (dirOf w).get (terminalName i.operationId (oppositeTerminal verdict)) = none := by
    simpa using hopp
  refine safe_stat.mpr ⟨.stat, ?_⟩
  cases hterm : (dirOf w).get (terminalName i.operationId (priorTerminal verdict)) with
  | none =>
    -- No terminal yet: store the one of this verdict.
    refine safe_store hl (fun _ => allowsTerminal_prior hclear hadj hd hev hopp hterm) ?_ (hstore hopp)
    exact fun e hs => herr e fun h => hs h.2
  | some f =>
    have hbusy : ∀ e, Q (.error e) w := fun e => herr e fun hs => by
      rw [hs.2.fresh] at hterm
      cases hterm
    refine safe_readOr .read (fun _ => hbusy _) fun b hread => ?_
    refine Safe.check hbusy fun found hfound => ?_
    refine Safe.check hbusy fun _ hmatch => ?_
    have hgate : (dirOf w).read (nativeScopePendingPath i) = some i.encodeToVec := hd ▸ hadj.read_gate
    have hends : Ends D c start w i (priorTerminal verdict) b :=
      .found hd hread hadj rfl (hd ▸ hopp) hfound (by simpa using hmatch)
    rw [← gate_of_identity hadj.identity]
    refine safe_durableRemove (fun _ => .syncDir) (.release hgate hends) (fun hmissing => ?_) ?_
    · exact absurd hmissing (Dir.get_ne_of_read hgate)
    · intro _ _
      rw [gate_of_identity hadj.identity]
      exact hadopt b found hopp hread hfound (by simpa using hmatch)

/-! ## Whole executions -/

theorem appliedIds_append (h h' : List Event) : appliedIds (h ++ h') = appliedIds h ++ appliedIds h' :=
  List.filterMap_append

variable {before : FleetNativeObservation} {selected : FleetHost}

section

variable (hclear : Cleared c (dirOf start))
include hclear

/-- What a call that admitted itself may do next: store a terminal. -/
theorem safe_store_own (hw : dirOf w = admitted c d)
    (hsame : ∀ t', d.get (terminalName c.intent.operationId t') =
      (dirOf start).get (terminalName c.intent.operationId t')) :
    Safe journalSem (Permitted D c start) (storeNativeTerminalAndUnlockOnce c.intent result t)
      (fun _ _ => True) w :=
  safe_store (Permitted.looks D c start) (fun _ => allowsTerminal_own hclear hw hsame) (fun _ _ => trivial)
    fun _ => trivial

theorem safe_executeNoop (hd : dirOf w = dirOf start)
    (hgate : (dirOf start).get (nativeScopePendingPath c.intent) = none) :
    Safe journalSem (Permitted D c start) (executeNoop D c a before) (fun _ _ => True) w := by
  refine safe_bind.mpr (safe_admission hclear (hd ▸ hgate) (fun _ _ => trivial) fun _ => ?_)
  refine safe_bind.mpr ((safe_store_own hclear (dirOf_setDir _ _) fun t => by rw [hd]).post ?_)
  rintro (e | u) w' - <;> trivial

theorem safe_executeEffect {step : FleetHostPlannedStep}
    (hd : dirOf w = dirOf start) (hhist : appliedIds w.env = appliedIds start.env)
    (hgate : (dirOf start).get (nativeScopePendingPath c.intent) = none) :
    Safe journalSem (Permitted D c start) (executeEffect D c a before step) (fun _ _ => True) w := by
  have hl := Permitted.looks D c start
  refine safe_allowStep hl (fun _ => trivial) ?_
  refine safe_bind.mpr (safe_admission hclear (hd ▸ hgate) (fun _ _ => trivial) fun _ => ?_)
  generalize hw' : w.setDir () (admitted c (dirOf w)) = w'
  have hdir : dirOf w' = admitted c (dirOf w) := hw' ▸ dirOf_setDir _ _
  have hhist' : appliedIds w'.env = appliedIds start.env := by
    rw [← hw', FsWorld.setDir_env, hhist]
  -- The effect: gate and BEGIN are durable, nothing else is pending, the history has no new effect.
  have hpermit : Permitted D c start (.own (.applyOnce c.intent step)) w' := by
    refine .effect hclear ?_ ?_ ?_ hhist'
    · rw [hdir]
      exact holdsGate_admitted c _
    · rw [hdir]
      exact durable_begin_admitted c _
    · intro n hpending hne
      have hbegin : n ≠ beginName c.intent.operationId := by
        rintro rfl
        rw [isPendingName_begin] at hpending
        cases hpending
      rw [hdir, get_admitted_other hne hbegin, hd]
      exact hclear.alone n hpending hne
  refine safe_applyOnce hpermit (fun _ => trivial) ?_
  refine safe_elapsed hl fun secs => ?_
  -- The post-state: `finish` observes once more and stores the verified terminal.
  refine safe_finish hl (fun o result _ => ?_) (fun _ => trivial) (fun _ _ => trivial) fun o _ _ => trivial
  exact allowsTerminal_own hclear hdir fun t => by rw [hd]

theorem safe_executePlanned (hgate : (dirOf start).get (nativeScopePendingPath c.intent) = none) :
    Safe journalSem (Permitted D c start) (executePlanned D c a selected) (fun _ _ => True) start := by
  refine safe_observe (Permitted.looks D c start) (fun _ => trivial) fun before => ?_
  refine Safe.check (fun _ => trivial) fun step _ => ?_
  split
  · exact safe_executeNoop hclear rfl hgate
  · refine Safe.check (fun _ => trivial) fun _ _ => ?_
    refine safe_executeEffect hclear rfl ?_ hgate
    rw [env_log, appliedIds_append]
    exact List.append_nil _

end

/-- What settling the earlier operation may leave: the gate is free, and only the earlier operation's own
    terminal may be new. -/
structure Settled (c : HostCall) (i : FleetHostIntent) (d d' : Dir) : Prop where
  gate : d'.get (nativeScopePendingPath c.intent) = none
  other : ∀ n, n ≠ nativeScopePendingPath c.intent → (∀ t, n ≠ terminalName i.operationId t) →
    d'.get n = d.get n

theorem settled_unlink (c : HostCall) (i : FleetHostIntent) (d : Dir) :
    Settled c i d (d.unlink (nativeScopePendingPath c.intent)) where
  gate := by rw [Dir.get_unlink, if_pos rfl]
  other n hn _ := by rw [Dir.get_unlink, if_neg hn]

theorem settled_concluded (hi : nativeScopePendingPath i = nativeScopePendingPath c.intent) :
    Settled c i d (concluded i result t d) where
  gate := by rw [concluded, hi, Dir.get_unlink, if_pos rfl]
  other n hn ht := by
    rw [concluded, hi, Dir.get_unlink, if_neg hn, Dir.get_install, if_neg (ht t)]

/-- The earlier operation settled, or nothing was done. -/
def SettledFrom (c : HostCall) (i : FleetHostIntent) (w : JournalWorld) :
    Except String Unit → JournalWorld → Prop
  | .ok _, w' => ∃ d', Settled c i (dirOf w) d' ∧ w' = w.setDir () d'
  | .error _, w' => w' = w

theorem safe_resolve {o : FleetNativeObservation} (hclear : Cleared c (dirOf start))
    (hd : dirOf w = dirOf start) (hev : w.env = start.env ++ [.observed (.ok o)])
    (hrecover : c.intent.action = toI32 FleetHostAction.recover) (hauth : authenticate D c = .ok a)
    (hselected : a.registry.owned c.intent.machineId c.intent.kind = some selected) :
    Safe journalSem (Permitted D c start)
      (resolvePendingNativeRecoveryOnce D c a.registry selected a.bound o) (fun _ _ => True) w := by
  refine safe_readOr .read (fun _ => trivial) fun pending hpending => ?_
  refine Safe.check (fun _ => trivial) fun original horiginal => ?_
  refine Safe.check (fun _ => trivial) fun _ hidentity => ?_
  refine safe_readOr .read (fun _ => trivial) fun begun hbegun => ?_
  refine Safe.check (fun _ => trivial) fun recorded hrecorded => ?_
  refine Safe.check (fun _ => trivial) fun _ hmismatch => ?_
  refine Safe.check (fun _ => trivial) fun verdict hverdict => ?_
  have hbytes := decodeHostIntent_canonical horiginal
  have hadj : Adjudicates D c (dirOf start) original o verdict :=
    { recover := hrecover
      gate := by rw [hbytes, ← hd]; exact hpending
      decoded := by rw [hbytes]; exact horiginal
      identity := by simpa using hidentity
      begun := ⟨begun, recorded, by rw [← hd]; exact hbegun, hrecorded, by simpa using hmismatch⟩
      verdict := ⟨a, selected, hauth, hselected, hverdict⟩ }
  -- Settle the earlier operation; either way the gate of the scope is free again.
  have hsettle : Safe journalSem (Permitted D c start)
      (settlePrior c.intent original verdict o.observedAtUnix)
      (SettledFrom c original w) w := by
    refine safe_settlePrior hclear hadj hd hev (fun _ _ => rfl) (fun _ _ _ _ _ _ => ?_) fun _ _ => ?_
    · exact ⟨_, settled_unlink _ _ _, rfl⟩
    · exact ⟨_, settled_concluded (gate_of_identity hadj.identity), rfl⟩
  refine hsettle.bind (fun u w' h => ?_) fun _ _ _ => trivial
  obtain ⟨d', hset, rfl⟩ := h
  -- The RECOVER itself: admitted over the settled directory, and ended at once.
  have hsame : ∀ t, (dirOf (w.setDir () d')).get (terminalName c.intent.operationId t) =
      (dirOf start).get (terminalName c.intent.operationId t) := by
    intro t
    rw [dirOf_setDir, ← hd]
    exact hset.other _ (gate_ne_terminal _ _ _).symm fun t' h =>
      hadj.begin_ne hclear (terminalName_inj h).1
  refine safe_bind.mpr (safe_admission hclear hset.gate (fun _ _ => trivial) fun _ => ?_)
  refine safe_bind.mpr ((safe_store_own hclear (dirOf_setDir _ _) hsame).post ?_)
  rintro (e | u) w'' - <;> trivial

theorem safe_recoverPending (hclear : Cleared c (dirOf start))
    (hrecover : c.intent.action = toI32 FleetHostAction.recover) (hauth : authenticate D c = .ok a)
    (hselected : a.registry.owned c.intent.machineId c.intent.kind = some selected) :
    Safe journalSem (Permitted D c start) (recoverPending D c a selected) (fun _ _ => True) start := by
  refine safe_observe (Permitted.looks D c start) (fun _ => trivial) fun o => ?_
  have hresolve := safe_resolve (w := log start (.observed (.ok o))) hclear rfl rfl hrecover hauth hselected
  split
  · refine Safe.check (fun _ => trivial) fun _ _ => ?_
    exact Safe.check (fun _ => trivial) fun _ _ => hresolve
  · exact hresolve

theorem cleared_of_list {names : List String} (hperm : names.Perm (dirOf start).live.keys)
    (halone : ¬ ∃ name ∈ names, isPendingName name = true ∧ name ≠ nativeScopePendingPath c.intent)
    (hbegun : (dirOf start).get (beginName c.intent.operationId) = none) : Cleared c (dirOf start) where
  alone n hpending hne := by
    by_contra hsome
    exact halone ⟨n, hperm.mem_iff.mpr (Dir.mem_keys_of_get hsome), hpending, hne⟩
  unbegun := hbegun

/-- **Every execution keeps to the protocol**, whatever the owner answers and whatever directory it finds. -/
theorem safe_execute (D : Deps) (c : HostCall) (start : JournalWorld) :
    Safe journalSem (Permitted D c start) (executeAfterProtectedOwnerCheckOnce D c)
      (fun _ _ => True) start := by
  refine Safe.check (fun _ => trivial) fun a hauth => ?_
  refine safe_bind.mpr (safe_list.mpr ⟨.list, fun names hperm => ?_⟩)
  refine Safe.lift (fun _ _ => trivial) fun _ halone => ?_
  refine safe_stat.mpr ⟨.stat, ?_⟩
  refine Safe.check (fun _ => trivial) fun _ hbegun => ?_
  have hclear : Cleared c (dirOf start) :=
    cleared_of_list hperm (rejectIf_eq_ok.mp halone) (by simpa using hbegun)
  refine Safe.check (fun _ => trivial) fun selected hselected => ?_
  refine safe_stat.mpr ⟨.stat, ?_⟩
  cases hgate : (dirOf start).get (nativeScopePendingPath c.intent) with
  | none => exact safe_executePlanned hclear hgate
  | some f =>
    refine Safe.check (fun _ => trivial) fun _ hrecover => ?_
    exact safe_recoverPending hclear (by simpa using hrecover) hauth (okOr_eq_ok.mp hselected)

end EdgePlatform.Host
