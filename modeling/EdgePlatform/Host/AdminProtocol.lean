import EdgePlatform.Host.Admin
import EdgePlatform.Host.Protocol

/-!
# `EdgePlatform.Host.AdminProtocol` — what an admin execution may do to the journal

As `Permitted` does for the lifecycle, `AdminPermitted` says once what an admin execution may do: it writes
only the four names of its own operation, starts its program only while its pending record is certainly there
and the operation certainly has no BEGIN, and gives up the pending record only under its terminal.
`safe_execute` proves that every execution keeps to it.
-/

namespace EdgePlatform.Host.HostAdmin

open Foundation Foundation.Wire Foundation.Proc

/-! ## Families of names -/

theorem length_toList_pendingName (op : String) : (pendingName op).toList.length = 81 := by
  simp only [pendingName, String.toList_append, List.length_append, length_toList_journalHex]
  rfl

theorem length_toList_terminalName (op : String) : (terminalName op).toList.length = 82 := by
  simp only [terminalName, String.toList_append, List.length_append, length_toList_journalHex]
  rfl

theorem isPendingName_pendingName (op : String) : isPendingName (pendingName op) = true := by
  have hs : startsWith (pendingName op) "admin-" = true := by
    rw [pendingName, startsWith_iff]
    simp only [String.toList_append, List.append_assoc]
    exact List.prefix_append _ _
  have he : endsWith (pendingName op) ".pending.pb" = true := endsWith_append _ _
  rw [isPendingName, hs, he, Bool.or_true, Bool.and_true]

theorem isRecordName_pendingName (op : String) : IsRecordName (pendingName op) :=
  isRecordName_pending (isPendingName_pendingName op)

/-- The captures of an operation. -/
def IsCapture (op n : String) : Prop := n = stdoutName op ∨ n = stderrName op

variable {op n op' : String}

/-- A capture is no record. -/
theorem IsCapture.not_isRecordName (h : IsCapture op n) : ¬ IsRecordName n := by
  have hbin : ".bin".toList <:+ n.toList := by
    rcases h with rfl | rfl
    · rw [stdoutName, String.toList_append]
      exact (show ".bin".toList <:+ ".stdout.bin".toList by decide).trans (List.suffix_append _ _)
    · rw [stderrName, String.toList_append]
      exact (show ".bin".toList <:+ ".stderr.bin".toList by decide).trans (List.suffix_append _ _)
  intro hpb
  have hnested := List.suffix_of_suffix_length_le (endsWith_iff.mp hpb) hbin (by decide)
  exact absurd hnested (by decide)

theorem pendingName_ne_begin (op op' : String) : pendingName op ≠ beginName op' :=
  ne_of_length (by rw [length_toList_pendingName, length_toList_begin]; decide)

theorem terminalName_ne_begin (op op' : String) : terminalName op ≠ beginName op' :=
  ne_of_length (by rw [length_toList_terminalName, length_toList_begin]; decide)

theorem pendingName_ne_terminalName (op op' : String) : pendingName op ≠ terminalName op' :=
  ne_of_length (by rw [length_toList_pendingName, length_toList_terminalName]; decide)

theorem pendingName_ne_gate (op : String) (i : FleetHostIntent) :
    pendingName op ≠ nativeScopePendingPath i :=
  ne_of_length (by rw [length_toList_pendingName, length_toList_gate]; decide)

theorem terminalName_ne_gate (op : String) (i : FleetHostIntent) :
    terminalName op ≠ nativeScopePendingPath i :=
  ne_of_length (by rw [length_toList_terminalName, length_toList_gate]; decide)

theorem pendingName_inj (h : pendingName op = pendingName op') :
    journalHex (utf8 op) = journalHex (utf8 op') := by
  have hl := congrArg String.toList h
  simp only [pendingName, String.toList_append, List.append_assoc] at hl
  exact String.toList_injective (List.append_cancel_right (List.append_cancel_left hl))

theorem terminalName_congr (h : journalHex (utf8 op) = journalHex (utf8 op')) :
    terminalName op = terminalName op' := by rw [terminalName, terminalName, h]

/-- The names an operation writes. -/
def IsOwnName (op n : String) : Prop := n = pendingName op ∨ n = terminalName op ∨ IsCapture op n

/-- No admin execution writes a BEGIN of the lifecycle. -/
theorem IsOwnName.ne_begin (h : IsOwnName op n) (op' : String) : n ≠ beginName op' := by
  rcases h with rfl | rfl | h
  · exact pendingName_ne_begin op op'
  · exact terminalName_ne_begin op op'
  · rintro rfl
    exact h.not_isRecordName (isRecordName_begin op')

/-- Nor does it write a terminal of the lifecycle. -/
theorem IsOwnName.ne_terminal (h : IsOwnName op n) (op' : String) (t : Terminal) :
    n ≠ Host.terminalName op' t := by
  have hb := length_text_bounds t
  rcases h with rfl | rfl | h
  · exact ne_of_length (by rw [length_toList_pendingName, length_toList_terminal]; omega)
  · exact ne_of_length (by rw [length_toList_terminalName, length_toList_terminal]; omega)
  · rintro rfl
    exact h.not_isRecordName (isRecordName_terminal op' t)

/-! ## The protocol -/

/-- The operation only asks. -/
def asks : OwnerOp → Bool
  | .rootFile _ | .ownerExecutable | .adminAuthorization _ | .clock => true
  | _ => false

theorem silent_of_asks {op : OwnerOp} {w : JournalWorld} {a : op.Ans} {history : List Event}
    (hask : asks op = true) (h : ownerSem op w a history) : history = w.env := by
  rw [show history = w.env ++ op.events (dirOf w) a from h]
  cases op with
  | rootFile | ownerExecutable | adminAuthorization | clock => exact List.append_nil _
  | _ => cases hask

/-- The operations an execution of `request` may issue, each with the worlds in which it may issue it. -/
inductive AdminPermitted (request : FleetNativeAdminRequest) : (fsSig Unit ownerSig).Op → JournalWorld → Prop
  | stat {n : String} {w : JournalWorld} : AdminPermitted request (.dir () (.stat n)) w
  | list {w : JournalWorld} : AdminPermitted request (.dir () .list) w
  | syncDir {w : JournalWorld} : AdminPermitted request (.dir () .syncDir) w
  | ask {op : OwnerOp} {w : JournalWorld} : asks op = true → AdminPermitted request (.own op) w
  | write {n : String} {b : Bytes} {o : DirOp} {w : JournalWorld} : o.Writes n b →
      IsOwnName (operationId request) n → AdminPermitted request (.dir () o) w
  /-- Start the program under its pending record, never for an operation with a BEGIN. -/
  | spawn {w : JournalWorld} : (dirOf w).Present (pendingName (operationId request)) →
      (dirOf w).Absent (beginName (operationId request)) → AdminPermitted request (.own (.spawn request)) w
  /-- Give up the pending record of a recorded operation. -/
  | release {w : JournalWorld} : (dirOf w).Present (terminalName (operationId request)) →
      AdminPermitted request (.dir () (.remove (pendingName (operationId request)))) w

/-- A program that keeps to what an execution of `request` may do. -/
abbrev AdminSafe (request : FleetNativeAdminRequest) {α : Type} (p : JournalProc α)
    (Q : Except String α → JournalWorld → Prop) (w : JournalWorld) : Prop :=
  Safe journalSem (AdminPermitted request) p Q w

/-- What one permitted operation did. -/
inductive AdminStep (request : FleetNativeAdminRequest) (w w' : JournalWorld) : Prop
  | look : (dirOf w).Narrows (dirOf w') → w'.env = w.env → AdminStep request w w'
  | write {n : String} : IsOwnName (operationId request) n → Dir.AgreeOff n (dirOf w) (dirOf w') →
      ((dirOf w').Possible n none → (dirOf w).Possible n none) → w'.env = w.env → AdminStep request w w'
  | spawn : (dirOf w).Present (pendingName (operationId request)) →
      (dirOf w).Absent (beginName (operationId request)) → dirOf w' = dirOf w →
      w'.env = w.env ++ [.spawned request (dirOf w)] → AdminStep request w w'
  | release : (dirOf w).Present (terminalName (operationId request)) →
      Dir.AgreeOff (pendingName (operationId request)) (dirOf w) (dirOf w') → w'.env = w.env →
      AdminStep request w w'

section Step

variable {request : FleetNativeAdminRequest} {w w' : JournalWorld}

theorem AdminPermitted.adminStep {op : (fsSig Unit ownerSig).Op} {a : (fsSig Unit ownerSig).Ans op}
    (hp : AdminPermitted request op w) (hs : journalSem op w a w') : AdminStep request w w' := by
  cases hp with
  | stat | list =>
    obtain ⟨d', ⟨-, rfl⟩, rfl⟩ := hs
    exact .look (Dir.Narrows.refl _) rfl
  | syncDir =>
    obtain ⟨d', rfl, rfl⟩ := hs
    exact .look (Dir.narrows_syncDir _) rfl
  | @ask op _ hask =>
    obtain ⟨history, h, rfl⟩ := hs
    exact .look (Dir.Narrows.refl _) (silent_of_asks hask h)
  | write ho hn =>
    obtain ⟨d', hd', rfl⟩ := hs
    exact .write hn (ho.agreeOff hd') (ho.possible_none hd') rfl
  | spawn hpending hbegin =>
    obtain ⟨history, h, rfl⟩ := hs
    exact .spawn hpending hbegin rfl h
  | release hterminal =>
    obtain ⟨d', ⟨-, rfl⟩, rfl⟩ := hs
    refine .release hterminal ?_ rfl
    split
    · exact Dir.agreeOff_remove _ _
    · exact Dir.AgreeOff.refl _ _

/-- A step removes nothing but the pending record of its operation. -/
theorem AdminStep.present {n : String} (h : AdminStep request w w')
    (hn : n ≠ pendingName (operationId request)) (hp : (dirOf w).Present n) : (dirOf w').Present n := by
  cases h with
  | look hnarrow _ => exact hnarrow.present hp
  | @write m _ hagree hnone _ =>
    by_cases hm : n = m
    · subst hm
      exact fun hv => hp (hnone hv)
    · exact hagree.present hm hp
  | spawn _ _ hdir _ => exact hdir ▸ hp
  | release _ hagree _ => exact hagree.present hn hp

/-- A step leaves every durable record that is not of its operation. -/
theorem AdminStep.durable {n : String} {b : Bytes} (h : AdminStep request w w')
    (hn : ∀ m, IsOwnName (operationId request) m → m ≠ n) (hd : (dirOf w).Durable n b) :
    (dirOf w').Durable n b := by
  cases h with
  | look hnarrow _ => exact hnarrow.durable hd
  | write hown hagree _ _ => exact hagree.durable (hn _ hown).symm hd
  | spawn _ _ hdir _ => exact hdir ▸ hd
  | release _ hagree _ => exact hagree.durable (hn _ (.inl rfl)).symm hd

/-- A step leaves every BEGIN absent that was absent. -/
theorem AdminStep.begin_absent {op : String} (h : AdminStep request w w')
    (ha : (dirOf w).Absent (beginName op)) : (dirOf w').Absent (beginName op) := by
  cases h with
  | look hnarrow _ => exact hnarrow.absent ha
  | write hn hagree _ _ => exact hagree.absent (hn.ne_begin op).symm ha
  | spawn _ _ hdir _ => exact hdir ▸ ha
  | release _ hagree _ => exact hagree.absent (pendingName_ne_begin _ _).symm ha

end Step

/-! ## Every execution keeps to the protocol -/

variable {D : Deps} {raw : Bytes}

section Safe

variable {request : FleetNativeAdminRequest} {α : Type} {Q : Except String α → JournalWorld → Prop}
variable {w : JournalWorld}

/-- An answer of the owner that only informs. -/
theorem safe_asks {op : OwnerOp} {k : op.Ans → JournalProc α} (hask : asks op = true)
    (hok : ∀ a, AdminSafe request (k a) Q w) :
    AdminSafe request (own op >>= k) Q w := by
  refine safe_own.mpr ⟨.ask hask, ?_⟩
  intro a history h
  obtain rfl := silent_of_asks hask h
  exact hok a

/-- An answer that may be an error. -/
theorem safe_asks_lift {β : Type} (op : OwnerOp) {f : op.Ans → Except String β} {k : β → JournalProc α}
    (hask : asks op = true) (herr : ∀ e, Q (.error e) w) (hok : ∀ b, AdminSafe request (k b) Q w) :
    AdminSafe request (own op >>= fun a => (liftM (f a) : JournalProc β) >>= k) Q w :=
  safe_asks hask fun _ => Safe.check herr fun b _ => hok b

theorem safe_rootFile {name : String} {k : Bytes → JournalProc α} (herr : ∀ e, Q (.error e) w)
    (hok : ∀ b, AdminSafe request (k b) Q w) :
    AdminSafe request (rootFile name >>= k) Q w :=
  safe_asks_lift (.rootFile name) (f := id) rfl herr hok

theorem safe_clock {k : UInt64 → JournalProc α} (herr : ∀ e, Q (.error e) w)
    (hok : ∀ t, AdminSafe request (k t) Q w) :
    AdminSafe request (clock >>= k) Q w :=
  safe_asks_lift .clock (f := id) rfl herr hok

variable {op n spool : String} {k : Unit → JournalProc α}

/-- A durable record of the own operation. -/
theorem safe_createOwn {taken : String} {b : Bytes} (hown : IsOwnName (operationId request) n)
    (htaken : Q (.error taken) w) (hok : AdminSafe request (k ()) Q (w.setDir () ((dirOf w).install n b))) :
    AdminSafe request (Fs.durableCreate () n b taken >>= k) Q w := by
  have hwrite : ∀ {o : DirOp} {w : JournalWorld}, o.Writes n b → AdminPermitted request (.dir () o) w :=
    fun ho => .write ho hown
  exact safe_bind.mpr (safe_durableCreate (fun _ => .syncDir) (hwrite .createNew)
    (fun _ _ _ => hwrite .append) (fun _ _ _ => hwrite .fsync) (fun _ _ => htaken) fun _ => hok)

/-- What the availability check found: the operation has no record of either family. -/
structure Available (op : String) (d : Dir) : Prop where
  pending : d.get (pendingName op) = none
  terminal : d.get (terminalName op) = none
  unbegun : d.get (beginName op) = none

theorem safe_available (herr : ∀ e, Q (.error e) w)
    (hok : Available op (dirOf w) → AdminSafe request (k ()) Q w) :
    AdminSafe request (independentAdminOperationAvailable op >>= k) Q w := by
  refine safe_bind.mpr (safe_list.mpr ⟨.list, fun names _ => ?_⟩)
  refine Safe.check herr fun _ _ => ?_
  refine safe_stat.mpr ⟨.stat, Safe.check herr fun _ hpending => ?_⟩
  refine safe_stat.mpr ⟨.stat, Safe.check herr fun _ hterminal => ?_⟩
  refine safe_stat.mpr ⟨.stat, Safe.lift (fun e _ => herr e) fun _ hbegun => ?_⟩
  simp only [rejectIf_eq_ok, Bool.not_eq_true, Option.isSome_eq_false_iff, Option.isNone_iff_eq_none] at *
  exact hok ⟨hpending, hterminal, hbegun⟩

theorem safe_establishTrust {k : Trusted → JournalProc α} (herr : ∀ e, Q (.error e) w)
    (hok : ∀ t, AdminSafe request (k t) Q w) : AdminSafe request (establishTrust D request >>= k) Q w := by
  refine safe_bind.mpr (safe_rootFile herr fun _ => ?_)
  refine Safe.check herr fun _ _ => safe_rootFile herr fun _ => ?_
  refine Safe.check herr fun _ _ => ?_
  refine Safe.check herr fun _ _ => ?_
  refine Safe.check herr fun _ _ => ?_
  refine Safe.check herr fun _ _ => safe_rootFile herr fun _ => ?_
  refine Safe.check herr fun _ _ => ?_
  refine Safe.check herr fun _ _ => ?_
  refine Safe.check herr fun _ _ => ?_
  refine safe_asks_lift .ownerExecutable (f := id) rfl herr fun _ => ?_
  exact Safe.check herr fun _ _ => hok _

/-- The journal from the admin BEGIN on: the pending record stays, and the operation has no BEGIN of the
    lifecycle. -/
structure Begun (op : String) (d : Dir) : Prop where
  pending : d.Present (pendingName op)
  unbegun : d.Absent (beginName op)

theorem Begun.capture {d d' : Dir} (h : Begun op d) (hn : IsCapture op n)
    (hagree : Dir.AgreeOff n d d') : Begun op d' := by
  have hne : ∀ {m}, IsRecordName m → m ≠ n := by
    rintro m hm rfl
    exact hn.not_isRecordName hm
  exact ⟨hagree.present (hne (isRecordName_pendingName op)) h.pending,
    hagree.absent (hne (isRecordName_begin op)) h.unbegun⟩

/-- The pending record is synced with its directory, so the BEGIN that the check did not find is not
there. -/
theorem begun_install {d : Dir} (ha : Available op d) : Begun op (d.install (pendingName op) raw) where
  pending := (Dir.durable_install d _ raw).present
  unbegun v hv := by
    rw [Dir.possible_install hv, Dir.get_install, if_neg (pendingName_ne_begin op op).symm, ha.unbegun]

/-- Spooling a pipe touches its capture only. -/
theorem safe_captureReads (hspool : IsCapture (operationId request) spool)
    {k : CapturedStream → JournalProc α} {reads : List Bytes} {s : CapturedStream} {seen : Bytes}
    (hb : Begun (operationId request) (dirOf w))
    (hok : ∀ captured d, Begun (operationId request) d → AdminSafe request (k captured) Q (w.setDir () d)) :
    AdminSafe request (captureReads spool s seen reads >>= k) Q w := by
  induction reads generalizing s seen w with
  | nil =>
    have hself := hok { s with sha256 := sha256 seen } (dirOf w) hb
    rwa [FsWorld.setDir_self] at hself
  | cons buffer reads ih =>
    -- Each read may append to the spool, or the spool is full.
    unfold captureReads
    simp only []
    split
    · refine safe_bind.mpr (safe_append.mpr ⟨.write .append (.inr (.inr hspool)), ?_⟩)
      refine safe_bind.mp (ih ?_ fun captured d hd => ?_)
      · exact hb.capture hspool (Dir.agreeOff_append _ _ _)
      · rw [FsWorld.setDir_setDir]
        exact hok captured d hd
    · exact ih hb hok

theorem safe_captureStreamWithFile (hspool : IsCapture (operationId request) spool)
    {k : CapturedStream → JournalProc α} {reads : List Bytes} (hb : Begun (operationId request) (dirOf w))
    (hok : ∀ captured d, Begun (operationId request) d → AdminSafe request (k captured) Q (w.setDir () d)) :
    AdminSafe request (captureStreamWithFile spool reads >>= k) Q w := by
  refine safe_bind.mpr (safe_captureReads hspool hb fun captured d hd => ?_)
  refine safe_fsync.mpr ⟨.write (b := []) .fsync (.inr (.inr hspool)), ?_⟩
  exact hok captured _ (hd.capture hspool (Dir.agreeOff_fsync _ _))

section

variable (hb : Begun (operationId request) (dirOf w))
include hb

theorem safe_openCaptures (herr : ∀ e d, Begun (operationId request) d → Q (.error e) (w.setDir () d))
    (hok : ∀ d, Begun (operationId request) d → AdminSafe request (k ()) Q (w.setDir () d)) :
    AdminSafe request (openCaptures (operationId request) >>= k) Q w := by
  have hout : IsCapture (operationId request) (stdoutName (operationId request)) := .inl rfl
  have hexp : IsCapture (operationId request) (stderrName (operationId request)) := .inr rfl
  have hself : w.setDir () (dirOf w) = w := FsWorld.setDir_self w ()
  refine safe_bind.mpr (safe_createNew.mpr ⟨.write (b := []) .createNew (.inr (.inr hout)), ?_⟩)
  split
  · have hb₁ := hb.capture hout (Dir.agreeOff_create _ _)
    refine Safe.not_rejected (by decide) (safe_createNew.mpr
      ⟨.write (b := []) .createNew (.inr (.inr hexp)), ?_⟩)
    split
    · exact hok _ (hb₁.capture hexp (Dir.agreeOff_create _ _))
    · exact herr _ _ hb₁
  · have herr' := herr "HOST_ADMIN_OUTPUT_CAPTURE_UNAVAILABLE_NO_REPLAY" (dirOf w) hb
    rw [hself] at herr'
    exact herr'

/-- The child runs under the pending record; the pipes are drained into the captures. -/
theorem safe_runChild {k : AdminChildOutcome × CapturedStream × CapturedStream → JournalProc α}
    (herr : ∀ e w', Begun (operationId request) (dirOf w') → Q (.error e) w')
    (hok : ∀ r w', Begun (operationId request) (dirOf w') → AdminSafe request (k r) Q w') :
    AdminSafe request (runChild request >>= k) Q w := by
  refine safe_bind.mpr (Safe.check (fun e => herr e w hb) fun _ _ => ?_)
  refine safe_own.mpr ⟨.spawn hb.pending hb.unbegun, fun answer history _ => ?_⟩
  refine Safe.check (fun e => herr e _ hb) fun outcome _ => ?_
  refine safe_captureStreamWithFile (.inl rfl) hb fun out d hd => ?_
  refine safe_captureStreamWithFile (.inr rfl) hd fun err d' hd' => hok _ _ ?_
  exact hd'

end

/-- The receipt is recorded, and only a complete execution goes on to give up its pending record. -/
theorem safe_recordReceipt {receiptKey : Bytes} {unsigned : FleetNativeAdminResult} :
    AdminSafe request (recordReceipt D request receiptKey unsigned) (fun _ _ => True) w := by
  refine Safe.lift_bind (fun _ _ => trivial) fun receipt _ => ?_
  have hown : IsOwnName (operationId request) (terminalName (operationId request)) := .inr (.inl rfl)
  refine safe_createOwn hown trivial ?_
  show Safe _ _ (ite _ _ _) _ _
  split
  · refine safe_bind.mpr
      (safe_durableRemove (fun _ => .syncDir) (.release ?_) (fun _ => trivial) fun _ _ => trivial)
    exact (Dir.durable_install _ _ _).present
  · trivial

theorem safe_executeBegun {trusted : Trusted} {auth : FleetNativeAdminAuthorization}
    (ha : Available (operationId request) (dirOf w)) :
    AdminSafe request (executeBegun D request raw trusted auth) (fun _ _ => True) w := by
  have hown : IsOwnName (operationId request) (pendingName (operationId request)) := .inl rfl
  refine safe_createOwn hown trivial ?_
  refine safe_openCaptures (begun_install ha) (fun _ _ _ => trivial) fun d hd => ?_
  refine safe_runChild hd (fun _ _ _ => trivial) fun r w' hb' => ?_
  obtain ⟨outcome, out, err⟩ := r
  exact safe_clock (fun _ => trivial) fun _ => safe_recordReceipt

end Safe

/-- **Every admin execution keeps to the protocol**, whatever directory it finds. -/
theorem safe_execute (D : Deps) (raw : Bytes) (w : JournalWorld) :
    Safe journalSem (fun op w => ∃ request, AdminPermitted request op w) (execute D raw)
      (fun _ _ => True) w := by
  refine Safe.check (fun _ => trivial) fun request _ => ?_
  suffices h : AdminSafe request _ (fun _ _ => True) w from
    h.mono (fun _ _ hp => ⟨request, hp⟩) fun _ _ hr => hr
  refine safe_available (fun _ => trivial) fun _ => safe_establishTrust (fun _ => trivial) fun trusted => ?_
  refine safe_asks_lift (.adminAuthorization raw) (f := id) rfl (fun _ => trivial) fun auth => ?_
  refine safe_clock (fun _ => trivial) fun now => ?_
  refine Safe.check (fun _ => trivial) fun _ _ => ?_
  -- The second look is the one BEGIN relies on.
  refine safe_available (fun _ => trivial) fun havail => ?_
  refine safe_stat.mpr ⟨.stat, Safe.check (fun _ => trivial) fun _ _ => ?_⟩
  exact safe_executeBegun havail

end EdgePlatform.Host.HostAdmin
