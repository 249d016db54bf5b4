import Mathlib.Logic.Relation

/-!
# `EdgePlatform.Foundation.Reservation` — reservations in an append-only log

Jobs coordinate through one shared log. A job *plans* an entry on what it reads, *appends* the entry, and
*verifies* the entry on a fresh read. The three steps of a job are not atomic: other jobs, and writers that
follow no protocol, append in between.

Safety rests on the last step. In a `Family` a successful verification says that the entry is the only marked
one in the log, so two jobs of a family whose verifications succeed agree on the entry (`Family.agree`), and
a marked entry keeps every later job of the family from planning (`Family.blocked`).
-/

namespace Foundation

structure Coordinator (α : Type) where
  Job : Type
  /-- Planning on this log yields this entry. -/
  Plans : Job → List α → α → Prop
  /-- The check of the entry succeeds on this log. -/
  Verifies : Job → List α → α → Prop

namespace Coordinator

variable {α : Type} (C : Coordinator α)

/-- A successful verification with the log it read. -/
structure Verified where
  job : C.Job
  entry : α
  log : List α

structure Board where
  log : List α
  planned : List (C.Job × α)
  appended : List (C.Job × α)
  accepted : List C.Verified

/-- A log nobody has worked on yet. -/
def start (log : List α) : C.Board := ⟨log, [], [], []⟩

inductive Step : C.Board → C.Board → Prop
  | plan {s : C.Board} {j : C.Job} {r : α} :
      C.Plans j s.log r → Step s { s with planned := (j, r) :: s.planned }
  | append {s : C.Board} {j : C.Job} {r : α} :
      (j, r) ∈ s.planned → Step s { s with log := s.log ++ [r], appended := (j, r) :: s.appended }
  | verify {s : C.Board} {j : C.Job} {r : α} :
      (j, r) ∈ s.appended → C.Verifies j s.log r → Step s { s with accepted := ⟨j, r, s.log⟩ :: s.accepted }
  | other {s : C.Board} (x : α) : Step s { s with log := s.log ++ [x] }

/-- Any interleaving of any number of jobs. -/
def Reaches : C.Board → C.Board → Prop := Relation.ReflTransGen C.Step

/-- A step in which a job plans or verifies only on a log that meets its guard. -/
def GuardedStep (guard : C.Job → List α → Prop) (s s' : C.Board) : Prop :=
  C.Step s s' ∧ (∀ j r, s'.planned = (j, r) :: s.planned → guard j s.log) ∧
    ∀ v, s'.accepted = v :: s.accepted → guard v.job s.log

/-- Any interleaving of guarded steps. -/
def GuardedReaches (guard : C.Job → List α → Prop) : C.Board → C.Board → Prop :=
  Relation.ReflTransGen (C.GuardedStep guard)

variable {C} {s s' : C.Board} {log : List α}

theorem Step.log_grows (h : C.Step s s') : s.log <+: s'.log := by
  cases h with
  | plan _ => exact List.prefix_refl _
  | append _ => exact List.prefix_append _ _
  | verify _ _ => exact List.prefix_refl _
  | other x => exact List.prefix_append _ _

/-- The log only grows. -/
theorem Reaches.log_grows (h : C.Reaches s s') : s.log <+: s'.log := by
  induction h with
  | refl => exact List.prefix_refl _
  | tail _ hstep ih => exact ih.trans hstep.log_grows

variable {j : C.Job} {r : α}

/-- A job whose entry is appended at once. -/
theorem Reaches.reserve (h : C.Reaches s s') (hplan : C.Plans j s'.log r) :
    C.Reaches s ⟨s'.log ++ [r], (j, r) :: s'.planned, (j, r) :: s'.appended, s'.accepted⟩ := by
  have hplanned := Relation.ReflTransGen.tail h (.plan hplan)
  exact hplanned.tail (.append (.head _))

/-- A job that nobody interferes with. -/
theorem Reaches.perform (h : C.Reaches s s') (hplan : C.Plans j s'.log r)
    (hverify : C.Verifies j (s'.log ++ [r]) r) :
    C.Reaches s ⟨s'.log ++ [r], (j, r) :: s'.planned, (j, r) :: s'.appended,
      ⟨j, r, s'.log ++ [r]⟩ :: s'.accepted⟩ := by
  have happended := h.reserve hplan
  exact Relation.ReflTransGen.tail happended (.verify (.head _) hverify)

/-- Every success was one on an earlier state of the log. -/
def Traced (s : C.Board) : Prop := ∀ v ∈ s.accepted, v.log <+: s.log ∧ C.Verifies v.job v.log v.entry

theorem Step.traced (h : C.Step s s') (hs : Traced s) : Traced s' := by
  intro v hv
  have hold : v ∈ s.accepted → v.log <+: s'.log ∧ C.Verifies v.job v.log v.entry :=
    fun hv => ⟨(hs v hv).1.trans h.log_grows, (hs v hv).2⟩
  cases h with
  | plan | append | other => exact hold hv
  | verify _ hverified =>
    rcases List.mem_cons.mp hv with rfl | hv
    · exact ⟨List.prefix_refl _, hverified⟩
    · exact hold hv

theorem Reaches.traced (h : C.Reaches (C.start log) s) : Traced s := by
  induction h with
  | refl => exact fun v hv => nomatch hv
  | tail _ hstep ih => exact hstep.traced ih

section Guarded

variable {guard : C.Job → List α → Prop}

theorem GuardedReaches.reaches (h : C.GuardedReaches guard s s') : C.Reaches s s' := by
  induction h with
  | refl => exact .refl
  | tail _ hstep ih => exact Relation.ReflTransGen.tail ih hstep.1

/-- Every success of a guarded run read a log that meets the guard. -/
theorem GuardedReaches.guarded (h : C.GuardedReaches guard (C.start log) s) :
    ∀ v ∈ s.accepted, guard v.job v.log := by
  induction h with
  | refl => exact fun v hv => nomatch hv
  | tail _ hstep ih =>
    obtain ⟨hstep, -, hguard⟩ := hstep
    cases hstep with
    | plan | append | other => exact ih
    | verify _ _ =>
      rintro v (_ | ⟨_, hv⟩)
      · exact hguard _ rfl
      · exact ih v hv

/-- A job that nobody interferes with, on logs that meet its guard. -/
theorem GuardedReaches.perform (h : C.GuardedReaches guard s s') (hplan : C.Plans j s'.log r)
    (hverify : C.Verifies j (s'.log ++ [r]) r) (hplanned : guard j s'.log)
    (hverified : guard j (s'.log ++ [r])) :
    C.GuardedReaches guard s ⟨s'.log ++ [r], (j, r) :: s'.planned, (j, r) :: s'.appended,
      ⟨j, r, s'.log ++ [r]⟩ :: s'.accepted⟩ := by
  refine ((Relation.ReflTransGen.tail h ⟨.plan hplan, ?_, ?_⟩).tail ⟨.append (.head _), ?_, ?_⟩).tail
    ⟨.verify (.head _) hverify, ?_, ?_⟩
  · rintro _ _ ⟨⟩
    exact hplanned
  · exact fun v hv => absurd hv (List.ne_cons_self)
  · exact fun i q hq => absurd hq (List.ne_cons_self)
  · exact fun v hv => absurd hv (List.ne_cons_self)
  · exact fun i q hq => absurd hq (List.ne_cons_self)
  · rintro _ ⟨⟩
    exact hverified

end Guarded

variable {v w : C.Verified}

/-- Of two successes one read what the other had read. -/
theorem Reaches.ordered (h : C.Reaches (C.start log) s) (hv : v ∈ s.accepted)
    (hw : w ∈ s.accepted) : v.log <+: w.log ∨ w.log <+: v.log :=
  List.prefix_or_prefix_of_prefix (h.traced v hv).1 (h.traced w hw).1

/-- Jobs that compete for one marked entry. -/
structure Family (C : Coordinator α) where
  member : C.Job → Prop
  marked : α → Prop
  /-- A verified entry is marked, and it is the only one. -/
  sole : ∀ {j h r}, member j → C.Verifies j h r → r ∈ h ∧ marked r ∧ ∀ x ∈ h, marked x → x = r
  fresh : ∀ {j h r}, member j → C.Plans j h r → ∀ x ∈ h, ¬ marked x

/-- **Agreement.** Successful jobs of a family verified the same entry. -/
theorem Family.agree (F : C.Family) (h : C.Reaches (C.start log) s) (hv : v ∈ s.accepted)
    (hw : w ∈ s.accepted) (hvF : F.member v.job) (hwF : F.member w.job) : v.entry = w.entry := by
  obtain ⟨hvin, hvmark, hvsole⟩ := F.sole hvF (h.traced v hv).2
  obtain ⟨hwin, hwmark, hwsole⟩ := F.sole hwF (h.traced w hw).2
  rcases h.ordered hv hw with hle | hle
  · exact hwsole _ (hle.mem hvin) hvmark
  · exact (hvsole _ (hle.mem hwin) hwmark).symm

/-- **No second attempt.** A marked entry ends the planning of its family. -/
theorem Family.blocked (F : C.Family) (h : C.Reaches s s') {x : α} (hx : x ∈ s.log) (hmark : F.marked x)
    (hj : F.member j) : ¬ C.Plans j s'.log r :=
  fun hplan => F.fresh hj hplan x (h.log_grows.mem hx) hmark

/-- A success whose log has an entry that another success refuses comes after the other. -/
theorem Reaches.after_of_refused (h : C.Reaches (C.start log) s) (hv : v ∈ s.accepted)
    (hw : w ∈ s.accepted) {x : α} (hx : x ∈ v.log) (hrefused : x ∉ w.log) : w.log <+: v.log := by
  rcases h.ordered hv hw with hle | hle
  · exact absurd (hle.mem hx) hrefused
  · exact hle

end Coordinator

end Foundation
