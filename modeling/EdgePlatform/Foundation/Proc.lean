import Mathlib.Data.List.Forall2

/-!
# `EdgePlatform.Foundation.Proc` — effectful procedures, guarded executions, and runs with crashes

A procedure is a tree of operations over an effect signature: it returns, fails with an error text, or
issues one operation and continues with its answer. What an operation does to the world is a relation
(`Sem`), so an environment that may answer anything is modelled as such.

One judgement carries every proof about procedures: `Safe sem guard p Q w` says that from `w`, **every
operation `p` issues satisfies `guard` in the state where it is issued**, and that `p` ends in `Q`. The
guard says once what a step may do; every invariant is then derived from the guard (`Safe.invariant`), and
never again from the procedure.

A `System` is a family of calls that take turns on one world and may be cut by a crash between any two
operations; `System.Run` is a finite history of such turns.
-/

namespace Foundation

/-! ## Fallible values -/

/-- `if p { return Err(e) }`. -/
def rejectIf (p : Prop) [Decidable p] (e : String) : Except String Unit :=
  if p then .error e else .ok ()

variable {e : String}

@[simp] theorem rejectIf_eq_ok {p : Prop} [Decidable p] {u : Unit} : rejectIf p e = .ok u ↔ ¬ p := by
  unfold rejectIf
  split <;> simp_all

theorem rejectIf_of_not {p : Prop} [Decidable p] (h : ¬ p) : rejectIf p e = .ok () := by
  simp [h]

variable {ε : Type}

theorem Except.bind_eq_ok {α β : Type} {x : Except ε α} {f : α → Except ε β} {b : β} :
    (x >>= f) = .ok b ↔ ∃ a, x = .ok a ∧ f a = .ok b := by
  cases x <;> simp [bind, Except.bind]

/-- A computation that succeeds, taken apart at its first step. -/
theorem bind_ok {α β : Type} {x : Except ε α} {f : α → Except ε β} {b : β} (h : (x >>= f) = .ok b) :
    ∃ a, x = .ok a ∧ f a = .ok b := Except.bind_eq_ok.mp h

theorem ok_bind {α β : Type} {x : Except ε α} {f : α → Except ε β} {a : α} {b : β} (hx : x = .ok a)
    (hf : f a = .ok b) : (x >>= f) = .ok b := Except.bind_eq_ok.mpr ⟨a, hx, hf⟩

/-- A refusal that does not apply, and the rest of the computation. -/
theorem passes_bind {β : Type} {p : Prop} [Decidable p] {f : Unit → Except String β} {b : β} (hp : ¬ p)
    (hf : f () = .ok b) : (rejectIf p e >>= f) = .ok b := ok_bind (rejectIf_of_not hp) hf

/-- The answer of a check that passed. -/
theorem exists_unit {p : Unit → Prop} : (∃ u, p u) ↔ p () := ⟨fun ⟨_, h⟩ => h, fun h => ⟨(), h⟩⟩

/-- A loop of checks passes when each check does. -/
theorem Except.forM_eq_ok {α : Type} {xs : List α} {f : α → Except ε Unit} {u : Unit} :
    forM xs f = .ok u ↔ ∀ x ∈ xs, f x = .ok () := by
  induction xs with
  | nil => simp [pure, Except.pure]
  | cons x xs ih =>
    rw [List.forM_cons, Except.bind_eq_ok, List.forall_mem_cons, ← ih]
    constructor
    · rintro ⟨v, hx, hxs⟩
      exact ⟨hx, hxs⟩
    · rintro ⟨hx, hxs⟩
      exact ⟨(), hx, hxs⟩

theorem exists_of_forall₂_left {α β : Type} {R : α → β → Prop} {xs : List α} {ys : List β}
    (h : List.Forall₂ R xs ys) {x : α} (hx : x ∈ xs) : ∃ y ∈ ys, R x y := by
  induction h with
  | nil => cases hx
  | cons hr _ ih =>
    rcases List.mem_cons.mp hx with rfl | hx
    · exact ⟨_, .head _, hr⟩
    · obtain ⟨y, hy, hxy⟩ := ih hx
      exact ⟨y, .tail _ hy, hxy⟩

theorem exists_of_forall₂_right {α β : Type} {R : α → β → Prop} {xs : List α} {ys : List β}
    (h : List.Forall₂ R xs ys) {y : β} (hy : y ∈ ys) : ∃ x ∈ xs, R x y :=
  exists_of_forall₂_left h.flip hy

/-- A loop that collects results has one for every item. -/
theorem Except.mapM_eq_ok {α β : Type} {xs : List α} {f : α → Except ε β} {ys : List β} :
    xs.mapM f = .ok ys ↔ List.Forall₂ (fun x y => f x = .ok y) xs ys := by
  induction xs generalizing ys with
  | nil => simp [pure, Except.pure, eq_comm]
  | cons x xs ih =>
    simp only [List.mapM_cons, Except.bind_eq_ok, ih, pure, Except.pure, Except.ok.injEq,
      List.forall₂_cons_left_iff]
    constructor
    · rintro ⟨y, hy, rest, hrest, rfl⟩
      exact ⟨y, rest, hy, hrest, rfl⟩
    · rintro ⟨y, rest, hy, hrest, rfl⟩
      exact ⟨y, hy, rest, hrest, rfl⟩

theorem mapM_eq_some {α β : Type} {xs : List α} {f : α → Option β} {ys : List β} :
    xs.mapM f = some ys ↔ List.Forall₂ (fun x y => f x = some y) xs ys := by
  induction xs generalizing ys with
  | nil => simp [eq_comm]
  | cons x xs ih =>
    simp only [List.mapM_cons, Option.bind_eq_bind, Option.bind_eq_some_iff, ih, Option.pure_def,
      Option.some.injEq, List.forall₂_cons_left_iff]
    constructor
    · rintro ⟨y, hy, rest, hrest, rfl⟩
      exact ⟨y, rest, hy, hrest, rfl⟩
    · rintro ⟨y, rest, hy, hrest, rfl⟩
      exact ⟨y, hy, rest, hrest, rfl⟩

/-- `Option::ok_or`. -/
def okOr {α : Type} (x : Option α) (e : String) : Except String α :=
  match x with
  | some a => .ok a
  | none => .error e

@[simp] theorem okOr_eq_ok {α : Type} {x : Option α} {a : α} : okOr x e = .ok a ↔ x = some a := by
  cases x <;> simp [okOr]

/-- What it means that a computation succeeds, by the step it begins with. -/
theorem ok_iff :
    (∀ {α β ε : Type} {x : Except ε α} {f : α → Except ε β} {b : β},
      (x >>= f) = .ok b ↔ ∃ a, x = .ok a ∧ f a = .ok b) ∧
    (∀ {p : Prop} [Decidable p] {e : String} {u : Unit}, rejectIf p e = .ok u ↔ ¬ p) ∧
    (∀ {α : Type} {x : Option α} {e : String} {a : α}, okOr x e = .ok a ↔ x = some a) ∧
    ∀ {p : Unit → Prop}, (∃ u, p u) ↔ p () :=
  ⟨Except.bind_eq_ok, rejectIf_eq_ok, okOr_eq_ok, exists_unit⟩

theorem pure_eq_ok {α : Type} {a b : α} : (pure a : Except ε α) = .ok b ↔ a = b :=
  Except.ok.injEq a b ▸ Iff.rfl

/-- `map_err(|_| e)`. -/
def orError {α : Type} (x : Except String α) (e : String) : Except String α :=
  match x with
  | .ok a => .ok a
  | .error _ => .error e

@[simp] theorem orError_eq_ok {α : Type} {x : Except String α} {a : α} :
    orError x e = .ok a ↔ x = .ok a := by
  cases x <;> simp [orError]

/-- A result is an error (`Result::is_err`). -/
def isErr {α : Type} (x : Except String α) : Bool :=
  match x with
  | .ok _ => false
  | .error _ => true

/-! ## Procedures -/

/-- Operations, each with the type of its answer. -/
structure Sig where
  Op : Type
  Ans : Op → Type

inductive Proc (S : Sig) (α : Type) : Type
  | ret (a : α)
  | fail (e : String)
  | call (op : S.Op) (k : S.Ans op → Proc S α)

/-- What an operation may answer and leave behind. -/
abbrev Sem (S : Sig) (σ : Type) := (op : S.Op) → σ → S.Ans op → σ → Prop

namespace Proc

variable {S : Sig} {σ α β : Type}

protected def bind : Proc S α → (α → Proc S β) → Proc S β
  | ret a, f => f a
  | fail e, _ => fail e
  | call op k, f => call op fun a => (k a).bind f

instance : Monad (Proc S) where
  pure := ret
  bind := Proc.bind

/-- A computed value or error as a procedure. -/
def lift : Except String α → Proc S α
  | .ok a => ret a
  | .error e => fail e

instance : MonadLift (Except String) (Proc S) := ⟨lift⟩

@[simp] theorem pure_eq (a : α) : (pure a : Proc S α) = ret a := rfl

theorem bind_assoc {γ : Type} (p : Proc S α) (f : α → Proc S β) (g : β → Proc S γ) :
    (p >>= f) >>= g = p >>= fun a => f a >>= g := by
  induction p with
  | ret a => rfl
  | fail e => rfl
  | call op k ih => exact congrArg (call op) (funext ih)

/-! ## Executions -/

/-- `Steps sem p w p' w'`: some operations of `p` have run, taking `w` to `w'` and leaving `p'`. -/
inductive Steps (sem : Sem S σ) : Proc S α → σ → Proc S α → σ → Prop
  | refl (p : Proc S α) (w : σ) : Steps sem p w p w
  | step {op : S.Op} {k : S.Ans op → Proc S α} {w w₁ w' : σ} {a : S.Ans op} {p' : Proc S α} :
      sem op w a w₁ → Steps sem (k a) w₁ p' w' → Steps sem (call op k) w p' w'

theorem Steps.trans {sem : Sem S σ} {p p₁ p₂ : Proc S α} {w w₁ w₂ : σ}
    (h : Steps sem p w p₁ w₁) (h' : Steps sem p₁ w₁ p₂ w₂) : Steps sem p w p₂ w₂ := by
  induction h with
  | refl => exact h'
  | step hop _ ih => exact .step hop (ih h')

/-- The procedure ran to its end with result `r`. -/
def Done (sem : Sem S σ) (p : Proc S α) (w : σ) (r : Except String α) (w' : σ) : Prop :=
  Steps sem p w (lift r) w'

/-- **Every procedure ends.** A procedure is a finite tree, so where the world always answers there is a
    completed execution. -/
theorem exists_done {sem : Sem S σ} (total : ∀ op w, ∃ a w', sem op w a w') (p : Proc S α) (w : σ) :
    ∃ r w', Done sem p w r w' := by
  induction p generalizing w with
  | ret a => exact ⟨.ok a, w, .refl _ _⟩
  | fail e => exact ⟨.error e, w, .refl _ _⟩
  | call op k ih =>
    obtain ⟨a, w₁, hop⟩ := total op w
    obtain ⟨r, w', hdone⟩ := ih a w₁
    exact ⟨r, w', .step hop hdone⟩

/-! ## Guarded executions -/

/-- From `w`, every operation `p` issues satisfies `guard` where it is issued, and `p` ends in `Q`. -/
def Safe (sem : Sem S σ) (guard : S.Op → σ → Prop) :
    Proc S α → (Except String α → σ → Prop) → σ → Prop
  | ret a, Q, w => Q (.ok a) w
  | fail e, Q, w => Q (.error e) w
  | call op k, Q, w => guard op w ∧ ∀ a w', sem op w a w' → Safe sem guard (k a) Q w'

section Safe

variable {sem : Sem S σ} {guard guard' : S.Op → σ → Prop}
variable {p p' : Proc S α} {Q Q' : Except String α → σ → Prop} {w w' : σ}

@[simp] theorem safe_ret {a : α} : Safe sem guard (ret a) Q w ↔ Q (.ok a) w := Iff.rfl
theorem Safe.mono (h : Safe sem guard p Q w) (hg : ∀ op w, guard op w → guard' op w)
    (hQ : ∀ r w, Q r w → Q' r w) : Safe sem guard' p Q' w := by
  induction p generalizing w with
  | ret a => exact hQ _ _ h
  | fail e => exact hQ _ _ h
  | call op k ih => exact ⟨hg _ _ h.1, fun a w' hop => ih a (h.2 a w' hop)⟩

theorem Safe.post (h : Safe sem guard p Q w) (hQ : ∀ r w, Q r w → Q' r w) : Safe sem guard p Q' w :=
  h.mono (fun _ _ hg => hg) hQ

/-- A procedure that is safe for every answer is safe for fewer answers. -/
theorem Safe.restrict {sem' : Sem S σ} (h : Safe sem guard p Q w)
    (hsem : ∀ op w a w', sem' op w a w' → sem op w a w') : Safe sem' guard p Q w := by
  induction p generalizing w with
  | ret a => exact h
  | fail e => exact h
  | call op k ih => exact ⟨h.1, fun a w' hop => ih a (h.2 a w' (hsem op w a w' hop))⟩

variable {f : α → Proc S β} {R : Except String β → σ → Prop} {x : Except String α}

/-- The rule of sequencing: a failure of `p` is a failure of the whole. -/
theorem safe_bind :
    Safe sem guard (p >>= f) R w ↔
      Safe sem guard p (fun r w' => match r with
        | .ok a => Safe sem guard (f a) R w'
        | .error e => R (.error e) w') w := by
  induction p generalizing w with
  | ret a => rfl
  | fail e => rfl
  | call op k ih => exact and_congr Iff.rfl (forall_congr' fun a => forall_congr' fun w' =>
    imp_congr Iff.rfl (ih a))

theorem Safe.bind (h : Safe sem guard p Q w) (hok : ∀ a w', Q (.ok a) w' → Safe sem guard (f a) R w')
    (herr : ∀ e w', Q (.error e) w' → R (.error e) w') : Safe sem guard (p >>= f) R w := by
  refine safe_bind.mpr (h.post fun r w' hr => ?_)
  cases r with
  | ok a => exact hok a w' hr
  | error e => exact herr e w' hr

/-- The rule for a pure check or computation in front of a procedure. -/
theorem Safe.lift_bind (herr : ∀ e, x = .error e → R (.error e) w)
    (hok : ∀ a, x = .ok a → Safe sem guard (f a) R w) :
    Safe sem guard ((liftM x : Proc S α) >>= f) R w := by
  cases x with
  | ok a => exact hok a rfl
  | error e => exact herr e rfl

theorem Safe.check (herr : ∀ e, R (.error e) w) (hok : ∀ a, x = .ok a → Safe sem guard (f a) R w) :
    Safe sem guard ((liftM x : Proc S α) >>= f) R w :=
  Safe.lift_bind (fun e _ => herr e) hok

/-- The rule for a check or computation that is known to succeed. -/
theorem Safe.lift_ok {a : α}
    (hx : x = .ok a) (h : Safe sem guard (f a) R w) : Safe sem guard ((liftM x : Proc S α) >>= f) R w := by
  rw [hx]
  exact h

theorem Safe.not_rejected {c : Prop} [Decidable c] {e : String} {f : Unit → Proc S β}
    (hc : ¬ c) (h : Safe sem guard (f ()) R w) :
    Safe sem guard ((liftM (rejectIf c e) : Proc S Unit) >>= f) R w :=
  Safe.lift_ok (rejectIf_eq_ok.mpr hc) h

theorem Safe.lift (herr : ∀ e, x = .error e → Q (.error e) w)
    (hok : ∀ a, x = .ok a → Q (.ok a) w) : Safe sem guard (liftM x : Proc S α) Q w := by
  cases x with
  | ok a => exact hok a rfl
  | error e => exact herr e rfl

theorem Safe.steps (h : Safe sem guard p Q w) (hs : Steps sem p w p' w') : Safe sem guard p' Q w' := by
  induction hs with
  | refl => exact h
  | step hop _ ih => exact ih (h.2 _ _ hop)

theorem Safe.done {r : Except String α} (h : Safe sem guard p Q w) (hd : Done sem p w r w') : Q r w' := by
  have := h.steps hd
  cases r <;> exact this

/-- An operation about to be issued satisfies the guard. -/
theorem Safe.issued {op : S.Op} {k : S.Ans op → Proc S α} (h : Safe sem guard p Q w)
    (hs : Steps sem p w (call op k) w') : guard op w' :=
  (h.steps hs).1

/-- **The invariant rule.** What guarded operations preserve holds all along a guarded execution. -/
theorem Safe.invariant {I : σ → Prop} (hI : ∀ op w a w', guard op w → I w → sem op w a w' → I w')
    (h : Safe sem guard p Q w) (hw : I w) (hs : Steps sem p w p' w') : I w' := by
  induction hs with
  | refl => exact hw
  | step hop _ ih => exact ih (h.2 _ _ hop) (hI _ _ _ _ h.1 hw hop)

/-- What guarded operations preserve may be added to the guard and to what the procedure ends in. -/
theorem Safe.with_invariant {I : σ → Prop} (hI : ∀ op w a w', guard op w → I w → sem op w a w' → I w')
    (h : Safe sem guard p Q w) (hw : I w) :
    Safe sem (fun op w => guard op w ∧ I w) p (fun r w => Q r w ∧ I w) w := by
  induction p generalizing w with
  | ret a => exact ⟨h, hw⟩
  | fail e => exact ⟨h, hw⟩
  | call op k ih => exact ⟨⟨h.1, hw⟩, fun a w' hop => ih a (h.2 a w' hop) (hI op w a w' h.1 hw hop)⟩

end Safe

/-! ## Running against a concrete environment -/

/-- Run at most `n` operations against a handler. -/
def runFor (handle : (op : S.Op) → σ → S.Ans op × σ) : Nat → Proc S α → σ → Proc S α × σ
  | n + 1, call op k, w =>
    match handle op w with
    | (a, w') => runFor handle n (k a) w'
  | _, p, w => (p, w)

theorem runFor_steps {sem : Sem S σ} {handle : (op : S.Op) → σ → S.Ans op × σ}
    (hh : ∀ op w, sem op w (handle op w).1 (handle op w).2) (n : Nat) (p : Proc S α) (w : σ) :
    Steps sem p w (runFor handle n p w).1 (runFor handle n p w).2 := by
  induction n generalizing p w with
  | zero => exact .refl _ _
  | succ n ih =>
    cases p with
    | ret a => exact .refl _ _
    | fail e => exact .refl _ _
    | call op k => exact .step (hh op w) (ih _ _)

end Proc

/-! ## Systems and their runs -/

/-- Calls that take turns on one world. `crash m w` relates a state cut off between two operations to a state
    the next call may find. -/
structure System (S : Sig) (σ : Type) where
  Call : Type
  Res : Type
  prog : Call → Proc S Res
  sem : Sem S σ
  crash : σ → σ → Prop

namespace System

variable {S : Sig} {σ : Type} (M : System S σ)

/-- A turn of call `c`: it runs to its end, or it is cut after any number of its operations. -/
inductive Outcome (c : M.Call) (w : σ) : σ → Prop
  | done {r : Except String M.Res} {w' : σ} : (M.prog c).Done M.sem w r w' → Outcome c w w'
  | cut {p : Proc S M.Res} {m w' : σ} : (M.prog c).Steps M.sem w p m → M.crash m w' → Outcome c w w'

/-- A call with the states before and after its turn. -/
structure Turn where
  call : M.Call
  before : σ
  after : σ

/-- A finite history of turns from `s`. -/
inductive Run (s : σ) : List M.Turn → σ → Prop
  | nil : Run s [] s
  | snoc {ts : List M.Turn} {w w' : σ} {c : M.Call} :
      Run s ts w → M.Outcome c w w' → Run s (ts ++ [⟨c, w, w'⟩]) w'

variable {M}

/-- What every turn that meets `admissible` preserves holds after every run of such turns. -/
theorem Run.invariant {J : σ → Prop} {admissible : M.Call → σ → Prop} {s w : σ} {ts : List M.Turn}
    (hturn : ∀ c w w', admissible c w → J w → M.Outcome c w w' → J w')
    (hrun : M.Run s ts w) (hs : J s) (hts : ∀ t ∈ ts, admissible t.call t.before) : J w := by
  induction hrun with
  | nil => exact hs
  | snoc _ hout ih =>
    simp only [List.mem_append, List.mem_singleton] at hts
    exact hturn _ _ _ (hts _ (.inr rfl)) (ih fun t ht => hts t (.inl ht)) hout

/-- **At most once.** A turn that `counts` leaves a mark that every later turn keeps and that keeps every
    later turn from counting. -/
theorem Run.at_most_once {J D : σ → Prop} {admissible : σ → Prop} {counts : M.Turn → Bool} {s w : σ}
    {ts : List M.Turn} (hturn : ∀ c w w', admissible w → J w → M.Outcome c w w' → J w')
    (hmark : ∀ c w w', admissible w → J w → M.Outcome c w w' → counts ⟨c, w, w'⟩ = true → D w')
    (hkeep : ∀ c w w', admissible w → J w → D w → M.Outcome c w w' → D w')
    (hblock : ∀ c w w', admissible w → J w → D w → M.Outcome c w w' → counts ⟨c, w, w'⟩ = false)
    (hrun : M.Run s ts w) (hs : J s) (hts : ∀ t ∈ ts, admissible t.before) :
    (ts.filter counts).length ≤ 1 := by
  -- none counted yet, or one did and its mark is there
  have hcases : J w ∧ ((ts.filter counts).length = 0 ∨ ((ts.filter counts).length = 1 ∧ D w)) := by
    induction hrun with
    | nil => exact ⟨hs, .inl rfl⟩
    | @snoc ts w w' c _ hout ih =>
      simp only [List.mem_append, List.mem_singleton] at hts
      have hw := hts _ (.inr rfl)
      obtain ⟨hJ, hcount⟩ := ih fun t ht => hts t (.inl ht)
      refine ⟨hturn c w w' hw hJ hout, ?_⟩
      rw [List.filter_append, List.length_append]
      rcases hcount with hnone | ⟨hone, hD⟩
      · rw [hnone]
        cases hc : counts ⟨c, w, w'⟩ with
        | false => exact .inl (by simp [hc])
        | true => exact .inr ⟨by simp [hc], hmark c w w' hw hJ hout hc⟩
      · rw [hone]
        exact .inr ⟨by simp [hblock c w w' hw hJ hD hout], hkeep c w w' hw hJ hD hout⟩
  rcases hcases.2 with hnone | ⟨hone, -⟩
  · omega
  · omega

/-- A run goes through the state after each of its turns. -/
theorem Run.split {s w : σ} {ts : List M.Turn} {t : M.Turn} (hrun : M.Run s ts w) (ht : t ∈ ts) :
    ∃ ts₁ ts₂, ts = ts₁ ++ ts₂ ∧ M.Run s ts₁ t.after ∧ M.Run t.after ts₂ w := by
  induction hrun with
  | nil => cases ht
  | @snoc ts w w' c hr hout ih =>
    rcases List.mem_append.mp ht with hold | hlast
    · obtain ⟨ts₁, ts₂, rfl, h₁, h₂⟩ := ih hold
      exact ⟨ts₁, ts₂ ++ [⟨c, w, w'⟩], by simp, h₁, .snoc h₂ hout⟩
    · cases List.mem_singleton.mp hlast
      exact ⟨ts ++ [⟨c, w, w'⟩], [], by simp, .snoc hr hout, .nil⟩

/-- After the run `ts` from `s` the call `c` began in `w₀` and is about to continue with `p` in `w`. -/
structure Visits (M : System S σ) (s : σ) (ts : List M.Turn) (c : M.Call) (w₀ : σ)
    (p : Proc S M.Res) (w : σ) :
    Prop where
  run : M.Run s ts w₀
  steps : (M.prog c).Steps M.sem w₀ p w

/-- How guarded calls preserve an invariant: where it holds every admissible call is guarded, guarded
    operations preserve it, and so does a crash. The guard may refer to the world the call began in. -/
structure Preserves (M : System S σ) (admissible : M.Call → σ → Prop) (guard : M.Call → σ → S.Op → σ → Prop)
    (I : σ → Prop) : Prop where
  safe : ∀ c s, admissible c s → I s → (M.prog c).Safe M.sem (guard c s) (fun _ _ => True) s
  step : ∀ c s op w a w', admissible c s → I s → guard c s op w → I w → M.sem op w a w' → I w'
  crash : ∀ w w', I w → M.crash w w' → I w'

section Preserves

variable {admissible : M.Call → σ → Prop} {guard : M.Call → σ → S.Op → σ → Prop} {I : σ → Prop}
variable {s w w' : σ} {ts : List M.Turn} {c : M.Call} {p : Proc S M.Res}

section

variable (h : M.Preserves admissible guard I)
include h

theorem Preserves.steps (hc : admissible c s) (hI : I s) (hs : (M.prog c).Steps M.sem s p w) : I w :=
  (h.safe c s hc hI).invariant (fun op w a w' => h.step c s op w a w' hc hI) hI hs

theorem Preserves.outcome (hc : admissible c s) (hI : I s) (hout : M.Outcome c s w) : I w := by
  cases hout with
  | done hd => exact h.steps hc hI hd
  | cut hs hcrash => exact h.crash _ _ (h.steps hc hI hs) hcrash

/-- **The run rule.** After every run of admissible turns the invariant holds. -/
theorem Preserves.run (hI : I s) (hrun : M.Run s ts w) (hts : ∀ t ∈ ts, admissible t.call t.before) : I w :=
  hrun.invariant (J := I) (fun _ _ _ hc hJ => h.outcome hc hJ) hI hts

/-- **The run rule inside a call.** The invariant holds between any two operations of the last call, too. -/
theorem Preserves.visits {w₀ : σ} (hI : I s) (hv : M.Visits s ts c w₀ p w)
    (hts : ∀ t ∈ ts, admissible t.call t.before) (hc : admissible c w₀) : I w :=
  h.steps hc (h.run hI hv.run hts) hv.steps

/-- An operation about to be issued satisfies the guard of its call. -/
theorem Preserves.issued {w₀ : σ} (hI : I s) {op : S.Op} {k : S.Ans op → Proc S M.Res}
    (hv : M.Visits s ts c w₀ (.call op k) w) (hts : ∀ t ∈ ts, admissible t.call t.before)
    (hc : admissible c w₀) : guard c w₀ op w :=
  (h.safe c w₀ hc (h.run hI hv.run hts)).issued hv.steps

end

end Preserves

end System

end Foundation
