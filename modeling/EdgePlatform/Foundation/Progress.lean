import EdgePlatform.Foundation.Replace

/-!
# `EdgePlatform.Foundation.Progress` — executions that exist

`Safe` says what every execution does. Where the world always answers, a procedure also has an execution, and
that execution ends as every execution does (`Safe.exists_done`); so a rule of the form "`p >>= k` is safe if
`k a` is" yields, at the trivial continuation, a run of `p` that answers `a`. `Done.bind` and
`Steps.pure_bind` put such runs together into the leading part of a longer procedure.
-/

namespace Foundation

namespace Proc

variable {S : Sig} {σ α β : Type} {sem : Sem S σ} {guard : S.Op → σ → Prop}

variable {p : Proc S α} {Q : Except String α → σ → Prop} {w w' : σ} {q : Proc S β}

/-- Where the world always answers, a procedure has an execution, and it ends as every execution does. -/
theorem Safe.exists_done
    (total : ∀ op w, ∃ a w', sem op w a w') (h : Safe sem guard p Q w) :
    ∃ r w', Done sem p w r w' ∧ Q r w' := by
  obtain ⟨r, w', hdone⟩ := Proc.exists_done total p w
  exact ⟨r, w', hdone, h.done hdone⟩

/-- A rule stated with a continuation, used at the trivial one. -/
theorem Safe.of_bind_pure (h : Safe sem guard (p >>= pure) Q w) : Safe sem guard p Q w := by
  refine (safe_bind.mp h).post fun r w' hr => ?_
  cases r <;> exact hr

theorem Steps.bind {p' : Proc S α} (h : Steps sem p w p' w') (f : α → Proc S β) :
    Steps sem (p >>= f) w (p' >>= f) w' := by
  induction h with
  | refl => exact .refl _ _
  | step hop _ ih => exact .step hop ih

/-- The rule of sequencing for executions. -/
theorem Done.bind {f : α → Proc S β} {a : α} {w₁ w₂ : σ}
    (h : Done sem p w (.ok a) w₁) (hrest : Steps sem (f a) w₁ q w₂) : Steps sem (p >>= f) w q w₂ :=
  (Steps.bind h f).trans hrest

/-- A check that passes, in front of a procedure. -/
theorem Steps.lift_ok {x : Except String α} {f : α → Proc S β} {a : α}
    (hx : x = .ok a) (h : Steps sem (f a) w q w') : Steps sem ((liftM x : Proc S α) >>= f) w q w' := by
  rw [hx]
  exact h

theorem Steps.not_rejected {c : Prop} [Decidable c] {e : String} {f : Unit → Proc S β}
    (hc : ¬ c) (h : Steps sem (f ()) w q w') :
    Steps sem ((liftM (rejectIf c e) : Proc S Unit) >>= f) w q w' :=
  Steps.lift_ok (rejectIf_eq_ok.mpr hc) h

/-! ## Running to the end -/

/-- Run a procedure to its end against a handler. -/
def finish (handle : (op : S.Op) → σ → S.Ans op × σ) : Proc S α → σ → Except String α × σ
  | .ret a, w => (.ok a, w)
  | .fail e, w => (.error e, w)
  | .call op k, w =>
    match handle op w with
    | (a, w') => finish handle (k a) w'

theorem finish_done {handle : (op : S.Op) → σ → S.Ans op × σ}
    (hh : ∀ op w, sem op w (handle op w).1 (handle op w).2) (p : Proc S α) (w : σ) :
    Done sem p w (p.finish handle w).1 (p.finish handle w).2 := by
  induction p generalizing w with
  | ret a => exact .refl _ _
  | fail e => exact .refl _ _
  | call op k ih => exact .step (hh op w) (ih _ _)

end Proc

/-! ## File systems always answer -/

variable {ι E : Type} {X : Sig} [DecidableEq ι]

theorem fsSem_total {own : OwnSem ι E X} (h : ∀ x w, ∃ a e', own x w a e') (op : (fsSig ι X).Op)
    (w : FsWorld ι E) :
    ∃ a w', fsSem own op w a w' := by
  cases op with
  | dir i o => exact ⟨_, _, _, o.run_sem (w.dirs i), rfl⟩
  | own x =>
    obtain ⟨a, e', hown⟩ := h x w
    exact ⟨a, _, e', hown, rfl⟩

/-- What a crash that loses nothing leaves. -/
def FsWorld.settle (w : FsWorld ι E) : FsWorld ι E := { w with dirs := fun i => (w.dirs i).settle }

theorem Dir.read_settle (d : Dir) (n : String) : d.settle.read n = d.read n := by
  simp [Dir.read, Dir.get_settle, Function.comp_def]

theorem Dir.get_settle_eq_none {d : Dir} {n : String} : d.settle.get n = none ↔ d.get n = none := by
  simp [Dir.get_settle]

omit [DecidableEq ι] in
theorem fsCrash_settle (w : FsWorld ι E) : fsCrash w w.settle := ⟨fun i => Dir.crash_settle (w.dirs i), rfl⟩

end Foundation
