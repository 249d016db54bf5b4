import EdgePlatform.Foundation.FsProc

/-!
# `Foundation.Within` — the operations a procedure can issue at all

`Proc.Safe` follows an execution through its worlds. Many facts about a procedure need no world: whatever the
answers, certain operations never occur in its tree, or occur with certain arguments only. `Proc.Within` says
that every operation of the tree is `allowed`; it is proved along the program text, and `Within.issued` turns
it into a fact about every execution.
-/

namespace Foundation.Proc

variable {S : Sig} {σ α β : Type} {allowed : S.Op → Prop}

/-- Every operation in the tree of the procedure is allowed. -/
def Within (allowed : S.Op → Prop) : Proc S α → Prop
  | ret _ | fail _ => True
  | call op k => allowed op ∧ ∀ a, (k a).Within allowed

variable {p : Proc S α} {sem : Sem S σ} {guard : S.Op → σ → Prop}

theorem Within.bind {f : α → Proc S β} (hp : p.Within allowed)
    (hf : ∀ a, (f a).Within allowed) : (p >>= f).Within allowed := by
  induction p with
  | ret a => exact hf a
  | fail e => trivial
  | call op k ih => exact ⟨hp.1, fun a => ih a (hp.2 a)⟩

theorem within_lift (x : Except String α) : (liftM x : Proc S α).Within allowed := by
  cases x <;> trivial

/-- What follows a check may use that the check passed. -/
theorem Within.lift_bind {x : Except String α} {f : α → Proc S β}
    (h : ∀ a, x = .ok a → (f a).Within allowed) : ((liftM x : Proc S α) >>= f).Within allowed := by
  cases x with
  | ok a => exact h a rfl
  | error e => trivial

variable {w : σ}

/-- A guard that does not look at the world. -/
theorem Within.safe (h : p.Within allowed)
    (hguard : ∀ op w, allowed op → guard op w) : Safe sem guard p (fun _ _ => True) w := by
  induction p generalizing w with
  | ret a => trivial
  | fail e => trivial
  | call op k ih => exact ⟨hguard op w h.1, fun a w' _ => ih a (h.2 a)⟩

/-- **The frame rule.** Operations that leave the world alone leave it alone together. -/
theorem Within.frame (h : p.Within allowed)
    (hguard : ∀ op w, allowed op → guard op w) (hframe : ∀ op w a w', allowed op → sem op w a w' → w' = w) :
    Safe sem guard p (fun _ w' => w' = w) w := by
  induction p with
  | ret a => exact rfl
  | fail e => exact rfl
  | call op k ih =>
    refine ⟨hguard op w h.1, fun a w' hop => ?_⟩
    rw [hframe op w a w' h.1 hop]
    exact ih a (h.2 a)

/-- What the tree allows may be added to the guard, and the guard then forgotten. -/
theorem Safe.within {Q : Except String α → σ → Prop}
    (h : Safe sem guard p Q w) (hp : p.Within allowed) : Safe sem (fun op _ => allowed op) p Q w := by
  induction p generalizing w with
  | ret a => exact h
  | fail e => exact h
  | call op k ih => exact ⟨hp.1, fun a w' hop => ih a (h.2 a w' hop) (hp.2 a)⟩

/-- **Every operation an execution issues is allowed.** -/
theorem Within.issued {op : S.Op} {k : S.Ans op → Proc S α} {w' : σ}
    (h : p.Within allowed) (hs : Steps sem p w (call op k) w') : allowed op := by
  have hsafe : Safe sem (fun op _ => allowed op) p (fun _ _ => True) w := h.safe fun _ _ hop => hop
  exact hsafe.issued hs

section Fs

variable {ι : Type} {X : Sig} {i : ι} {permitted : (fsSig ι X).Op → Prop} {n e : String} {b : Bytes}

theorem within_stat (h : permitted (.dir i (.stat n))) : (Fs.stat (X := X) i n).Within permitted :=
  ⟨h, fun _ => trivial⟩

theorem within_readOr (h : permitted (.dir i (.read n))) : (Fs.readOr (X := X) i n e).Within permitted := by
  refine ⟨h, fun a => ?_⟩
  cases a <;> trivial

theorem within_durableCreate (hwrite : ∀ o : DirOp, o.Writes n b → permitted (.dir i o))
    (hsync : permitted (.dir i .syncDir)) : (Fs.durableCreate (X := X) i n b e).Within permitted := by
  refine ⟨hwrite _ .createNew, fun fresh => ?_⟩
  refine Within.lift_bind fun _ _ => ?_
  exact ⟨hwrite _ .append, fun _ => ⟨hwrite _ .fsync, fun _ => ⟨hsync, fun _ => trivial⟩⟩⟩

theorem within_durableRemove (hremove : permitted (.dir i (.remove n)))
    (hsync : permitted (.dir i .syncDir)) :
    (Fs.durableRemove (X := X) i n e).Within permitted := by
  refine ⟨hremove, fun removed => ?_⟩
  exact Within.lift_bind fun _ _ => ⟨hsync, fun _ => trivial⟩

end Fs

end Foundation.Proc
