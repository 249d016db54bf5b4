import Mathlib.Data.Fintype.Order

/-!
# `EdgePlatform.Foundation.Dependency` — dependency order by repeated sweeps

Items carry a key and a list of keys they depend on. `settle` sweeps over the items again and again,
appending an item as soon as everything it depends on has been appended, until all items are placed or a
sweep places none. It ends with an order exactly when the keys are distinct and the dependency relation is
closed and acyclic (`settle_isSome_iff`); the order is a permutation of the items in which every item comes
after what it depends on (`settle_eq_some`).

The order also ranks the keys, so an invariant of a dependency chain is an induction on a number.
-/

namespace Foundation

/-! ## Acyclic relations -/

/-- No element reaches itself. -/
def Acyclic {κ : Type} (r : κ → κ → Prop) : Prop := ∀ x, ¬ Relation.TransGen r x x

/-- A relation that lowers a rank is acyclic. -/
theorem acyclic_of_rank {κ : Type} {r : κ → κ → Prop} (rank : κ → Nat) (h : ∀ x y, r x y → rank y < rank x) :
    Acyclic r := by
  have hlt : ∀ {x y}, Relation.TransGen r x y → rank y < rank x := by
    intro x y hxy
    induction hxy with
    | single hr => exact h _ _ hr
    | tail _ hr ih => exact (h _ _ hr).trans ih
  intro x hx
  exact absurd (hlt hx) (lt_irrefl _)

section Order

variable {α κ : Type} (key : α → κ) (deps : α → List κ)

/-- The key `x` of an item depends on the key `y`. -/
def DependsOn (items : List α) (x y : κ) : Prop := ∃ a ∈ items, key a = x ∧ y ∈ deps a

/-- Every dependency is the key of an item. -/
def ClosedDeps (items : List α) : Prop := ∀ a ∈ items, ∀ d ∈ deps a, d ∈ items.map key

/-- Every item of the list comes after what it depends on. -/
def Ordered (order : List α) : Prop := ∀ l a r, order = l ++ a :: r → ∀ d ∈ deps a, d ∈ l.map key

variable {key deps}

theorem ordered_nil : Ordered key deps [] := by
  intro l a r h
  simp at h

variable {order l r items done todo : List α} {a : α}

theorem Ordered.snoc (h : Ordered key deps order)
    (ha : ∀ d ∈ deps a, d ∈ order.map key) : Ordered key deps (order ++ [a]) := by
  intro l b r hsplit
  rcases List.eq_nil_or_concat r with rfl | ⟨r', c, rfl⟩
  · obtain ⟨rfl, hb⟩ := List.append_inj' hsplit rfl
    obtain rfl : a = b := by simpa using hb
    exact ha
  · have hsplit' : order ++ [a] = (l ++ b :: r') ++ [c] := by simpa using hsplit
    obtain ⟨rfl, -⟩ := List.append_inj' hsplit' rfl
    exact h l b r' rfl

theorem Ordered.of_append_cons (h : Ordered key deps (l ++ a :: r)) : ∀ d ∈ deps a, d ∈ l.map key :=
  h l a r rfl

/-- In an ordered list without repeated keys, what depends on an item comes after it. -/
theorem Ordered.mem_after {b : α} (h : Ordered key deps order) (hnodup : (order.map key).Nodup)
    (hsplit : order = l ++ a :: r) (hb : b ∈ order) (hdep : key a ∈ deps b) : b ∈ r := by
  obtain ⟨before, after, hsplit'⟩ := List.append_of_mem hb
  have ha : a ∈ before := by
    obtain ⟨a', ha', hkey⟩ := List.mem_map.mp (h before b after hsplit' _ hdep)
    have hsame : a' = a :=
      List.inj_on_of_nodup_map hnodup (by rw [hsplit']; exact List.mem_append_left _ ha')
      (by simp [hsplit]) hkey
    exact hsame ▸ ha'
  obtain ⟨l', m, rfl⟩ := List.append_of_mem ha
  have horder : order = l' ++ a :: (m ++ b :: after) := by simp [hsplit']
  have hone : (a :: (l' ++ (m ++ b :: after))).Nodup := by
    rw [← List.nodup_middle, ← horder]
    exact List.Nodup.of_map key hnodup
  rw [List.nodup_cons, List.mem_append, not_or] at hone
  -- an item occurs once, so the two ways to split at it are the same
  obtain ⟨-, -, rfl⟩ := (List.append_cons_inj_of_notMem hone.1.1 hone.1.2).mp (horder.symm.trans hsplit)
  simp

variable [DecidableEq κ]

/-- In an ordered list without repeated keys the position of a key is a rank. -/
theorem Ordered.rank (h : Ordered key deps order) (hnodup : (order.map key).Nodup) {x y : κ}
    (hxy : DependsOn key deps order x y) : (order.map key).idxOf y < (order.map key).idxOf x := by
  obtain ⟨a, ha, rfl, hy⟩ := hxy
  obtain ⟨l, r, rfl⟩ := List.append_of_mem ha
  have hmem : y ∈ l.map key := h.of_append_cons y hy
  have hfresh : key a ∉ l.map key := by
    simp only [List.map_append, List.map_cons] at hnodup
    have hdis := List.nodup_append.mp hnodup
    intro hin
    exact hdis.2.2 _ hin _ (.head _) rfl
  rw [List.map_append, List.map_cons, List.idxOf_append_of_mem hmem, List.idxOf_append_of_notMem hfresh,
    List.idxOf_cons_self, Nat.add_zero]
  exact List.idxOf_lt_length_of_mem hmem

variable (key deps)

/-! ## The loop -/

/-- Place one item if it is not placed and everything it depends on is. -/
def visit (done : List α) (a : α) : List α :=
  if key a ∉ done.map key ∧ ∀ d ∈ deps a, d ∈ done.map key then done ++ [a] else done

/-- One pass over the items. -/
def sweep (items done : List α) : List α := items.foldl (visit key deps) done

/-- Sweep until every item is placed; `none` when a sweep places nothing. -/
def settle (items done : List α) : Option (List α) :=
  if done.length < items.length then
    if (sweep key deps items done).length ≤ done.length then none
    else settle items (sweep key deps items done)
  else some done
termination_by items.length - done.length

/-- What holds of the placed items throughout. -/
structure Settling (items done : List α) : Prop where
  nodup : (done.map key).Nodup
  subset : ∀ a ∈ done, a ∈ items
  ordered : Ordered key deps done

variable {key deps}

omit [DecidableEq κ] in
theorem Settling.nil (items : List α) : Settling key deps items [] := ⟨by simp, by simp, ordered_nil⟩

theorem Settling.visit (h : Settling key deps items done) (ha : a ∈ items) :
    Settling key deps items (visit key deps done a) := by
  unfold Foundation.visit
  split
  · next hready =>
      obtain ⟨hfresh, hdeps⟩ := hready
      refine ⟨?_, ?_, h.ordered.snoc hdeps⟩
      · rw [List.map_append, List.map_singleton]
        exact List.Nodup.append h.nodup (List.nodup_singleton _) (by simpa using hfresh)
      · intro b hb
        rcases List.mem_append.mp hb with hb | hb
        · exact h.subset b hb
        · obtain rfl : b = a := by simpa using hb
          exact ha
  · exact h

theorem Settling.sweep (h : Settling key deps items done) (htodo : ∀ a ∈ todo, a ∈ items) :
    Settling key deps items (sweep key deps todo done) := by
  induction todo generalizing done with
  | nil => exact h
  | cons a todo ih =>
    exact ih (h.visit (htodo a (.head _))) (fun b hb => htodo b (.tail _ hb))

theorem length_visit (done : List α) (a : α) : done.length ≤ (visit key deps done a).length := by
  unfold visit
  split <;> simp

theorem length_sweep (todo done : List α) : done.length ≤ (sweep key deps todo done).length := by
  induction todo generalizing done with
  | nil => exact le_rfl
  | cons a todo ih => exact (length_visit done a).trans (ih (visit key deps done a))

/-- A visit that adds nothing found its item placed or not ready. -/
theorem visit_stuck (h : (visit key deps done a).length ≤ done.length) :
    visit key deps done a = done ∧ (key a ∉ done.map key → ∃ d ∈ deps a, d ∉ done.map key) := by
  unfold visit at h ⊢
  split at h
  · exact absurd h (by simp)
  · next hnot =>
      rw [if_neg hnot]
      refine ⟨rfl, fun hfresh => ?_⟩
      by_contra hall
      push Not at hall
      exact hnot ⟨hfresh, hall⟩

/-- A sweep that adds nothing found every item placed or not ready. -/
theorem sweep_stuck (h : (sweep key deps todo done).length ≤ done.length) :
    ∀ a ∈ todo, key a ∉ done.map key → ∃ d ∈ deps a, d ∉ done.map key := by
  induction todo generalizing done with
  | nil => simp
  | cons a todo ih =>
    have hrest : (visit key deps done a).length ≤ (sweep key deps (a :: todo) done).length :=
      length_sweep todo (visit key deps done a)
    obtain ⟨hsame, hstuck⟩ := visit_stuck (hrest.trans h)
    have htail : (sweep key deps todo done).length ≤ done.length := by
      have hunfold : sweep key deps (a :: todo) done = sweep key deps todo (visit key deps done a) := rfl
      rwa [hunfold, hsame] at h
    intro b hb
    rcases List.mem_cons.mp hb with rfl | hb
    · exact hstuck
    · exact ih htail b hb

/-! ## Soundness -/

theorem settle_settling (h : Settling key deps items done) (hrun : settle key deps items done = some order) :
    Settling key deps items order ∧ items.length ≤ order.length := by
  fun_induction settle key deps items done with
  | case1 done _ _ => cases hrun
  | case2 done _ _ ih => exact ih (h.sweep fun _ ha => ha) hrun
  | case3 done hdone =>
    obtain rfl : done = order := Option.some.inj hrun
    exact ⟨h, not_lt.mp hdone⟩

/-- **Soundness.** The order is a permutation of the items, without repeated keys, in which every item comes
    after what it depends on. -/
theorem settle_eq_some (hrun : settle key deps items [] = some order) :
    order.Perm items ∧ (order.map key).Nodup ∧ Ordered key deps order := by
  obtain ⟨h, hlen⟩ := settle_settling (Settling.nil items) hrun
  have hsub : order.Subperm items := List.subperm_of_subset (List.Nodup.of_map key h.nodup) h.subset
  exact ⟨hsub.perm_of_length_le hlen, h.nodup, h.ordered⟩

omit [DecidableEq κ] in
theorem dependsOn_of_perm (h : order.Perm items) {x y : κ}
    (hxy : DependsOn key deps items x y) : DependsOn key deps order x y := by
  obtain ⟨a, ha, hx, hy⟩ := hxy
  exact ⟨a, h.mem_iff.mpr ha, hx, hy⟩

/-- The order ranks the keys by dependency. -/
theorem exists_rank_of_settle (hrun : settle key deps items [] = some order) :
    ∃ rank : κ → Nat, ∀ x y, DependsOn key deps items x y → rank y < rank x := by
  obtain ⟨hperm, hnodup, hord⟩ := settle_eq_some hrun
  exact ⟨fun x => (order.map key).idxOf x, fun x y hxy => hord.rank hnodup (dependsOn_of_perm hperm hxy)⟩

theorem closedDeps_of_settle (hrun : settle key deps items [] = some order) : ClosedDeps key deps items := by
  obtain ⟨hperm, -, hord⟩ := settle_eq_some hrun
  intro a ha d hd
  obtain ⟨l, r, hsplit⟩ := List.append_of_mem (hperm.mem_iff.mpr ha)
  have hmem : d ∈ l.map key := (hsplit ▸ hord).of_append_cons d hd
  have horder : d ∈ order.map key := by
    rw [hsplit, List.map_append]
    exact List.mem_append_left _ hmem
  exact (hperm.map key).mem_iff.mp horder

/-! ## Completeness -/

/-- In a closed acyclic relation, some item that is not placed has all its dependencies placed. -/
theorem exists_ready (hclosed : ClosedDeps key deps items)
    (hacyclic : Acyclic (DependsOn key deps items)) (hleft : ∃ a ∈ items, key a ∉ done.map key) :
    ∃ a ∈ items, key a ∉ done.map key ∧ ∀ d ∈ deps a, d ∈ done.map key := by
  -- the keys are finitely many, so the reachability relation on them is well-founded
  let below (x y : {k // k ∈ items.map key}) : Prop := Relation.TransGen (DependsOn key deps items) y.1 x.1
  have : IsTrans {k // k ∈ items.map key} below := ⟨fun _ _ _ hxy hyz => hyz.trans hxy⟩
  have : Std.Irrefl below := ⟨fun x => hacyclic x.1⟩
  have : Finite {k // k ∈ items.map key} := List.finite_toSet (items.map key)
  have hwf : WellFounded below := Finite.wellFounded_of_trans_of_irrefl below
  obtain ⟨a₀, ha₀, hfresh₀⟩ := hleft
  obtain ⟨⟨k, hk⟩, hfresh, hmin⟩ :=
    hwf.has_min {k | k.1 ∉ done.map key} ⟨⟨key a₀, List.mem_map_of_mem ha₀⟩, hfresh₀⟩
  obtain ⟨a, ha, rfl⟩ := List.mem_map.mp hk
  refine ⟨a, ha, hfresh, fun d hd => ?_⟩
  by_contra hdone
  exact hmin ⟨d, hclosed a ha d hd⟩ hdone (.single ⟨a, ha, rfl, hd⟩)

theorem exists_left (hnodup : (items.map key).Nodup) (hlen : done.length < items.length) :
    ∃ a ∈ items, key a ∉ done.map key := by
  by_contra hall
  push Not at hall
  have hsub : items.map key ⊆ done.map key := by
    intro k hk
    obtain ⟨a, ha, rfl⟩ := List.mem_map.mp hk
    exact hall a ha
  have hle := (List.subperm_of_subset hnodup hsub).length_le
  simp only [List.length_map] at hle
  omega

theorem settle_ne_none (hnodup : (items.map key).Nodup) (hclosed : ClosedDeps key deps items)
    (hacyclic : Acyclic (DependsOn key deps items)) (done : List α) : settle key deps items done ≠ none := by
  fun_induction settle key deps items done with
  | case1 done hlen hstuck =>
    obtain ⟨a, ha, hfresh, hready⟩ := exists_ready hclosed hacyclic (exists_left hnodup hlen)
    obtain ⟨d, hd, hnot⟩ := sweep_stuck hstuck a ha hfresh
    exact absurd (hready d hd) hnot
  | case2 done _ _ ih => exact ih
  | case3 done _ => simp

/-- **Exactness.** The loop places every item exactly when keys are distinct and dependencies are closed and
    acyclic. -/
theorem settle_isSome_iff :
    (settle key deps items []).isSome ↔
      (items.map key).Nodup ∧ ClosedDeps key deps items ∧ Acyclic (DependsOn key deps items) := by
  constructor
  · intro h
    obtain ⟨order, hrun⟩ := Option.isSome_iff_exists.mp h
    obtain ⟨hperm, hnodup, -⟩ := settle_eq_some hrun
    obtain ⟨rank, hrank⟩ := exists_rank_of_settle hrun
    exact ⟨(hperm.map key).nodup_iff.mp hnodup, closedDeps_of_settle hrun, acyclic_of_rank rank hrank⟩
  · rintro ⟨hnodup, hclosed, hacyclic⟩
    exact Option.isSome_iff_ne_none.mpr (settle_ne_none hnodup hclosed hacyclic [])

/-! ## Items seen through a map -/

variable {ι : Type}

theorem visit_map (f : ι → α) (done : List ι) (a : ι) :
    visit key deps (done.map f) (f a) = (visit (key ∘ f) (deps ∘ f) done a).map f := by
  unfold visit
  simp only [List.map_map, Function.comp_apply]
  split <;> simp

theorem sweep_map (f : ι → α) (items done : List ι) :
    sweep key deps (items.map f) (done.map f) = (sweep (key ∘ f) (deps ∘ f) items done).map f := by
  unfold sweep
  induction items generalizing done with
  | nil => rfl
  | cons a items ih => rw [List.map_cons, List.foldl_cons, List.foldl_cons, visit_map, ih]

variable (key deps) in
/-- The loop looks at keys and dependencies only. -/
theorem settle_map (f : ι → α) (items done : List ι) :
    settle key deps (items.map f) (done.map f) =
      (settle (key ∘ f) (deps ∘ f) items done).map (List.map f) := by
  fun_induction settle (key ∘ f) (deps ∘ f) items done with
  | case1 done hlen hstuck =>
    rw [settle, sweep_map]
    simp [hlen, hstuck]
  | case2 done hlen hmore ih =>
    rw [settle, sweep_map]
    simpa [hlen, hmore] using ih
  | case3 done hlen =>
    rw [settle]
    simp [hlen]

end Order

end Foundation
