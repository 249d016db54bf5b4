import EdgePlatform.Foundation.Text

/-!
# `EdgePlatform.Foundation.Framing` — byte strings that are read back in one way

A signed or hashed text is a concatenation of fields. `Framed P f` says that the words of the code `f` are
told apart from whatever follows them, for the values in `P`. Words of one width and words behind their
length have it, one framed field may follow another (`Framed.split`), and a list of framed words is read back
word by word (`Framed.flatMap_inj`).
-/

namespace Foundation

variable {α β : Type} {P : α → Prop} {f : α → Bytes}

/-- A word of the code ends in one place only, whatever stands behind it. -/
def Framed (P : α → Prop) (f : α → Bytes) : Prop :=
  ∀ ⦃a b⦄, P a → P b → ∀ ⦃s t⦄, f a ++ s = f b ++ t → a = b ∧ s = t

theorem framed_of_width {w : Nat} (hw : ∀ a, (f a).length = w)
    (hinj : ∀ a b, P a → P b → f a = f b → a = b) :
    Framed P f := by
  intro a b ha hb s t h
  obtain ⟨hword, hrest⟩ := List.append_inj h (by rw [hw, hw])
  exact ⟨hinj a b ha hb hword, hrest⟩

/-- A byte string behind its length. -/
theorem framed_of_length {size : Nat → Bytes} {bound : Nat} (hsize : Framed (· < bound) size) :
    Framed (fun b : Bytes => b.length < bound) fun b => size b.length ++ b := by
  intro a b ha hb s t h
  rw [List.append_assoc, List.append_assoc] at h
  obtain ⟨hlength, hrest⟩ := hsize ha hb h
  exact List.append_inj hrest hlength

/-- A framed field is the same on both sides, and so is what follows it. -/
theorem Framed.split (hf : Framed P f) {a b : α} (ha : P a) (hb : P b) {s t : Bytes} :
    f a ++ s = f b ++ t ↔ a = b ∧ s = t := by
  constructor
  · exact fun h => hf ha hb h
  · rintro ⟨rfl, rfl⟩
    rfl

theorem Framed.flatMap_inj (hf : Framed P f) (hne : ∀ a, f a ≠ []) {xs ys : List α} (hx : ∀ x ∈ xs, P x)
    (hy : ∀ y ∈ ys, P y) (h : xs.flatMap f = ys.flatMap f) : xs = ys := by
  induction xs generalizing ys with
  | nil =>
    cases ys with
    | nil => rfl
    | cons y ys =>
      rw [List.flatMap_nil, List.flatMap_cons] at h
      exact absurd (List.append_eq_nil_iff.mp h.symm).1 (hne y)
  | cons x xs ih =>
    cases ys with
    | nil =>
      rw [List.flatMap_nil, List.flatMap_cons] at h
      exact absurd (List.append_eq_nil_iff.mp h).1 (hne x)
    | cons y ys =>
      rw [List.flatMap_cons, List.flatMap_cons] at h
      obtain ⟨rfl, hrest⟩ := hf (hx x (.head _)) (hy y (.head _)) h
      rw [ih (fun x hx' => hx x (.tail _ hx')) (fun y hy' => hy y (.tail _ hy')) hrest]

/-! ## Numbers of a fixed width -/

/-- The `w` bytes of a number, most significant first. -/
def bigEndian (w n : Nat) : Bytes := (List.range w).map fun i => UInt8.ofNat (n / 256 ^ (w - 1 - i) % 256)

theorem bigEndian_succ (w n : Nat) : bigEndian (w + 1) n =
    bigEndian w (n / 256) ++ [UInt8.ofNat (n % 256)] := by
  unfold bigEndian
  rw [List.range_succ, List.map_append, List.map_singleton]
  refine congrArg₂ _ (List.map_congr_left fun i hi => ?_) (by simp)
  have hi : i < w := List.mem_range.mp hi
  have hexp : w + 1 - 1 - i = (w - 1 - i) + 1 := by omega
  rw [hexp, Nat.pow_succ', Nat.div_div_eq_div_mul]

theorem bigEndian_inj {w m n : Nat} (hm : m < 256 ^ w) (hn : n < 256 ^ w)
    (h : bigEndian w m = bigEndian w n) : m = n := by
  induction w generalizing m n with
  | zero =>
    rw [Nat.pow_zero, Nat.lt_one_iff] at hm hn
    rw [hm, hn]
  | succ w ih =>
    rw [bigEndian_succ, bigEndian_succ] at h
    obtain ⟨hhigh, hlow⟩ := List.append_inj' h rfl
    have hdiv := ih (Nat.div_lt_of_lt_mul (Nat.pow_succ' ▸ hm))
        (Nat.div_lt_of_lt_mul (Nat.pow_succ' ▸ hn)) hhigh
    have hmod := congrArg UInt8.toNat (List.singleton_inj.mp hlow)
    rw [UInt8.toNat_ofNat', UInt8.toNat_ofNat'] at hmod
    omega

theorem framed_bigEndian (w : Nat) : Framed (· < 256 ^ w) (bigEndian w) :=
  framed_of_width (w := w) (fun _ => by simp [bigEndian]) fun _ _ ha hb => bigEndian_inj ha hb

end Foundation
