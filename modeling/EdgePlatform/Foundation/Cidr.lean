import Mathlib.Data.BitVec

/-!
# `Foundation.Cidr` — blocks of addresses

A block is the set of the addresses that share their leading bits with its base. A base is canonical when the
bits behind them are zero; code tests that with a mask of the low bits or with one of the high bits.
-/

namespace Foundation.Cidr

variable {w p q k : Nat} {base x : BitVec w}

/-- `x` shares its first `p` bits with `base`. -/
def InBlock (base : BitVec w) (p : Nat) (x : BitVec w) : Prop := x >>> (w - p) = base >>> (w - p)

instance : Decidable (InBlock base p x) := inferInstanceAs (Decidable (_ = _))

/-- A block lies in every wider block around its base. -/
theorem InBlock.widen (hx : InBlock base p x) (hq : q ≤ p) (hp : p ≤ w) : InBlock base q x := by
  have hsplit : w - q = (w - p) + (p - q) := by omega
  rw [InBlock, hsplit, BitVec.shiftRight_add, BitVec.shiftRight_add, hx]

/-- Two blocks with a common address agree in the bits both fix. -/
theorem InBlock.meet {other : BitVec w} (hx : InBlock base p x) (hp : p ≤ w) (hy : InBlock other q x)
    (hq : q ≤ w) :
    InBlock base (min p q) other :=
  (hy.widen (min_le_right p q) hq).symm.trans (hx.widen (min_le_left p q) hp)

/-- Changing both by the same bits. -/
theorem InBlock.xor (hx : InBlock base p x) (y : BitVec w) : InBlock (base ^^^ y) p (x ^^^ y) := by
  rw [InBlock, BitVec.ushiftRight_xor_distrib, BitVec.ushiftRight_xor_distrib, hx]

/-- The bits behind the first `p` are zero. -/
def Canonical (base : BitVec w) (p : Nat) : Prop := base >>> (w - p) <<< (w - p) = base

/-- A canonical base is determined by any address of its block. -/
theorem Canonical.eq (hc : Canonical base p) (hx : InBlock base p x) : x >>> (w - p) <<< (w - p) = base := by
  rw [hx]; exact hc

theorem and_high_mask : x &&& (BitVec.allOnes w <<< k) = x >>> k <<< k := by
  ext i hi
  by_cases h : i < k
  · simp [h]
  · have hback : k + (i - k) = i := by omega
    simp [h, hback, hi]

theorem toNat_low_mask (hk : k < w) : ((1#w <<< k) - 1).toNat = 2 ^ k - 1 := by
  have hpow : 2 ^ k < 2 ^ w := Nat.pow_lt_pow_right (by omega) hk
  have hone : 1 < 2 ^ w := Nat.one_lt_two_pow (by omega)
  have hshift : (1#w <<< k).toNat = 2 ^ k := by simp [Nat.shiftLeft_eq, Nat.mod_eq_of_lt hpow]
  have hle : (1 : BitVec w) ≤ 1#w <<< k := by
    have hlow : 1 % 2 ^ w ≤ 2 ^ k := (Nat.mod_le _ _).trans Nat.one_le_two_pow
    simpa [BitVec.le_def, hshift] using hlow
  rw [BitVec.toNat_sub_of_le hle, hshift]
  simp [Nat.mod_eq_of_lt hone]

theorem canonical_iff_low_mask (hk : w - p < w) :
    base &&& ((1#w <<< (w - p)) - 1) = 0 ↔ Canonical base p := by
  rw [Canonical, ← BitVec.toNat_inj, ← BitVec.toNat_inj, BitVec.toNat_and, toNat_low_mask hk,
    Nat.and_two_pow_sub_one_eq_mod, BitVec.toNat_shiftLeft, BitVec.toNat_ushiftRight, Nat.shiftLeft_eq,
    Nat.shiftRight_eq_div_pow]
  have hdiv := Nat.div_add_mod base.toNat (2 ^ (w - p))
  have hlt : base.toNat / 2 ^ (w - p) * 2 ^ (w - p) < 2 ^ w :=
    (Nat.div_mul_le_self _ _).trans_lt base.isLt
  rw [Nat.mod_eq_of_lt hlt, Nat.mul_comm]
  simp
  omega

theorem canonical_iff_high_mask : base &&& (BitVec.allOnes w <<< (w - p)) = base ↔ Canonical base p := by
  rw [and_high_mask, Canonical]

/-- Under a canonical base the masked address is the base exactly in the block. -/
theorem Canonical.masked_iff (hc : Canonical base p) :
    x &&& (BitVec.allOnes w <<< (w - p)) = base ↔ InBlock base p x := by
  rw [and_high_mask]
  refine ⟨fun h => ?_, hc.eq⟩
  subst h
  ext i hi
  by_cases hw : w - p + i < w
  · simp [hw]
  · simp [BitVec.getLsbD_of_ge x _ (Nat.le_of_not_lt hw)]

/-- Turning one bit behind the first `p` stays in the block. -/
theorem inBlock_flip (hk : k < w - p) : InBlock base p (base ^^^ (1#w <<< k)) := by
  ext i hi
  have hne : ¬ w - p + i - k = 0 := by omega
  by_cases hw : w - p + i < w
  · simp [hw, hne]
  · simp [hw]

end Foundation.Cidr
