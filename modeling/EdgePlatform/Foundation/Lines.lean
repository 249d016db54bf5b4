import EdgePlatform.Foundation.Text
import Mathlib.Data.List.Infix
import Mathlib.Data.Nat.Digits.Defs

/-!
# `EdgePlatform.Foundation.Lines` — affixes, decimal numbers, and text made of lines

The text operations that readers of small records use: removing a fixed first or last part, searching for a
part, decimal numbers with the grammar of `str::parse`, and `str::lines`. Each reader is shown to undo the
writer it is used with: `parseU64` undoes `decimal`, and `lines` undoes `unlines`.
-/

namespace Foundation

/-! ## Affixes -/

/-- `s` without its first part `p`. -/
def stripPrefix (s p : String) : Option String :=
  if startsWith s p then some (String.ofList (s.toList.drop p.toList.length)) else none

/-- `s` without its last part `p`. -/
def stripSuffix (s p : String) : Option String :=
  if endsWith s p then some (String.ofList (s.toList.take (s.toList.length - p.toList.length))) else none

variable {s p t : String}

theorem stripPrefix_eq_some : stripPrefix s p = some t ↔ s = p ++ t := by
  unfold stripPrefix
  constructor
  · intro h
    split at h
    · next hp =>
        obtain ⟨r, hr⟩ := startsWith_iff.mp hp
        have ht : t = String.ofList r := by simpa [← hr] using (Option.some.inj h).symm
        apply String.toList_inj.mp
        simp [ht, hr]
    · cases h
  · rintro rfl
    simp [startsWith_append]

@[simp] theorem stripPrefix_append (p t : String) : stripPrefix (p ++ t) p = some t :=
  stripPrefix_eq_some.mpr rfl

theorem stripSuffix_eq_some : stripSuffix s p = some t ↔ s = t ++ p := by
  unfold stripSuffix
  constructor
  · intro h
    split at h
    · next hp =>
        obtain ⟨r, hr⟩ := endsWith_iff.mp hp
        have ht : t = String.ofList r := by simpa [← hr] using (Option.some.inj h).symm
        apply String.toList_inj.mp
        simp [ht, hr]
    · cases h
  · rintro rfl
    simp [endsWith_append]

@[simp] theorem stripSuffix_append (t p : String) : stripSuffix (t ++ p) p = some t :=
  stripSuffix_eq_some.mpr rfl

/-- `p` occurs somewhere in `s`. -/
def contains (s p : String) : Bool := s.toList.tails.any fun t => p.toList.isPrefixOf t

theorem contains_iff : contains s p = true ↔ p.toList <:+: s.toList := by
  simp only [contains, List.any_eq_true, List.mem_tails, List.isPrefixOf_iff_prefix]
  exact ⟨fun ⟨t, ht, hp⟩ => hp.isInfix.trans ht.isInfix, fun h => by
    obtain ⟨a, b, hab⟩ := h
    exact ⟨p.toList ++ b, ⟨a, by simpa using hab⟩, List.prefix_append _ _⟩⟩

theorem contains_of_startsWith (h : startsWith s p = true) : contains s p = true :=
  contains_iff.mpr (startsWith_iff.mp h).isInfix

/-! ## The bytes of a text -/

theorem utf8_ofList (cs : List Char) : utf8 (String.ofList cs) = cs.flatMap String.utf8EncodeChar := by
  simp [utf8, List.utf8Encode]

@[simp] theorem utf8_append (s t : String) : utf8 (s ++ t) = utf8 s ++ utf8 t := by
  rw [← String.ofList_toList (s := s ++ t), String.toList_append, utf8_ofList,
    List.flatMap_append, ← utf8_ofList, ← utf8_ofList, String.ofList_toList, String.ofList_toList]

variable {c : Char}

theorem mem_utf8 {b : UInt8} (hc : c ∈ s.toList) (hb : b ∈ String.utf8EncodeChar c) : b ∈ utf8 s := by
  rw [← String.ofList_toList (s := s), utf8_ofList]
  exact List.mem_flatMap.mpr ⟨c, hc, hb⟩

/-- A text whose bytes are all of a class has no character whose bytes are not. -/
theorem not_mem_of_bytes {cls : UInt8 → Bool} (h : (utf8 s).all cls = true)
    (hc : (String.utf8EncodeChar c).all cls = false) : c ∉ s.toList := by
  intro hmem
  rw [Bool.eq_false_iff] at hc
  exact hc (List.all_eq_true.mpr fun b hb => List.all_eq_true.mp h b (mem_utf8 hmem hb))

theorem utf8EncodeChar_hexDigit : ∀ n < 16, (String.utf8EncodeChar (hexDigit n)).length = 1 ∧
    (String.utf8EncodeChar (hexDigit n)).all isLowerHex = true := by
  decide

/-- Hexadecimal text is two lower-case digits a byte. -/
theorem utf8_hex (b : Bytes) : (utf8 (hex b)).length = 2 * b.length ∧
    (utf8 (hex b)).all isLowerHex = true := by
  rw [hex, utf8_ofList]
  induction b with
  | nil => exact ⟨rfl, rfl⟩
  | cons x b ih =>
    have hx : x.toNat < 256 := x.toNat_lt
    obtain ⟨hhi, hhi'⟩ := utf8EncodeChar_hexDigit (x.toNat / 16) (by omega)
    obtain ⟨hlo, hlo'⟩ := utf8EncodeChar_hexDigit (x.toNat % 16) (by omega)
    rw [show hexChars (x :: b) = hexDigit (x.toNat / 16) :: hexDigit (x.toNat % 16) :: hexChars b from rfl,
      List.flatMap_cons, List.flatMap_cons]
    refine ⟨?_, ?_⟩
    · simp only [List.length_append, List.length_cons, hhi, hlo, ih.1]
      omega
    · simp [List.all_append, hhi', hlo', ih.2]

/-! ## Decimal numbers -/

/-- The number as `format!` writes it. -/
def decimal (n : Nat) : String := String.ofList (Nat.toDigits 10 n)

/-- A non-empty run of decimal digits. -/
def digitsValue (cs : List Char) : Option Nat :=
  if cs ≠ [] ∧ cs.all Char.isDigit then some (Nat.ofDigitChars 10 cs 0) else none

theorem digitsValue_toDigits (n : Nat) : digitsValue (Nat.toDigits 10 n) = some n := by
  have hdigits : (Nat.toDigits 10 n).all Char.isDigit = true := by
    rw [List.all_eq_true]
    exact fun c hc => Nat.isDigit_of_mem_toDigits (by decide) (by decide) hc
  rw [digitsValue, if_pos ⟨Nat.toDigits_ne_nil, hdigits⟩, Nat.ofDigitChars_toDigits (by decide) (by decide)]

/-- An unsigned number may carry one plus sign. -/
def unsigned : List Char → List Char
  | '+' :: cs => cs
  | cs => cs

theorem unsigned_toDigits (n : Nat) : unsigned (Nat.toDigits 10 n) = Nat.toDigits 10 n := by
  unfold unsigned
  split
  · next cs h =>
      have hplus : Char.isDigit '+' = true :=
        Nat.isDigit_of_mem_toDigits (by decide) (by decide) (h ▸ List.mem_cons_self)
      exact absurd hplus (by decide)
  · rfl

/-- `str::parse::<u64>`. -/
def parseU64 (s : String) : Option UInt64 :=
  (digitsValue (unsigned s.toList)).bind fun n => if n < 2 ^ 64 then some (UInt64.ofNat n) else none

@[simp] theorem parseU64_decimal (x : UInt64) : parseU64 (decimal x.toNat) = some x := by
  rw [parseU64, decimal, String.toList_ofList, unsigned_toDigits, digitsValue_toDigits, Option.bind_some,
    if_pos x.toNat_lt, UInt64.ofNat_toNat]

theorem digitChar_of_isDigit (h : c.isDigit = true) : c.toNat - 48 < 10 ∧ (c.toNat - 48).digitChar = c := by
  obtain ⟨hlow, hhigh⟩ : 48 ≤ c.toNat ∧ c.toNat ≤ 57 := Char.isDigit_iff_toNat.mp h
  have hall : ∀ n < 10, (48 + n - 48).digitChar = Char.ofNat (48 + n) := by decide
  have hc := hall (c.toNat - 48) (by omega)
  rw [Nat.add_sub_cancel' hlow, Char.ofNat_toNat] at hc
  exact ⟨by omega, hc⟩

/-- A run of digits without leading zero is what its number is written as. -/
theorem toDigits_ofDigitChars {cs : List Char} (hne : cs ≠ []) (hdigits : ∀ c ∈ cs, c.isDigit = true)
    (hzero : cs.head? ≠ some '0') : Nat.toDigits 10 (Nat.ofDigitChars 10 cs 0) = cs := by
  induction cs using List.reverseRecOn with
  | nil => exact absurd rfl hne
  | append_singleton ds c ih =>
    obtain ⟨hlt, hchar⟩ := digitChar_of_isDigit (hdigits c (by simp))
    have hlast : Nat.toDigits 10 (c.toNat - 48) = [c] := by
      rw [Nat.toDigits_of_lt_base hlt, hchar]
    rw [Nat.ofDigitChars_append, Nat.ofDigitChars_cons, Nat.ofDigitChars_nil]
    by_cases hds : ds = []
    · subst hds
      simpa [Nat.ofDigitChars_nil] using hlast
    · have hhead : ds.head? ≠ some '0' := by
        rwa [List.head?_append_of_ne_nil _ hds] at hzero
      have hfront := ih hds (fun d hd => hdigits d (List.mem_append_left _ hd)) hhead
      have hpos : 0 < Nat.ofDigitChars 10 ds 0 := by
        rw [Nat.pos_iff_ne_zero]
        intro h
        rw [h] at hfront
        rw [← hfront] at hhead
        exact hhead rfl
      have happend := Nat.toDigits_append_toDigits (by decide) hpos hlt
      rw [hfront, hlast] at happend
      exact happend.symm

/-- A number read from digits without leading zero was written in decimal. -/
theorem eq_decimal_of_parseU64 {x : UInt64} (h : parseU64 s = some x) (hplus : '+' ∉ s.toList)
    (hzero : startsWith s "0" = false) : s = decimal x.toNat := by
  have hunsigned : unsigned s.toList = s.toList := by
    unfold unsigned
    split
    · next cs hcs => exact absurd (hcs ▸ (.head _)) hplus
    · rfl
  have hhead : s.toList.head? ≠ some '0' := by
    intro hhead
    obtain ⟨cs, hcs⟩ := List.head?_eq_some_iff.mp hhead
    rw [← Bool.not_eq_true, startsWith_iff, hcs] at hzero
    exact hzero ⟨cs, rfl⟩
  rw [parseU64, hunsigned] at h
  obtain ⟨n, hn, hx⟩ := Option.bind_eq_some_iff.mp h
  unfold digitsValue at hn
  split_ifs at hn with hdigits
  split_ifs at hx with hsmall
  rw [← Option.some.inj hx, UInt64.toNat_ofNat_of_lt' hsmall, decimal, ← Option.some.inj hn,
    toDigits_ofDigitChars hdigits.1 (List.all_eq_true.mp hdigits.2) hhead, String.ofList_toList]

/-- `str::parse::<i32>`. -/
def parseI32 (s : String) : Option Int32 :=
  match s.toList with
  | '-' :: cs => (digitsValue cs).bind fun n => if n ≤ 2 ^ 31 then some (Int32.ofInt (-n)) else none
  | cs => (digitsValue (unsigned cs)).bind fun n => if n < 2 ^ 31 then some (Int32.ofInt n) else none

/-- An `i32` as `format!` writes it. -/
def decimalI32 (x : Int32) : String :=
  if x.toInt < 0 then "-" ++ decimal x.toInt.natAbs else decimal x.toInt.toNat

theorem mem_decimal {n : Nat} (h : c ∈ (decimal n).toList) : c.isDigit = true := by
  rw [decimal, String.toList_ofList] at h
  exact Nat.isDigit_of_mem_toDigits (by decide) (by decide) h

/-! ## Lines -/

/-- A finished line, read backwards, without its line ending. -/
def chomp : List Char → List Char
  | '\r' :: acc => acc.reverse
  | acc => acc.reverse

def linesFrom : List Char → List Char → List (List Char)
  | acc, [] => if acc = [] then [] else [acc.reverse]
  | acc, c :: cs => if c = '\n' then chomp acc :: linesFrom [] cs else linesFrom (c :: acc) cs

/-- `str::lines`: a last line need not be terminated, and a carriage return belongs to the line ending. -/
def lines (s : String) : List String := (linesFrom [] s.toList).map String.ofList

/-- Every line with its terminator. -/
def unlines (ls : List String) : String := ls.foldr (fun l rest => l ++ "\n" ++ rest) ""

/-- A text without line endings. -/
def OneLine (l : String) : Prop := '\n' ∉ l.toList ∧ '\r' ∉ l.toList

instance (l : String) : Decidable (OneLine l) := inferInstanceAs (Decidable (_ ∧ _))

theorem OneLine.append {l m : String} (hl : OneLine l) (hm : OneLine m) : OneLine (l ++ m) := by
  simp only [OneLine, String.toList_append, List.mem_append, not_or]
  exact ⟨⟨hl.1, hm.1⟩, hl.2, hm.2⟩

theorem oneLine_decimal (n : Nat) : OneLine (decimal n) :=
  ⟨fun h => absurd (mem_decimal h) (by decide), fun h => absurd (mem_decimal h) (by decide)⟩

theorem chomp_reverse {l : List Char} (h : '\r' ∉ l) : chomp l.reverse = l := by
  unfold chomp
  split
  · next acc heq => exact absurd (List.mem_reverse.mp (heq ▸ (.head _))) h
  · exact List.reverse_reverse l

/-- Reading one whole line. -/
theorem linesFrom_append {l rest : List Char} (hn : '\n' ∉ l) (acc : List Char) :
    linesFrom acc (l ++ '\n' :: rest) = chomp (l.reverse ++ acc) :: linesFrom [] rest := by
  induction l generalizing acc with
  | nil => simp [linesFrom]
  | cons c l ih =>
    have hc : c ≠ '\n' := fun hc => hn (hc ▸ (.head _))
    have htail := ih (fun h => hn (.tail _ h)) (c :: acc)
    simpa [linesFrom, hc] using htail

/-- **`lines` undoes `unlines`.** -/
theorem lines_unlines {ls : List String} (h : ∀ l ∈ ls, OneLine l) : lines (unlines ls) = ls := by
  induction ls with
  | nil => rfl
  | cons l ls ih =>
    have hl : OneLine l := h l (.head _)
    have htail : lines (unlines ls) = ls := ih fun m hm => h m (.tail _ hm)
    have htext : (unlines (l :: ls)).toList = l.toList ++ '\n' :: (unlines ls).toList := by
      simp [unlines]
    rw [lines, htext, linesFrom_append hl.1, List.append_nil, chomp_reverse hl.2, List.map_cons,
      String.ofList_toList]
    exact congrArg (l :: ·) htail

end Foundation
