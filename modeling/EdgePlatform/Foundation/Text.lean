import EdgePlatform.Foundation.Sha256

/-!
# `EdgePlatform.Foundation.Text` — strings as bytes, hexadecimal text, file-name tests

Strings reach digests and wire messages as their UTF-8 bytes; file names are built from hexadecimal digests
and fixed affixes, and tested by their first and last characters. Hexadecimal text is injective and contains
no dot, which is what keeps families of file names apart.
-/

namespace Foundation

/-! ## UTF-8 -/

def utf8 (s : String) : Bytes := s.toUTF8.data.toList

def ofUtf8 (b : Bytes) : Option String := String.fromUTF8? ⟨b.toArray⟩

@[simp] theorem ofUtf8_utf8 (s : String) : ofUtf8 (utf8 s) = some s := by
  simp [ofUtf8, utf8, String.fromUTF8?, s.isValidUTF8, String.fromUTF8]

theorem utf8_injective : Function.Injective utf8 := fun s t h => by
  have := congrArg ofUtf8 h
  simpa using this

variable {s p : String}

@[simp] theorem utf8_eq_nil : utf8 s = [] ↔ s = "" := by
  refine ⟨fun h => utf8_injective (h.trans ?_), fun h => ?_⟩
  · decide
  · subst h; decide

/-! ## ASCII classes -/

def isAsciiDigit (b : UInt8) : Bool := 48 ≤ b && b ≤ 57
def isAsciiUppercase (b : UInt8) : Bool := 65 ≤ b && b ≤ 90
def isAsciiLowercase (b : UInt8) : Bool := 97 ≤ b && b ≤ 122
def isAsciiAlphanumeric (b : UInt8) : Bool := isAsciiDigit b || isAsciiUppercase b || isAsciiLowercase b

/-- A lower-case hexadecimal digit. -/
def isLowerHex (b : UInt8) : Bool := isAsciiDigit b || (97 ≤ b && b ≤ 102)

/-! ## First and last characters -/

def startsWith (s p : String) : Bool := p.toList.isPrefixOf s.toList

def endsWith (s p : String) : Bool := p.toList.isSuffixOf s.toList

theorem startsWith_iff : startsWith s p = true ↔ p.toList <+: s.toList := List.isPrefixOf_iff_prefix

theorem endsWith_iff : endsWith s p = true ↔ p.toList <:+ s.toList := List.isSuffixOf_iff_suffix

theorem startsWith_append (p s : String) : startsWith (p ++ s) p = true := by
  simp [startsWith_iff]

theorem endsWith_append (s p : String) : endsWith (s ++ p) p = true := by
  simp [endsWith_iff]

/-! ## Hexadecimal text -/

/-- The lower-case digit of a nibble. -/
def hexDigit (n : Nat) : Char := Char.ofNat (if n < 10 then 48 + n else 87 + n)

def hexChars (b : Bytes) : List Char :=
  b.flatMap fun x => [hexDigit (x.toNat / 16), hexDigit (x.toNat % 16)]

/-- The bytes as lower-case hexadecimal text, two digits a byte. -/
def hex (b : Bytes) : String := String.ofList (hexChars b)

@[simp] theorem toList_hex (b : Bytes) : (hex b).toList = hexChars b := by simp [hex]

@[simp] theorem length_hexChars (b : Bytes) : (hexChars b).length = 2 * b.length := by
  induction b with
  | nil => rfl
  | cons x b ih => simp [hexChars] at ih ⊢; omega

theorem hexDigit_ne_dot : ∀ n < 16, hexDigit n ≠ '.' := by decide

theorem dot_not_mem_hexChars (b : Bytes) : '.' ∉ hexChars b := by
  simp only [hexChars, List.mem_flatMap, List.mem_cons, List.not_mem_nil, or_false, not_exists,
    not_and, not_or]
  intro x _
  have hx : x.toNat < 256 := x.toNat_lt
  exact ⟨(hexDigit_ne_dot _ (by omega)).symm, (hexDigit_ne_dot _ (by omega)).symm⟩

theorem hexDigit_injOn : ∀ m < 16, ∀ n < 16, hexDigit m = hexDigit n → m = n := by decide

theorem hexChars_injective : Function.Injective hexChars := by
  intro b
  induction b with
  | nil => intro c h; cases c <;> simp_all [hexChars]
  | cons x b ih =>
    intro c h
    cases c with
    | nil => simp [hexChars] at h
    | cons y c =>
      have hx : x.toNat < 256 := x.toNat_lt
      have hy : y.toNat < 256 := y.toNat_lt
      simp only [hexChars, List.flatMap_cons, List.cons_append, List.nil_append, List.cons.injEq] at h
      obtain ⟨hhi, hlo, hrest⟩ := h
      have h1 := hexDigit_injOn _ (by omega) _ (by omega) hhi
      have h2 := hexDigit_injOn _ (by omega) _ (by omega) hlo
      have hxy : x = y := UInt8.toNat_inj.mp (by omega)
      rw [hxy, ih hrest]

theorem hex_injective : Function.Injective hex := by
  intro b c h
  exact hexChars_injective (by simpa using congrArg String.toList h)

end Foundation
