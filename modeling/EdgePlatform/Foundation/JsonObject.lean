import EdgePlatform.Foundation.Json
import Mathlib.Data.String.Basic

/-!
# `EdgePlatform.Foundation.JsonObject` — objects as ordered maps, and the size of indented text

`object` keeps its members in the order of their keys and the last of several with one key. Looking a key up
does not see the difference between the members as given and as kept (`get_object`), so a lookup in an object
that a program builds is a lookup in the list it was built from. `set` and `update` are insertion and
`get_mut`.

`cost` bounds the bytes of a value's indented text (`length_pretty_le`): a share for every value, which
covers its punctuation and its indentation, and the bytes of its strings and keys as they are quoted.
-/

namespace Foundation

namespace Json

/-! ## Ordered members -/

section Order

variable {key k : String} {v : Json} {ms : List (String × Json)}

/-- Every key once, in ascending order. -/
def Ordered (ms : List (String × Json)) : Prop := ms.Pairwise fun a b => a.1 < b.1

@[simp] theorem get_nil : get key (.obj []) = none := rfl

/-- Of several members with one key the last counts. -/
theorem get_cons : get key (.obj ((k, v) :: ms)) = (get key (.obj ms)).or
    (if k = key then some v else none) := by
  by_cases hk : k = key
  · cases hfind : ms.reverse.find? (fun m => m.1 == key) <;> simp [get, List.find?_append, hfind, hk]
  · cases hfind : ms.reverse.find? (fun m => m.1 == key) <;> simp [get, List.find?_append, hfind, hk]

theorem get_eq_none (h : ∀ m ∈ ms, m.1 ≠ key) : get key (.obj ms) = none := by
  induction ms with
  | nil => rfl
  | cons m ms ih =>
    obtain ⟨k, v⟩ := m
    rw [get_cons, ih fun m hm => h m (.tail _ hm), if_neg (h _ (.head _))]
    rfl

theorem mem_insertMember {m : String × Json} (h : m ∈ insertMember k v ms) : m = (k, v) ∨ m ∈ ms := by
  induction ms with
  | nil => exact .inl (List.mem_singleton.mp h)
  | cons n ns ih =>
    obtain ⟨l, w⟩ := n
    unfold insertMember at h
    split_ifs at h
    · rcases List.mem_cons.mp h with h | h
      · exact .inl h
      · exact .inr (.tail _ h)
    · exact List.mem_cons.mp h
    · rcases List.mem_cons.mp h with h | h
      · exact .inr (h ▸ .head _)
      · exact (ih h).imp_right (.tail _)

theorem ordered_insertMember (h : Ordered ms) : Ordered (insertMember k v ms) := by
  induction ms with
  | nil => exact List.pairwise_singleton _ _
  | cons n ns ih =>
    obtain ⟨l, w⟩ := n
    obtain ⟨hhead, htail⟩ := List.pairwise_cons.mp h
    unfold insertMember
    split_ifs with hsame hlt
    · exact List.pairwise_cons.mpr ⟨fun m hm => hsame ▸ hhead m hm, htail⟩
    · refine List.pairwise_cons.mpr ⟨fun m hm => ?_, h⟩
      rcases List.mem_cons.mp hm with rfl | hm
      · exact hlt
      · exact lt_trans hlt (hhead m hm)
    · refine List.pairwise_cons.mpr ⟨fun m hm => ?_, ih htail⟩
      rcases mem_insertMember hm with rfl | hm
      · exact lt_of_le_of_ne (not_lt.mp hlt) fun h => hsame h.symm
      · exact hhead m hm

theorem get_insertMember (h : Ordered ms) :
    get key (.obj (insertMember k v ms)) = if k = key then some v else get key (.obj ms) := by
  induction ms with
  | nil => simp [insertMember, get_cons]
  | cons n ns ih =>
    obtain ⟨l, w⟩ := n
    obtain ⟨hhead, htail⟩ := List.pairwise_cons.mp h
    have hnone : ∀ key ≤ l, get key (.obj ns) = none := fun key hle =>
      get_eq_none fun m hm => (lt_of_le_of_lt hle (hhead m hm)).ne'
    unfold insertMember
    by_cases hsame : k = l
    · subst hsame
      rw [if_pos rfl, get_cons, get_cons]
      by_cases hkey : k = key
      · simp [← hkey, hnone k le_rfl]
      · simp [hkey]
    · rw [if_neg hsame]
      by_cases hlt : k < l
      · rw [if_pos hlt, get_cons, get_cons]
        by_cases hkey : k = key
        · simp [← hkey, hnone k hlt.le, Ne.symm hsame]
        · simp [hkey]
      · rw [if_neg hlt, get_cons, get_cons, ih htail]
        by_cases hkey : k = key
        · simp [hkey]
        · simp [hkey]

/-- The members inserted so far, and those still to come. -/
theorem get_foldl (h : Ordered ms) (ns : List (String × Json)) :
    get key (.obj (ns.foldl (fun acc m => insertMember m.1 m.2 acc) ms)) =
      (get key (.obj ns)).or (get key (.obj ms)) := by
  induction ns generalizing ms with
  | nil => simp
  | cons n ns ih =>
    obtain ⟨l, w⟩ := n
    rw [List.foldl_cons, ih (ordered_insertMember h), get_insertMember h, get_cons, Option.or_assoc]
    congr 1
    split_ifs <;> simp

/-- An object has no members but those it was built from. -/
theorem exists_members_object (ms : List (String × Json)) :
    ∃ ns, object ms = .obj ns ∧ ∀ m ∈ ns, m ∈ ms := by
  have hfold : ∀ acc, ∀ m ∈ ms.foldl (fun acc m => insertMember m.1 m.2 acc) acc, m ∈ ms ∨ m ∈ acc := by
    induction ms with
    | nil => exact fun acc m hm => .inr hm
    | cons n ms ih =>
      intro acc m hm
      rcases ih _ m hm with hm | hm
      · exact .inl (.tail _ hm)
      · rcases mem_insertMember hm with rfl | hm
        · exact .inl (.head _)
        · exact .inr hm
  refine ⟨_, rfl, fun m hm => ?_⟩
  rcases hfold [] m hm with hm | hm
  · exact hm
  · cases hm

/-- An object holds what it was built from. -/
@[simp] theorem get_object (ms : List (String × Json)) : get key (object ms) = get key (.obj ms) := by
  rw [object, get_foldl List.Pairwise.nil]
  simp

end Order

/-! ## Changing members -/

/-- Insertion of a member; a value that is no object has none. -/
def set (v : Json) (key : String) (value : Json) : Json :=
  match v with
  | .obj ms => object (ms ++ [(key, value)])
  | v => v

/-- A change of a member that is there. -/
def update (v : Json) (key : String) (change : Json → Json) : Json :=
  match get key v with
  | some old => set v key (change old)
  | none => v

/-! ## The size of the text -/

def size (cs : List Char) : Nat := (cs.map Char.utf8Size).sum

@[simp] theorem size_nil : size [] = 0 := rfl

@[simp] theorem size_cons (c : Char) (cs : List Char) :
    size (c :: cs) = c.utf8Size + size cs := by simp [size]

@[simp] theorem size_append (cs ds : List Char) : size (cs ++ ds) = size cs + size ds := by simp [size]

theorem length_utf8_ofList (cs : List Char) : (utf8 (String.ofList cs)).length = size cs := by
  rw [utf8_ofList]
  induction cs with
  | nil => rfl
  | cons c cs ih => simp [ih]

theorem length_utf8 (s : String) : (utf8 s).length = size s.toList := by
  rw [← length_utf8_ofList, String.ofList_toList]

/-- The bytes of a string as it is written. -/
def quoteSize (s : String) : Nat := size (quote s)

/-- The characters that are written as they are, the seven with an escape of their own, the other control
characters. -/
theorem escapeChar_cases (c : Char) :
    (escapeChar c = [c] ∧ 32 ≤ c.toNat) ∨ (∃ d, escapeChar c = ['\\', d] ∧ d.utf8Size = 1) ∨
      (∃ h l, escapeChar c = ['\\', 'u', '0', '0', h, l] ∧ h.utf8Size = 1 ∧ l.utf8Size = 1) := by
  have hdigit : ∀ n < 16, (hexDigit n).utf8Size = 1 := by decide
  unfold escapeChar
  split_ifs
  iterate 7 exact .inr (.inl ⟨_, rfl, rfl⟩)
  · exact .inr (.inr ⟨_, _, rfl, hdigit _ (by omega), hdigit _ (by omega)⟩)
  · exact .inl ⟨rfl, by omega⟩

theorem size_escapeChar (c : Char) : size (escapeChar c) ≤ 6 * c.utf8Size := by
  have hpos : 0 < c.utf8Size := c.utf8Size_pos
  have hslash : Char.utf8Size '\\' = 1 ∧ Char.utf8Size 'u' = 1 ∧ Char.utf8Size '0' = 1 := by decide
  rcases escapeChar_cases c with ⟨h, -⟩ | ⟨d, h, hd⟩ | ⟨d, e, h, hd, he⟩
  · rw [h, size_cons, size_nil]
    omega
  · rw [h, size_cons, size_cons, size_nil, hd, hslash.1]
    omega
  · simp only [h, size_cons, size_nil, hd, he, hslash]
    omega

/-- A character that is no control character is at most doubled. -/
theorem size_escapeChar_le {c : Char} (hc : 32 ≤ c.toNat) : size (escapeChar c) ≤ 2 * c.utf8Size := by
  have hpos : 0 < c.utf8Size := c.utf8Size_pos
  have hslash : Char.utf8Size '\\' = 1 := by decide
  rcases escapeChar_cases c with ⟨h, -⟩ | ⟨d, h, hd⟩ | ⟨d, e, h, hd, he⟩
  · rw [h, size_cons, size_nil]
    omega
  · rw [h, size_cons, size_cons, size_nil, hd, hslash]
    omega
  · exfalso
    unfold escapeChar at h
    split_ifs at h
    all_goals first
      | omega
      | simp at h

theorem size_flatMap_le {k : Nat} {cs : List Char} (h : ∀ c ∈ cs, size (escapeChar c) ≤ k * c.utf8Size) :
    size (cs.flatMap escapeChar) ≤ k * size cs := by
  induction cs with
  | nil => simp
  | cons c cs ih =>
    have hhead := h c (.head _)
    have htail := ih fun d hd => h d (.tail _ hd)
    rw [List.flatMap_cons, size_append, size_cons, Nat.mul_add]
    omega

theorem quoteSize_le_of {k : Nat} {s : String} (h : ∀ c ∈ s.toList, size (escapeChar c) ≤ k * c.utf8Size) :
    quoteSize s ≤ k * (utf8 s).length + 2 := by
  have hmarks : Char.utf8Size '"' = 1 := by decide
  have hbody := size_flatMap_le h
  rw [length_utf8]
  simp only [quoteSize, quote, List.cons_append, size_cons, size_append, size_nil, hmarks]
  omega

theorem quoteSize_le (s : String) : quoteSize s ≤ 6 * (utf8 s).length + 2 :=
  quoteSize_le_of fun c _ => size_escapeChar c

/-- A string without control characters at most doubles. -/
theorem quoteSize_le_double {s : String} (h : ∀ c ∈ s.toList, 32 ≤ c.toNat) :
    quoteSize s ≤ 2 * (utf8 s).length + 2 :=
  quoteSize_le_of fun c hc => size_escapeChar_le (h c hc)

mutual
/-- A bound of the bytes of the text, at a share for every value. -/
def cost (share : Nat) : Json → Nat
  | .str s => share + quoteSize s
  | .float literal => share + size literal.toList
  | .arr items => share + costItems share items
  | .obj members => share + costMembers share members
  | .null | .bool _ | .int _ => share

def costItems (share : Nat) : List Json → Nat
  | [] => 0
  | v :: vs => cost share v + costItems share vs

def costMembers (share : Nat) : List (String × Json) → Nat
  | [] => 0
  | (k, v) :: ms => quoteSize k + cost share v + costMembers share ms
end

mutual
/-- How deeply a value is nested. -/
def height : Json → Nat
  | .arr items => 1 + heightItems items
  | .obj members => 1 + heightMembers members
  | _ => 0

def heightItems : List Json → Nat
  | [] => 0
  | v :: vs => max (height v) (heightItems vs)

def heightMembers : List (String × Json) → Nat
  | [] => 0
  | (_, v) :: ms => max (height v) (heightMembers ms)
end

theorem size_breakLine (level : Nat) : size (breakLine true level) = 1 + 2 * level := by
  have hblank : Char.utf8Size ' ' = 1 ∧ Char.utf8Size '\n' = 1 := by decide
  simp [breakLine, size, hblank]

theorem size_digits {cs : List Char} (h : ∀ c ∈ cs, c.isDigit = true) : size cs = cs.length := by
  induction cs with
  | nil => rfl
  | cons c cs ih =>
    have hc : c.utf8Size = 1 := by
      have hdigit := h c (.head _)
      simp only [Char.isDigit, Bool.and_eq_true, decide_eq_true_eq] at hdigit
      rw [Char.utf8Size_eq_one_iff]
      exact UInt32.le_trans hdigit.2 (by decide)
    rw [size_cons, hc, ih fun d hd => h d (.tail _ hd), List.length_cons, Nat.add_comm]

theorem size_intChars {i : Int} (h : -2 ^ 63 ≤ i ∧ i < 2 ^ 64) : size (intChars i) ≤ 21 := by
  have hdigits : ∀ n < 2 ^ 64, size (Nat.toDigits 10 n) ≤ 20 := by
    intro n hn
    rw [size_digits isDigit_toDigits]
    exact (Nat.length_toDigits_le_iff (by decide) (by decide)).mpr (lt_trans hn (by decide))
  have hminus : Char.utf8Size '-' = 1 := by decide
  unfold intChars
  split_ifs with hneg
  · have hd := hdigits i.natAbs (by omega)
    rw [size_cons, hminus]
    omega
  · have hd := hdigits i.toNat (by omega)
    omega

/-- What the punctuation around one value takes, down to a depth. -/
def shareAt (depth : Nat) : Nat := 6 * depth + 32

theorem size_punctuation : Char.utf8Size '[' = 1 ∧ Char.utf8Size ']' = 1 ∧ Char.utf8Size '\x7b' = 1 ∧
    Char.utf8Size '\x7d' = 1 ∧ Char.utf8Size ',' = 1 ∧ Char.utf8Size ':' = 1 ∧ Char.utf8Size ' ' = 1 := by
  decide

theorem size_colon : size (colon true) = 2 := by decide

mutual
/-- The share of a value also covers the comma, the line break and the colon before it. -/
theorem size_render_le (v : Json) (level depth limit : Nat) (hfits : fits v limit = true)
    (hdepth : height v + level ≤ depth) : size (render true v level) + 2 * level + 4 ≤
    cost (shareAt depth) v := by
  obtain ⟨hopen, hclose, hopen', hclose', -⟩ := size_punctuation
  match v with
  | .null =>
    have htext : size ['n', 'u', 'l', 'l'] = 4 := by decide
    simp only [render, cost, height, shareAt, htext] at hdepth ⊢
    omega
  | .bool true =>
    have htext : size ['t', 'r', 'u', 'e'] = 4 := by decide
    simp only [render, cost, height, shareAt, htext] at hdepth ⊢
    omega
  | .bool false =>
    have htext : size ['f', 'a', 'l', 's', 'e'] = 5 := by decide
    simp only [render, cost, height, shareAt, htext] at hdepth ⊢
    omega
  | .int i =>
    have hrange : -2 ^ 63 ≤ i ∧ i < 2 ^ 64 := by simpa [fits] using hfits
    have htext := size_intChars hrange
    simp only [render, cost, height, shareAt] at hdepth ⊢
    omega
  | .float literal => simp [fits] at hfits
  | .str s =>
    simp only [render, cost, height, shareAt, quoteSize] at hdepth ⊢
    omega
  | .arr [] =>
    simp only [render, cost, costItems, height, shareAt, size_cons, size_nil, hopen, hclose] at hdepth ⊢
    omega
  | .arr (v :: vs) =>
    simp only [fits, fitsItems, Bool.and_eq_true] at hfits
    simp only [height, heightItems] at hdepth
    have hv := size_render_le v (level + 1) depth (limit - 1) hfits.2.1 (by omega)
    have hvs := size_renderItems_le vs (level + 1) depth (limit - 1) hfits.2.2 (by omega)
    simp only [render, cost, costItems, size_cons, size_append, size_nil, size_breakLine, hopen, hclose]
    have hshare : shareAt depth = 6 * depth + 32 := rfl
    omega
  | .obj [] =>
    simp only [render, cost, costMembers, height, shareAt, size_cons, size_nil, hopen', hclose'] at hdepth ⊢
    omega
  | .obj ((k, v) :: ms) =>
    simp only [fits, fitsMembers, Bool.and_eq_true] at hfits
    simp only [height, heightMembers] at hdepth
    have hv := size_render_le v (level + 1) depth (limit - 1) hfits.2.1 (by omega)
    have hms := size_renderMembers_le ms (level + 1) depth (limit - 1) hfits.2.2 (by omega)
    simp only [render, cost, costMembers, size_cons, size_append, size_nil, size_breakLine,
      size_colon, hopen', hclose', quoteSize]
    have hshare : shareAt depth = 6 * depth + 32 := rfl
    omega

theorem size_renderItems_le (vs : List Json) (level depth limit : Nat) (hfits : fitsItems vs limit = true)
    (hdepth : heightItems vs + level ≤ depth) :
    size (renderItems true vs level) ≤ costItems (shareAt depth) vs := by
  obtain ⟨-, -, -, -, hcomma, -⟩ := size_punctuation
  match vs with
  | [] => simp [renderItems]
  | v :: vs =>
    simp only [fitsItems, Bool.and_eq_true] at hfits
    simp only [heightItems] at hdepth
    have hv := size_render_le v level depth limit hfits.1 (by omega)
    have hvs := size_renderItems_le vs level depth limit hfits.2 (by omega)
    simp only [renderItems, costItems, size_cons, size_append, size_breakLine, hcomma]
    omega

theorem size_renderMembers_le (ms : List (String × Json)) (level depth limit : Nat)
    (hfits : fitsMembers ms limit = true) (hdepth : heightMembers ms + level ≤ depth) :
    size (renderMembers true ms level) ≤ costMembers (shareAt depth) ms := by
  obtain ⟨-, -, -, -, hcomma, -⟩ := size_punctuation
  match ms with
  | [] => simp [renderMembers]
  | (k, v) :: ms =>
    simp only [fitsMembers, Bool.and_eq_true] at hfits
    simp only [heightMembers] at hdepth
    have hv := size_render_le v level depth limit hfits.1 (by omega)
    have hms := size_renderMembers_le ms level depth limit hfits.2 (by omega)
    simp only [renderMembers, costMembers, size_cons, size_append, size_breakLine, size_colon,
      hcomma, quoteSize]
    omega
end

/-- The bytes of the indented text of a value. -/
theorem length_pretty_le {v : Json} {depth : Nat} (hfits : fits v 128 = true) (hdepth : height v ≤ depth) :
    (utf8 (pretty v)).length ≤ cost (shareAt depth) v := by
  have h := size_render_le v 0 depth 128 hfits (by omega)
  rw [pretty, length_utf8_ofList]
  omega

/-! ### Values of bounded size -/

mutual
/-- No number outside the range that is kept exactly. -/
def plain : Json → Bool
  | .int i => decide (-2 ^ 63 ≤ i ∧ i < 2 ^ 64)
  | .float _ => false
  | .arr items => plainItems items
  | .obj members => plainMembers members
  | _ => true

def plainItems : List Json → Bool
  | [] => true
  | v :: vs => plain v && plainItems vs

def plainMembers : List (String × Json) → Bool
  | [] => true
  | (_, v) :: ms => plain v && plainMembers ms
end

mutual
/-- A plain value is read back wherever there is room for its depth. -/
theorem fits_of_plain (v : Json) (limit : Nat) (hplain : plain v = true) (hheight : height v < limit) :
    fits v limit = true := by
  match v with
  | .null | .bool _ | .str _ => simp [fits]
  | .int i => simpa [fits, plain] using hplain
  | .float _ => simp [plain] at hplain
  | .arr items =>
    simp only [plain, height] at hplain hheight
    simp only [fits, Bool.and_eq_true, decide_eq_true_eq]
    exact ⟨by omega, fitsItems_of_plain items (limit - 1) hplain (by omega)⟩
  | .obj members =>
    simp only [plain, height] at hplain hheight
    simp only [fits, Bool.and_eq_true, decide_eq_true_eq]
    exact ⟨by omega, fitsMembers_of_plain members (limit - 1) hplain (by omega)⟩

theorem fitsItems_of_plain (vs : List Json) (limit : Nat) (hplain : plainItems vs = true)
    (hheight : heightItems vs < limit) : fitsItems vs limit = true := by
  match vs with
  | [] => rfl
  | v :: vs =>
    simp only [plainItems, heightItems, Bool.and_eq_true] at hplain hheight
    simp only [fitsItems, Bool.and_eq_true]
    exact ⟨fits_of_plain v limit hplain.1 (by omega), fitsItems_of_plain vs limit hplain.2 (by omega)⟩

theorem fitsMembers_of_plain (ms : List (String × Json)) (limit : Nat) (hplain : plainMembers ms = true)
    (hheight : heightMembers ms < limit) : fitsMembers ms limit = true := by
  match ms with
  | [] => rfl
  | (k, v) :: ms =>
    simp only [plainMembers, heightMembers, Bool.and_eq_true] at hplain hheight
    simp only [fitsMembers, Bool.and_eq_true]
    exact ⟨fits_of_plain v limit hplain.1 (by omega), fitsMembers_of_plain ms limit hplain.2 (by omega)⟩
end

/-- A plain value with a bound of its depth and of its cost at a share. -/
structure Sized (share depth bound : Nat) (v : Json) : Prop where
  plain : v.plain = true
  height : v.height ≤ depth
  cost : v.cost share ≤ bound

/-- The same of all items of a list; the bound is for all of them together. -/
structure SizedItems (share depth bound : Nat) (vs : List Json) : Prop where
  plain : plainItems vs = true
  height : heightItems vs ≤ depth
  cost : costItems share vs ≤ bound

structure SizedMembers (share depth bound : Nat) (ms : List (String × Json)) : Prop where
  plain : plainMembers ms = true
  height : heightMembers ms ≤ depth
  cost : costMembers share ms ≤ bound

section Sized

variable {share depth bound bound' : Nat} {v : Json} {vs ws : List Json} {ms : List (String × Json)}

instance : Decidable (Sized share depth bound v) :=
  decidable_of_iff (v.plain = true ∧ v.height ≤ depth ∧ v.cost share ≤ bound)
    ⟨fun h => ⟨h.1, h.2.1, h.2.2⟩, fun h => ⟨h.plain, h.height, h.cost⟩⟩

instance : Decidable (SizedItems share depth bound vs) :=
  decidable_of_iff (plainItems vs = true ∧ heightItems vs ≤ depth ∧ costItems share vs ≤ bound)
    ⟨fun h => ⟨h.1, h.2.1, h.2.2⟩, fun h => ⟨h.plain, h.height, h.cost⟩⟩

/-- The text of a sized value is no longer than its bound and is read back as the value. -/
theorem Sized.reads_back (h : Sized (shareAt depth) depth bound v) (hdepth : depth < 128) :
    parseBytes (utf8 (pretty v)) = some v ∧ (utf8 (pretty v)).length ≤ bound := by
  have hfits := fits_of_plain v 128 h.plain (lt_of_le_of_lt h.height hdepth)
  exact ⟨parseBytes_pretty v hfits, (length_pretty_le hfits h.height).trans h.cost⟩

theorem Sized.mono (h : Sized share depth bound v) (hle : bound ≤ bound') : Sized share depth bound' v :=
  ⟨h.plain, h.height, h.cost.trans hle⟩

theorem SizedItems.mono (h : SizedItems share depth bound vs) (hle : bound ≤ bound') :
    SizedItems share depth bound' vs := ⟨h.plain, h.height, h.cost.trans hle⟩

theorem Sized.str {s : String} (h : quoteSize s ≤ bound) : Sized share depth (share + bound) (.str s) :=
  ⟨rfl, Nat.zero_le _, Nat.add_le_add_left h share⟩

theorem Sized.bool (b : Bool) : Sized share depth share (.bool b) := ⟨rfl, Nat.zero_le _, le_rfl⟩

theorem Sized.nat {n : Nat} (h : n < 2 ^ 64) : Sized share depth share (.int n) := by
  refine ⟨?_, Nat.zero_le _, le_rfl⟩
  simp only [Json.plain, decide_eq_true_eq]
  omega

theorem Sized.arr (h : SizedItems share depth bound vs) :
    Sized share (depth + 1) (share + bound) (.arr vs) := by
  refine ⟨h.plain, ?_, Nat.add_le_add_left h.cost share⟩
  have hheight := h.height
  simp only [Json.height]
  omega

theorem Sized.obj (h : SizedMembers share depth bound ms) :
    Sized share (depth + 1) (share + bound) (.obj ms) := by
  refine ⟨h.plain, ?_, Nat.add_le_add_left h.cost share⟩
  have hheight := h.height
  simp only [Json.height]
  omega

theorem SizedMembers.nil : SizedMembers share depth 0 [] := ⟨rfl, Nat.zero_le _, le_rfl⟩

theorem SizedMembers.cons {k : String} (h : Sized share depth bound v)
    (hs : SizedMembers share depth bound' ms) :
    SizedMembers share depth (quoteSize k + bound + bound') ((k, v) :: ms) where
  plain := by simp [plainMembers, h.plain, hs.plain]
  height := max_le h.height hs.height
  cost := Nat.add_le_add (Nat.add_le_add_left h.cost _) hs.cost

theorem SizedItems.nil : SizedItems share depth 0 [] := ⟨rfl, Nat.zero_le _, le_rfl⟩

theorem SizedItems.cons (h : Sized share depth bound v) (hs : SizedItems share depth bound' vs) :
    SizedItems share depth (bound + bound') (v :: vs) where
  plain := by simp [plainItems, h.plain, hs.plain]
  height := max_le h.height hs.height
  cost := Nat.add_le_add h.cost hs.cost

theorem SizedItems.append (h : SizedItems share depth bound vs) (hs : SizedItems share depth bound' ws) :
    SizedItems share depth (bound + bound') (vs ++ ws) := by
  obtain ⟨hplain, hheight, hcost⟩ := h
  induction vs generalizing bound with
  | nil => exact ⟨hs.plain, hs.height, hs.cost.trans (Nat.le_add_left _ _)⟩
  | cons v vs ih =>
    simp only [plainItems, heightItems, costItems, Bool.and_eq_true, max_le_iff] at hplain hheight hcost
    have htail := ih hplain.2 hheight.2 le_rfl
    refine ⟨by simp [plainItems, hplain.1, htail.plain], max_le hheight.1 htail.height, ?_⟩
    have hsum := htail.cost
    simp only [List.cons_append, costItems]
    omega

/-- Items with one bound for each. -/
theorem SizedItems.of_forall (h : ∀ v ∈ vs, Sized share depth bound v) :
    SizedItems share depth (bound * vs.length) vs := by
  induction vs with
  | nil => exact .nil
  | cons v vs ih =>
    have htail := ih fun w hw => h w (.tail _ hw)
    rw [List.length_cons, Nat.mul_succ, Nat.add_comm]
    exact .cons (h v (.head _)) htail

end Sized

end Json

end Foundation
