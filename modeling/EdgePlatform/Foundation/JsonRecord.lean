import EdgePlatform.Foundation.Json

/-!
# `EdgePlatform.Foundation.JsonRecord` — records as JSON text

A `JsonCodec` writes a type as a JSON value and reads it back; a record is written as an object with its
fields in the order of their declaration and read with unknown, repeated and missing fields refused. The text
of a record is read back as the record, and it contains a character such as `<` only if one of its strings
does (`not_mem_text`).
-/

namespace Foundation

namespace Json

/-! ## Records -/

/-- The members of a record are found by name, also behind members with other names. -/
theorem mapM_lookup_zip {names : List String} {values : List Json} (hnodup : names.Nodup)
    (hlength : values.length = names.length) (before : List (String × Json))
    (hbefore : ∀ n ∈ names, before.lookup n = none) :
    names.mapM (fun n => (before ++ names.zip values).lookup n) = some values := by
  induction names generalizing values before with
  | nil =>
    cases values with
    | nil => rfl
    | cons v vs => cases hlength
  | cons n names ih =>
    cases values with
    | nil => cases hlength
    | cons v vs =>
      rw [List.nodup_cons] at hnodup
      have hhead : (before ++ (n :: names).zip (v :: vs)).lookup n = some v := by
        rw [List.lookup_append, hbefore n (.head _), List.zip_cons_cons, List.lookup_cons_self,
          Option.none_or]
      -- the rest is found behind the first member as well
      have hskip : ∀ m ∈ names, (before ++ [(n, v)]).lookup m = none := by
        intro m hm
        have hne : m ≠ n := fun h => hnodup.1 (h ▸ hm)
        rw [List.lookup_append, hbefore m (.tail _ hm), Option.none_or, List.lookup_cons,
          beq_false_of_ne hne]
        rfl
      have hrest := ih hnodup.2 (by simpa using hlength) _ hskip
      rw [List.append_assoc, List.singleton_append] at hrest
      rw [List.mapM_cons, hhead, List.zip_cons_cons, hrest]
      rfl

/-- An object with the fields of a record is read as the record. -/
theorem fields_zip {names : List String} {values : List Json} (hnodup : names.Nodup)
    (hlength : values.length = names.length) : fields names (.obj (names.zip values)) = some values := by
  have hkeys : (names.zip values).map (·.1) = names := by
    rw [List.map_fst_zip]
    omega
  have hknown : ∀ m ∈ names.zip values, m.1 ∈ names := by
    intro m hm
    rw [← hkeys]
    exact List.mem_map_of_mem hm
  have hall : ((names.zip values).map (·.1)).Nodup ∧ ∀ m ∈ names.zip values, m.1 ∈ names := by
    refine ⟨?_, hknown⟩
    rw [hkeys]
    exact hnodup
  rw [fields, if_pos hall]
  exact mapM_lookup_zip hnodup hlength [] fun _ _ => rfl

end Json

/-- A type with its JSON form. -/
structure JsonCodec (α : Type) where
  toJson : α → Json
  ofJson : Json → Option α
  /-- The levels it needs. -/
  depth : Nat
  read : ∀ a, ofJson (toJson a) = some a
  fits : ∀ a d, depth ≤ d → (toJson a).fits d = true

namespace JsonCodec

variable {α : Type}

def string : JsonCodec String := ⟨.str, Json.asStr, 0, fun _ => rfl, fun _ _ _ => rfl⟩

def bool : JsonCodec Bool := ⟨.bool, Json.asBool, 0, fun _ => rfl, fun _ _ _ => rfl⟩

theorem fits_ofU64 (n : UInt64) (d : Nat) : (Json.ofU64 n).fits d = true := by
  have hn := n.toNat_lt
  simp only [Json.ofU64, Json.fits, decide_eq_true_eq]
  omega

def u64 : JsonCodec UInt64 where
  toJson := Json.ofU64
  ofJson := Json.asU64
  depth := 0
  read := Json.asU64_ofU64
  fits n d _ := fits_ofU64 n d

/-- The text of a value. -/
def text (c : JsonCodec α) (a : α) : String := (c.toJson a).compact

/-- `serde_json::from_str`. -/
def ofText (c : JsonCodec α) (t : String) : Option α := (Json.parse t).bind c.ofJson

theorem ofText_text (c : JsonCodec α) (hdepth : c.depth ≤ 128) (a : α) : c.ofText (c.text a) = some a := by
  rw [ofText, text, Json.parse_compact _ (c.fits a 128 hdepth), Option.bind_some, c.read]

end JsonCodec

/-- The fields of a record, in the order of their declaration. -/
structure RecordCodec (α : Type) where
  names : List String
  write : α → List Json
  read : List Json → Option α
  depth : Nat
  nodup : names.Nodup
  length_write : ∀ a, (write a).length = names.length
  read_write : ∀ a, read (write a) = some a
  fits : ∀ a d, depth ≤ d → ∀ v ∈ write a, v.fits d = true

namespace RecordCodec

variable {α : Type}

def nil : RecordCodec Unit where
  names := []
  write _ := []
  read
    | [] => some ()
    | _ => none
  depth := 0
  nodup := List.nodup_nil
  length_write _ := rfl
  read_write _ := rfl
  fits _ _ _ _ hv := nomatch hv

def cons (name : String) (c : JsonCodec α) (rest : RecordCodec β) (hname : name ∉ rest.names := by decide) :
    RecordCodec (α × β) where
  names := name :: rest.names
  write a := c.toJson a.1 :: rest.write a.2
  read
    | v :: vs => (c.ofJson v).bind fun a => (rest.read vs).map fun b => (a, b)
    | [] => none
  depth := max c.depth rest.depth
  nodup := List.nodup_cons.mpr ⟨hname, rest.nodup⟩
  length_write a := by simp [rest.length_write]
  read_write a := by simp [c.read, rest.read_write]
  fits a d hd v hv := by
    rcases List.mem_cons.mp hv with rfl | hv
    · exact c.fits a.1 d (by omega)
    · exact rest.fits a.2 d (by omega) v hv

/-- The fields of a structure. -/
def shape (c : RecordCodec β) (parts : α → β) (build : β → α)
    (h : ∀ a, build (parts a) = a) : RecordCodec α where
  names := c.names
  write a := c.write (parts a)
  read vs := (c.read vs).map build
  depth := c.depth
  nodup := c.nodup
  length_write a := c.length_write (parts a)
  read_write a := by rw [c.read_write, Option.map_some, h]
  fits a := c.fits (parts a)

theorem fitsMembers_zip {names : List String} {values : List Json} {d : Nat}
    (h : ∀ v ∈ values, v.fits d = true) :
    Json.fitsMembers (names.zip values) d = true := by
  induction names generalizing values with
  | nil => rfl
  | cons n names ih =>
    cases values with
    | nil => rfl
    | cons v vs =>
      rw [List.zip_cons_cons, Json.fitsMembers, h v (.head _),
        ih fun w hw => h w (.tail _ hw), Bool.and_self]

/-- The record as a value. -/
def codec (c : RecordCodec α) : JsonCodec α where
  toJson a := .obj (c.names.zip (c.write a))
  ofJson v := (Json.fields c.names v).bind c.read
  depth := c.depth + 2
  read a := by rw [Json.fields_zip c.nodup (c.length_write a), Option.bind_some, c.read_write]
  fits a d hd := by
    have hmembers : Json.fitsMembers (c.names.zip (c.write a)) (d - 1) = true :=
      fitsMembers_zip (c.fits a (d - 1) (by omega))
    simp only [Json.fits, hmembers, Bool.and_true, decide_eq_true_eq]
    omega

end RecordCodec

/-! ## Characters of the text -/

namespace Json

/-- The characters of the notation itself. -/
def punctuation : List Char :=
  ['"', '\\', '[', ']', '\x7b', '\x7d', ',', ':', ' ', '\n', '-', 'n', 'u', 'l', 't', 'r', 'e', 'f',
    'a', 's', 'b', 'c', 'd', '0', '1', '2', '3', '4', '5', '6', '7', '8', '9']

mutual
/-- No string, key or literal of the value contains `c`. -/
def avoids (c : Char) : Json → Bool
  | .str s => ! s.toList.contains c
  | .float literal => ! literal.toList.contains c
  | .arr items => avoidsItems c items
  | .obj members => avoidsMembers c members
  | _ => true

def avoidsItems (c : Char) : List Json → Bool
  | [] => true
  | v :: vs => avoids c v && avoidsItems c vs

def avoidsMembers (c : Char) : List (String × Json) → Bool
  | [] => true
  | (k, v) :: ms => ! k.toList.contains c && avoids c v && avoidsMembers c ms
end

theorem hexDigit_punctuation : ∀ n < 16, hexDigit n ∈ punctuation := by decide

theorem digitChar_punctuation : ∀ n < 10, Nat.digitChar n ∈ punctuation := by decide

variable {c x : Char}

theorem mem_escapeChar (h : c ∈ escapeChar x) : c = x ∨ c ∈ punctuation := by
  have hpair : ∀ y ∈ punctuation, c ∈ ['\\', y] → c ∈ punctuation := by
    intro y hy hmem
    rcases List.mem_pair.mp hmem with rfl | rfl
    · decide
    · exact hy
  unfold escapeChar at h
  split_ifs at h
  iterate 7 exact .inr (hpair _ (by decide) h)
  · -- the two digits of the escape are hexadecimal
    have hhi := hexDigit_punctuation (x.toNat / 16) (by omega)
    have hlo := hexDigit_punctuation (x.toNat % 16) (by omega)
    have hall : ∀ y ∈ ['\\', 'u', '0', '0', hexDigit (x.toNat / 16), hexDigit (x.toNat % 16)], y ∈
        punctuation := by
      simp only [List.forall_mem_cons, List.not_mem_nil, false_imp_iff, implies_true, and_true]
      exact ⟨by decide, by decide, by decide, by decide, hhi, hlo⟩
    exact .inr (hall c h)
  · exact .inl (List.mem_singleton.mp h)

section

variable (hc : c ∉ punctuation)
include hc

theorem mem_quote {s : String} (hs : s.toList.contains c = false) : c ∉ quote s := by
  intro h
  have hquote : c ≠ '"' := by
    rintro rfl
    exact hc (by decide)
  simp only [quote, List.mem_append, List.mem_cons, List.mem_flatMap, hquote, List.not_mem_nil, or_false,
    false_or] at h
  obtain ⟨x, hx, hmem⟩ := h
  rcases mem_escapeChar hmem with rfl | hpunct
  · simp [hx] at hs
  · exact hc hpunct

theorem mem_breakLine {p : Bool} {level : Nat} : c ∉ breakLine p level := by
  intro h
  unfold breakLine at h
  split_ifs at h
  · rcases List.mem_cons.mp h with rfl | h
    · exact hc (by decide)
    · rw [List.eq_of_mem_replicate h] at hc
      exact hc (by decide)
  · cases h

theorem mem_colon {p : Bool} : c ∉ colon p := by
  intro h
  have hsub : c ∈ punctuation := by
    cases p <;> simp only [colon, Bool.false_eq_true, if_false, if_true, List.mem_cons, List.not_mem_nil,
      or_false] at h
    · rw [h]
      decide
    · rcases h with rfl | rfl <;> decide
  exact hc hsub

theorem mem_intChars {i : Int} : c ∉ intChars i := by
  have hdigits : ∀ n, c ∉ Nat.toDigits 10 n := by
    intro n
    induction n using Nat.strongRecOn with
    | ind n ih =>
      by_cases hlt : n < 10
      · rw [Nat.toDigits_of_lt_base hlt, List.mem_singleton]
        rintro rfl
        exact hc (digitChar_punctuation n hlt)
      · rw [Nat.toDigits_of_base_le (by decide) (by omega), List.mem_append, List.mem_singleton]
        rintro (h | rfl)
        · exact ih (n / 10) (by omega) h
        · exact hc (digitChar_punctuation (n % 10) (by omega))
  unfold intChars
  split_ifs
  · rw [List.mem_cons]
    rintro (rfl | h)
    · exact hc (by decide)
    · exact hdigits _ h
  · exact hdigits _

theorem ne_of_not_punct (hx : x ∈ punctuation) : c ≠ x := by
  rintro rfl
  exact hc hx

end

mutual
/-- A character that is not of the notation stands in the text only inside a string, a key or a literal. -/
theorem not_mem_render {c : Char} {p : Bool} (hc : c ∉ punctuation) (v : Json) (level : Nat)
    (h : v.avoids c = true) : c ∉ render p v level := by
  match v with
  | .null =>
    have hall : ∀ x ∈ ['n', 'u', 'l', 'l'], x ∈ punctuation := by simp [punctuation]
    exact fun hmem => hc (hall c hmem)
  | .bool true =>
    have hall : ∀ x ∈ ['t', 'r', 'u', 'e'], x ∈ punctuation := by simp [punctuation]
    exact fun hmem => hc (hall c hmem)
  | .bool false =>
    have hall : ∀ x ∈ ['f', 'a', 'l', 's', 'e'], x ∈ punctuation := by simp [punctuation]
    exact fun hmem => hc (hall c hmem)
  | .int i =>
    exact mem_intChars hc
  | .float literal =>
    rw [render]
    simpa [avoids] using h
  | .str s =>
    exact mem_quote hc (by simpa [avoids] using h)
  | .arr [] =>
    have hne := fun x hx => ne_of_not_punct (x := x) hc hx
    simp [render, hne '[' (by decide), hne ']' (by decide)]
  | .arr (v :: vs) =>
    simp only [avoids, avoidsItems, Bool.and_eq_true] at h
    have hv := not_mem_render (p := p) hc v (level + 1) h.1
    have hvs := not_mem_renderItems (p := p) hc vs (level + 1) h.2
    have hne := fun x hx => ne_of_not_punct (x := x) hc hx
    simp [render, hv, hvs, mem_breakLine hc, hne '[' (by decide), hne ']' (by decide)]
  | .obj [] =>
    have hne := fun x hx => ne_of_not_punct (x := x) hc hx
    simp [render, hne '\x7b' (by decide), hne '\x7d' (by decide)]
  | .obj ((k, v) :: ms) =>
    simp only [avoids, avoidsMembers, Bool.and_eq_true, Bool.not_eq_true'] at h
    have hk := mem_quote hc h.1.1
    have hv := not_mem_render (p := p) hc v (level + 1) h.1.2
    have hms := not_mem_renderMembers (p := p) hc ms (level + 1) h.2
    have hne := fun x hx => ne_of_not_punct (x := x) hc hx
    simp [render, hk, hv, hms, mem_breakLine hc, mem_colon hc, hne '\x7b' (by decide),
      hne '\x7d' (by decide)]

theorem not_mem_renderItems {c : Char} {p : Bool} (hc : c ∉ punctuation) (vs : List Json) (level : Nat)
    (h : avoidsItems c vs = true) : c ∉ renderItems p vs level := by
  match vs with
  | [] => simp [renderItems]
  | v :: vs =>
    simp only [avoidsItems, Bool.and_eq_true] at h
    have hv := not_mem_render (p := p) hc v level h.1
    have hvs := not_mem_renderItems (p := p) hc vs level h.2
    simp [renderItems, hv, hvs, mem_breakLine hc, ne_of_not_punct (x := ',') hc (by decide)]

theorem not_mem_renderMembers {c : Char} {p : Bool} (hc : c ∉ punctuation) (ms : List (String × Json))
    (level : Nat) (h : avoidsMembers c ms = true) : c ∉ renderMembers p ms level := by
  match ms with
  | [] => simp [renderMembers]
  | (k, v) :: ms =>
    simp only [avoidsMembers, Bool.and_eq_true, Bool.not_eq_true'] at h
    have hk := mem_quote hc h.1.1
    have hv := not_mem_render (p := p) hc v level h.1.2
    have hms := not_mem_renderMembers (p := p) hc ms level h.2
    simp [renderMembers, hk, hv, hms, mem_breakLine hc, mem_colon hc,
      ne_of_not_punct (x := ',') hc (by decide)]
end

theorem avoidsMembers_zip {c : Char} {names : List String} {values : List Json}
    (hnames : ∀ n ∈ names, n.toList.contains c = false) (hvalues : ∀ v ∈ values, v.avoids c = true) :
    avoidsMembers c (names.zip values) = true := by
  induction names generalizing values with
  | nil => rfl
  | cons n names ih =>
    cases values with
    | nil => rfl
    | cons v vs =>
      rw [List.forall_mem_cons] at hnames hvalues
      rw [List.zip_cons_cons, avoidsMembers, hnames.1, hvalues.1, ih hnames.2 hvalues.2]
      rfl

end Json

theorem RecordCodec.not_mem_text {α : Type} (c : RecordCodec α) {x : Char} {a : α}
    (hx : x ∉ Json.punctuation) (hnames : ∀ n ∈ c.names, n.toList.contains x = false)
    (hvalues : ∀ v ∈ c.write a, v.avoids x = true) :
    x ∉ (c.codec.text a).toList := by
  rw [JsonCodec.text, Json.compact, String.toList_ofList]
  exact Json.not_mem_render hx _ 0 (Json.avoidsMembers_zip hnames hvalues)

end Foundation
