import EdgePlatform.Foundation.JsonRecord
import EdgePlatform.Foundation.Proc

/-!
# `EdgePlatform.Foundation.Comments` — a list of comments as JSON text

Marked comments are found by their first line and carry a record behind it. Here are the text operations
readers of such comments use (`trim`, `splitOnce`), the two ways a row of a JSON array of comments is
decoded, and the relation `Reads` between a text and the bodies of its comments.

A marker begins with a character that occurs nowhere else in a marked comment, so a comment contains a marker
only at its beginning (`contains_eq_startsWith`).
-/

namespace Foundation

/-! ## Text -/

/-- `char::is_whitespace`. -/
def isWhitespace (c : Char) : Bool :=
  let n := c.toNat
  (9 ≤ n && n ≤ 13) || n == 0x20 || n == 0x85 || n == 0xA0 || n == 0x1680 || (0x2000 ≤ n && n ≤ 0x200A) ||
    n == 0x2028 || n == 0x2029 || n == 0x202F || n == 0x205F || n == 0x3000

theorem not_isWhitespace_of_isAlphanum {c : Char} (h : c.isAlphanum = true) : isWhitespace c = false := by
  have hc : c.toNat = c.val.toNat := rfl
  delta Char.isAlphanum Char.isAlpha Char.isUpper Char.isLower Char.isDigit at h
  simp only [Bool.or_eq_true, Bool.and_eq_true, decide_eq_true_eq, UInt32.le_iff_toNat_le, ge_iff_le,
    Char.reduceVal, UInt32.reduceToNat] at h
  simp only [isWhitespace, Bool.or_eq_false_iff, Bool.and_eq_false_iff, decide_eq_false_iff_not,
    beq_eq_false_iff_ne]
  omega

/-- `str::trim`. -/
def trim (s : String) : String :=
  String.ofList ((s.toList.dropWhile isWhitespace).reverse.dropWhile isWhitespace).reverse

theorem mem_dropWhile {α : Type} {p : α → Bool} {x : α} {l : List α} (hx : x ∈ l) (hp : p x = false) :
    x ∈ l.dropWhile p := by
  induction l with
  | nil => cases hx
  | cons y l ih =>
    rw [List.dropWhile_cons]
    by_cases hy : p y = true
    · rw [if_pos hy]
      rcases List.mem_cons.mp hx with rfl | hx
      · rw [hp] at hy
        cases hy
      · exact ih hx
    · rw [if_neg hy]
      exact hx

variable {s p t b : String} {bodies : List String}

/-- A text with a visible character is not blank. -/
theorem trim_ne_empty {c : Char} (hc : c ∈ s.toList) (hvisible : isWhitespace c = false) : trim s ≠ "" := by
  intro h
  have hmem := mem_dropWhile (List.mem_reverse.mpr (mem_dropWhile hc hvisible)) hvisible
  have hnil := congrArg String.toList h
  rw [trim, String.toList_ofList, String.toList_empty, List.reverse_eq_nil_iff] at hnil
  rw [hnil] at hmem
  cases hmem

/-- `str::split_once` at a character. -/
def splitOnce (s : String) (c : Char) : Option (String × String) :=
  if c ∈ s.toList then
    some (String.ofList (s.toList.takeWhile (· != c)), String.ofList ((s.toList.dropWhile (· != c)).drop 1))
  else none

/-- A text is split at the first occurrence of the character. -/
theorem splitOnce_eq_some {c : Char} :
    splitOnce s c = some (p, t) ↔ s.toList = p.toList ++ c :: t.toList ∧ c ∉ p.toList := by
  constructor
  · intro h
    unfold splitOnce at h
    split_ifs at h with hmem
    simp only [Option.some.injEq, Prod.mk.injEq] at h
    obtain ⟨rfl, rfl⟩ := h
    have hsplit := List.takeWhile_append_dropWhile (p := (· != c)) (l := s.toList)
    -- what is left begins with the separator
    have hhead : s.toList.dropWhile (· != c) = c :: (s.toList.dropWhile (· != c)).drop 1 := by
      cases hrest : s.toList.dropWhile (· != c) with
      | nil =>
        have hin := mem_dropWhile hmem (p := (· != c)) (by simp)
        rw [hrest] at hin
        cases hin
      | cons x rest =>
        have hx := List.head_dropWhile_not (p := (· != c)) (l := s.toList) (by simp [hrest])
        simp only [hrest, List.head_cons, bne_eq_false_iff_eq] at hx
        rw [hx, List.drop_one, List.tail_cons]
    rw [String.toList_ofList, String.toList_ofList, ← hhead, hsplit]
    refine ⟨rfl, fun hin => ?_⟩
    simpa using List.all_eq_true.mp List.all_takeWhile c hin
  · rintro ⟨htext, hp⟩
    have hne : ∀ x ∈ p.toList, (x != c) = true := by
      intro x hx
      rw [bne_iff_ne]
      rintro rfl
      exact hp hx
    rw [splitOnce, htext, if_pos (by simp), List.takeWhile_append_of_pos hne,
      List.dropWhile_append_of_pos hne]
    simp

/-- A first line is split off. -/
theorem splitOnce_line (hp : '\n' ∉ p.toList) : splitOnce (p ++ "\n" ++ t) '\n' = some (p, t) :=
  splitOnce_eq_some.mpr ⟨by simp, hp⟩

theorem eq_of_splitOnce (h : splitOnce s '\n' = some (p, t)) : s = p ++ "\n" ++ t := by
  apply String.toList_inj.mp
  rw [(splitOnce_eq_some.mp h).1]
  simp

/-- A part that begins with a character found only in front is found only in front. -/
theorem contains_eq_startsWith {f : String} {c : Char} {fs rest : List Char} (hf : f.toList = c :: fs)
    (hs : s.toList = c :: rest) (hrest : c ∉ rest) : contains s f = startsWith s f := by
  rw [Bool.eq_iff_iff, contains_iff, startsWith_iff]
  constructor
  · rintro ⟨before, after, h⟩
    cases before with
    | nil => exact ⟨after, h⟩
    | cons x before =>
      rw [hs, hf, List.cons_append, List.cons_append, List.cons.injEq] at h
      have hmem : c ∈ rest := by
        rw [← h.2]
        simp
      exact absurd hmem hrest
  · exact List.IsPrefix.isInfix

/-! ## Marked comments -/

/-- Refuse a blank body, where `blank` names an error for it. -/
def refuseBlank (blank : Option String) (body : String) : Except String Unit :=
  match blank with
  | some e => rejectIf (trim body = "") e
  | none => .ok ()

variable {body : String}

theorem refuseBlank_eq_ok {blank : Option String} {u : Unit} :
    refuseBlank blank body = .ok u ↔ (blank ≠ none → trim body ≠ "") := by
  cases blank with
  | none => simp [refuseBlank]
  | some e => simp [refuseBlank]

/-- The bodies that contain the marker of a family, in order; blank bodies and marked bodies that are not
    `wellMarked` are refused. -/
def collect (blank : Option String) (family : String) (wellMarked : String → Bool) (displaced : String) :
    List String → Except String (List String)
  | [] => .ok []
  | body :: rest => do
      refuseBlank blank body
      if contains body family then
        rejectIf (wellMarked body = false) displaced
        let found ← collect blank family wellMarked displaced rest
        pure (body :: found)
      else collect blank family wellMarked displaced rest

/-- The bodies with the marker of a family. -/
def marked (family : String) (bodies : List String) : List String := bodies.filter fun b => contains b family

/-- No body is blank. -/
def NoBlank (bodies : List String) : Prop := ∀ b ∈ bodies, trim b ≠ ""

theorem mem_marked {family : String} :
    b ∈ marked family bodies ↔ b ∈ bodies ∧ contains b family = true := List.mem_filter

theorem marked_snoc (family : String) (bodies : List String) (b : String) :
    marked family (bodies ++ [b]) = marked family bodies ++ if contains b family then [b] else [] := by
  by_cases hb : contains b family = true
  · simp [marked, List.filter_append, hb]
  · simp [marked, List.filter_append, hb]

theorem noBlank_snoc (h : NoBlank bodies) (hb : trim b ≠ "") :
    NoBlank (bodies ++ [b]) := by
  intro x hx
  rcases List.mem_append.mp hx with hx | hx
  · exact h x hx
  · rw [List.mem_singleton.mp hx]
    exact hb

theorem collect_eq_ok {blank : Option String} {family displaced : String} {wellMarked : String → Bool}
    {found : List String} :
    collect blank family wellMarked displaced bodies = .ok found ↔
      (blank ≠ none → NoBlank bodies) ∧ (∀ b ∈ marked family bodies, wellMarked b = true) ∧
        found = marked family bodies := by
  induction bodies generalizing found with
  | nil =>
    simp only [collect, Except.ok.injEq, NoBlank, marked, List.filter_nil]
    constructor
    · rintro rfl
      exact ⟨fun _ b hb => (nomatch hb), fun b hb => (nomatch hb), rfl⟩
    · rintro ⟨-, -, rfl⟩
      rfl
  | cons body rest ih =>
    rw [collect, Except.bind_eq_ok]
    by_cases hmark : contains body family = true
    · simp only [refuseBlank_eq_ok, hmark, if_true, ok_iff, ih, marked, List.filter_cons_of_pos,
        List.forall_mem_cons, NoBlank, pure_eq_ok, exists_const, Bool.not_eq_false]
      constructor
      · rintro ⟨hblank, hwell, found', ⟨hrest, hwells, rfl⟩, rfl⟩
        exact ⟨fun h => ⟨hblank h, hrest h⟩, ⟨hwell, hwells⟩, rfl⟩
      · rintro ⟨hblank, ⟨hwell, hwells⟩, rfl⟩
        exact ⟨fun h => (hblank h).1, hwell, _, ⟨fun h => (hblank h).2, hwells, rfl⟩, rfl⟩
    · simp only [refuseBlank_eq_ok, hmark, if_false, ih, marked, List.filter_cons_of_neg, not_false_eq_true,
        List.forall_mem_cons, NoBlank, exists_const, Bool.false_eq_true]
      constructor
      · rintro ⟨hblank, hrest, hwells, hfound⟩
        exact ⟨fun h => ⟨hblank h, hrest h⟩, hwells, hfound⟩
      · rintro ⟨hblank, hwells, hfound⟩
        exact ⟨fun h => (hblank h).1, fun h => (hblank h).2, hwells, hfound⟩

/-- A marker begins with `<` and has no other. -/
def IsMarker (m : String) : Prop := m.toList.head? = some '<' ∧ '<' ∉ m.toList.tail

instance (m : String) : Decidable (IsMarker m) := inferInstanceAs (Decidable (_ ∧ _))

/-- The comment has the marker on its first line and behind it a record without `<`. -/
def Marks (m c : String) : Prop := IsMarker m ∧ ∃ record, c = m ++ "\n" ++ record ∧ '<' ∉ record.toList

/-- A comment with marker `m` is not in the family: the markers differ before either ends. -/
def Apart (m family : String) : Prop :=
  family.toList.head? = some '<' ∧ startsWith m family = false ∧ startsWith family m = false

instance (m family : String) : Decidable (Apart m family) := inferInstanceAs (Decidable (_ ∧ _ ∧ _))

section Marks

variable {m c family : String}

section

variable (h : Marks m c)
include h

theorem Marks.startsWith : startsWith c m = true := by
  obtain ⟨-, record, rfl, -⟩ := h
  rw [String.append_assoc]
  exact startsWith_append _ _

theorem Marks.contains (hfamily : Foundation.startsWith m family = true) : contains c family = true := by
  apply contains_of_startsWith
  have hm := startsWith_iff.mp h.startsWith
  exact startsWith_iff.mpr ((startsWith_iff.mp hfamily).trans hm)

/-- A marked comment contains no marker but its own. -/
theorem Marks.not_contains (hapart : Apart m family) : Foundation.contains c family = false := by
  have hm := startsWith_iff.mp h.startsWith
  obtain ⟨⟨hhead, htail⟩, record, rfl, hrecord⟩ := h
  obtain ⟨hfamily, hne, hne'⟩ := hapart
  obtain ⟨tl, htl⟩ := List.head?_eq_some_iff.mp hhead
  obtain ⟨fs, hfs⟩ := List.head?_eq_some_iff.mp hfamily
  rw [htl, List.tail_cons] at htail
  have htext : (m ++ "\n" ++ record).toList = '<' :: (tl ++ '\n' :: record.toList) := by simp [htl]
  have hrest : '<' ∉ tl ++ '\n' :: record.toList := by simp [htail, hrecord]
  rw [contains_eq_startsWith hfs htext hrest, Bool.eq_false_iff]
  intro hstarts
  -- two first parts of one text: one is a first part of the other
  rcases List.prefix_or_prefix_of_prefix (startsWith_iff.mp hstarts) hm with hbefore | hbefore
  · rw [startsWith_iff.mpr hbefore] at hne
    cases hne
  · rw [startsWith_iff.mpr hbefore] at hne'
    cases hne'

theorem Marks.not_startsWith (hapart : Apart m family) : Foundation.startsWith c family = false := by
  rw [Bool.eq_false_iff]
  intro hstarts
  have hcontains := contains_of_startsWith hstarts
  rw [h.not_contains hapart] at hcontains
  cases hcontains

theorem Marks.not_blank : trim c ≠ "" := by
  obtain ⟨⟨hhead, -⟩, record, rfl, -⟩ := h
  obtain ⟨tl, htl⟩ := List.head?_eq_some_iff.mp hhead
  refine trim_ne_empty (c := '<') ?_ (by decide)
  simp [htl]

theorem Marks.marked_cons (hfamily : Foundation.startsWith m family = true) (bodies : List String) :
    marked family (c :: bodies) = c :: marked family bodies := by
  simp [marked, h.contains hfamily]

theorem Marks.marked_skip (hapart : Apart m family) (bodies : List String) :
    marked family (c :: bodies) = marked family bodies := by
  simp [marked, h.not_contains hapart]

end

end Marks

/-! ## Rows -/

/-- A row as a record with the one field `body`, other fields ignored. -/
def issueComment : Json → Option String
  | .obj members =>
    match members.filter fun m => m.1 == "body" with
    | [(_, .str body)] => some body
    | _ => none
  | .arr [.str body] => some body
  | _ => none

/-- A row as a value with a member `body`. -/
def bodyValue (row : Json) : Option String := (row.get "body").bind Json.asStr

/-- `serde_json::from_str::<Vec<Value>>`. -/
def readRows (history : String) : Option (List Json) := (Json.parse history).bind Json.asArray

/-- `serde_json::from_str::<Vec<IssueComment>>`. -/
def readComments (history : String) : Option (List String) := (readRows history).bind (·.mapM issueComment)

/-- The row is a comment with this body: one member has the name, and it is a string. -/
def IsComment (row : Json) (body : String) : Prop :=
  ∃ members, row = .obj members ∧ members.filter (fun m => m.1 == "body") = [("body", .str body)]

/-- The text is an array of comments with these bodies. -/
def Reads (history : String) (bodies : List String) : Prop :=
  ∃ rows, readRows history = some rows ∧ List.Forall₂ IsComment rows bodies

theorem IsComment.issueComment {row : Json} (h : IsComment row body) : issueComment row = some body := by
  obtain ⟨members, rfl, hfilter⟩ := h
  rw [Foundation.issueComment, hfilter]

theorem IsComment.bodyValue {row : Json} (h : IsComment row body) : bodyValue row = some body := by
  obtain ⟨members, rfl, hfilter⟩ := h
  have hfind : (members.reverse.find? fun m => m.1 == "body") = some ("body", .str body) := by
    rw [← List.head?_filter, List.filter_reverse, hfilter]
    rfl
  rw [Foundation.bodyValue, Json.get, hfind]
  rfl

theorem Reads.readComments {history : String} {bodies : List String} (h : Reads history bodies) :
    readComments history = some bodies := by
  obtain ⟨rows, hrows, hall⟩ := h
  rw [Foundation.readComments, hrows, Option.bind_some]
  clear hrows
  induction hall with
  | nil => rfl
  | cons hrow _ ih =>
    rw [List.mapM_cons, hrow.issueComment, ih]
    rfl

/-- A text for comments with these bodies. -/
def commentsText (bodies : List String) : String :=
  (Json.arr (bodies.map fun body => .obj [("body", .str body)])).compact

theorem reads_commentsText (bodies : List String) : Reads (commentsText bodies) bodies := by
  refine ⟨bodies.map fun body => .obj [("body", .str body)], ?_, ?_⟩
  · have hfits : ∀ d, 2 < d →
        Json.fitsItems (bodies.map fun body => .obj [("body", .str body)]) d = true := by
      intro d hd
      induction bodies with
      | nil => rfl
      | cons body bodies ih => simp [Json.fitsItems, Json.fits, Json.fitsMembers, ih]; omega
    rw [readRows, commentsText, Json.parse_compact]
    · rfl
    · simp [Json.fits, hfits]
  · induction bodies with
    | nil => exact .nil
    | cons body bodies ih => exact .cons ⟨_, rfl, by simp⟩ ih

end Foundation
