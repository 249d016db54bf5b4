import EdgePlatform.Foundation.Lines

/-!
# `EdgePlatform.Foundation.Json` — JSON values, their text, and reading it back

Values, the compact and the indented text that `serde_json` writes for them, and its reader: white space,
escapes with surrogate pairs, the number grammar, the recursion limit. An object is the list of its members
in the order of the text; a member is looked up as in a map into which the members were inserted one after
the other (`get`), and `object` builds such a map, ordered by key. A number is an integer in the range of
`u64` or `i64`, or kept as its literal.

On two kinds of texts the reader differs from `serde_json`: it keeps numbers that overflow an `f64`
(`1e400`), which `serde_json` refuses, and it counts the nesting of a member that a typed reader would skip.

The reader undoes both writers (`parse_render`). Records are read from a value by the names of their fields
(`fields`).
-/

namespace Foundation

/-- A value; a number that is no integer keeps its text. -/
inductive Json
  | null
  | bool (b : Bool)
  | int (i : Int)
  | float (literal : String)
  | str (s : String)
  | arr (items : List Json)
  | obj (members : List (String × Json))

namespace Json

/-! ## Equality -/

mutual
def beq : Json → Json → Bool
  | .null, .null => true
  | .bool a, .bool b => a == b
  | .int a, .int b => a == b
  | .float a, .float b => a == b
  | .str a, .str b => a == b
  | .arr a, .arr b => beqItems a b
  | .obj a, .obj b => beqMembers a b
  | _, _ => false

def beqItems : List Json → List Json → Bool
  | [], [] => true
  | a :: as, b :: bs => beq a b && beqItems as bs
  | _, _ => false

def beqMembers : List (String × Json) → List (String × Json) → Bool
  | [], [] => true
  | (k, a) :: as, (l, b) :: bs => k == l && beq a b && beqMembers as bs
  | _, _ => false
end

mutual
theorem beq_iff (a b : Json) : beq a b = true ↔ a = b := by
  match a with
  | .null | .bool _ | .int _ | .float _ | .str _ => cases b <;> simp [beq]
  | .arr items =>
    cases b with
    | arr items' => simpa [beq] using beqItems_iff items items'
    | _ => simp [beq]
  | .obj members =>
    cases b with
    | obj members' => simpa [beq] using beqMembers_iff members members'
    | _ => simp [beq]

theorem beqItems_iff (a b : List Json) : beqItems a b = true ↔ a = b := by
  match a with
  | [] => cases b <;> simp [beqItems]
  | x :: xs =>
    cases b with
    | nil => simp [beqItems]
    | cons y ys => simp [beqItems, beq_iff x y, beqItems_iff xs ys]

theorem beqMembers_iff (a b : List (String × Json)) : beqMembers a b = true ↔ a = b := by
  match a with
  | [] => cases b <;> simp [beqMembers]
  | (k, x) :: xs =>
    cases b with
    | nil => simp [beqMembers]
    | cons y ys =>
      obtain ⟨l, y⟩ := y
      simp [beqMembers, beq_iff x y, beqMembers_iff xs ys]
end

instance : DecidableEq Json := fun a b => decidable_of_iff _ (beq_iff a b)

/-! ## Looking into values -/

/-- The member of an object; of several with one key the last counts. -/
def get (key : String) : Json → Option Json
  | .obj members => (members.reverse.find? fun m => m.1 == key).map (·.2)
  | _ => none

def asStr : Json → Option String
  | .str s => some s
  | _ => none

def asBool : Json → Option Bool
  | .bool b => some b
  | _ => none

def asArray : Json → Option (List Json)
  | .arr items => some items
  | _ => none

/-- A number that a field of type `u64` takes. -/
def asU64 : Json → Option UInt64
  | .int i => if 0 ≤ i ∧ i < 2 ^ 64 then some (UInt64.ofNat i.toNat) else none
  | _ => none

/-- The number of a field of type `u64`. -/
def ofU64 (n : UInt64) : Json := .int n.toNat

@[simp] theorem asU64_ofU64 (n : UInt64) : asU64 (ofU64 n) = some n := by
  have hn := n.toNat_lt
  have hrange : (0 : Int) ≤ n.toNat ∧ (n.toNat : Int) < 2 ^ 64 := by omega
  rw [ofU64, asU64, if_pos hrange, Int.toNat_natCast, UInt64.ofNat_toNat]

/-- Insert into a map that is ordered by key. -/
def insertMember (key : String) (value : Json) : List (String × Json) → List (String × Json)
  | [] => [(key, value)]
  | (k, v) :: rest =>
    if key = k then (key, value) :: rest
    else if key < k then (key, value) :: (k, v) :: rest
    else (k, v) :: insertMember key value rest

/-- The object with these members, inserted one after the other. -/
def object (members : List (String × Json)) : Json :=
  .obj (members.foldl (fun acc m => insertMember m.1 m.2 acc) [])

/-- The members of a record, by the names of its fields: a map names each field once and nothing else, a
    sequence has them in order. -/
def fields (names : List String) : Json → Option (List Json)
  | .obj members =>
    if (members.map (·.1)).Nodup ∧ ∀ m ∈ members,
        m.1 ∈ names then names.mapM fun n => members.lookup n else none
  | .arr items => if items.length = names.length then some items else none
  | _ => none

/-! ## Text -/

/-- A character of a string. -/
def escapeChar (c : Char) : List Char :=
  if c = '"' then ['\\', '"']
  else if c = '\\' then ['\\', '\\']
  else if c = '\n' then ['\\', 'n']
  else if c = '\r' then ['\\', 'r']
  else if c = '\t' then ['\\', 't']
  else if c.toNat = 8 then ['\\', 'b']
  else if c.toNat = 12 then ['\\', 'f']
  else if c.toNat < 32 then ['\\', 'u', '0', '0', hexDigit (c.toNat / 16), hexDigit (c.toNat % 16)]
  else [c]

def quote (s : String) : List Char := '"' :: s.toList.flatMap escapeChar ++ ['"']

def intChars (i : Int) : List Char :=
  if i < 0 then '-' :: Nat.toDigits 10 i.natAbs else Nat.toDigits 10 i.toNat

/-- A new line at a level of nesting, in indented text. -/
def breakLine (pretty : Bool) (level : Nat) : List Char :=
  if pretty then '\n' :: List.replicate (2 * level) ' ' else []

def colon (pretty : Bool) : List Char := if pretty then [':', ' '] else [':']

mutual
def render (pretty : Bool) : Json → Nat → List Char
  | .null, _ => ['n', 'u', 'l', 'l']
  | .bool true, _ => ['t', 'r', 'u', 'e']
  | .bool false, _ => ['f', 'a', 'l', 's', 'e']
  | .int i, _ => intChars i
  | .float literal, _ => literal.toList
  | .str s, _ => quote s
  | .arr [], _ => ['[', ']']
  | .arr (v :: vs), level =>
    '[' :: (breakLine pretty (level + 1) ++ render pretty v (level + 1) ++
      renderItems pretty vs (level + 1) ++ breakLine pretty level ++ [']'])
  | .obj [], _ => ['\x7b', '\x7d']
  | .obj ((k, v) :: ms), level =>
    '\x7b' :: (breakLine pretty (level + 1) ++ quote k ++ colon pretty ++ render pretty v (level + 1) ++
      renderMembers pretty ms (level + 1) ++ breakLine pretty level ++ ['\x7d'])

/-- The items of an array after the first. -/
def renderItems (pretty : Bool) : List Json → Nat → List Char
  | [], _ => []
  | v :: vs, level => ',' :: (breakLine pretty level ++ render pretty v level ++ renderItems pretty vs level)

def renderMembers (pretty : Bool) : List (String × Json) → Nat → List Char
  | [], _ => []
  | (k, v) :: ms, level =>
    ',' :: (breakLine pretty level ++ quote k ++ colon pretty ++ render pretty v level ++
      renderMembers pretty ms level)
end

/-- `serde_json::to_string`. -/
def compact (v : Json) : String := String.ofList (render false v 0)

/-- `serde_json::to_string_pretty`. -/
def pretty (v : Json) : String := String.ofList (render true v 0)

/-! ## Reading -/

def isSpace (c : Char) : Bool := c == ' ' || c == '\n' || c == '\t' || c == '\r'

def skipSpace (cs : List Char) : List Char := cs.dropWhile isSpace

def hexVal (c : Char) : Option Nat :=
  if '0' ≤ c ∧ c ≤ '9' then some (c.toNat - 48)
  else if 'a' ≤ c ∧ c ≤ 'f' then some (c.toNat - 87)
  else if 'A' ≤ c ∧ c ≤ 'F' then some (c.toNat - 55)
  else none

def hex4 : List Char → Option (Nat × List Char)
  | a :: b :: c :: d :: r => do
      let a ← hexVal a
      let b ← hexVal b
      let c ← hexVal c
      let d ← hexVal d
      some (((a * 16 + b) * 16 + c) * 16 + d, r)
  | _ => none

/-- The character after a backslash. -/
def escaped : List Char → Option (Char × List Char)
  | '"' :: r => some ('"', r)
  | '\\' :: r => some ('\\', r)
  | '/' :: r => some ('/', r)
  | 'b' :: r => some (Char.ofNat 8, r)
  | 'f' :: r => some (Char.ofNat 12, r)
  | 'n' :: r => some ('\n', r)
  | 'r' :: r => some ('\r', r)
  | 't' :: r => some ('\t', r)
  | 'u' :: r => do
      let (n, r) ← hex4 r
      if 0xDC00 ≤ n ∧ n ≤ 0xDFFF then none
      else if 0xD800 ≤ n ∧ n ≤ 0xDBFF then
        -- the other half of a surrogate pair
        match r with
        | '\\' :: 'u' :: r => do
            let (m, r) ← hex4 r
            if 0xDC00 ≤ m ∧ m ≤ 0xDFFF then
              some (Char.ofNat (0x10000 + (n - 0xD800) * 0x400 + (m - 0xDC00)), r)
            else none
        | _ => none
      else some (Char.ofNat n, r)
  | _ => none

/-- One character of a string, which is not its closing quote. -/
def nextChar : List Char → Option (Char × List Char)
  | [] => none
  | c :: r => if c = '\\' then escaped r else if c.toNat < 32 then none else some (c, r)

/-- A string after its opening quote. -/
def stringTail : Nat → List Char → Option (List Char × List Char)
  | 0, _ => none
  | n + 1, cs =>
    if cs.head? = some '"' then some ([], cs.tail)
    else do
      let (c, r) ← nextChar cs
      let (s, r) ← stringTail n r
      some (c :: s, r)

def fraction (cs : List Char) : Option (List Char × List Char) :=
  if cs.head? = some '.' then
    let digits := cs.tail.takeWhile Char.isDigit
    if digits = [] then none else some ('.' :: digits, cs.tail.dropWhile Char.isDigit)
  else some ([], cs)

def isSign (c : Char) : Bool := c == '+' || c == '-'

def isExponent (c : Char) : Bool := c == 'e' || c == 'E'

def exponent (cs : List Char) : Option (List Char × List Char) :=
  if cs.head?.any isExponent then
    let mark := cs.take (if cs.tail.head?.any isSign then 2 else 1)
    let rest := cs.drop mark.length
    let digits := rest.takeWhile Char.isDigit
    if digits = [] then none else some (mark ++ digits, rest.dropWhile Char.isDigit)
  else some ([], cs)

/-- A literal without fraction and exponent is an integer where it has a type for it. -/
def integer (negative : Bool) (n : Nat) (literal : List Char) : Json :=
  if negative then
    if n = 0 ∨ 2 ^ 63 < n then .float (String.ofList literal) else .int (-n)
  else if n < 2 ^ 64 then .int n else .float (String.ofList literal)

def number (cs : List Char) : Option (Json × List Char) :=
  let negative := cs.head? == some '-'
  let body := if negative then cs.tail else cs
  let digits := body.takeWhile Char.isDigit
  if digits = [] ∨ (digits.head? = some '0' ∧ digits ≠ ['0']) then none
  else do
    let (frac, r) ← fraction (body.dropWhile Char.isDigit)
    let (exp, r) ← exponent r
    let literal := (if negative then ['-'] else []) ++ digits ++ frac ++ exp
    if frac = [] ∧ exp = [] then some (integer negative (Nat.ofDigitChars 10 digits 0) literal, r)
    else some (.float (String.ofList literal), r)

def literal : List Char → Option (Json × List Char)
  | 'n' :: 'u' :: 'l' :: 'l' :: r => some (.null, r)
  | 't' :: 'r' :: 'u' :: 'e' :: r => some (.bool true, r)
  | 'f' :: 'a' :: 'l' :: 's' :: 'e' :: r => some (.bool false, r)
  | _ => none

mutual
/-- A value, at most `depth - 1` levels deep. -/
def parseValue : Nat → Nat → List Char → Option (Json × List Char)
  | 0, _, _ => none
  | n + 1, depth, cs =>
    match skipSpace cs with
    | [] => none
    | c :: r =>
      if c = '"' then do
        let (s, r) ← stringTail r.length r
        some (.str (String.ofList s), r)
      else if c = '[' then
        if depth ≤ 1 then none
        else if (skipSpace r).head? = some ']' then some (.arr [], (skipSpace r).tail)
        else do
          let (items, r) ← parseItems n (depth - 1) r
          some (.arr items, r)
      else if c = '\x7b' then
        if depth ≤ 1 then none
        else if (skipSpace r).head? = some '\x7d' then some (.obj [], (skipSpace r).tail)
        else do
          let (members, r) ← parseMembers n (depth - 1) r
          some (.obj members, r)
      else if c = '-' ∨ c.isDigit then number (c :: r)
      else literal (c :: r)

def parseItems : Nat → Nat → List Char → Option (List Json × List Char)
  | 0, _, _ => none
  | n + 1, depth, cs => do
      let (v, r) ← parseValue n depth cs
      match skipSpace r with
      | [] => none
      | c :: r =>
        if c = ',' then do
          let (vs, r) ← parseItems n depth r
          some (v :: vs, r)
        else if c = ']' then some ([v], r)
        else none

def parseMembers : Nat → Nat → List Char → Option (List (String × Json) × List Char)
  | 0, _, _ => none
  | n + 1, depth, cs =>
    if (skipSpace cs).head? = some '"' then do
      let (k, r) ← stringTail (skipSpace cs).tail.length (skipSpace cs).tail
      if (skipSpace r).head? = some ':' then do
        let (v, r) ← parseValue n depth (skipSpace r).tail
        match skipSpace r with
        | [] => none
        | c :: r =>
          if c = ',' then do
            let (ms, r) ← parseMembers n depth r
            some ((String.ofList k, v) :: ms, r)
          else if c = '\x7d' then some ([(String.ofList k, v)], r)
          else none
      else none
    else none
end

/-- `serde_json::from_str` for a value. -/
def parse (s : String) : Option Json := do
  let (v, r) ← parseValue (s.toList.length + 1) 128 s.toList
  if skipSpace r = [] then some v else none

/-- `serde_json::from_slice`. -/
def parseBytes (b : Bytes) : Option Json := (ofUtf8 b).bind parse

/-! ## Reading undoes writing -/

theorem hexVal_hexDigit : ∀ n < 16, hexVal (hexDigit n) = some n := by decide

theorem escaped_control : ∀ n < 32, ∀ r, escaped
    ('u' :: '0' :: '0' :: hexDigit (n / 16) :: hexDigit (n % 16) :: r) = some (Char.ofNat n, r) := by
  intro n hn r
  have hhi := hexVal_hexDigit (n / 16) (by omega)
  have hlo := hexVal_hexDigit (n % 16) (by omega)
  have hzero : hexVal '0' = some 0 := by decide
  have hvalue : ((0 * 16 + 0) * 16 + n / 16) * 16 + n % 16 = n := by omega
  simp only [escaped, hex4, hzero, hhi, hlo, Option.bind_eq_bind, Option.bind_some, hvalue]
  rw [if_neg (by omega), if_neg (by omega)]

/-- A written character is read back. -/
theorem nextChar_escapeChar (c : Char) (r : List Char) : nextChar (escapeChar c ++ r) = some (c, r) := by
  unfold escapeChar
  split_ifs with h₁ h₂ h₃ h₄ h₅ h₆ h₇ h₈
  · subst h₁; rfl
  · subst h₂; rfl
  · subst h₃; rfl
  · subst h₄; rfl
  · subst h₅; rfl
  · have hc : c = Char.ofNat 8 := by rw [← h₆, Char.ofNat_toNat]
    subst hc
    rfl
  · have hc : c = Char.ofNat 12 := by rw [← h₇, Char.ofNat_toNat]
    subst hc
    rfl
  · have hc := escaped_control c.toNat h₈ r
    rw [Char.ofNat_toNat] at hc
    simpa [nextChar] using hc
  · simp [nextChar, h₂, h₈]

/-- A written character is not a closing quote. -/
theorem head_escapeChar (c : Char) (r : List Char) : (escapeChar c ++ r).head? ≠ some '"' := by
  unfold escapeChar
  split_ifs <;> simp_all

theorem length_escapeChar_pos (c : Char) : 0 < (escapeChar c).length := by
  unfold escapeChar
  split_ifs <;> simp

theorem length_le_escape (s : List Char) : s.length ≤ (s.flatMap escapeChar).length := by
  induction s with
  | nil => simp
  | cons c s ih =>
    have hc := length_escapeChar_pos c
    simp only [List.length_cons, List.flatMap_cons, List.length_append]
    omega

theorem stringTail_escape (s r : List Char) (n : Nat) (h : s.length < n) :
    stringTail n (s.flatMap escapeChar ++ '"' :: r) = some (s, r) := by
  induction s generalizing n with
  | nil =>
    obtain ⟨m, rfl⟩ : ∃ m, n = m + 1 := ⟨n - 1, by simp at h; omega⟩
    simp [stringTail]
  | cons c s ih =>
    obtain ⟨m, rfl⟩ : ∃ m, n = m + 1 := ⟨n - 1, by simp at h; omega⟩
    have hrest := ih m (by simpa using h)
    simp only [stringTail, List.flatMap_cons, List.append_assoc]
    rw [if_neg (head_escapeChar c _), nextChar_escapeChar]
    simp [hrest]

/-- A written string is read back. -/
theorem stringTail_quote (s : String) (r : List Char) :
    stringTail (s.toList.flatMap escapeChar ++ '"' :: r).length (s.toList.flatMap escapeChar ++ '"' :: r) =
      some (s.toList, r) := by
  apply stringTail_escape
  have hle := length_le_escape s.toList
  simp only [List.length_append, List.length_cons]
  omega

/-! ### Numbers -/

/-- What follows a number does not continue it. -/
def NumberEnd (r : List Char) : Prop := ∀ c, r.head? = some c → c.isDigit = false ∧ c ≠ '.' ∧
    isExponent c = false

variable {r : List Char}

theorem takeWhile_digits {ds : List Char} (hds : ∀ c ∈ ds, c.isDigit = true) (hr : NumberEnd r) :
    (ds ++ r).takeWhile Char.isDigit = ds ∧ (ds ++ r).dropWhile Char.isDigit = r := by
  have hr' : r.takeWhile Char.isDigit = [] ∧ r.dropWhile Char.isDigit = r := by
    cases r with
    | nil => simp
    | cons c r =>
      have hc := (hr c rfl).1
      simp [hc]
  constructor
  · rw [List.takeWhile_append_of_pos hds, hr'.1, List.append_nil]
  · rw [List.dropWhile_append_of_pos hds, hr'.2]

theorem isDigit_toDigits {n : Nat} : ∀ c ∈ Nat.toDigits 10 n, c.isDigit = true :=
  fun _ hc => Nat.isDigit_of_mem_toDigits (by decide) (by decide) hc

theorem fraction_end (hr : NumberEnd r) : fraction r = some ([], r) := by
  have hdot : r.head? ≠ some '.' := fun h => (hr '.' h).2.1 rfl
  simp [fraction, hdot]

theorem exponent_end (hr : NumberEnd r) : exponent r = some ([], r) := by
  have hmark : r.head?.any isExponent = false := by
    cases h : r.head? with
    | none => rfl
    | some c => exact (hr c h).2.2
  simp [exponent, hmark]

/-- A positive number has no leading zero. -/
theorem head_toDigits (n : Nat) (hn : n ≠ 0) : (Nat.toDigits 10 n).head? ≠ some '0' := by
  induction n using Nat.strongRecOn with
  | ind n ih =>
    by_cases hlt : n < 10
    · rw [Nat.toDigits_of_lt_base hlt]
      have hdigit : ∀ k < 10, k ≠ 0 → Nat.digitChar k ≠ '0' := by decide
      simpa using hdigit n hlt hn
    · rw [Nat.toDigits_of_base_le (by decide) (by omega), List.head?_append_of_ne_nil _ Nat.toDigits_ne_nil]
      exact ih (n / 10) (by omega) (by omega)

/-- The digits of a number are accepted as they are. -/
theorem number_digits (n : Nat) (negative : Bool) (r : List Char) (hr : NumberEnd r) :
    number ((if negative then ['-'] else []) ++ Nat.toDigits 10 n ++ r) =
      some (integer negative n ((if negative then ['-'] else []) ++ Nat.toDigits 10 n), r) := by
  obtain ⟨htake, hdrop⟩ := takeWhile_digits (isDigit_toDigits (n := n)) hr
  have hsign : (((if negative then ['-'] else []) ++ Nat.toDigits 10 n ++ r).head? == some '-') =
      negative := by
    cases negative with
    | true => rfl
    | false =>
      obtain ⟨c, cs, hcs⟩ := List.exists_cons_of_ne_nil (Nat.toDigits_ne_nil (n := n) (b := 10))
      have hc : c.isDigit = true := isDigit_toDigits c (hcs ▸ List.mem_cons_self)
      have hminus : c ≠ '-' := by
        rintro rfl
        cases hc
      simp [hcs, hminus]
  have hbody : (if negative then ((if negative then ['-'] else []) ++ Nat.toDigits 10 n ++ r).tail
      else (if negative then ['-'] else []) ++ Nat.toDigits 10 n ++ r) = Nat.toDigits 10 n ++ r := by
    cases negative <;> rfl
  have hzero :
      ¬ (Nat.toDigits 10 n = [] ∨ ((Nat.toDigits 10 n).head? = some '0' ∧ Nat.toDigits 10 n ≠ ['0'])) := by
    rintro (hnil | ⟨hhead, hlong⟩)
    · exact Nat.toDigits_ne_nil hnil
    · by_cases hn : n = 0
      · subst hn
        exact hlong rfl
      · exact head_toDigits n hn hhead
  simp only [number, hsign, hbody, htake, hdrop, if_neg hzero, fraction_end hr, exponent_end hr,
    Option.bind_eq_bind, Option.bind_some, List.append_nil, and_self, if_true,
    Nat.ofDigitChars_toDigits (b := 10) (n := n) (by decide) (by decide)]

theorem number_intChars (i : Int) (r : List Char) (hlow : -2 ^ 63 ≤ i) (hhigh : i < 2 ^ 64)
    (hr : NumberEnd r) :
    number (intChars i ++ r) = some (.int i, r) := by
  unfold intChars
  split_ifs with hneg
  · have h := number_digits i.natAbs true r hr
    simp only [if_true, List.singleton_append] at h
    rw [h, integer, if_pos rfl, if_neg (by omega)]
    simp only [Option.some.injEq, Prod.mk.injEq, Json.int.injEq, and_true]
    omega
  · have h := number_digits i.toNat false r hr
    simp only [Bool.false_eq_true, if_false, List.nil_append] at h
    rw [h, integer, if_neg (by simp), if_pos (by omega)]
    simp only [Option.some.injEq, Prod.mk.injEq, Json.int.injEq, and_true]
    omega

theorem head_intChars (i : Int) : ∃ c cs, intChars i = c :: cs ∧ (c = '-' ∨ c.isDigit = true) := by
  unfold intChars
  split_ifs
  · exact ⟨'-', _, rfl, .inl rfl⟩
  · obtain ⟨c, cs, hcs⟩ := List.exists_cons_of_ne_nil (Nat.toDigits_ne_nil (n := i.toNat) (b := 10))
    exact ⟨c, cs, hcs, .inr (isDigit_toDigits c (hcs ▸ List.mem_cons_self))⟩

/-! ### Values -/

mutual
/-- A value that is read back: its integers have a type, it has no other numbers, and it is at most
    `depth - 1` levels deep. -/
def fits : Json → Nat → Bool
  | .int i, _ => decide (-2 ^ 63 ≤ i ∧ i < 2 ^ 64)
  | .float _, _ => false
  | .arr items, depth => decide (1 < depth) && fitsItems items (depth - 1)
  | .obj members, depth => decide (1 < depth) && fitsMembers members (depth - 1)
  | _, _ => true

def fitsItems : List Json → Nat → Bool
  | [], _ => true
  | v :: vs, depth => fits v depth && fitsItems vs depth

def fitsMembers : List (String × Json) → Nat → Bool
  | [], _ => true
  | (_, v) :: ms, depth => fits v depth && fitsMembers ms depth
end

mutual
/-- The number of calls that read a value. -/
def weight : Json → Nat
  | .arr items => 1 + weightItems items
  | .obj members => 1 + weightMembers members
  | _ => 1

def weightItems : List Json → Nat
  | [] => 0
  | v :: vs => 1 + weight v + weightItems vs

def weightMembers : List (String × Json) → Nat
  | [] => 0
  | (_, v) :: ms => 1 + weight v + weightMembers ms
end

theorem isSpace_breakLine (p : Bool) (level : Nat) : ∀ c ∈ breakLine p level, isSpace c = true := by
  intro c hc
  unfold breakLine at hc
  split_ifs at hc
  · rcases List.mem_cons.mp hc with rfl | hc
    · rfl
    · rw [List.eq_of_mem_replicate hc]
      rfl
  · cases hc

theorem skipSpace_breakLine (p : Bool) (level : Nat) (cs : List Char) :
    skipSpace (breakLine p level ++ cs) = skipSpace cs :=
  List.dropWhile_append_of_pos (isSpace_breakLine p level)

theorem skipSpace_cons {c : Char} (hc : isSpace c = false) (cs : List Char) :
    skipSpace (c :: cs) = c :: cs := by
  simp [skipSpace, hc]

/-- Leading white space does not matter. -/
theorem parseValue_breakLine (p : Bool) (level n depth : Nat) (cs : List Char) :
    parseValue n depth (breakLine p level ++ cs) = parseValue n depth cs := by
  cases n with
  | zero => rfl
  | succ n => simp only [parseValue, skipSpace_breakLine]

theorem parseValue_colon (p : Bool) (n depth : Nat) (cs : List Char) :
    parseValue n depth ((colon p).tail ++ cs) = parseValue n depth cs := by
  cases n with
  | zero => rfl
  | succ n =>
    have hskip : skipSpace ((colon p).tail ++ cs) = skipSpace cs := by
      cases p <;> simp [colon, skipSpace, isSpace]
    simp only [parseValue, hskip]

theorem numberEnd_breakLine {c : Char} (p : Bool) (level : Nat) (r : List Char)
    (hc : c.isDigit = false ∧ c ≠ '.' ∧ isExponent c = false) : NumberEnd (breakLine p level ++ c :: r) := by
  intro x hx
  cases p with
  | false =>
    simp only [breakLine, Bool.false_eq_true, if_false, List.nil_append, List.head?_cons,
      Option.some.injEq] at hx
    exact hx ▸ hc
  | true =>
    simp only [breakLine, if_true, List.cons_append, List.head?_cons, Option.some.injEq] at hx
    subst hx
    decide

theorem numberEnd_cons {c : Char} (r : List Char) (hc : c.isDigit = false ∧ c ≠ '.' ∧ isExponent c = false) :
    NumberEnd (c :: r) := by
  intro x hx
  cases hx
  exact hc

/-- The text of a value that is read back starts with a character that is neither space nor a closing
bracket. -/
theorem head_render (p : Bool) (v : Json) (level depth : Nat) (hfits : fits v depth = true) :
    ∃ c cs, render p v level = c :: cs ∧ isSpace c = false ∧ c ≠ ']' := by
  cases v with
  | null => exact ⟨_, _, rfl, rfl, by decide⟩
  | bool b => cases b <;> exact ⟨_, _, rfl, rfl, by decide⟩
  | int i =>
    obtain ⟨c, cs, hcs, hc⟩ := head_intChars i
    refine ⟨c, cs, hcs, ?_, ?_⟩
    · rcases hc with rfl | hc
      · rfl
      · simp only [isSpace, Bool.or_eq_false_iff, beq_eq_false_iff_ne, ne_eq]
        refine ⟨⟨⟨?_, ?_⟩, ?_⟩, ?_⟩ <;> rintro rfl <;> cases hc
    · rintro rfl
      rcases hc with hc | hc <;> cases hc
  | float => cases hfits
  | str s => exact ⟨_, _, rfl, rfl, by decide⟩
  | arr items => cases items <;> exact ⟨_, _, rfl, rfl, by decide⟩
  | obj members => rcases members with _ | ⟨⟨k, v⟩, ms⟩ <;> exact ⟨_, _, rfl, rfl, by decide⟩

/-- The items of an array, the members of an object: what stands between the brackets, a first new line
apart. -/
def itemsText (p : Bool) (level : Nat) : List Json → List Char
  | [] => []
  | v :: vs => render p v level ++ renderItems p vs level

def membersText (p : Bool) (level : Nat) : List (String × Json) → List Char
  | [] => []
  | (k, v) :: ms => quote k ++ colon p ++ render p v level ++ renderMembers p ms level

/-- What follows an item ends a number. -/
theorem numberEnd_items (p : Bool) (vs : List Json) (level level' : Nat) (r : List Char) :
    NumberEnd (renderItems p vs level ++ (breakLine p level' ++ ']' :: r)) := by
  cases vs with
  | nil => exact numberEnd_breakLine p level' r (by decide)
  | cons w ws => exact numberEnd_cons _ (by decide)

theorem numberEnd_members (p : Bool) (ms : List (String × Json)) (level level' : Nat) (r : List Char) :
    NumberEnd (renderMembers p ms level ++ (breakLine p level' ++ '\x7d' :: r)) := by
  rcases ms with _ | ⟨⟨k, v⟩, ms⟩
  · exact numberEnd_breakLine p level' r (by decide)
  · exact numberEnd_cons _ (by decide)

mutual
/-- A written value is read back. -/
theorem parseValue_render (p : Bool) (v : Json) (level n depth : Nat) (r : List Char)
    (hfits : fits v depth = true) (hn : weight v ≤ n) (hr : NumberEnd r) :
    parseValue n depth (render p v level ++ r) = some (v, r) := by
  obtain ⟨n, rfl⟩ : ∃ m, n = m + 1 := ⟨n - 1, by
    have hpos : 1 ≤ weight v := by cases v <;> simp [weight]
    omega⟩
  match v with
  | .null => rfl
  | .bool true => rfl
  | .bool false => rfl
  | .int i =>
    obtain ⟨c, cs, hcs, hc⟩ := head_intChars i
    simp only [fits, decide_eq_true_eq] at hfits
    have hnumber := number_intChars i r hfits.1 hfits.2 hr
    have hspace : isSpace c = false := by
      obtain ⟨c', cs', hcs', hspace, -⟩ := head_render p (.int i) level depth (by simpa [fits] using hfits)
      rw [render, hcs] at hcs'
      cases hcs'
      exact hspace
    have hother : c ≠ '"' ∧ c ≠ '[' ∧ c ≠ '\x7b' := by
      refine ⟨?_, ?_, ?_⟩ <;> rintro rfl <;> rcases hc with hc | hc <;> cases hc
    rw [hcs, List.cons_append] at hnumber
    simp only [parseValue, render, hcs, List.cons_append, skipSpace_cons hspace, hother,
      if_false, hc, if_true, hnumber]
  | .str s =>
    have htail := stringTail_quote s r
    have hquote : skipSpace (quote s ++ r) = '"' :: (s.toList.flatMap escapeChar ++ '"' :: r) := by
      simp [quote, skipSpace, isSpace]
    simp only [parseValue, render, hquote, if_true, htail, Option.bind_eq_bind, Option.bind_some,
      String.ofList_toList]
  | .arr [] =>
    simp only [fits, Bool.and_eq_true, decide_eq_true_eq] at hfits
    have hskip : skipSpace (render p (.arr []) level ++ r) = '[' :: ']' :: r := rfl
    have hclose : skipSpace (']' :: r) = ']' :: r := rfl
    simp only [parseValue, hskip, hclose]
    simp [hfits.1]
  | .arr (v :: vs) =>
    simp only [fits, Bool.and_eq_true, decide_eq_true_eq] at hfits
    simp only [weight] at hn
    have htext : render p (.arr (v :: vs)) level ++ r = '[' :: (breakLine p (level + 1) ++
        (itemsText p (level + 1) (v :: vs) ++ (breakLine p level ++ ']' :: r))) := by
      simp [render, itemsText]
    have hitems := parseItems_render p (v :: vs) (level + 1) level n (depth - 1) r
        (by simp) hfits.2 (by omega)
    have hfirst : (skipSpace (breakLine p (level + 1) ++
        (itemsText p (level + 1) (v :: vs) ++ (breakLine p level ++ ']' :: r)))).head? ≠ some ']' := by
      obtain ⟨c, cs, hcs, hspace, hc⟩ := head_render p v (level + 1) (depth - 1) (by
        have := hfits.2
        simp only [fitsItems, Bool.and_eq_true] at this
        exact this.1)
      rw [skipSpace_breakLine, itemsText, hcs, List.cons_append, List.cons_append, skipSpace_cons hspace]
      simpa using hc
    simp only [parseValue, htext, skipSpace_cons (show isSpace '[' = false from rfl)]
    rw [if_neg (by decide), if_pos trivial, if_neg (by omega), if_neg hfirst, hitems]
    rfl
  | .obj [] =>
    simp only [fits, Bool.and_eq_true, decide_eq_true_eq] at hfits
    have hskip : skipSpace (render p (.obj []) level ++ r) = '\x7b' :: '\x7d' :: r := rfl
    have hclose : skipSpace ('\x7d' :: r) = '\x7d' :: r := rfl
    simp only [parseValue, hskip, hclose]
    simp [hfits.1]
  | .obj ((k, v) :: ms) =>
    simp only [fits, Bool.and_eq_true, decide_eq_true_eq] at hfits
    simp only [weight] at hn
    have htext : render p (.obj ((k, v) :: ms)) level ++ r = '\x7b' :: (breakLine p (level + 1) ++
        (membersText p (level + 1) ((k, v) :: ms) ++ (breakLine p level ++ '\x7d' :: r))) := by
      simp [render, membersText]
    have hmembers := parseMembers_render p ((k, v) :: ms) (level + 1) level n (depth - 1) r (by simp) hfits.2
      (by omega)
    have hfirst : (skipSpace (breakLine p (level + 1) ++ (membersText p (level + 1) ((k, v) :: ms) ++
        (breakLine p level ++ '\x7d' :: r)))).head? ≠ some '\x7d' := by
      rw [skipSpace_breakLine]
      simp [membersText, quote, skipSpace, isSpace]
    simp only [parseValue, htext, skipSpace_cons (show isSpace '\x7b' = false from rfl)]
    rw [if_neg (by decide), if_neg (by decide), if_pos trivial, if_neg (by omega), if_neg hfirst, hmembers]
    rfl

theorem parseItems_render (p : Bool) (items : List Json) (level level' n depth : Nat) (r : List Char)
    (hne : items ≠ []) (hfits : fitsItems items depth = true) (hn : weightItems items ≤ n) :
    parseItems n depth (breakLine p level ++ (itemsText p level items ++ (breakLine p level' ++ ']' :: r))) =
      some (items, r) := by
  match items with
  | [] => exact absurd rfl hne
  | v :: vs =>
    simp only [fitsItems, Bool.and_eq_true] at hfits
    simp only [weightItems] at hn
    obtain ⟨n, rfl⟩ : ∃ m, n = m + 1 := ⟨n - 1, by omega⟩
    have hv := parseValue_render p v level n depth
        (renderItems p vs level ++ (breakLine p level' ++ ']' :: r))
      hfits.1 (by omega) (numberEnd_items p vs level level' r)
    have hparse : parseValue n depth (breakLine p level ++
        (itemsText p level (v :: vs) ++ (breakLine p level' ++ ']' :: r))) =
          some (v, renderItems p vs level ++ (breakLine p level' ++ ']' :: r)) := by
      rw [parseValue_breakLine, itemsText, List.append_assoc]
      exact hv
    simp only [parseItems, hparse, Option.bind_eq_bind, Option.bind_some]
    match vs with
    | [] =>
      have hclose : skipSpace (']' :: r) = ']' :: r := rfl
      simp only [renderItems, List.nil_append, skipSpace_breakLine, hclose]
      rfl
    | w :: ws =>
      have hrest := parseItems_render p (w :: ws) level level' n depth r (by simp) hfits.2 (by omega)
      have htail : renderItems p (w :: ws) level ++ (breakLine p level' ++ ']' :: r) =
          ',' :: (breakLine p level ++
            (itemsText p level (w :: ws) ++ (breakLine p level' ++ ']' :: r))) := by
        simp [renderItems, itemsText]
      have hskip : ∀ cs, skipSpace (',' :: cs) = ',' :: cs := fun _ => rfl
      simp only [htail, hskip, if_true, hrest, Option.bind_some]

theorem parseMembers_render (p : Bool) (members : List (String × Json)) (level level' n depth : Nat)
    (r : List Char) (hne : members ≠ []) (hfits : fitsMembers members depth = true)
    (hn : weightMembers members ≤ n) :
    parseMembers n depth
      (breakLine p level ++ (membersText p level members ++ (breakLine p level' ++ '\x7d' :: r))) = some
        (members, r) := by
  match members with
  | [] => exact absurd rfl hne
  | (k, v) :: ms =>
    simp only [fitsMembers, Bool.and_eq_true] at hfits
    simp only [weightMembers] at hn
    obtain ⟨n, rfl⟩ : ∃ m, n = m + 1 := ⟨n - 1, by omega⟩
    have hv := parseValue_render p v level n depth
        (renderMembers p ms level ++ (breakLine p level' ++ '\x7d' :: r))
      hfits.1 (by omega) (numberEnd_members p ms level level' r)
    -- the key, the colon, the value
    have hskip : skipSpace (breakLine p level ++
        (membersText p level ((k, v) :: ms) ++ (breakLine p level' ++ '\x7d' :: r))) =
          '"' :: (k.toList.flatMap escapeChar ++ '"' :: (':' :: ((colon p).tail ++ (render p v level ++
            (renderMembers p ms level ++ (breakLine p level' ++ '\x7d' :: r)))))) := by
      rw [skipSpace_breakLine]
      cases p <;> simp [membersText, quote, colon, skipSpace, isSpace]
    have hcolon : ∀ cs, skipSpace (':' :: cs) = ':' :: cs := fun _ => rfl
    simp only [parseMembers, hskip, List.head?_cons, if_true, List.tail_cons, stringTail_quote,
      Option.bind_eq_bind, Option.bind_some, hcolon, parseValue_colon, hv, String.ofList_toList]
    match ms with
    | [] =>
      have hclose : skipSpace ('\x7d' :: r) = '\x7d' :: r := rfl
      simp only [renderMembers, List.nil_append, skipSpace_breakLine, hclose]
      rfl
    | (l, w) :: ms =>
      have hrest := parseMembers_render p ((l, w) :: ms) level level' n depth r (by simp) hfits.2 (by omega)
      have htail : renderMembers p ((l, w) :: ms) level ++ (breakLine p level' ++ '\x7d' :: r) =
          ',' :: (breakLine p level ++ (membersText p level ((l, w) :: ms) ++
            (breakLine p level' ++ '\x7d' :: r))) := by
        simp [renderMembers, membersText]
      have hcomma : ∀ cs, skipSpace (',' :: cs) = ',' :: cs := fun _ => rfl
      simp only [htail, hcomma, if_true, hrest, Option.bind_some]
end

mutual
/-- The text is long enough to be the fuel of its reading. -/
theorem weight_le (p : Bool) (v : Json) (level depth : Nat) (hfits : fits v depth = true) :
    weight v ≤ (render p v level).length := by
  match v with
  | .null => simp [weight, render]
  | .bool true => simp [weight, render]
  | .bool false => simp [weight, render]
  | .int i =>
    obtain ⟨c, cs, hcs, -⟩ := head_intChars i
    simp [weight, render, hcs]
  | .str s => simp [weight, render, quote]
  | .arr [] => simp [weight, weightItems, render]
  | .arr (v :: vs) =>
    simp only [fits, fitsItems, Bool.and_eq_true] at hfits
    have hv := weight_le p v (level + 1) (depth - 1) hfits.2.1
    have hvs := weightItems_le p vs (level + 1) (depth - 1) hfits.2.2
    simp only [weight, weightItems, render, List.length_cons, List.length_append, List.length_nil]
    omega
  | .obj [] => simp [weight, weightMembers, render]
  | .obj ((k, v) :: ms) =>
    simp only [fits, fitsMembers, Bool.and_eq_true] at hfits
    have hv := weight_le p v (level + 1) (depth - 1) hfits.2.1
    have hms := weightMembers_le p ms (level + 1) (depth - 1) hfits.2.2
    simp only [weight, weightMembers, render, List.length_cons, List.length_append, List.length_nil]
    omega

theorem weightItems_le (p : Bool) (vs : List Json) (level depth : Nat) (hfits : fitsItems vs depth = true) :
    weightItems vs ≤ (renderItems p vs level).length := by
  match vs with
  | [] => simp [weightItems]
  | v :: vs =>
    simp only [fitsItems, Bool.and_eq_true] at hfits
    have hv := weight_le p v level depth hfits.1
    have hvs := weightItems_le p vs level depth hfits.2
    simp only [weightItems, renderItems, List.length_cons, List.length_append]
    omega

theorem weightMembers_le (p : Bool) (ms : List (String × Json)) (level depth : Nat)
    (hfits : fitsMembers ms depth = true) : weightMembers ms ≤ (renderMembers p ms level).length := by
  match ms with
  | [] => simp [weightMembers]
  | (k, v) :: ms =>
    simp only [fitsMembers, Bool.and_eq_true] at hfits
    have hv := weight_le p v level depth hfits.1
    have hms := weightMembers_le p ms level depth hfits.2
    simp only [weightMembers, renderMembers, List.length_cons, List.length_append]
    omega
end

/-- **Reading undoes writing**, compact or indented. -/
theorem parse_render (p : Bool) (v : Json) (hfits : fits v 128 = true) :
    parse (String.ofList (render p v 0)) = some v := by
  have hweight := weight_le p v 0 128 hfits
  have hv := parseValue_render p v 0 ((render p v 0).length + 1) 128 [] hfits (by omega)
      (fun c hc => nomatch hc)
  rw [List.append_nil] at hv
  simp only [parse, String.toList_ofList, hv, Option.bind_eq_bind, Option.bind_some]
  rfl

theorem parse_compact (v : Json) (hfits : fits v 128 = true) : parse (compact v) = some v :=
  parse_render false v hfits

theorem parseBytes_pretty (v : Json) (hfits : fits v 128 = true) :
    parseBytes (utf8 (pretty v)) = some v := by
  rw [parseBytes, ofUtf8_utf8]
  exact parse_render true v hfits

end Json

end Foundation
