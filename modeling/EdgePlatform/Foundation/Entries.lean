import EdgePlatform.Foundation.Comments

/-!
# `EdgePlatform.Foundation.Entries` — text of `KEY=VALUE` lines

Readers of such texts differ in what they do with the blanks around a line and in what they ask of an entry;
the loop is the same. `readEntries` is that loop, `readEntries_eq_ok` says when it succeeds and with which
entries. A reader that trims its lines and one that does not agree on a text exactly if trimming changes no
line.
-/

namespace Foundation

/-! ## Trimming -/

section Trim

variable {s : String} {c : Char}

theorem toList_trim (s : String) :
    (trim s).toList = ((s.toList.dropWhile isWhitespace).reverse.dropWhile isWhitespace).reverse := by
  rw [trim, String.toList_ofList]

@[simp] theorem trim_empty : trim "" = "" := rfl

/-- A text without blanks. -/
def Visible (s : String) : Prop := ∀ c ∈ s.toList, isWhitespace c = false

theorem trim_of_visible (h : Visible s) : trim s = s := by
  have hkeep : ∀ cs : List Char, (∀ c ∈ cs, isWhitespace c = false) → cs.dropWhile isWhitespace = cs := by
    intro cs hcs
    cases cs with
    | nil => rfl
    | cons c cs => rw [List.dropWhile_cons_of_neg (by simp [hcs c (.head _)])]
  apply String.toList_inj.mp
  rw [toList_trim, hkeep _ h, hkeep _ fun c hc => h c (List.mem_reverse.mp hc), List.reverse_reverse]

theorem trim_concat (cs : List Char) (hc : isWhitespace c = true) :
    trim (String.ofList (cs ++ [c])) = trim (String.ofList cs) := by
  apply String.toList_inj.mp
  rw [toList_trim, toList_trim, String.toList_ofList, String.toList_ofList, List.dropWhile_append]
  split
  · next hempty =>
      rw [List.isEmpty_iff.mp hempty, List.dropWhile_cons_of_pos hc]
      rfl
  · rw [List.reverse_append, List.reverse_singleton, List.singleton_append, List.dropWhile_cons_of_pos hc]

/-- A trimmed text does not begin with a blank. -/
theorem not_isWhitespace_of_trim {d : Char} {ds : List Char} (h : trim s = s) (hs : s.toList = d :: ds) :
    isWhitespace d = false := by
  by_contra hd
  have htext := congrArg String.toList h
  rw [toList_trim, hs, List.dropWhile_cons_of_pos (by simpa using hd)] at htext
  have hlength := congrArg List.length htext
  have hdrop := (List.dropWhile_sublist isWhitespace (l := ds)).length_le
  have hdrop' := (List.dropWhile_sublist isWhitespace (l := (ds.dropWhile isWhitespace).reverse)).length_le
  simp only [List.length_reverse, List.length_cons] at hlength hdrop'
  omega

/-- Behind a trimmed key only the value is trimmed. -/
theorem splitOnce_trim {k v : String} (h : splitOnce s '=' = some (k, v)) (hk : trim k = k) (hne : k ≠ "") :
    ∃ v', splitOnce (trim s) '=' = some (k, v') := by
  obtain ⟨htext, hkey⟩ := splitOnce_eq_some.mp h
  refine ⟨String.ofList (v.toList.reverse.dropWhile isWhitespace).reverse, splitOnce_eq_some.mpr ⟨?_, hkey⟩⟩
  obtain ⟨d, ds, hds⟩ :=
    List.exists_cons_of_ne_nil (fun hnil => hne (String.toList_inj.mp (hnil.trans rfl)) : k.toList ≠ [])
  have hd := not_isWhitespace_of_trim hk hds
  have hfront : (k.toList ++ '=' :: v.toList).dropWhile isWhitespace = k.toList ++ '=' :: v.toList := by
    rw [hds, List.cons_append, List.dropWhile_cons_of_neg (by simp [hd])]
  have heq : isWhitespace '=' = false := by decide
  rw [toList_trim, htext, hfront, String.toList_ofList]
  simp only [List.reverse_append, List.reverse_cons, List.append_assoc, List.singleton_append]
  rw [List.dropWhile_append]
  split
  · next hempty =>
      rw [List.isEmpty_iff.mp hempty, List.dropWhile_cons_of_neg (by simp [heq])]
      simp
  · simp

end Trim

/-! ## Lines -/

theorem linesFrom_newline (acc cs rest : List Char) :
    linesFrom acc (cs ++ '\n' :: rest) = linesFrom acc (cs ++ ['\n']) ++ linesFrom [] rest := by
  induction cs generalizing acc with
  | nil => simp [linesFrom]
  | cons c cs ih =>
    simp only [List.cons_append, linesFrom]
    split_ifs
    · rw [ih, List.cons_append]
    · exact ih _

/-- A text whose last line is terminated. -/
def terminated (s : String) : String := if endsWith s "\n" then s else s ++ "\n"

theorem exists_terminated (s : String) : ∃ cs, (terminated s).toList = cs ++ ['\n'] := by
  unfold terminated
  split_ifs with h
  · obtain ⟨cs, hcs⟩ := endsWith_iff.mp h
    exact ⟨cs, hcs.symm⟩
  · exact ⟨s.toList, by simp⟩

/-- Lines behind a terminated text. -/
theorem lines_terminated_append (s t : String) :
    lines (terminated s ++ t) = lines (terminated s) ++ lines t := by
  obtain ⟨cs, hcs⟩ := exists_terminated s
  rw [lines, lines, lines, String.toList_append, hcs, List.append_assoc, List.singleton_append,
    linesFrom_newline, List.map_append]

theorem trim_chomp (acc : List Char) : trim (String.ofList (chomp acc)) =
    trim (String.ofList acc.reverse) := by
  unfold chomp
  split
  · next acc => rw [List.reverse_cons, trim_concat _ (by decide)]
  · rfl

/-- The lines of a text as a trimming reader sees them; blank ones are left out. -/
def cleaned (clean : String → String) (ls : List String) : List String := (ls.map clean).filter (· ≠ "")

theorem cleaned_linesFrom (acc cs : List Char) (h : ∀ ds, cs ≠ ds ++ ['\n']) :
    cleaned trim ((linesFrom acc (cs ++ ['\n'])).map String.ofList) =
      cleaned trim ((linesFrom acc cs).map String.ofList) := by
  induction cs generalizing acc with
  | nil =>
    simp only [List.nil_append, linesFrom, if_true, List.map_cons, List.map_nil, cleaned, trim_chomp]
    split_ifs with hacc
    · rw [hacc]
      rfl
    · rfl
  | cons c cs ih =>
    have htail : ∀ ds, cs ≠ ds ++ ['\n'] := fun ds hds => h (c :: ds) (by rw [hds]; rfl)
    simp only [List.cons_append, linesFrom]
    split_ifs with hc
    · have hrest := ih [] htail
      simp only [cleaned, List.map_cons, List.filter_cons] at hrest ⊢
      rw [hrest]
    · exact ih _ htail

/-- The missing terminator of a last line changes nothing for a reader that trims. -/
theorem cleaned_terminated (s : String) : cleaned trim (lines (terminated s)) = cleaned trim (lines s) := by
  unfold terminated
  split_ifs with h
  · rfl
  · rw [lines, lines, String.toList_append]
    apply cleaned_linesFrom
    intro ds hds
    exact h (endsWith_iff.mpr ⟨ds, hds.symm⟩)

/-! ## Entries -/

/-- What a reader makes of a line and asks of an entry. -/
structure EntryGrammar where
  clean : String → String
  syntaxError : (line : Nat) → String
  check : (line : Nat) → (key value : String) → Except String Unit
  duplicateError : (key : String) → String

/-- The entries of the lines from a number on, behind those read so far. -/
def readEntries (g : EntryGrammar) :
    Nat → List (String × String) → List String → Except String (List (String × String))
  | _, entries, [] => .ok entries
  | n, entries, line :: rest =>
    if g.clean line = "" then readEntries g (n + 1) entries rest
    else do
      let entry ← okOr (splitOnce (g.clean line) '=') (g.syntaxError n)
      g.check n entry.1 entry.2
      rejectIf (entry.1 ∈ entries.map Prod.fst) (g.duplicateError entry.1)
      readEntries g (n + 1) (entries ++ [entry]) rest

/-- The entries that the lines spell. -/
def entriesOf (clean : String → String) (ls : List String) : List (String × String) :=
  (cleaned clean ls).filterMap fun line => splitOnce line '='

section Read

variable {g : EntryGrammar} {Good : String → String → Prop} {ls : List String}
  {entries found : List (String × String)} {n : Nat}

/-- **What a reader accepts.** Every line that is not blank is a good entry, no key occurs twice, and the
entries are those the lines spell. -/
theorem readEntries_eq_ok (hcheck : ∀ n k v, g.check n k v = .ok () ↔ Good k v)
    (hnodup : (entries.map Prod.fst).Nodup) :
    readEntries g n entries ls = .ok found ↔
      (∀ line ∈ cleaned g.clean ls, ∃ k v, splitOnce line '=' = some (k, v) ∧ Good k v) ∧
        ((entries ++ entriesOf g.clean ls).map Prod.fst).Nodup ∧
        found = entries ++ entriesOf g.clean ls := by
  induction ls generalizing n entries with
  | nil => simp [readEntries, cleaned, entriesOf, hnodup, eq_comm]
  | cons line rest ih =>
    unfold readEntries
    by_cases hblank : g.clean line = ""
    · have hcleaned : cleaned g.clean (line :: rest) = cleaned g.clean rest := by simp [cleaned, hblank]
      rw [if_pos hblank, ih hnodup, entriesOf, entriesOf, hcleaned]
    · have hcleaned : cleaned g.clean (line :: rest) = g.clean line :: cleaned g.clean rest := by
        simp [cleaned, hblank]
      rw [if_neg hblank, hcleaned, List.forall_mem_cons]
      simp only [ok_iff, hcheck]
      have happend : ∀ k v, splitOnce (g.clean line) '=' = some (k, v) →
          entries ++ entriesOf g.clean (line :: rest) = (entries ++ [(k, v)]) ++ entriesOf g.clean rest := by
        intro k v hsplit
        simp [entriesOf, hcleaned, hsplit]
      constructor
      · rintro ⟨⟨k, v⟩, hsplit, hgood, hfresh, hrest⟩
        have hnodup' : ((entries ++ [(k, v)]).map Prod.fst).Nodup := by
          rw [List.map_append, List.nodup_append]
          refine ⟨hnodup, by simp, ?_⟩
          rintro a ha b hb rfl
          exact hfresh (List.mem_singleton.mp hb ▸ ha)
        obtain ⟨hlines, hkeys, hfound⟩ := (ih hnodup').mp hrest
        rw [happend k v hsplit]
        exact ⟨⟨⟨k, v, hsplit, hgood⟩, hlines⟩, hkeys, hfound⟩
      · rintro ⟨⟨⟨k, v, hsplit, hgood⟩, hlines⟩, hkeys, hfound⟩
        rw [happend k v hsplit] at hkeys hfound
        have hnodup' : ((entries ++ [(k, v)]).map Prod.fst).Nodup := by
          rw [List.map_append] at hkeys
          exact (List.nodup_append.mp hkeys).1
        refine ⟨(k, v), hsplit, hgood, ?_, (ih hnodup').mpr ⟨hlines, hkeys, hfound⟩⟩
        rw [List.map_append, List.nodup_append] at hnodup'
        exact fun hmem => hnodup'.2.2 k hmem k (List.mem_singleton.mpr rfl) rfl

/-- The same from the first line on. -/
theorem readEntries_nil_eq_ok (hcheck : ∀ n k v, g.check n k v = .ok () ↔ Good k v) :
    readEntries g n [] ls = .ok found ↔
      (∀ line ∈ cleaned g.clean ls, ∃ k v, splitOnce line '=' = some (k, v) ∧ Good k v) ∧
        ((entriesOf g.clean ls).map Prod.fst).Nodup ∧ found = entriesOf g.clean ls := by
  have hnil : (([] : List (String × String)).map Prod.fst).Nodup := List.nodup_nil
  simpa using @readEntries_eq_ok g Good ls [] found n hcheck hnil

end Read

end Foundation
