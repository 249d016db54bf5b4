import EdgePlatform.Host.Admin

/-!
# `EdgePlatform.Host.CommandLine` — the command line of a Windows admin program

`windows_admin_process.rs` quotes each argument and joins them; the program's C runtime takes the line apart
again (`crtArgv`). The runtime reads the program name without escapes and the other arguments with them, so a
program name that ends in a backslash is not read back; of the names that `validateForKind` accepts these are
the drive roots (`accepted_command_line`). The length that `validateForKind` computes is that of the line and
its terminator.
-/

namespace EdgePlatform.Host.HostAdmin

open Foundation

/-- The loop of `quote`, with the backslashes that are held back. -/
def quoteFrom : Nat → List Char → List Char
  | slashes, [] => .replicate (slashes * 2) '\\'
  | slashes, c :: cs =>
    if c = '\\' then quoteFrom (slashes + 1) cs
    else .replicate (if c = '\x22' then slashes * 2 + 1 else slashes) '\\' ++ c :: quoteFrom 0 cs

/-- An argument in quotes, read back as it was. -/
def quoteChars (s : String) : List Char := '\x22' :: quoteFrom 0 s.toList ++ ['\x22']

/-- The quoted arguments, joined by blanks. -/
def commandLine (argv : List String) : List Char := [' '].intercalate (argv.map quoteChars)

/-! ## The C runtime -/

def isBlank (c : Char) : Bool := c = ' ' || c = '\t'

/-- The program name: quotes only keep blanks together. -/
def programName : Bool → List Char → List Char × List Char
  | _, [] => ([], [])
  | inQuotes, c :: cs =>
    if c = '\x22' then programName (!inQuotes) cs
    else if !inQuotes && isBlank c then ([], cs)
    else (c :: (programName inQuotes cs).1, (programName inQuotes cs).2)

/-- An argument, with the backslashes just read: they are literal unless a quote follows, which an odd number
    of them makes literal. Two quotes in a quoted part are a literal one. -/
def argument : Nat → Bool → List Char → List Char × List Char
  | slashes, _, [] => (.replicate slashes '\\', [])
  | slashes, inQuotes, c :: cs =>
    if c = '\\' then argument (slashes + 1) inQuotes cs
    else if c = '\x22' then
      if slashes % 2 = 1 then
        (.replicate (slashes / 2) '\\' ++ '\x22' :: (argument 0 inQuotes cs).1, (argument 0 inQuotes cs).2)
      else match cs, inQuotes with
        | '\x22' :: rest, true =>
          (.replicate (slashes / 2) '\\' ++ '\x22' :: (argument 0 true rest).1, (argument 0 true rest).2)
        | cs, inQuotes =>
          (.replicate (slashes / 2) '\\' ++ (argument 0 (!inQuotes) cs).1, (argument 0 (!inQuotes) cs).2)
    else if !inQuotes && isBlank c then (.replicate slashes '\\', cs)
    else (.replicate slashes '\\' ++ c :: (argument 0 inQuotes cs).1, (argument 0 inQuotes cs).2)

/-- The arguments behind the program name; every turn reads at least one character. -/
def arguments : Nat → List Char → List (List Char)
  | 0, _ => []
  | fuel + 1, cs =>
    match cs.dropWhile isBlank with
    | [] => []
    | c :: rest => (argument 0 false (c :: rest)).1 :: arguments fuel (argument 0 false (c :: rest)).2

/-- `argv` as a program finds it. -/
def crtArgv (line : List Char) : List String :=
  let name := programName false line
  (name.1 :: arguments name.2.length name.2).map String.ofList

/-! ## Reading back -/

/-- What follows an argument: nothing, or a blank and `rest`. -/
def Ends (tail rest : List Char) : Prop := (tail = [] ∧ rest = []) ∨ tail = ' ' :: rest

section Argument

variable {n : Nat} {q : Bool} {c : Char} {cs : List Char}

theorem argument_slash : argument n q ('\\' :: cs) = argument (n + 1) q cs := by
  rw [argument.eq_def]
  rfl

theorem argument_escaped (hodd : n % 2 = 1) : argument n q ('\x22' :: cs) =
    (.replicate (n / 2) '\\' ++ '\x22' :: (argument 0 q cs).1, (argument 0 q cs).2) := by
  rw [argument.eq_def]
  simp [hodd]

theorem argument_literal (hslash : c ≠ '\\') (hquote : c ≠ '\x22') : argument n true (c :: cs) =
    (.replicate n '\\' ++ c :: (argument 0 true cs).1, (argument 0 true cs).2) := by
  rw [argument.eq_def]
  simp [hslash, hquote]

theorem argument_slashes (k : Nat) : argument n q (.replicate k '\\' ++ cs) = argument (n + k) q cs := by
  induction k generalizing n with
  | zero => rfl
  | succ k ih =>
    rw [List.replicate_succ, List.cons_append, argument_slash, ih]
    congr 1
    omega

/-- **A quoted argument is read back**, whatever is held back. -/
theorem argument_quoted {tail rest : List Char} (hends : Ends tail rest) (n : Nat) (cs : List Char) :
    argument 0 true (quoteFrom n cs ++ '\x22' :: tail) = (.replicate n '\\' ++ cs, rest) := by
  induction cs generalizing n with
  | nil =>
    have heven : n * 2 % 2 ≠ 1 ∧ n * 2 / 2 = n := by omega
    rw [quoteFrom, argument_slashes]
    rcases hends with ⟨rfl, rfl⟩ | rfl <;> simp [argument, heven, isBlank]
  | cons c cs ih =>
    by_cases hslash : c = '\\'
    · subst hslash
      rw [quoteFrom, if_pos rfl, ih, List.replicate_succ', List.append_assoc]
      rfl
    · by_cases hquote : c = '\x22'
      · subst hquote
        have hodd : (0 + (n * 2 + 1)) % 2 = 1 ∧ (0 + (n * 2 + 1)) / 2 = n := by omega
        rw [quoteFrom, if_neg hslash, if_pos rfl, List.append_assoc, List.cons_append, argument_slashes,
          argument_escaped hodd.1, ih, hodd.2]
        rfl
      · rw [quoteFrom, if_neg hslash, if_neg hquote, List.append_assoc, List.cons_append, argument_slashes,
          argument_literal hslash hquote, ih, Nat.zero_add]
        rfl

end Argument

theorem programName_quoted {tail rest : List Char} (hends : Ends tail rest) {cs : List Char}
    (hcs : '\x22' ∉ cs) :
    programName true (cs ++ '\x22' :: tail) = (cs, rest) := by
  induction cs with
  | nil => rcases hends with ⟨rfl, rfl⟩ | rfl <;> simp [programName, isBlank]
  | cons c cs ih =>
    have hc : c ≠ '\x22' := fun h => hcs (h ▸ (.head _))
    rw [List.cons_append, programName, if_neg hc, ih fun h => hcs (.tail _ h)]
    rfl

/-- What follows the first argument: the line of the others behind a blank. -/
def lineTail : List String → List Char
  | [] => []
  | b :: bs => ' ' :: commandLine (b :: bs)

theorem ends_lineTail (as : List String) : Ends (lineTail as) (commandLine as) := by
  cases as with
  | nil => exact .inl ⟨rfl, rfl⟩
  | cons b bs => exact .inr rfl

theorem commandLine_cons (a : String) (as : List String) :
    commandLine (a :: as) = '\x22' :: (quoteFrom 0 a.toList ++ '\x22' :: lineTail as) := by
  cases as <;> simp [commandLine, lineTail, quoteChars, List.intercalate]

theorem length_le_commandLine (as : List String) : as.length ≤ (commandLine as).length := by
  induction as with
  | nil => exact Nat.zero_le _
  | cons a as ih =>
    have htail : (commandLine as).length ≤ (lineTail as).length := by
      cases as with
      | nil => exact Nat.zero_le _
      | cons b bs => exact Nat.le_succ _
    simp only [commandLine_cons, List.length_cons, List.length_append]
    omega

theorem arguments_commandLine {fuel : Nat} {as : List String} (h : as.length ≤ fuel) :
    arguments fuel (commandLine as) = as.map String.toList := by
  induction as generalizing fuel with
  | nil => cases fuel <;> rfl
  | cons a as ih =>
    obtain ⟨fuel, rfl⟩ : ∃ n, fuel = n + 1 := ⟨fuel - 1, by simp at h; omega⟩
    have hargument : argument 0 false ('\x22' :: (quoteFrom 0 a.toList ++ '\x22' :: lineTail as)) =
        (a.toList, commandLine as) := by
      have hquoted := argument_quoted (ends_lineTail as) 0 a.toList
      simp [argument, hquoted]
    rw [commandLine_cons]
    simp [arguments, isBlank, hargument, ih (Nat.le_of_succ_le_succ h)]

/-- Without quotes, only backslashes at the end are doubled. -/
theorem quoteFrom_plain {cs : List Char} (hcs : '\x22' ∉ cs) (n : Nat) :
    ∃ k, quoteFrom n cs = .replicate n '\\' ++ cs ++ .replicate k '\\' ∧
      (k = 0 ↔ (.replicate n '\\' ++ cs : List Char).getLast? ≠ some '\\') := by
  induction cs generalizing n with
  | nil =>
    refine ⟨n, by rw [quoteFrom, Nat.mul_two, List.append_nil, List.replicate_append_replicate], ?_⟩
    cases n <;> simp [List.replicate_succ']
  | cons c cs ih =>
    obtain ⟨hquote, htail⟩ := not_or.mp (mt List.mem_cons.mpr hcs)
    by_cases hslash : c = '\\'
    · subst hslash
      have hmove : (.replicate n '\\' ++ '\\' :: cs : List Char) = .replicate (n + 1) '\\' ++ cs := by
        rw [List.replicate_succ', List.append_assoc]
        rfl
      rw [quoteFrom, if_pos rfl, hmove]
      exact ih htail (n + 1)
    · obtain ⟨k, hquoted, hlast⟩ := ih htail 0
      refine ⟨k, ?_, hlast.trans ?_⟩
      · rw [quoteFrom, if_neg hslash, if_neg (Ne.symm hquote), hquoted]
        simp
      · simp only [List.getLast?_append, List.getLast?_cons, List.replicate_zero, List.nil_append]
        cases cs.getLast? <;> simp [hslash]

/-! ## The length -/

/-- The UTF-16 units of a text. -/
def units (cs : List Char) : Nat := utf16Count (String.ofList cs)

theorem units_cons (c : Char) (cs : List Char) :
    units (c :: cs) = (if c.toNat < 65536 then 1 else 2) + units cs := by
  simp [units, utf16Count]

theorem units_append (cs ds : List Char) : units (cs ++ ds) = units cs + units ds := by
  simp [units, utf16Count]

theorem units_replicate (n : Nat) : units (.replicate n '\\') = n := by simp [units, utf16Count]

theorem units_quoteFrom (n : Nat) (cs : List Char) :
    units (quoteFrom n cs) = n + units cs + quotingUnits n cs := by
  induction cs generalizing n with
  | nil =>
    rw [quoteFrom, units_replicate, quotingUnits]
    simp [units, utf16Count]
    omega
  | cons c cs ih =>
    rw [quoteFrom, quotingUnits, units_cons]
    by_cases hslash : c = '\\'
    · subst hslash
      rw [if_pos rfl, if_pos rfl, ih, if_pos (by decide)]
      omega
    · rw [if_neg hslash, if_neg hslash, units_append, units_replicate, units_cons, ih]
      by_cases hquote : c = '\x22'
      · subst hquote
        rw [if_pos rfl, if_pos rfl]
        omega
      · rw [if_neg hquote, if_neg hquote]
        omega

/-- **The computed length is that of the line and its terminator.** -/
theorem units_commandLine {argv : List String} (hne : argv ≠ []) :
    units (commandLine argv) + 1 = commandUnits argv := by
  induction argv with
  | nil => exact absurd rfl hne
  | cons a as ih =>
    have hquote : ∀ cs, units ('\x22' :: cs) = 1 + units cs := fun cs => units_cons _ cs
    have ha : units a.toList = utf16Count a := by rw [units, String.ofList_toList]
    rw [commandLine_cons, hquote, units_append, units_quoteFrom, hquote, ha, commandUnits, List.map_cons,
      List.sum_cons, List.length_cons]
    cases as with
    | nil =>
      simp [lineTail, units, utf16Count]
      omega
    | cons b bs =>
      have hrest := ih (List.cons_ne_nil b bs)
      have hblank : units (lineTail (b :: bs)) = 1 + units (commandLine (b :: bs)) := units_cons _ _
      simp only [commandUnits] at hrest
      omega

/-! ## Accepted requests -/

theorem nil_mem_splitAt {sep : Char} {cs : List Char} (h : cs.getLast? = some sep) :
    [] ∈ (splitAt sep cs).tail := by
  induction cs with
  | nil => cases h
  | cons c cs ih =>
    cases cs with
    | nil =>
      obtain rfl : c = sep := Option.some.inj h
      simp [splitAt]
    | cons d ds =>
      have htail := ih (by rwa [List.getLast?_cons_cons] at h)
      rw [splitAt]
      split
      · exact List.mem_of_mem_tail htail
      · cases hparts : splitAt sep (d :: ds) with
        | nil => simp [hparts] at htail
        | cons part parts => simpa [hparts] using htail

/-- An accepted program name has no quote, and ends in a backslash only as a drive root. -/
theorem windowsAbsolutePath_spec {path : String} (h : windowsAbsolutePath path = true) :
    '\x22' ∉ path.toList ∧ (path.toList.getLast? ≠ some '\\' ↔ path.toList.length ≠ 3) := by
  unfold windowsAbsolutePath at h
  split at h
  · next drive rest hpath =>
    simp only [Bool.and_eq_true, Bool.or_eq_true, Bool.not_eq_true'] at h
    obtain ⟨⟨⟨-, hplain⟩, -⟩, hparts⟩ := h
    refine ⟨fun hmem => ?_, ?_⟩
    · have hany := List.any_eq_false.mp hplain _ hmem
      simp at hany
    · rw [hpath]
      rcases hparts with hroot | hparts
      · rw [List.isEmpty_iff.mp hroot]
        simp
      · have hlast : rest.getLast? ≠ some '\\' := by
          intro hlast
          have hpart := List.any_eq_false.mp hparts [] (List.mem_of_mem_tail (nil_mem_splitAt hlast))
          exact hpart (by decide)
        cases rest with
        | nil => simp [splitAt, windowsPartInvalid] at hparts
        | cons c cs => simpa using hlast
  · cases h

/-- **The command line of an accepted request.** Its length is the one that was computed and within the
    limit, and the program finds its arguments; it finds its name unless that is a drive root. -/
theorem accepted_command_line {request : FleetNativeAdminRequest}
    (h : validateForKind request .windows = .ok ()) :
    utf16Count (String.ofList (commandLine request.argv)) + 1 = commandUnits request.argv ∧
      commandUnits request.argv ≤ 32767 ∧ (crtArgv (commandLine request.argv)).tail = request.argv.tail ∧
      (crtArgv (commandLine request.argv) = request.argv ↔ (request.argv.headD "").toList.length ≠ 3) := by
  simp only [validateForKind, validate, ok_iff, not_or, not_lt, pure_eq_ok] at h
  obtain ⟨⟨-, -, -, -, -, -, -, -, hne, -⟩, hunits, valid, rfl, hvalid⟩ := h
  obtain ⟨a, as, hargv⟩ := List.exists_cons_of_ne_nil hne
  rw [Bool.not_eq_false, hargv, List.headD_cons, Bool.and_eq_true] at hvalid
  obtain ⟨hquote, hroot⟩ := windowsAbsolutePath_spec hvalid.1
  obtain ⟨k, hquoted, hk⟩ := quoteFrom_plain hquote 0
  rw [List.replicate_zero, List.nil_append] at hquoted hk
  have hname : programName false (commandLine (a :: as)) = (quoteFrom 0 a.toList, commandLine as) := by
    have hnone : '\x22' ∉ quoteFrom 0 a.toList := by simp [hquoted, hquote]
    have hread := programName_quoted (ends_lineTail as) hnone
    rw [commandLine_cons, programName, if_pos rfl]
    exact hread
  have hcrt : crtArgv (commandLine (a :: as)) = String.ofList (quoteFrom 0 a.toList) :: as := by
    rw [crtArgv, hname]
    simp [arguments_commandLine (length_le_commandLine as)]
  rw [hargv] at hunits ⊢
  refine ⟨units_commandLine (List.cons_ne_nil a as),
    hunits, by rw [hcrt, List.tail_cons, List.tail_cons], ?_⟩
  rw [hcrt, List.headD_cons, ← hroot, ← hk, List.cons.injEq, hquoted]
  constructor
  · rintro ⟨heq, -⟩
    have hlength := congrArg (fun s => s.toList.length) heq
    simpa using hlength
  · rintro rfl
    simp

def sampleAdmin (argv : List String) : FleetNativeAdminRequest where
  schemaVersion := 1
  machineId := "windows-1"
  sourceCommentId := 5
  argv := argv
  releaseSetSha256 := .replicate 32 1
  requestedAtUnix := 9
  commentSha256 := .replicate 32 2
  workingDirectory := ""
  environment := []
  stdinBytes := []
  timeoutSeconds := 60
  publishOutput := false

set_option maxRecDepth 2000 in
/-- A blank, a quote behind a backslash and a backslash at the end. -/
theorem quoted_argument_found : ∃ argv, argv.length = 2 ∧
    validateForKind (sampleAdmin argv) .windows = .ok () ∧ crtArgv (commandLine argv) = argv := by
  have h : validateForKind (sampleAdmin ["C:\\a b", "x\\\x22\\"]) .windows = .ok () := by decide
  exact ⟨_, rfl, h, (accepted_command_line h).2.2.2.mpr (by decide)⟩

/-- A drive root as program name is accepted and found with two backslashes. -/
theorem drive_root_doubled :
    validateForKind (sampleAdmin ["C:\\"]) .windows = .ok () ∧
      crtArgv (commandLine ["C:\\"]) = ["C:\\\\"] := by
  decide

end EdgePlatform.Host.HostAdmin
