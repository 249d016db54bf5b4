import EdgePlatform.Foundation.Proc
import EdgePlatform.Foundation.CrashDir

/-!
# `EdgePlatform.Foundation.FsProc` — procedures over crash-prone directories

The signature `fsSig ι X` has the operations of `Foundation.CrashDir` on a family of directories indexed by
`ι`, and the client's own operations `X`, which may look at the directories but change only the client's own
state. `fsSem` interprets them. `fsCut` cuts a procedure off: a killed process leaves the directories as they
are, with what was not synced still at risk; a power failure (`fsCrash`) crashes every directory.

Each operation has one `safe_*` rule: it evaluates the operation and leaves its guard as an obligation. The
two compound procedures that crash-safe code is built from, `durableCreate` and `durableRemove`, have rules
of their own whose intermediate states are described by `Writing`.
-/

namespace Foundation

/-! ## Operations on one directory -/

/-- The calls on a directory. -/
inductive DirOp
  | stat (n : String)
  | read (n : String)
  | list
  | createNew (n : String)
  | append (n : String) (b : Bytes)
  | fsync (n : String)
  | syncDir
  | remove (n : String)
  | rename (a b : String)

@[reducible] def DirOp.Ans : DirOp → Type
  | .stat _ | .createNew _ | .remove _ | .rename .. => Bool
  | .read _ => Option Bytes
  | .list => List String
  | .append .. | .fsync _ | .syncDir => Unit

/-- `list` answers in any order; every other operation is a function of the directory. -/
def DirOp.Sem : (o : DirOp) → Dir → o.Ans → Dir → Prop
  | .stat n, d, a, d' => a = (d.get n).isSome ∧ d' = d
  | .read n, d, a, d' => a = d.read n ∧ d' = d
  | .list, d, a, d' => List.Perm a d.live.keys ∧ d' = d
  | .createNew n, d, a, d' => a = (d.get n).isNone ∧ d' = if (d.get n).isNone then d.create n else d
  | .append n b, d, _, d' => d' = d.append n b
  | .fsync n, d, _, d' => d' = d.fsync n
  | .syncDir, d, _, d' => d' = d.syncDir
  | .remove n, d, a, d' => a = (d.get n).isSome ∧ d' = if (d.get n).isSome then d.remove n else d
  | .rename m n, d, a, d' => a = (d.get m).isSome ∧ d' = d.rename m n

/-- The answer of a concrete directory. -/
def DirOp.run : (o : DirOp) → Dir → o.Ans × Dir
  | .stat n, d => ((d.get n).isSome, d)
  | .read n, d => (d.read n, d)
  | .list, d => (d.live.keys, d)
  | .createNew n, d => ((d.get n).isNone, if (d.get n).isNone then d.create n else d)
  | .append n b, d => ((), d.append n b)
  | .fsync n, d => ((), d.fsync n)
  | .syncDir, d => ((), d.syncDir)
  | .remove n, d => ((d.get n).isSome, if (d.get n).isSome then d.remove n else d)
  | .rename m n, d => ((d.get m).isSome, d.rename m n)

theorem DirOp.run_sem (o : DirOp) (d : Dir) : o.Sem d (o.run d).1 (o.run d).2 := by
  cases o <;> first | exact ⟨rfl, rfl⟩ | exact ⟨.refl _, rfl⟩ | rfl

/-- The operations that bring the new entry `n` with contents `b` into being. -/
inductive DirOp.Writes (n : String) (b : Bytes) : DirOp → Prop
  | createNew : Writes n b (.createNew n)
  | append : Writes n b (.append n b)
  | fsync : Writes n b (.fsync n)

variable {b : Bytes} {o : DirOp}

theorem DirOp.Writes.name_unique {n m : String} {c : Bytes} (h : o.Writes n b)
    (h' : o.Writes m c) : n = m := by
  cases h <;> cases h' <;> rfl

variable {d d' : Dir}

theorem DirOp.Writes.agreeOff {n : String} {a : o.Ans}
    (h : o.Writes n b) (hs : o.Sem d a d') : Dir.AgreeOff n d d' := by
  cases h with
  | createNew =>
    obtain ⟨-, rfl⟩ := hs
    split
    · exact Dir.agreeOff_create d n
    · exact Dir.AgreeOff.refl n d
  | append => cases hs; exact Dir.agreeOff_append d n b
  | fsync => cases hs; exact Dir.agreeOff_fsync d n

/-- What writing an entry can make of it. -/
theorem DirOp.Writes.possible {n : String} {a : o.Ans} {v : Option File} (h : o.Writes n b)
    (hs : o.Sem d a d') (hv : d'.Possible n v) :
    d.Possible n v ∨ ∃ f, v = some f ∧ (f.data = [] ∨ ∃ g, d.get n = some g ∧
      (o = .append n b ∧ f.data = g.data ++ b ∨ o = .fsync n ∧ f.data = g.data)) := by
  cases h with
  | createNew =>
    obtain ⟨-, rfl⟩ := hs
    split at hv
    · exact (Dir.possible_create.mp hv).imp_right fun hnew => ⟨_, hnew.2, .inl rfl⟩
    · exact .inl hv
  | append =>
    cases hs
    cases hg : d.get n with
    | none => exact .inl (by simpa [Dir.append, hg] using hv)
    | some g => exact (Dir.possible_append hg hv).imp_right fun hnew => ⟨_, hnew.2,
        .inr ⟨g, rfl, .inl ⟨rfl, rfl⟩⟩⟩
  | fsync =>
    cases hs
    cases hg : d.get n with
    | none => exact .inl (by simpa [Dir.fsync, hg] using hv)
    | some g =>
      exact (Dir.possible_fsync hg hv).imp_right fun hnew =>
        ⟨⟨g.data, true⟩, hnew.2, .inr ⟨g, rfl, .inr ⟨rfl, rfl⟩⟩⟩

/-- Writing an entry does not make it easier to lose. -/
theorem DirOp.Writes.possible_none {n : String} {a : o.Ans}
    (h : o.Writes n b) (hs : o.Sem d a d') (hn : d'.Possible n none) : d.Possible n none :=
  (h.possible hs hn).resolve_right fun ⟨_, hsome, _⟩ => nomatch hsome

/-- An operation that writes an entry and leaves none has done nothing. -/
theorem DirOp.Writes.same_of_none {n : String} {a : o.Ans}
    (h : o.Writes n b) (hs : o.Sem d a d') (hn : d'.get n = none) : d' = d := by
  cases h with
  | createNew =>
    obtain ⟨-, rfl⟩ := hs
    split at hn
    · simp at hn
    · rename_i hsome
      rw [if_neg hsome]
  | append =>
    cases hs
    cases hg : d.get n with
    | none => simp [Dir.append, hg]
    | some g => simp [Dir.get_append hg] at hn
  | fsync =>
    cases hs
    cases hg : d.get n with
    | none => simp [Dir.fsync, hg]
    | some g => simp [Dir.get_fsync hg] at hn

/-! ## The signature -/

inductive FsOp (ι : Type) (X : Sig)
  | dir (i : ι) (o : DirOp)
  | own (x : X.Op)

@[reducible] def FsOp.Ans {ι : Type} {X : Sig} : FsOp ι X → Type
  | .dir _ o => o.Ans
  | .own x => X.Ans x

@[reducible] def fsSig (ι : Type) (X : Sig) : Sig := ⟨FsOp ι X, FsOp.Ans⟩

/-- The directories, and the client's own state. -/
structure FsWorld (ι E : Type) where
  dirs : ι → Dir
  env : E

variable {ι E : Type} {X : Sig} [DecidableEq ι]

def FsWorld.setDir (w : FsWorld ι E) (i : ι) (d : Dir) : FsWorld ι E :=
  { w with dirs := Function.update w.dirs i d }

@[simp] theorem FsWorld.setDir_dirs_self (w : FsWorld ι E) (i : ι) (d : Dir) :
    (w.setDir i d).dirs i = d := by
  simp [FsWorld.setDir]

@[simp] theorem FsWorld.setDir_dirs_ne (w : FsWorld ι E) {i j : ι} (d : Dir) (h : j ≠ i) :
    (w.setDir i d).dirs j = w.dirs j := by simp [FsWorld.setDir, h]

@[simp] theorem FsWorld.setDir_env (w : FsWorld ι E) (i : ι) (d : Dir) : (w.setDir i d).env = w.env := rfl

@[simp] theorem FsWorld.setDir_setDir (w : FsWorld ι E) (i : ι) (d d' : Dir) :
    (w.setDir i d).setDir i d' = w.setDir i d' := by simp [FsWorld.setDir]

@[simp] theorem FsWorld.setDir_self (w : FsWorld ι E) (i : ι) : w.setDir i (w.dirs i) = w := by
  simp [FsWorld.setDir]

/-- The client's operations see the directories and change only the client's state. -/
abbrev OwnSem (ι E : Type) (X : Sig) := (x : X.Op) → FsWorld ι E → X.Ans x → E → Prop

def fsSem (own : OwnSem ι E X) : Sem (fsSig ι X) (FsWorld ι E)
  | .dir i o, w, a, w' => ∃ d', o.Sem (w.dirs i) a d' ∧ w' = w.setDir i d'
  | .own x, w, a, w' => ∃ e', own x w a e' ∧ w' = { w with env := e' }

/-- A power failure crashes every directory and leaves the client's (ghost) state. -/
def fsCrash (w w' : FsWorld ι E) : Prop := (∀ i, (w.dirs i).Crash (w'.dirs i)) ∧ w'.env = w.env

/-- How a procedure is cut off: the process is killed and the directories stay as they are, or the power
fails. -/
inductive fsCut (w : FsWorld ι E) : FsWorld ι E → Prop
  | killed : fsCut w w
  | powerFailed {w' : FsWorld ι E} : fsCrash w w' → fsCut w w'

/-- Run against concrete directories and a concrete client. -/
def fsHandle (own : (x : X.Op) → FsWorld ι E → X.Ans x × E) :
    (op : (fsSig ι X).Op) → FsWorld ι E → (fsSig ι X).Ans op × FsWorld ι E
  | .dir i o, w =>
    match o.run (w.dirs i) with
    | (a, d') => (a, w.setDir i d')
  | .own x, w =>
    match own x w with
    | (a, e') => (a, { w with env := e' })

theorem fsHandle_sem {own : OwnSem ι E X} {run : (x : X.Op) → FsWorld ι E → X.Ans x × E}
    (h : ∀ x w, own x w (run x w).1 (run x w).2) (op : (fsSig ι X).Op) (w : FsWorld ι E) :
    fsSem own op w (fsHandle run op w).1 (fsHandle run op w).2 := by
  cases op with
  | dir i o => exact ⟨_, o.run_sem _, rfl⟩
  | own x => exact ⟨_, h x w, rfl⟩

/-! ## Procedures -/

namespace Fs

variable (i : ι)

def stat (n : String) : Proc (fsSig ι X) Bool := .call (.dir i (.stat n)) .ret
def read (n : String) : Proc (fsSig ι X) (Option Bytes) := .call (.dir i (.read n)) .ret
def list : Proc (fsSig ι X) (List String) := .call (.dir i .list) .ret
def createNew (n : String) : Proc (fsSig ι X) Bool := .call (.dir i (.createNew n)) .ret
def append (n : String) (b : Bytes) : Proc (fsSig ι X) Unit := .call (.dir i (.append n b)) .ret
def fsync (n : String) : Proc (fsSig ι X) Unit := .call (.dir i (.fsync n)) .ret
def syncDir : Proc (fsSig ι X) Unit := .call (.dir i .syncDir) .ret
def remove (n : String) : Proc (fsSig ι X) Bool := .call (.dir i (.remove n)) .ret
def rename (a b : String) : Proc (fsSig ι X) Bool := .call (.dir i (.rename a b)) .ret
def own (x : X.Op) : Proc (fsSig ι X) (X.Ans x) := .call (.own x) .ret

/-- Read an entry that must exist. -/
def readOr (n : String) (missing : String) : Proc (fsSig ι X) Bytes := do
  match ← read i n with
  | some b => pure b
  | none => Proc.fail missing

/-- Create `n` as a new file with contents `b`, sync it, sync the directory. -/
def durableCreate (n : String) (b : Bytes) (taken : String) : Proc (fsSig ι X) Unit := do
  let fresh ← createNew i n
  rejectIf (fresh = false) taken
  append i n b
  fsync i n
  syncDir i

/-- Remove `n`, sync the directory. -/
def durableRemove (n : String) (missing : String) : Proc (fsSig ι X) Unit := do
  let removed ← remove i n
  rejectIf (removed = false) missing
  syncDir i

end Fs

/-! ## Rules -/

namespace Proc

variable {own : OwnSem ι E X} {guard : (fsSig ι X).Op → FsWorld ι E → Prop}
variable {α : Type} {Q : Except String α → FsWorld ι E → Prop} {w : FsWorld ι E} {i : ι}

variable {n missing : String} {k : Bool → Proc (fsSig ι X) α}

theorem safe_stat :
    Safe (fsSem own) guard (Fs.stat i n >>= k) Q w ↔
      guard (.dir i (.stat n)) w ∧ Safe (fsSem own) guard (k ((w.dirs i).get n).isSome) Q w := by
  refine and_congr Iff.rfl ⟨fun h => h _ _ ⟨_, ⟨rfl, rfl⟩, by simp⟩, ?_⟩
  rintro h a w' ⟨d', ⟨rfl, rfl⟩, rfl⟩
  rw [FsWorld.setDir_self]
  exact h

theorem safe_read {k : Option Bytes → Proc (fsSig ι X) α} :
    Safe (fsSem own) guard (Fs.read i n >>= k) Q w ↔
      guard (.dir i (.read n)) w ∧ Safe (fsSem own) guard (k ((w.dirs i).read n)) Q w := by
  refine and_congr Iff.rfl ⟨fun h => h _ _ ⟨_, ⟨rfl, rfl⟩, by simp⟩, ?_⟩
  rintro h a w' ⟨d', ⟨rfl, rfl⟩, rfl⟩
  rw [FsWorld.setDir_self]
  exact h

theorem safe_list {k : List String → Proc (fsSig ι X) α} :
    Safe (fsSem own) guard (Fs.list i >>= k) Q w ↔
      guard (.dir i .list) w ∧
        ∀ names, List.Perm names (w.dirs i).live.keys → Safe (fsSem own) guard (k names) Q w := by
  refine and_congr Iff.rfl ⟨fun h names hp => h names w ⟨_, ⟨hp, rfl⟩, by simp⟩, ?_⟩
  rintro h a w' ⟨d', ⟨hp, rfl⟩, rfl⟩
  rw [FsWorld.setDir_self]
  exact h a hp

/-- A call that answers whether it changed the directory. -/
theorem forall_tested {P : Bool → FsWorld ι E → Prop} {changed : Bool} :
    (∀ a w', (∃ d', (a = changed ∧ d' = if changed then d else w.dirs i) ∧ w' = w.setDir i d') → P a w') ↔
      if changed then P true (w.setDir i d) else P false w := by
  cases changed <;> simp

theorem safe_createNew :
    Safe (fsSem own) guard (Fs.createNew i n >>= k) Q w ↔
      guard (.dir i (.createNew n)) w ∧
        if ((w.dirs i).get n).isNone then
          Safe (fsSem own) guard (k true) Q (w.setDir i ((w.dirs i).create n))
        else Safe (fsSem own) guard (k false) Q w :=
  and_congr Iff.rfl forall_tested

theorem safe_append {k : Unit → Proc (fsSig ι X) α} : Safe (fsSem own) guard (Fs.append i n b >>= k) Q w ↔
      guard (.dir i (.append n b)) w ∧
        Safe (fsSem own) guard (k ()) Q (w.setDir i ((w.dirs i).append n b)) := by
  refine and_congr Iff.rfl ⟨fun h => h () _ ⟨_, rfl, rfl⟩, ?_⟩
  rintro h a w' ⟨d', rfl, rfl⟩
  exact h

theorem safe_fsync {k : Unit → Proc (fsSig ι X) α} :
    Safe (fsSem own) guard (Fs.fsync i n >>= k) Q w ↔
      guard (.dir i (.fsync n)) w ∧
        Safe (fsSem own) guard (k ()) Q (w.setDir i ((w.dirs i).fsync n)) := by
  refine and_congr Iff.rfl ⟨fun h => h () _ ⟨_, rfl, rfl⟩, ?_⟩
  rintro h a w' ⟨d', rfl, rfl⟩
  exact h

theorem safe_syncDir {Q : Except String Unit → FsWorld ι E → Prop} :
    Safe (fsSem own) guard (Fs.syncDir i) Q w ↔
      guard (.dir i .syncDir) w ∧ Q (.ok ()) (w.setDir i (w.dirs i).syncDir) := by
  refine and_congr Iff.rfl ⟨fun h => h () _ ⟨_, rfl, rfl⟩, ?_⟩
  rintro h a w' ⟨d', rfl, rfl⟩
  exact h

theorem safe_remove :
    Safe (fsSem own) guard (Fs.remove i n >>= k) Q w ↔
      guard (.dir i (.remove n)) w ∧
        if ((w.dirs i).get n).isSome then
          Safe (fsSem own) guard (k true) Q (w.setDir i ((w.dirs i).remove n))
        else Safe (fsSem own) guard (k false) Q w :=
  and_congr Iff.rfl forall_tested

theorem safe_own {x : X.Op} {k : X.Ans x → Proc (fsSig ι X) α} :
    Safe (fsSem own) guard (Fs.own x >>= k) Q w ↔
      guard (.own x) w ∧
        ∀ a e', own x w a e' → Safe (fsSem own) guard (k a) Q { w with env := e' } := by
  refine and_congr Iff.rfl ⟨fun h a e' he => h a _ ⟨e', he, rfl⟩, ?_⟩
  rintro h a w' ⟨e', he, rfl⟩
  exact h a e' he

theorem safe_readOr {k : Bytes → Proc (fsSig ι X) α} (hg : guard (.dir i (.read n)) w)
    (hmissing : (w.dirs i).read n = none → Q (.error missing) w)
    (hread : ∀ b, (w.dirs i).read n = some b → Safe (fsSem own) guard (k b) Q w) :
    Safe (fsSem own) guard (Fs.readOr i n missing >>= k) Q w := by
  refine safe_read.mpr ⟨hg, ?_⟩
  cases hr : (w.dirs i).read n with
  | none => exact hmissing hr
  | some b => exact hread b hr

theorem safe_readOr_some {k : Bytes → Proc (fsSig ι X) α}
    (hg : guard (.dir i (.read n)) w) (hread : (w.dirs i).read n = some b)
    (h : Safe (fsSem own) guard (k b) Q w) : Safe (fsSem own) guard (Fs.readOr i n missing >>= k) Q w := by
  refine safe_readOr hg (fun hnone => ?_) fun b' hb' => ?_
  · rw [hread] at hnone
    cases hnone
  · rw [hread] at hb'
    cases hb'
    exact h

end Proc

/-! ## Writing a new entry -/

/-- `d'` is `d` in the middle of writing the new entry `n`: nothing else changed, and `n` may yet be lost. -/
structure Dir.Writing (n : String) (d d' : Dir) : Prop where
  agree : Dir.AgreeOff n d d'
  unsure : d'.Possible n none

theorem Dir.Writing.create {n : String} (h : d.get n = none) : d.Writing n (d.create n) :=
  ⟨Dir.agreeOff_create d n, Dir.possible_create.mpr (.inl (h ▸ Dir.possible_get d n))⟩

theorem Dir.Writing.put {n : String} (h : d.Writing n d') (hn : d'.get n ≠ none) (f : File) :
    d.Writing n (d'.put n f) := by
  refine ⟨h.agree.trans (Dir.agreeOff_put d' n f), ?_⟩
  rcases h.unsure with hl | hd
  · exact absurd hl.symm hn
  · exact .inr hd

namespace Proc

variable {own : OwnSem ι E X} {guard : (fsSig ι X).Op → FsWorld ι E → Prop}
variable {Q : Except String Unit → FsWorld ι E → Prop} {w : FsWorld ι E} {i : ι}

/-- The rule of a durable creation: its guards are owed only for directories in the middle of it. -/
theorem safe_durableCreate {n : String} {taken : String} (hsync : ∀ w, guard (.dir i .syncDir) w)
    (hcreate : guard (.dir i (.createNew n)) w)
    (happend : ∀ d, (w.dirs i).Writing n d → d.get n = some ⟨[], false⟩ → guard (.dir i (.append n b))
      (w.setDir i d))
    (hfsync : ∀ d, (w.dirs i).Writing n d → d.get n = some ⟨b, false⟩ → guard (.dir i (.fsync n))
      (w.setDir i d))
    (htaken : ∀ f, (w.dirs i).get n = some f → Q (.error taken) w)
    (hdone : (w.dirs i).get n = none → Q (.ok ()) (w.setDir i ((w.dirs i).install n b))) :
    Safe (fsSem own) guard (Fs.durableCreate i n b taken) Q w := by
  refine safe_createNew.mpr ⟨hcreate, ?_⟩
  cases hn : (w.dirs i).get n with
  | some f => exact htaken f hn
  | none =>
    have hw := Dir.Writing.create hn
    have hc : ((w.dirs i).create n).get n = some ⟨[], false⟩ := by simp
    have ha : ((w.dirs i).create n).append n b = ((w.dirs i).create n).put n ⟨b, false⟩ := by
      simp [Dir.append, hc]
    refine safe_append.mpr ⟨happend _ hw hc, safe_fsync.mpr ⟨?_, safe_syncDir.mpr ⟨hsync _, ?_⟩⟩⟩
    · simp only [FsWorld.setDir_dirs_self, FsWorld.setDir_setDir]
      exact hfsync _ (ha ▸ hw.put (by simp) _) (by simp [ha])
    · simpa [Dir.install] using hdone hn

theorem safe_durableRemove {n missing : String} (hsync : ∀ w, guard (.dir i .syncDir) w)
    (hremove : guard (.dir i (.remove n)) w) (hmissing : (w.dirs i).get n = none → Q (.error missing) w)
    (hdone : ∀ f, (w.dirs i).get n = some f → Q (.ok ()) (w.setDir i ((w.dirs i).unlink n))) :
    Safe (fsSem own) guard (Fs.durableRemove i n missing) Q w := by
  refine safe_remove.mpr ⟨hremove, ?_⟩
  cases hn : (w.dirs i).get n with
  | none => exact hmissing hn
  | some f => exact safe_syncDir.mpr ⟨hsync _, by simpa [Dir.unlink] using hdone f hn⟩

end Proc

end Foundation
