import EdgePlatform.Agent.Bundle
import EdgePlatform.Foundation.Within

/-!
# `EdgePlatform.Agent.Stack` — the application stack on disk

The agent keeps the running application in one directory tree (`stack`) and prepares and retires trees beside
it: `stack.previous`, `stack.next` and `stack.rollback`. Each file-system call is one operation. It may fail,
a change of a tree may then have been made in part (`TreeOp.Torn`), and the agent may stop after any
operation; a stop inside a change is the failed change with nothing after it. `ideal` is the same disk
without failures.

The calls that look at Docker, the network and the Compose graph change no tree and can only refuse; they are
the operations `check`, over whatever type `κ` names them.
-/

namespace EdgePlatform.Agent

open Foundation
open Host (BundleFile)

/-- The trees beside each other. -/
inductive Slot
  | active | previous | staging | rollback
deriving DecidableEq

/-- What `symlink_metadata` says of a path. -/
inductive Metadata
  | dir
  | file (len : Nat)
deriving DecidableEq

def Metadata.ofNode : FileNode → Metadata
  | .dir => .dir
  | .file b => .file b.length

def Metadata.isFile : Metadata → Bool
  | .dir => false
  | .file _ => true

inductive StackOp (κ : Type)
  | stat (s : Slot) (p : TreePath)
  | read (s : Slot) (p : TreePath)
  | isEmpty (s : Slot)
  | change (s : Slot) (o : TreeOp)
  | rename (s d : Slot)
  | secrets
  | check (c : κ)

def stackSig (κ : Type) : Sig where
  Op := StackOp κ
  Ans
    | .stat _ _ => Option Metadata
    | .read _ _ => Option Bytes
    | .isEmpty _ => Option Bool
    | .change _ _ => Bool
    | .rename _ _ => Bool
    | .secrets => Except String (Option ApplicationRuntimeSecrets)
    | .check _ => Except String Unit

/-- The trees, and the secrets of the active VM credential, which the credential store keeps. -/
structure StackHost where
  slot : Slot → Option FileTree
  vault : Except String (Option ApplicationRuntimeSecrets)

namespace StackHost

variable {w : StackHost} {s s' : Slot} {t : Option FileTree}

def set (w : StackHost) (s : Slot) (t : Option FileTree) : StackHost :=
  { w with slot := fun s' => if s' = s then t else w.slot s' }

@[simp] theorem slot_set : (w.set s t).slot s' = if s' = s then t else w.slot s' := rfl

@[ext] theorem ext {w w' : StackHost} (hslot : ∀ s, w.slot s = w'.slot s)
    (hvault : w.vault = w'.vault) : w = w' := by
  obtain ⟨slot, vault⟩ := w
  obtain ⟨slot', vault'⟩ := w'
  obtain rfl : slot = slot' := funext hslot
  obtain rfl : vault = vault' := hvault
  rfl

def node (w : StackHost) (s : Slot) (p : TreePath) : Option FileNode := (w.slot s).bind (·.node p)

def file (w : StackHost) (s : Slot) (p : TreePath) : Option Bytes := (w.slot s).bind (·.file p)

/-- A directory may be renamed to a name that is free or that an empty directory has. -/
def Free (w : StackHost) (s : Slot) : Prop := w.slot s = none ∨ w.slot s = some []

instance : Decidable (w.Free s) := inferInstanceAs (Decidable (_ ∨ _))

def moved (w : StackHost) (s d : Slot) (t : FileTree) : StackHost := (w.set d (some t)).set s none

end StackHost

section

variable {κ : Type}

/-- The disk: an operation succeeds as the system documents it, or fails. -/
def stackSem : Sem (stackSig κ) StackHost
  | .stat s p, w, a, w' => w' = w ∧ a = (w.node s p).map Metadata.ofNode
  | .read s p, w, a, w' => w' = w ∧ (a = none ∨ a = w.file s p)
  | .isEmpty s, w, a, w' => w' = w ∧ (a = none ∨ a = (w.slot s).map List.isEmpty)
  | .change s o, w, a, w' => ∃ t, w' = w.set s t ∧
      ((a = true ∧ o.result (w.slot s) = some t) ∨ (a = false ∧ o.Torn (w.slot s) t))
  | .rename s d, w, a, w' =>
    (a = true ∧ s ≠ d ∧ w.Free d ∧ ∃ t, w.slot s = some t ∧ w' = w.moved s d t) ∨ (a = false ∧ w' = w)
  | .secrets, w, a, w' => w' = w ∧ a = w.vault
  | .check _, w, _, w' => w' = w

def idealChange (s : Slot) (o : TreeOp) (w : StackHost) : Bool × StackHost :=
  match o.result (w.slot s) with
  | some t => (true, w.set s t)
  | none => (false, w.set s (w.slot s))

def idealRename (s d : Slot) (w : StackHost) : Bool × StackHost :=
  match w.slot s with
  | some t => if s ≠ d ∧ w.Free d then (true, w.moved s d t) else (false, w)
  | none => (false, w)

/-- The disk without failures; the checks of the other systems pass. -/
def ideal : (op : (stackSig κ).Op) → StackHost → (stackSig κ).Ans op × StackHost
  | .stat s p, w => ((w.node s p).map Metadata.ofNode, w)
  | .read s p, w => (w.file s p, w)
  | .isEmpty s, w => ((w.slot s).map List.isEmpty, w)
  | .change s o, w => idealChange s o w
  | .rename s d, w => idealRename s d w
  | .secrets, w => (w.vault, w)
  | .check _, w => (.ok (), w)

theorem idealRename_of_free {s d : Slot} {w : StackHost} {t : FileTree} (hs : w.slot s = some t)
    (hne : s ≠ d) (hd : w.Free d) : idealRename s d w = (true, w.moved s d t) := by
  unfold idealRename
  rw [hs]
  exact if_pos ⟨hne, hd⟩

/-- The disk without failures is a disk. -/
theorem ideal_sem (op : (stackSig κ).Op) (w : StackHost) : stackSem op w (ideal op w).1 (ideal op w).2 := by
  cases op with
  | stat s p => exact ⟨rfl, rfl⟩
  | read | isEmpty => exact ⟨rfl, .inr rfl⟩
  | change s o =>
    show stackSem (.change s o) w (idealChange s o w).1 (idealChange s o w).2
    unfold idealChange
    cases h : o.result (w.slot s) with
    | some t => exact ⟨t, rfl, .inl ⟨rfl, h⟩⟩
    | none => exact ⟨w.slot s, rfl, .inr ⟨rfl, .inl rfl⟩⟩
  | rename s d =>
    show stackSem (.rename s d) w (idealRename s d w).1 (idealRename s d w).2
    by_cases hfree : ∃ t, w.slot s = some t ∧ s ≠ d ∧ w.Free d
    · obtain ⟨t, hs, hne, hd⟩ := hfree
      rw [idealRename_of_free hs hne hd]
      exact .inl ⟨rfl, hne, hd, t, hs, rfl⟩
    · have hstay : idealRename s d w = (false, w) := by
        unfold idealRename
        cases hs : w.slot s with
        | none => rfl
        | some t => exact if_neg fun h => hfree ⟨t, hs, h⟩
      rw [hstay]
      exact .inr ⟨rfl, rfl⟩
  | secrets => exact ⟨rfl, rfl⟩
  | check c => rfl

/-! ## Calls -/

abbrev StackProc (κ : Type) (α : Type) := Proc (stackSig κ) α

namespace Stack

/-- `Path::exists`. -/
def exists? (s : Slot) (p : TreePath) : StackProc κ Bool := .call (.stat s p) fun m => .ret m.isSome

def isFile (s : Slot) (p : TreePath) : StackProc κ Bool :=
  .call (.stat s p) fun m => .ret (m.any Metadata.isFile)

def read (s : Slot) (p : TreePath) : StackProc κ (Option Bytes) := .call (.read s p) .ret

/-- A change that fails with the text `e`. -/
def change (s : Slot) (o : TreeOp) (e : String) : StackProc κ Unit :=
  .call (.change s o) fun (ok : Bool) => if ok then .ret () else .fail e

def rename (s d : Slot) : StackProc κ Bool := .call (.rename s d) .ret

def renameOr (s d : Slot) (e : String) : StackProc κ Unit :=
  .call (.rename s d) fun (ok : Bool) => if ok then .ret () else .fail e

def secrets : StackProc κ (Option ApplicationRuntimeSecrets) := .call .secrets fun a => .lift a

def check (c : κ) : StackProc κ Unit := .call (.check c) fun a => .lift a

end Stack

/-! ## The release marker on disk -/

/-- The marker, if it is valid. -/
def readApplicationRelease (s : Slot) : StackProc κ (Option ApplicationBundleRelease) :=
  .call (.read s [applicationReleaseMarker]) fun bytes => .ret (bytes.bind releaseOfMarker)

/-- Write a valid marker. -/
def writeApplicationRelease (s : Slot) (release : ApplicationBundleRelease) : StackProc κ Unit := do
  rejectIf (¬ release.Valid) "application release marker is invalid"
  Stack.change s (.write [applicationReleaseMarker] release.encodeToVec)
    "failed to write application release marker"

/-- The release a tree records. -/
def releaseOf (t : FileTree) : Option ApplicationBundleRelease :=
  (t.file [applicationReleaseMarker]).bind releaseOfMarker

/-- A sensitive file is private. -/
def setBundleFilePermissions (s : Slot) (p : TreePath) (executable sensitive : Bool) : StackProc κ Unit :=
  let (mode, octal) := if sensitive then (0o600, "600") else if executable then (0o755, "755")
      else (0o644, "644")
  Stack.change s (.setPermissions p mode) ("failed to set " ++ "/".intercalate p ++ " mode " ++ octal)

/-! ## Rules

One rule a call: what holds after it, for every answer the disk may give. -/

section Rules

variable {guard : (stackSig κ).Op → StackHost → Prop} {w : StackHost} {s d : Slot}
    {p : TreePath} {e : String}

theorem StackHost.isSome_node_nil (w : StackHost) (s : Slot) : (w.node s []).isSome = (w.slot s).isSome := by
  unfold StackHost.node
  cases w.slot s <;> rfl

theorem safe_exists {Q : Except String Bool → StackHost → Prop} (hguard : guard (.stat s p) w)
    (h : Q (.ok (w.node s p).isSome) w) : (Stack.exists? s p).Safe stackSem guard Q w := by
  refine ⟨hguard, ?_⟩
  rintro a w' ⟨rfl, rfl⟩
  show Q (.ok ((w'.node s p).map Metadata.ofNode).isSome) w'
  rwa [Option.isSome_map]

theorem safe_isFile {Q : Except String Bool → StackHost → Prop} (hguard : guard (.stat s p) w)
    (h : Q (.ok (w.file s p).isSome) w) : (Stack.isFile s p).Safe stackSem guard Q w := by
  refine ⟨hguard, ?_⟩
  rintro a w' ⟨rfl, rfl⟩
  have heq : ((w'.node s p).map Metadata.ofNode).any Metadata.isFile = (w'.file s p).isSome := by
    unfold StackHost.node StackHost.file FileTree.file
    cases w'.slot s with
    | none => rfl
    | some t =>
      show ((t.node p).map Metadata.ofNode).any Metadata.isFile = _
      cases hn : t.node p with
      | none => simp [hn]
      | some n => cases n <;> simp [hn, Metadata.ofNode, Metadata.isFile]
  show Q (.ok (((w'.node s p).map Metadata.ofNode).any Metadata.isFile)) w'
  rwa [heq]

theorem safe_read {Q : Except String (Option Bytes) → StackHost → Prop} (hguard : guard (.read s p) w)
    (h : ∀ a, a = none ∨ a = w.file s p → Q (.ok a) w) : (Stack.read s p).Safe stackSem guard Q w := by
  refine ⟨hguard, ?_⟩
  rintro a w' ⟨rfl, ha⟩
  exact h a ha

/-- The release the tree of a slot records. -/
def StackHost.release (w : StackHost) (s : Slot) : Option ApplicationBundleRelease :=
  (w.slot s).bind releaseOf

theorem StackHost.release_eq (w : StackHost) (s : Slot) :
    w.release s = (w.file s [applicationReleaseMarker]).bind releaseOfMarker := by
  unfold StackHost.release StackHost.file
  cases w.slot s <;> rfl

theorem safe_readApplicationRelease {Q : Except String (Option ApplicationBundleRelease) → StackHost → Prop}
    (hguard : guard (.read s [applicationReleaseMarker]) w)
    (h : ∀ a, a = none ∨ a = w.release s → Q (.ok a) w) :
    (readApplicationRelease s).Safe stackSem guard Q w := by
  refine ⟨hguard, ?_⟩
  rintro a w' ⟨rfl, ha⟩
  refine h _ ?_
  rcases ha with rfl | rfl
  · exact .inl rfl
  · exact .inr (w'.release_eq s).symm

variable {Q : Except String Unit → StackHost → Prop}

theorem safe_change {o : TreeOp} (hguard : guard (.change s o) w)
    (hok : ∀ t, o.result (w.slot s) = some t → Q (.ok ()) (w.set s t))
    (herr : ∀ t, Q (.error e) (w.set s t)) :
    (Stack.change s o e).Safe stackSem guard Q w := by
  refine ⟨hguard, ?_⟩
  rintro a w' ⟨t, rfl, ⟨rfl, ht⟩ | ⟨rfl, -⟩⟩
  · exact hok t ht
  · exact herr t

theorem safe_renameOr (hguard : guard (.rename s d) w)
    (hok : ∀ t, w.slot s = some t → w.Free d → Q (.ok ()) (w.moved s d t)) (herr : Q (.error e) w) :
    (Stack.renameOr s d e).Safe stackSem guard Q w := by
  refine ⟨hguard, ?_⟩
  rintro a w' (⟨rfl, -, hd, t, ht, rfl⟩ | ⟨rfl, rfl⟩)
  · exact hok t ht hd
  · exact herr

theorem safe_rename {Q : Except String Bool → StackHost → Prop} (hguard : guard (.rename s d) w)
    (hok : ∀ t, w.slot s = some t → w.Free d → Q (.ok true) (w.moved s d t)) (herr : Q (.ok false) w) :
    (Stack.rename s d).Safe stackSem guard Q w := by
  refine ⟨hguard, ?_⟩
  rintro a w' (⟨rfl, -, hd, t, ht, rfl⟩ | ⟨rfl, rfl⟩)
  · exact hok t ht hd
  · exact herr

theorem safe_secrets {Q : Except String (Option ApplicationRuntimeSecrets) → StackHost → Prop}
    (hguard : guard .secrets w) (h : Q w.vault w) :
    (Stack.secrets : StackProc κ _).Safe stackSem guard Q w := by
  refine ⟨hguard, ?_⟩
  rintro a w' ⟨rfl, rfl⟩
  cases hv : w'.vault with
  | ok | error =>
    rw [hv] at h
    exact h

theorem safe_check {c : κ} (hguard : guard (.check c) w)
    (h : ∀ r, Q r w) : (Stack.check c).Safe stackSem guard Q w := by
  refine ⟨hguard, fun a w' hs => ?_⟩
  obtain rfl : w' = w := hs
  cases a with
  | ok u => exact h (.ok u)
  | error e => exact h (.error e)

/-! A change and a rename on a disk that does not fail, and what follows. -/

theorem runFor_rename {α : Type} {k : Bool → StackProc κ α} {n : Nat} {t : FileTree} (hs : w.slot s = some t)
    (hne : s ≠ d) (hd : w.Free d) :
    (Stack.rename s d >>= k).runFor ideal (n + 1) w = (k true).runFor ideal n (w.moved s d t) := by
  show (k (idealRename s d w).1).runFor ideal n (idealRename s d w).2 = _
  rw [idealRename_of_free hs hne hd]

theorem runFor_renameOr {α : Type} {k : Unit → StackProc κ α} {n : Nat} {t : FileTree}
    (hs : w.slot s = some t) (hne : s ≠ d) (hd : w.Free d) :
    (Stack.renameOr s d e >>= k).runFor ideal (n + 1) w = (k ()).runFor ideal n (w.moved s d t) := by
  show ((if (idealRename s d w).1 then .ret () else .fail e : StackProc κ Unit) >>= k).runFor ideal n
    (idealRename s d w).2 = _
  rw [idealRename_of_free hs hne hd]
  rfl

end Rules

end

end EdgePlatform.Agent
