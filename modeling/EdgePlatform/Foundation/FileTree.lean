import EdgePlatform.Foundation.Text
import Mathlib.Data.List.Infix

/-!
# `EdgePlatform.Foundation.FileTree` — directory trees and what may be left of a torn change

A tree says what stands at each path below its root. Every change a program makes to one tree is a `TreeOp`;
its `result` is what the change leaves when it succeeds, and `torn` is what it may leave when it fails, or
when the program stops inside it: a file that is written in place may hold any first part of its content, a
tree that is being removed may have lost any of its entries.
-/

namespace Foundation

/-- The names from the root of a tree down to a file or directory. -/
abbrev TreePath := List String

inductive FileNode
  | dir
  | file (content : Bytes)
deriving DecidableEq

/-- A directory tree: what stands at each path below its root. -/
abbrev FileTree := List (TreePath × FileNode)

namespace FileTree

def node (t : FileTree) (p : TreePath) : Option FileNode := if p = [] then some .dir else t.lookup p

def file (t : FileTree) (p : TreePath) : Option Bytes :=
  match t.node p with
  | some (.file b) => some b
  | _ => none

def put : FileTree → TreePath → FileNode → FileTree
  | [], p, n => [(p, n)]
  | e :: t, p, n => if e.1 = p then (p, n) :: t else e :: put t p n

def erase (t : FileTree) (p : TreePath) : FileTree := t.filter fun e => e.1 ≠ p

/-- One directory; its parent is there. -/
def createDir (t : FileTree) (p : TreePath) : Option FileTree :=
  match t.node p with
  | none => some (t.put p .dir)
  | some .dir => some t
  | some (.file _) => none

/-- `create_dir_all`. -/
def createDirAll (t : FileTree) (p : TreePath) : Option FileTree := p.inits.foldlM createDir t

/-- Create or truncate a file and write it. -/
def write (t : FileTree) (p : TreePath) (b : Bytes) : Option FileTree :=
  if p = [] ∨ t.node p.dropLast ≠ some .dir ∨ t.node p = some .dir then none else some (t.put p (.file b))

def renameFile (t : FileTree) (p q : TreePath) : Option FileTree :=
  (t.file p).bind fun b => (t.erase p).write q b

def removeFile (t : FileTree) (p : TreePath) : Option FileTree := (t.file p).map fun _ => t.erase p

/-! ## What stands where after a change -/

section

variable {t t' : FileTree} {p q : TreePath} {b : Bytes} {n : FileNode}

theorem lookup_of_ne (h : q ≠ p) : List.lookup q ((p, n) :: t) = List.lookup q t := by
  rw [List.lookup_cons]
  simp only [beq_eq_false_iff_ne.mpr h]

theorem node_put (hp : p ≠ []) : (t.put p n).node q = if q = p then some n else t.node q := by
  unfold node
  by_cases hq : q = []
  · simp [hq, Ne.symm hp]
  · rw [if_neg hq, if_neg hq]
    induction t with
    | nil =>
      by_cases hqp : q = p
      · simp [put, hqp]
      · rw [put, lookup_of_ne hqp, if_neg hqp]
    | cons e t ih =>
      obtain ⟨r, m⟩ := e
      rw [put]
      by_cases hr : r = p
      · subst hr
        rw [if_pos rfl]
        by_cases hqp : q = r
        · simp [hqp]
        · rw [lookup_of_ne hqp, lookup_of_ne hqp, if_neg hqp]
      · rw [if_neg hr]
        by_cases hqr : q = r
        · simp [hqr, hr]
        · rw [lookup_of_ne hqr, lookup_of_ne hqr, ih]

theorem write_eq_some :
    t.write p b = some t' ↔
      p ≠ [] ∧ t.node p.dropLast = some .dir ∧ t.node p ≠ some .dir ∧ t' = t.put p (.file b) := by
  unfold write
  split
  · rename_i h
    simp only [false_iff, reduceCtorEq]
    rintro ⟨h₁, h₂, h₃, -⟩
    rcases h with h | h | h
    · exact h₁ h
    · exact h h₂
    · exact h₃ h
  · rename_i h
    simp only [not_or, not_not] at h
    simp only [Option.some.injEq, h, true_and, ne_eq, not_false_eq_true]
    exact eq_comm

theorem node_write (h : t.write p b = some t') : t'.node q = if q = p then some (.file b) else t.node q := by
  obtain ⟨hp, -, -, rfl⟩ := write_eq_some.mp h
  exact node_put hp

theorem file_write (h : t.write p b = some t') : t'.file q = if q = p then some b else t.file q := by
  unfold file
  rw [node_write h]
  by_cases hq : q = p
  · simp [hq]
  · simp [hq]

theorem ne_nil_of_file (h : t.file p = some b) : t ≠ [] := by
  rintro rfl
  by_cases hp : p = []
  · simp [file, node, hp] at h
  · simp [file, node, hp] at h

end

end FileTree

/-! ## Changes of one tree -/

inductive TreeOp
  | createDirAll (p : TreePath)
  | createNew (p : TreePath)
  | write (p : TreePath) (b : Bytes)
  | setPermissions (p : TreePath) (mode : Nat)
  | renameFile (p q : TreePath)
  | removeFile (p : TreePath)
  | sync (p : TreePath)
  | removeTree
  | removeDir
deriving DecidableEq

namespace TreeOp

/-- What a change leaves when it succeeds; `none` where it cannot succeed. -/
def result : TreeOp → Option FileTree → Option (Option FileTree)
  | createDirAll p, t => ((t.getD []).createDirAll p).map some
  | createNew p, some t => if t.node p = none then (t.write p []).map some else none
  | write p b, some t => (t.write p b).map some
  | setPermissions p _, some t => if (t.node p).isSome then some (some t) else none
  | renameFile p q, some t => (t.renameFile p q).map some
  | removeFile p, some t => (t.removeFile p).map some
  | sync p, some t => if (t.node p).isSome then some (some t) else none
  | removeTree, some _ => some none
  | removeDir, some t => if t = [] then some none else none
  | _, none => none

/-- What a change may leave when it does not succeed, besides the tree as it was. -/
def leaves : TreeOp → Option FileTree → Option FileTree → Prop
  | createDirAll p, t, t' => ∃ q, q <+: p ∧ (createDirAll q).result t = some t'
  | write p b, t, t' => ∃ n, (write p (b.take n)).result t = some t'
  | removeTree, t, t' => t' = none ∨ ∃ u u', t = some u ∧ t' = some u' ∧ u' ⊆ u
  | _, _, _ => False

/-- What a change may leave when it fails or when the program stops inside it. -/
def Torn (o : TreeOp) (t t' : Option FileTree) : Prop := t' = t ∨ o.leaves t t'

end TreeOp

end Foundation
