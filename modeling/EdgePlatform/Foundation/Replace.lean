import EdgePlatform.Foundation.FsProc

/-!
# `EdgePlatform.Foundation.Replace` — replacing a file as a whole, and sweeping a directory

`Fs.atomicReplace` writes new contents to a scratch name, syncs them, renames the scratch name over the
target and syncs the directory: whatever happens, the target holds the old contents or the new ones. Its rule
`safe_atomicReplace` asks for the guard of the scratch operations, which touch nothing but the scratch name,
and for the guard of the one rename, at a directory whose scratch name holds the new contents synced.

`Fs.sweep` removes from a list of entries those that a test selects. Its rule `safe_sweep` asks for the guard
of each removal at a directory that agrees with the first one on everything the test keeps.
-/

namespace Foundation

/-! ## Operations on a scratch name -/

/-- The operations that bring contents `b` under the scratch name `t`. -/
inductive DirOp.Scratch (t : String) (b : Bytes) : DirOp → Prop
  | remove : Scratch t b (.remove t)
  | createNew : Scratch t b (.createNew t)
  | append : Scratch t b (.append t b)
  | fsync : Scratch t b (.fsync t)

variable {t : String} {d : Dir}

theorem DirOp.Scratch.agreeOff {b : Bytes} {o : DirOp} {d' : Dir} {a : o.Ans}
    (h : o.Scratch t b) (hs : o.Sem d a d') : Dir.AgreeOff t d d' := by
  cases h with
  | remove =>
    obtain ⟨-, rfl⟩ := hs
    split
    · exact Dir.agreeOff_remove d t
    · exact Dir.AgreeOff.refl t d
  | createNew => exact (DirOp.Writes.createNew (b := b)).agreeOff hs
  | append => exact DirOp.Writes.append.agreeOff hs
  | fsync => exact (DirOp.Writes.fsync (b := b)).agreeOff hs

/-! ## Replacement -/

variable {n : String}

namespace Dir

/-- The scratch name is free. -/
def clear (d : Dir) (t : String) : Dir := if (d.get t).isSome then d.remove t else d

/-- The scratch name holds the synced contents. -/
def prepare (d : Dir) (t : String) (b : Bytes) : Dir := (((d.clear t).create t).append t b).fsync t

/-- The contents `b` have replaced entry `n`. -/
def replace (d : Dir) (t n : String) (b : Bytes) : Dir := ((d.prepare t b).rename t n).syncDir

theorem get_clear (d : Dir) (t m : String) : (d.clear t).get m = if m = t then none else d.get m := by
  unfold clear
  split
  · exact get_remove d t m
  · next h =>
      split_ifs with hm
      · subst hm
        simpa using h
      · rfl

theorem get_prepare (d : Dir) (t : String) (b : Bytes) (m : String) :
    (d.prepare t b).get m = if m = t then some ⟨b, true⟩ else d.get m := by
  have h1 : ((d.clear t).create t).get t = some ⟨[], false⟩ := by simp
  have h2 : (((d.clear t).create t).append t b).get t = some ⟨b, false⟩ := by simp [get_append h1]
  rw [prepare, get_fsync h2, get_append h1, get_create, get_clear]
  split_ifs <;> rfl

theorem get_replace (d : Dir) (t n : String) (b : Bytes) (m : String) :
    (d.replace t n b).get m = if m = n then some ⟨b, true⟩ else if m = t then none else d.get m := by
  have h : (d.prepare t b).get t = some ⟨b, true⟩ := by simp [get_prepare]
  rw [replace, get_syncDir, get_rename h]
  split_ifs with hn ht
  · rfl
  · rfl
  · rw [get_prepare, if_neg ht]

theorem QuietAt.replace {m : String} (h : d.QuietAt m) (t n : String) (b : Bytes) :
    (d.replace t n b).QuietAt m := by
  refine quietAt_syncDir fun f hf => ?_
  have hget : (d.replace t n b).get m = some f := hf
  rw [get_replace] at hget
  split_ifs at hget with hn ht
  · cases hget
    rfl
  · exact h.synced hget

theorem durable_replace (d : Dir) (t n : String) (b : Bytes) : (d.replace t n b).Durable n b := by
  refine QuietAt.durable (quietAt_syncDir fun f hf => ?_) (by simp [Dir.read, get_replace])
  have hget : (d.replace t n b).get n = some f := hf
  rw [get_replace, if_pos rfl] at hget
  cases hget
  rfl

/-- What was durable under another name stays durable. -/
theorem Durable.replace {m : String} {c : Bytes} (h : d.Durable m c) (hn : m ≠ n)
    (ht : m ≠ t) (b : Bytes) : (d.replace t n b).Durable m c := by
  intro v hv
  have hget : v = (d.replace t n b).get m := possible_syncDir.mp hv
  rw [hget, get_replace, if_neg hn, if_neg ht, h.get]

theorem agreeOff_clear (d : Dir) (t : String) : AgreeOff t d (d.clear t) := by
  unfold clear
  split
  · exact agreeOff_remove d t
  · exact AgreeOff.refl t d

theorem agreeOff_prepare (d : Dir) (t : String) (b : Bytes) : AgreeOff t d (d.prepare t b) :=
  (((agreeOff_clear d t).trans (agreeOff_create _ t)).trans (agreeOff_append _ t b)).trans
  (agreeOff_fsync _ t)

end Dir

variable {ι E : Type} {X : Sig} [DecidableEq ι]

namespace Fs

variable (i : ι)

/-- Replace the contents of `n` by `b`, through the scratch name `t`. -/
def atomicReplace (t n : String) (b : Bytes) (taken missing : String) : Proc (fsSig ι X) Unit := do
  let _ ← remove i t
  let fresh ← createNew i t
  rejectIf (fresh = false) taken
  append i t b
  fsync i t
  let moved ← rename i t n
  rejectIf (moved = false) missing
  syncDir i

/-- Remove the entries of a list that `test` selects. -/
def sweep (test : String → Bool) (missing : String) : List String → Proc (fsSig ι X) Unit
  | [] => syncDir i
  | n :: ns => do
      if test n then
        let removed ← remove i n
        rejectIf (removed = false) missing
      sweep test missing ns

end Fs

namespace Proc

variable {own : OwnSem ι E X} {guard : (fsSig ι X).Op → FsWorld ι E → Prop} {w : FsWorld ι E} {i : ι}

theorem safe_rename {α : Type} {Q : Except String α → FsWorld ι E → Prop} {a b : String}
    {k : Bool → Proc (fsSig ι X) α} :
    Safe (fsSem own) guard (Fs.rename i a b >>= k) Q w ↔
      guard (.dir i (.rename a b)) w ∧
        Safe (fsSem own) guard (k ((w.dirs i).get a).isSome) Q (w.setDir i ((w.dirs i).rename a b)) := by
  refine and_congr Iff.rfl ⟨fun h => h _ _ ⟨_, ⟨rfl, rfl⟩, rfl⟩, ?_⟩
  rintro h x w' ⟨d', ⟨rfl, rfl⟩, rfl⟩
  exact h

/-- The rule of an atomic replacement: one obligation for the scratch operations, one for the rename. -/
theorem safe_atomicReplace {Q : Except String Unit → FsWorld ι E → Prop} {b : Bytes}
    {taken missing : String} (hsync : ∀ w, guard (.dir i .syncDir) w)
    (hscratch : ∀ o d, o.Scratch t b → Dir.AgreeOff t (w.dirs i) d → guard (.dir i o) (w.setDir i d))
    (hrename : guard (.dir i (.rename t n)) (w.setDir i ((w.dirs i).prepare t b)))
    (hdone : Q (.ok ()) (w.setDir i ((w.dirs i).replace t n b))) :
    Safe (fsSem own) guard (Fs.atomicReplace i t n b taken missing) Q w := by
  have hclear := Dir.agreeOff_clear (w.dirs i) t
  have hcreate := hclear.trans (Dir.agreeOff_create _ t)
  have happend := hcreate.trans (Dir.agreeOff_append _ t b)
  have hfree : (((w.dirs i).clear t).get t).isNone = true := by simp [Dir.get_clear]
  -- whether or not a scratch file was left behind, the next operation finds the name free
  have hrest : Safe (fsSem own) guard (do
      let fresh ← Fs.createNew i t
      rejectIf (fresh = false) taken
      Fs.append i t b
      Fs.fsync i t
      let moved ← Fs.rename i t n
      rejectIf (moved = false) missing
      Fs.syncDir i) Q (w.setDir i ((w.dirs i).clear t)) := by
    refine safe_createNew.mpr ⟨hscratch _ _ .createNew hclear, ?_⟩
    rw [FsWorld.setDir_dirs_self, if_pos hfree, FsWorld.setDir_setDir]
    refine Safe.not_rejected (by simp) ?_
    refine safe_append.mpr ⟨hscratch _ _ .append hcreate, ?_⟩
    rw [FsWorld.setDir_dirs_self, FsWorld.setDir_setDir]
    refine safe_fsync.mpr ⟨hscratch _ _ .fsync happend, ?_⟩
    rw [FsWorld.setDir_dirs_self, FsWorld.setDir_setDir]
    refine safe_rename.mpr ⟨hrename, ?_⟩
    have hmoved : (((((w.dirs i).clear t).create t).append t b).fsync t).get t = some ⟨b, true⟩ := by
      simpa [Dir.prepare] using Dir.get_prepare (w.dirs i) t b t
    refine Safe.not_rejected (by simp [hmoved]) (safe_syncDir.mpr ⟨hsync _, ?_⟩)
    simpa [Dir.replace, Dir.prepare] using hdone
  have hfirst : guard (.dir i (.remove t)) w := by
    simpa using hscratch (.remove t) (w.dirs i) .remove (Dir.AgreeOff.refl _ _)
  refine safe_remove.mpr ⟨hfirst, ?_⟩
  unfold Dir.clear at hrest
  split_ifs at hrest ⊢ with hleft
  · exact hrest
  · rwa [FsWorld.setDir_self] at hrest

end Proc

/-! ## Sweeping -/

/-- `d'` is `d` with some of the entries that `test` selects removed. -/
structure Dir.Swept (test : String → Bool) (d d' : Dir) : Prop where
  kept : ∀ m, test m = false → d'.get m = d.get m ∧ ∀ v, d'.Possible m v ↔ d.Possible m v
  left : ∀ m f, d'.get m = some f → d.get m = some f

theorem Dir.Swept.refl (test : String → Bool) (d : Dir) : d.Swept test d :=
  ⟨fun _ _ => ⟨rfl, fun _ => Iff.rfl⟩, fun _ _ h => h⟩

theorem Dir.Swept.remove {test : String → Bool} {d' : Dir} (h : d.Swept test d')
    (hn : test n = true) : d.Swept test (d'.remove n) := by
  refine ⟨fun m hm => ?_, fun m f hf => ?_⟩
  · have hmn : m ≠ n := fun heq => by simp [heq, hn] at hm
    obtain ⟨hget, hpossible⟩ := h.kept m hm
    obtain ⟨hget', hpossible'⟩ := Dir.agreeOff_remove d' n m hmn
    exact ⟨hget'.trans hget, fun v => (hpossible' v).trans (hpossible v)⟩
  · rw [Dir.get_remove] at hf
    split_ifs at hf with hmn
    exact h.left m f hf

namespace Proc

variable {own : OwnSem ι E X} {guard : (fsSig ι X).Op → FsWorld ι E → Prop} {w : FsWorld ι E} {i : ι}

/-- The rule of a sweep over listed entries: every removal finds its entry, and at the end no selected entry
    of the list is left. -/
theorem safe_sweep {Q : Except String Unit → FsWorld ι E → Prop} {test : String → Bool} {missing : String}
    {names : List String} (hsync : ∀ w, guard (.dir i .syncDir) w)
    (hremove : ∀ n d', test n = true → d.Swept test d' → guard (.dir i (.remove n)) (w.setDir i d'))
    (hnodup : names.Nodup) (hlisted : ∀ n ∈ names, ((w.dirs i).get n).isSome = true)
    (hswept : d.Swept test (w.dirs i))
      (hdone : ∀ d', d.Swept test d' → (∀ n ∈ names, test n = true → d'.get n = none) →
        (∀ n, n ∉ names → d'.get n = (w.dirs i).get n) → Q (.ok ()) (w.setDir i d'.syncDir)) :
    Safe (fsSem own) guard (Fs.sweep i test missing names) Q w := by
  induction names generalizing w with
  | nil =>
    refine safe_syncDir.mpr ⟨hsync w, ?_⟩
    exact hdone (w.dirs i) hswept (by simp) fun _ _ => rfl
  | cons n ns ih =>
    obtain ⟨hn, hns⟩ := List.nodup_cons.mp hnodup
    unfold Fs.sweep
    by_cases htest : test n = true
    · -- the entry is selected: it is removed, and it stays removed
      rw [if_pos htest]
      have hpresent := hlisted n (.head _)
      have hguard : guard (.dir i (.remove n)) w := by simpa using hremove n (w.dirs i) htest hswept
      refine safe_remove.mpr ⟨hguard, ?_⟩
      rw [if_pos hpresent]
      refine Safe.not_rejected (by simp) ?_
      refine ih ?_ hns ?_ ?_ ?_
      · intro m d' hm hd'
        rw [FsWorld.setDir_setDir]
        exact hremove m d' hm hd'
      · intro m hm
        have hmn : m ≠ n := fun heq => hn (heq ▸ hm)
        simpa [hmn] using hlisted m (.tail _ hm)
      · rw [FsWorld.setDir_dirs_self]
        exact hswept.remove htest
      · intro d' hd' hgone hrest
        rw [FsWorld.setDir_setDir]
        rw [FsWorld.setDir_dirs_self] at hrest
        refine hdone d' hd' ?_ ?_
        · intro m hm hmtest
          rcases List.mem_cons.mp hm with rfl | hm
          · rw [hrest m hn]
            simp
          · exact hgone m hm hmtest
        · intro m hm
          obtain ⟨hmn, hmns⟩ := not_or.mp (mt List.mem_cons.mpr hm)
          rw [hrest m hmns]
          simp [hmn]
    · rw [if_neg htest]
      refine ih (fun m d' => hremove m d') hns (fun m hm => hlisted m (.tail _ hm)) hswept ?_
      intro d' hd' hgone hrest
      refine hdone d' hd' ?_ fun m hm => hrest m (mt (List.mem_cons_of_mem n) hm)
      intro m hm hmtest
      rcases List.mem_cons.mp hm with rfl | hm
      · exact absurd hmtest htest
      · exact hgone m hm hmtest

end Proc

end Foundation
