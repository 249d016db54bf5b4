import EdgePlatform.Foundation.Sha256
import Mathlib.Data.List.AList

/-!
# `EdgePlatform.Foundation.CrashDir` — a directory of files that may lose what was not synced

A `Dir` holds what a reader sees now (`live`), what the last directory sync made durable (`disk`), and the
values an entry has held in between (`stale`). A crash keeps, independently for every name, *any* value the
entry may have on the medium (`Possible`); a file whose contents were not synced survives as any truncation
of them, the empty file included (`Torn`).

The claims a client makes about crashes are claims about `Possible`: a value that is the only possible one
(`Durable`) survives every crash. Each operation adds at most one possibility at one name (the `possible_*`
lemmas), a directory sync removes all but the live one.

Creation of a new entry and renaming are atomic. An operation fails only because the entry it needs is
missing or the one it creates exists; other I/O errors are not part of this model.
-/

namespace Foundation

structure File where
  data : Bytes
  /-- The contents were synced after the last write. -/
  synced : Bool
deriving DecidableEq

abbrev Entries := AList (fun _ : String => File)

structure Dir where
  live : Entries
  disk : Entries
  stale : List (String × Option File)

namespace Dir

def empty : Dir := ⟨∅, ∅, []⟩

/-- The entry a reader sees. -/
def get (d : Dir) (n : String) : Option File := d.live.lookup n

/-- The contents a reader sees. -/
def read (d : Dir) (n : String) : Option Bytes := (d.get n).map File.data

/-! ## Operations -/

def create (d : Dir) (n : String) : Dir :=
  { d with live := d.live.insert n ⟨[], false⟩, stale := (n, d.get n) :: d.stale }

/-- Change the file behind an entry, not the entry itself. -/
def put (d : Dir) (n : String) (f : File) : Dir := { d with live := d.live.insert n f }

def append (d : Dir) (n : String) (b : Bytes) : Dir :=
  match d.get n with
  | some f => d.put n ⟨f.data ++ b, false⟩
  | none => d

def fsync (d : Dir) (n : String) : Dir :=
  match d.get n with
  | some f => d.put n ⟨f.data, true⟩
  | none => d

def syncDir (d : Dir) : Dir := ⟨d.live, d.live, []⟩

def remove (d : Dir) (n : String) : Dir :=
  { d with live := d.live.erase n, stale := (n, d.get n) :: d.stale }

def rename (d : Dir) (a b : String) : Dir :=
  match d.get a with
  | some f =>
    { d with live := (d.live.erase a).insert b f, stale := (a, d.get a) :: (b, d.get b) :: d.stale }
  | none => d

@[simp] theorem get_empty (n : String) : empty.get n = none := by simp [empty, get]

@[simp] theorem get_create (d : Dir) (n m : String) :
    (d.create n).get m = if m = n then some ⟨[], false⟩ else d.get m := by
  by_cases h : m = n
  · subst h; simp [create, get]
  · simp [create, get, h]

@[simp] theorem get_put (d : Dir) (n : String) (f : File) (m : String) :
    (d.put n f).get m = if m = n then some f else d.get m := by
  by_cases h : m = n
  · subst h; simp [put, get]
  · simp [put, get, h]

variable {d d' : Dir} {n a m : String} {f : File} {b c : Bytes} {v : Option File}

theorem get_ne_of_read (h : d.read n = some b) : d.get n ≠ none := by
  intro hnone
  rw [read, hnone] at h
  cases h

/-- An entry a reader sees is in every listing. -/
theorem mem_keys_of_get (h : d.get n ≠ none) : n ∈ d.live.keys :=
  AList.mem_keys.mpr (AList.lookup_isSome.mp (Option.isSome_iff_ne_none.mpr h))

theorem get_append (h : d.get n = some f) (b : Bytes) (m : String) :
    (d.append n b).get m = if m = n then some ⟨f.data ++ b, false⟩ else d.get m := by
  simp [append, h]

theorem get_fsync (h : d.get n = some f) (m : String) :
    (d.fsync n).get m = if m = n then some ⟨f.data, true⟩ else d.get m := by
  simp [fsync, h]

@[simp] theorem get_syncDir (d : Dir) (m : String) : d.syncDir.get m = d.get m := rfl

@[simp] theorem get_remove (d : Dir) (n m : String) :
    (d.remove n).get m = if m = n then none else d.get m := by
  by_cases h : m = n
  · subst h; simp [remove, get]
  · simp [remove, get, h]

theorem get_rename {b : String} (h : d.get a = some f) (m : String) :
    (d.rename a b).get m = if m = b then some f else if m = a then none else d.get m := by
  simp only [rename, h]
  by_cases hb : m = b
  · subst hb; simp [get]
  · by_cases ha : m = a
    · subst ha; simp [get, hb]
    · simp [get, hb, ha]

/-! ## What may be on the medium -/

/-- A crash may find entry `n` with value `v`. -/
def Possible (d : Dir) (n : String) (v : Option File) : Prop :=
  v = d.get n ∨ v = d.disk.lookup n ∨ (n, v) ∈ d.stale

instance (d : Dir) (n : String) (v : Option File) : Decidable (d.Possible n v) :=
  inferInstanceAs (Decidable (_ ∨ _ ∨ _))

theorem possible_get (d : Dir) (n : String) : d.Possible n (d.get n) := .inl rfl

theorem possible_create : (d.create n).Possible m v ↔ d.Possible m v ∨ (m = n ∧ v = some ⟨[], false⟩) := by
  have hstale : (d.create n).stale = (n, d.get n) :: d.stale := rfl
  simp only [Possible, get_create, hstale, List.mem_cons, Prod.mk.injEq, show (d.create n).disk =
    d.disk from rfl]
  split_ifs with h
  · subst h; tauto
  · tauto

theorem possible_put (h : (d.put n f).Possible m v) : d.Possible m v ∨ (m = n ∧ v = some f) := by
  simp only [Possible, get_put, show (d.put n f).disk = d.disk from rfl,
    show (d.put n f).stale = d.stale from rfl] at h ⊢
  split_ifs at h <;> tauto

theorem possible_append (hf : d.get n = some f) (h : (d.append n b).Possible m v) :
    d.Possible m v ∨ (m = n ∧ v = some ⟨f.data ++ b, false⟩) := by
  simp only [append, hf] at h
  exact possible_put h

theorem possible_fsync (hf : d.get n = some f) (h : (d.fsync n).Possible m v) :
    d.Possible m v ∨ (m = n ∧ v = some ⟨f.data, true⟩) := by
  simp only [fsync, hf] at h
  exact possible_put h

@[simp] theorem possible_syncDir : d.syncDir.Possible n v ↔ v = d.get n := by
  simp [Possible, syncDir, get]

theorem possible_remove : (d.remove n).Possible m v ↔ d.Possible m v ∨ (m = n ∧ v = none) := by
  have hstale : (d.remove n).stale = (n, d.get n) :: d.stale := rfl
  simp only [Possible, get_remove, hstale, List.mem_cons, Prod.mk.injEq, show (d.remove n).disk =
    d.disk from rfl]
  split_ifs with h
  · subst h; tauto
  · tauto

theorem possible_rename {b : String} (hf : d.get a = some f) (h : (d.rename a b).Possible m v) :
    d.Possible m v ∨ (m = a ∧ v = none) ∨ (m = b ∧ v = some f) := by
  have hdisk : (d.rename a b).disk = d.disk := by simp [rename, hf]
  have hstale : (d.rename a b).stale = (a, d.get a) :: (b, d.get b) :: d.stale := by simp [rename, hf]
  simp only [Possible, get_rename hf, hdisk, hstale, List.mem_cons, Prod.mk.injEq] at h ⊢
  rcases h with h | h | ⟨rfl, h⟩ | ⟨rfl, h⟩ | h
  · split_ifs at h with hb ha <;> tauto
  all_goals tauto

/-! ## Durable entries -/

/-- Whatever happens, entry `n` is there with contents `b`. -/
def Durable (d : Dir) (n : String) (b : Bytes) : Prop := ∀ v, d.Possible n v → v = some ⟨b, true⟩

theorem durable_iff :
    d.Durable n b ↔ d.get n = some ⟨b, true⟩ ∧ d.disk.lookup n = some ⟨b, true⟩ ∧
      ∀ e ∈ d.stale, e.1 = n → e.2 = some ⟨b, true⟩ := by
  constructor
  · intro h
    refine ⟨h _ (.inl rfl), h _ (.inr (.inl rfl)), ?_⟩
    rintro ⟨m, v⟩ he rfl
    exact h v (.inr (.inr he))
  · rintro ⟨hget, hdisk, hstale⟩ v (rfl | rfl | hv)
    · exact hget
    · exact hdisk
    · exact hstale _ hv rfl

instance (d : Dir) (n : String) (b : Bytes) : Decidable (d.Durable n b) :=
  decidable_of_iff _ durable_iff.symm

theorem Durable.get (h : d.Durable n b) : d.get n = some ⟨b, true⟩ :=
  h _ (possible_get d n)

theorem Durable.read (h : d.Durable n b) : d.read n = some b := by
  simp [Dir.read, h.get]

/-- The medium holds exactly what a reader sees of entry `n`. -/
def QuietAt (d : Dir) (n : String) : Prop :=
  ∀ v, d.Possible n v → v = d.get n ∧ ∀ f, v = some f → f.synced = true

/-- Every entry of the family `P` is quiet. -/
def QuietOn (P : String → Prop) (d : Dir) : Prop := ∀ n, P n → d.QuietAt n

/-- Whatever happens, there is no entry `n`. -/
def Absent (d : Dir) (n : String) : Prop := ∀ v, d.Possible n v → v = none

/-- Whatever happens, there is some entry `n`. -/
def Present (d : Dir) (n : String) : Prop := ¬ d.Possible n none

instance (d : Dir) (n : String) : Decidable (d.Present n) := inferInstanceAs (Decidable (¬ _))

/-- Where a reader finds no entry `n` there is none, whatever happens: no removal of `n` is under way. -/
def Sure (d : Dir) (n : String) : Prop := d.get n = none → d.Absent n

theorem quietAt_empty (n : String) : empty.QuietAt n := by
  intro v h
  simp [Possible, empty, Dir.get] at h
  subst h
  simp

theorem QuietAt.durable (h : d.QuietAt n) (hn : d.read n = some b) : d.Durable n b := by
  intro v hv
  obtain ⟨hget, hsync⟩ := h v hv
  cases v with
  | none => simp [Dir.read, ← hget] at hn
  | some f =>
    have hdata : f.data = b := by simpa [Dir.read, ← hget] using hn
    rw [← hdata, ← hsync f rfl]

theorem QuietAt.absent (h : d.QuietAt n) (hn : d.get n = none) : d.Absent n :=
  fun v hv => (h v hv).1.trans hn

theorem QuietAt.sure (h : d.QuietAt n) : d.Sure n := h.absent

theorem QuietAt.present (h : d.QuietAt n) (hn : d.get n = some f) :
    d.Present n := fun hv => by simpa [hn] using (h none hv).1

theorem QuietAt.synced (h : d.QuietAt n) (hf : d.get n = some f) : f.synced = true :=
  (h _ (possible_get d n)).2 f hf

theorem Durable.present (h : d.Durable n b) : d.Present n :=
  fun hv => by simpa using h none hv

theorem Present.get_ne (h : d.Present n) : d.get n ≠ none :=
  fun hn => h (hn ▸ possible_get d n)

theorem Absent.get (h : d.Absent n) : d.get n = none := h _ (possible_get d n)

theorem absent_empty (n : String) : empty.Absent n := (quietAt_empty n).absent (by simp)

theorem quietAt_syncDir (h : ∀ f, d.get n = some f → f.synced = true) : d.syncDir.QuietAt n := by
  intro v hv
  rw [possible_syncDir] at hv
  exact ⟨hv, fun f hf => h f (hv ▸ hf)⟩

/-- `d'` leaves open no more than `d` does. -/
def Narrows (d d' : Dir) : Prop := ∀ n v, d'.Possible n v → d.Possible n v

theorem Narrows.refl (d : Dir) : d.Narrows d := fun _ _ h => h

theorem narrows_syncDir (d : Dir) : d.Narrows d.syncDir := fun n _ h =>
  possible_syncDir.mp h ▸ possible_get d n

theorem Narrows.durable (h : d.Narrows d') (hb : d.Durable n b) : d'.Durable n b :=
  fun v hv => hb v (h n v hv)

theorem Narrows.absent (h : d.Narrows d') (ha : d.Absent n) : d'.Absent n :=
  fun v hv => ha v (h n v hv)

theorem Narrows.present (h : d.Narrows d') (hp : d.Present n) : d'.Present n :=
  fun hv => hp (h n none hv)

/-! ## Crashes -/

/-- What an entry may hold after the crash: synced contents whole, other contents truncated. -/
inductive Torn : Option File → Option File → Prop
  | absent : Torn none none
  | whole {b : Bytes} : Torn (some ⟨b, true⟩) (some ⟨b, true⟩)
  | cut {b c : Bytes} : c <+: b → Torn (some ⟨b, false⟩) (some ⟨c, true⟩)

/-- `d'` is a directory the machine may come up with after a crash in `d`. -/
structure Crash (d d' : Dir) : Prop where
  entry : ∀ n, ∃ v, d.Possible n v ∧ Torn v (d'.get n)
  disk : d'.disk = d'.live
  stale : d'.stale = []

section

variable (h : d.Crash d')
include h

theorem Crash.quietAt (n : String) : d'.QuietAt n := by
  intro v hv
  have hget : v = d'.get n := by simpa [Possible, h.disk, h.stale, Dir.get] using hv
  refine ⟨hget, fun f hf => ?_⟩
  obtain ⟨u, -, ht⟩ := h.entry n
  rw [← hget, hf] at ht
  cases ht <;> rfl

theorem Crash.durable (hb : d.Durable n b) : d'.Durable n b := by
  obtain ⟨v, hv, ht⟩ := h.entry n
  refine (h.quietAt n).durable ?_
  rw [hb v hv] at ht
  generalize hg : d'.get n = u at ht
  cases ht
  simp [Dir.read, hg]

/-- An entry the crash left was a possible one. -/
theorem Crash.possible_some (hf : d'.get n = some f) : ∃ g, d.Possible n (some g) ∧ f.data <+: g.data := by
  obtain ⟨v, hv, ht⟩ := h.entry n
  rw [hf] at ht
  cases ht with
  | whole => exact ⟨_, hv, List.prefix_rfl⟩
  | cut hc => exact ⟨_, hv, hc⟩

/-- An entry the crash lost was one that could be missing. -/
theorem Crash.possible_none (hn : d'.get n = none) : d.Possible n none := by
  obtain ⟨v, hv, ht⟩ := h.entry n
  rw [hn] at ht
  cases ht
  exact hv

theorem Crash.absent (hn : d.Absent n) : d'.Absent n := by
  refine (h.quietAt n).absent ?_
  by_contra hne
  obtain ⟨f, hf⟩ := Option.ne_none_iff_exists'.mp hne
  obtain ⟨g, hg, -⟩ := h.possible_some hf
  simpa using hn _ hg

theorem Crash.present (hn : d.Present n) : d'.Present n := by
  obtain ⟨f, hf⟩ := Option.ne_none_iff_exists'.mp fun hget => hn (h.possible_none hget)
  exact (h.quietAt n).present hf

end

/-- The crash that loses nothing: every write had reached the medium. -/
def settle (d : Dir) : Dir :=
  let kept : Entries := ⟨d.live.entries.map fun e => ⟨e.1, e.2.data, true⟩, by
    have h := d.live.nodupKeys
    simp only [List.NodupKeys, List.keys] at h ⊢
    simpa [List.map_map, Function.comp_def] using h⟩
  ⟨kept, kept, []⟩

theorem get_settle (d : Dir) (n : String) : d.settle.get n = (d.get n).map fun f => ⟨f.data, true⟩ := by
  simp only [settle, get, AList.lookup]
  induction d.live.entries with
  | nil => rfl
  | cons e es ih =>
    obtain ⟨m, f⟩ := e
    by_cases h : n = m
    · subst h; simp
    · rw [List.map_cons, List.dlookup_cons_ne _ _ h, List.dlookup_cons_ne _ _ h]
      exact ih

theorem crash_settle (d : Dir) : d.Crash d.settle where
  entry n := by
    refine ⟨d.get n, possible_get d n, ?_⟩
    rw [get_settle]
    rcases d.get n with _ | ⟨b, _ | _⟩
    · exact .absent
    · exact .cut List.prefix_rfl
    · exact .whole
  disk := rfl
  stale := rfl

/-- The crash that undoes what was done to the entry `n` since the directory was synced, and nothing else. -/
def revert (d : Dir) (n : String) : Dir :=
  let kept := match d.disk.lookup n with
    | none => d.settle.live.erase n
    | some f => d.settle.live.insert n ⟨f.data, true⟩
  ⟨kept, kept, []⟩

theorem get_revert (d : Dir) (n m : String) :
    (d.revert n).get m = if m = n then (d.disk.lookup n).map fun f => ⟨f.data, true⟩
    else d.settle.get m := by
  by_cases hm : m = n
  · subst hm
    cases hdisk : d.disk.lookup m <;> simp [revert, get, hdisk]
  · cases hdisk : d.disk.lookup n <;> simp [revert, get, hdisk, hm]

theorem crash_revert (d : Dir) (n : String) : d.Crash (d.revert n) where
  entry m := by
    rw [get_revert]
    split_ifs with hm
    · subst hm
      refine ⟨d.disk.lookup m, .inr (.inl rfl), ?_⟩
      rcases d.disk.lookup m with _ | ⟨b, _ | _⟩
      · exact .absent
      · exact .cut List.prefix_rfl
      · exact .whole
    · exact (crash_settle d).entry m
  disk := rfl
  stale := rfl

/-! ## Writing one entry -/

/-- `d'` is `d` except at the entry `n`. -/
def AgreeOff (n : String) (d d' : Dir) : Prop :=
  ∀ m, m ≠ n → d'.get m = d.get m ∧ ∀ v, d'.Possible m v ↔ d.Possible m v

theorem AgreeOff.refl (n : String) (d : Dir) : AgreeOff n d d := fun _ _ => ⟨rfl, fun _ => Iff.rfl⟩

section

variable (h : AgreeOff n d d')
include h

theorem AgreeOff.trans {d'' : Dir} (h' : AgreeOff n d' d'') : AgreeOff n d d'' :=
  fun m hm => ⟨(h' m hm).1.trans (h m hm).1, fun v => ((h' m hm).2 v).trans ((h m hm).2 v)⟩

theorem AgreeOff.durable (hm : m ≠ n) (hb : d.Durable m b) : d'.Durable m b :=
  fun v hv => hb v (((h m hm).2 v).mp hv)

theorem AgreeOff.absent (hm : m ≠ n) (ha : d.Absent m) :
    d'.Absent m := fun v hv => ha v (((h m hm).2 v).mp hv)

theorem AgreeOff.present (hm : m ≠ n) (hp : d.Present m) :
    d'.Present m := fun hv => hp (((h m hm).2 none).mp hv)

end

theorem agreeOff_create (d : Dir) (n : String) : AgreeOff n d (d.create n) := fun m hm =>
  ⟨by simp [hm], fun v => by simp [possible_create, hm]⟩

theorem agreeOff_remove (d : Dir) (n : String) : AgreeOff n d (d.remove n) := fun m hm =>
  ⟨by simp [hm], fun v => by simp [possible_remove, hm]⟩

theorem agreeOff_put (d : Dir) (n : String) (f : File) : AgreeOff n d (d.put n f) := fun m hm =>
  ⟨by simp [hm], fun v => by simp [Possible, hm, put, get]⟩

theorem agreeOff_append (d : Dir) (n : String) (b : Bytes) : AgreeOff n d (d.append n b) := by
  unfold append
  split
  · exact agreeOff_put d n _
  · exact AgreeOff.refl n d

theorem agreeOff_fsync (d : Dir) (n : String) : AgreeOff n d (d.fsync n) := by
  unfold fsync
  split
  · exact agreeOff_put d n _
  · exact AgreeOff.refl n d

/-- Create `n`, write `b`, sync the file, sync the directory. -/
def install (d : Dir) (n : String) (b : Bytes) : Dir := (((d.create n).append n b).fsync n).syncDir

/-- Remove `n`, sync the directory. -/
def unlink (d : Dir) (n : String) : Dir := (d.remove n).syncDir

@[simp] theorem get_install (d : Dir) (n : String) (b : Bytes) (m : String) :
    (d.install n b).get m = if m = n then some ⟨b, true⟩ else d.get m := by
  have h1 : (d.create n).get n = some ⟨[], false⟩ := by simp
  have h2 : ((d.create n).append n b).get n = some ⟨b, false⟩ := by simp [get_append h1]
  rw [install, get_syncDir, get_fsync h2, get_append h1, get_create]
  split_ifs <;> rfl

@[simp] theorem get_unlink (d : Dir) (n m : String) :
    (d.unlink n).get m = if m = n then none else d.get m := by simp [unlink]

/-- An installation syncs the directory. -/
theorem possible_install (h : (d.install n b).Possible m v) : v = (d.install n b).get m :=
  possible_syncDir.mp h

theorem QuietAt.install (h : d.QuietAt m) (n : String) (b : Bytes) : (d.install n b).QuietAt m := by
  refine quietAt_syncDir fun f hf => ?_
  have hget : (d.install n b).get m = some f := hf
  rw [get_install] at hget
  split_ifs at hget with hm
  · cases hget; rfl
  · exact h.synced hget

theorem QuietAt.unlink (h : d.QuietAt m) (n : String) : (d.unlink n).QuietAt m := by
  refine quietAt_syncDir fun f hf => ?_
  rw [get_remove] at hf
  split_ifs at hf with hm
  exact h.synced hf

theorem durable_install (d : Dir) (n : String) (b : Bytes) : (d.install n b).Durable n b := by
  refine QuietAt.durable (quietAt_syncDir fun f hf => ?_) (by simp [read])
  have hget : (d.install n b).get n = some f := hf
  rw [get_install, if_pos rfl] at hget
  cases hget
  rfl

/-- A directory sync keeps what was durable. -/
theorem Durable.install (h : d.Durable m c) (hm : m ≠ n) (b : Bytes) : (d.install n b).Durable m c := by
  intro v hv
  rw [possible_install hv, get_install, if_neg hm, h.get]

@[simp] theorem read_install (d : Dir) (n : String) (b : Bytes) (m : String) :
    (d.install n b).read m = if m = n then some b else d.read m := by
  simp only [read, get_install]
  split_ifs <;> rfl

@[simp] theorem read_unlink (d : Dir) (n m : String) :
    (d.unlink n).read m = if m = n then none else d.read m := by
  simp only [read, get_unlink]
  split_ifs <;> rfl

end Dir

end Foundation
