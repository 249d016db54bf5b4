import EdgePlatform.Agent.Bundle

/-!
# `EdgePlatform.Agent.StaticBundle` — reading an installed bundle back

`installed_scoped_static_files` walks through the directories of the stack and collects the paths of its
static files; `verify_exact_installed_vm_bundle_static` compares them, and the bytes of each, with a bundle.
The stack is a tree of files, directories and other nodes (links, devices), each directory listed in the
order in which the system lists it. Reads succeed and names are Unicode.

`entriesOf` is what a walk should see. The walk sees it (`walk_sound`, `walk_complete`) as long as it never
has more than 128 directories before it.
-/

namespace EdgePlatform.Agent

open Foundation
open Host (BundleFile ApplyBundleRequest)

/-! ## Paths as text -/

/-- The text of a path. -/
def joinPath : TreePath → String
  | [] => ""
  | [name] => name
  | name :: rest => name ++ "/" ++ joinPath rest

/-- `replace('\\', "/")` -/
def slashes (text : String) : String := String.ofList (text.toList.map fun c => if c = '\\' then '/' else c)

/-- A name that a file can have; the walk would read a backslash as a separator. -/
def ProperName (name : String) : Prop := name ≠ "" ∧ name ≠ "." ∧ '/' ∉ name.toList ∧ '\\' ∉ name.toList

instance (name : String) : Decidable (ProperName name) := inferInstanceAs (Decidable (_ ∧ _ ∧ _ ∧ _))

/-- A path below the root. -/
structure ProperPath (p : TreePath) : Prop where
  ne_nil : p ≠ []
  names : ∀ name ∈ p, ProperName name

instance (p : TreePath) : Decidable (ProperPath p) :=
  decidable_of_iff (p ≠ [] ∧ ∀ name ∈ p, ProperName name) ⟨fun h => ⟨h.1, h.2⟩, fun h => ⟨h.ne_nil, h.names⟩⟩

section Paths

variable {p q : TreePath} {name : String}

theorem joinPath_cons (name : String) (hp : p ≠ []) : joinPath (name :: p) = name ++ "/" ++ joinPath p := by
  cases p with
  | nil => exact absurd rfl hp
  | cons next rest => rfl

theorem splitAt_joinPath (h : ProperPath p) :
    Host.HostAdmin.splitAt '/' (joinPath p).toList = p.map String.toList := by
  obtain ⟨hne, hnames⟩ := h
  induction p with
  | nil => exact absurd rfl hne
  | cons name rest ih =>
    have hname : '/' ∉ name.toList := (hnames name (.head _)).2.2.1
    cases rest with
    | nil => exact (Host.HostAdmin.splitAt_of_not_mem hname []).2
    | cons next rest =>
      rw [joinPath_cons name (by simp), String.toList_append, String.toList_append, List.append_assoc,
        List.map_cons, ← ih (by simp) fun n hn => hnames n (.tail _ hn)]
      exact (Host.HostAdmin.splitAt_of_not_mem hname _).1

/-- The text of a path has the names of the path as its components, and the last of them is not `.`. -/
theorem components_joinPath (h : ProperPath p) :
    components (joinPath p) = p ∧ namesDirectory (joinPath p) = false := by
  have hofList : (p.map String.toList).map String.ofList = p := by simp
  constructor
  · unfold components
    rw [splitAt_joinPath h, hofList]
    cases p with
    | nil => rfl
    | cons name rest =>
      have hrest : rest.filter (fun part => part ≠ "" ∧ part ≠ ".") = rest := by
        rw [List.filter_eq_self]
        intro part hpart
        have hproper := h.names part (.tail _ hpart)
        exact decide_eq_true ⟨hproper.1, hproper.2.1⟩
      show (if name = "" then [] else [name]) ++ rest.filter _ = name :: rest
      rw [if_neg (h.names name (.head _)).1, hrest]
      rfl
  · unfold namesDirectory
    rw [splitAt_joinPath h, List.getLast?_map, Option.any_map, Option.any_eq_false]
    intro last hlast
    have hproper := h.names last (List.mem_of_getLast? hlast)
    have hdot : last.toList ≠ ['.'] := fun h => hproper.2.1 (String.toList_inj.mp h)
    simpa [hdot] using hproper.1

theorem joinPath_injective (hp : ProperPath p) (hq : ProperPath q)
    (h : joinPath p = joinPath q) : p = q := by
  rw [← (components_joinPath hp).1, h, (components_joinPath hq).1]

theorem slashes_joinPath (h : ProperPath p) : slashes (joinPath p) = joinPath p := by
  have hplain : '\\' ∉ (joinPath p).toList := by
    obtain ⟨hne, hnames⟩ := h
    induction p with
    | nil => exact absurd rfl hne
    | cons name rest ih =>
      have hname := (hnames name (.head _)).2.2.2
      cases rest with
      | nil => exact hname
      | cons next rest =>
        rw [joinPath_cons name (by simp), String.toList_append, String.toList_append]
        simp [hname, ih (by simp) fun n hn => hnames n (.tail _ hn)]
  have hmap : (joinPath p).toList.map (fun c => if c = '\\' then '/' else c) = (joinPath p).toList := by
    refine (List.map_congr_left fun c hc => if_neg ?_).trans (List.map_id' _)
    rintro rfl
    exact hplain hc
  rw [slashes, hmap, String.ofList_toList]

end Paths

/-! ## The stack -/

/-- What stands under a name. `symlink_metadata` does not follow a link at the end of a path, but a path goes
    through one, to its `target`. -/
inductive StackNode
  | file (content : Bytes)
  | dir (items : List (String × StackNode))
  | other (target : Option StackNode)

namespace StackNode

/-- The entries of a directory, perhaps behind links. -/
def entered : StackNode → Option (List (String × StackNode))
  | .dir items => some items
  | .other (some node) => node.entered
  | _ => none

def find : StackNode → TreePath → Option StackNode
  | node, [] => some node
  | node, name :: rest => do
      let items ← node.entered
      let child ← items.lookup name
      child.find rest

/-- `symlink_metadata` of the stack joined with a relative path. -/
def metadata (stack : StackNode) (relative : String) : Option StackNode := do
  let node ← stack.find (components relative)
  if namesDirectory relative then node.entered.map .dir else some node

end StackNode

/-! ## The readers -/

abbrev Items := List (String × StackNode)

/-- The check at the end of the inner loop. -/
def counted (files : List String) (dirs : Nat) : Except String (List String) :=
  if files.length > 128 ∨ dirs > 128 then .error "HOST_NATIVE_VM_SCOPED_FILE_COUNT_INVALID" else .ok files

/-- One entry of the inner loop, with the number of directories that are then still to be read. -/
def visitItem (relative : String) (node : StackNode) (files : List String) (dirs : Nat) :
    Except String (List String) :=
  if relative = "rendered" ∨ relative = "certs" then
    match node with
    | .dir _ => .ok files
    | _ => .error "HOST_NATIVE_VM_SCOPED_RUNTIME_PATH_UNTRUSTED"
  else
    match node with
    | .dir _ => counted files dirs
    | .file _ =>
      if relative = ".env.runtime" ∨ relative = ".application-release.pb" then counted files dirs
      else if relative ∈ files then .error "HOST_NATIVE_VM_SCOPED_DUPLICATE_STATIC_FILE"
      else counted (relative :: files) dirs
    | .other _ => .error "HOST_NATIVE_VM_SCOPED_FOREIGN_FILE_TYPE"

/-- The directories an entry adds to those to be read. -/
def pushed (relative : String) (path : TreePath) : StackNode → List (TreePath × Items)
  | .dir sub => if relative = "rendered" ∨ relative = "certs" then [] else [(path, sub)]
  | _ => []

/-- The loops of `installed_scoped_static_files`. The first directory is being read, with the entries that
    are left of it; the others are `dirs`, the last one pushed first. -/
def scopedStaticFiles (files : List String) : List (TreePath × Items) → Except String (List String)
  | [] => .ok files
  | (_, []) :: dirs => scopedStaticFiles files dirs
  | (base, (name, node) :: items) :: dirs => do
      let relative := slashes (joinPath (base ++ [name]))
      let dirs := pushed relative (base ++ [name]) node ++ dirs
      let files ← visitItem relative node files dirs.length
      scopedStaticFiles files ((base, items) :: dirs)
termination_by dirs => (dirs.map fun d => sizeOf d.2 + 1).sum
decreasing_by
  · simp
  · unfold pushed
    split
    · split
      · simp
      · simp
        omega
    · simp

/-- The static files of the stack. -/
def installedScopedStaticFiles (stack : Items) : Except String (List String) :=
  scopedStaticFiles [] [([], stack)]

/-- A regular file of the stack, neither empty nor large. -/
def exactVmPolicyFile (stack : Items) (relative : String) : Except String Bytes := do
  validateBundleRelativePath relative
  match (StackNode.dir stack).metadata relative with
  | none => .error "HOST_NATIVE_VM_POLICY_FILE_MISSING"
  | some (.file b) =>
    if b = [] ∨ b.length > 4 * 1024 * 1024 then .error "HOST_NATIVE_VM_POLICY_FILE_UNTRUSTED" else .ok b
  | some _ => .error "HOST_NATIVE_VM_POLICY_FILE_UNTRUSTED"

def verifyStaticFiles (stack : Items) (seen : List String) : List BundleFile → Except String Unit
  | [] => pure ()
  | expected :: files => do
      orError (validateBundleRelativePath expected.relativePath) "HOST_VM_STATIC_BUNDLE_PATH_INVALID"
      rejectIf (expected.relativePath ∈ seen ∨ expected.content = [] ∨
        expected.content.length > 4 * 1024 * 1024)
        "HOST_VM_STATIC_BUNDLE_FILE_INVALID"
      let content ← exactVmPolicyFile stack expected.relativePath
      rejectIf (content ≠ expected.content) "HOST_VM_STATIC_BUNDLE_DRIFT"
      verifyStaticFiles stack (expected.relativePath :: seen) files

/-- The stack has the files of the bundle and no others. -/
def verifyExactInstalledVmBundleStatic (stack : Items) (request : ApplyBundleRequest) :
    Except String Unit := do
  rejectIf (request.stackFiles = [] ∨ request.stackFiles.length > 128) "HOST_VM_STATIC_BUNDLE_SCOPE_INVALID"
  verifyStaticFiles stack [] request.stackFiles
  let installed ← installedScopedStaticFiles stack
  rejectIf (¬ sameKeys (request.stackFiles.map (·.relativePath)) installed)
    "HOST_VM_STATIC_BUNDLE_MANIFEST_DRIFT"

/-! ## What a walk should see -/

def isRuntimeDir (path : TreePath) : Bool := path = ["rendered"] || path = ["certs"]

mutual

/-- A node and what stands below it, but nothing in the directories of the runtime. -/
def StackNode.entries (path : TreePath) : StackNode → List (TreePath × StackNode)
  | .dir items => (path, .dir items) :: if isRuntimeDir path then [] else entriesOf path items
  | .file content => [(path, .file content)]
  | .other target => [(path, .other target)]

def entriesOf (base : TreePath) : List (String × StackNode) → List (TreePath × StackNode)
  | [] => []
  | (name, node) :: items => node.entries (base ++ [name]) ++ entriesOf base items

end

/-- The entry is a file that the runtime did not make. -/
def staticFile : TreePath × StackNode → Option (String × Bytes)
  | (path, .file content) =>
    if isRuntimeDir path || path = [runtimeEnvFile] || path = [applicationReleaseMarker] then none
    else some (joinPath path, content)
  | _ => none

/-- The entry is a file or a directory, and a directory where the runtime has its own. -/
def ordinary : TreePath × StackNode → Bool
  | (path, .file _) => !isRuntimeDir path
  | (_, .dir _) => true
  | (_, .other _) => false

/-- The entry is a directory that a walk goes into. -/
def scopedDir : TreePath × StackNode → Bool
  | (path, .dir _) => !isRuntimeDir path
  | _ => false

def staticFiles (stack : Items) : List (String × Bytes) := (entriesOf [] stack).filterMap staticFile

/-- No path is there twice, and the names are proper. -/
structure WellFormed (stack : Items) : Prop where
  paths : ∀ e ∈ entriesOf [] stack, ProperPath e.1
  nodup : ((entriesOf [] stack).map Prod.fst).Nodup

instance (stack : Items) : Decidable (WellFormed stack) :=
  decidable_of_iff ((∀ e ∈ entriesOf [] stack, ProperPath e.1) ∧ ((entriesOf [] stack).map Prod.fst).Nodup)
    ⟨fun h => ⟨h.1, h.2⟩, fun h => ⟨h.paths, h.nodup⟩⟩

/-- What is still before a walk. -/
def pending (dirs : List (TreePath × Items)) : List (TreePath × StackNode) :=
  dirs.flatMap fun d => entriesOf d.1 d.2

section Walk

variable {files files' r : List String} {dirs : List (TreePath × Items)} {base p : TreePath} {name : String}
variable {node : StackNode} {items : Items} {n : Nat}

/-- The texts of the static files among some entries. -/
def staticNames (entries : List (TreePath × StackNode)) : List String :=
  (entries.filterMap staticFile).map Prod.fst

@[simp] theorem staticNames_dir (sub : Items) : staticNames [(p, .dir sub)] = [] := rfl

/-- The texts that the walk compares are those of proper paths. -/
theorem text_eq_iff {q : TreePath} (hp : ProperPath p) (hq : ProperPath q) :
    slashes (joinPath p) = joinPath q ↔ p = q := by
  rw [slashes_joinPath hp]
  exact ⟨joinPath_injective hp hq, congrArg _⟩

theorem runtimeDir_iff (hp : ProperPath p) :
    (slashes (joinPath p) = "rendered" ∨ slashes (joinPath p) = "certs") ↔ isRuntimeDir p = true := by
  have hrendered := text_eq_iff hp (q := ["rendered"]) (by decide)
  have hcerts := text_eq_iff hp (q := ["certs"]) (by decide)
  simp only [joinPath] at hrendered hcerts
  simp [isRuntimeDir, hrendered, hcerts]

theorem runtimeFile_iff (hp : ProperPath p) :
    (slashes (joinPath p) = ".env.runtime" ∨ slashes (joinPath p) = ".application-release.pb") ↔
      p = [runtimeEnvFile] ∨ p = [applicationReleaseMarker] :=
  or_congr (text_eq_iff hp (q := [runtimeEnvFile]) (by decide))
    (text_eq_iff hp (q := [applicationReleaseMarker]) (by decide))

theorem counted_eq_ok : counted files n = .ok files' ↔ (files'.length ≤ 128 ∧ n ≤ 128) ∧ files' = files := by
  unfold counted
  split
  · rename_i hmany
    simp only [reduceCtorEq, false_iff]
    rintro ⟨hfew, rfl⟩
    omega
  · rename_i hfew
    rw [not_or, not_lt, not_lt] at hfew
    constructor
    · rintro ⟨⟩
      exact ⟨hfew, rfl⟩
    · rintro ⟨-, rfl⟩
      rfl

/-- **One entry.** -/
theorem visitItem_eq_ok (hp : ProperPath p) :
    visitItem (slashes (joinPath p)) node files n = .ok files' ↔
      ordinary (p, node) = true ∧ (∀ x ∈ staticNames [(p, node)], x ∉ files) ∧
        (isRuntimeDir p = false → files'.length ≤ 128 ∧ n ≤ 128) ∧
        files' = staticNames [(p, node)] ++ files := by
  unfold visitItem
  by_cases hrun : isRuntimeDir p = true
  · rw [if_pos ((runtimeDir_iff hp).mpr hrun)]
    cases node with
    | dir sub => simpa [ordinary, hrun] using eq_comm
    | _ => simp [ordinary, hrun]
  · rw [if_neg (mt (runtimeDir_iff hp).mp hrun)]
    rw [Bool.not_eq_true] at hrun
    cases node with
    | other target => simp [ordinary]
    | dir sub => simp [counted_eq_ok, ordinary, hrun]
    | file content =>
      by_cases hmade : p = [runtimeEnvFile] ∨ p = [applicationReleaseMarker]
      · rw [if_pos ((runtimeFile_iff hp).mpr hmade), counted_eq_ok]
        have hnames : staticNames [(p, .file content)] = [] := by rcases hmade with rfl | rfl <;> rfl
        simp [ordinary, hrun, hnames]
      · rw [if_neg (mt (runtimeFile_iff hp).mp hmade), slashes_joinPath hp]
        have hnames : staticNames [(p, .file content)] = [joinPath p] := by
          simp [staticNames, staticFile, hrun, not_or.mp hmade]
        by_cases hthere : joinPath p ∈ files
        · simp [hthere, hnames]
        · rw [if_neg hthere, counted_eq_ok]
          simp [ordinary, hrun, hnames, hthere]

theorem item_mem_pending : (base ++ [name], node) ∈ pending ((base, (name, node) :: items) :: dirs) := by
  cases node <;> simp [pending, entriesOf, StackNode.entries]

theorem length_pushed (hp : ProperPath p) :
    (pushed (slashes (joinPath p)) p node).length = if scopedDir (p, node) then 1 else 0 := by
  cases node with
  | dir sub => cases hrun : isRuntimeDir p <;> simp [pushed, runtimeDir_iff hp, scopedDir, hrun]
  | _ => rfl

/-- The entry that is visited leaves the pending ones. -/
theorem pending_item (hp : ProperPath (base ++ [name])) :
    (pending ((base, (name, node) :: items) :: dirs)).Perm ((base ++ [name], node) ::
      pending ((base, items) :: (pushed (slashes (joinPath (base ++ [name]))) (base ++ [name]) node ++
        dirs))) := by
  unfold pending pushed
  cases node with
  | file | other => simp [entriesOf, StackNode.entries]
  | dir sub =>
    simp only [runtimeDir_iff hp, entriesOf, StackNode.entries, List.flatMap_cons, List.cons_append]
    split
    · simp
    · simp only [List.flatMap_cons, List.append_assoc, List.nil_append, List.cons_append]
      exact .cons _ (List.perm_append_comm_assoc ..)

theorem staticNames_cons (e : TreePath × StackNode) (entries : List (TreePath × StackNode)) :
    staticNames (e :: entries) = staticNames [e] ++ staticNames entries := by
  rw [staticNames, ← List.singleton_append, List.filterMap_append, List.map_append]
  rfl

theorem staticNames_perm {entries entries' : List (TreePath × StackNode)} (h : entries.Perm entries') :
    (staticNames entries).Perm (staticNames entries') := (h.filterMap staticFile).map Prod.fst

/-- **What a walk that succeeds has seen.** -/
theorem walk_sound (hpaths : ∀ e ∈ pending dirs, ProperPath e.1) (h : scopedStaticFiles files dirs = .ok r) :
    (∀ e ∈ pending dirs, ordinary e = true) ∧ ∀ x, x ∈ r ↔ x ∈ files ∨ x ∈ staticNames (pending dirs) := by
  fun_induction scopedStaticFiles files dirs with
  | case1 files =>
    cases h
    simp [pending, staticNames]
  | case2 files base dirs ih => exact ih hpaths h
  | case3 files base name node items dirs relative dirs' ih =>
    have hpath : ProperPath (base ++ [name]) := hpaths _ item_mem_pending
    have hperm : (pending ((base, (name, node) :: items) :: dirs)).Perm
        ((base ++ [name], node) :: pending ((base, items) :: dirs')) := pending_item hpath
    obtain ⟨files', hvisit, h⟩ := bind_ok h
    obtain ⟨hitem, -, -, rfl⟩ := (visitItem_eq_ok hpath).mp hvisit
    obtain ⟨hrest, hnames⟩ := ih _ (fun e he => hpaths e (hperm.mem_iff.mpr (.tail _ he))) h
    refine ⟨fun e he => ?_, fun x => ?_⟩
    · rcases List.mem_cons.mp (hperm.mem_iff.mp he) with rfl | he
      · exact hitem
      · exact hrest e he
    · rw [hnames x, (staticNames_perm hperm).mem_iff, staticNames_cons _ (pending _)]
      simp only [List.mem_append]
      tauto

/-- **A walk within the limits succeeds.** -/
theorem walk_complete (hpaths : ∀ e ∈ pending dirs, ProperPath e.1)
    (hordinary : ∀ e ∈ pending dirs, ordinary e = true)
    (hnodup : (files ++ staticNames (pending dirs)).Nodup)
    (hcount : (files ++ staticNames (pending dirs)).length ≤ 128)
    (hdirs : dirs.tail.length + (pending dirs).countP scopedDir ≤ 128) :
    ∃ r, scopedStaticFiles files dirs = .ok r := by
  fun_induction scopedStaticFiles files dirs with
  | case1 files => exact ⟨files, rfl⟩
  | case2 files base dirs ih =>
    refine ih hpaths hordinary hnodup hcount (le_trans (Nat.add_le_add_right ?_ _) hdirs)
    simp
  | case3 files base name node items dirs relative dirs' ih =>
    have hpath : ProperPath (base ++ [name]) := hpaths _ item_mem_pending
    have hperm : (pending ((base, (name, node) :: items) :: dirs)).Perm
        ((base ++ [name], node) :: pending ((base, items) :: dirs')) := pending_item hpath
    -- the names of the entry move from the pending ones to those collected
    have hnames : (files ++ staticNames (pending ((base, (name, node) :: items) :: dirs))).Perm
        (staticNames [(base ++ [name], node)] ++ files ++
          staticNames (pending ((base, items) :: dirs'))) := by
      refine ((staticNames_perm hperm).append_left files).trans ?_
      rw [staticNames_cons, List.append_assoc]
      exact List.perm_append_comm_assoc ..
    rw [hnames.nodup_iff] at hnodup
    rw [hnames.length_eq] at hcount
    have hpending : dirs'.length + (pending ((base, items) :: dirs')).countP scopedDir ≤ 128 := by
      rw [hperm.countP_eq, List.countP_cons] at hdirs
      have hlength : dirs'.length = (if scopedDir (base ++ [name], node) then 1 else 0) + dirs.length := by
        rw [← length_pushed hpath]
        exact List.length_append
      rw [List.tail_cons] at hdirs
      omega
    obtain ⟨hcollected, -, -⟩ := List.nodup_append.mp hnodup
    obtain ⟨r, hr⟩ := ih _ (fun e he => hpaths e (hperm.mem_iff.mpr (.tail _ he)))
      (fun e he => hordinary e (hperm.mem_iff.mpr (.tail _ he))) hnodup hcount hpending
    refine ⟨r, ok_bind
      ((visitItem_eq_ok hpath).mpr ⟨hordinary _ item_mem_pending, ?_, fun _ => ⟨?_, ?_⟩, rfl⟩) hr⟩
    · exact fun x hx hfiles => (List.nodup_append.mp hcollected).2.2 x hx x hfiles rfl
    · exact le_trans (by simp) hcount
    · exact le_trans (Nat.le_add_right ..) hpending

end Walk

/-! ## Exactness -/

section Exactness

theorem mem_entries (path : TreePath) (node : StackNode) : (path, node) ∈ node.entries path := by
  cases node <;> exact .head _

variable {stack : Items} {files : List BundleFile} {request : ApplyBundleRequest}

theorem mem_entriesOf_of_lookup {items : Items} {name : String} {node : StackNode}
    (base : TreePath) (h : items.lookup name = some node) :
    (base ++ [name], node) ∈ entriesOf base items := by
  induction items with
  | nil => cases h
  | cons item items ih =>
    obtain ⟨other, sibling⟩ := item
    rw [List.lookup_cons] at h
    split at h
    · rename_i heq
      obtain rfl : name = other := by simpa using heq
      cases h
      exact List.mem_append_left _ (mem_entries _ _)
    · exact List.mem_append_right _ (ih h)

mutual

/-- The entries below a node are found under the rest of their paths. -/
theorem find_of_mem_entries {path p : TreePath} {node : StackNode} :
    (n : StackNode) → ((n.entries path).map Prod.fst).Nodup → (p, node) ∈ n.entries path →
      ∃ q, p = path ++ q ∧ n.find q = some node
  | .file content, _, hmem => by
    obtain ⟨rfl, rfl⟩ := Prod.mk.inj (List.mem_singleton.mp hmem)
    exact ⟨[], by simp, rfl⟩
  | .other target, _, hmem => by
    obtain ⟨rfl, rfl⟩ := Prod.mk.inj (List.mem_singleton.mp hmem)
    exact ⟨[], by simp, rfl⟩
  | .dir items, hnodup, hmem => by
    rcases List.mem_cons.mp hmem with heq | hmem
    · obtain ⟨rfl, rfl⟩ := Prod.mk.inj heq
      exact ⟨[], by simp, rfl⟩
    · split at hmem
      · cases hmem
      next hruntime =>
        rw [StackNode.entries, if_neg hruntime] at hnodup
        obtain ⟨q, hp, -, hfind⟩ := find_of_mem_entriesOf items (List.nodup_cons.mp hnodup).2 hmem
        exact ⟨q, hp, hfind⟩

theorem find_of_mem_entriesOf {base p : TreePath} {node : StackNode} :
    (items : Items) → ((entriesOf base items).map Prod.fst).Nodup →
      (p, node) ∈ entriesOf base items → ∃ q, p = base ++ q ∧ q ≠ [] ∧
      (StackNode.dir items).find q = some node
  | [], _, hmem => by cases hmem
  | (name, n) :: items, hnodup, hmem => by
    rw [entriesOf, List.map_append, List.nodup_append] at hnodup
    obtain ⟨hhead, htail, hapart⟩ := hnodup
    rcases List.mem_append.mp hmem with hmem | hmem
    · obtain ⟨q, rfl, hfind⟩ := find_of_mem_entries n hhead hmem
      refine ⟨name :: q, by simp, by simp, ?_⟩
      simp [StackNode.find, StackNode.entered, hfind]
    · obtain ⟨q, rfl, hq, hfind⟩ := find_of_mem_entriesOf items htail hmem
      refine ⟨q, rfl, hq, ?_⟩
      cases q with
      | nil => exact absurd rfl hq
      | cons first rest =>
        obtain ⟨child, hchild, hrest⟩ : ∃ child, items.lookup first = some child ∧
          child.find rest = some node := by
          simpa [StackNode.find, StackNode.entered, Option.bind_eq_some_iff] using hfind
        -- the name is not that of the first entry, whose path would be there twice
        have hne : first ≠ name := by
          rintro rfl
          exact hapart _ (List.mem_map_of_mem (mem_entries _ n)) _
            (List.mem_map_of_mem (mem_entriesOf_of_lookup base hchild)) rfl
        simp [StackNode.find, StackNode.entered, List.lookup_cons, beq_eq_false_iff_ne.mpr hne,
          hchild, hrest]

end

/-- The static files are those of the bundle, path by path and byte by byte. -/
def ExactStatic (stack : Items) (files : List BundleFile) : Prop :=
  (staticFiles stack).Perm (files.map fun f => (f.relativePath, f.content))

/-- A bundle within the limits: distinct valid paths, and every file has some bytes but not more than 4
MiB. -/
structure WithinLimits (files : List BundleFile) : Prop where
  count : files ≠ [] ∧ files.length ≤ 128
  distinct : (files.map (·.relativePath)).Nodup
  paths : ∀ f ∈ files, validateBundleRelativePath f.relativePath = .ok ()
  sizes : ∀ f ∈ files, f.content ≠ [] ∧ f.content.length ≤ 4 * 1024 * 1024

theorem mem_staticFiles {name : String} {b : Bytes} (h : (name, b) ∈ staticFiles stack) :
    ∃ p, (p, .file b) ∈ entriesOf [] stack ∧ joinPath p = name := by
  obtain ⟨⟨p, node⟩, hmem, hstatic⟩ := List.mem_filterMap.mp h
  unfold staticFile at hstatic
  split at hstatic
  next content heq =>
    obtain ⟨rfl, rfl⟩ := Prod.mk.inj heq
    split at hstatic <;> cases hstatic
    exact ⟨_, hmem, rfl⟩
  next => cases hstatic

theorem metadata_of_static (hstack : WellFormed stack) {name : String} {b : Bytes}
    (h : (name, b) ∈ staticFiles stack) :
    (StackNode.dir stack).metadata name = some (.file b) := by
  obtain ⟨p, hmem, rfl⟩ := mem_staticFiles h
  obtain ⟨hcomponents, hname⟩ := components_joinPath (hstack.paths _ hmem)
  obtain ⟨q, rfl, -, hfind⟩ := find_of_mem_entriesOf stack hstack.nodup hmem
  rw [StackNode.metadata, hcomponents, hname]
  exact Option.bind_eq_some_iff.mpr ⟨_, hfind, rfl⟩

theorem nodup_staticNames (hstack : WellFormed stack) : ((staticFiles stack).map Prod.fst).Nodup := by
  rw [staticFiles, List.Nodup, List.pairwise_map, List.pairwise_filterMap]
  refine (List.pairwise_map.mp hstack.nodup).imp_of_mem fun {e e'} he he' hne f hf f' hf' heq => hne ?_
  have htext : ∀ e : TreePath × StackNode, ∀ f, staticFile e = some f → f.1 = joinPath e.1 := by
    intro e f hf
    unfold staticFile at hf
    split at hf
    · split at hf <;> cases hf
      rfl
    · cases hf
  exact joinPath_injective (hstack.paths e he) (hstack.paths e' he')
    (by rw [← htext e f hf, heq, htext e' f' hf'])

theorem exactVmPolicyFile_eq_ok {relative : String} {b : Bytes} :
    exactVmPolicyFile stack relative = .ok b ↔
      validateBundleRelativePath relative = .ok () ∧
        (StackNode.dir stack).metadata relative = some (.file b) ∧ b ≠ [] ∧ b.length ≤ 4 * 1024 * 1024 := by
  simp only [exactVmPolicyFile, ok_iff]
  refine and_congr_right fun _ => ?_
  cases (StackNode.dir stack).metadata relative with
  | none => simp
  | some node =>
    cases node with
    | dir items => simp
    | other target => simp
    | file content =>
      simp only [Option.some.injEq, StackNode.file.injEq]
      split
      next hsize =>
        refine ⟨fun h => (by cases h), ?_⟩
        rintro ⟨rfl, hne, hlength⟩
        exact hsize.elim (fun h => absurd h hne) fun h => absurd h (by omega)
      next hsize =>
        rw [not_or, not_lt] at hsize
        constructor
        · rintro ⟨⟩
          exact ⟨rfl, hsize⟩
        · rintro ⟨rfl, -⟩
          rfl

theorem verifyStaticFiles_eq_ok {seen : List String}
    (hpaths : ∀ f ∈ files, validateBundleRelativePath f.relativePath = .ok ())
    (hsizes : ∀ f ∈ files, f.content ≠ [] ∧ f.content.length ≤ 4 * 1024 * 1024)
    (hdistinct : (files.map (·.relativePath)).Nodup) (hseen : ∀ f ∈ files, f.relativePath ∉ seen) :
    verifyStaticFiles stack seen files = .ok () ↔
      ∀ f ∈ files, (StackNode.dir stack).metadata f.relativePath = some (.file f.content) := by
  induction files generalizing seen with
  | nil => exact ⟨fun _ => List.forall_mem_nil _, fun _ => rfl⟩
  | cons f files ih =>
    have hpath := hpaths f (.head _)
    have hsize := hsizes f (.head _)
    rw [List.map_cons, List.nodup_cons] at hdistinct
    have hunseen : ∀ g ∈ files, g.relativePath ∉ f.relativePath :: seen := by
      intro g hg hmem
      rcases List.mem_cons.mp hmem with heq | hmem
      · exact hdistinct.1 (heq ▸ List.mem_map_of_mem hg)
      · exact hseen g (.tail _ hg) hmem
    have hrest := ih (fun g hg => hpaths g (.tail _ hg)) (fun g hg => hsizes g (.tail _ hg)) hdistinct.2
      hunseen
    simp only [verifyStaticFiles, ok_iff, orError_eq_ok, exactVmPolicyFile_eq_ok, hrest,
      List.forall_mem_cons, ne_eq, not_not]
    constructor
    · rintro ⟨-, -, content, ⟨-, hfile, -⟩, rfl, hfiles⟩
      exact ⟨hfile, hfiles⟩
    · rintro ⟨hfile, hfiles⟩
      refine ⟨hpath, ?_, f.content, ⟨hpath, hfile, hsize⟩, rfl, hfiles⟩
      have hnew := hseen f (.head _)
      simpa [hnew] using hsize

/-- **Static verification is exact.** For a bundle within the limits and a stack of at most 128 directories
    it accepts exactly when the stack has files and directories only, directories where the runtime has its
    own, and its static files are those of the bundle, byte by byte. -/
theorem static_verification_exact (hstack : WellFormed stack) (hlimits : WithinLimits request.stackFiles)
    (hdirs : (entriesOf [] stack).countP scopedDir ≤ 128) :
    verifyExactInstalledVmBundleStatic stack request = .ok () ↔
      (∀ e ∈ entriesOf [] stack, ordinary e = true) ∧ ExactStatic stack request.stackFiles := by
  have hpending : pending [([], stack)] = entriesOf [] stack := by simp [pending]
  have hpaths : ∀ e ∈ pending [([], stack)], ProperPath e.1 := hpending ▸ hstack.paths
  have hcount : ¬ (request.stackFiles = [] ∨ request.stackFiles.length > 128) := by
    have hcount := hlimits.count
    exact not_or.mpr ⟨hcount.1, by omega⟩
  have hbundle : (request.stackFiles.map fun f => (f.relativePath, f.content)).Nodup := by
    refine List.Nodup.of_map Prod.fst ?_
    simpa [List.map_map, Function.comp_def] using hlimits.distinct
  simp only [verifyExactInstalledVmBundleStatic, ok_iff, not_not, hcount, not_false_eq_true, true_and,
    verifyStaticFiles_eq_ok hlimits.paths hlimits.sizes hlimits.distinct fun _ _ => List.not_mem_nil]
  constructor
  · rintro ⟨hfiles, installed, hwalk, hnames⟩
    obtain ⟨hordinary, hinstalled⟩ := walk_sound hpaths hwalk
    rw [hpending] at hordinary hinstalled
    have hlisted : ∀ name, name ∈ (staticFiles stack).map Prod.fst ↔
        name ∈ request.stackFiles.map (·.relativePath) := by
      intro name
      have hmem : name ∈ installed ↔ name ∈ (staticFiles stack).map Prod.fst := by
        simpa [staticNames, staticFiles] using hinstalled name
      exact hmem.symm.trans ⟨fun h => hnames.2 h, fun h => hnames.1 h⟩
    refine ⟨hordinary, (List.perm_ext_iff_of_nodup (nodup_staticNames hstack).of_map hbundle).mpr ?_⟩
    rintro ⟨name, b⟩
    constructor
    · intro hstatic
      obtain ⟨f, hf, rfl⟩ := List.mem_map.mp ((hlisted name).mp (List.mem_map_of_mem hstatic))
      have hread := (hfiles f hf).symm.trans (metadata_of_static hstack hstatic)
      obtain rfl : f.content = b := by simpa using hread
      exact List.mem_map_of_mem hf
    · intro hmem
      obtain ⟨f, hf, heq⟩ := List.mem_map.mp hmem
      obtain ⟨rfl, rfl⟩ := Prod.mk.inj heq
      obtain ⟨⟨name, b⟩, hstatic, rfl⟩ := List.mem_map.mp ((hlisted _).mpr (List.mem_map_of_mem hf))
      have hread := (hfiles f hf).symm.trans (metadata_of_static hstack hstatic)
      obtain rfl : f.content = b := by simpa using hread
      exact hstatic
  · rintro ⟨hordinary, hexact⟩
    have hnames : ((staticFiles stack).map Prod.fst).Perm (request.stackFiles.map (·.relativePath)) := by
      simpa [List.map_map, Function.comp_def] using hexact.map Prod.fst
    obtain ⟨installed, hwalk⟩ : ∃ r, scopedStaticFiles [] _ = .ok r := walk_complete hpaths
      (hpending ▸ hordinary)
      (by rw [hpending]; exact nodup_staticNames hstack)
      (by rw [hpending]; exact hnames.length_eq ▸ (List.length_map _).trans_le hlimits.count.2)
      (by rw [hpending]; simpa using hdirs)
    refine ⟨fun f hf => metadata_of_static hstack (hexact.mem_iff.mpr (List.mem_map_of_mem hf)),
      installed, hwalk, ?_⟩
    have hinstalled : ∀ name, name ∈ installed ↔ name ∈ request.stackFiles.map (·.relativePath) := by
      intro name
      rw [(walk_sound hpaths hwalk).2 name, hpending, ← hnames.mem_iff]
      simp [staticNames, staticFiles]
    exact ⟨fun name h => (hinstalled name).mpr h, fun name h => (hinstalled name).mp h⟩

end Exactness

namespace StaticSample

def compose : BundleFile := ⟨"conf/docker-compose.yml", utf8 "services: \x7b\x7d\n", false, false⟩

def request : ApplyBundleRequest := ⟨[compose], [], none, none, true, none, none⟩

/-- The bundle installed, with a rendered file and the marker, and the node `extra` under a further name. -/
def stack (extra : StackNode) : List (String × StackNode) :=
  [("conf", .dir [("docker-compose.yml", .file compose.content)]), ("rendered", .dir [("r", .file [0])]),
    (applicationReleaseMarker, .file [1]), ("extra", extra)]

theorem limits : WithinLimits request.stackFiles where
  count := by decide
  distinct := by decide
  paths := by decide
  sizes := by decide

end StaticSample

open StaticSample in
/-- A stack with an empty directory beside the bundle. -/
theorem installed_bundle_exact : ExactStatic (stack (.dir [])) request.stackFiles :=
  ((static_verification_exact (by decide) limits (by decide)).mp (by decide +kernel)).2

open StaticSample in
/-- A link beside the bundle is no static file, and yet the stack is refused. -/
theorem linked_stack_refused :
    WellFormed (stack (.other none)) ∧ WithinLimits request.stackFiles ∧
      (entriesOf [] (stack (.other none))).countP scopedDir ≤ 128 ∧
      ExactStatic (stack (.other none)) request.stackFiles ∧
        verifyExactInstalledVmBundleStatic (stack (.other none)) request =
        .error "HOST_NATIVE_VM_SCOPED_FOREIGN_FILE_TYPE" :=
  ⟨by decide, limits, by decide, .refl _, by decide +kernel⟩

end EdgePlatform.Agent
