import EdgePlatform.Foundation.Framing
import EdgePlatform.Agent.Bundle

/-!
# `EdgePlatform.Agent.BundleDigest` — the digest of a bundle is a digest of its contents

`canonical_apply_bundle_digest` sorts the files of a bundle by scope and path, refuses a path that a scope
has twice, and hashes the bundle id, the prune flag and the sorted files, each field behind its length.
`bundle_digest_canonical` says what that makes of the digest: the order of the files does not matter, equal
digests mean equal contents (up to a collision of the hash), and a repeated path is refused.

Files with distinct paths are the same up to order exactly if they are the same map from paths
(`mem_iff_fileAt`), and a sorted list of entries with distinct keys is determined by its elements
(`sorted_ext`).
-/

namespace EdgePlatform.Agent

open Foundation
open Host (BundleFile ApplyBundleRequest)

/-! ## Scopes and their maps -/

/-- The files of one scope. -/
def scopeFiles (request : ApplyBundleRequest) (scope : UInt8) : List BundleFile :=
  if scope = 1 then request.stackFiles else if scope = 2 then request.hostFiles
  else if scope = 3 then request.deploymentSummary.toList
    else if scope = 4 then request.agentEnvFile.toList else []

/-- What a list of files says about a path: content, executable and sensitive flag. -/
def fileAt (files : List BundleFile) (path : String) : Option (Bytes × Bool × Bool) :=
  (files.find? (·.relativePath = path)).map fun f => (f.content, f.executable, f.sensitive)

/-- The same bundle id, the same prune flag and, in each scope, the same map from paths. -/
structure SameBundle (r r' : ApplyBundleRequest) : Prop where
  bundleId : r.bundleId = r'.bundleId
  prune : r.pruneExisting = r'.pruneExisting
  files : ∀ scope path, fileAt (scopeFiles r scope) path = fileAt (scopeFiles r' scope) path

/-- The files of each scope in another order. -/
structure Reordered (r r' : ApplyBundleRequest) : Prop where
  bundleId : r.bundleId = r'.bundleId
  prune : r.pruneExisting = r'.pruneExisting
  files : ∀ scope, (scopeFiles r scope).Perm (scopeFiles r' scope)

/-- Every path and content is of a length that eight bytes can hold, as every `Vec` is. -/
def Fits (r : ApplyBundleRequest) : Prop :=
  ∀ scope, ∀ f ∈ scopeFiles r scope, (utf8 f.relativePath).length < 2 ^ 64 ∧ f.content.length < 2 ^ 64

section Files

variable {files files' : List BundleFile}

theorem fileAt_eq_some (hnodup : (files.map (·.relativePath)).Nodup) (f : BundleFile) :
    fileAt files f.relativePath = some (f.content, f.executable, f.sensitive) ↔ f ∈ files := by
  unfold fileAt
  rw [Option.map_eq_some_iff]
  constructor
  · rintro ⟨g, hg, heq⟩
    have hpath : g.relativePath = f.relativePath := by simpa using List.find?_some hg
    have hfields : g = f := by
      cases g
      cases f
      simp_all
    exact hfields ▸ List.mem_of_find?_eq_some hg
  · intro hf
    obtain ⟨g, hg⟩ : ∃ g, files.find? (·.relativePath = f.relativePath) = some g := by
      rw [← Option.isSome_iff_exists, List.find?_isSome]
      exact ⟨f, hf, by simp⟩
    have hpath : g.relativePath = f.relativePath := by simpa using List.find?_some hg
    obtain rfl := List.inj_on_of_nodup_map hnodup (List.mem_of_find?_eq_some hg) hf hpath
    exact ⟨g, hg, rfl⟩

/-- Files with distinct paths are one map exactly if they have the same elements. -/
theorem mem_iff_fileAt (hnodup : (files.map (·.relativePath)).Nodup)
    (hnodup' : (files'.map (·.relativePath)).Nodup) :
    (∀ f, f ∈ files ↔ f ∈ files') ↔ ∀ path, fileAt files path = fileAt files' path := by
  constructor
  · intro hmem path
    rw [Option.ext_iff]
    rintro ⟨content, executable, sensitive⟩
    have h := fileAt_eq_some hnodup ⟨path, content, executable, sensitive⟩
    have h' := fileAt_eq_some hnodup' ⟨path, content, executable, sensitive⟩
    exact h.trans ((hmem _).trans h'.symm)
  · intro hmap f
    rw [← fileAt_eq_some hnodup f, ← fileAt_eq_some hnodup' f, hmap]

end Files

section Entries

variable {r r' : ApplyBundleRequest}

theorem mem_bundleEntries {scope : UInt8} {f : BundleFile} :
    (scope, f) ∈ bundleEntries r ↔ f ∈ scopeFiles r scope := by
  simp only [bundleEntries, List.mem_append, List.mem_map, Prod.mk.injEq, exists_eq_right_right, scopeFiles]
  by_cases h1 : scope = 1
  · subst h1; simp
  by_cases h2 : scope = 2
  · subst h2; simp
  by_cases h3 : scope = 3
  · subst h3; simp
  by_cases h4 : scope = 4
  · subst h4; simp
  · simp [h1, h2, h3, h4, eq_comm (b := scope)]

/-- What the entries are sorted by. -/
def entryKey (e : UInt8 × BundleFile) : UInt8 × String := (e.1, e.2.relativePath)

theorem scope_sublist (r : ApplyBundleRequest) (scope : UInt8) :
    ((scopeFiles r scope).map (scope, ·)).Sublist (bundleEntries r) := by
  unfold scopeFiles bundleEntries
  split
  · subst scope; simp only [List.append_assoc]; exact List.sublist_append_left ..
  split
  · subst scope
    exact ((List.sublist_append_right ..).trans (List.sublist_append_left ..)).trans
      (List.sublist_append_left ..)
  split
  · subst scope
    exact (List.sublist_append_right ..).trans (List.sublist_append_left ..)
  split
  · subst scope; exact List.sublist_append_right ..
  · exact List.nil_sublist _

/-- Distinct keys are distinct paths in each scope. -/
theorem nodup_paths (h : ((bundleEntries r).map entryKey).Nodup) (scope : UInt8) :
    ((scopeFiles r scope).map (·.relativePath)).Nodup := by
  have hscope := h.sublist ((scope_sublist r scope).map entryKey)
  rw [List.map_map] at hscope
  refine List.Nodup.of_map (scope, ·) ?_
  rwa [List.map_map]

/-! ## The sorted entries -/

variable {a b c : UInt8 × BundleFile} {es es' : List (UInt8 × BundleFile)}

theorem entryBefore_iff : entryBefore a b = true ↔ a.1 < b.1 ∨ a.1 = b.1 ∧
    a.2.relativePath ≤ b.2.relativePath := by
  simp [entryBefore]

theorem entryBefore_trans (h : entryBefore a b = true) (h' : entryBefore b c = true) :
    entryBefore a c = true := by
  rw [entryBefore_iff] at *
  rcases h with h | ⟨h, hpath⟩
  · rcases h' with h' | ⟨h', -⟩
    · exact .inl (UInt8.lt_trans h h')
    · exact .inl (h' ▸ h)
  · rcases h' with h' | ⟨h', hpath'⟩
    · exact .inl (h ▸ h')
    · exact .inr ⟨h.trans h', String.le_trans hpath hpath'⟩

theorem entryBefore_total (a b : UInt8 × BundleFile) : (entryBefore a b || entryBefore b a) = true := by
  rw [Bool.or_eq_true, entryBefore_iff, entryBefore_iff]
  by_cases h : a.1 = b.1
  · exact (String.le_total _ _).imp (fun hpath => .inr ⟨h, hpath⟩) fun hpath => .inr ⟨h.symm, hpath⟩
  · exact (UInt8.lt_or_lt_of_ne h).imp .inl .inl

theorem entryKey_of_entryBefore (h : entryBefore a b = true) (h' : entryBefore b a = true) :
    entryKey a = entryKey b := by
  rw [entryBefore_iff] at h h'
  rcases h with h | ⟨h, hpath⟩
  · rcases h' with h' | ⟨h', -⟩
    · exact absurd (UInt8.lt_trans h h') (UInt8.lt_irrefl _)
    · exact absurd (h' ▸ h) (UInt8.lt_irrefl _)
  · rcases h' with h' | ⟨-, hpath'⟩
    · exact absurd (h ▸ h') (UInt8.lt_irrefl _)
    · exact Prod.ext h (String.le_antisymm hpath hpath')

/-- In a sorted list two entries of one key would be neighbours. -/
theorem nodup_of_duplicateEntry (hsorted : es.Pairwise fun a b => entryBefore a b = true)
    (h : duplicateEntry es = none) : (es.map entryKey).Nodup := by
  induction es with
  | nil => exact List.nodup_nil
  | cons a es ih =>
    cases es with
    | nil => simp
    | cons b es =>
      rw [duplicateEntry] at h
      split at h
      · cases h
      rename_i hne
      obtain ⟨hfirst, hrest⟩ := List.pairwise_cons.mp hsorted
      rw [List.map_cons, List.nodup_cons]
      refine ⟨fun hmem => hne ?_, ih hrest h⟩
      obtain ⟨c, hc, hkey⟩ := List.mem_map.mp hmem
      obtain ⟨hscope, hpath⟩ : c.1 = a.1 ∧ c.2.relativePath = a.2.relativePath := Prod.mk.injEq .. ▸ hkey
      -- `b` stands between `a` and an entry of the key of `a`
      have hba : entryBefore b a = true := by
        rcases List.mem_cons.mp hc with rfl | hc
        · rw [entryBefore_iff, hscope, hpath]
          exact .inr ⟨rfl, String.le_refl _⟩
        · have hbc := (List.pairwise_cons.mp hrest).1 c hc
          rwa [entryBefore_iff, hscope, hpath, ← entryBefore_iff] at hbc
      exact Prod.mk.injEq .. ▸ entryKey_of_entryBefore (hfirst b (.head _)) hba

/-- Sorted entries with distinct keys are determined by their elements. -/
theorem sorted_ext (hsorted : es.Pairwise fun a b => entryBefore a b = true)
    (hsorted' : es'.Pairwise fun a b => entryBefore a b = true) (hnodup : (es.map entryKey).Nodup)
    (hnodup' : (es'.map entryKey).Nodup) (hmem : ∀ e, e ∈ es ↔ e ∈ es') : es = es' := by
  have hperm : es.Perm es' :=
    (List.perm_ext_iff_of_nodup (List.Nodup.of_map _ hnodup) (List.Nodup.of_map _ hnodup')).mpr hmem
  refine hperm.eq_of_pairwise (fun a b ha hb hab hba => ?_) hsorted hsorted'
  exact List.inj_on_of_nodup_map hnodup ha ((hmem b).mpr hb) (entryKey_of_entryBefore hab hba)

end Entries

/-! ## The hashed bytes -/

def entryBytes (e : UInt8 × BundleFile) : Bytes :=
  [e.1] ++ feedField (utf8 e.2.relativePath) ++ [boolByte e.2.executable, boolByte e.2.sensitive] ++
    feedField e.2.content

def sortedEntries (r : ApplyBundleRequest) : List (UInt8 × BundleFile) :=
  (bundleEntries r).mergeSort entryBefore

/-- What is hashed for a request. -/
def bundleImage (r : ApplyBundleRequest) : Bytes :=
  utf8 "sing-box-application-bundle-v1" ++ [0] ++ feedField (utf8 (r.bundleId.getD "")) ++
    [boolByte r.pruneExisting] ++ (sortedEntries r).flatMap entryBytes

section Image

variable {r r' : ApplyBundleRequest} {d d' : String}

theorem sorted_sortedEntries (r : ApplyBundleRequest) :
    (sortedEntries r).Pairwise fun a b => entryBefore a b = true :=
  List.pairwise_mergeSort (fun a b c => entryBefore_trans (a := a) (b := b) (c := c)) entryBefore_total _

theorem mem_sortedEntries {e : UInt8 × BundleFile} : e ∈ sortedEntries r ↔ e.2 ∈ scopeFiles r e.1 :=
  (List.mergeSort_perm ..).mem_iff.trans mem_bundleEntries

/-- What an accepted request is, and its digest. -/
theorem canonicalApplyBundleDigest_eq_ok : canonicalApplyBundleDigest r = .ok d ↔
    (∃ id, r.bundleId = some id ∧ id ≠ "" ∧ (utf8 id).length ≤ 160 ∧ id.toList.all bundleIdChar = true) ∧
      duplicateEntry (sortedEntries r) = none ∧ d = hex (sha256 (bundleImage r)) := by
  unfold canonicalApplyBundleDigest
  simp only [ok_iff, not_or, not_not, not_lt, gt_iff_lt]
  constructor
  · rintro ⟨id, hid, ⟨hne, hlength, hchars⟩, hrest⟩
    split at hrest
    · cases hrest
    · rename_i hdup
      refine ⟨⟨id, hid, hne, hlength, hchars⟩, hdup, ?_⟩
      rw [bundleImage, hid]
      exact (Except.ok.inj hrest).symm
  · rintro ⟨⟨id, hid, hne, hlength, hchars⟩, hdup, rfl⟩
    refine ⟨id, hid, ⟨hne, hlength, hchars⟩, ?_⟩
    rw [← sortedEntries, hdup, bundleImage, hid]
    rfl

theorem nodup_of_accepted (h : canonicalApplyBundleDigest r = .ok d) :
    ((bundleEntries r).map entryKey).Nodup := by
  have hsorted := nodup_of_duplicateEntry (sorted_sortedEntries r)
      (canonicalApplyBundleDigest_eq_ok.mp h).2.1
  exact ((List.mergeSort_perm ..).map entryKey).nodup_iff.mp hsorted

theorem framed_feedField : Framed (fun b : Bytes => b.length < 2 ^ 64) feedField := by
  have hlength : ∀ b : Bytes, b.length < 2 ^ 64 → feedField b = bigEndian 8 b.length ++ b := by
    intro b hb
    have hnat : (UInt64.ofNat b.length).toNat = b.length := UInt64.toNat_ofNat_of_lt' hb
    show bigEndian 8 (UInt64.ofNat b.length).toNat ++ b = _
    rw [hnat]
  intro a b ha hb s t h
  rw [hlength a ha, hlength b hb] at h
  have hsize : Framed (· < 2 ^ 64) (bigEndian 8) := framed_bigEndian 8
  exact framed_of_length hsize ha hb h

theorem boolByte_inj {x y : Bool} (h : boolByte x = boolByte y) : x = y := by
  revert x y
  decide

/-- The fields of an entry are told apart. -/
theorem framed_entryBytes : Framed (fun e : UInt8 × BundleFile =>
    (utf8 e.2.relativePath).length < 2 ^ 64 ∧ e.2.content.length < 2 ^ 64) entryBytes := by
  rintro ⟨scope, path, content, executable, sensitive⟩ ⟨scope', path', content', executable', sensitive'⟩
    ⟨hp, hc⟩ ⟨hp', hc'⟩ s t h
  simp only [entryBytes, List.append_assoc, List.cons_append, List.nil_append, List.cons.injEq] at h
  obtain ⟨rfl, hfields⟩ := h
  obtain ⟨hpath, hflags⟩ := framed_feedField hp hp' hfields
  simp only [List.cons.injEq] at hflags
  obtain ⟨hexecutable, hsensitive, hlast⟩ := hflags
  obtain ⟨hcontent, hrest⟩ := framed_feedField hc hc' hlast
  obtain rfl : path = path' := utf8_injective hpath
  obtain rfl : content = content' := hcontent
  exact ⟨by rw [boolByte_inj hexecutable, boolByte_inj hsensitive], hrest⟩

theorem entryBytes_ne_nil (e : UInt8 × BundleFile) : entryBytes e ≠ [] := by simp [entryBytes]

/-- Requests with one image have one id, one flag and the same sorted entries. -/
theorem eq_of_bundleImage (hfits : Fits r) (hfits' : Fits r') (h : canonicalApplyBundleDigest r = .ok d)
    (h' : canonicalApplyBundleDigest r' = .ok d') (himage : bundleImage r = bundleImage r') :
    r.bundleId = r'.bundleId ∧ r.pruneExisting = r'.pruneExisting ∧ sortedEntries r = sortedEntries r' := by
  obtain ⟨⟨id, hid, -, hlength, -⟩, -, -⟩ := canonicalApplyBundleDigest_eq_ok.mp h
  obtain ⟨⟨id', hid', -, hlength', -⟩, -, -⟩ := canonicalApplyBundleDigest_eq_ok.mp h'
  simp only [bundleImage, hid, hid', Option.getD_some, List.append_assoc] at himage
  have hrest := List.append_cancel_left (List.append_cancel_left himage)
  obtain ⟨hbundle, hrest⟩ :=
    framed_feedField (lt_of_le_of_lt hlength (by decide)) (lt_of_le_of_lt hlength' (by decide)) hrest
  simp only [List.cons_append, List.nil_append, List.cons.injEq] at hrest
  obtain ⟨hprune, hentries⟩ := hrest
  refine ⟨by rw [hid, hid', utf8_injective hbundle], boolByte_inj hprune, ?_⟩
  refine framed_entryBytes.flatMap_inj entryBytes_ne_nil (fun e he => ?_) (fun e he => ?_) hentries
  · exact hfits _ _ (mem_sortedEntries.mp he)
  · exact hfits' _ _ (mem_sortedEntries.mp he)

/-- Accepted requests with the same maps have the same sorted entries, and the other way round. -/
theorem sortedEntries_eq_iff (h : canonicalApplyBundleDigest r = .ok d)
    (h' : canonicalApplyBundleDigest r' = .ok d') :
    sortedEntries r = sortedEntries r' ↔
      ∀ scope path, fileAt (scopeFiles r scope) path = fileAt (scopeFiles r' scope) path := by
  have hnodup := nodup_of_accepted h
  have hnodup' := nodup_of_accepted h'
  have hmaps : (∀ scope path, fileAt (scopeFiles r scope) path = fileAt (scopeFiles r' scope) path) ↔
      ∀ e, e ∈ sortedEntries r ↔ e ∈ sortedEntries r' := by
    simp only [mem_sortedEntries, Prod.forall]
    exact forall_congr' fun scope =>
      (mem_iff_fileAt (nodup_paths hnodup scope) (nodup_paths hnodup' scope)).symm
  rw [hmaps]
  constructor
  · intro heq e
    rw [heq]
  · refine sorted_ext (sorted_sortedEntries r) (sorted_sortedEntries r') ?_ ?_
    · exact ((List.mergeSort_perm ..).map entryKey).nodup_iff.mpr hnodup
    · exact ((List.mergeSort_perm ..).map entryKey).nodup_iff.mpr hnodup'

/-- A request in another order is accepted with the same digest. -/
theorem digest_of_reordered (hsame : Reordered r r') (h : canonicalApplyBundleDigest r = .ok d) :
    canonicalApplyBundleDigest r' = .ok d := by
  obtain ⟨hid, hdup, rfl⟩ := canonicalApplyBundleDigest_eq_ok.mp h
  have hperm : (bundleEntries r).Perm (bundleEntries r') := by
    have hscopes : ∀ r, bundleEntries r = (scopeFiles r 1).map (1, ·) ++ (scopeFiles r 2).map (2, ·) ++
        (scopeFiles r 3).map (3, ·) ++ (scopeFiles r 4).map (4, ·) := fun _ => rfl
    rw [hscopes r, hscopes r']
    exact ((((hsame.files 1).map _).append ((hsame.files 2).map _)).append ((hsame.files 3).map _)).append
      ((hsame.files 4).map _)
  have hnodup := nodup_of_accepted h
  have hsorted : sortedEntries r' = sortedEntries r := by
    refine sorted_ext (sorted_sortedEntries r') (sorted_sortedEntries r) ?_ ?_ fun e => ?_
    · exact (((List.mergeSort_perm ..).trans hperm.symm).map entryKey).nodup_iff.mpr hnodup
    · exact ((List.mergeSort_perm ..).map entryKey).nodup_iff.mpr hnodup
    · rw [mem_sortedEntries, mem_sortedEntries, (hsame.files e.1).mem_iff]
  refine canonicalApplyBundleDigest_eq_ok.mpr ⟨hsame.bundleId ▸ hid, hsorted ▸ hdup, ?_⟩
  rw [bundleImage, bundleImage, hsorted, hsame.bundleId, hsame.prune]

end Image

/-- **The digest of a bundle is canonical.** The files of a scope may stand in any order; up to a collision
    of the hash, equal digests are those of requests with the same id, flag and maps; a path that a scope has
    twice is refused. -/
theorem bundle_digest_canonical :
    (∀ r r' d, Reordered r r' → canonicalApplyBundleDigest r = .ok d →
      canonicalApplyBundleDigest r' = .ok d) ∧
    (∀ r r' d d', Fits r → Fits r' → canonicalApplyBundleDigest r = .ok d →
      canonicalApplyBundleDigest r' = .ok d' → Set.InjOn sha256 {bundleImage r, bundleImage r'} →
      (d = d' ↔ SameBundle r r')) ∧
    ∀ r scope, ¬ ((scopeFiles r scope).map (·.relativePath)).Nodup →
    ∃ e, canonicalApplyBundleDigest r = .error e := by
  refine ⟨fun r r' d => digest_of_reordered, ?_, ?_⟩
  · intro r r' d d' hfits hfits' h h' hinj
    have hd := (canonicalApplyBundleDigest_eq_ok.mp h).2.2
    have hd' := (canonicalApplyBundleDigest_eq_ok.mp h').2.2
    constructor
    · intro heq
      rw [hd, hd'] at heq
      have himage := hinj (.inl rfl) (.inr rfl) (hex_injective heq)
      obtain ⟨hid, hprune, hentries⟩ := eq_of_bundleImage hfits hfits' h h' himage
      exact ⟨hid, hprune, (sortedEntries_eq_iff h h').mp hentries⟩
    · intro hsame
      rw [hd, hd', bundleImage, bundleImage, hsame.bundleId, hsame.prune,
        (sortedEntries_eq_iff h h').mpr hsame.files]
  · intro r scope hrepeated
    cases h : canonicalApplyBundleDigest r with
    | error e => exact ⟨e, rfl⟩
    | ok d => exact absurd (nodup_paths (nodup_of_accepted h) scope) hrepeated

namespace DigestSample

def file (path : String) (content : Bytes) : BundleFile := ⟨path, content, false, false⟩

/-- The files of a stack under one bundle id. -/
def request (files : List BundleFile) : ApplyBundleRequest :=
  ⟨files, [], none, none, true, some "edge", none⟩

def bundle (byte : UInt8) : ApplyBundleRequest :=
  request [file "compose.yaml" [byte], file "config.json" [2]]

theorem fits_bundle (byte : UInt8) : Fits (bundle byte) := by
  intro scope f hf
  by_cases hscope : scope = 1
  · subst hscope
    rcases hf with _ | ⟨_, _ | ⟨_, ⟨⟩⟩⟩
    · exact ⟨(by decide : (utf8 "compose.yaml").length < 2 ^ 64), (by decide : 1 < 2 ^ 64)⟩
    · decide
  · have hnil : scopeFiles (bundle byte) scope = [] := by simp [scopeFiles, hscope, bundle, request]
    rw [hnil] at hf
    cases hf

/-- The files stand in the order of the digest. -/
theorem sortedEntries_bundle (byte : UInt8) : sortedEntries (bundle byte) = bundleEntries (bundle byte) := by
  refine List.mergeSort_of_pairwise (.cons ?_ (List.pairwise_singleton ..))
  intro e he
  cases List.mem_singleton.mp he
  have hpaths : "compose.yaml" ≤ "config.json" := by decide
  simp [entryBefore, file, hpaths]

theorem digest_bundle (byte : UInt8) :
    canonicalApplyBundleDigest (bundle byte) = .ok (hex (sha256 (bundleImage (bundle byte)))) := by
  refine canonicalApplyBundleDigest_eq_ok.mpr ⟨⟨"edge", rfl, by decide⟩, ?_, rfl⟩
  rw [sortedEntries_bundle]
  rfl

end DigestSample

open DigestSample in
/-- Two bundles that differ in one byte of one file, and the first of them with its files turned round. -/
theorem sample_bundle_digests :
    ∃ d d', canonicalApplyBundleDigest (bundle 1) = .ok d ∧ canonicalApplyBundleDigest (bundle 3) = .ok d' ∧
      canonicalApplyBundleDigest (request [file "config.json" [2], file "compose.yaml" [1]]) =
      .ok d ∧ d ≠ d' := by
  obtain ⟨hreordered, hdigests, -⟩ := bundle_digest_canonical
  refine ⟨_, _, digest_bundle 1, digest_bundle 3,
    hreordered (bundle 1) _ _ ⟨rfl, rfl, ?_⟩ (digest_bundle 1), ?_⟩
  · intro scope
    by_cases hscope : scope = 1
    · subst hscope
      exact .swap _ _ _
    · simp [scopeFiles, hscope, bundle, request]
  · have hinj : Set.InjOn sha256 {bundleImage (bundle 1), bundleImage (bundle 3)} := by
      refine Set.injOn_pair.mpr fun hsame => absurd hsame ?_
      simp only [bundleImage, sortedEntries_bundle]
      decide +kernel
    rw [Ne, hdigests _ _ _ _ (fits_bundle 1) (fits_bundle 3) (digest_bundle 1) (digest_bundle 3) hinj]
    exact fun hsame => absurd (hsame.files 1 "compose.yaml") (by decide)

end EdgePlatform.Agent
