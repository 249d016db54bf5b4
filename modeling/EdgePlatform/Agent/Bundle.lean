import EdgePlatform.Agent.RuntimeEnvironment
import EdgePlatform.Foundation.Message
import EdgePlatform.Foundation.FileTree
import EdgePlatform.Host.Admin

/-!
# `EdgePlatform.Agent.Bundle` — application bundles and the marker of an installed release

What the agent decides about a bundle without touching the disk: the canonical digest, which requests are
accepted, which paths a bundle file may have, and the release marker (`.application-release.pb`), which is
accepted only in its canonical encoding.
-/

namespace EdgePlatform.Agent

open Foundation Foundation.Wire
open Host (BundleFile ApplyBundleRequest)

/-! ## Names -/

def applicationReleaseMarker : String := ".application-release.pb"
def runtimePolicyFile : String := ".env.runtime.policy"
def runtimeEnvFile : String := ".env.runtime"
def imageEnvFile : String := ".images.env"

/-- Lower-case hexadecimal. -/
def validateLowerHex (label value : String) (expectedLen : Nat) : Except String Unit :=
  validateHex label value expectedLen

/-! ## The digest of a bundle -/

/-- The files of a request, each with the number of its scope. -/
def bundleEntries (request : ApplyBundleRequest) : List (UInt8 × BundleFile) :=
  request.stackFiles.map (1, ·) ++ request.hostFiles.map (2, ·) ++
    request.deploymentSummary.toList.map (3, ·) ++ request.agentEnvFile.toList.map (4, ·)

/-- By scope, then by path. -/
def entryBefore (a b : UInt8 × BundleFile) : Bool :=
  a.1 < b.1 || (a.1 == b.1 && decide (a.2.relativePath ≤ b.2.relativePath))

/-- Two neighbours of the sorted entries with one path in one scope. -/
def duplicateEntry : List (UInt8 × BundleFile) → Option (UInt8 × BundleFile)
  | a :: b :: rest =>
    if a.1 = b.1 ∧ a.2.relativePath = b.2.relativePath then some a else duplicateEntry (b :: rest)
  | _ => none

/-- A field of the digest, behind its length. -/
def feedField (b : Bytes) : Bytes := Host.be64 (UInt64.ofNat b.length) ++ b

def boolByte (b : Bool) : UInt8 := if b then 1 else 0

def bundleIdChar (c : Char) : Bool := c.isAlphanum || ['-', '_', '.', ':'].contains c

/-- The digest of a bundle, over its files in the order of their paths. -/
def canonicalApplyBundleDigest (request : ApplyBundleRequest) : Except String String := do
  let bundleId ← okOr request.bundleId "digest-bound bundle requires bundle_id"
  rejectIf (bundleId = "" ∨ (utf8 bundleId).length > 160 ∨ ¬ bundleId.toList.all bundleIdChar)
    "bundle_id contains unsupported characters"
  let entries := (bundleEntries request).mergeSort entryBefore
  match duplicateEntry entries with
  | some entry => .error s!"duplicate bundle path in scope {entry.1}: {entry.2.relativePath}"
  | none =>
    pure (hex (sha256 (utf8 "sing-box-application-bundle-v1" ++ [0] ++ feedField (utf8 bundleId) ++
      [boolByte request.pruneExisting] ++ entries.flatMap fun entry =>
        [entry.1] ++ feedField (utf8 entry.2.relativePath) ++
          [boolByte entry.2.executable, boolByte entry.2.sensitive] ++ feedField entry.2.content)))

/-- A request for stack files only, with its own digest. -/
def validateDigestBoundBundleRequest (request : ApplyBundleRequest) : Except String (String × String) := do
  rejectIf (request.pruneExisting = false) "digest-bound application bundles require prune_existing=true"
  rejectIf (request.hostFiles ≠ [] ∨ request.deploymentSummary.isSome ∨ request.agentEnvFile.isSome)
    "digest-bound application bundles may contain only stack_files; host mutation remains a separate typed operation"
  let bundleId ← okOr request.bundleId "bundle_id is required"
  let expectedDigest ← okOr request.bundleDigest "bundle_digest is required"
  validateLowerHex "bundle_digest" expectedDigest 64
  let computedDigest ← canonicalApplyBundleDigest request
  rejectIf (computedDigest ≠ expectedDigest)
    s!"bundle digest mismatch: expected {expectedDigest}, computed {computedDigest}"
  pure (bundleId, expectedDigest)

/-! ## Paths -/

/-- `Path::components` of a relative path: empty components are skipped, and `.` unless it comes first. -/
def components (value : String) : TreePath :=
  match (Host.HostAdmin.splitAt '/' value.toList).map String.ofList with
  | [] => []
  | first :: rest => (if first = "" then [] else [first]) ++ rest.filter fun part => part ≠ "" ∧ part ≠ "."

/-- The path ends in `/` or `/.`: the system takes it for a directory, and no file can be opened there. -/
def namesDirectory (value : String) : Bool :=
  (Host.HostAdmin.splitAt '/' value.toList).getLast?.any fun part => part = [] ∨ part = ['.']

/-- A relative path that stays below the root. -/
def validateBundleRelativePath (value : String) : Except String Unit :=
  rejectIf (value = "" ∨ '\\' ∈ value.toList ∨ startsWith value "/" ∨
      (components value).any fun part => part = "." ∨ part = "..")
    s!"bundle path must be a normalized relative path without traversal: {value}"

/-- A path that is sensitive by its name. -/
def intrinsicallySensitiveBundlePath (value : String) : Bool :=
  value == ".env.runtime" || value == "deployment-summary.json" || endsWith value ".key" ||
    startsWith value "tunnel-state/acme/"

/-! ## The release marker -/

/-- The release marker of a tree. -/
structure ApplicationBundleRelease where
  schemaVersion : UInt32
  bundleId : String
  bundleDigest : String
deriving DecidableEq

namespace ApplicationBundleRelease

open Codec FieldCodec

theorem three_pos : 0 < 3 := by decide

def codec : Codec ApplicationBundleRelease :=
  (cons (u32 1 Nat.one_pos) (cons (string 2 Nat.two_pos) (cons (string 3 three_pos) nil (by decide))
    (by decide)) (by decide)).shape
    (fun v => (v.schemaVersion, v.bundleId, v.bundleDigest, ()))
    (fun v => some ⟨v.1, v.2.1, v.2.2.1⟩) fun _ => rfl

def encodeToVec (release : ApplicationBundleRelease) : Bytes := codec.encode release

def decode (bytes : Bytes) : Option ApplicationBundleRelease := codec.decode bytes

/-- What both the reader and the writer of the marker require. -/
def Valid (release : ApplicationBundleRelease) : Prop :=
  release.schemaVersion = 1 ∧ trim release.bundleId ≠ "" ∧
    isErr (validateLowerHex "bundle_digest" release.bundleDigest 64) = false

instance (release : ApplicationBundleRelease) : Decidable release.Valid :=
  inferInstanceAs (Decidable (_ ∧ _ ∧ _))

end ApplicationBundleRelease

/-- The release a marker with these bytes records. -/
def releaseOfMarker (bytes : Bytes) : Option ApplicationBundleRelease :=
  match ApplicationBundleRelease.decode bytes with
  | none => none
  | some release => if release.encodeToVec ≠ bytes ∨ ¬ release.Valid then none else some release

theorem releaseOfMarker_eq_some {bytes : Bytes} {release : ApplicationBundleRelease} :
    releaseOfMarker bytes = some release ↔ bytes = release.encodeToVec ∧ release.Valid := by
  have hdecode : ApplicationBundleRelease.decode release.encodeToVec = some release :=
    ApplicationBundleRelease.codec.decode_encode release
  unfold releaseOfMarker
  constructor
  · intro h
    cases hd : ApplicationBundleRelease.decode bytes with
    | none => simp [hd] at h
    | some r =>
      simp only [hd] at h
      split at h
      · cases h
      · rename_i hcheck
        simp only [not_or, not_not, ne_eq] at hcheck
        cases h
        exact ⟨hcheck.1.symm, hcheck.2⟩
  · rintro ⟨rfl, hvalid⟩
    rw [hdecode]
    exact if_neg (by simp [hvalid])

/-- The release an accepted request installs. -/
def requestedRelease (bundleId bundleDigest : String) : ApplicationBundleRelease where
  schemaVersion := 1
  bundleId := bundleId
  bundleDigest := bundleDigest

theorem isErr_eq_false {α : Type} {x : Except String α} : isErr x = false ↔ ∃ a, x = .ok a := by
  cases x <;> simp [isErr]

/-- A character that a bundle id may have is no blank. -/
theorem not_isWhitespace_of_bundleIdChar {c : Char} (h : bundleIdChar c = true) :
    isWhitespace c = false := by
  simp only [bundleIdChar, Bool.or_eq_true, List.contains_iff_mem, List.mem_cons, List.not_mem_nil,
    or_false] at h
  rcases h with h | rfl | rfl | rfl | rfl
  · exact not_isWhitespace_of_isAlphanum h
  all_goals decide

/-- The marker of an accepted request is one that is read back. -/
theorem requestedRelease_valid {request : ApplyBundleRequest} {bundleId digest : String}
    (h : validateDigestBoundBundleRequest request = .ok (bundleId, digest)) :
    (requestedRelease bundleId digest).Valid := by
  simp only [validateDigestBoundBundleRequest, canonicalApplyBundleDigest, ok_iff, pure_eq_ok,
    Prod.mk.injEq] at h
  obtain ⟨-, -, id, hid, expected, -, hhex, computed, ⟨id', hid', hchars, -⟩, -, rfl, rfl⟩ := h
  cases hid.symm.trans hid'
  simp only [not_or, not_not] at hchars
  have hvisible : Visible id := by
    intro c hc
    exact not_isWhitespace_of_bundleIdChar (List.all_eq_true.mp hchars.2.2 c hc)
  refine ⟨rfl, ?_, isErr_eq_false.mpr ⟨(), hhex⟩⟩
  show trim id ≠ ""
  rw [trim_of_visible hvisible]
  exact hchars.1

end EdgePlatform.Agent
