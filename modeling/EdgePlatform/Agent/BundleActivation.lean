import EdgePlatform.Agent.Stack

/-!
# `EdgePlatform.Agent.BundleActivation` — installing and rolling back an application bundle

`apply_digest_bound_bundle` writes the new tree beside the active one, moves the active one to
`stack.previous` and the new one into its place; `rollback_bundle` exchanges the active and the previous tree
through `stack.rollback`.

What each step may do is said once, by `Permitted`: everything but the last two renames stays inside the
staging tree, and those happen only when the staging tree is the whole bundle (`bundleTree`). That the active
path never holds part of a tree follows from `Permitted` alone.
-/

namespace EdgePlatform.Agent

open Foundation Foundation.Proc
open Host (BundleFile ApplyBundleRequest)

/-! ## Requests for the first bundle of a host -/

def initialPolicyRequired : List String := ["docker-compose.yml", runtimePolicyFile, imageEnvFile]

def validateInitialFile (seen : List String) (file : BundleFile) : Except String Unit := do
  validateBundleRelativePath file.relativePath
  rejectIf (file.relativePath ∈ seen) "initial bundle contains duplicate file paths"
  rejectIf (file.relativePath = runtimeEnvFile ∨ contains file.relativePath "runtime-secrets" ∨
      contains file.relativePath ".env.runtime.new" ∨ file.sensitive)
    "initial policy bundle must not contain credentials"
  if file.relativePath = runtimePolicyFile then do
    let policy ← okOr (ofUtf8 file.content) "initial runtime policy must be UTF-8"
    validateRuntimePolicyEnv policy
  else pure ()

def validateInitialFiles (seen : List String) : List BundleFile → Except String Unit
  | [] => pure ()
  | file :: files => do
      validateInitialFile seen file
      validateInitialFiles (file.relativePath :: seen) files

/-- A first bundle has every policy file. -/
def validateInitialPolicyBundleRequest (request : ApplyBundleRequest) : Except String Unit := do
  validateInitialFiles [] request.stackFiles
  rejectIf (¬ initialPolicyRequired ⊆ request.stackFiles.map (·.relativePath))
    "initial policy bundle requires exact Compose, image and runtime policy inputs"

def imageKeys : List (String × String) :=
  [("EDGE_GATEWAY_IMAGE", "ghcr.io/iamaman11/vultr-edge-gateway"),
    ("EDGE_WARP_EGRESS_IMAGE", "ghcr.io/iamaman11/vultr-warp-egress"),
    ("CLOUDFLARE_MESH_IMAGE", "docker.io/cloudflare/mesh")]

/-- Exactly the three images, each by its digest. -/
def exactImageEnvironment (raw : String) : Except String (List (String × String)) := do
  let values ← readStrictEnvFile imageEnvFile raw
  rejectIf (¬ sameKeys (values.map Prod.fst) (imageKeys.map Prod.fst))
    ".images.env must contain exactly EDGE_GATEWAY_IMAGE, EDGE_WARP_EGRESS_IMAGE, and CLOUDFLARE_MESH_IMAGE"
  imageKeys.forM fun key => do
    let value ← okOr (values.lookup key.1) "missing image"
    validateExactImageRef key.1 value key.2
  pure values

/-! ## Installing -/

/-- The look at the credential host of a first installation, which the credential store answers. -/
inductive ActivationCheck
  | vmInitialCredentialHostEmpty
deriving DecidableEq

abbrev ActivationProc (α : Type) := StackProc ActivationCheck α

/-- How the stack directory and its parent are written in answers. -/
structure StackDir where
  parent : String
  display : String

structure ApplyBundleResponse where
  success : Bool
  writtenPaths : List String
  stackDir : Option String
  warnings : List String
  activeBundleId : Option String
  activeBundleDigest : Option String
  previousBundleId : Option String
  previousBundleDigest : Option String
deriving DecidableEq

/-- The answer to an installation. -/
def bundleApplyResponse (dir : StackDir) (writtenPaths : List String) (active : ApplicationBundleRelease)
    (previous : Option ApplicationBundleRelease) : ApplyBundleResponse where
  success := true
  writtenPaths := writtenPaths
  stackDir := some dir.display
  warnings := []
  activeBundleId := some active.bundleId
  activeBundleDigest := some active.bundleDigest
  previousBundleId := previous.map (·.bundleId)
  previousBundleDigest := previous.map (·.bundleDigest)

/-- A first bundle meets an empty host. -/
def requireEmptyVmInitialBundleHost : ActivationProc Unit := do
  let staging ← Stack.exists? .staging []
  rejectIf staging "initial bundle refuses ambiguous existing stack state stack.next"
  let previous ← Stack.exists? .previous []
  rejectIf previous "initial bundle refuses ambiguous existing stack state stack.previous"
  let rollback ← Stack.exists? .rollback []
  rejectIf rollback "initial bundle refuses ambiguous existing stack state stack.rollback"
  let active ← Stack.exists? .active []
  if active then
    .call (.isEmpty .active) fun (entries : Option Bool) =>
      match entries with
      | none => .fail "initial bundle cannot inspect target stack"
      | some false => .fail "initial bundle refuses existing application stack content"
      | some true => .ret ()
  else pure ()

/-- What is asked of the request and the host of a first bundle. -/
def requireInitial (request : ApplyBundleRequest) : ActivationProc Unit := do
  validateInitialPolicyBundleRequest request
  Stack.check .vmInitialCredentialHostEmpty
  requireEmptyVmInitialBundleHost

/-- A file of the bundle in a tree, with its mode. -/
def writeBundleFile (s : Slot) (file : BundleFile) : ActivationProc Unit := do
  validateBundleRelativePath file.relativePath
  let sensitive := file.sensitive || intrinsicallySensitiveBundlePath file.relativePath
  rejectIf (file.executable ∧ sensitive)
      s!"bundle file {file.relativePath} cannot be both executable and sensitive"
  Stack.change s (.createDirAll (components file.relativePath).dropLast)
    s!"failed to create the parent of {file.relativePath}"
  rejectIf (namesDirectory file.relativePath) s!"failed to write {file.relativePath}"
  Stack.change s (.write (components file.relativePath) file.content) s!"failed to write {file.relativePath}"
  setBundleFilePermissions s (components file.relativePath) file.executable sensitive

def writeStackFiles (s : Slot) : List BundleFile → ActivationProc Unit
  | [] => pure ()
  | file :: files => do
      writeBundleFile s file
      writeStackFiles s files

def runtimeEnvTemporary : String := ".env.runtime.new"

/-- The policy and the secrets, as one file. -/
def writeVmRuntimeEnvironment (s : Slot) (secrets : ApplicationRuntimeSecrets) : ActivationProc Unit := do
  let bytes ← Stack.read s [runtimePolicyFile]
  let policy ← okOr (bytes.bind ofUtf8) "failed to read runtime policy"
  let runtime ← vmRuntimeEnvironment policy secrets
  Stack.change s (.write [runtimeEnvTemporary] (utf8 runtime)) "failed to stage VM runtime environment"
  setBundleFilePermissions s [runtimeEnvTemporary] false true
  .call (.change s (.renameFile [runtimeEnvTemporary] [runtimeEnvFile])) fun (ok : Bool) =>
    if ok then .ret ()
    else .call (.change s (.removeFile [runtimeEnvTemporary])) fun _ =>
      .fail "failed to atomically publish VM runtime environment"

/-- A tree with a policy gets its environment. -/
def materializeVmOwnedRuntimeEnvironment (s : Slot) : ActivationProc Unit := do
  let policy ← Stack.isFile s [runtimePolicyFile]
  if policy then do
    let bundle ← Stack.secrets
    let secrets ← okOr bundle
      "VM runtime activation requires an active Cloudflare Worker v2 credential; independent local credential generation is forbidden"
    writeVmRuntimeEnvironment s secrets
  else pure ()

/-- Images are pinned and no runtime environment came with the bundle. -/
def requireInitialStage : ActivationProc Unit := do
  let bytes ← Stack.read .staging [imageEnvFile]
  let raw ← okOr (bytes.bind ofUtf8) "failed to read required environment .images.env"
  let _ ← exactImageEnvironment raw
  let runtime ← Stack.exists? .staging [runtimeEnvFile]
  rejectIf runtime "initial bundle must not materialize runtime credentials"

/-- Remove a tree if it is there. -/
def clear (s : Slot) (e : String) : ActivationProc Unit := do
  let present ← Stack.exists? s []
  if present then Stack.change s .removeTree e else pure ()

/-- The new tree, written beside the active one. -/
def stageBundle (request : ApplyBundleRequest) (initialPolicyOnly : Bool)
    (release : ApplicationBundleRelease) :
    ActivationProc Unit := do
  clear .staging "failed to clear stale staging stack"
  Stack.change .staging (.createDirAll []) "failed to create staging stack"
  writeStackFiles .staging request.stackFiles
  (if initialPolicyOnly then requireInitialStage else materializeVmOwnedRuntimeEnvironment .staging)
  writeApplicationRelease .staging release

/-- The active tree moves out of the way. -/
def retireActive (initialPolicyOnly : Bool) : ActivationProc Unit := do
  let present ← Stack.exists? .active []
  if present && initialPolicyOnly then
    Stack.change .active .removeDir "initial bundle target directory is no longer empty"
  else do
    let present ← Stack.exists? .active []
    if present then do
      clear .previous "failed to remove previous application stack"
      Stack.renameOr .active .previous "failed to rotate active stack"
    else pure ()

/-- The staged tree becomes the active one; if that fails the previous one is put back. -/
def activateStaged : ActivationProc Unit := do
  let ok ← Stack.rename .staging .active
  if ok then pure ()
  else do
    let previous ← Stack.exists? .previous []
    let active ← Stack.exists? .active []
    if previous && !active then
      let _ ← Stack.rename .previous .active
      .fail "failed to atomically activate staged stack"
    else .fail "failed to atomically activate staged stack"

/-- The tree is installed already. -/
def sameRelease (current : Option ApplicationBundleRelease) (bundleId bundleDigest : String) : Bool :=
  current.any fun release => release.bundleId == bundleId && release.bundleDigest == bundleDigest

/-- Stage the bundle, retire the active tree, activate the staged one. -/
def applyDigestBoundBundle (dir : StackDir) (request : ApplyBundleRequest) (initialPolicyOnly : Bool) :
    ActivationProc ApplyBundleResponse := do
  let (bundleId, expectedDigest) ← validateDigestBoundBundleRequest request
  let release := requestedRelease bundleId expectedDigest
  (if initialPolicyOnly then requireInitial request else pure ())
  let current ← readApplicationRelease .active
  if sameRelease current bundleId expectedDigest then do
    let previous ← readApplicationRelease .previous
    pure (bundleApplyResponse dir [] (current.getD release) previous)
  else do
    stageBundle request initialPolicyOnly release
    let oldRelease ← readApplicationRelease .active
    retireActive initialPolicyOnly
    activateStaged
    pure (bundleApplyResponse dir
      (request.stackFiles.map fun file => dir.parent ++ "/stack.next/" ++ file.relativePath)
        release oldRelease)

/-! ## Rolling back -/

structure RollbackBundleRequest where
  expectedCurrentBundleDigest : String
deriving DecidableEq

structure RollbackBundleResponse where
  success : Bool
  activeBundleId : Option String
  activeBundleDigest : Option String
  previousBundleId : Option String
  previousBundleDigest : Option String
  warnings : List String
deriving DecidableEq

def rollbackResponse (current previous : ApplicationBundleRelease) : RollbackBundleResponse where
  success := true
  activeBundleId := some previous.bundleId
  activeBundleDigest := some previous.bundleDigest
  previousBundleId := some current.bundleId
  previousBundleDigest := some current.bundleDigest
  warnings := []

/-- The two trees change places through the scratch path; each rename that fails is followed by the renames
back. -/
def exchange : ActivationProc Unit := do
  Stack.renameOr .active .rollback "failed to stage current stack for rollback"
  let activated ← Stack.rename .previous .active
  if activated then do
    let retired ← Stack.rename .rollback .previous
    if retired then pure ()
    else do
      let _ ← Stack.rename .active .previous
      let _ ← Stack.rename .rollback .active
      .fail "failed to complete rollback stack swap; attempted restoration"
  else do
    let _ ← Stack.rename .rollback .active
    .fail "failed to activate previous stack"

/-- Exchange the active and the previous tree. -/
def rollbackBundle (request : RollbackBundleRequest) : ActivationProc RollbackBundleResponse := do
  validateLowerHex "expected_current_bundle_digest" request.expectedCurrentBundleDigest 64
  let currentRelease ← readApplicationRelease .active
  let current ← okOr currentRelease "active application release marker is missing"
  rejectIf (current.bundleDigest ≠ request.expectedCurrentBundleDigest)
    "current bundle digest changed since rollback authorization; refusing stale rollback"
  let previousRelease ← readApplicationRelease .previous
  let previous ← okOr previousRelease "previous application release is unavailable"
  let scratch ← Stack.exists? .rollback []
  rejectIf scratch "rollback scratch path already exists; refusing to guess recovery state"
  exchange
  pure (rollbackResponse current previous)

/-! ## The whole tree of a bundle -/

def placeFile (t : FileTree) (file : BundleFile) : Option FileTree := do
  let t ← t.createDirAll (components file.relativePath).dropLast
  if namesDirectory file.relativePath then none else t.write (components file.relativePath) file.content

/-- With a runtime policy, the environment made from it and the secrets. -/
def placeRuntime (vault : Except String (Option ApplicationRuntimeSecrets))
    (t : FileTree) : Option FileTree :=
  match t.file [runtimePolicyFile] with
  | none => some t
  | some bytes => do
      let secrets ← vault.toOption.join
      let policy ← ofUtf8 bytes
      let runtime ← (vmRuntimeEnvironment policy secrets).toOption
      let t ← t.write [runtimeEnvTemporary] (utf8 runtime)
      t.renameFile [runtimeEnvTemporary] [runtimeEnvFile]

/-- Every file of the bundle in its place, the runtime environment, and the marker. -/
def bundleTree (request : ApplyBundleRequest) (initialPolicyOnly : Bool) (release : ApplicationBundleRelease)
    (vault : Except String (Option ApplicationRuntimeSecrets)) : Option FileTree := do
  let t ← request.stackFiles.foldlM placeFile []
  let t ← (if initialPolicyOnly then some t else placeRuntime vault t)
  t.write [applicationReleaseMarker] release.encodeToVec

/-- A tree with a marker that can be read: the marker is the last file written. -/
def Complete (t : FileTree) : Prop := (releaseOf t).isSome = true

/-! ## What a step may do -/

section Atomicity

variable {old : FileTree} {new : Option FileTree} {w w' : StackHost}

/-- What an installation over `old` may do where: it changes the staging tree as it likes, it removes the
    previous tree and moves the active one only while the active one is `old`, and what it activates is
    `new`. -/
def Permitted (old : FileTree) (new : Option FileTree) : (stackSig ActivationCheck).Op → StackHost → Prop
  | .change .staging _, _ => True
  | .change .previous _, w => w.slot .active = some old
  | .change _ _, _ => False
  | .rename .active .previous, w => w.slot .active = some old
  | .rename .staging .active, w => w.slot .staging = new
  | .rename .previous .active, w => w.slot .active = none
  | .rename _ _, _ => False
  | _, _ => True

/-- The active path holds the old tree or the new one, or is free while the old tree is kept beside it. -/
def Whole (old : FileTree) (new : Option FileTree) (w : StackHost) : Prop :=
  w.slot .active = some old ∨ (new.isSome = true ∧ w.slot .active = new) ∨
    (w.slot .active = none ∧ w.slot .previous = some old)

theorem Whole.previous (h : Whole old new w) (hfree : w.slot .active = none) :
    w.slot .previous = some old := by
  rcases h with h | ⟨hnew, h⟩ | ⟨-, h⟩
  · rw [hfree] at h
    cases h
  · rw [← h, hfree] at hnew
    cases hnew
  · exact h

/-- Trees other than the active and the previous one do not matter. -/
theorem Whole.congr (h : Whole old new w) (hactive : w'.slot .active = w.slot .active)
    (hprevious : w'.slot .previous = w.slot .previous) : Whole old new w' := by
  unfold Whole at h ⊢
  rwa [hactive, hprevious]

/-- **One step.** A permitted step leaves a whole tree. -/
theorem Whole.step {op : (stackSig ActivationCheck).Op} {a : (stackSig ActivationCheck).Ans op}
    (hop : Permitted old new op w) (h : Whole old new w) (hs : stackSem op w a w') : Whole old new w' := by
  cases op with
  | stat | read | isEmpty | secrets =>
    obtain ⟨rfl, -⟩ := hs
    exact h
  | check c =>
    obtain rfl : w' = w := hs
    exact h
  | change s o =>
    obtain ⟨t, rfl, -⟩ := hs
    cases s with
    | active => exact hop.elim
    | rollback => exact hop.elim
    | staging => exact h.congr rfl rfl
    | previous =>
      have hactive : w.slot .active = some old := hop
      exact .inl hactive
  | rename s d =>
    rcases hs with ⟨-, -, hfree, t, ht, rfl⟩ | ⟨-, rfl⟩
    · cases s with
      | rollback => exact hop.elim
      | active =>
        cases d with
        | previous =>
          have hactive : w.slot .active = some old := hop
          exact .inr (.inr ⟨rfl, (ht.symm.trans hactive : some t = some old)⟩)
        | _ => exact hop.elim
      | previous =>
        cases d with
        | active => exact .inl (ht.symm.trans (h.previous hop) : some t = some old)
        | _ => exact hop.elim
      | staging =>
        cases d with
        | active =>
          have hnew : some t = new := ht.symm.trans hop
          exact .inr (.inl ⟨by rw [← hnew]; rfl, hnew⟩)
        | _ => exact hop.elim
    · exact h

/-! ## Staging -/

/-- Only the staging tree may differ. -/
structure Beside (w w' : StackHost) : Prop where
  slot : ∀ s, s ≠ .staging → w'.slot s = w.slot s
  vault : w'.vault = w.vault

theorem Beside.refl (w : StackHost) : Beside w w := ⟨fun _ _ => rfl, rfl⟩

theorem Beside.set (h : Beside w w') (t : Option FileTree) : Beside w (w'.set .staging t) where
  slot s hs := by
    rw [StackHost.slot_set, if_neg hs]
    exact h.slot s hs
  vault := h.vault

/-- What a part of the staging leaves: nothing else changed, and on success the staging tree is `t`. -/
def Built (w : StackHost) (t : Option FileTree) (r : Except String Unit) (w' : StackHost) : Prop :=
  Beside w w' ∧ (r = .ok () → t.isSome = true ∧ w'.slot .staging = t)

theorem Built.error {e : String} {t : Option FileTree} (h : Beside w w') : Built w t (.error e) w' :=
  ⟨h, fun h => by cases h⟩

theorem Built.ok {t : FileTree} (h : Beside w w') (ht : w'.slot .staging = some t) :
    Built w (some t) (.ok ()) w' :=
  ⟨h, fun _ => ⟨rfl, ht⟩⟩

section Staging

variable {w₀ : StackHost} {t : FileTree} {x : Option FileTree}

section

variable (hw : Beside w₀ w)
include hw

/-- A change of the staging tree, and what follows it. -/
theorem change_staging_bind {o : TreeOp} {e : String} {f : Unit → ActivationProc Unit}
    (hok : ∀ t', o.result (w.slot .staging) = some t' →
      (f ()).Safe stackSem (Permitted old new) (Built w₀ x) (w.set .staging t')) :
    (Stack.change .staging o e >>= f).Safe stackSem (Permitted old new) (Built w₀ x) w := by
  refine Safe.bind (Q := fun r w' => match r with
    | .ok _ => (f ()).Safe stackSem (Permitted old new) (Built w₀ x) w'
    | .error _ => Beside w₀ w') (safe_change trivial hok fun t' => hw.set t')
        (fun _ _ h => h) fun e w' h => ?_
  exact Built.error h

/-- The last change of a part. -/
theorem change_staging {o : TreeOp} {e : String}
    (hok : ∀ t', o.result (w.slot .staging) = some t' → x.isSome = true ∧ t' = x) :
    (Stack.change .staging o e).Safe stackSem (Permitted old new) (Built w₀ x) w := by
  refine safe_change trivial (fun t' ht' => ⟨hw.set t', fun _ => ?_⟩) fun t' => Built.error (hw.set t')
  obtain ⟨hx, rfl⟩ := hok t' ht'
  exact ⟨hx, rfl⟩

section

variable (ht : w.slot .staging = some t)
include ht

theorem setBundleFilePermissions_staging {p : TreePath} {executable sensitive : Bool} :
    (setBundleFilePermissions .staging p executable sensitive).Safe stackSem (Permitted old new)
    (Built w₀ (some t)) w := by
  refine change_staging hw fun t' ht' => ⟨rfl, ?_⟩
  rw [ht] at ht'
  simp only [TreeOp.result] at ht'
  split at ht'
  · exact (Option.some.inj ht').symm
  · cases ht'

theorem writeBundleFile_staging {file : BundleFile} :
    (writeBundleFile .staging file).Safe stackSem (Permitted old new) (Built w₀ (placeFile t file)) w := by
  unfold writeBundleFile
  refine Safe.check (fun e => Built.error hw) fun _ _ => ?_
  refine Safe.check (fun e => Built.error hw) fun _ _ => ?_
  refine change_staging_bind hw fun t₁ ht₁ => ?_
  rw [ht] at ht₁
  obtain ⟨u₁, hu₁, rfl⟩ := Option.map_eq_some_iff.mp ht₁
  refine Safe.check (fun e => Built.error (hw.set _)) fun _ hname => ?_
  refine change_staging_bind (hw.set _) fun t₂ ht₂ => ?_
  obtain ⟨u₂, hu₂, rfl⟩ := Option.map_eq_some_iff.mp ht₂
  have hplace : placeFile t file = some u₂ :=
    Option.bind_eq_some_iff.mpr ⟨u₁, hu₁, (if_neg (rejectIf_eq_ok.mp hname)).trans hu₂⟩
  rw [hplace]
  exact setBundleFilePermissions_staging ((hw.set _).set _) rfl

theorem writeStackFiles_staging {files : List BundleFile} :
    (writeStackFiles .staging files).Safe stackSem (Permitted old new)
    (Built w₀ (files.foldlM placeFile t)) w := by
  induction files generalizing w t with
  | nil => exact Built.ok hw ht
  | cons file files ih =>
    refine Safe.bind (writeBundleFile_staging hw ht) (fun _ w₁ h₁ => ?_) fun e w₁ h₁ => Built.error h₁.1
    obtain ⟨hsome, hslot⟩ := h₁.2 rfl
    obtain ⟨t₁, ht₁⟩ := Option.isSome_iff_exists.mp hsome
    rw [List.foldlM_cons, ht₁]
    exact ih h₁.1 (hslot.trans ht₁)

/-- What the runtime environment of a policy makes of the tree. -/
theorem writeVmRuntimeEnvironment_staging {secrets : ApplicationRuntimeSecrets} {bytes : Bytes}
    (hpolicy : t.file [runtimePolicyFile] = some bytes) (hvault : w₀.vault = .ok (some secrets)) :
    (writeVmRuntimeEnvironment .staging secrets).Safe stackSem (Permitted old new)
    (Built w₀ (placeRuntime w₀.vault t))
      w := by
  have hfile : w.file .staging [runtimePolicyFile] = some bytes := by
    unfold StackHost.file
    rw [ht]
    exact hpolicy
  refine Safe.bind (Q := fun r w' => w' = w ∧ ∀ a, r = .ok a → a = none ∨ a = some bytes)
    (safe_read trivial fun a ha => ⟨rfl, ?_⟩) ?_ fun e w' h => ?_
  · intro b hb
    cases hb
    rwa [hfile] at ha
  · rintro a w' ⟨rfl, ha⟩
    refine Safe.check (fun e => Built.error hw) fun policy hp => ?_
    refine Safe.check (fun e => Built.error hw) fun runtime hr => ?_
    have hutf8 : ofUtf8 bytes = some policy := by
      obtain ⟨b, hb, hpol⟩ := Option.bind_eq_some_iff.mp (okOr_eq_ok.mp hp)
      rcases ha a rfl with rfl | rfl
      · cases hb
      · cases hb
        exact hpol
    refine change_staging_bind hw fun t₁ ht₁ => ?_
    rw [ht] at ht₁
    obtain ⟨u₁, hu₁, rfl⟩ := Option.map_eq_some_iff.mp ht₁
    refine Safe.bind (setBundleFilePermissions_staging (hw.set _) rfl) (fun _ w₂ h₂ => ?_)
      fun e w₂ h₂ => Built.error h₂.1
    obtain ⟨-, hslot⟩ := h₂.2 rfl
    refine ⟨trivial, ?_⟩
    rintro ok w₃ ⟨t₃, rfl, ⟨rfl, ht₃⟩ | ⟨rfl, -⟩⟩
    · rw [hslot] at ht₃
      obtain ⟨u₃, hu₃, rfl⟩ := Option.map_eq_some_iff.mp ht₃
      have hplace : placeRuntime w₀.vault t = some u₃ := by
        unfold placeRuntime
        rw [hpolicy, hvault]
        simp only [Except.toOption, Option.join_some, Option.bind_eq_bind, Option.bind_some, hutf8,
          hr, hu₁, hu₃]
      rw [hplace]
      exact Built.ok (h₂.1.set _) rfl
    · refine ⟨trivial, ?_⟩
      rintro a w₄ ⟨t₄, rfl, -⟩
      exact Built.error ((h₂.1.set _).set _)
  · obtain ⟨rfl, -⟩ := h
    exact Built.error hw

theorem materializeVmOwnedRuntimeEnvironment_staging :
    (materializeVmOwnedRuntimeEnvironment .staging).Safe stackSem (Permitted old new)
      (Built w₀ (placeRuntime w₀.vault t)) w := by
  have hfile : w.file .staging [runtimePolicyFile] = t.file [runtimePolicyFile] := by
    unfold StackHost.file
    rw [ht]
    rfl
  refine Safe.bind (Q := fun r w' => w' = w ∧ r = .ok (t.file [runtimePolicyFile]).isSome)
    (safe_isFile trivial ⟨rfl, by rw [hfile]⟩) ?_ fun e w' h => by cases h.2
  rintro a w' ⟨rfl, ha⟩
  cases ha
  cases hpolicy : t.file [runtimePolicyFile] with
  | none =>
    have hplace : placeRuntime w₀.vault t = some t := by
      unfold placeRuntime
      rw [hpolicy]
    rw [hplace]
    exact Built.ok hw ht
  | some bytes =>
    refine Safe.bind (Q := fun r w'' => w'' = w' ∧ r = w₀.vault) (safe_secrets trivial ⟨rfl, hw.vault⟩) ?_ ?_
    · rintro bundle w'' ⟨rfl, hbundle⟩
      refine Safe.check (fun e => Built.error hw) fun secrets hsecrets => ?_
      have hvault : w₀.vault = .ok (some secrets) := by
        rw [← hbundle, okOr_eq_ok.mp hsecrets]
      exact writeVmRuntimeEnvironment_staging hw ht hpolicy hvault
    · rintro e w'' ⟨rfl, -⟩
      exact Built.error hw

end

theorem clear_staging {e : String} :
    (clear .staging e).Safe stackSem (Permitted old new)
      (fun r w' => Beside w₀ w' ∧ (r = .ok () → w'.slot .staging = none)) w := by
  refine Safe.bind (Q := fun r w' => w' = w ∧ r = .ok (w.slot .staging).isSome)
    (safe_exists trivial ⟨rfl, by rw [w.isSome_node_nil]⟩) ?_ fun e w' h => by cases h.2
  rintro a w' ⟨rfl, ha⟩
  cases ha
  cases hslot : w'.slot .staging with
  | none => exact ⟨hw, fun _ => hslot⟩
  | some t =>
    refine safe_change trivial (fun t' ht' => ⟨hw.set t', fun _ => ?_⟩) fun t' =>
      ⟨hw.set t', fun h => by cases h⟩
    rw [hslot] at ht'
    cases ht'
    rfl

/-- **Staging** touches nothing but the staging tree and leaves there, on success, the whole tree of the
bundle. -/
theorem stageBundle_staging {request : ApplyBundleRequest} {release : ApplicationBundleRelease} :
    (stageBundle request false release).Safe stackSem (Permitted old new)
      (Built w₀ (bundleTree request false release w₀.vault)) w := by
  refine Safe.bind (clear_staging hw) (fun _ w₁ h₁ => ?_) fun e w₁ h₁ => Built.error h₁.1
  refine change_staging_bind h₁.1 fun t₂ ht₂ => ?_
  rw [h₁.2 rfl] at ht₂
  obtain rfl : t₂ = some [] := (Option.some.inj ht₂).symm
  refine Safe.bind (writeStackFiles_staging (h₁.1.set _) rfl)
    (fun _ w₃ h₃ => ?_) fun e w₃ h₃ => Built.error h₃.1
  obtain ⟨hsome₃, hslot₃⟩ := h₃.2 rfl
  obtain ⟨t₃, ht₃⟩ := Option.isSome_iff_exists.mp hsome₃
  refine Safe.bind (materializeVmOwnedRuntimeEnvironment_staging h₃.1 (hslot₃.trans ht₃)) (fun _ w₄ h₄ => ?_)
    fun e w₄ h₄ => Built.error h₄.1
  obtain ⟨hsome₄, hslot₄⟩ := h₄.2 rfl
  obtain ⟨t₄, ht₄⟩ := Option.isSome_iff_exists.mp hsome₄
  refine Safe.check (fun e => Built.error h₄.1) fun _ _ => ?_
  refine change_staging h₄.1 fun t' ht' => ?_
  rw [hslot₄, ht₄] at ht'
  obtain ⟨u, hu, rfl⟩ := Option.map_eq_some_iff.mp ht'
  have htree : bundleTree request false release w₀.vault = some u := by
    unfold bundleTree
    simp only [ht₃, ht₄, Option.bind_eq_bind, Option.bind_some, Bool.false_eq_true, if_false, hu]
  rw [htree]
  exact ⟨rfl, rfl⟩

end

end Staging

/-! ## The exchange of the trees -/

theorem activateStaged_permitted (hstaging : w.slot .staging = new) :
    activateStaged.Safe stackSem (Permitted old new) (fun _ _ => True) w := by
  refine Safe.bind (Q := fun r w' => r = .ok true ∨ w' = w)
    (safe_rename hstaging (fun _ _ _ => .inl rfl) (.inr rfl))
    ?_ fun _ _ _ => trivial
  intro ok w' hok
  cases ok with
  | true => trivial
  | false =>
    obtain rfl : w' = w := hok.resolve_left (by simp)
    refine Safe.bind (Q := fun _ w'' => w'' = w') (safe_exists trivial rfl) ?_ fun _ _ _ => trivial
    rintro previous w'' rfl
    refine Safe.bind (Q := fun r w' => w' = w'' ∧ r = .ok (w''.slot .active).isSome)
      (safe_exists trivial ⟨rfl, by rw [w''.isSome_node_nil]⟩) ?_ fun _ _ _ => trivial
    rintro active w' ⟨rfl, hactive⟩
    cases hactive
    by_cases hback : previous && !(w'.slot .active).isSome
    · have hfree : w'.slot .active = none := by
        rw [Bool.and_eq_true, Bool.not_eq_true', Option.isSome_eq_false_iff,
          Option.isNone_iff_eq_none] at hback
        exact hback.2
      rw [if_pos hback]
      exact Safe.bind (Q := fun _ _ => True) (safe_rename hfree (fun _ _ _ => trivial) trivial)
        (fun _ _ _ => trivial) fun _ _ _ => trivial
    · rw [if_neg hback]
      trivial

/-- Where the active tree is `old` or missing, it is moved away as permitted, and the staging tree stays. -/
theorem retireActive_permitted (hactive : w.slot .active = some old ∨ w.slot .active = none) :
    (retireActive false).Safe stackSem (Permitted old new)
    (fun _ w' => w'.slot .staging = w.slot .staging) w := by
  refine Safe.bind (Q := fun _ w' => w' = w) (safe_exists trivial rfl) ?_ fun e w' h => by rw [h]
  rintro present w' rfl
  rw [Bool.and_false, if_neg (by simp)]
  refine Safe.bind (Q := fun r w'' => w'' = w' ∧ r = .ok (w'.slot .active).isSome)
    (safe_exists trivial ⟨rfl, by rw [w'.isSome_node_nil]⟩) ?_ fun e w'' h => by rw [h.1]
  rintro again w'' ⟨rfl, hagain⟩
  cases hagain
  rcases hactive with hold | hnone
  · rw [hold]
    -- the previous tree may be lost here: the active one is still in its place
    have hclear : (clear .previous "failed to remove previous application stack").Safe stackSem
        (Permitted old new)
        (fun _ w' => w'.slot .active = some old ∧ w'.slot .staging = w''.slot .staging) w'' := by
      refine Safe.bind (Q := fun _ w' => w' = w'') (safe_exists trivial rfl) ?_ fun e w' h => by
        rw [h]
        exact ⟨hold, rfl⟩
      rintro there w' rfl
      cases there with
      | false => exact ⟨hold, rfl⟩
      | true => exact safe_change hold (fun _ _ => ⟨hold, rfl⟩) fun _ => ⟨hold, rfl⟩
    refine Safe.bind hclear ?_ fun e w' h => h.2
    rintro _ w₁ ⟨hactive₁, hstaging₁⟩
    exact safe_renameOr hactive₁ (fun _ _ _ => hstaging₁) hstaging₁
  · rw [hnone]
    exact rfl

/-! ## Installing over a complete tree -/

/-- The old tree is active, or it is kept beside a free active path. -/
structure Prior (old : FileTree) (w : StackHost) : Prop where
  complete : Complete old
  kept : w.slot .active = some old ∨ (w.slot .active = none ∧ w.slot .previous = some old)

theorem Prior.whole (h : Prior old w) : Whole old new w := by
  rcases h.kept with hactive | hprevious
  · exact .inl hactive
  · exact .inr (.inr hprevious)

theorem Complete.ne_nil (h : Complete old) : old ≠ [] := by
  obtain ⟨release, hrelease⟩ := Option.isSome_iff_exists.mp h
  obtain ⟨bytes, hbytes, -⟩ := Option.bind_eq_some_iff.mp hrelease
  exact FileTree.ne_nil_of_file hbytes

/-- A first installation is refused on such a host before anything is changed. -/
theorem requireEmptyVmInitialBundleHost_refused (h : Prior old w) :
    requireEmptyVmInitialBundleHost.Safe stackSem (Permitted old new) (fun r _ => isErr r = true) w := by
  refine Safe.bind (Q := fun _ w' => w' = w) (safe_exists trivial rfl) ?_ fun _ _ _ => rfl
  rintro staging w' rfl
  refine Safe.check (fun _ => rfl) fun _ _ => ?_
  refine Safe.bind (Q := fun r w'' => w'' = w' ∧ r = .ok (w'.slot .previous).isSome)
    (safe_exists trivial ⟨rfl, by rw [w'.isSome_node_nil]⟩) ?_ fun _ _ _ => rfl
  rintro previous w'' ⟨rfl, hprevious⟩
  cases hprevious
  refine Safe.check (fun _ => rfl) fun _ hnot => ?_
  rcases h.kept with hactive | ⟨-, hkept⟩
  · refine Safe.bind (Q := fun _ w' => w' = w'') (safe_exists trivial rfl) ?_ fun _ _ _ => rfl
    rintro rollback w' rfl
    refine Safe.check (fun _ => rfl) fun _ _ => ?_
    refine Safe.bind (Q := fun r w'' => w'' = w' ∧ r = .ok (w'.slot .active).isSome)
      (safe_exists trivial ⟨rfl, by rw [w'.isSome_node_nil]⟩) ?_ fun _ _ _ => rfl
    rintro active w'' ⟨rfl, hpresent⟩
    cases hpresent
    rw [hactive, if_pos (by rfl)]
    refine ⟨trivial, ?_⟩
    rintro entries w' ⟨rfl, rfl | rfl⟩
    · exact rfl
    · have hentries : (w'.slot .active).map List.isEmpty = some false := by
        rw [hactive]
        exact congrArg some (List.isEmpty_eq_false_iff.mpr h.complete.ne_nil)
      rw [hentries]
      exact rfl
  · rw [rejectIf_eq_ok, hkept] at hnot
    exact absurd rfl hnot

/-- **Every step of an installation is permitted.** -/
theorem applyDigestBoundBundle_permitted {dir : StackDir} {request : ApplyBundleRequest}
    {initialPolicyOnly : Bool} {bundleId digest : String}
    (hrequest : validateDigestBoundBundleRequest request = .ok (bundleId, digest)) (h : Prior old w) :
    (applyDigestBoundBundle dir request initialPolicyOnly).Safe stackSem
      (Permitted old (bundleTree request initialPolicyOnly (requestedRelease bundleId digest) w.vault))
      (fun _ _ => True) w := by
  refine Safe.lift_ok hrequest ?_
  cases initialPolicyOnly with
  | true =>
    refine Safe.bind (Q := fun r _ => isErr r = true) ?_ (fun _ _ hr => by cases hr) fun _ _ _ => trivial
    refine Safe.check (fun _ => rfl) fun _ _ => ?_
    refine Safe.bind (Q := fun _ w' => w' = w) (safe_check trivial fun _ => rfl) ?_ fun _ _ _ => rfl
    rintro _ w' rfl
    exact requireEmptyVmInitialBundleHost_refused h
  | false =>
    refine Safe.bind (Q := fun _ w' => w' = w) rfl ?_ fun _ _ _ => trivial
    rintro _ w' rfl
    refine Safe.bind (Q := fun _ w'' => w'' = w') (safe_readApplicationRelease trivial fun _ _ => rfl) ?_
      fun _ _ _ => trivial
    rintro current w'' rfl
    by_cases hsame : sameRelease current bundleId digest
    · rw [if_pos hsame]
      exact Safe.bind (Q := fun _ _ => True) (safe_readApplicationRelease trivial fun _ _ => trivial)
        (fun _ _ _ => trivial) fun _ _ _ => trivial
    · rw [if_neg hsame]
      refine Safe.bind (stageBundle_staging (Beside.refl w'')) (fun _ w₁ h₁ => ?_) fun _ _ _ => trivial
      obtain ⟨-, hstaging⟩ := h₁.2 rfl
      refine Safe.bind (Q := fun _ w₂ => w₂ = w₁) (safe_readApplicationRelease trivial fun _ _ => rfl) ?_
        fun _ _ _ => trivial
      rintro oldRelease w₂ rfl
      have hactive : w₂.slot .active = some old ∨ w₂.slot .active = none := by
        rw [h₁.1.slot .active (by decide)]
        exact h.kept.imp_right And.left
      refine Safe.bind (retireActive_permitted hactive) (fun _ w₃ h₃ => ?_) fun _ _ _ => trivial
      refine Safe.bind (activateStaged_permitted (h₃.trans hstaging))
        (fun _ _ _ => trivial) fun _ _ _ => trivial

end Atomicity

/-- The tree of an accepted bundle records the release of the request. -/
theorem releaseOf_bundleTree {request : ApplyBundleRequest} {initialPolicyOnly : Bool}
    {bundleId digest : String} {vault : Except String (Option ApplicationRuntimeSecrets)} {new : FileTree}
    (hrequest : validateDigestBoundBundleRequest request = .ok (bundleId, digest))
    (hnew : bundleTree request initialPolicyOnly (requestedRelease bundleId digest) vault = some new) :
    releaseOf new = some (requestedRelease bundleId digest) := by
  unfold bundleTree at hnew
  simp only [Option.bind_eq_bind, Option.bind_eq_some_iff] at hnew
  obtain ⟨t₁, -, t₂, -, hwrite⟩ := hnew
  unfold releaseOf
  rw [FileTree.file_write hwrite, if_pos rfl]
  exact releaseOfMarker_eq_some.mpr ⟨rfl, requestedRelease_valid hrequest⟩

/-! ## Rolling back twice -/

section Rollback

variable {w w₁ : StackHost} {active previous : FileTree} {current before : ApplicationBundleRelease}

/-- Both trees record their release, and the scratch path is free. -/
structure Exchangeable (w : StackHost) (active previous : FileTree)
    (current before : ApplicationBundleRelease) : Prop where
  slot_active : w.slot .active = some active
  release_active : releaseOf active = some current
  slot_previous : w.slot .previous = some previous
  release_previous : releaseOf previous = some before
  slot_rollback : w.slot .rollback = none

/-- The three renames of a rollback. -/
def exchanged (w : StackHost) (active previous : FileTree) : StackHost :=
  ((w.moved .active .rollback active).moved .previous .active previous).moved .rollback .previous active

/-- Roles are exchanged. -/
theorem Exchangeable.exchanged (h : Exchangeable w active previous current before) :
    Exchangeable (Agent.exchanged w active previous) previous active before current where
  slot_active := rfl
  release_active := h.release_previous
  slot_previous := rfl
  release_previous := h.release_active
  slot_rollback := rfl

theorem exchanged_exchanged (h : Exchangeable w active previous current before) :
    exchanged (exchanged w active previous) previous active = w := by
  refine StackHost.ext (fun s => ?_) rfl
  cases s with
  | active => exact h.slot_active.symm
  | previous => exact h.slot_previous.symm
  | rollback => exact h.slot_rollback.symm
  | staging => rfl

theorem bundleDigest_of_releaseOf (h : releaseOf active = some current) :
    validateLowerHex "expected_current_bundle_digest" current.bundleDigest 64 = .ok () := by
  obtain ⟨bytes, -, hbytes⟩ := Option.bind_eq_some_iff.mp h
  obtain ⟨-, -, hdigest⟩ := (releaseOfMarker_eq_some.mp hbytes).2
  obtain ⟨u, hu⟩ := isErr_eq_false.mp hdigest
  simpa [validateLowerHex, validateHex] using hu

/-- Successful renames exchange the trees; whatever fails is reported. -/
theorem exchange_safe (h : Exchangeable w active previous current before) :
    exchange.Safe stackSem (fun _ _ => True)
      (fun r w₁ => r = .ok () → w₁ = exchanged w active previous) w := by
  refine Safe.bind (Q := fun r w' => r = .ok () → w' = w.moved .active .rollback active)
    (safe_renameOr trivial ?_ fun hr => by cases hr) (fun _ w' hw' => ?_) fun e w' _ hr => by cases hr
  · intro t ht _ _
    cases ht.symm.trans h.slot_active
    rfl
  obtain rfl := hw' rfl
  refine Safe.bind (Q := fun r w' => r = .ok true →
      w' = (w.moved .active .rollback active).moved .previous .active previous)
    (safe_rename trivial ?_ fun hr => by cases hr) (fun ok w' hw' => ?_) fun e w' _ hr => by cases hr
  · intro t ht _ _
    cases ht.symm.trans h.slot_previous
    rfl
  cases ok with
  | false =>
    exact Safe.bind (Q := fun _ _ => True) (safe_rename trivial (fun _ _ _ => trivial) trivial)
      (fun _ _ _ hr => by cases hr) fun _ _ _ hr => by cases hr
  | true =>
    obtain rfl := hw' rfl
    refine Safe.bind (Q := fun r w' => r = .ok true → w' = exchanged w active previous)
      (safe_rename trivial ?_ fun hr => by cases hr) (fun ok w' hw' => ?_) fun e w' _ hr => by cases hr
    · intro t ht _ _
      cases ht
      rfl
    cases ok with
    | true => exact fun _ => hw' rfl
    | false =>
      refine Safe.bind (Q := fun _ _ => True) (safe_rename trivial (fun _ _ _ => trivial) trivial)
        (fun _ w'' _ => ?_) fun _ _ _ hr => by cases hr
      exact Safe.bind (Q := fun _ _ => True) (safe_rename trivial (fun _ _ _ => trivial) trivial)
        (fun _ _ _ hr => by cases hr) fun _ _ _ hr => by cases hr

/-- **What a successful rollback has found and done.** -/
theorem rollbackBundle_done {request : RollbackBundleRequest} {response : RollbackBundleResponse}
    (h : (rollbackBundle request).Done stackSem w (.ok response) w₁) :
    ∃ active previous current before, Exchangeable w active previous current before ∧
      current.bundleDigest = request.expectedCurrentBundleDigest ∧
      response = rollbackResponse current before ∧ w₁ = exchanged w active previous := by
  have hsafe : (rollbackBundle request).Safe stackSem (fun _ _ => True)
      (fun r w₁ => ∀ response, r = .ok response → ∃ active previous current before,
        Exchangeable w active previous current before ∧
        current.bundleDigest = request.expectedCurrentBundleDigest ∧
        response = rollbackResponse current before ∧ w₁ = exchanged w active previous) w := by
    refine Safe.check (fun e _ hr => by cases hr) fun _ _ => ?_
    refine Safe.bind (Q := fun r w' => w' = w ∧ ∀ a, r = .ok a → a = none ∨ a = w.release .active)
      (safe_readApplicationRelease trivial fun a ha => ⟨rfl, fun b hb => by cases hb; exact ha⟩) ?_
      fun e w' _ _ hr => by cases hr
    rintro currentRelease w' ⟨rfl, hcurrent⟩
    refine Safe.check (fun e _ hr => by cases hr) fun current hsome => ?_
    refine Safe.check (fun e _ hr => by cases hr) fun _ hdigest => ?_
    refine Safe.bind (Q := fun r w'' => w'' = w' ∧ ∀ a, r = .ok a → a = none ∨ a = w'.release .previous)
      (safe_readApplicationRelease trivial fun a ha => ⟨rfl, fun b hb => by cases hb; exact ha⟩) ?_
      fun e w'' _ _ hr => by cases hr
    rintro previousRelease w'' ⟨rfl, hprevious⟩
    refine Safe.check (fun e _ hr => by cases hr) fun before hbefore => ?_
    refine Safe.bind (Q := fun r w' => w' = w'' ∧ r = .ok (w''.slot .rollback).isSome)
      (safe_exists trivial ⟨rfl, by rw [w''.isSome_node_nil]⟩) ?_ fun e w' _ _ hr => by cases hr
    rintro scratch w' ⟨rfl, hscratch⟩
    cases hscratch
    refine Safe.check (fun e _ hr => by cases hr) fun _ hfree => ?_
    have hread : ∀ {s : Slot} {release : ApplicationBundleRelease} {a : Option ApplicationBundleRelease}
        {e : String}, okOr a e = .ok release → a = none ∨ a = w'.release s →
          ∃ t, w'.slot s = some t ∧ releaseOf t = some release := by
      intro s release a e hok ha
      rw [okOr_eq_ok] at hok
      subst hok
      rcases ha with ha | ha
      · cases ha
      · exact Option.bind_eq_some_iff.mp ha.symm
    obtain ⟨active, hactive, hrelease⟩ := hread hsome (hcurrent _ rfl)
    obtain ⟨previous, hprev, hbeforeRelease⟩ := hread hbefore (hprevious _ rfl)
    have hex : Exchangeable w' active previous current before :=
      ⟨hactive, hrelease, hprev, hbeforeRelease, by simpa using hfree⟩
    refine Safe.bind (exchange_safe hex) (fun _ w₁ hw₁ => ?_) fun e w₁ _ _ hr => by cases hr
    intro response hresponse
    cases hresponse
    exact ⟨active, previous, current, before, hex, by simpa using hdigest, rfl, hw₁ rfl⟩
  exact hsafe.done h response rfl

/-- **Without failures** a rollback that names the active digest succeeds. -/
theorem rollbackBundle_ideal (h : Exchangeable w active previous current before) :
    (rollbackBundle ⟨current.bundleDigest⟩).runFor ideal 6 w =
      (.ret (rollbackResponse current before), exchanged w active previous) := by
  have hcurrent : (w.file .active [applicationReleaseMarker]).bind releaseOfMarker = some current := by
    rw [← w.release_eq, StackHost.release, h.slot_active]
    exact h.release_active
  have hbefore : (w.file .previous [applicationReleaseMarker]).bind releaseOfMarker = some before := by
    rw [← w.release_eq, StackHost.release, h.slot_previous]
    exact h.release_previous
  have hscratch : ((w.node .rollback []).map Metadata.ofNode).isSome = false := by
    rw [Option.isSome_map, w.isSome_node_nil, h.slot_rollback]
    rfl
  unfold rollbackBundle
  rw [bundleDigest_of_releaseOf h.release_active]
  show Proc.runFor ideal 5
      (liftM (okOr ((w.file .active [applicationReleaseMarker]).bind releaseOfMarker) _) >>= _) w = _
  rw [hcurrent]
  show Proc.runFor ideal 5 (liftM (rejectIf (current.bundleDigest ≠ current.bundleDigest) _) >>= _) w = _
  rw [rejectIf_of_not (not_not.mpr rfl)]
  show Proc.runFor ideal 4
      (liftM (okOr ((w.file .previous [applicationReleaseMarker]).bind releaseOfMarker) _) >>= _) w = _
  rw [hbefore]
  show Proc.runFor ideal 3
      (liftM (rejectIf (((w.node .rollback []).map Metadata.ofNode).isSome = true) _) >>= _) w = _
  rw [hscratch, rejectIf_of_not (by simp)]
  have hsecond : (w.moved .active .rollback active).slot .previous = some previous := h.slot_previous
  have hthird : ((w.moved .active .rollback active).moved .previous .active previous).slot .rollback =
      some active := rfl
  show Proc.runFor ideal 3 (exchange >>= _) w = _
  unfold exchange
  rw [Proc.bind_assoc, runFor_renameOr h.slot_active (by decide) (.inl h.slot_rollback), Proc.bind_assoc,
    runFor_rename hsecond (by decide) (.inl rfl), if_pos rfl, Proc.bind_assoc,
    runFor_rename hthird (by decide) (.inl rfl)]
  rfl

end Rollback

/-! ## Activation is atomic, rollback undoes itself -/

/-- **Activation and rollback.** From a complete tree, active or kept beside a free active path, every step
    of an installation leaves the old tree active, or the whole new tree, which records the requested
    release, or a free active path with the old tree kept. After a rollback, a rollback that names the digest
    it reported as active succeeds on a disk that does not fail, restores the host exactly, and reports the
    digest that was active before. -/
theorem activation_atomic_and_rollback_undone :
    (∀ (dir : StackDir) (request : ApplyBundleRequest) (initialPolicyOnly : Bool) (bundleId digest : String)
        (old : FileTree) (w w' : StackHost) (p : ActivationProc ApplyBundleResponse),
      validateDigestBoundBundleRequest request = .ok (bundleId, digest) → Prior old w →
      (applyDigestBoundBundle dir request initialPolicyOnly).Steps stackSem w p w' →
        Whole old (bundleTree request initialPolicyOnly (requestedRelease bundleId digest) w.vault) w' ∧
        ∀ new, bundleTree request initialPolicyOnly (requestedRelease bundleId digest) w.vault = some new →
          releaseOf new = some (requestedRelease bundleId digest)) ∧
    ∀ (request : RollbackBundleRequest) (response : RollbackBundleResponse) (w w₁ : StackHost),
      (rollbackBundle request).Done stackSem w (.ok response) w₁ →
        ∃ digest again, response.activeBundleDigest = some digest ∧
          (rollbackBundle ⟨digest⟩).runFor ideal 6 w₁ = (.ret again, w) ∧
          again.activeBundleDigest = some request.expectedCurrentBundleDigest ∧
          (w.release .active).map (·.bundleDigest) = some request.expectedCurrentBundleDigest := by
  constructor
  · intro dir request initialPolicyOnly bundleId digest old w w' p hrequest hprior hsteps
    have hsafe : (applyDigestBoundBundle dir request initialPolicyOnly).Safe stackSem
        (Permitted old (bundleTree request initialPolicyOnly (requestedRelease bundleId digest) w.vault))
        (fun _ _ => True) w := applyDigestBoundBundle_permitted hrequest hprior
    exact ⟨hsafe.invariant (fun _ _ _ _ hop hw hs => hw.step hop hs) hprior.whole hsteps,
      fun new hnew => releaseOf_bundleTree hrequest hnew⟩
  · intro request response w w₁ hdone
    obtain ⟨active, previous, current, before, hex, hdigest, rfl, rfl⟩ := rollbackBundle_done hdone
    refine ⟨before.bundleDigest, rollbackResponse before current, rfl, ?_, congrArg some hdigest, ?_⟩
    · rw [rollbackBundle_ideal hex.exchanged, exchanged_exchanged hex]
    · rw [StackHost.release, hex.slot_active, Option.bind_some, hex.release_active]
      exact congrArg some hdigest

namespace ActivationSample

def release (id digit : String) : ApplicationBundleRelease where
  schemaVersion := 1
  bundleId := id
  bundleDigest := "".pushn (digit.toList.headD '0') 64

/-- A tree that holds nothing but its marker. -/
def tree (r : ApplicationBundleRelease) : FileTree := [([applicationReleaseMarker], .file r.encodeToVec)]

def first : ApplicationBundleRelease := release "release-1" "1"

def zeroth : ApplicationBundleRelease := release "release-0" "0"

def host : StackHost where
  slot
    | .active => some (tree first)
    | .previous => some (tree zeroth)
    | _ => none
  vault := .ok none

def compose : BundleFile where
  relativePath := "docker-compose.yml"
  content := utf8 "services: \x7b\x7d\n"
  executable := false
  sensitive := false

def digest : String := "653a055d6a4e09009e3ffb87a78ccd8c8ae42003cd2ad0d775daa58d685f4f00"

def request : ApplyBundleRequest where
  stackFiles := [compose]
  hostFiles := []
  deploymentSummary := none
  agentEnvFile := none
  pruneExisting := true
  bundleId := some "release-2"
  bundleDigest := some digest

theorem request_accepted : validateDigestBoundBundleRequest request = .ok ("release-2", digest) := by
  have hsorted : (bundleEntries request).mergeSort entryBefore = [(1, compose)] := List.mergeSort_singleton _
  have hcanonical : canonicalApplyBundleDigest request = .ok digest := by
    unfold canonicalApplyBundleDigest
    decide +kernel
  unfold validateDigestBoundBundleRequest
  rw [hcanonical]
  decide

theorem releaseOf_tree {r : ApplicationBundleRelease} (hr : r.Valid) : releaseOf (tree r) = some r :=
  releaseOfMarker_eq_some.mpr ⟨rfl, hr⟩

theorem exchangeable : Exchangeable host (tree first) (tree zeroth) first zeroth where
  slot_active := rfl
  release_active := releaseOf_tree (by decide)
  slot_previous := rfl
  release_previous := releaseOf_tree (by decide)
  slot_rollback := rfl

theorem prior : Prior (tree first) host where
  complete := by
    rw [Complete, exchangeable.release_active]
    rfl
  kept := .inl rfl

end ActivationSample

open ActivationSample in
/-- An installation cut after its ninth call, and a rollback with its second. -/
theorem activation_cut_and_rollback_twice :
    Whole (tree first) (bundleTree request false (requestedRelease "release-2" digest) host.vault)
        ((applyDigestBoundBundle ⟨"/opt", "/opt/stack"⟩ request false).runFor ideal 9 host).2 ∧
      ∃ digest again, (rollbackResponse first zeroth).activeBundleDigest = some digest ∧
        (rollbackBundle ⟨digest⟩).runFor ideal 6 (exchanged host (tree first) (tree zeroth)) =
        (.ret again, host) ∧ again.activeBundleDigest = some first.bundleDigest ∧
        (host.release .active).map (·.bundleDigest) = some first.bundleDigest := by
  refine ⟨(activation_atomic_and_rollback_undone.1 _ _ _ _ _ _ _ _ _ request_accepted prior
    (Proc.runFor_steps ideal_sem 9 _ _)).1,
      activation_atomic_and_rollback_undone.2 ⟨first.bundleDigest⟩ _ _ _ ?_⟩
  have hrun := Proc.runFor_steps ideal_sem 6 (rollbackBundle ⟨first.bundleDigest⟩) host
  rw [rollbackBundle_ideal exchangeable] at hrun
  exact hrun

end EdgePlatform.Agent
