import EdgePlatform.Credential.Bundle
import EdgePlatform.Foundation.Replace

/-!
# `EdgePlatform.Credential.Store` — the local credential store

The operations of `credential_store.rs` as procedures over the store's two directories: the root, which holds
the state file, the one-shot receipts and the entry of the bundle directory, and the bundle directory itself.
A store belongs to one projection. Modes are not modelled; apart from that entry the directories hold only
regular files. The root is taken to be there and durable in its parent. A missing bundle directory reads like
an empty one.

`sync_directory` syncs on Unix only; on Windows it does nothing, and the rename is written through. The model
syncs the directory for both projections: of a Windows store it takes the entries that the code creates or
removes to be durable at that point.

A pointer change is `writeState`: it verifies every reference of the new state, replaces the state file as a
whole and reads it back. The one-shot promotions create their receipt as a new file and sync it before they
change the pointer. A receipt that exists and cannot be read whole is an error, never an absent receipt.
-/

namespace EdgePlatform.Credential

open Foundation Foundation.Wire

/-! ## The directories -/

/-- The directories of a store. -/
inductive StoreDir
  | root | bundles
deriving DecidableEq

/-- The store has no operations besides those on its files. -/
@[reducible] def noOwn : Sig := ⟨Empty, fun x => x.elim⟩

abbrev StoreProc := Proc (fsSig StoreDir noOwn)

/-- A store. -/
abbrev StoreWorld := FsWorld StoreDir Unit

def storeOwn : OwnSem StoreDir Unit noOwn := fun x => x.elim

abbrev storeSem : Sem (fsSig StoreDir noOwn) StoreWorld := fsSem storeOwn

abbrev rootOf (w : StoreWorld) : Dir := w.dirs .root

abbrev bundlesOf (w : StoreWorld) : Dir := w.dirs .bundles

/-- The entry of the bundle directory in the root. -/
def bundlesDir : String := "bundles"

/-- The pointer file. -/
def stateFile : String := "state.pb"

def stateTemp : String := "state.pb.new"

/-- A bundle file is named by its digest. -/
def bundleName (reference : LocalCredentialBundleRef) : String := reference.sha256 ++ ".pb"

def bundleTemp (reference : LocalCredentialBundleRef) : String := reference.sha256 ++ ".pb.new"

def initialPairCommitReceipt : String := "initial-paired-commit-receipt-v1"

def initialPairRecoveryReceipt : String := "initial-paired-recovery-receipt-v1"

def existingJoinReceipt : String := "existing-active-join-receipt-v1"

def existingJoinPrepareReceipt : String := "existing-active-prepare-receipt-v1"

/-! ## Receipts -/

/-- A digest in lower-case hexadecimal. -/
def validFirstUseDigest (value : String) : Bool := isLowerHexText value 64

def isSlot (slot : Int32) : Bool := slot == 1 || slot == 2

/-- A number after a fixed key. -/
def numberField (key line : String) : Option UInt64 := (stripPrefix line key).bind parseU64

/-- A digest after a fixed key. -/
def digestField (key line : String) : Bool := (stripPrefix line key).any validFirstUseDigest

/-- A slot after a fixed key. -/
def slotField (key line : String) : Bool := ((stripPrefix line key).bind parseI32).any isSlot

def projectionLine (projection : CredentialProjectionKind) : String :=
  "projection=" ++ decimalI32 (toI32 projection)

def initialPairText (projection : CredentialProjectionKind) (generation : UInt64) (slot : Int32)
    (intentSha256 : String) : String :=
  unlines ["sing-box.initial-paired-commit/v1", projectionLine projection,
    "generation=" ++ decimal generation.toNat, "slot=" ++ decimalI32 slot, "intent_sha256=" ++ intentSha256]

def initialPairRecoveryText (projection : CredentialProjectionKind) (generation : UInt64) (slot : Int32)
    (originalIntentSha256 recoveryIntentSha256 candidateSha256 : String) : String :=
  unlines ["sing-box.initial-paired-recovery/v1", projectionLine projection,
    "generation=" ++ decimal generation.toNat, "slot=" ++ decimalI32 slot,
    "original_intent_sha256=" ++ originalIntentSha256, "recovery_intent_sha256=" ++ recoveryIntentSha256,
    "candidate_sha256=" ++ candidateSha256]

def existingJoinText (projection : CredentialProjectionKind) (windowsGeneration : UInt64)
    (windowsSlot : Int32) (windowsSha256 : String) (vmGeneration : UInt64) (vmSlot : Int32)
    (vmSha256 windowsCandidateSha256 intentSha256 : String) : String :=
  unlines ["sing-box.existing-active-join/v1", projectionLine projection,
    "windows_generation=" ++ decimal windowsGeneration.toNat, "windows_slot=" ++ decimalI32 windowsSlot,
    "windows_sha256=" ++ windowsSha256, "vm_generation=" ++ decimal vmGeneration.toNat,
    "vm_slot=" ++ decimalI32 vmSlot, "vm_sha256=" ++ vmSha256,
    "windows_candidate_sha256=" ++ windowsCandidateSha256, "intent_sha256=" ++ intentSha256]

def existingJoinPrepareText (projection : CredentialProjectionKind)
    (source candidate : LocalCredentialBundleRef) (vmSha256 beginSha256 : String) : String :=
  unlines ["sing-box.existing-active-prepare/v1", projectionLine projection,
    "source_generation=" ++ decimal source.generation.toNat, "source_slot=" ++ decimalI32 source.slot,
    "source_sha256=" ++ source.sha256, "target_generation=" ++ decimal candidate.generation.toNat,
    "target_slot=" ++ decimalI32 candidate.slot, "target_sha256=" ++ candidate.sha256,
    "vm_sha256=" ++ vmSha256, "begin_sha256=" ++ beginSha256]

def initialPairWellFormed (projection : CredentialProjectionKind) : List String → Bool
  | [header, owner, generation, slot, intent] =>
    header == "sing-box.initial-paired-commit/v1" && owner == projectionLine projection &&
      (numberField "generation=" generation).any (· != 0) && slotField "slot=" slot &&
      digestField "intent_sha256=" intent
  | _ => false

def initialPairRecoveryWellFormed (projection : CredentialProjectionKind) : List String → Bool
  | [header, owner, generation, slot, original, recovery, candidate] =>
    header == "sing-box.initial-paired-recovery/v1" && owner == projectionLine projection &&
      (numberField "generation=" generation).any (· != 0) && slotField "slot=" slot &&
      digestField "original_intent_sha256=" original && digestField "recovery_intent_sha256=" recovery &&
      digestField "candidate_sha256=" candidate
  | _ => false

def existingJoinWellFormed (projection : CredentialProjectionKind) : List String → Bool
  | [header, owner, windowsGeneration, windowsSlot, windowsSha, vmGeneration, vmSlot, vmSha,
      candidate, intent] =>
    header == "sing-box.existing-active-join/v1" && owner == projectionLine projection &&
      (numberField "windows_generation=" windowsGeneration).any (· != 0) &&
      (numberField "vm_generation=" vmGeneration).any (· != 0) &&
      numberField "windows_generation=" windowsGeneration != numberField "vm_generation=" vmGeneration &&
      (numberField "windows_slot=" windowsSlot).any (fun s => s == 1 || s == 2) &&
      (numberField "vm_slot=" vmSlot).any (fun s => s == 1 || s == 2) &&
      numberField "windows_slot=" windowsSlot != numberField "vm_slot=" vmSlot &&
      digestField "windows_sha256=" windowsSha && digestField "vm_sha256=" vmSha &&
      digestField "windows_candidate_sha256=" candidate && digestField "intent_sha256=" intent
  | _ => false

def existingJoinPrepareWellFormed : List String → Bool
  | [header, owner, sourceGeneration, sourceSlot, sourceSha, targetGeneration, targetSlot, targetSha,
      vmSha, beginSha] =>
    header == "sing-box.existing-active-prepare/v1" && owner == projectionLine .windows &&
      (numberField "source_generation=" sourceGeneration).any (· != 0) &&
      numberField "source_slot=" sourceSlot == some 1 && digestField "source_sha256=" sourceSha &&
      (numberField "target_generation=" targetGeneration).any (· != 0) &&
      numberField "target_slot=" targetSlot == some 2 &&
      numberField "source_generation=" sourceGeneration !=
      numberField "target_generation=" targetGeneration && digestField "target_sha256=" targetSha &&
      digestField "vm_sha256=" vmSha && digestField "begin_sha256=" beginSha
  | _ => false

/-- Read a receipt: absent, whole, or an error. -/
def readReceipt (name unreadable malformed : String) (wellFormed : List String → Bool) :
    StoreProc (Option String) := do
  match ← Fs.read .root name with
  | none => pure none
  | some bytes => do
      let text ← okOr (ofUtf8 bytes) unreadable
      rejectIf (¬ wellFormed (lines text)) malformed
      pure (some text)

/-- Create a receipt as a new file, durably. -/
def writeReceipt (name text taken : String) : StoreProc Unit := Fs.durableCreate .root name (utf8 text) taken

section Store

variable (projection : CredentialProjectionKind)

/-- The receipt of a paired promotion. -/
def readInitialPairReceipt : StoreProc (Option String) :=
  readReceipt initialPairCommitReceipt "initial pair receipt readback failed"
    "initial pair receipt is incomplete or malformed; outcome UNKNOWN" (initialPairWellFormed projection)

/-- The receipt of a recovery. -/
def readInitialPairRecoveryReceipt : StoreProc (Option String) :=
  readReceipt initialPairRecoveryReceipt "initial pair recovery receipt unavailable"
    "initial pair recovery receipt malformed; outcome UNKNOWN" (initialPairRecoveryWellFormed projection)

/-- The receipt of a join. -/
def readExistingJoinReceipt : StoreProc (Option String) :=
  readReceipt existingJoinReceipt "existing-active join receipt read failed"
    "existing-active join receipt malformed; outcome UNKNOWN" (existingJoinWellFormed projection)

/-- The receipt of a join preparation. -/
def readWindowsExistingJoinPrepareReceipt : StoreProc (Option String) :=
  readReceipt existingJoinPrepareReceipt "Windows join prepare receipt unreadable"
    "Windows join prepare receipt malformed; outcome UNKNOWN" existingJoinPrepareWellFormed

/-! ## Reading -/

/-- A bundle, if its file has exactly what the reference names. -/
def readBundle (reference : LocalCredentialBundleRef) : StoreProc CredentialDeliveryBundle := do
  let bytes ← Fs.readOr .bundles (bundleName reference) "failed to read local credential bundle"
  let bundle ← decodeCredentialDeliveryBundle bytes
  verifyLocalCredentialBundleReference projection reference bundle
  pure bundle

def readBundles : List LocalCredentialBundleRef → StoreProc Unit
  | [] => pure ()
  | reference :: rest => do
      let _ ← readBundle projection reference
      readBundles rest

/-- Every bundle that the state refers to is there. -/
def verifyStateReferences (state : LocalCredentialState) : StoreProc Unit :=
  readBundles projection state.references

/-- The state is of this store. -/
def requireStateProjection (state : LocalCredentialState) : Except String Unit :=
  rejectIf (state.projection ≠ toI32 projection)
    "local credential state projection does not match store owner"

/-- The state, if it is canonical and every bundle of it is there. -/
def readState : StoreProc (Option LocalCredentialState) := do
  match ← Fs.read .root stateFile with
  | none => pure none
  | some bytes => do
      let state ← decodeLocalCredentialState bytes
      requireStateProjection projection state
      verifyStateReferences projection state
      pure (some state)

/-! ## Writing -/

/-- Make a directory that is not there. Its entry has no contents that could be torn; nothing syncs the
root. -/
def createDirAll : StoreDir → StoreProc Unit
  | .root => pure ()
  | .bundles => do
      if ← Fs.createNew .root bundlesDir then Fs.fsync .root bundlesDir else pure ()

/-- Both directories exist. -/
def prepareDirectories : StoreProc Unit := do
  createDirAll .root
  createDirAll .bundles

/-- Replace a file as a whole, and sync its directory. -/
def writeAtomicPrivate (dir : StoreDir) (temporary name : String) (bytes : Bytes) : StoreProc Unit := do
  createDirAll dir
  Fs.atomicReplace dir temporary name bytes "failed to create credential temp file"
    "failed to atomically replace"

/-- Replace the state file once the bundles are there, and read it back. -/
def writeState (state : LocalCredentialState) : StoreProc Unit := do
  requireStateProjection projection state
  validateLocalCredentialState state
  verifyStateReferences projection state
  let bytes ← encodeLocalCredentialState state
  writeAtomicPrivate .root stateTemp stateFile bytes
  let observed ← Fs.readOr .root stateFile "failed to re-read persisted local credential state"
  rejectIf (observed ≠ bytes) "persisted local credential state failed exact byte verification"

/-- Write a bundle file that is not there; compare one that is. -/
def persistBundle (bundle : CredentialDeliveryBundle) (reference : LocalCredentialBundleRef) :
    StoreProc Unit := do
  let bytes ← encodeCredentialDeliveryBundle bundle
  let digest ← credentialDeliveryBundleSha256 bundle
  rejectIf (digest ≠ reference.sha256) "credential bundle digest changed during persistence"
  if ← Fs.stat .bundles (bundleName reference) then
    let observed ← Fs.readOr .bundles (bundleName reference) "failed to read existing credential bundle"
    rejectIf (observed ≠ bytes) "immutable credential bundle digest path contains different bytes"
    let decoded ← decodeCredentialDeliveryBundle observed
    verifyLocalCredentialBundleReference projection reference decoded
  else
    writeAtomicPrivate .bundles (bundleTemp reference) (bundleName reference) bytes
    let observed ← Fs.readOr .bundles (bundleName reference) "failed to re-read persisted credential bundle"
    rejectIf (observed ≠ bytes) "persisted credential bundle failed exact byte verification"

/-- A bundle file whose digest is not among `keep`. -/
def isUnreferenced (keep : List String) (name : String) : Bool :=
  match stripSuffix name ".pb" with
  | some digest => ! keep.contains digest
  | none => false

/-- Remove the bundle files that the state does not refer to. -/
def gcUnreferencedBundles (state : LocalCredentialState) : StoreProc Unit := do
  let names ← Fs.list .bundles
  Fs.sweep .bundles (isUnreferenced (state.references.map (·.sha256)))
    "failed to remove unreferenced credential bundle" names

/-- Remove every bundle file. -/
def gcAllBundles : StoreProc Unit := do
  let names ← Fs.list .bundles
  Fs.sweep .bundles (fun _ => true) "failed to remove unreferenced credential bundle" names

/-- Remove the state file durably. -/
def removeStateFile : StoreProc Unit := do
  if ← Fs.remove .root stateFile then Fs.syncDir .root else pure ()

/-! ## The operations -/

/-- The state a store starts from. -/
def freshState : LocalCredentialState := ⟨1, toI32 projection, none, none, none⟩

/-- Make the bundle the candidate; nothing else may be staged or kept. -/
def stageCandidate (bundle : CredentialDeliveryBundle) : StoreProc LocalCredentialState := do
  rejectIf (bundle.projection ≠ toI32 projection)
    "credential bundle projection does not match local store owner"
  rejectIf bundle.dummyNonSecret "local credential store refuses dummy delivery bundles"
  let candidate ← localCredentialBundleRef bundle
  let current ← readState projection
  let next := current.getD (freshState projection)
  whenSome next.previous fun previous => .error ("previous credential generation " ++
    decimal previous.generation.toNat ++ " must be dropped before staging a new candidate")
  match next.candidate with
  | some existing => do
      rejectIf (existing ≠ candidate) ("different credential candidate generation " ++
        decimal existing.generation.toNat ++ " is already staged")
      pure next
  | none => do
      rejectIf (next.active = some candidate) "credential candidate is already active"
      rejectIf (next.active.map (·.slot) = some candidate.slot)
        "credential candidate must use the fixed slot opposite the active bundle"
      let next := { next with candidate := some candidate }
      validateLocalCredentialState next
      prepareDirectories
      persistBundle projection bundle candidate
      writeState projection next
      gcUnreferencedBundles next
      pure next

/-- Stage a delivery, a delta over the active bundle. -/
def stageDeliveryCandidate (delivery : CredentialDeliveryBundle) : StoreProc LocalCredentialState := do
  let state ← readState projection
  let active ← match state.bind (·.active) with
    | some reference => some <$> readBundle projection reference
    | none => pure none
  let candidate ← materializeCredentialDeliveryCandidate active delivery
  stageCandidate projection candidate

/-- The state after a promotion. -/
def promoted (current : LocalCredentialState) (candidate : LocalCredentialBundleRef) :
    LocalCredentialState :=
  ⟨1, toI32 projection, some candidate, none, current.active⟩

/-- The candidate becomes active, the active bundle previous. -/
def promoteCandidate : StoreProc LocalCredentialState := do
  let state ← readState projection
  let current ← okOr state "local credential state is absent"
  let candidate ← okOr current.candidate "local credential candidate is absent"
  let next := promoted projection current candidate
  validateLocalCredentialState next
  writeState projection next
  gcUnreferencedBundles next
  pure next

/-- The first promotion of a pair, once, under its receipt. -/
def promoteInitialPairedCandidate (generation : UInt64) (slot : Int32) (commitIntentSha256 : String) :
    StoreProc LocalCredentialState := do
  rejectIf (generation = 0 ∨ ¬ isSlot slot ∨ ¬ validFirstUseDigest commitIntentSha256)
    "initial pair commit requires exact generation/slot/intent digest"
  let state ← readState projection
  let current ← okOr state "initial pair commit requires existing validated candidate cursor"
  rejectIf (current.active ≠ none ∨ current.previous ≠ none)
    "initial pair commit refuses pre-existing active/previous credential"
  let candidate ← okOr current.candidate "initial pair commit requires one local candidate"
  rejectIf (candidate.generation ≠ generation ∨ candidate.slot ≠ slot)
    "initial pair commit rejects candidate generation/slot mismatch"
  let _ ← readBundle projection candidate
  let recovery ← readInitialPairRecoveryReceipt projection
  rejectIf (recovery ≠ none) "initial pair commit refuses an already attempted recovery; reconcile only"
  writeReceipt initialPairCommitReceipt (initialPairText projection generation slot commitIntentSha256)
    "initial pair commit receipt already attempted or uncertain"
  promoteCandidate projection

/-- The first promotion where the pair was interrupted, once. -/
def recoverInitialPairedCandidate (generation : UInt64) (slot : Int32)
    (originalIntentSha256 recoveryIntentSha256 expectedCandidateSha256 : String) :
    StoreProc LocalCredentialState := do
  rejectIf (generation = 0 ∨ ¬ isSlot slot ∨ ¬ validFirstUseDigest originalIntentSha256 ∨
      ¬ validFirstUseDigest recoveryIntentSha256 ∨ ¬ validFirstUseDigest expectedCandidateSha256 ∨
      originalIntentSha256 = recoveryIntentSha256)
    "initial pair recovery requires distinct exact intent digests"
  let recovery ← readInitialPairRecoveryReceipt projection
  rejectIf (recovery ≠ none) "initial pair recovery already attempted; reconcile only"
  let original ← readInitialPairReceipt projection
  rejectIf (original ≠ none ∧
    original ≠ some (initialPairText projection generation slot originalIntentSha256))
    "initial pair recovery rejects mismatched original receipt"
  let state ← readState projection
  let current ← okOr state "initial pair recovery requires the existing complete local state"
  rejectIf (current.active ≠ none ∨ current.previous ≠ none)
    "initial pair recovery refuses already active/previous state"
  let candidate ← okOr current.candidate "initial pair recovery requires exact candidate"
  rejectIf (candidate.generation ≠ generation ∨ candidate.slot ≠ slot ∨
    candidate.sha256 ≠ expectedCandidateSha256)
    "initial pair recovery refuses candidate provenance drift"
  let _ ← readBundle projection candidate
  writeReceipt initialPairRecoveryReceipt
    (initialPairRecoveryText projection generation slot originalIntentSha256 recoveryIntentSha256
      expectedCandidateSha256)
    "initial pair recovery already attempted or uncertain"
  promoteCandidate projection

/-- The first promotion on the VM that joins an active Windows host, once. -/
def promoteExistingActiveJoin (generation : UInt64) (slot : Int32) (candidateSha256 : String)
    (sourceWindowsGeneration : UInt64) (sourceWindowsSlot : Int32)
    (sourceWindowsSha256 windowsCandidateSha256 intentSha256 : String) : StoreProc LocalCredentialState := do
  rejectIf (projection ≠ .vm ∨ generation = 0 ∨ sourceWindowsGeneration = 0 ∨
      generation = sourceWindowsGeneration ∨ ¬ isSlot slot ∨ ¬ isSlot sourceWindowsSlot ∨
      slot = sourceWindowsSlot ∨ ¬ validFirstUseDigest candidateSha256 ∨
      ¬ validFirstUseDigest sourceWindowsSha256 ∨ ¬ validFirstUseDigest windowsCandidateSha256 ∨
      ¬ validFirstUseDigest intentSha256 ∨ candidateSha256 = sourceWindowsSha256 ∨
      windowsCandidateSha256 = sourceWindowsSha256 ∨ windowsCandidateSha256 = candidateSha256)
    "existing-active join requires distinct exact A/B owner and intent witnesses"
  let state ← readState projection
  let state ← okOr state "existing-active join requires persisted VM candidate"
  rejectIf (state.active ≠ none ∨ state.previous ≠ none) "existing-active join refuses VM ACTIVE/PREVIOUS"
  let candidate ← okOr state.candidate "existing-active join candidate absent"
  rejectIf (candidate.generation ≠ generation ∨ candidate.slot ≠ slot ∨ candidate.sha256 ≠ candidateSha256)
    "existing-active join candidate differs from intent"
  let _ ← readBundle projection candidate
  let commit ← readInitialPairReceipt projection
  rejectIf (commit ≠ none) "existing-active join refuses first-use receipt history"
  let recovery ← readInitialPairRecoveryReceipt projection
  rejectIf (recovery ≠ none) "existing-active join refuses first-use receipt history"
  let join ← readExistingJoinReceipt projection
  rejectIf (join ≠ none) "existing-active join already attempted; no replay"
  writeReceipt existingJoinReceipt
    (existingJoinText projection sourceWindowsGeneration sourceWindowsSlot sourceWindowsSha256
      generation slot
      candidateSha256 windowsCandidateSha256 intentSha256)
    "existing-active join receipt already exists or UNKNOWN"
  promoteCandidate projection

/-- Bind the candidate B to the join, once. -/
def prepareWindowsExistingJoin (source candidate : LocalCredentialBundleRef)
    (vmSha256 beginSha256 : String) :
    StoreProc Unit := do
  rejectIf (projection ≠ .windows ∨ ¬ validFirstUseDigest vmSha256 ∨ ¬ validFirstUseDigest beginSha256 ∨
      source.sha256 = candidate.sha256 ∨ source.sha256 = vmSha256 ∨ candidate.sha256 = vmSha256 ∨
      source.slot ≠ 1 ∨ candidate.slot ≠ 2 ∨ source.generation = 0 ∨
      source.generation = candidate.generation)
    "Windows join prepare requires distinct exact source A and target B"
  let state ← readState projection
  let state ← okOr state "Windows join prepare cursor missing"
  rejectIf (state.active ≠ some source ∨ state.candidate ≠ some candidate ∨ state.previous ≠ none)
    "Windows join prepare already attempted or state differs; no replay"
  let join ← readExistingJoinReceipt projection
  rejectIf (join ≠ none) "Windows join prepare already attempted or state differs; no replay"
  let prepare ← readWindowsExistingJoinPrepareReceipt
  rejectIf (prepare ≠ none) "Windows join prepare already attempted or state differs; no replay"
  let _ ← readBundle projection source
  let _ ← readBundle projection candidate
  writeReceipt existingJoinPrepareReceipt
    (existingJoinPrepareText projection source candidate vmSha256 beginSha256)
    "Windows join prepare receipt already exists or UNKNOWN"

/-- The first-use receipt names the active bundle. -/
def firstUseMatches (active : LocalCredentialBundleRef) (text : String) : Bool :=
  ((lines text)[2]?.bind (stripPrefix · "generation=")) == some (decimal active.generation.toNat) &&
    ((lines text)[3]?.bind (stripPrefix · "slot=")) == some (decimalI32 active.slot)

/-- The promotion of B on Windows, once. -/
def promoteWindowsExistingJoin (generation : UInt64) (slot : Int32)
    (windowsActiveSha256 windowsCandidateSha256 vmCandidateSha256 intentSha256 : String) :
    StoreProc LocalCredentialState := do
  rejectIf (projection ≠ .windows ∨ generation = 0 ∨ ¬ isSlot slot ∨
      ¬ validFirstUseDigest windowsActiveSha256 ∨ ¬ validFirstUseDigest windowsCandidateSha256 ∨
      ¬ validFirstUseDigest vmCandidateSha256 ∨ ¬ validFirstUseDigest intentSha256 ∨
      windowsActiveSha256 = windowsCandidateSha256 ∨ windowsActiveSha256 = vmCandidateSha256 ∨
      windowsCandidateSha256 = vmCandidateSha256)
    "Windows existing join requires exact distinct A/B and VM witnesses"
  let state ← readState projection
  let state ← okOr state "Windows existing join requires ACTIVE and CANDIDATE"
  rejectIf (state.previous ≠ none) "Windows existing join refuses PREVIOUS rollback state"
  let active ← okOr state.active "Windows existing join ACTIVE missing"
  let candidate ← okOr state.candidate "Windows existing join CANDIDATE missing"
  rejectIf (candidate.generation ≠ generation ∨ candidate.slot ≠ slot ∨
      candidate.sha256 ≠ windowsCandidateSha256 ∨ active.generation = generation ∨ active.slot = slot ∨
      active.sha256 ≠ windowsActiveSha256)
    "Windows existing join source or target no longer matches intent"
  let _ ← readBundle projection active
  let _ ← readBundle projection candidate
  let recovery ← readInitialPairRecoveryReceipt projection
  rejectIf (recovery ≠ none) "Windows existing join recovery or duplicate attempt; no replay"
  let join ← readExistingJoinReceipt projection
  rejectIf (join ≠ none) "Windows existing join recovery or duplicate attempt; no replay"
  let firstUse ← readInitialPairReceipt projection
  rejectIf (firstUse.any fun text => ! firstUseMatches active text)
    "Windows first-use receipt does not match existing ACTIVE A"
  writeReceipt existingJoinReceipt
    (existingJoinText projection active.generation active.slot windowsActiveSha256 generation slot
      vmCandidateSha256
      windowsCandidateSha256 intentSha256)
    "Windows existing join receipt already attempted or UNKNOWN"
  promoteCandidate projection

/-- Swap the active and the previous bundle. -/
def rollbackPrevious : StoreProc LocalCredentialState := do
  let state ← readState projection
  let current ← okOr state "local credential state is absent"
  rejectIf (current.candidate ≠ none) "discard the staged candidate before credential rollback"
  let active ← okOr current.active "local credential active bundle is absent"
  let previous ← okOr current.previous "local credential previous bundle is absent"
  let next : LocalCredentialState := ⟨1, toI32 projection, some previous, none, some active⟩
  validateLocalCredentialState next
  writeState projection next
  pure next

/-- Drop the candidate, unless a join has bound it. -/
def discardCandidate : StoreProc (Option LocalCredentialState) := do
  if projection = .windows then
    let prepare ← readWindowsExistingJoinPrepareReceipt
    rejectIf (prepare ≠ none)
      "Windows BEGIN-bound candidate requires authenticated paired ABORT, not discard"
  match ← readState projection with
  | none => pure none
  | some current =>
    if current.candidate = none then
      pure (some current)
    else if current.active = none ∧ current.previous = none then do
      removeStateFile
      gcAllBundles
      pure none
    else do
      let next := { current with candidate := none }
      validateLocalCredentialState next
      writeState projection next
      gcUnreferencedBundles next
      pure (some next)

/-- Forget the previous bundle. -/
def dropPrevious : StoreProc (Option LocalCredentialState) := do
  match ← readState projection with
  | none => pure none
  | some current =>
    if current.previous = none then
      pure (some current)
    else do
      let next := { current with previous := none }
      validateLocalCredentialState next
      writeState projection next
      gcUnreferencedBundles next
      pure (some next)

end Store

/-! ## The store as a system -/

/-- The operations a caller may ask for. -/
inductive StoreCall
  | stage (bundle : CredentialDeliveryBundle)
  | stageDelivery (delivery : CredentialDeliveryBundle)
  | promoteInitialPaired (generation : UInt64) (slot : Int32) (commitIntentSha256 : String)
  | recoverInitialPaired (generation : UInt64) (slot : Int32)
      (originalIntentSha256 recoveryIntentSha256 expectedCandidateSha256 : String)
  | promoteExistingJoin (generation : UInt64) (slot : Int32) (candidateSha256 : String)
      (sourceWindowsGeneration : UInt64) (sourceWindowsSlot : Int32)
      (sourceWindowsSha256 windowsCandidateSha256 intentSha256 : String)
  | prepareWindowsJoin (source candidate : LocalCredentialBundleRef) (vmSha256 beginSha256 : String)
  | promoteWindowsJoin (generation : UInt64) (slot : Int32)
      (windowsActiveSha256 windowsCandidateSha256 vmCandidateSha256 intentSha256 : String)
  | promote
  | rollback
  | discard
  | drop
deriving DecidableEq

/-- What a call runs; the answer is the state it reports, if any. -/
def StoreCall.run (projection : CredentialProjectionKind) :
    StoreCall → StoreProc (Option LocalCredentialState)
  | .stage bundle => some <$> stageCandidate projection bundle
  | .stageDelivery delivery => some <$> stageDeliveryCandidate projection delivery
  | .promoteInitialPaired generation slot intent =>
    some <$> promoteInitialPairedCandidate projection generation slot intent
  | .recoverInitialPaired generation slot original recovery candidate =>
    some <$> recoverInitialPairedCandidate projection generation slot original recovery candidate
  | .promoteExistingJoin generation slot candidate sourceGeneration sourceSlot source
      windowsCandidate intent =>
    some <$> promoteExistingActiveJoin projection generation slot candidate sourceGeneration
      sourceSlot source
      windowsCandidate intent
  | .prepareWindowsJoin source candidate vm begin => do
      prepareWindowsExistingJoin projection source candidate vm begin
      pure none
  | .promoteWindowsJoin generation slot active candidate vm intent =>
    some <$> promoteWindowsExistingJoin projection generation slot active candidate vm intent
  | .promote => some <$> promoteCandidate projection
  | .rollback => some <$> rollbackPrevious projection
  | .discard => discardCandidate projection
  | .drop => dropPrevious projection

/-- A power failure. A bundle directory whose entry is lost is lost with all its files. -/
def storeCrash (w w' : StoreWorld) : Prop :=
  (rootOf w).Crash (rootOf w') ∧
    if (rootOf w').get bundlesDir = none then bundlesOf w' = Dir.empty
        else (bundlesOf w).Crash (bundlesOf w')

/-- What cuts a call off: the process is killed, and its files stay as they are, synced or not; or the power
fails. -/
inductive storeCut (w : StoreWorld) : StoreWorld → Prop
  | killed : storeCut w w
  | powerFailed {w' : StoreWorld} : storeCrash w w' → storeCut w w'

/-- The store of one projection: calls take turns, and a power failure may cut any of them after any step. A
    kill after which all files reach the medium is the failure that loses nothing. -/
@[reducible] def storeSystem (projection : CredentialProjectionKind) :
    System (fsSig StoreDir noOwn) StoreWorld where
  Call := StoreCall
  Res := Option LocalCredentialState
  prog := StoreCall.run projection
  sem := storeSem
  crash := storeCrash

/-- The same store where the call after a kill may find files that have not reached the medium. -/
@[reducible] def killableSystem (projection : CredentialProjectionKind) :
    System (fsSig StoreDir noOwn) StoreWorld where
  Call := StoreCall
  Res := Option LocalCredentialState
  prog := StoreCall.run projection
  sem := storeSem
  crash := storeCut

/-- The store before its first use: the root is empty. -/
def emptyStore : StoreWorld := ⟨fun _ => Dir.empty, ()⟩

/-- The store before its first use, where its bundle directory has been made and its entry synced. -/
def provisionedStore : StoreWorld := emptyStore.setDir .root (Dir.empty.install bundlesDir [])

/-- The state the state file holds. -/
def stored (w : StoreWorld) : Option LocalCredentialState :=
  ((rootOf w).read stateFile).bind LocalCredentialState.codec.decode

@[simp] theorem stored_provisioned : stored provisionedStore = none := by
  simp [stored, Dir.read, provisionedStore, bundlesDir, stateFile, emptyStore]

end EdgePlatform.Credential
