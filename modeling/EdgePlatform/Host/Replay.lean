import EdgePlatform.Host.Journal

/-!
# `EdgePlatform.Host.Replay` — running the journal against an owner that answers by rule

The journal procedures are executable: `replay` runs any number of their operations on a concrete directory,
with the owner's answers given by an `Owner`. A replay is an execution of the model (`replay_steps`), so what
it computes is a fact about the model's runs. `powerCycle` is the crash after which everything written is
still there.

The second half is one registered Windows host with its artifacts, as protobuf bytes and Ed25519 signatures,
for the concrete runs of the modules below.
-/

namespace EdgePlatform.Host

open Foundation Foundation.Wire

/-! ## Replays -/

/-- An owner by its answers. An observation may depend on what has happened so far; steps are allowed and
    effects report success. -/
structure Owner where
  observe : List Event → Except String FleetNativeObservation
  rootFile : String → Except String Bytes
  ownerExecutable : Except String Bytes
  adminAuthorization : Except String FleetNativeAdminAuthorization
  clock : UInt64
  spawn : Except String AdminChildOutcome

def Owner.answer (owner : Owner) (history : List Event) : (op : OwnerOp) → op.Ans
  | .observe => owner.observe history
  | .allowStep _ | .applyOnce .. => .ok ()
  | .effectElapsedSecs => 0
  | .rootFile name => owner.rootFile name
  | .ownerExecutable => owner.ownerExecutable
  | .adminAuthorization _ => owner.adminAuthorization
  | .clock => .ok owner.clock
  | .spawn _ => owner.spawn

/-- Run at most `n` operations of `p`: what is left of `p`, and the world. -/
def replay {α : Type} (owner : Owner) (n : Nat) (p : JournalProc α) (w : JournalWorld) :
    JournalProc α × JournalWorld :=
  Proc.runFor (fsHandle fun op w =>
    (owner.answer w.env op, w.env ++ op.events (dirOf w) (owner.answer w.env op)))
    n p w

theorem replay_steps {α : Type} (owner : Owner) (n : Nat) (p : JournalProc α) (w : JournalWorld) :
    p.Steps journalSem w (replay owner n p w).1 (replay owner n p w).2 :=
  Proc.runFor_steps (fsHandle_sem fun _ _ => rfl) n p w

/-- Nothing is left to do. -/
def ended {α : Type} : JournalProc α → Bool
  | .ret _ | .fail _ => true
  | .call .. => false

theorem replay_done {α : Type} {owner : Owner} {n : Nat} {p : JournalProc α} {w : JournalWorld}
    (h : ended (replay owner n p w).1 = true) : ∃ r, p.Done journalSem w r (replay owner n p w).2 := by
  have hs := replay_steps owner n p w
  cases hp : (replay owner n p w).1 with
  | ret a => exact ⟨.ok a, by rw [hp] at hs; exact hs⟩
  | fail e => exact ⟨.error e, by rw [hp] at hs; exact hs⟩
  | call op k =>
    rw [hp] at h
    cases h

/-- The error a procedure has ended with. -/
def failedWith {α : Type} : JournalProc α → Option String
  | .fail e => some e
  | .ret _ | .call .. => none

theorem replay_failed {α : Type} {owner : Owner} {n : Nat} {p : JournalProc α}
    {w : JournalWorld} {e : String} (h : failedWith (replay owner n p w).1 = some e) :
    p.Done journalSem w (.error e) (replay owner n p w).2 := by
  have hs := replay_steps owner n p w
  cases hp : (replay owner n p w).1 with
  | fail e' =>
    rw [hp] at h hs
    cases h
    exact hs
  | ret | call => rw [hp] at h; cases h

/-- The result a procedure has ended with. -/
def returned {α : Type} : JournalProc α → Option α
  | .ret a => some a
  | .fail _ | .call .. => none

theorem replay_returned {α : Type} {owner : Owner} {n : Nat} {p : JournalProc α} {w : JournalWorld} {a : α}
    (h : returned (replay owner n p w).1 = some a) : p.Done journalSem w (.ok a) (replay owner n p w).2 := by
  have hs := replay_steps owner n p w
  cases hp : (replay owner n p w).1 with
  | ret a' =>
    rw [hp] at h hs
    cases h
    exact hs
  | fail | call => rw [hp] at h; cases h

/-- The machine stops and comes up again with everything that was written. -/
def powerCycle (w : JournalWorld) : JournalWorld := { w with dirs := fun u => (w.dirs u).settle }

theorem fsCrash_powerCycle (w : JournalWorld) : fsCrash w (powerCycle w) :=
  ⟨fun _ => Dir.crash_settle _, rfl⟩

/-- The machine stops and comes up again with one entry as the directory was last synced. -/
def powerLoss (n : String) (w : JournalWorld) : JournalWorld :=
  { w with dirs := fun u => (w.dirs u).revert n }

theorem fsCrash_powerLoss (n : String) (w : JournalWorld) : fsCrash w (powerLoss n w) :=
  ⟨fun _ => Dir.crash_revert _ n, rfl⟩

/-- An empty journal without history. -/
def emptyJournal : JournalWorld := ⟨fun _ => Dir.empty, []⟩

theorem quietOn_emptyJournal (P : String → Prop) : (dirOf emptyJournal).QuietOn P :=
  fun n _ => Dir.quietAt_empty n

/-! ## A registered Windows host -/

namespace WindowsSample

/-- The last `len` bytes of a number, most significant first. -/
def bytesOf (len n : Nat) : Bytes :=
  (List.range len).map fun i => UInt8.ofNat (n / 256 ^ (len - 1 - i) % 256)

def workerKey : Bytes := bytesOf 32 0xd75a980182b10ab7d54bfed3c964073a0ee172f3daa62325af021a68f707511a

def host : FleetHost where
  machineId := "w"
  kind := toI32 FleetHostKind.windows
  owner := some (.windowsRunnerName "r")
  windowsRunnerLabel := "l"
  desiredSpecPath := "infra/hosts/specs/w.textproto"
  target := some { runState := toI32 FleetHostRunState.running, windowsMode := 0 }
  vmContainers := []
  nativeReceiptPublicKey := []
  vmFirstUseCredential := none
  workerAuthorityPublicKey := workerKey
  vmProviderSpecPath := ""

def registry : HostRegistry := { schemaVersion := 1, hosts := [host] }

def registryPb : Bytes := Layout.encode [(1, u32Value 1), (2, messageValue (some host.encodeToVec))]

/-- `windows_datapath_mode: 1`. -/
def spec : Bytes :=
  [119, 105, 110, 100, 111, 119, 115, 95, 100, 97, 116, 97, 112, 97, 116, 104, 95, 109, 111, 100,
    101, 58, 32, 49]

/-- A release set of schema 7 from the source revision `rev rev … rev`. -/
def releaseSet (rev : Char) : ReleaseSet :=
  { schemaVersion := 7, sourceRevision := String.ofList (List.replicate 40 rev), vmRuntime := none }

def releaseSetPb (rev : Char) : Bytes := [8, 7, 18, 40] ++ List.replicate 40 (UInt8.ofNat rev.toNat)

/-- The digests of the registry, of the desired state, and of the two release sets used. -/
def registryDigest : Bytes := bytesOf 32 0x885717bd55b60bf29e8737ba13cc51fd30e57d5e03bb85c16e11bb12b90a498e

def desiredDigest : Bytes := bytesOf 32 0x921f9a81afb0b87bfc5426a76c826e2870ed8f0943461427df1fa9e372c20a26

def releaseDigest (rev : Char) : Bytes :=
  if rev = 'a' then bytesOf 32 0xd0065e7b0b638b5fafe0ed962ac51ffb206f8c5c255cbf214d13c87a198fb021
  else bytesOf 32 0x0dc83bd11461d00315b0f70a5a71729b843527040745a828cab4fd5d1e936d67

def intent (op : String) (action : FleetHostAction) (rev : Char) : FleetHostIntent where
  schemaVersion := 1
  machineId := "w"
  kind := toI32 FleetHostKind.windows
  resourceId := "sing-box"
  operationId := op
  action := toI32 action
  registrySha256 := registryDigest
  desiredSha256 := desiredDigest
  releaseSetSha256 := releaseDigest rev
  requestedMode := 0
  requestedAtUnix := 1000
  networkAdmission := none

/-- The signed intents: operation, action, release, and the Worker's signature of the authorization. -/
def signed : List (String × FleetHostAction × Char × Bytes) :=
  [("a", .apply, 'a', bytesOf 64
      0xa5511760bf71b89d803b67a69b20407bf0bbbe34636c7e0a69fec2f92fb37c2bcad158a822806e2f0d0b9c7498087674ca463ad000b538e6542545fdd0197e00),
    ("b", .recover, 'a', bytesOf 64
      0x9d69c26d6b4e1d6b5cb752c3148c5ffac975f939f0cb6407f18558388f59e28589c2c9a99dc3455258c9303c795557493a201c7e2e8a0d25a039212d24cf3705),
    ("a", .apply, 'b', bytesOf 64
      0xd3aeece3d39a4ed84cb16673edd8a1bf2cdfe9b51d0052cd6e70ab4e586194fdf16b6ce1f6f8e8a81b1425373026b7f013c4660619fc9a2534ea773913f4b307),
    ("b", .recover, 'b', bytesOf 64
      0x582d9308ed21f79be8475194c6fc40d73c87141e2749e56c826a0c42f0aa57a438d6fb9954f44ccf65d98f221a09f5540d0e5c7c0237921cfa8d5d0b85e01909),
    ("a", .start, 'a', bytesOf 64
      0x71c95f87da9e464e5126e38a43a40c369439585e5da1774ecbfceebdc2a6eab1ec32163b841ba510ab89717caf40f17e8a92f1edfb9161b127f5c6077e31ec0d)]

def authorization (op : String) (signature : Bytes) : FleetHostAuthorization where
  schemaVersion := 1
  keyId := "k"
  operationId := op
  issuedAtUnix := 1000
  expiresAtUnix := 1100
  ed25519Signature := signature

def signatureOf (op : String) (action : FleetHostAction) (rev : Char) : Bytes :=
  match signed.find? fun s => s.1 = op && s.2.1 = action && s.2.2.1 = rev with
  | some (_, _, _, signature) => signature
  | none => []

/-- The decoders on the bytes above, and the signature scheme on the signatures above. -/
def deps : Deps where
  ed25519Verify key message signature :=
    key = workerKey && signed.any fun s =>
      signature = s.2.2.2 &&
        message = hostAuthorizationPayload (intent s.1 s.2.1 s.2.2.1) (authorization s.1 signature)
  ed25519PublicKey _ := none
  ed25519Sign _ _ := none
  decodeRegistry b := if b = registryPb then some registry else none
  decodeReleaseSet b :=
    if b = releaseSetPb 'a' then some (releaseSet 'a')
    else if b = releaseSetPb 'b' then some (releaseSet 'b')
    else none
  releaseSetCanonical b := b = releaseSetPb 'a' || b = releaseSetPb 'b'
  decodeBundle _ := none
  bundleCanonical _ := false
  canonicalApplyBundleDigest _ := .error "bundle digest input is empty"
  parseProductionDesiredText b :=
    if b = spec then .ok { windowsDatapathMode := toI32 WindowsDatapathMode.proxyOnly }
    else .error "CONFIG_TEXT_PROTOBUF_INVALID"
  validateVmResourceReport _ _ := .error "HOST_RESOURCE_REPORT_INVALID"
  observationEncodedLen o :=
    (encodeFields (put 1 (u32Value o.schemaVersion) ++ put 2 (i32Value o.hostKind) ++
      put 3 (u64Value o.observedAtUnix) ++ put 4 (i32Value o.ownerState) ++
      put 5 (i32Value o.releaseProof) ++ put 6 (bytesValue o.observedReleaseSha256) ++
      put 7 (boolValue o.runtimeReady) ++ put 8 (boolValue o.runtimeReadyProven) ++
      o.reasonCodes.map (fun code => (9, .len (utf8 code))) ++
      put 11 (bytesValue o.windowsConfigSha256))).length

def configDigest : Bytes := List.replicate 32 9

/-- What Windows SYSTEM supplies when `rev` is installed. -/
def installed (rev : Char) : WindowsExecutionBinding where
  installedReleaseSha256 := releaseDigest rev
  expectedConfigSha256 := some configDigest

/-- What the signed artifacts of a release mean for the host. -/
def boundArtifacts (rev : Char) : BoundNativeHostArtifacts where
  registrySha256 := registryDigest
  desiredSha256 := desiredDigest
  releaseSetSha256 := releaseDigest rev
  runtimeReleaseSha256 := releaseDigest rev

/-- The execution of a signed intent while `current` is installed. -/
def call (op : String) (action : FleetHostAction) (rev current : Char) : HostCall where
  binding := some (installed current)
  intent := intent op action rev
  authorization := authorization op (signatureOf op action rev)
  registryPb := registryPb
  selectedSpecBytes := spec
  releaseSetPb := releaseSetPb rev
  vmBundlePb := none
  pinnedWorkerPublicKey := workerKey
  nativeMachineId := "w"
  nativeOwnerKind := toI32 FleetHostKind.windows
  nowUnix := 1000

/-- `rev` is installed, and the host runs and is ready, or is stopped. -/
def observation (rev : Char) (running : Bool) : FleetNativeObservation where
  schemaVersion := 1
  hostKind := toI32 FleetHostKind.windows
  observedAtUnix := 1000
  ownerState := toI32 (if running then FleetNativeOwnerState.running else .stopped)
  releaseProof := toI32 FleetNativeReleaseProof.activationRecord
  observedReleaseSha256 := releaseDigest rev
  runtimeReady := running
  runtimeReadyProven := running
  reasonCodes := []
  vmRecoveryResources := none
  windowsConfigSha256 := configDigest

/-- The owner of a host that runs `rev`, all the time or only once an effect was invoked. -/
def owner (rev : Char) (running : Bool) : Owner where
  observe history := .ok (observation rev (running || !(history.all fun
    | .applied .. => false
    | _ => true)))
  rootFile _ := .error "HOST_NATIVE_ROOT_FILE_UNAVAILABLE"
  ownerExecutable := .error "HOST_ADMIN_OWNER_UNAVAILABLE"
  adminAuthorization := .error "HOST_ADMIN_AUTHORIZATION_UNAVAILABLE"
  clock := 1000
  spawn := .error "HOST_ADMIN_PROCESS_START_UNKNOWN_NO_REPLAY"

end WindowsSample

end EdgePlatform.Host
