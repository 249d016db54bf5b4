import EdgePlatform.Host.Journal

/-!
# `EdgePlatform.Host.Admin` — signed administrative programs on a VM

The byte-exact admin contract (`host_admin.rs`: request, Worker authorization, receipt) and the root executor
(`host_admin_native.rs`) on the same journal directory as the lifecycle executions. An admin operation has
its own names there: a pending record from BEGIN to completion, a terminal receipt, and two private captures.

The child is the operation `spawn` of the owner and may answer anything. The two capture threads write to
files of their own; they are run one after the other here. File ownership and modes, the owner lock and the
delivery of the receipt on standard output are not modelled.
-/

namespace EdgePlatform.Host

open Foundation Foundation.Wire

/-! ## The request -/

namespace HostAdmin

def maxBytes : Nat := 32768

/-- Every occurrence of a repeated string field, in order. -/
def scanStrings (k : Nat) : List Field → Option (List String)
  | [] => some []
  | (n, v) :: fs =>
    if n = k then
      match v with
      | .len b => do
          let s ← ofUtf8 b
          let rest ← scanStrings k fs
          some (s :: rest)
      | _ => none
    else scanStrings k fs

end HostAdmin

def FleetNativeAdminRequest.encodeToVec (r : FleetNativeAdminRequest) : Bytes :=
  encodeFields (put 1 (u32Value r.schemaVersion) ++ put 2 (stringValue r.machineId) ++
    put 3 (u64Value r.sourceCommentId) ++ r.argv.map (fun arg => (4, .len (utf8 arg))) ++
    put 5 (bytesValue r.releaseSetSha256) ++ put 6 (u64Value r.requestedAtUnix) ++
    put 7 (bytesValue r.commentSha256) ++ put 8 (stringValue r.workingDirectory) ++
    r.environment.map (fun item => (9, .len (utf8 item))) ++ put 10 (bytesValue r.stdinBytes) ++
    put 11 (u32Value r.timeoutSeconds) ++ put 12 (boolValue r.publishOutput))

def FleetNativeAdminRequest.decode (b : Bytes) : Option FleetNativeAdminRequest := do
  let fs ← decodeFields b
  let schemaVersion ← scanU32 1 fs
  let machineId ← scanString 2 fs
  let sourceCommentId ← scanU64 3 fs
  let argv ← HostAdmin.scanStrings 4 fs
  let releaseSetSha256 ← scanBytes 5 [] fs
  let requestedAtUnix ← scanU64 6 fs
  let commentSha256 ← scanBytes 7 [] fs
  let workingDirectory ← scanString 8 fs
  let environment ← HostAdmin.scanStrings 9 fs
  let stdinBytes ← scanBytes 10 [] fs
  let timeoutSeconds ← scanU32 11 fs
  let publishOutput ← scanBool 12 fs
  some { schemaVersion, machineId, sourceCommentId, argv, releaseSetSha256, requestedAtUnix, commentSha256,
         workingDirectory, environment, stdinBytes, timeoutSeconds, publishOutput }

namespace HostAdmin

/-- The operation id of a request: the comment that asked for it. -/
def operationId (request : FleetNativeAdminRequest) : String :=
  "issue1-comment-" ++ toString request.sourceCommentId.toNat

/-- `char::is_control`. -/
def isControl (c : Char) : Bool := c.toNat < 32 || (127 ≤ c.toNat && c.toNat < 160)

/-- `str::split` at one character. -/
def splitAt (sep : Char) : List Char → List (List Char)
  | [] => [[]]
  | c :: cs =>
    if c = sep then [] :: splitAt sep cs
    else match splitAt sep cs with
      | part :: parts => (c :: part) :: parts
      | [] => [[c]]

theorem splitAt_of_not_mem {sep : Char} {part : List Char} (h : sep ∉ part) (rest : List Char) :
    splitAt sep (part ++ sep :: rest) = part :: splitAt sep rest ∧ splitAt sep part = [part] := by
  induction part with
  | nil => simp [splitAt]
  | cons c cs ih =>
    have hne : c ≠ sep := fun hc => h (by simp [hc])
    obtain ⟨hmore, hlast⟩ := ih fun hcs => h (by simp [hcs])
    rw [List.cons_append, splitAt, if_neg hne, hmore, splitAt, if_neg hne, hlast]
    exact ⟨rfl, rfl⟩

def windowsPartInvalid (part : List Char) : Bool :=
  part.isEmpty || part = ['.'] || part = ['.', '.'] || part.getLast? = some '.' || part.getLast? = some ' '

/-- Address validation only; never an allowlist of executables. -/
def windowsAbsolutePath (path : String) : Bool :=
  match path.toList with
  | drive :: ':' :: '\\' :: rest =>
    drive.isAlpha &&
      !path.toList.any (fun c => c = '/' || c = '*' || c = '?' || c = '\x22' || isControl c || c = '<' ||
        c = '>' || c = '|') &&
      !rest.contains ':' && (rest.isEmpty || !(splitAt '\\' rest).any windowsPartInvalid)
  | _ => false

/-- The entry is not `KEY=value` with a plain key. -/
def environmentItemInvalid (item : String) : Bool :=
  let key := item.toList.takeWhile (· ≠ '=')
  (utf8 item).length > 8192 || item.toList.contains '\x00' || !item.toList.contains '=' || key.isEmpty ||
    !key.all (fun c => c.isAlphanum || c = '_')

def argumentInvalid (arg : String) : Bool :=
  arg.isEmpty || (utf8 arg).length > 8192 || arg.toList.contains '\x00'

/-- The fields of a request are within their bounds. -/
def validate (request : FleetNativeAdminRequest) : Except String Unit :=
  rejectIf (request.schemaVersion ≠ 1 ∨ request.machineId = "" ∨ (utf8 request.machineId).length > 64 ∨
    ¬ (utf8 request.machineId).all isTokenByte ∨ request.sourceCommentId = 0 ∨
    request.releaseSetSha256.length ≠ 32 ∨ request.commentSha256.length ≠ 32 ∨ request.requestedAtUnix = 0 ∨
    request.argv = [] ∨ request.argv.length > 128 ∨ request.argv.any argumentInvalid ∨
    (utf8 request.workingDirectory).length > 2048 ∨ request.workingDirectory.toList.contains '\x00' ∨
    (request.workingDirectory ≠ "" ∧ ¬ startsWith request.workingDirectory "/" ∧
      ¬ windowsAbsolutePath request.workingDirectory) ∨
    request.environment.length > 128 ∨ request.environment.any environmentItemInvalid ∨
    request.timeoutSeconds = 0 ∨ request.timeoutSeconds > 3600 ∨ request.encodeToVec.length > maxBytes)
    "HOST_ADMIN_REQUEST_INVALID"

/-- The number of UTF-16 units of a text. -/
def utf16Count (s : String) : Nat := (s.toList.map fun c => if c.toNat < 65536 then 1 else 2).sum

/-- The units CRT quoting adds for backslashes and quotes; `slashes` counts the backslashes just read. -/
def quotingUnits : Nat → List Char → Nat
  | slashes, [] => slashes
  | slashes, c :: cs =>
    if c = '\\' then quotingUnits (slashes + 1) cs
    else (if c = '\x22' then slashes + 1 else 0) + quotingUnits 0 cs

/-- The length of the command line, its separators and terminator included. -/
def commandUnits (argv : List String) : Nat :=
  (argv.map fun s => 2 + utf16Count s + quotingUnits 0 s.toList).sum + argv.length

/-- And its paths are absolute on the platform of the host. -/
def validateForKind (request : FleetNativeAdminRequest) (kind : FleetHostKind) : Except String Unit := do
  validate request
  let cwd := request.workingDirectory
  let valid ← match kind with
    | .windows => do
        rejectIf (commandUnits request.argv > 32767) "HOST_ADMIN_WINDOWS_COMMAND_LINE_TOO_LONG"
        pure (windowsAbsolutePath (request.argv.headD "") && (cwd = "" || windowsAbsolutePath cwd))
    | .vm => pure (cwd = "" || startsWith cwd "/")
    | .unspecified => pure false
  rejectIf (valid = false) "HOST_ADMIN_PLATFORM_PATH_INVALID"

/-- Only the canonical bytes of a valid request are read. -/
def decode (bytes : Bytes) : Except String FleetNativeAdminRequest := do
  rejectIf (bytes = [] ∨ bytes.length > maxBytes) "HOST_ADMIN_SIZE_INVALID"
  let request ← okOr (FleetNativeAdminRequest.decode bytes) "HOST_ADMIN_PROTOBUF_INVALID"
  rejectIf (request.encodeToVec ≠ bytes) "HOST_ADMIN_PROTOBUF_NONCANONICAL"
  validate request
  pure request

/-! ## The Worker's authorization -/

/-- What the Worker signs: the request and its authorization. -/
def authorizationPayload (request : FleetNativeAdminRequest)
    (auth : FleetNativeAdminAuthorization) : Bytes :=
  utf8 "sing-box/native-admin-authorization/v1:" ++ be32Len request.encodeToVec ++ request.encodeToVec ++
    be32Len (utf8 auth.keyId) ++ utf8 auth.keyId ++
    be32Len (utf8 (operationId request)) ++ utf8 (operationId request) ++
    be64 auth.issuedAtUnix ++ be64 auth.expiresAtUnix

/-- Signed for this request, and not expired. -/
def verifyAuthorization (D : Deps) (request : FleetNativeAdminRequest) (auth : FleetNativeAdminAuthorization)
    (workerPublicKey : Bytes) (now : UInt64) : Except String Unit := do
  validate request
  rejectIf (auth.schemaVersion ≠ 1 ∨ auth.operationId ≠ operationId request ∨ auth.keyId = "" ∨
    (utf8 auth.keyId).length > 128 ∨ ¬ (utf8 auth.keyId).all (fun b => isTokenByte b || b = 58) ∨
    workerPublicKey.length ≠ 32 ∨ auth.ed25519Signature.length ≠ 64 ∨
    auth.expiresAtUnix ≤ auth.issuedAtUnix ∨ auth.expiresAtUnix - auth.issuedAtUnix > 180 ∨
    saturatingAdd now 60 < auth.issuedAtUnix ∨ now > auth.expiresAtUnix)
    "HOST_ADMIN_AUTHORIZATION_EXPIRED_OR_INVALID"
  rejectIf (¬ D.ed25519Verify workerPublicKey (authorizationPayload request auth) auth.ed25519Signature)
    "HOST_ADMIN_SIGNATURE_REJECTED"

/-! ## The receipt -/

def previewLimit : Nat := 64 * 1024
def captureLimit : Nat := 16 * 1024 * 1024

end HostAdmin

def FleetNativeAdminAuthorization.layout (a : FleetNativeAdminAuthorization) : Layout :=
  [(1, u32Value a.schemaVersion), (2, stringValue a.keyId), (3, stringValue a.operationId),
    (4, u64Value a.issuedAtUnix), (5, u64Value a.expiresAtUnix), (6, bytesValue a.ed25519Signature)]

def FleetNativeAdminAuthorization.encodeToVec (a : FleetNativeAdminAuthorization) : Bytes := a.layout.encode

def FleetNativeAdminResult.layout (r : FleetNativeAdminResult) : Layout :=
  [(1, u32Value r.schemaVersion), (2, stringValue r.machineId), (3, stringValue r.operationId),
    (4, bytesValue r.requestSha256), (5, u64Value r.observedAtUnix), (6, i32Value r.exitCode),
    (7, bytesValue r.stdoutSha256), (8, bytesValue r.stderrSha256), (9, boolValue r.processExited),
    (10, bytesValue r.rootSignature), (11, bytesValue r.stdoutPreview), (12, bytesValue r.stderrPreview),
    (13, u64Value r.stdoutTotalBytes), (14, u64Value r.stderrTotalBytes), (15, boolValue r.stdoutTruncated),
    (16, boolValue r.stderrTruncated), (17, stringValue r.stdoutCapturePath),
    (18, stringValue r.stderrCapturePath), (19, u64Value r.stdoutCaptureBytes),
    (20, u64Value r.stderrCaptureBytes), (21, boolValue r.stdoutCaptureComplete),
    (22, boolValue r.stderrCaptureComplete), (23, boolValue r.stdoutStreamEof),
    (24, boolValue r.stderrStreamEof), (25, u64Value r.stdinBytesWritten),
    (26, boolValue r.stdinInputComplete), (27, boolValue r.rejectedBeforeBegin),
    (28, stringValue r.rejectionCode),
    (29, messageValue (r.workerAuthorization.map FleetNativeAdminAuthorization.encodeToVec))]

def FleetNativeAdminResult.encodeToVec (r : FleetNativeAdminResult) : Bytes := r.layout.encode

namespace HostAdmin

/-- Too old to be begun. -/
def expiredBeforeBegin (request : FleetNativeAdminRequest) (now : UInt64) : Bool :=
  now > saturatingAdd request.requestedAtUnix 300

/-- A code that a rejection may name. -/
def rejectionCodeValid (code : String) : Bool :=
  startsWith code "HOST_" && (utf8 code).length ≤ 128 &&
    (utf8 code).all fun b => isAsciiUppercase b || isAsciiDigit b || b = 95

/-- A signed denial claims no process and no stream. -/
def rejectionValid (request : FleetNativeAdminRequest) (r : FleetNativeAdminResult) : Bool :=
  rejectionCodeValid r.rejectionCode && r.workerAuthorization.isNone &&
    (r.rejectionCode ≠ "HOST_ADMIN_REQUEST_EXPIRED_BEFORE_BEGIN" ||
      expiredBeforeBegin request r.observedAtUnix) &&
    !r.processExited && r.exitCode = 0 && r.stdoutSha256 = sha256 [] && r.stderrSha256 = sha256 [] &&
    r.stdoutPreview.isEmpty && r.stderrPreview.isEmpty && r.stdoutTotalBytes = 0 && r.stderrTotalBytes = 0 &&
    r.stdoutCapturePath = "" && r.stderrCapturePath = "" && r.stdoutCaptureBytes = 0 &&
    r.stderrCaptureBytes = 0 && !r.stdoutCaptureComplete && !r.stderrCaptureComplete && !r.stdoutStreamEof &&
    !r.stderrStreamEof && r.stdinBytesWritten = 0 && !r.stdinInputComplete && !r.stdoutTruncated &&
    !r.stderrTruncated

/-- The fields of a receipt about its streams agree with each other and with the request. -/
def previewValid (request : FleetNativeAdminRequest) (r : FleetNativeAdminResult) : Bool :=
  if r.rejectedBeforeBegin then rejectionValid request r
  else if r.rejectionCode ≠ "" then false
  else
    let a := r.stdoutPreview.length
    let b := r.stderrPreview.length
    a ≤ previewLimit && b ≤ previewLimit && endsWith r.stdoutCapturePath ".stdout.bin" &&
      endsWith r.stderrCapturePath ".stderr.bin" && (utf8 r.stdoutCapturePath).length ≤ 512 &&
      (utf8 r.stderrCapturePath).length ≤ 512 &&
      r.stdoutCaptureBytes.toNat = min r.stdoutTotalBytes.toNat captureLimit &&
      r.stderrCaptureBytes.toNat = min r.stderrTotalBytes.toNat captureLimit &&
      r.stdoutCaptureComplete = (r.stdoutCaptureBytes = r.stdoutTotalBytes) &&
      r.stderrCaptureComplete = (r.stderrCaptureBytes = r.stderrTotalBytes) &&
      r.stdinBytesWritten.toNat ≤ request.stdinBytes.length &&
      r.stdinInputComplete = (r.stdinBytesWritten.toNat = request.stdinBytes.length) &&
      (request.publishOutput || (a = 0 && b = 0)) && a ≤ r.stdoutTotalBytes.toNat &&
      b ≤ r.stderrTotalBytes.toNat && r.stdoutTruncated = (r.stdoutTotalBytes.toNat > previewLimit) &&
      r.stderrTruncated = (r.stderrTotalBytes.toNat > previewLimit) &&
      (!request.publishOutput || (a = min r.stdoutTotalBytes.toNat previewLimit &&
        b = min r.stderrTotalBytes.toNat previewLimit))

/-- What the owner signs: the request and its receipt. -/
def receiptPayload (request : FleetNativeAdminRequest) (r : FleetNativeAdminResult) : Bytes :=
  let unsigned := { r with rootSignature := [] }
  utf8 "sing-box/native-admin-receipt/v1:" ++ be32Len request.encodeToVec ++ request.encodeToVec ++
    be32Len unsigned.encodeToVec ++ unsigned.encodeToVec

/-- A receipt of this request, signed by the owner. -/
def signReceipt (D : Deps) (request : FleetNativeAdminRequest) (receipt : FleetNativeAdminResult)
    (ownerPkcs8 : Bytes) : Except String FleetNativeAdminResult := do
  rejectIf (receipt.schemaVersion ≠ 1 ∨ receipt.machineId ≠ request.machineId ∨
    receipt.operationId ≠ operationId request ∨ receipt.requestSha256 ≠ sha256 request.encodeToVec ∨
    receipt.stdoutSha256.length ≠ 32 ∨ receipt.stderrSha256.length ≠ 32 ∨ ¬ previewValid request receipt)
    "HOST_ADMIN_RECEIPT_IDENTITY_INVALID"
  let signature ← okOr (D.ed25519Sign ownerPkcs8 (receiptPayload request receipt))
    "HOST_ADMIN_RECEIPT_SIGNER_INVALID"
  pure { receipt with rootSignature := signature }

/-! ## The journal names of an admin operation -/

/-- The records of an operation are named by the digest of its id. -/
def pendingName (operationId : String) : String := "admin-" ++ journalHex (utf8 operationId) ++ ".pending.pb"
def terminalName (operationId : String) : String :=
  "admin-" ++ journalHex (utf8 operationId) ++ ".terminal.pb"
def stdoutName (operationId : String) : String := "admin-" ++ journalHex (utf8 operationId) ++ ".stdout.bin"
def stderrName (operationId : String) : String := "admin-" ++ journalHex (utf8 operationId) ++ ".stderr.bin"

/-- Any pending record, of whichever family. -/
def isJournalPending (name : String) : Bool := endsWith name ".pending.pb"

/-- `independent_admin_operation_available`. -/
def independentAdminOperationAvailable (operationId : String) : JournalProc Unit := do
  let names ← Fs.list ()
  rejectIf (names.any isJournalPending = true) "HOST_ADMIN_PENDING_UNKNOWN_NO_REPLAY"
  let pending ← Fs.stat () (pendingName operationId)
  rejectIf (pending = true) "HOST_ADMIN_SAME_OPERATION_EXISTS_NO_REPLAY"
  let terminal ← Fs.stat () (terminalName operationId)
  rejectIf (terminal = true) "HOST_ADMIN_SAME_OPERATION_EXISTS_NO_REPLAY"
  let begun ← Fs.stat () (beginName operationId)
  rejectIf (begun = true) "HOST_ADMIN_SAME_OPERATION_EXISTS_NO_REPLAY"

/-! ## Trust -/

end HostAdmin

def FleetNativeTrustSnapshot.layout (t : FleetNativeTrustSnapshot) : Layout :=
  [(1, u32Value t.schemaVersion), (2, stringValue t.machineId), (3, bytesValue t.registryPb),
    (4, bytesValue t.releaseSetPb), (5, bytesValue t.applicationBundlePb),
    (6, bytesValue t.selectedSpecBytes), (7, bytesValue t.pinnedWorkerPublicKey)]

def FleetNativeTrustSnapshot.encodeToVec (t : FleetNativeTrustSnapshot) : Bytes := t.layout.encode

def FleetNativeTrustSnapshot.decode (b : Bytes) : Option FleetNativeTrustSnapshot := do
  let fs ← decodeFields b
  let schemaVersion ← scanU32 1 fs
  let machineId ← scanString 2 fs
  let registryPb ← scanBytes 3 [] fs
  let releaseSetPb ← scanBytes 4 [] fs
  let applicationBundlePb ← scanBytes 5 [] fs
  let selectedSpecBytes ← scanBytes 6 [] fs
  let pinnedWorkerPublicKey ← scanBytes 7 [] fs
  some { schemaVersion, machineId, registryPb, releaseSetPb, applicationBundlePb, selectedSpecBytes,
         pinnedWorkerPublicKey }

def decodeNativeTrustSnapshot (bytes : Bytes) : Except String FleetNativeTrustSnapshot := do
  rejectIf (bytes = [] ∨ bytes.length > 9 * 1024 * 1024) "HOST_NATIVE_TRUST_SNAPSHOT_SIZE_INVALID"
  let trust ← okOr (FleetNativeTrustSnapshot.decode bytes) "HOST_NATIVE_TRUST_SNAPSHOT_PROTO_INVALID"
  rejectIf (trust.schemaVersion ≠ 1 ∨ trust.encodeToVec ≠ bytes ∨ trust.machineId = "" ∨
    (utf8 trust.machineId).length > 64 ∨ ¬ (utf8 trust.machineId).all isTokenByte ∨ trust.registryPb = [] ∨
    trust.registryPb.length > 65536 ∨ trust.releaseSetPb = [] ∨ trust.releaseSetPb.length > 65536 ∨
    trust.applicationBundlePb = [] ∨ trust.applicationBundlePb.length > 8 * 1024 * 1024 ∨
    trust.selectedSpecBytes = [] ∨ trust.selectedSpecBytes.length > 65536 ∨
    trust.pinnedWorkerPublicKey.length ≠ 32 ∨ allZero trust.pinnedWorkerPublicKey)
    "HOST_NATIVE_TRUST_SNAPSHOT_NONCANONICAL"
  pure trust

/-- The registered VM of a trust snapshot. -/
def registeredVmHost (D : Deps) (bytes : Bytes) : Except String FleetHost := do
  let trust ← decodeNativeTrustSnapshot bytes
  let registry ← orError (decodeHostRegistry D trust.registryPb) "HOST_NATIVE_REGISTRY_INVALID"
  let host ← okOr (registry.owned trust.machineId (toI32 FleetHostKind.vm)) "HOST_NATIVE_VM_UNREGISTERED"
  rejectIf (host.vmContainers = []) "HOST_NATIVE_VM_RESOURCE_SCOPE_MISSING"
  pure host

/-- A VM owner takes the Worker's key from its own registry. -/
def verifyGitWorkerSignerPin (host : FleetHost) (supplied : Bytes) : Except String Unit := do
  rejectIf (host.kind ≠ toI32 FleetHostKind.vm) "HOST_GIT_WORKER_SIGNER_KEY_REQUIRED"
  verifyGitHostWorkerSignerPin host supplied

def checkNativeReceiptKey (D : Deps) (host : FleetHost) (pkcs8 : Bytes) : Except String Unit := do
  rejectIf (host.nativeReceiptPublicKey.length ≠ 32 ∨ allZero host.nativeReceiptPublicKey)
    "HOST_NATIVE_RECEIPT_GIT_PUBLIC_KEY_MISSING"
  let publicKey ← okOr (D.ed25519PublicKey pkcs8) "HOST_NATIVE_RECEIPT_SIGNER_INVALID"
  rejectIf (publicKey ≠ host.nativeReceiptPublicKey) "HOST_NATIVE_RECEIPT_PUBLIC_KEY_MISMATCH"

namespace HostAdmin

/-- What an execution has established before it asks for an authorization. -/
structure Trusted where
  pinnedWorkerPublicKey : Bytes
  receiptKey : Bytes
deriving DecidableEq

def rootFile (name : String) : JournalProc Bytes := do
  let answer ← own (.rootFile name)
  liftM answer

/-- The machine, its release, its keys and the running executable are the trusted ones. -/
def establishTrust (D : Deps) (request : FleetNativeAdminRequest) : JournalProc Trusted := do
  let bytes ← rootFile "trust.pb"
  let trust ← decodeNativeTrustSnapshot bytes
  let bytes ← rootFile "trust.pb"
  let host ← registeredVmHost D bytes
  rejectIf (request.machineId ≠ trust.machineId ∨ request.machineId ≠ host.machineId)
    "HOST_ADMIN_MACHINE_MISMATCH"
  rejectIf (sha256 trust.releaseSetPb ≠ request.releaseSetSha256) "HOST_ADMIN_RELEASE_MISMATCH"
  verifyGitWorkerSignerPin host trust.pinnedWorkerPublicKey
  let keyBytes ← rootFile "receipt-key.pk8"
  checkNativeReceiptKey D host keyBytes
  let release ← okOr (D.decodeReleaseSet trust.releaseSetPb) "HOST_ADMIN_RELEASE_PROTOBUF_INVALID"
  let runtime ← okOr release.vmRuntime "HOST_ADMIN_OWNER_RELEASE_MISSING"
  let answer ← own .ownerExecutable
  let executable ← answer
  rejectIf (sha256 executable ≠ runtime.edgeAgentSha256) "HOST_ADMIN_OWNER_SOURCE_DRIFT"
  pure { pinnedWorkerPublicKey := trust.pinnedWorkerPublicKey, receiptKey := keyBytes }

/-! ## The child -/

/-- What the receipt says of a stream. -/
structure CapturedStream where
  sha256 : Bytes
  totalBytes : UInt64
  preview : Bytes
  captureBytes : UInt64
deriving DecidableEq

/-- One pass over the reads of a pipe: everything is hashed and counted, the first bytes are kept as preview
    and spooled. The hash is taken at the end (`seen`). -/
def captureReads (spool : String) : CapturedStream → Bytes → List Bytes → JournalProc CapturedStream
  | s, seen, [] => pure { s with sha256 := Foundation.sha256 seen }
  | s, seen, buffer :: reads => do
      let save := min (captureLimit - s.captureBytes.toNat) buffer.length
      if 0 < save then Fs.append () spool (buffer.take save)
      let next : CapturedStream :=
        { s with
          totalBytes := saturatingAdd s.totalBytes (UInt64.ofNat buffer.length)
          preview := s.preview ++ buffer.take (min (previewLimit - s.preview.length) buffer.length)
          captureBytes := s.captureBytes + UInt64.ofNat save }
      captureReads spool next (seen ++ buffer) reads

/-- `capture_stream_with_file`. -/
def captureStreamWithFile (spool : String) (reads : List Bytes) : JournalProc CapturedStream := do
  let captured ← captureReads spool ⟨[], 0, [], 0⟩ [] reads
  Fs.fsync () spool
  pure captured

/-- The receipt of a finished child. -/
def receiptOf (request : FleetNativeAdminRequest) (raw : Bytes) (auth : FleetNativeAdminAuthorization)
    (observedAt : UInt64) (journal : String) (outcome : AdminChildOutcome) (out err : CapturedStream) :
    FleetNativeAdminResult where
  schemaVersion := 1
  machineId := request.machineId
  operationId := operationId request
  requestSha256 := sha256 raw
  observedAtUnix := observedAt
  exitCode := outcome.exitCode.getD (-1)
  stdoutSha256 := out.sha256
  stderrSha256 := err.sha256
  processExited := outcome.exitCode.isSome
  rootSignature := []
  stdoutPreview := if request.publishOutput then out.preview else []
  stderrPreview := if request.publishOutput then err.preview else []
  stdoutTotalBytes := out.totalBytes
  stderrTotalBytes := err.totalBytes
  stdoutTruncated := out.totalBytes.toNat > previewLimit
  stderrTruncated := err.totalBytes.toNat > previewLimit
  stdoutCapturePath := journal ++ "/" ++ stdoutName (operationId request)
  stderrCapturePath := journal ++ "/" ++ stderrName (operationId request)
  stdoutCaptureBytes := out.captureBytes
  stderrCaptureBytes := err.captureBytes
  stdoutCaptureComplete := out.captureBytes = out.totalBytes
  stderrCaptureComplete := err.captureBytes = err.totalBytes
  stdoutStreamEof := outcome.stdoutStreamEof
  stderrStreamEof := outcome.stderrStreamEof
  stdinBytesWritten := outcome.stdinBytesWritten
  stdinInputComplete := outcome.stdinBytesWritten.toNat = request.stdinBytes.length
  rejectedBeforeBegin := false
  rejectionCode := ""
  workerAuthorization := some auth

/-- The child ended and nothing of its streams is missing. -/
def completeExecution (processExited inputComplete stdoutEof stderrEof : Bool) : Bool :=
  processExited && inputComplete && stdoutEof && stderrEof

/-! ## One admin execution -/

/-- The protected journal directory. -/
def journalPath : String := "/opt/vultr-edge-stack/native-host/journal"

def clock : JournalProc UInt64 := do
  let answer ← own .clock
  liftM answer

/-- The two private captures. -/
def openCaptures (operationId : String) : JournalProc Unit := do
  let stdout ← Fs.createNew () (stdoutName operationId)
  rejectIf (stdout = false) "HOST_ADMIN_OUTPUT_CAPTURE_UNAVAILABLE_NO_REPLAY"
  let stderr ← Fs.createNew () (stderrName operationId)
  rejectIf (stderr = false) "HOST_ADMIN_OUTPUT_CAPTURE_UNAVAILABLE_NO_REPLAY"

/-- Run the child and drain both pipes. -/
def runChild (request : FleetNativeAdminRequest) :
    JournalProc (AdminChildOutcome × CapturedStream × CapturedStream) := do
  rejectIf (∃ item ∈ request.environment, ¬ item.toList.contains '=') "HOST_ADMIN_ENV_ENTRY_INVALID"
  let answer ← own (.spawn request)
  let outcome ← answer
  let out ← captureStreamWithFile (stdoutName (operationId request)) outcome.stdout
  let err ← captureStreamWithFile (stderrName (operationId request)) outcome.stderr
  pure (outcome, out, err)

/-- Record the receipt; only a complete execution gives up its pending record. -/
def recordReceipt (D : Deps) (request : FleetNativeAdminRequest) (receiptKey : Bytes)
    (unsigned : FleetNativeAdminResult) : JournalProc FleetNativeAdminResult := do
  let receipt ← signReceipt D request unsigned receiptKey
  Fs.durableCreate () (terminalName (operationId request)) receipt.encodeToVec
    "HOST_ADMIN_OPERATION_ALREADY_PRESENT_OR_IO_UNAVAILABLE_NO_REPLAY"
  if completeExecution receipt.processExited receipt.stdinInputComplete receipt.stdoutStreamEof
      receipt.stderrStreamEof then
    Fs.durableRemove () (pendingName (operationId request)) "HOST_ADMIN_PENDING_CLEAR_UNKNOWN_NO_REPLAY"
    pure receipt
  else Proc.fail "HOST_ADMIN_COMPLETION_INCOMPLETE_NO_REPLAY"

/-- From the durable admin BEGIN on. -/
def executeBegun (D : Deps) (request : FleetNativeAdminRequest) (raw : Bytes) (trusted : Trusted)
    (auth : FleetNativeAdminAuthorization) : JournalProc FleetNativeAdminResult := do
  Fs.durableCreate () (pendingName (operationId request)) raw
    "HOST_ADMIN_OPERATION_ALREADY_PRESENT_OR_IO_UNAVAILABLE_NO_REPLAY"
  openCaptures (operationId request)
  let (outcome, out, err) ← runChild request
  let observedAt ← clock
  recordReceipt D request trusted.receiptKey
    (receiptOf request raw auth observedAt journalPath outcome out err)

/-- The request is well formed, and it is a VM's. -/
def decodeForVm (raw : Bytes) : Except String FleetNativeAdminRequest := do
  let request ← decode raw
  validateForKind request .vm
  pure request

/-- `host_admin_native::execute`. -/
def execute (D : Deps) (raw : Bytes) : JournalProc FleetNativeAdminResult := do
  let request ← decodeForVm raw
  independentAdminOperationAvailable (operationId request)
  let trusted ← establishTrust D request
  let answer ← own (.adminAuthorization raw)
  let auth ← answer
  let now ← clock
  verifyAuthorization D request auth trusted.pinnedWorkerPublicKey now
  -- A signature cannot turn an unknown mutation of the meantime into a safe replay.
  independentAdminOperationAvailable (operationId request)
  let recorded ← Fs.stat () (terminalName (operationId request))
  rejectIf (recorded = true) "HOST_ADMIN_TERMINAL_ALREADY_EXISTS_NO_REPLAY"
  executeBegun D request raw trusted auth

end HostAdmin

end EdgePlatform.Host
