import EdgePlatform.Host.AdminProtocol
import EdgePlatform.Host.Runs

/-!
# `EdgePlatform.Host.Families` — lifecycle and admin executions on one journal

Both families take their operation ids from the same comments and take turns on one journal directory. Each
looks for its own records before it begins; an admin execution also looks for a lifecycle BEGIN, while a
lifecycle execution looks for pending admin records only. So an operation id stays with one family as long as
no lifecycle execution starts with the id of a recorded admin operation, and the completed admin operation of
the last section is one that a signed lifecycle intent then reuses.
-/

namespace EdgePlatform.Host

open Foundation Foundation.Wire

/-! ## The system -/

inductive OwnerCall
  | lifecycle (c : HostCall)
  | admin (raw : Bytes)

inductive OwnerResult
  | lifecycle (result : FleetHostResult)
  | admin (receipt : FleetNativeAdminResult)

/-- One execution under the owner lock. -/
def executeOwner (D : Deps) : OwnerCall → JournalProc OwnerResult
  | .lifecycle c => do
      let result ← executeAfterProtectedOwnerCheckOnce D c
      pure (.lifecycle result)
  | .admin raw => do
      let receipt ← HostAdmin.execute D raw
      pure (.admin receipt)

/-- Executions of both families that take turns on one journal. -/
abbrev ownerSystem (D : Deps) : System (fsSig Unit ownerSig) JournalWorld where
  Call := OwnerCall
  Res := OwnerResult
  prog := executeOwner D
  sem := journalSem
  crash := fsCut

/-- The programs a lifecycle call has seen started were started before it. -/
def SpawnedBefore (start w : JournalWorld) : Prop :=
  ∀ request d, Event.spawned request d ∈ w.env → Event.spawned request d ∈ start.env

/-- What a call of either family may do. -/
def OwnerPermitted (D : Deps) : OwnerCall → JournalWorld → (fsSig Unit ownerSig).Op → JournalWorld → Prop
  | .lifecycle c, start, op, w => Permitted D c start op w ∧ SpawnedBefore start w
  | .admin _, _, op, w => ∃ request, HostAdmin.AdminPermitted request op w

variable {c : HostCall}

/-- A lifecycle step starts no program. -/
theorem StepEffect.spawned_mem {D : Deps} {start w w' : JournalWorld}
    {request : FleetNativeAdminRequest} {d : Dir} (hs : StepEffect D c start w w')
    (hm : Event.spawned request d ∈ w'.env) : Event.spawned request d ∈ w.env := by
  cases hs with
  | look _ _ hlooked =>
    generalize w'.env = later at hlooked hm
    cases hlooked with
    | silent => exact hm
    | observed answer => simpa using hm
  | write _ _ _ _ henv | release _ _ _ henv => exact henv ▸ hm
  | effect _ _ henv =>
    rw [henv, List.mem_append, List.mem_singleton] at hm
    rcases hm with hm | hm
    · exact hm
    · cases hm

theorem safe_executeOwner (D : Deps) (call : OwnerCall) (start : JournalWorld) :
    Proc.Safe journalSem (OwnerPermitted D call start) (executeOwner D call) (fun _ _ => True) start := by
  cases call with
  | lifecycle c =>
    have hsafe := (safe_execute D c start).with_invariant (I := SpawnedBefore start)
      (fun _ _ _ _ hp h hs request d hm => h request d ((hp.stepEffect hs).spawned_mem hm)) fun _ _ hm => hm
    exact hsafe.bind (fun _ _ _ => trivial) fun _ _ _ => trivial
  | admin raw => exact (HostAdmin.safe_execute D raw start).bind (fun _ _ _ => trivial) fun _ _ _ => trivial

/-- The operations whose programs were started, in order. -/
def spawnedIds (history : List Event) : List String :=
  history.filterMap fun
    | .spawned request _ => some (HostAdmin.operationId request)
    | _ => none

/-! ## An operation id stays with one family -/

/-- Every program that was started still has a record of its own, and its operation has no BEGIN. -/
structure FamiliesApart (w : JournalWorld) : Prop where
  recorded : ∀ request d, Event.spawned request d ∈ w.env →
    (dirOf w).Present (HostAdmin.pendingName (HostAdmin.operationId request)) ∨
      (dirOf w).Present (HostAdmin.terminalName (HostAdmin.operationId request))
  unbegun : ∀ request d, Event.spawned request d ∈ w.env →
    (dirOf w).Absent (beginName (HostAdmin.operationId request))

/-- No lifecycle execution starts with the operation id of a recorded admin operation. -/
def UnusedByAdmin : OwnerCall → JournalWorld → Prop
  | .lifecycle c, start => (dirOf start).get (HostAdmin.terminalName c.intent.operationId) = none
  | .admin _, _ => True

section Step

variable {D : Deps} {start w w' : JournalWorld}

/-- A lifecycle execution that records a BEGIN found neither record of an admin operation of that name. -/
theorem Cleared.not_recorded {op : String} (hclear : Cleared c (dirOf start))
    (hunused : UnusedByAdmin (.lifecycle c) start) (hname : beginName op = beginName c.intent.operationId) :
    ¬ ((dirOf start).Present (HostAdmin.pendingName op) ∨
      (dirOf start).Present (HostAdmin.terminalName op)) := by
  have hhex := beginName_inj hname
  rintro (hpending | hterminal)
  · exact hpending.get_ne (hclear.alone _ (HostAdmin.isPendingName_pendingName op)
      (HostAdmin.pendingName_ne_gate op c.intent))
  · rw [HostAdmin.terminalName_congr hhex] at hterminal
    exact hterminal.get_ne hunused

theorem FamiliesApart.lifecycle_step (hunused : UnusedByAdmin (.lifecycle c) start)
    (hstart : FamiliesApart start) (h : FamiliesApart w) (hbefore : SpawnedBefore start w)
    (hs : StepEffect D c start w w') : FamiliesApart w' := by
  constructor
  · intro request d hm
    rcases h.recorded request d (hs.spawned_mem hm) with hp | ht
    · exact .inl (hs.present (HostAdmin.pendingName_ne_gate _) hp)
    · exact .inr (hs.present (HostAdmin.terminalName_ne_gate _) ht)
  · intro request d hm
    by_contra hbegun
    have hm' := hs.spawned_mem hm
    rcases hs.begin_new hbegun with hwas | ⟨hname, hclear, -⟩
    · exact hwas (h.unbegun request d hm')
    · exact hclear.not_recorded hunused hname (hstart.recorded request d (hbefore request d hm'))

theorem FamiliesApart.admin_step {request : FleetNativeAdminRequest} (h : FamiliesApart w)
    (hs : HostAdmin.AdminStep request w w') : FamiliesApart w' := by
  have hpending : ∀ op, (dirOf w).Present (HostAdmin.pendingName op) →
      (dirOf w').Present (HostAdmin.pendingName op) ∨ (dirOf w').Present (HostAdmin.terminalName op) := by
    intro op hp
    cases hs with
    | look hnarrow _ => exact .inl (hnarrow.present hp)
    | @write m hown hagree hnone _ =>
      by_cases hm : HostAdmin.pendingName op = m
      · subst hm
        exact .inl fun hv => hp (hnone hv)
      · exact .inl (hagree.present hm hp)
    | spawn _ _ hdir _ => exact .inl (hdir ▸ hp)
    | release hterminal hagree _ =>
      by_cases hn : HostAdmin.pendingName op = HostAdmin.pendingName (HostAdmin.operationId request)
      · -- The own pending record goes only once the terminal is there.
        rw [HostAdmin.terminalName_congr (HostAdmin.pendingName_inj hn)]
        exact .inr (hagree.present (HostAdmin.pendingName_ne_terminalName _ _).symm hterminal)
      · exact .inl (hagree.present hn hp)
  have hterminal : ∀ op, (dirOf w).Present (HostAdmin.terminalName op) →
      (dirOf w').Present (HostAdmin.terminalName op) :=
    fun op ht => hs.present (HostAdmin.pendingName_ne_terminalName _ _).symm ht
  have hcases : ∀ r d, Event.spawned r d ∈ w'.env →
      Event.spawned r d ∈ w.env ∨ ((dirOf w).Present (HostAdmin.pendingName (HostAdmin.operationId r)) ∧
        (dirOf w).Absent (beginName (HostAdmin.operationId r))) := by
    intro r d hm
    cases hs with
    | look _ henv | write _ _ _ henv | release _ _ henv => exact .inl (henv ▸ hm)
    | spawn hp hb _ henv =>
      rw [henv, List.mem_append, List.mem_singleton] at hm
      rcases hm with hm | hm
      · exact .inl hm
      · cases hm
        exact .inr ⟨hp, hb⟩
  constructor
  · intro r d hm
    rcases hcases r d hm with hm | ⟨hp, -⟩
    · rcases h.recorded r d hm with hp | ht
      · exact hpending _ hp
      · exact .inr (hterminal _ ht)
    · exact hpending _ hp
  · intro r d hm
    rcases hcases r d hm with hm | ⟨-, hb⟩
    · exact hs.begin_absent (h.unbegun r d hm)
    · exact hs.begin_absent hb

theorem FamiliesApart.cut (h : FamiliesApart w) (hc : fsCut w w') : FamiliesApart w' := by
  cases hc with
  | killed => exact h
  | powerFailed hc =>
    constructor
    · intro request d hm
      rcases h.recorded request d (hc.2 ▸ hm) with hp | ht
      · exact .inl ((fsCrash_dir hc).present hp)
      · exact .inr ((fsCrash_dir hc).present ht)
    · intro request d hm
      exact (fsCrash_dir hc).absent (h.unbegun request d (hc.2 ▸ hm))

end Step

theorem familiesApart_preserved (D : Deps) :
    (ownerSystem D).Preserves UnusedByAdmin (OwnerPermitted D) FamiliesApart where
  safe call s _ _ := safe_executeOwner D call s
  step call _ _ _ _ _ hc hI hg h hs := by
    cases call with
    | lifecycle c => exact hI.lifecycle_step hc h hg.2 (hg.1.stepEffect hs)
    | admin raw =>
      obtain ⟨request, hp⟩ := hg
      exact h.admin_step (hp.adminStep hs)
  crash _ _ h hc := h.cut hc

/-- A BEGIN stays, whichever family runs. -/
theorem begin_preserved (D : Deps) (op : String) :
    (ownerSystem D).Preserves (fun _ _ => True) (OwnerPermitted D)
    (fun w => (dirOf w).Present (beginName op)) where
  safe call s _ _ := safe_executeOwner D call s
  step call _ _ _ _ _ _ _ hg h hs := by
    cases call with
    | lifecycle c => exact (hg.1.stepEffect hs).present (fun i => (gate_ne_begin i op).symm) h
    | admin raw =>
      obtain ⟨request, hp⟩ := hg
      exact (hp.adminStep hs).present (HostAdmin.pendingName_ne_begin _ _).symm h
  crash _ _ h hc := fsCut_dir (fun _ _ h hc => hc.present h) h hc

/-- No call writes the BEGIN or a terminal of an operation that it found with both. -/
theorem MayWrite.unrecorded {D : Deps} {start w : JournalWorld} {n op : String} {b : Bytes} {t : Terminal}
    (h : MayWrite D c start w n b) (hbegin : (dirOf start).get (beginName op) ≠ none)
    (hterm : (dirOf start).get (terminalName op t) ≠ none) : n ≠ beginName op ∧ n ≠ terminalName op t := by
  cases h with
  | reserve _ _ => exact ⟨gate_ne_begin _ _, gate_ne_terminal _ _ _⟩
  | record hclear _ =>
    refine ⟨fun heq => ?_, begin_ne_terminal _ _ _⟩
    exact hbegin (heq ▸ hclear.unbegun)
  | conclude hclear _ _ _ =>
    refine ⟨(begin_ne_terminal _ _ _).symm, fun heq => ?_⟩
    rw [← beginName_congr (terminalName_inj heq).1] at hbegin
    exact hbegin hclear.unbegun
  | adjudicate _ _ hfresh _ _ _ =>
    refine ⟨(begin_ne_terminal _ _ _).symm, fun heq => ?_⟩
    exact hterm (heq ▸ hfresh)

/-- The outcome of an operation is on the medium: its BEGIN and a terminal, with these bytes. -/
def Recorded (op : String) (t : Terminal) (begun ended : Bytes) (w : JournalWorld) : Prop :=
  (dirOf w).Durable (beginName op) begun ∧ (dirOf w).Durable (terminalName op t) ended

theorem recorded_preserved (D : Deps) (op : String) (t : Terminal) (begun ended : Bytes) :
    (ownerSystem D).Preserves (fun _ _ => True) (OwnerPermitted D) (Recorded op t begun ended) where
  safe call s _ _ := safe_executeOwner D call s
  step call start _ w _ w' _ hI hg h hs := by
    cases call with
    | lifecycle c =>
      have hstep := hg.1.stepEffect hs
      have hnot : ∀ n b, MayWrite D c start w n b → n ≠ beginName op ∧ n ≠ terminalName op t :=
        fun n b hmay => hmay.unrecorded hI.1.present.get_ne hI.2.present.get_ne
      exact ⟨hstep.durable (fun i => (gate_ne_begin i op).symm) (fun b hmay => (hnot _ b hmay).1 rfl) h.1,
        hstep.durable (fun i => (gate_ne_terminal i op t).symm) (fun b hmay => (hnot _ b hmay).2 rfl) h.2⟩
    | admin raw =>
      obtain ⟨request, hp⟩ := hg
      have hstep := hp.adminStep hs
      exact ⟨hstep.durable (fun _ hown => hown.ne_begin op) h.1,
        hstep.durable (fun _ hown => hown.ne_terminal op t) h.2⟩
  crash _ _ h hc := fsCut_dir (I := fun d => d.Durable _ _ ∧ d.Durable _ _)
    (fun _ _ h hc => ⟨hc.durable h.1, hc.durable h.2⟩) h hc

namespace WindowsSample

/-- The RECOVER of the interrupted APPLY as a call of the owner, by its first `n` operations. -/
def ownerRecovering (n : Nat) (w : JournalWorld) : JournalWorld :=
  (replay (owner 'a' true) n (executeOwner deps (.lifecycle (call "b" .recover 'a' 'a'))) w).2

theorem ownerRecovering_steps (n : Nat) (w : JournalWorld) : ∃ p,
    (executeOwner deps (.lifecycle (call "b" .recover 'a' 'a'))).Steps journalSem w p
    (ownerRecovering n w) :=
  ⟨_, replay_steps (owner 'a' true) n _ w⟩

/-- The power fails after `n` operations. -/
def ownerCut (n : Nat) (w : JournalWorld) : JournalWorld := powerCycle (ownerRecovering n w)

theorem ownerCut_run (n : Nat) (w : JournalWorld) : (ownerSystem deps).Run w
    [⟨.lifecycle (call "b" .recover 'a' 'a'), w, ownerCut n w⟩] (ownerCut n w) := by
  obtain ⟨p, hsteps⟩ := ownerRecovering_steps n w
  exact .snoc .nil (.cut hsteps (.powerFailed (fsCrash_powerCycle _)))

end WindowsSample

/-- **One family per operation id.** In every world visited by a run of lifecycle and admin executions, kills
    and power failures in which no lifecycle execution starts with the id of a recorded admin operation, an
    operation that was run as an admin program has no lifecycle BEGIN, and had none that was certain to stay
    at the end of any earlier turn. -/
theorem operation_id_stays_in_family (D : Deps) {s w₀ w : JournalWorld} {ts : List (ownerSystem D).Turn}
    {call : OwnerCall} {p : JournalProc OwnerResult} (hs : s.env = [])
    (hv : (ownerSystem D).Visits s ts call w₀ p w) (hts : ∀ t ∈ ts, UnusedByAdmin t.call t.before)
    (hcall : UnusedByAdmin call w₀) :
    ∀ request d, Event.spawned request d ∈ w.env →
      (dirOf w).Absent (beginName (HostAdmin.operationId request)) ∧
        ∀ t ∈ ts, ¬ (dirOf t.after).Present (beginName (HostAdmin.operationId request)) ∧
          ((dirOf t.after).QuietAt (beginName (HostAdmin.operationId request)) →
            (dirOf t.after).get (beginName (HostAdmin.operationId request)) = none) := by
  intro request d hm
  have hinit : FamiliesApart s := by
    constructor
    · intro r d hr
      rw [hs] at hr
      cases hr
    · intro r d hr
      rw [hs] at hr
      cases hr
  have habsent := ((familiesApart_preserved D).visits hinit hv hts hcall).unbegun request d hm
  refine ⟨habsent, fun t ht => ?_⟩
  -- A BEGIN that was certain at the end of that turn would still be there.
  have hnot : ¬ (dirOf t.after).Present (beginName (HostAdmin.operationId request)) := by
    intro hpresent
    obtain ⟨ts₁, ts₂, rfl, -, hrun₂⟩ := hv.run.split ht
    have hlater := (begin_preserved D _).visits hpresent ⟨hrun₂, hv.steps⟩ (fun _ _ => trivial) trivial
    exact hlater.get_ne habsent.get
  refine ⟨hnot, fun hquiet => ?_⟩
  by_contra hbegun
  obtain ⟨f, hf⟩ := Option.ne_none_iff_exists'.mp hbegun
  exact hnot (hquiet.present hf)

/-! ## A registered VM -/

namespace VmSample

open WindowsSample (bytesOf workerKey)

def receiptPublicKey : Bytes := bytesOf 32 0x3d4017c3e843895a92b70aa74d1b7ebc9c982ccf2ec4968cc0cd55f12af4660c

/-- The owner's receipt key pair, as PKCS#8. -/
def receiptKey : Bytes :=
  bytesOf 16 0x3053020101300506032b657004220420 ++
    bytesOf 32 0x4ccd089b28ff96da9db6c346ec114e0f5b8a319f35aba624da8cf6ed4fb8a6fb ++
    bytesOf 5 0xa123032100 ++ receiptPublicKey

def host : FleetHost where
  machineId := "v"
  kind := toI32 FleetHostKind.vm
  owner := some (.vmMachineId "v")
  windowsRunnerLabel := ""
  desiredSpecPath := "infra/hosts/specs/v.textproto"
  target := some { runState := toI32 FleetHostRunState.running, windowsMode := 0 }
  vmContainers := [⟨"c", "p", "s"⟩]
  nativeReceiptPublicKey := receiptPublicKey
  vmFirstUseCredential := none
  workerAuthorityPublicKey := workerKey
  vmProviderSpecPath := ""

def registry : HostRegistry := { schemaVersion := 1, hosts := [host] }

def registryPb : Bytes := Layout.encode [(1, u32Value 1), (2, messageValue (some host.encodeToVec))]

def spec : Bytes := [120]

/-- The installed owner executable. -/
def executable : Bytes := [127, 69, 76, 70]

/-- The logical digest of the bundle below. -/
def bundleDigest : String := "f70d03274e5ae73b49681b276a70f9afcbc0002b0e135bbede6c8c9326d391f0"

def bundle : ApplyBundleRequest where
  stackFiles := [⟨"compose.yaml", utf8 "services:\n", false, false⟩]
  hostFiles := []
  deploymentSummary := none
  agentEnvFile := none
  pruneExisting := true
  bundleId := some "b1"
  bundleDigest := some bundleDigest

def bundlePb : Bytes :=
  Layout.encode [(1, messageValue (some (Layout.encode [(1, stringValue "compose.yaml"),
    (2, stringValue "services:\n")]))), (5, boolValue true), (6, stringValue "b1"),
    (7, stringValue bundleDigest)]

def runtime : VmRuntime where
  edgeAgentSha256 := bytesOf 32 0x3bdbb4fe8397cd2b842430b39ccff01a8663c751945ef5e9a09e267fb8b1d359
  applicationBundleSha256 := bytesOf 32 0x3075a2e4e1e006359983c48433181f52eda7200541e5dfbced6da20175751847

def releaseSet : ReleaseSet :=
  { schemaVersion := 7, sourceRevision := String.ofList (List.replicate 40 'a'), vmRuntime := some runtime }

def releaseSetPb : Bytes :=
  Layout.encode [(1, u32Value 7), (2, bytesValue (List.replicate 40 97)), (5, messageValue (some
    (Layout.encode [(1, bytesValue runtime.edgeAgentSha256),
      (11, bytesValue runtime.applicationBundleSha256)])))]

/-- The digests of the registry, of the desired state and of the release set. -/
def registryDigest : Bytes := bytesOf 32 0xbd734b74470e305a2beaa02dc95d4a43f8a8ddcab36d7996f92f596d6ee338b6

def desiredDigest : Bytes := bytesOf 32 0xb8cd2453bee5a4d97d7aaf37582f95fd9e550b05b835301531e9b55c3860c246

def releaseDigest : Bytes := bytesOf 32 0xa238b2a99eb0ab9b779ecc1bd59d39f07aaba773a32aaa1a0f263575d90d74a7

def trust : FleetNativeTrustSnapshot where
  schemaVersion := 1
  machineId := "v"
  registryPb := registryPb
  releaseSetPb := releaseSetPb
  applicationBundlePb := bundlePb
  selectedSpecBytes := spec
  pinnedWorkerPublicKey := workerKey

/-! The signed lifecycle intents: APPLY of what is installed, under two operation ids. -/

def intent (op : String) : FleetHostIntent where
  schemaVersion := 1
  machineId := "v"
  kind := toI32 FleetHostKind.vm
  resourceId := "sing-box"
  operationId := op
  action := toI32 FleetHostAction.apply
  registrySha256 := registryDigest
  desiredSha256 := desiredDigest
  releaseSetSha256 := releaseDigest
  requestedMode := 0
  requestedAtUnix := 1000
  networkAdmission := none

def signatureOf (op : String) : Bytes :=
  if op = "issue1-comment-1" then bytesOf 64
    0xdd6b22e3d144760076be30a332ec049a414f920df8399ea0a2625fc71eefd66295b1f7f628eeccfc1cfe0d8580be8b88631f603c8ad0f8ddaffda8179bf9b40d
  else bytesOf 64
    0x68e67711428baa1f0f9397e57b6fdb38b3197fa94ff068aaa5c2ac0793ac1e115cb92375d2c4fdc92d579029529fb835afb02f9bf97421baa9ea78d536aa1603

def authorization (op : String) : FleetHostAuthorization where
  schemaVersion := 1
  keyId := "k"
  operationId := op
  issuedAtUnix := 1000
  expiresAtUnix := 1100
  ed25519Signature := signatureOf op

/-! The admin request of the first comment: run `true`. -/

def request : FleetNativeAdminRequest where
  schemaVersion := 1
  machineId := "v"
  sourceCommentId := 1
  argv := ["true"]
  releaseSetSha256 := releaseDigest
  requestedAtUnix := 1000
  commentSha256 := bytesOf 32 0xc44bb2fd516909dab78ae0bfedcd5672b131b996c4b7a4328ee55fba170da776
  workingDirectory := ""
  environment := []
  stdinBytes := []
  timeoutSeconds := 60
  publishOutput := false

def adminAuthorization : FleetNativeAdminAuthorization where
  schemaVersion := 1
  keyId := "k"
  operationId := "issue1-comment-1"
  issuedAtUnix := 1000
  expiresAtUnix := 1100
  ed25519Signature := bytesOf 64
    0x645ab83d4cc7b83146b4d1a77ca41feb367e0cec31a51e48ce502663a4f2d3b8613b7667cd6247f3c71791c07acd648dbe2b37c38444019808233a4e6c81150e

/-- The program exits with success and without output. -/
def outcome : AdminChildOutcome where
  exitCode := some 0
  stdout := []
  stderr := []
  stdoutStreamEof := true
  stderrStreamEof := true
  stdinBytesWritten := 0

/-- The receipt of that program before it is signed. -/
def receipt : FleetNativeAdminResult :=
  HostAdmin.receiptOf request request.encodeToVec adminAuthorization 1000 HostAdmin.journalPath outcome
    ⟨sha256 [], 0, [], 0⟩ ⟨sha256 [], 0, [], 0⟩

/-- The decoders on the bytes above, and the signature scheme on the messages signed here. -/
def deps : Deps where
  ed25519Verify key message signature :=
    key = workerKey &&
      ((["issue1-comment-1", "issue1-comment-2"].any fun op =>
          signature = signatureOf op && message = hostAuthorizationPayload (intent op) (authorization op)) ||
        (signature = adminAuthorization.ed25519Signature &&
          message = HostAdmin.authorizationPayload request adminAuthorization))
  ed25519PublicKey pkcs8 := if pkcs8 = receiptKey then some receiptPublicKey else none
  ed25519Sign pkcs8 message :=
    if pkcs8 = receiptKey ∧ message = HostAdmin.receiptPayload request receipt then some (bytesOf 64
      0xf316ae4195cadd556c0e9f73538ffa795383b49bdb16992d615a0eb999ba6d1bd8bc3e5cc15e61dd9f3f6a9251ddc0b002b8a333361568d64b025db0af9b040e)
    else none
  decodeRegistry b := if b = registryPb then some registry else none
  decodeReleaseSet b := if b = releaseSetPb then some releaseSet else none
  releaseSetCanonical b := b = releaseSetPb
  decodeBundle b := if b = bundlePb then some bundle else none
  bundleCanonical b := b = bundlePb
  canonicalApplyBundleDigest b := if b = bundle then .ok bundleDigest
    else .error "bundle digest input is empty"
  parseProductionDesiredText _ := .error "CONFIG_TEXT_PROTOBUF_INVALID"
  validateVmResourceReport _ _ := .error "HOST_RESOURCE_REPORT_INVALID"
  observationEncodedLen := WindowsSample.deps.observationEncodedLen

def call (op : String) : HostCall where
  binding := none
  intent := intent op
  authorization := authorization op
  registryPb := registryPb
  selectedSpecBytes := spec
  releaseSetPb := releaseSetPb
  vmBundlePb := some bundlePb
  pinnedWorkerPublicKey := workerKey
  nativeMachineId := "v"
  nativeOwnerKind := toI32 FleetHostKind.vm
  nowUnix := 1000

/-- The VM runs the bundle and is ready. -/
def observation : FleetNativeObservation where
  schemaVersion := 1
  hostKind := toI32 FleetHostKind.vm
  observedAtUnix := 1000
  ownerState := toI32 FleetNativeOwnerState.running
  releaseProof := toI32 FleetNativeReleaseProof.applicationBundle
  observedReleaseSha256 := bytesOf 32 0xf70d03274e5ae73b49681b276a70f9afcbc0002b0e135bbede6c8c9326d391f0
  runtimeReady := true
  runtimeReadyProven := true
  reasonCodes := []
  vmRecoveryResources := none
  windowsConfigSha256 := []

def owner : Owner where
  observe _ := .ok observation
  rootFile name :=
    if name = "trust.pb" then .ok trust.encodeToVec
    else if name = "receipt-key.pk8" then .ok receiptKey
    else .error "HOST_NATIVE_ROOT_FILE_UNAVAILABLE"
  ownerExecutable := .ok executable
  adminAuthorization := .ok adminAuthorization
  clock := 1000
  spawn := .ok outcome

/-- One execution of the VM's owner, to its end. -/
def replayed (call : OwnerCall) (w : JournalWorld) : JournalProc OwnerResult × JournalWorld :=
  replay owner 60 (executeOwner deps call) w

/-- The journal one execution leaves. -/
def worldAfter (call : OwnerCall) (w : JournalWorld) : JournalWorld := (replayed call w).2

theorem worldAfter_steps (call : OwnerCall) (w : JournalWorld) :
    (executeOwner deps call).Steps journalSem w (replayed call w).1 (worldAfter call w) :=
  replay_steps _ _ _ _

theorem worldAfter_outcome {call : OwnerCall} {w : JournalWorld} (h : ended (replayed call w).1 = true) :
    (ownerSystem deps).Outcome call w (worldAfter call w) := by
  obtain ⟨r, hdone⟩ := replay_done h
  exact .done hdone

/-- The journal after the admin program of the first comment. -/
def afterAdmin : JournalWorld := worldAfter (.admin request.encodeToVec) emptyJournal

/-- The journal after the lifecycle intent `op` as well. -/
def afterBoth (op : String) : JournalWorld := worldAfter (.lifecycle (call op)) afterAdmin

/-- Both executions end; the second comment's intent meets no admin record, the first comment's is
admitted. -/
theorem checked :
    (ended (replayed (.admin request.encodeToVec) emptyJournal).1 = true ∧
      (dirOf afterAdmin).get (HostAdmin.terminalName "issue1-comment-2") = none) ∧
    (spawnedIds (afterBoth "issue1-comment-2").env = ["issue1-comment-1"] ∧
      (dirOf (afterBoth "issue1-comment-2")).get (beginName "issue1-comment-2") ≠ none) ∧
    ended (replayed (.lifecycle (call "issue1-comment-1")) afterAdmin).1 = true ∧
      "issue1-comment-1" ∈ spawnedIds (afterBoth "issue1-comment-1").env ∧
      (dirOf (afterBoth "issue1-comment-1")).Durable (beginName "issue1-comment-1")
        (beginRecord (intent "issue1-comment-1") 1000).encodeToVec ∧
      ((dirOf (afterBoth "issue1-comment-1")).get (terminalName "issue1-comment-1" .observed)).isSome =
      true := by
  decide +kernel

/-- The admin program ran to its end. -/
theorem run_afterAdmin : (ownerSystem deps).Run emptyJournal
    [⟨.admin request.encodeToVec, emptyJournal, afterAdmin⟩] afterAdmin :=
  .snoc .nil (worldAfter_outcome checked.1.1)

end VmSample

open VmSample in
/-- The second comment's intent runs on the journal of the completed admin program, which keeps its id. -/
theorem operation_id_stays_second_comment :
    spawnedIds (afterBoth "issue1-comment-2").env = ["issue1-comment-1"] ∧
      (dirOf (afterBoth "issue1-comment-2")).get (beginName "issue1-comment-2") ≠ none ∧
      ∀ request d, Event.spawned request d ∈ (afterBoth "issue1-comment-2").env →
        (dirOf (afterBoth "issue1-comment-2")).Absent (beginName (HostAdmin.operationId request)) := by
  have hunused : ∀ t ∈ [(⟨.admin request.encodeToVec, emptyJournal, afterAdmin⟩ :
      (ownerSystem deps).Turn)], UnusedByAdmin t.call t.before := by
    intro t ht
    cases List.mem_singleton.mp ht
    exact trivial
  have hsteps : (executeOwner deps (.lifecycle (call "issue1-comment-2"))).Steps journalSem
      afterAdmin (replayed (.lifecycle (call "issue1-comment-2")) afterAdmin).1
      (afterBoth "issue1-comment-2") := worldAfter_steps _ _
  have hvisits : (ownerSystem deps).Visits emptyJournal
      [⟨.admin request.encodeToVec, emptyJournal, afterAdmin⟩]
      (.lifecycle (call "issue1-comment-2")) afterAdmin _ (afterBoth "issue1-comment-2") :=
    ⟨run_afterAdmin, hsteps⟩
  have happly := operation_id_stays_in_family deps rfl hvisits hunused checked.1.2
  exact ⟨checked.2.1.1, checked.2.1.2, fun request d hm => (happly request d hm).1⟩

open VmSample in
/-- **A completed admin operation is admitted again.** The program of the first comment ran and was recorded;
    then a signed APPLY with the same operation id is admitted and ends as a NOOP. -/
theorem completed_admin_operation_admitted :
    ∃ ts, (ownerSystem deps).Run emptyJournal ts (afterBoth "issue1-comment-1") ∧
      "issue1-comment-1" ∈ spawnedIds (afterBoth "issue1-comment-1").env ∧
      (dirOf (afterBoth "issue1-comment-1")).Durable (beginName "issue1-comment-1")
        (beginRecord (intent "issue1-comment-1") 1000).encodeToVec ∧
      ((dirOf (afterBoth "issue1-comment-1")).get
        (terminalName "issue1-comment-1" .observed)).isSome = true := by
  obtain ⟨hend, hfacts⟩ := checked.2.2
  exact ⟨_, .snoc run_afterAdmin (worldAfter_outcome hend), hfacts⟩

end EdgePlatform.Host
