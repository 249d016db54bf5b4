import EdgePlatform.Credential.Bundle
import EdgePlatform.Foundation.Comments

/-!
# `EdgePlatform.Orchestrator.InitialJournal` — the journal of first-use credential transactions

`credential_initial_journal.rs`: the comments of one issue are the journal. A first use begins with one BEGIN
comment; later one COMMIT_INTENT refers to it, and after a partial commit one RECOVERY_INTENT refers to the
intent. For each of the three there is a plan, which answers the comment to append, and a readback, which
checks the appended comment in a fresh reading of all comments.

The spec lemmas reduce every function to facts about the list of comment bodies: which bodies are marked, and
what the marked one says. A family is told by a marker that a comment *contains*; the records written here
contain no second `<`, so they are marked for their own family only.
-/

namespace EdgePlatform.Orchestrator.InitialJournal

open Foundation Credential

/-! ## The first BEGIN -/

def markerFamily : String := "<!-- sing-box-credential-initial-attempt/"

def marker : String := "<!-- sing-box-credential-initial-attempt/v1 -->"

def schema : String := "sing-box.credential-initial-attempt/v1"

def credentialDummyProbeGenerationA : UInt64 := 9000001

def credentialDummyProbeGenerationB : UInt64 := 9000002

/-- What a BEGIN is requested for. -/
structure InitialPairJournalPlan where
  generation : UInt64
  slot : String
  providerIntentSha256 : String
  vmAttestationSha256 : String
  windowsAttestationSha256 : String
  releaseSourceRevision : String
  releaseSetSha256 : String
  githubRunId : UInt64
deriving DecidableEq

/-- The record in a BEGIN comment. -/
@[ext] structure AttemptRecord where
  schema : String
  phase : String
  generation : UInt64
  slot : String
  providerIntentSha256 : String
  vmAttestationSha256 : String
  windowsAttestationSha256 : String
  releaseSourceRevision : String
  releaseSetSha256 : String
  githubRunId : UInt64
deriving DecidableEq

def attemptFields : RecordCodec AttemptRecord :=
  RecordCodec.shape
    (.cons "schema" .string <| .cons "phase" .string <| .cons "generation" .u64 <| .cons "slot" .string <|
      .cons "provider_intent_sha256" .string <| .cons "vm_attestation_sha256" .string <|
      .cons "windows_attestation_sha256" .string <| .cons "release_source_revision" .string <|
      .cons "release_set_sha256" .string <| .cons "github_run_id" .u64 .nil)
    (fun r => (r.schema, r.phase, r.generation, r.slot, r.providerIntentSha256, r.vmAttestationSha256,
      r.windowsAttestationSha256, r.releaseSourceRevision, r.releaseSetSha256, r.githubRunId, ()))
    (fun (schema, phase, generation, slot, provider, vm, windows, revision, release, run, ()) =>
      ⟨schema, phase, generation, slot, provider, vm, windows, revision, release, run⟩)
    (fun _ => rfl)

/-- A Git revision. -/
def validGitRevision (value : String) : Bool := isLowerHexText value 40

/-- A digest in lower-case hexadecimal. -/
def validSha256 (value : String) : Bool := isLowerHexText value 64

/-- A real generation, a slot, a run, and digests of which the attestations differ. -/
def validateRequest (request : InitialPairJournalPlan) : Except String Unit := do
  rejectIf (request.generation = 0 ∨ request.generation = credentialDummyProbeGenerationA ∨
      request.generation = credentialDummyProbeGenerationB ∨ request.githubRunId = 0 ∨
      (request.slot ≠ "A" ∧ request.slot ≠ "B"))
    "initial journal requires one real generation, fixed slot and run ID"
  forM [("provider intent", request.providerIntentSha256), ("VM attestation", request.vmAttestationSha256),
      ("Windows attestation", request.windowsAttestationSha256), ("release set", request.releaseSetSha256)]
    fun (name, value) =>
      rejectIf (validSha256 value = false) s!"initial journal requires exact lowercase SHA-256 for {name}"
  rejectIf (validGitRevision request.releaseSourceRevision = false)
    "initial journal requires exact lowercase 40-character Git source revision"
  rejectIf (request.vmAttestationSha256 = request.windowsAttestationSha256)
    "initial journal rejects identical VM and Windows attestations"

/-- No comment may be marked: neither a record, nor what is left of one, permits another attempt. -/
def validateJournalComments : List String → Except String Unit
  | [] => .ok ()
  | body :: rest => do
      rejectIf (trim body = "") "initial journal refuses an empty issue comment body"
      if contains body markerFamily then
        let content ← okOr (stripPrefix body marker)
          "initial journal contains displaced attempt marker; refusing issuance"
        let record ← okOr (attemptFields.codec.ofText (trim content))
          "initial journal contains malformed attempt; refusing issuance"
        rejectIf (record.schema ≠ schema ∨ record.phase ≠ "BEGIN")
          "initial journal contains unknown attempt phase; refusing issuance"
        .error ("initial journal already has durable BEGIN in run " ++ decimal record.githubRunId.toNat ++
          "; no replay or new initial issuance")
      validateJournalComments rest

/-- No comment begins an attempt. -/
def validateJournalHistory (history : String) : Except String Unit := do
  let comments ← okOr (readComments history) "initial journal history must be complete JSON comment array"
  validateJournalComments comments

/-- The request a record was made for. -/
def AttemptRecord.plan (record : AttemptRecord) : InitialPairJournalPlan where
  generation := record.generation
  slot := record.slot
  providerIntentSha256 := record.providerIntentSha256
  vmAttestationSha256 := record.vmAttestationSha256
  windowsAttestationSha256 := record.windowsAttestationSha256
  releaseSourceRevision := record.releaseSourceRevision
  releaseSetSha256 := record.releaseSetSha256
  githubRunId := record.githubRunId

/-- The number of BEGIN comments after `seen` ones, all of them equal to the record. -/
def countBegins (exactRecord : String) : List String → Nat → Except String Nat
  | [], seen => .ok seen
  | body :: rest, seen => do
      rejectIf (trim body = "") "initial journal readback refuses empty or incomplete comment"
      if contains body markerFamily then
        rejectIf (body ≠ exactRecord) "initial journal readback detected different or malformed BEGIN"
        countBegins exactRecord rest (seen + 1)
      else countBegins exactRecord rest seen

/-- The BEGIN is well formed and the only one. -/
def verifyRecordedInitialAttempt (history exactRecord : String) : Except String Unit := do
  let (first, content) ← okOr (splitOnce exactRecord '\n')
    "initial journal readback requires canonical record marker"
  rejectIf (first ≠ marker ∨ trim content = "") "initial journal readback refuses malformed record marker"
  let record ← okOr (attemptFields.codec.ofText content)
    "initial journal readback refuses invalid JSON record"
  rejectIf (record.schema ≠ schema ∨ record.phase ≠ "BEGIN")
    "initial journal readback requires exact BEGIN schema"
  validateRequest record.plan
  let comments ← okOr (readComments history)
    "initial journal readback requires complete GitHub comment array"
  let seen ← countBegins exactRecord comments 0
  rejectIf (seen ≠ 1) "initial journal readback requires one and only one durable BEGIN"

/-- And it is the one for this request. -/
def verifyExpectedInitialAttempt (history exactRecord : String) (expected : InitialPairJournalPlan) :
    Except String Unit := do
  validateRequest expected
  verifyRecordedInitialAttempt history exactRecord
  let (_, body) ← okOr (splitOnce exactRecord '\n') "expected initial attempt has no record body"
  let record ← okOr (attemptFields.codec.ofText body) "expected initial attempt has malformed body"
  rejectIf (record.generation ≠ expected.generation ∨ record.slot ≠ expected.slot ∨
      record.providerIntentSha256 ≠ expected.providerIntentSha256 ∨
      record.vmAttestationSha256 ≠ expected.vmAttestationSha256 ∨
      record.windowsAttestationSha256 ≠ expected.windowsAttestationSha256 ∨
      record.releaseSourceRevision ≠ expected.releaseSourceRevision ∨
      record.releaseSetSha256 ≠ expected.releaseSetSha256 ∨ record.githubRunId ≠ expected.githubRunId)
    "durable initial BEGIN does not equal current host/provider/release intent"

/-- The record of a request. -/
def attemptRecord (request : InitialPairJournalPlan) : AttemptRecord where
  schema := schema
  phase := "BEGIN"
  generation := request.generation
  slot := request.slot
  providerIntentSha256 := request.providerIntentSha256
  vmAttestationSha256 := request.vmAttestationSha256
  windowsAttestationSha256 := request.windowsAttestationSha256
  releaseSourceRevision := request.releaseSourceRevision
  releaseSetSha256 := request.releaseSetSha256
  githubRunId := request.githubRunId

/-- The BEGIN comment, if there is none yet. -/
def planInitialPairReservation (request : InitialPairJournalPlan) (history : String) :
    Except String String := do
  validateRequest request
  validateJournalHistory history
  pure (marker ++ "\n" ++ attemptFields.codec.text (attemptRecord request))

variable {r : String}

section Begin

variable {request : InitialPairJournalPlan} {history exact : String} {bodies : List String} {u : Unit}

theorem avoids_hex {value : String} {size : Nat} (h : isLowerHexText value size = true) :
    (Json.str value).avoids '<' = true := by
  have hmem := not_mem_of_isLowerHexText (c := '<') h (by decide)
  simpa [Json.avoids] using hmem

theorem avoids_slot {slot : String} (h : slot = "A" ∨ slot = "B") : (Json.str slot).avoids '<' = true := by
  rcases h with rfl | rfl
  · decide
  · decide

theorem validateRequest_eq_ok :
    validateRequest request = .ok u ↔
      (request.generation ≠ 0 ∧ request.generation ≠ credentialDummyProbeGenerationA ∧
        request.generation ≠ credentialDummyProbeGenerationB ∧ request.githubRunId ≠ 0 ∧
        (request.slot = "A" ∨ request.slot = "B")) ∧
      (validSha256 request.providerIntentSha256 = true ∧ validSha256 request.vmAttestationSha256 = true ∧
        validSha256 request.windowsAttestationSha256 = true ∧ validSha256 request.releaseSetSha256 = true) ∧
      validGitRevision request.releaseSourceRevision = true ∧
      request.vmAttestationSha256 ≠ request.windowsAttestationSha256 := by
  simp only [validateRequest, Except.forM_eq_ok, ok_iff, exists_const, not_or, List.forall_mem_cons,
    List.not_mem_nil, false_imp_iff, implies_true, and_true, Bool.not_eq_false, not_and_or, not_not, ne_eq]

theorem validateJournalComments_eq_ok :
    validateJournalComments bodies = .ok u ↔ NoBlank bodies ∧ marked markerFamily bodies = [] := by
  induction bodies with
  | nil => simp [validateJournalComments, NoBlank, marked]
  | cons body rest ih =>
    by_cases hmark : contains body markerFamily = true
    · simp [validateJournalComments, ok_iff, hmark, marked]
    · simp only [validateJournalComments, ok_iff, exists_const, hmark, if_false, ih,
        Bool.false_eq_true, marked, List.filter_cons_of_neg, not_false_eq_true, NoBlank,
        List.forall_mem_cons, and_assoc]

theorem countBegins_eq_ok {seen n : Nat} :
    countBegins exact bodies seen = .ok n ↔
      NoBlank bodies ∧ (∀ b ∈ marked markerFamily bodies, b = exact) ∧
        n = seen + (marked markerFamily bodies).length := by
  induction bodies generalizing seen with
  | nil =>
    simp only [countBegins, Except.ok.injEq, NoBlank, marked, List.filter_nil, List.length_nil, Nat.add_zero]
    constructor
    · rintro rfl
      exact ⟨List.forall_mem_nil _, List.forall_mem_nil _, rfl⟩
    · rintro ⟨-, -, rfl⟩
      rfl
  | cons body rest ih =>
    by_cases hmark : contains body markerFamily = true
    · simp only [countBegins, ok_iff, exists_const, hmark, if_true, ih, marked,
        List.filter_cons_of_pos, NoBlank, List.forall_mem_cons, List.length_cons, not_not, ne_eq]
      constructor
      · rintro ⟨hbody, hexact, hrest, hall, rfl⟩
        exact ⟨⟨hbody, hrest⟩, ⟨hexact, hall⟩, by omega⟩
      · rintro ⟨⟨hbody, hrest⟩, ⟨hexact, hall⟩, rfl⟩
        exact ⟨hbody, hexact, hrest, hall, by omega⟩
    · simp only [countBegins, ok_iff, exists_const, hmark, if_false, ih, marked, List.filter_cons_of_neg,
        not_false_eq_true, NoBlank, List.forall_mem_cons, and_assoc, Bool.false_eq_true, ne_eq]

/-- The comment is a BEGIN with this record. -/
structure IsBegin (exact : String) (record : AttemptRecord) : Prop where
  content : ∃ content, splitOnce exact '\n' = some (marker, content) ∧ trim content ≠ "" ∧
    attemptFields.codec.ofText content = some record
  schema : record.schema = schema
  phase : record.phase = "BEGIN"
  valid : validateRequest record.plan = .ok ()

theorem IsBegin.unique {r r' : AttemptRecord} (h : IsBegin exact r) (h' : IsBegin exact r') : r = r' := by
  obtain ⟨content, hsplit, -, hread⟩ := h.content
  obtain ⟨content', hsplit', -, hread'⟩ := h'.content
  obtain rfl := (Prod.mk.inj (Option.some.inj (hsplit.symm.trans hsplit'))).2
  exact Option.some.inj (hread.symm.trans hread')

/-- One comment is marked, and it is `exact`. -/
theorem sole_iff {family : String} :
    ((∀ b ∈ marked family bodies, b = exact) ∧ (marked family bodies).length = 1) ↔
      marked family bodies = [exact] := by
  constructor
  · rintro ⟨hall, hlength⟩
    obtain ⟨b, hb⟩ := List.length_eq_one_iff.mp hlength
    rw [hb, hall b (hb ▸ List.mem_singleton_self b)]
  · intro h
    rw [h]
    exact ⟨fun b hb => List.mem_singleton.mp hb, rfl⟩

variable (hreads : readComments history = some bodies)
include hreads

/-- What the readback of a BEGIN says. -/
theorem verifyRecordedInitialAttempt_eq_ok :
    verifyRecordedInitialAttempt history exact = .ok u ↔
      (∃ record, IsBegin exact record) ∧ NoBlank bodies ∧ marked markerFamily bodies = [exact] := by
  rw [← sole_iff]
  simp only [verifyRecordedInitialAttempt, ok_iff, hreads, countBegins_eq_ok, not_or, not_not, ne_eq,
    Option.some.injEq, exists_eq_left', Nat.zero_add, Prod.exists]
  constructor
  · rintro ⟨first, content, hsplit, ⟨rfl, htrim⟩, record, hread, ⟨hschema, hphase⟩, hvalid, n,
      ⟨hblank, hall, rfl⟩, hlength⟩
    exact ⟨⟨record, ⟨content, hsplit, htrim, hread⟩, hschema, hphase, hvalid⟩, hblank, hall, hlength⟩
  · rintro ⟨⟨record, ⟨content, hsplit, htrim, hread⟩, hschema, hphase, hvalid⟩, hblank, hall, hlength⟩
    exact ⟨marker, content, hsplit, ⟨rfl, htrim⟩, record, hread, ⟨hschema, hphase⟩, hvalid, _,
      ⟨hblank, hall, rfl⟩, hlength⟩

/-- The readback for a request succeeds for the comment of that request alone. -/
theorem verifyExpectedInitialAttempt_eq_ok :
    verifyExpectedInitialAttempt history exact request = .ok u ↔
      validateRequest request = .ok () ∧ IsBegin exact (attemptRecord request) ∧ NoBlank bodies ∧
        marked markerFamily bodies = [exact] := by
  simp only [verifyExpectedInitialAttempt, ok_iff, verifyRecordedInitialAttempt_eq_ok hreads, not_or,
    not_not, ne_eq, Prod.exists]
  constructor
  · rintro ⟨hvalid, ⟨⟨record, hbegin⟩, hblank, hsole⟩, first, content, hsplit, record', hread,
      hgeneration, hslot, hprovider, hvm, hwindows, hrevision, hrelease, hrun⟩
    obtain ⟨content', hsplit', htrim, hread'⟩ := hbegin.content
    rw [hsplit, Option.some.injEq, Prod.mk.injEq] at hsplit'
    obtain ⟨-, rfl⟩ := hsplit'
    rw [hread, Option.some.injEq] at hread'
    subst hread'
    have hrecord : record' = attemptRecord request :=
      AttemptRecord.ext hbegin.schema hbegin.phase hgeneration hslot hprovider hvm hwindows hrevision
        hrelease hrun
    rw [← hrecord]
    exact ⟨hvalid, hbegin, hblank, hsole⟩
  · rintro ⟨hvalid, hbegin, hblank, hsole⟩
    obtain ⟨content, hsplit, htrim, hread⟩ := hbegin.content
    exact ⟨hvalid, ⟨⟨_, hbegin⟩, hblank, hsole⟩, _, _, hsplit, _, hread, rfl, rfl, rfl, rfl, rfl,
      rfl, rfl, rfl⟩

theorem planInitialPairReservation_eq_ok : planInitialPairReservation request history = .ok r ↔
      validateRequest request = .ok () ∧ NoBlank bodies ∧ marked markerFamily bodies = [] ∧
        r = marker ++ "\n" ++ attemptFields.codec.text (attemptRecord request) := by
  simp only [planInitialPairReservation, validateJournalHistory, ok_iff, hreads, Option.some.injEq,
    exists_eq_left', validateJournalComments_eq_ok, pure_eq_ok, and_assoc, eq_comm (a := r)]

omit hreads

section

variable (hvalid : validateRequest request = .ok ())
include hvalid

theorem lt_not_mem_attempt :
    '<' ∉ (attemptFields.codec.text (attemptRecord request)).toList := by
  obtain ⟨⟨-, -, -, -, hslot⟩, ⟨hprovider, hvm, hwindows, hrelease⟩, hrevision, -⟩ :=
    validateRequest_eq_ok.mp hvalid
  refine attemptFields.not_mem_text (by decide) (by decide) ?_
  simp only [attemptFields, RecordCodec.shape, RecordCodec.cons, RecordCodec.nil, JsonCodec.string,
    JsonCodec.u64, List.forall_mem_cons, List.not_mem_nil, false_imp_iff, implies_true, and_true]
  have hschema : (Json.str schema).avoids '<' = true := by decide
  have hphase : (Json.str "BEGIN").avoids '<' = true := by decide
  exact ⟨hschema, hphase, rfl, avoids_slot hslot, avoids_hex hprovider, avoids_hex hvm, avoids_hex hwindows,
    avoids_hex hrevision, avoids_hex hrelease, rfl⟩

/-- A planned BEGIN is marked as one, and for nothing else. -/
theorem marks_planned :
    Marks marker (marker ++ "\n" ++ attemptFields.codec.text (attemptRecord request)) :=
  ⟨by decide, _, rfl, lt_not_mem_attempt hvalid⟩

/-- The planned comment is a BEGIN of its request. -/
theorem isBegin_planned :
    IsBegin (marker ++ "\n" ++ attemptFields.codec.text (attemptRecord request))
      (attemptRecord request) where
  content := by
    refine ⟨attemptFields.codec.text (attemptRecord request), splitOnce_line (by decide), ?_,
      JsonCodec.ofText_text _ (by decide) _⟩
    refine trim_ne_empty (c := '\x7b') ?_ (by decide)
    rw [JsonCodec.text, Json.compact, String.toList_ofList]
    exact (.head _)
  schema := rfl
  phase := rfl
  valid := hvalid

end

end Begin

/-! ## The paired COMMIT_INTENT -/

def pairedCommitMarkerFamily : String := "<!-- sing-box-credential-paired-commit/"

def pairedCommitMarker : String := "<!-- sing-box-credential-paired-commit/v1 -->"

def pairedCommitSchema : String := "sing-box.credential-paired-commit/v1"

/-- What a COMMIT_INTENT is requested for. -/
structure PairedCommitPlan where
  originalRunId : UInt64
  commitRunId : UInt64
  generation : UInt64
  slot : String
  acceptedRevision : String
  releaseSetSha256 : String
  vmPreparedSha256 : String
  windowsPreparedSha256 : String
deriving DecidableEq

/-- The record in a COMMIT_INTENT comment. -/
@[ext] structure PairedCommitRecord where
  schema : String
  phase : String
  originalRunId : UInt64
  commitRunId : UInt64
  generation : UInt64
  slot : String
  acceptedRevision : String
  releaseSetSha256 : String
  originalBeginSha256 : String
  vmPreparedSha256 : String
  windowsPreparedSha256 : String
deriving DecidableEq

def pairedCommitFields : RecordCodec PairedCommitRecord :=
  RecordCodec.shape
    (.cons "schema" .string <| .cons "phase" .string <| .cons "original_run_id" .u64 <|
      .cons "commit_run_id" .u64 <| .cons "generation" .u64 <| .cons "slot" .string <|
      .cons "accepted_revision" .string <| .cons "release_set_sha256" .string <|
      .cons "original_begin_sha256" .string <| .cons "vm_prepared_sha256" .string <|
      .cons "windows_prepared_sha256" .string .nil)
    (fun r => (r.schema, r.phase, r.originalRunId, r.commitRunId, r.generation, r.slot, r.acceptedRevision,
      r.releaseSetSha256, r.originalBeginSha256, r.vmPreparedSha256, r.windowsPreparedSha256, ()))
    (fun (schema, phase, original, commit, generation, slot, revision, release, begin, vm, windows, ()) =>
      ⟨schema, phase, original, commit, generation, slot, revision, release, begin, vm, windows⟩)
    (fun _ => rfl)

/-- Two distinct runs, two distinct prepared digests, and a release. -/
def validateCommitRequest (request : PairedCommitPlan) : Except String Unit :=
  rejectIf (request.originalRunId = 0 ∨ request.commitRunId = 0 ∨
      request.originalRunId = request.commitRunId ∨ request.generation = 0 ∨
      (request.slot ≠ "A" ∧ request.slot ≠ "B") ∨ validGitRevision request.acceptedRevision = false ∨
      validSha256 request.releaseSetSha256 = false ∨ validSha256 request.vmPreparedSha256 = false ∨
      validSha256 request.windowsPreparedSha256 = false ∨
      request.vmPreparedSha256 = request.windowsPreparedSha256)
    ("paired commit requires distinct run IDs, exact release, slot, and two distinct prepared " ++
      "owner hashes")

/-- The record of the one BEGIN. -/
def originalBeginForCommit (history exactOriginal : String) : Except String AttemptRecord := do
  verifyRecordedInitialAttempt history exactOriginal
  let (_, body) ← okOr (splitOnce exactOriginal '\n') "paired commit requires canonical original BEGIN"
  okOr (attemptFields.codec.ofText body) "paired commit requires validated original BEGIN"

/-- The record of a program-prepare comment. -/
structure WindowsProgramPrepare where
  schema : String
  phase : String
  originalRunId : UInt64
  githubRunId : UInt64
  sourceRevision : String
  releaseSetSha256 : String
deriving DecidableEq

def programPrepareFields : RecordCodec WindowsProgramPrepare :=
  RecordCodec.shape
    (.cons "schema" .string <| .cons "phase" .string <| .cons "original_run_id" .u64 <|
      .cons "github_run_id" .u64 <| .cons "source_revision" .string <| .cons
        "release_set_sha256" .string .nil)
    (fun r => (r.schema, r.phase, r.originalRunId, r.githubRunId, r.sourceRevision, r.releaseSetSha256, ()))
    (fun (schema, phase, original, run, revision, release, ()) =>
      ⟨schema, phase, original, run, revision, release⟩)
    (fun _ => rfl)

/-- The record of a persistent-stage comment. -/
structure WindowsPersistentStage where
  schema : String
  phase : String
  originalRunId : UInt64
  githubRunId : UInt64
  slot : String
  releaseSetSha256 : String
  sourceRevision : String
deriving DecidableEq

def persistentStageFields : RecordCodec WindowsPersistentStage :=
  RecordCodec.shape
    (.cons "schema" .string <| .cons "phase" .string <| .cons "original_run_id" .u64 <|
      .cons "github_run_id" .u64 <| .cons "slot" .string <| .cons "release_set_sha256" .string <|
      .cons "source_revision" .string .nil)
    (fun r => (r.schema, r.phase, r.originalRunId, r.githubRunId, r.slot, r.releaseSetSha256,
      r.sourceRevision, ()))
    (fun (schema, phase, original, run, slot, release, revision, ()) =>
      ⟨schema, phase, original, run, slot, release, revision⟩)
    (fun _ => rfl)

def prepareFamily : String := "<!-- sing-box-windows-program-prepare/"

def prepareMarker : String := "<!-- sing-box-windows-program-prepare/v1 -->\n"

def stageFamily : String := "<!-- sing-box-windows-persistent-initial-stage/"

def stageMarker : String := "<!-- sing-box-windows-persistent-initial-stage/v1 -->\n"

/-- The positions of the two milestones seen so far. -/
structure Milestones where
  prepareIndex : Option Nat
  stageIndex : Option Nat
deriving DecidableEq

def prepareMilestone (request : PairedCommitPlan) (index : Nat) (body : String) (seen : Option Nat) :
    Except String (Option Nat) := do
  if contains body prepareFamily then
    let raw ← okOr (stripPrefix body prepareMarker)
      "paired release lineage rejects displaced program-prepare marker"
    let record ← okOr (programPrepareFields.codec.ofText raw)
      "paired release lineage rejects malformed program-prepare"
    rejectIf (seen ≠ none ∨ record.schema ≠ "sing-box.windows-program-prepare/v1" ∨ record.phase ≠ "BEGIN" ∨
        record.originalRunId ≠ request.originalRunId ∨ record.githubRunId = 0 ∨
        record.githubRunId = request.originalRunId ∨ record.sourceRevision ≠ request.acceptedRevision ∨
        record.releaseSetSha256 ≠ request.releaseSetSha256)
      "paired release lineage rejects unrelated program-prepare"
    pure (some index)
  else pure seen

def stageMilestone (request : PairedCommitPlan) (index : Nat) (body : String) (seen : Option Nat) :
    Except String (Option Nat) := do
  if contains body stageFamily then
    let raw ← okOr (stripPrefix body stageMarker)
      "paired release lineage rejects displaced persistent-stage marker"
    let record ← okOr (persistentStageFields.codec.ofText raw)
      "paired release lineage rejects malformed persistent-stage"
    rejectIf (seen ≠ none ∨ record.schema ≠ "sing-box.windows-persistent-initial-stage/v1" ∨
        record.phase ≠ "BEGIN" ∨ record.originalRunId ≠ request.originalRunId ∨ record.githubRunId = 0 ∨
        record.githubRunId = request.originalRunId ∨ record.slot ≠ request.slot ∨
        record.sourceRevision ≠ request.acceptedRevision ∨
        record.releaseSetSha256 ≠ request.releaseSetSha256)
      "paired release lineage rejects unrelated persistent-stage"
    pure (some index)
  else pure seen

def milestones (request : PairedCommitPlan) : Nat → List String → Milestones → Except String Milestones
  | _, [], seen => .ok seen
  | index, body :: rest, seen => do
      let prepareIndex ← prepareMilestone request index body seen.prepareIndex
      let stageIndex ← stageMilestone request index body seen.stageIndex
      milestones request (index + 1) rest ⟨prepareIndex, stageIndex⟩

def requireOrderedMilestones (request : PairedCommitPlan) (comments : List String) : Except String Unit := do
  match ← milestones request 0 comments ⟨none, none⟩ with
  | ⟨some prepare, some stage⟩ =>
    rejectIf (¬ prepare < stage)
      "paired release lineage requires one ordered program-prepare then persistent-stage"
  | _ => .error "paired release lineage requires one ordered program-prepare then persistent-stage"

/-- A commit for another release than the BEGIN's needs both milestones, in order. -/
def requirePairedReleaseLineage (original : AttemptRecord) (request : PairedCommitPlan) (history : String) :
    Except String Unit := do
  if original.releaseSourceRevision = request.acceptedRevision ∧
      original.releaseSetSha256 = request.releaseSetSha256 then pure ()
  else
    let comments ← okOr (readComments history) "paired release lineage requires complete issue history"
    requireOrderedMilestones request comments

/-- The BEGIN is of the same attempt, and its release leads to the requested one. -/
def matchingOriginalBegin (original : AttemptRecord) (request : PairedCommitPlan) (history : String) :
    Except String Unit := do
  rejectIf (original.generation ≠ request.generation ∨ original.slot ≠ request.slot ∨
      original.githubRunId ≠ request.originalRunId)
      "paired commit rejects generation/slot/original run mismatch"
  requirePairedReleaseLineage original request history

/-- The COMMIT_INTENT comments; a displaced marker is an error. -/
def commitRecords (history : String) : Except String (List String) := do
  let comments ← okOr (readComments history) "paired commit requires complete JSON issue history"
  collect (some "paired commit refuses incomplete/empty issue comment") pairedCommitMarkerFamily
    (fun body => startsWith body pairedCommitMarker && startsWith body (pairedCommitMarker ++ "\n"))
    "paired commit refuses displaced or unknown-version marker" comments

/-- The record, bound to the text of the BEGIN by its digest. -/
def pairedCommitRecord (request : PairedCommitPlan) (originalBegin : String) : PairedCommitRecord where
  schema := pairedCommitSchema
  phase := "COMMIT_INTENT"
  originalRunId := request.originalRunId
  commitRunId := request.commitRunId
  generation := request.generation
  slot := request.slot
  acceptedRevision := request.acceptedRevision
  releaseSetSha256 := request.releaseSetSha256
  originalBeginSha256 := hex (sha256 (utf8 originalBegin))
  vmPreparedSha256 := request.vmPreparedSha256
  windowsPreparedSha256 := request.windowsPreparedSha256

/-- The COMMIT_INTENT comment, if there is none yet. -/
def planPairedCommit (request : PairedCommitPlan) (history originalBegin : String) :
    Except String String := do
  validateCommitRequest request
  let original ← originalBeginForCommit history originalBegin
  matchingOriginalBegin original request history
  let records ← commitRecords history
  rejectIf (records ≠ []) "paired commit already has an intent; no replay after uncertain result"
  pure (pairedCommitMarker ++ "\n" ++ pairedCommitFields.codec.text
    (pairedCommitRecord request originalBegin))

/-- The COMMIT_INTENT is the one for this request, and the only one. -/
def verifyPairedCommitIntent (request : PairedCommitPlan) (history originalBegin exactIntent : String) :
    Except String Unit := do
  validateCommitRequest request
  let original ← originalBeginForCommit history originalBegin
  matchingOriginalBegin original request history
  let expected := pairedCommitRecord request originalBegin
  let (first, body) ← okOr (splitOnce exactIntent '\n') "paired intent readback requires marker and record"
  rejectIf (first ≠ pairedCommitMarker) "paired intent readback refuses different marker"
  let actual ← okOr (pairedCommitFields.codec.ofText body) "paired intent readback rejects malformed record"
  rejectIf (actual.schema ≠ pairedCommitSchema ∨ actual.phase ≠ "COMMIT_INTENT" ∨
      actual.originalRunId ≠ expected.originalRunId ∨ actual.commitRunId ≠ expected.commitRunId ∨
      actual.generation ≠ expected.generation ∨ actual.slot ≠ expected.slot ∨
      actual.acceptedRevision ≠ expected.acceptedRevision ∨
      actual.releaseSetSha256 ≠ expected.releaseSetSha256 ∨
      actual.originalBeginSha256 ≠ expected.originalBeginSha256 ∨
      actual.vmPreparedSha256 ≠ expected.vmPreparedSha256 ∨
      actual.windowsPreparedSha256 ≠ expected.windowsPreparedSha256)
    "paired commit readback differs from exact original and both prepared owners"
  let records ← commitRecords history
  rejectIf (records ≠ [exactIntent]) "paired commit readback requires exactly one matching durable intent"

section Commit

variable {request : PairedCommitPlan} {original : AttemptRecord} {history originalBegin exact body : String}
variable {bodies : List String} {u : Unit}

theorem validateCommitRequest_eq_ok :
    validateCommitRequest request = .ok u ↔
      request.originalRunId ≠ 0 ∧ request.commitRunId ≠ 0 ∧ request.originalRunId ≠ request.commitRunId ∧
        request.generation ≠ 0 ∧ (request.slot = "A" ∨ request.slot = "B") ∧
        validGitRevision request.acceptedRevision = true ∧ validSha256 request.releaseSetSha256 = true ∧
        validSha256 request.vmPreparedSha256 = true ∧ validSha256 request.windowsPreparedSha256 = true ∧
        request.vmPreparedSha256 ≠ request.windowsPreparedSha256 := by
  simp only [validateCommitRequest, rejectIf_eq_ok, not_or, not_and_or, not_not, ne_eq, Bool.not_eq_false]

theorem milestones_snoc (hprepare : contains body prepareFamily = false)
    (hstage : contains body stageFamily = false) (index : Nat) (seen : Milestones) :
    milestones request index (bodies ++ [body]) seen = milestones request index bodies seen := by
  induction bodies generalizing index seen with
  | nil =>
    simp only [List.nil_append, milestones, prepareMilestone, stageMilestone, hprepare, hstage,
      Bool.false_eq_true, if_false]
    rfl
  | cons b bodies ih =>
    simp only [List.cons_append, milestones, ih]

theorem requireOrderedMilestones_snoc (hprepare : contains body prepareFamily = false)
    (hstage : contains body stageFamily = false) :
    requireOrderedMilestones request (bodies ++ [body]) = requireOrderedMilestones request bodies := by
  rw [requireOrderedMilestones, milestones_snoc hprepare hstage]
  rfl

/-- The commit is for the release of the BEGIN, or for one that the milestones lead to. -/
def Lineage (original : AttemptRecord) (request : PairedCommitPlan) (bodies : List String) : Prop :=
  (original.releaseSourceRevision = request.acceptedRevision ∧
      original.releaseSetSha256 = request.releaseSetSha256) ∨
    requireOrderedMilestones request bodies = .ok ()

/-- What a plan and a readback of a commit both require of the comments. -/
structure CommitContext (request : PairedCommitPlan) (originalBegin : String)
    (bodies : List String) : Prop where
  valid : validateCommitRequest request = .ok ()
  original : ∃ original, IsBegin originalBegin original ∧ original.generation = request.generation ∧
    original.slot = request.slot ∧ original.githubRunId = request.originalRunId ∧
    Lineage original request bodies
  noBlank : NoBlank bodies
  sole : marked markerFamily bodies = [originalBegin]

/-- A comment that is marked for neither the BEGIN nor a milestone does not matter to a commit. -/
theorem CommitContext.snoc (h : CommitContext request originalBegin bodies) (hbody : trim body ≠ "")
    (hbegin : contains body markerFamily = false) (hprepare : contains body prepareFamily = false)
    (hstage : contains body stageFamily = false) :
    CommitContext request originalBegin (bodies ++ [body]) where
  valid := h.valid
  original := by
    obtain ⟨original, hbegin, hgeneration, hslot, hrun, hlineage⟩ := h.original
    refine ⟨original, hbegin, hgeneration, hslot, hrun, ?_⟩
    rcases hlineage with hsame | hordered
    · exact .inl hsame
    · exact .inr ((requireOrderedMilestones_snoc hprepare hstage).trans hordered)
  noBlank := noBlank_snoc h.noBlank hbody
  sole := by
    rw [marked_snoc, hbegin, h.sole]
    rfl

/-- The comment is a COMMIT_INTENT with this record. -/
def IsIntent (exact : String) (record : PairedCommitRecord) : Prop :=
  ∃ body, splitOnce exact '\n' = some (pairedCommitMarker, body) ∧
    pairedCommitFields.codec.ofText body = some record

theorem IsIntent.unique {r r' : PairedCommitRecord} (h : IsIntent exact r)
    (h' : IsIntent exact r') : r = r' := by
  obtain ⟨body, hsplit, hread⟩ := h
  obtain ⟨body', hsplit', hread'⟩ := h'
  obtain rfl := (Prod.mk.inj (Option.some.inj (hsplit.symm.trans hsplit'))).2
  exact Option.some.inj (hread.symm.trans hread')

theorem IsIntent.wellMarked {r : PairedCommitRecord} (h : IsIntent exact r) :
    startsWith exact pairedCommitMarker = true ∧ startsWith exact (pairedCommitMarker ++ "\n") = true := by
  obtain ⟨body, hsplit, -⟩ := h
  rw [eq_of_splitOnce hsplit]
  refine ⟨?_, startsWith_append _ _⟩
  rw [String.append_assoc]
  exact startsWith_append _ _

variable (hreads : readComments history = some bodies)
include hreads

theorem requirePairedReleaseLineage_eq_ok :
    requirePairedReleaseLineage original request history = .ok u ↔ Lineage original request bodies := by
  unfold requirePairedReleaseLineage Lineage
  by_cases hsame : original.releaseSourceRevision = request.acceptedRevision ∧
      original.releaseSetSha256 = request.releaseSetSha256
  · rw [if_pos hsame]
    exact ⟨fun _ => .inl hsame, fun _ => rfl⟩
  · rw [if_neg hsame, hreads]
    constructor
    · exact fun h => .inr h
    · rintro (h | h)
      · exact absurd h hsame
      · exact h

theorem commitContext_iff :
    CommitContext request originalBegin bodies ↔
      validateCommitRequest request = .ok () ∧ ∃ original,
        originalBeginForCommit history originalBegin = .ok original ∧
        matchingOriginalBegin original request history = .ok () := by
  have hbegin : ∀ original, originalBeginForCommit history originalBegin = .ok original ↔
      IsBegin originalBegin original ∧ NoBlank bodies ∧ marked markerFamily bodies = [originalBegin] := by
    intro original
    simp only [originalBeginForCommit, ok_iff, Prod.exists, verifyRecordedInitialAttempt_eq_ok hreads]
    constructor
    · rintro ⟨⟨⟨record, hbegin⟩, hblank, hsole⟩, first, body, hsplit, hread⟩
      obtain ⟨content, hsplit', -, hread'⟩ := hbegin.content
      rw [hsplit, Option.some.injEq, Prod.mk.injEq] at hsplit'
      rw [hsplit'.2, hread', Option.some.injEq] at hread
      subst hread
      exact ⟨hbegin, hblank, hsole⟩
    · rintro ⟨hbegin, hblank, hsole⟩
      obtain ⟨content, hsplit, -, hread⟩ := hbegin.content
      exact ⟨⟨⟨_, hbegin⟩, hblank, hsole⟩, _, _, hsplit, hread⟩
  simp only [hbegin, matchingOriginalBegin, ok_iff, not_or, not_not, ne_eq,
    requirePairedReleaseLineage_eq_ok hreads]
  constructor
  · rintro ⟨hvalid, ⟨original, hbegin, hgeneration, hslot, hrun, hlineage⟩, hblank, hsole⟩
    exact ⟨hvalid, original, ⟨hbegin, hblank, hsole⟩, ⟨hgeneration, hslot, hrun⟩, hlineage⟩
  · rintro ⟨hvalid, original, ⟨hbegin, hblank, hsole⟩, ⟨hgeneration, hslot, hrun⟩, hlineage⟩
    exact ⟨hvalid, ⟨original, hbegin, hgeneration, hslot, hrun, hlineage⟩, hblank, hsole⟩

theorem commitRecords_eq_ok {found : List String} :
    commitRecords history = .ok found ↔
      NoBlank bodies ∧
        (∀ b ∈ marked pairedCommitMarkerFamily bodies, startsWith b pairedCommitMarker = true ∧
          startsWith b (pairedCommitMarker ++ "\n") = true) ∧
          found = marked pairedCommitMarkerFamily bodies := by
  simp only [commitRecords, ok_iff, hreads, Option.some.injEq, exists_eq_left', collect_eq_ok,
    Bool.and_eq_true, ne_eq, reduceCtorEq, not_false_eq_true, true_imp_iff]

/-- What the plan of a commit says. -/
theorem planPairedCommit_eq_ok : planPairedCommit request history originalBegin = .ok r ↔
      CommitContext request originalBegin bodies ∧ marked pairedCommitMarkerFamily bodies = [] ∧
        r = pairedCommitMarker ++ "\n" ++ pairedCommitFields.codec.text
        (pairedCommitRecord request originalBegin) := by
  rw [commitContext_iff hreads]
  simp only [planPairedCommit, ok_iff, commitRecords_eq_ok hreads, not_not, ne_eq, pure_eq_ok]
  constructor
  · rintro ⟨hvalid, original, hbegin, hmatch, found, ⟨-, -, rfl⟩, hnone, rfl⟩
    exact ⟨⟨hvalid, original, hbegin, hmatch⟩, hnone, rfl⟩
  · rintro ⟨⟨hvalid, original, hbegin, hmatch⟩, hnone, rfl⟩
    have hcontext := (commitContext_iff hreads).mpr ⟨hvalid, original, hbegin, hmatch⟩
    refine ⟨hvalid, original, hbegin, hmatch, _, ⟨hcontext.noBlank, ?_, rfl⟩, hnone, rfl⟩
    rw [hnone]
    exact List.forall_mem_nil _

/-- What the readback of a commit says: the only marked comment is the intent of the request. -/
theorem verifyPairedCommitIntent_eq_ok :
    verifyPairedCommitIntent request history originalBegin exact = .ok u ↔
      CommitContext request originalBegin bodies ∧
        IsIntent exact (pairedCommitRecord request originalBegin) ∧
        marked pairedCommitMarkerFamily bodies = [exact] := by
  rw [commitContext_iff hreads]
  simp only [verifyPairedCommitIntent, ok_iff, Prod.exists, commitRecords_eq_ok hreads, not_or,
    not_not, ne_eq]
  constructor
  · rintro ⟨hvalid, original, hbegin, hmatch, first, body, hsplit, rfl, record, hread, hfields, found,
      ⟨-, -, rfl⟩, hsole⟩
    obtain ⟨hschema, hphase, horiginal, hcommit, hgeneration, hslot, hrevision, hrelease, hdigest,
      hvm, hwindows⟩ :=
      hfields
    have hrecord : record = pairedCommitRecord request originalBegin :=
      PairedCommitRecord.ext hschema hphase horiginal hcommit hgeneration hslot hrevision hrelease
        hdigest hvm hwindows
    exact ⟨⟨hvalid, original, hbegin, hmatch⟩, ⟨body, hsplit, hrecord ▸ hread⟩, hsole⟩
  · rintro ⟨⟨hvalid, original, hbegin, hmatch⟩, hintent, hsole⟩
    have hcontext := (commitContext_iff hreads).mpr ⟨hvalid, original, hbegin, hmatch⟩
    obtain ⟨body, hsplit, hread⟩ := id hintent
    refine ⟨hvalid, original, hbegin, hmatch, _, body, hsplit, rfl, _, hread,
      ⟨rfl, rfl, rfl, rfl, rfl, rfl, rfl, rfl, rfl, rfl, rfl⟩, _, ⟨hcontext.noBlank, ?_, rfl⟩, hsole⟩
    intro b hb
    rw [hsole, List.mem_singleton] at hb
    rw [hb]
    exact hintent.wellMarked

omit hreads

theorem lt_not_mem_intent (hvalid : validateCommitRequest request = .ok ()) :
    '<' ∉ (pairedCommitFields.codec.text (pairedCommitRecord request originalBegin)).toList := by
  obtain ⟨-, -, -, -, hslot, hrevision, hrelease, hvm, hwindows, -⟩ := validateCommitRequest_eq_ok.mp hvalid
  refine pairedCommitFields.not_mem_text (by decide) (by decide) ?_
  simp only [pairedCommitFields, RecordCodec.shape, RecordCodec.cons, RecordCodec.nil, JsonCodec.string,
    JsonCodec.u64, List.forall_mem_cons, List.not_mem_nil, false_imp_iff, implies_true, and_true]
  have hschema : (Json.str pairedCommitSchema).avoids '<' = true := by decide
  have hphase : (Json.str "COMMIT_INTENT").avoids '<' = true := by decide
  exact ⟨hschema, hphase, rfl, rfl, rfl, avoids_slot hslot, avoids_hex hrevision, avoids_hex hrelease,
    avoids_hex (isLowerHexText_hex_sha256 _), avoids_hex hvm, avoids_hex hwindows⟩

theorem marks_intent (originalBegin : String) (hvalid : validateCommitRequest request = .ok ()) :
    Marks pairedCommitMarker
      (pairedCommitMarker ++ "\n" ++ pairedCommitFields.codec.text
        (pairedCommitRecord request originalBegin)) :=
  ⟨by decide, _, rfl, lt_not_mem_intent hvalid⟩

theorem isIntent_planned :
    IsIntent (pairedCommitMarker ++ "\n" ++
      pairedCommitFields.codec.text (pairedCommitRecord request originalBegin))
      (pairedCommitRecord request originalBegin) :=
  ⟨_, splitOnce_line (by decide), JsonCodec.ofText_text _ (by decide) _⟩

end Commit

/-! ## The paired RECOVERY_INTENT -/

/-- Where a host has the bundle of the pair. -/
inductive PairedHostCursor
  | candidate
  | active
  | missing
  | unknown
deriving DecidableEq

/-- What a host reports. -/
structure PairedHostReadback where
  generation : UInt64
  slot : String
  cursor : PairedHostCursor
  runtimeVerified : Bool
  ownerOriginVerified : Bool
deriving DecidableEq

def pairedRecoveryMarkerFamily : String := "<!-- sing-box-credential-paired-recovery/"

def pairedRecoveryMarker : String := "<!-- sing-box-credential-paired-recovery/v1 -->"

def pairedRecoverySchema : String := "sing-box.credential-paired-recovery/v1"

/-- What a RECOVERY_INTENT is requested for. -/
structure PairedRecoveryPlan where
  pair : PairedCommitPlan
  recoveryRunId : UInt64
  vmActiveSha256 : String
  windowsCandidateSha256 : String
  originalIntentSha256 : String
  vm : PairedHostReadback
  windows : PairedHostReadback
deriving DecidableEq

/-- The record in a RECOVERY_INTENT comment. -/
structure PairedRecoveryRecord where
  schema : String
  phase : String
  originalRunId : UInt64
  commitRunId : UInt64
  recoveryRunId : UInt64
  generation : UInt64
  slot : String
  acceptedRevision : String
  releaseSetSha256 : String
  originalIntentSha256 : String
  vmPreparedSha256 : String
  windowsPreparedSha256 : String
  vmActiveSha256 : String
  windowsCandidateSha256 : String
deriving DecidableEq

def pairedRecoveryFields : RecordCodec PairedRecoveryRecord :=
  RecordCodec.shape
    (.cons "schema" .string <| .cons "phase" .string <| .cons "original_run_id" .u64 <|
      .cons "commit_run_id" .u64 <| .cons "recovery_run_id" .u64 <| .cons "generation" .u64 <|
      .cons "slot" .string <| .cons "accepted_revision" .string <| .cons "release_set_sha256" .string <|
      .cons "original_intent_sha256" .string <| .cons "vm_prepared_sha256" .string <|
      .cons "windows_prepared_sha256" .string <| .cons "vm_active_sha256" .string <|
      .cons "windows_candidate_sha256" .string .nil)
    (fun r => (r.schema, r.phase, r.originalRunId, r.commitRunId, r.recoveryRunId, r.generation, r.slot,
      r.acceptedRevision, r.releaseSetSha256, r.originalIntentSha256, r.vmPreparedSha256,
      r.windowsPreparedSha256, r.vmActiveSha256, r.windowsCandidateSha256, ()))
    (fun (schema, phase, original, commit, recovery, generation, slot, revision, release, intent, vm,
        windows, active, candidate, ()) =>
      ⟨schema, phase, original, commit, recovery, generation, slot, revision, release, intent, vm,
        windows, active, candidate⟩)
    (fun _ => rfl)

/-- The COMMIT_INTENT is verified; the VM is active, Windows still has a candidate. -/
def validateRecoveryPlan (plan : PairedRecoveryPlan) (history originalBegin originalIntent : String) :
    Except String Unit := do
  verifyPairedCommitIntent plan.pair history originalBegin originalIntent
  rejectIf (plan.recoveryRunId = 0 ∨ plan.recoveryRunId = plan.pair.originalRunId ∨
      plan.recoveryRunId = plan.pair.commitRunId ∨ validSha256 plan.vmActiveSha256 = false ∨
      validSha256 plan.windowsCandidateSha256 = false ∨ validSha256 plan.originalIntentSha256 = false ∨
      plan.vmActiveSha256 = plan.windowsCandidateSha256 ∨
      plan.originalIntentSha256 ≠ hex (sha256 (utf8 originalIntent)))
    "paired recovery refuses invalid run, bundle, or original intent identity"
  rejectIf (plan.vm.generation ≠ plan.pair.generation ∨ plan.windows.generation ≠ plan.pair.generation ∨
      plan.vm.slot ≠ plan.pair.slot ∨ plan.windows.slot ≠ plan.pair.slot ∨ plan.vm.cursor ≠ .active ∨
      plan.windows.cursor ≠ .candidate ∨ plan.vm.ownerOriginVerified = false ∨
      plan.windows.ownerOriginVerified = false ∨ plan.vm.runtimeVerified = false)
    "paired recovery requires independently proven VM ACTIVE / Windows CANDIDATE"

/-- The RECOVERY_INTENT comments; a displaced marker is an error. -/
def recoveryRecords (history : String) : Except String (List String) := do
  let comments ← okOr (readComments history) "paired recovery requires complete GitHub issue history"
  collect (some "paired recovery refuses empty history entries") pairedRecoveryMarkerFamily
    (fun body => startsWith body (pairedRecoveryMarker ++ "\n"))
    "paired recovery rejects displaced or unknown marker" comments

/-- The record of a plan. -/
def recoveryRecord (plan : PairedRecoveryPlan) : PairedRecoveryRecord where
  schema := pairedRecoverySchema
  phase := "RECOVERY_INTENT"
  originalRunId := plan.pair.originalRunId
  commitRunId := plan.pair.commitRunId
  recoveryRunId := plan.recoveryRunId
  generation := plan.pair.generation
  slot := plan.pair.slot
  acceptedRevision := plan.pair.acceptedRevision
  releaseSetSha256 := plan.pair.releaseSetSha256
  originalIntentSha256 := plan.originalIntentSha256
  vmPreparedSha256 := plan.pair.vmPreparedSha256
  windowsPreparedSha256 := plan.pair.windowsPreparedSha256
  vmActiveSha256 := plan.vmActiveSha256
  windowsCandidateSha256 := plan.windowsCandidateSha256

/-- The RECOVERY_INTENT comment, if there is none yet. -/
def planPairedRecovery (plan : PairedRecoveryPlan) (history originalBegin originalIntent : String) :
    Except String String := do
  validateRecoveryPlan plan history originalBegin originalIntent
  let records ← recoveryRecords history
  rejectIf (records ≠ []) "paired recovery already has an intent: no replay"
  pure (pairedRecoveryMarker ++ "\n" ++ pairedRecoveryFields.codec.text (recoveryRecord plan))

/-- The RECOVERY_INTENT is the one of this plan, and the only one. -/
def verifyPairedRecovery (plan : PairedRecoveryPlan)
    (history originalBegin originalIntent exactRecovery : String) :
    Except String Unit := do
  validateRecoveryPlan plan history originalBegin originalIntent
  let actual ← okOr (stripPrefix exactRecovery (pairedRecoveryMarker ++ "\n"))
    "paired recovery readback requires exact record marker"
  let record ← okOr (pairedRecoveryFields.codec.ofText actual) "paired recovery readback record malformed"
  rejectIf (record ≠ recoveryRecord plan) "paired recovery differs from paired identity and exact two hosts"
  let records ← recoveryRecords history
  rejectIf (records ≠ [exactRecovery]) "paired recovery must be durable exactly once"

section Recovery

variable {plan : PairedRecoveryPlan} {history originalBegin originalIntent exact body : String}
variable {bodies : List String} {u : Unit}

/-- What a plan and a readback of a recovery both require. -/
structure RecoveryContext (plan : PairedRecoveryPlan) (originalBegin originalIntent : String)
    (bodies : List String) :
    Prop where
  commit : CommitContext plan.pair originalBegin bodies
  intent : IsIntent originalIntent (pairedCommitRecord plan.pair originalBegin)
  sole : marked pairedCommitMarkerFamily bodies = [originalIntent]
  run : plan.recoveryRunId ≠ 0 ∧ plan.recoveryRunId ≠ plan.pair.originalRunId ∧
    plan.recoveryRunId ≠ plan.pair.commitRunId
  digests : validSha256 plan.vmActiveSha256 = true ∧ validSha256 plan.windowsCandidateSha256 = true ∧
    validSha256 plan.originalIntentSha256 = true ∧ plan.vmActiveSha256 ≠ plan.windowsCandidateSha256 ∧
    plan.originalIntentSha256 = hex (sha256 (utf8 originalIntent))
  partialPair : plan.vm.generation = plan.pair.generation ∧ plan.windows.generation = plan.pair.generation ∧
    plan.vm.slot = plan.pair.slot ∧ plan.windows.slot = plan.pair.slot ∧ plan.vm.cursor = .active ∧
    plan.windows.cursor = .candidate ∧ plan.vm.ownerOriginVerified = true ∧
    plan.windows.ownerOriginVerified = true ∧ plan.vm.runtimeVerified = true

theorem RecoveryContext.snoc (h : RecoveryContext plan originalBegin originalIntent bodies)
    (hbody : trim body ≠ "") (hbegin : contains body markerFamily = false)
    (hprepare : contains body prepareFamily = false) (hstage : contains body stageFamily = false)
    (hcommit : contains body pairedCommitMarkerFamily = false) :
    RecoveryContext plan originalBegin originalIntent (bodies ++ [body]) where
  commit := h.commit.snoc hbody hbegin hprepare hstage
  intent := h.intent
  sole := by
    rw [marked_snoc, hcommit, h.sole]
    rfl
  run := h.run
  digests := h.digests
  partialPair := h.partialPair

/-- The comment is a RECOVERY_INTENT with this record. -/
def IsRecovery (exact : String) (record : PairedRecoveryRecord) : Prop :=
  ∃ body, stripPrefix exact (pairedRecoveryMarker ++ "\n") = some body ∧
    pairedRecoveryFields.codec.ofText body = some record

theorem IsRecovery.unique {r r' : PairedRecoveryRecord} (h : IsRecovery exact r) (h' : IsRecovery exact r') :
    r = r' := by
  obtain ⟨body, hstrip, hread⟩ := h
  obtain ⟨body', hstrip', hread'⟩ := h'
  rw [hstrip, Option.some.injEq] at hstrip'
  rw [← hstrip', hread, Option.some.injEq] at hread'
  exact hread'

theorem IsRecovery.wellMarked {r : PairedRecoveryRecord} (h : IsRecovery exact r) :
    startsWith exact (pairedRecoveryMarker ++ "\n") = true := by
  obtain ⟨body, hstrip, -⟩ := h
  rw [stripPrefix_eq_some.mp hstrip]
  exact startsWith_append _ _

variable (hreads : readComments history = some bodies)
include hreads

theorem validateRecoveryPlan_eq_ok :
    validateRecoveryPlan plan history originalBegin originalIntent = .ok u ↔
      RecoveryContext plan originalBegin originalIntent bodies := by
  simp only [validateRecoveryPlan, ok_iff, verifyPairedCommitIntent_eq_ok hreads, not_or, not_not, ne_eq,
    Bool.not_eq_false]
  constructor
  · rintro ⟨⟨hcommit, hintent, hsole⟩,
      ⟨hrun, horiginal, hcommitRun, hactive, hcandidate, hdigest, hne, heq⟩, hpair⟩
    exact ⟨hcommit, hintent, hsole, ⟨hrun, horiginal, hcommitRun⟩,
      ⟨hactive, hcandidate, hdigest, hne, heq⟩, hpair⟩
  · rintro ⟨hcommit, hintent, hsole, ⟨hrun, horiginal, hcommitRun⟩,
      ⟨hactive, hcandidate, hdigest, hne, heq⟩, hpair⟩
    exact ⟨⟨hcommit, hintent, hsole⟩,
      ⟨hrun, horiginal, hcommitRun, hactive, hcandidate, hdigest, hne, heq⟩, hpair⟩

theorem recoveryRecords_eq_ok {found : List String} :
    recoveryRecords history = .ok found ↔
      NoBlank bodies ∧ (∀ b ∈ marked pairedRecoveryMarkerFamily bodies,
        startsWith b (pairedRecoveryMarker ++ "\n") = true) ∧
        found = marked pairedRecoveryMarkerFamily bodies := by
  simp only [recoveryRecords, ok_iff, hreads, Option.some.injEq, exists_eq_left', collect_eq_ok, ne_eq,
    reduceCtorEq, not_false_eq_true, true_imp_iff]

theorem planPairedRecovery_eq_ok : planPairedRecovery plan history originalBegin originalIntent = .ok r ↔
      RecoveryContext plan originalBegin originalIntent bodies ∧
        marked pairedRecoveryMarkerFamily bodies = [] ∧
        r = pairedRecoveryMarker ++ "\n" ++ pairedRecoveryFields.codec.text (recoveryRecord plan) := by
  simp only [planPairedRecovery, ok_iff, validateRecoveryPlan_eq_ok hreads,
    recoveryRecords_eq_ok hreads, not_not, ne_eq, pure_eq_ok]
  constructor
  · rintro ⟨hcontext, found, ⟨-, -, rfl⟩, hnone, rfl⟩
    exact ⟨hcontext, hnone, rfl⟩
  · rintro ⟨hcontext, hnone, rfl⟩
    refine ⟨hcontext, _, ⟨hcontext.commit.noBlank, ?_, rfl⟩, hnone, rfl⟩
    rw [hnone]
    exact List.forall_mem_nil _

/-- What the readback of a recovery says. -/
theorem verifyPairedRecovery_eq_ok :
    verifyPairedRecovery plan history originalBegin originalIntent exact = .ok u ↔
      RecoveryContext plan originalBegin originalIntent bodies ∧ IsRecovery exact (recoveryRecord plan) ∧
        marked pairedRecoveryMarkerFamily bodies = [exact] := by
  simp only [verifyPairedRecovery, ok_iff, validateRecoveryPlan_eq_ok hreads,
    recoveryRecords_eq_ok hreads, not_not, ne_eq]
  constructor
  · rintro ⟨hcontext, body, hstrip, record, hread, rfl, found, ⟨-, -, rfl⟩, hsole⟩
    exact ⟨hcontext, ⟨body, hstrip, hread⟩, hsole⟩
  · rintro ⟨hcontext, hrecovery, hsole⟩
    obtain ⟨body, hstrip, hread⟩ := id hrecovery
    refine ⟨hcontext, body, hstrip, _, hread, rfl, _, ⟨hcontext.commit.noBlank, ?_, rfl⟩, hsole⟩
    intro b hb
    rw [hsole, List.mem_singleton] at hb
    rw [hb]
    exact hrecovery.wellMarked

omit hreads

theorem lt_not_mem_recovery (h : RecoveryContext plan originalBegin originalIntent bodies) :
    '<' ∉ (pairedRecoveryFields.codec.text (recoveryRecord plan)).toList := by
  obtain ⟨-, -, -, -, hslot, hrevision, hrelease, hvm, hwindows, -⟩ :=
    validateCommitRequest_eq_ok.mp h.commit.valid
  obtain ⟨hactive, hcandidate, hintent, -, -⟩ := h.digests
  refine pairedRecoveryFields.not_mem_text (by decide) (by decide) ?_
  simp only [pairedRecoveryFields, RecordCodec.shape, RecordCodec.cons, RecordCodec.nil, JsonCodec.string,
    JsonCodec.u64, List.forall_mem_cons, List.not_mem_nil, false_imp_iff, implies_true, and_true]
  have hschema : (Json.str pairedRecoverySchema).avoids '<' = true := by decide
  have hphase : (Json.str "RECOVERY_INTENT").avoids '<' = true := by decide
  exact ⟨hschema, hphase, rfl, rfl, rfl, rfl, avoids_slot hslot, avoids_hex hrevision, avoids_hex hrelease,
    avoids_hex hintent, avoids_hex hvm, avoids_hex hwindows, avoids_hex hactive, avoids_hex hcandidate⟩

theorem marks_recovery (h : RecoveryContext plan originalBegin originalIntent bodies) :
    Marks pairedRecoveryMarker
      (pairedRecoveryMarker ++ "\n" ++ pairedRecoveryFields.codec.text (recoveryRecord plan)) :=
  ⟨by decide, _, rfl, lt_not_mem_recovery h⟩

theorem isRecovery_planned :
    IsRecovery (pairedRecoveryMarker ++ "\n" ++ pairedRecoveryFields.codec.text (recoveryRecord plan))
      (recoveryRecord plan) :=
  ⟨_, stripPrefix_append _ _, JsonCodec.ofText_text _ (by decide) _⟩

end Recovery

end EdgePlatform.Orchestrator.InitialJournal
