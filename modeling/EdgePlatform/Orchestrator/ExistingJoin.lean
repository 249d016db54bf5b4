import EdgePlatform.Orchestrator.InitialJournal

/-!
# `EdgePlatform.Orchestrator.ExistingJoin` — the journal of the existing-active join

`credential_existing_join.rs`: a host pair with Windows ACTIVE A joins the VM's candidate B. One BEGIN
comment captures the two, one COMMIT comment follows it with the Windows candidate, and `reconcile`
classifies what the two stores show afterwards. The journal is the comment list of the first-use journal,
read row by row; a first-use commit in it refuses the join.
-/

namespace EdgePlatform.Orchestrator.ExistingJoin

open Foundation Credential

def marker : String := "<!-- sing-box-credential-existing-join/v1 -->"

def family : String := "<!-- sing-box-credential-existing-join/"

def schema : String := "sing-box.credential-existing-join/v1"

def beginMarker : String := "<!-- sing-box-credential-existing-join-begin/v1 -->"

def beginFamily : String := "<!-- sing-box-credential-existing-join-begin/"

def beginSchema : String := "sing-box.credential-existing-join-begin/v1"

/-! ## Records -/

/-- A bundle as a host or the record names it. -/
structure Witness where
  generation : UInt64
  slot : String
  sha256 : String
deriving DecidableEq

def witnessFields : RecordCodec Witness :=
  RecordCodec.shape (.cons "generation" .u64 <| .cons "slot" .string <| .cons "sha256" .string .nil)
    (fun w => (w.generation, w.slot, w.sha256, ()))
    (fun (generation, slot, sha256, ()) => ⟨generation, slot, sha256⟩)
    (fun _ => rfl)

/-- What the BEGIN comment says. -/
structure ExistingJoinBegin where
  schema : String
  runId : UInt64
  acceptedRevision : String
  releaseSetSha256 : String
  windowsActive : Witness
  vmCandidate : Witness
  windowsWorkerOriginExact : Bool
  vmWorkerOriginExact : Bool
  vmLine2SixAuthenticated : Bool
  windowsStoppedProxyOnly : Bool
deriving DecidableEq

def beginFields : RecordCodec ExistingJoinBegin :=
  RecordCodec.shape
    (.cons "schema" .string <| .cons "run_id" .u64 <| .cons "accepted_revision" .string <|
      .cons "release_set_sha256" .string <| .cons "windows_active" witnessFields.codec <|
      .cons "vm_candidate" witnessFields.codec <| .cons "windows_worker_origin_exact" .bool <|
      .cons "vm_worker_origin_exact" .bool <| .cons "vm_line2_six_authenticated" .bool <|
      .cons "windows_stopped_proxy_only" .bool .nil)
    (fun r => (r.schema, r.runId, r.acceptedRevision, r.releaseSetSha256, r.windowsActive, r.vmCandidate,
      r.windowsWorkerOriginExact, r.vmWorkerOriginExact, r.vmLine2SixAuthenticated,
      r.windowsStoppedProxyOnly, ()))
    (fun (schema, run, revision, release, active, candidate, windows, vm, line2, stopped, ()) =>
      ⟨schema, run, revision, release, active, candidate, windows, vm, line2, stopped⟩)
    (fun _ => rfl)

/-- What the COMMIT comment says. -/
structure ExistingJoinIntent where
  schema : String
  runId : UInt64
  acceptedRevision : String
  releaseSetSha256 : String
  windowsActive : Witness
  windowsCandidate : Witness
  vmCandidate : Witness
  windowsWorkerBothExact : Bool
  windowsStoppedProxyOnly : Bool
  windowsLine1FourAuthenticated : Bool
  vmWorkerCandidateExact : Bool
  vmLine2SixAuthenticated : Bool
deriving DecidableEq

def intentFields : RecordCodec ExistingJoinIntent :=
  RecordCodec.shape
    (.cons "schema" .string <| .cons "run_id" .u64 <| .cons "accepted_revision" .string <|
      .cons "release_set_sha256" .string <| .cons "windows_active" witnessFields.codec <|
      .cons "windows_candidate" witnessFields.codec <| .cons "vm_candidate" witnessFields.codec <|
      .cons "windows_worker_both_exact" .bool <| .cons "windows_stopped_proxy_only" .bool <|
      .cons "windows_line1_four_authenticated" .bool <| .cons "vm_worker_candidate_exact" .bool <|
      .cons "vm_line2_six_authenticated" .bool .nil)
    (fun r => (r.schema, r.runId, r.acceptedRevision, r.releaseSetSha256, r.windowsActive,
      r.windowsCandidate, r.vmCandidate, r.windowsWorkerBothExact, r.windowsStoppedProxyOnly,
      r.windowsLine1FourAuthenticated, r.vmWorkerCandidateExact, r.vmLine2SixAuthenticated, ()))
    (fun (schema, run, revision, release, active, candidate, vm, both, stopped, line1, exact, line2, ()) =>
      ⟨schema, run, revision, release, active, candidate, vm, both, stopped, line1, exact, line2⟩)
    (fun _ => rfl)

/-- Lower-case hexadecimal. -/
def lowerHex (text : String) (size : Nat) : Bool := isLowerHexText text size

/-- A BEGIN names distinct A and B bundles and has every owner proof. -/
def validateBegin (value : ExistingJoinBegin) (revision release : String) : Except String Unit :=
  rejectIf (value.schema ≠ beginSchema ∨ value.runId = 0 ∨ value.acceptedRevision ≠ revision ∨
      lowerHex revision 40 = false ∨ value.releaseSetSha256 ≠ release ∨ lowerHex release 64 = false ∨
      value.windowsActive.generation = 0 ∨ value.vmCandidate.generation = 0 ∨
      value.windowsActive.generation = value.vmCandidate.generation ∨ value.windowsActive.slot ≠ "A" ∨
      value.vmCandidate.slot ≠ "B" ∨ lowerHex value.windowsActive.sha256 64 = false ∨
      lowerHex value.vmCandidate.sha256 64 = false ∨ value.windowsActive.sha256 = value.vmCandidate.sha256 ∨
      value.windowsWorkerOriginExact = false ∨ value.vmWorkerOriginExact = false ∨
      value.vmLine2SixAuthenticated = false ∨ value.windowsStoppedProxyOnly = false)
    "existing join BEGIN original A/VM B owner proof absent"

/-- An intent names A, B and the VM bundle, and has every witness. -/
def validate (spec : ExistingJoinIntent) (revision release : String) : Except String Unit :=
  let a := spec.windowsActive
  let b := spec.windowsCandidate
  let vm := spec.vmCandidate
  rejectIf (spec.schema ≠ schema ∨ spec.runId = 0 ∨ lowerHex spec.acceptedRevision 40 = false ∨
      lowerHex spec.releaseSetSha256 64 = false ∨ spec.acceptedRevision ≠ revision ∨
      spec.releaseSetSha256 ≠ release ∨ a.generation = 0 ∨ b.generation = 0 ∨ a.generation = b.generation ∨
      b.generation ≠ vm.generation ∨ a.slot ≠ "A" ∨ b.slot ≠ "B" ∨ vm.slot ≠ "B" ∨
      lowerHex a.sha256 64 = false ∨ lowerHex b.sha256 64 = false ∨ lowerHex vm.sha256 64 = false ∨
      a.sha256 = b.sha256 ∨ a.sha256 = vm.sha256 ∨ b.sha256 = vm.sha256 ∨
      spec.windowsWorkerBothExact = false ∨ spec.windowsStoppedProxyOnly = false ∨
      spec.windowsLine1FourAuthenticated = false ∨ spec.vmWorkerCandidateExact = false ∨
      spec.vmLine2SixAuthenticated = false)
    "existing-active join blocked: exact A/B release, origin or functional witnesses missing"

section Valid

variable {value : ExistingJoinBegin} {spec : ExistingJoinIntent} {revision release : String} {u : Unit}

theorem validateBegin_eq_ok :
    validateBegin value revision release = .ok u ↔
      (value.schema = beginSchema ∧ value.runId ≠ 0) ∧
      (value.acceptedRevision = revision ∧ lowerHex revision 40 = true ∧ value.releaseSetSha256 = release ∧
        lowerHex release 64 = true) ∧
      (value.windowsActive.generation ≠ 0 ∧ value.vmCandidate.generation ≠ 0 ∧
        value.windowsActive.generation ≠ value.vmCandidate.generation) ∧
      (value.windowsActive.slot = "A" ∧ value.vmCandidate.slot = "B") ∧
      (lowerHex value.windowsActive.sha256 64 = true ∧ lowerHex value.vmCandidate.sha256 64 = true ∧
        value.windowsActive.sha256 ≠ value.vmCandidate.sha256) ∧
      value.windowsWorkerOriginExact = true ∧ value.vmWorkerOriginExact = true ∧
        value.vmLine2SixAuthenticated = true ∧ value.windowsStoppedProxyOnly = true := by
  simp only [validateBegin, rejectIf_eq_ok, not_or, not_not, ne_eq, Bool.not_eq_false, and_assoc]

theorem validate_eq_ok :
    validate spec revision release = .ok u ↔
      (spec.schema = schema ∧ spec.runId ≠ 0) ∧
      (lowerHex spec.acceptedRevision 40 = true ∧ lowerHex spec.releaseSetSha256 64 = true ∧
        spec.acceptedRevision = revision ∧ spec.releaseSetSha256 = release) ∧
      (spec.windowsActive.generation ≠ 0 ∧ spec.windowsCandidate.generation ≠ 0 ∧
        spec.windowsActive.generation ≠ spec.windowsCandidate.generation ∧
        spec.windowsCandidate.generation = spec.vmCandidate.generation) ∧
      (spec.windowsActive.slot = "A" ∧ spec.windowsCandidate.slot = "B" ∧ spec.vmCandidate.slot = "B") ∧
      (lowerHex spec.windowsActive.sha256 64 = true ∧ lowerHex spec.windowsCandidate.sha256 64 = true ∧
        lowerHex spec.vmCandidate.sha256 64 = true) ∧
      (spec.windowsActive.sha256 ≠ spec.windowsCandidate.sha256 ∧
        spec.windowsActive.sha256 ≠ spec.vmCandidate.sha256 ∧
        spec.windowsCandidate.sha256 ≠ spec.vmCandidate.sha256) ∧
      spec.windowsWorkerBothExact = true ∧ spec.windowsStoppedProxyOnly = true ∧
        spec.windowsLine1FourAuthenticated = true ∧ spec.vmWorkerCandidateExact = true ∧
        spec.vmLine2SixAuthenticated = true := by
  simp only [validate, rejectIf_eq_ok, not_or, not_not, ne_eq, Bool.not_eq_false, and_assoc]

open InitialJournal in
theorem avoids_witness {w : Witness} (hslot : w.slot = "A" ∨ w.slot = "B")
    (hhex : lowerHex w.sha256 64 = true) :
    (witnessFields.codec.toJson w).avoids '<' = true := by
  refine Json.avoidsMembers_zip (by decide) ?_
  simp only [witnessFields, RecordCodec.shape, RecordCodec.cons, RecordCodec.nil, JsonCodec.string,
    JsonCodec.u64, List.forall_mem_cons, List.not_mem_nil, false_imp_iff, implies_true, and_true]
  exact ⟨rfl, avoids_slot hslot, avoids_hex hhex⟩

open InitialJournal in
theorem lt_not_mem_begin (hvalid : validateBegin value revision release = .ok ()) :
    '<' ∉ (beginFields.codec.text value).toList := by
  obtain ⟨⟨hschema, -⟩, ⟨rfl, hrevision, rfl, hrelease⟩, -, ⟨hslotA, hslotB⟩, ⟨hactive, hcandidate, -⟩, -⟩ :=
    validateBegin_eq_ok.mp hvalid
  have hschema' : (Json.str value.schema).avoids '<' = true := by
    rw [hschema]
    decide
  refine beginFields.not_mem_text (by decide) (by decide) ?_
  simp only [beginFields, RecordCodec.shape, RecordCodec.cons, RecordCodec.nil, JsonCodec.string,
    JsonCodec.u64, JsonCodec.bool, List.forall_mem_cons, List.not_mem_nil, false_imp_iff,
    implies_true, and_true]
  exact ⟨hschema', rfl, avoids_hex hrevision, avoids_hex hrelease, avoids_witness (.inl hslotA) hactive,
    avoids_witness (.inr hslotB) hcandidate, rfl, rfl, rfl, rfl⟩

open InitialJournal in
theorem lt_not_mem_commit (hvalid : validate spec revision release = .ok ()) :
    '<' ∉ (intentFields.codec.text spec).toList := by
  obtain ⟨⟨hschema, -⟩, ⟨hrevision, hrelease, -, -⟩, -, ⟨hslotA, hslotB, hslotVm⟩,
    ⟨hactive, hcandidate, hvm⟩, -⟩ :=
    validate_eq_ok.mp hvalid
  have hschema' : (Json.str spec.schema).avoids '<' = true := by
    rw [hschema]
    decide
  refine intentFields.not_mem_text (by decide) (by decide) ?_
  simp only [intentFields, RecordCodec.shape, RecordCodec.cons, RecordCodec.nil, JsonCodec.string,
    JsonCodec.u64, JsonCodec.bool, List.forall_mem_cons, List.not_mem_nil, false_imp_iff,
    implies_true, and_true]
  exact ⟨hschema', rfl, avoids_hex hrevision, avoids_hex hrelease, avoids_witness (.inl hslotA) hactive,
    avoids_witness (.inr hslotB) hcandidate, avoids_witness (.inr hslotVm) hvm, rfl, rfl, rfl, rfl, rfl⟩

end Valid

/-! ## Reading the comments -/

/-- The bodies that `judge` accepts, row by row. -/
def collectRows (unreadable : String) (judge : String → Except String Bool) :
    List Json → Except String (List String)
  | [] => .ok []
  | row :: rest => do
      let body ← okOr (bodyValue row) unreadable
      let taken ← judge body
      let found ← collectRows unreadable judge rest
      pure (if taken then body :: found else found)

def judgeBegin (body : String) : Except String Bool := do
  if contains body beginFamily then
    rejectIf (startsWith body (beginMarker ++ "\n") = false)
      "existing join BEGIN unsupported/ambiguous marker"
    pure true
  else pure false

/-- The BEGIN comments; a displaced marker is an error. -/
def beginRecords (history : String) : Except String (List String) := do
  let rows ← okOr (readRows history) "existing join BEGIN GitHub history malformed"
  collectRows "existing join BEGIN GitHub history unreadable" judgeBegin rows

def judgeCommit (body : String) : Except String Bool := do
  rejectIf (trim body = "") "join journal has an empty comment body"
  let taken ← (if contains body family then do
      rejectIf (startsWith body (marker ++ "\n") = false) "join journal has displaced or unsupported marker"
      pure true
    else pure false)
  rejectIf (startsWith body "<!-- sing-box-credential-paired-commit/" = true)
    "join journal refuses a concurrent first-use paired commit"
  pure taken

/-- The COMMIT comments; a displaced marker is an error. -/
def records (history : String) : Except String (List String) := do
  let rows ← okOr (readRows history) "join journal must be a complete JSON comment array"
  collectRows "join journal has a missing comment body" judgeCommit rows

section Records

variable {history : String} {bodies found : List String}

/-- Rows that are comments are collected like their bodies. -/
theorem collectRows_eq_ok {unreadable fam : String} {judge : String → Except String Bool}
    {fine : String → Prop} (hjudge : ∀ b v, judge b = .ok v ↔ fine b ∧ v = contains b fam) {rows : List Json}
    (hrows : List.Forall₂ IsComment rows bodies) :
    collectRows unreadable judge rows = .ok found ↔ (∀ b ∈ bodies, fine b) ∧ found = marked fam bodies := by
  induction hrows generalizing found with
  | nil =>
    simp only [collectRows, Except.ok.injEq, marked, List.filter_nil]
    exact ⟨fun h => ⟨List.forall_mem_nil _, h.symm⟩, fun h => h.2.symm⟩
  | @cons row body rows bodies hrow _ ih =>
    simp only [collectRows, hrow.bodyValue, ok_iff, Option.some.injEq, exists_eq_left', hjudge,
      ih, pure_eq_ok, List.forall_mem_cons]
    constructor
    · rintro ⟨v, ⟨hfine, rfl⟩, found', ⟨hall, rfl⟩, rfl⟩
      refine ⟨⟨hfine, hall⟩, ?_⟩
      rw [marked, marked, List.filter_cons]
    · rintro ⟨⟨hfine, hall⟩, rfl⟩
      refine ⟨_, ⟨hfine, rfl⟩, _, ⟨hall, rfl⟩, ?_⟩
      rw [marked, marked, List.filter_cons]

theorem judgeBegin_eq_ok (b : String) (v : Bool) :
    judgeBegin b = .ok v ↔
      (contains b beginFamily = true → startsWith b (beginMarker ++ "\n") = true) ∧
      v = contains b beginFamily := by
  unfold judgeBegin
  by_cases hb : contains b beginFamily = true
  · simp only [hb, if_true, ok_iff, Bool.not_eq_false, pure_eq_ok, true_imp_iff]
    exact and_congr_right fun _ => eq_comm
  · simp only [hb, Bool.false_eq_true, if_false, pure_eq_ok, false_imp_iff, true_and]
    exact eq_comm

/-- A comment that the join journal accepts. -/
def Admissible (b : String) : Prop :=
  trim b ≠ "" ∧ (contains b family = true → startsWith b (marker ++ "\n") = true) ∧
    startsWith b "<!-- sing-box-credential-paired-commit/" = false

theorem judgeCommit_eq_ok (b : String) (v : Bool) :
    judgeCommit b = .ok v ↔ Admissible b ∧ v = contains b family := by
  unfold judgeCommit Admissible
  by_cases hb : contains b family = true
  · simp only [hb, if_true, ok_iff, Bool.not_eq_false, Bool.not_eq_true, pure_eq_ok, true_imp_iff,
      and_assoc, ne_eq]
    constructor
    · rintro ⟨hblank, v', hmarker, rfl, hpaired, rfl⟩
      exact ⟨hblank, hmarker, hpaired, rfl⟩
    · rintro ⟨hblank, hmarker, hpaired, rfl⟩
      exact ⟨hblank, true, hmarker, rfl, hpaired, rfl⟩
  · simp only [hb, Bool.false_eq_true, if_false, ok_iff, Bool.not_eq_true, pure_eq_ok,
      false_imp_iff, true_and, and_assoc, ne_eq]
    constructor
    · rintro ⟨hblank, v', rfl, hpaired, rfl⟩
      exact ⟨hblank, hpaired, rfl⟩
    · rintro ⟨hblank, hpaired, rfl⟩
      exact ⟨hblank, false, rfl, hpaired, rfl⟩

theorem beginRecords_eq_ok (hreads : Reads history bodies) :
    beginRecords history = .ok found ↔
      (∀ b ∈ marked beginFamily bodies, startsWith b (beginMarker ++ "\n") = true) ∧
        found = marked beginFamily bodies := by
  obtain ⟨rows, hparse, hrows⟩ := hreads
  simp only [beginRecords, ok_iff, hparse, Option.some.injEq, exists_eq_left',
    collectRows_eq_ok judgeBegin_eq_ok hrows, mem_marked, and_imp]

theorem records_eq_ok (hreads : Reads history bodies) :
    records history = .ok found ↔ (∀ b ∈ bodies, Admissible b) ∧ found = marked family bodies := by
  obtain ⟨rows, hparse, hrows⟩ := hreads
  simp only [records, ok_iff, hparse, Option.some.injEq, exists_eq_left',
    collectRows_eq_ok judgeCommit_eq_ok hrows]

end Records

/-! ## Plans and readbacks -/

/-- The BEGIN comment, if no BEGIN and no COMMIT was written yet. -/
def planBegin (value : ExistingJoinBegin) (history revision release : String) : Except String String := do
  validateBegin value revision release
  let begins ← beginRecords history
  rejectIf (begins ≠ []) "existing join BEGIN has already been attempted; no replay"
  let commits ← records history
  rejectIf (commits ≠ []) "existing join BEGIN has already been attempted; no replay"
  pure (beginMarker ++ "\n" ++ beginFields.codec.text value)

/-- The BEGIN comment is there once, and no COMMIT is. -/
def readbackBegin (value : ExistingJoinBegin) (history exact revision release : String) :
    Except String Unit := do
  validateBegin value revision release
  let body ← okOr (stripPrefix exact (beginMarker ++ "\n")) "existing join BEGIN exact marker missing"
  let decoded ← okOr (beginFields.codec.ofText body) "existing join BEGIN content malformed"
  rejectIf (decoded ≠ value ∨ beginFields.codec.text decoded ≠ body)
    "existing join BEGIN differs from original authenticated owner proof"
  let begins ← beginRecords history
  rejectIf (begins ≠ [exact]) "existing join BEGIN not durably unique before COMMIT"
  let commits ← records history
  rejectIf (commits ≠ []) "existing join BEGIN not durably unique before COMMIT"

/-- The BEGIN that a commit continues. -/
def requireMatchingBegin (spec : ExistingJoinIntent) (history revision release : String) :
    Except String Unit := do
  let stored ← beginRecords history
  match stored with
  | [begin] => do
      let body ← okOr (stripPrefix begin (beginMarker ++ "\n")) "existing join BEGIN marker malformed"
      let original ← okOr (beginFields.codec.ofText body) "existing join BEGIN original data malformed"
      validateBegin original revision release
      rejectIf (beginFields.codec.text original ≠ body ∨ original.runId ≠ spec.runId ∨
          original.acceptedRevision ≠ spec.acceptedRevision ∨
          original.releaseSetSha256 ≠ spec.releaseSetSha256 ∨ original.windowsActive ≠ spec.windowsActive ∨
          original.vmCandidate ≠ spec.vmCandidate)
        "existing join COMMIT differs from immutable BEGIN"
  | _ => .error "existing join COMMIT requires exactly one original BEGIN"

/-- The COMMIT comment, over a matching BEGIN and no COMMIT. -/
def plan (spec : ExistingJoinIntent) (history revision release : String) : Except String String := do
  validate spec revision release
  requireMatchingBegin spec history revision release
  let commits ← records history
  rejectIf (commits ≠ []) "existing-active join was already requested: no replay"
  pure (marker ++ "\n" ++ intentFields.codec.text spec)

/-- The COMMIT comment is there once, over a matching BEGIN. -/
def readback (spec : ExistingJoinIntent) (history exact revision release : String) : Except String Unit := do
  validate spec revision release
  requireMatchingBegin spec history revision release
  let raw ← okOr (stripPrefix exact (marker ++ "\n")) "existing-active join readback marker missing"
  let actual ← okOr (intentFields.codec.ofText raw) "existing-active join readback record malformed"
  rejectIf (actual ≠ spec ∨ intentFields.codec.text actual ≠ raw)
    "existing-active join record differs from exact immutable witnesses"
  let historyRecords ← records history
  rejectIf (historyRecords ≠ [exact]) "existing-active join requires exactly one durable matching intent"

section Readback

variable {value : ExistingJoinBegin} {spec : ExistingJoinIntent} {history exact revision release : String}
variable {bodies : List String} {u : Unit}

/-- The comment of a BEGIN. -/
def beginComment (value : ExistingJoinBegin) : String := beginMarker ++ "\n" ++ beginFields.codec.text value

/-- The comment of a COMMIT. -/
def commitComment (spec : ExistingJoinIntent) : String := marker ++ "\n" ++ intentFields.codec.text spec

theorem marks_begin (hvalid : validateBegin value revision release = .ok ()) :
    Marks beginMarker (beginComment value) :=
  ⟨by decide, _, rfl, lt_not_mem_begin hvalid⟩

theorem marks_commit (hvalid : validate spec revision release = .ok ()) :
    Marks marker (commitComment spec) :=
  ⟨by decide, _, rfl, lt_not_mem_commit hvalid⟩

/-- The one BEGIN in the journal is valid and agrees with the commit. -/
structure MatchingBegin (spec : ExistingJoinIntent) (revision release : String) (bodies : List String)
    (original : ExistingJoinBegin) : Prop where
  sole : marked beginFamily bodies = [beginComment original]
  valid : validateBegin original revision release = .ok ()
  runId : original.runId = spec.runId
  acceptedRevision : original.acceptedRevision = spec.acceptedRevision
  releaseSetSha256 : original.releaseSetSha256 = spec.releaseSetSha256
  windowsActive : original.windowsActive = spec.windowsActive
  vmCandidate : original.vmCandidate = spec.vmCandidate

theorem requireMatchingBegin_eq_ok (hreads : Reads history bodies) :
    requireMatchingBegin spec history revision release = .ok u ↔
      ∃ original, MatchingBegin spec revision release bodies original := by
  simp only [requireMatchingBegin, ok_iff, beginRecords_eq_ok hreads]
  constructor
  · rintro ⟨found, ⟨-, rfl⟩, h⟩
    split at h
    · next begin hsole =>
        simp only [ok_iff, not_or, not_not, ne_eq] at h
        obtain ⟨body, hstrip, original, hread, hvalid, htext, hrun, hrevision, hrelease, hactive,
          hcandidate⟩ := h
        refine ⟨original, ?_, hvalid, hrun, hrevision, hrelease, hactive, hcandidate⟩
        rw [hsole, stripPrefix_eq_some.mp hstrip, beginComment, htext]
    · cases h
  · rintro ⟨original, hmatch⟩
    refine ⟨_, ⟨?_, rfl⟩, ?_⟩
    · intro b hb
      rw [hmatch.sole, List.mem_singleton] at hb
      rw [hb]
      exact startsWith_append _ _
    · rw [hmatch.sole]
      simp only [ok_iff, not_or, not_not, ne_eq]
      exact ⟨_, stripPrefix_append _ _, original, JsonCodec.ofText_text _ (by decide) _, hmatch.valid, rfl,
        hmatch.runId, hmatch.acceptedRevision, hmatch.releaseSetSha256, hmatch.windowsActive,
        hmatch.vmCandidate⟩

variable {r body : String}

theorem planBegin_eq_ok (hreads : Reads history bodies) :
    planBegin value history revision release = .ok r ↔
      validateBegin value revision release = .ok () ∧ marked beginFamily bodies = [] ∧
        (∀ b ∈ bodies, Admissible b) ∧ marked family bodies = [] ∧ r = beginComment value := by
  simp only [planBegin, ok_iff, beginRecords_eq_ok hreads, records_eq_ok hreads, not_not, ne_eq, pure_eq_ok]
  constructor
  · rintro ⟨hvalid, begins, ⟨-, rfl⟩, hbegins, commits, ⟨hall, rfl⟩, hcommits, rfl⟩
    exact ⟨hvalid, hbegins, hall, hcommits, rfl⟩
  · rintro ⟨hvalid, hbegins, hall, hcommits, rfl⟩
    refine ⟨hvalid, _, ⟨?_, rfl⟩, hbegins, _, ⟨hall, rfl⟩, hcommits, rfl⟩
    rw [hbegins]
    exact List.forall_mem_nil _

theorem plan_eq_ok (hreads : Reads history bodies) :
    plan spec history revision release = .ok r ↔
      validate spec revision release = .ok () ∧
        (∃ original, MatchingBegin spec revision release bodies original) ∧ (∀ b ∈ bodies, Admissible b) ∧
        marked family bodies = [] ∧ r = commitComment spec := by
  simp only [plan, ok_iff, requireMatchingBegin_eq_ok hreads, records_eq_ok hreads, not_not,
    ne_eq, pure_eq_ok]
  constructor
  · rintro ⟨hvalid, hbegin, commits, ⟨hall, rfl⟩, hnone, rfl⟩
    exact ⟨hvalid, hbegin, hall, hnone, rfl⟩
  · rintro ⟨hvalid, hbegin, hall, hnone, rfl⟩
    exact ⟨hvalid, hbegin, _, ⟨hall, rfl⟩, hnone, rfl⟩

/-- What the readback of a COMMIT says. -/
theorem readback_eq_ok (hreads : Reads history bodies) :
    readback spec history exact revision release = .ok u ↔
      validate spec revision release = .ok () ∧
        (∃ original, MatchingBegin spec revision release bodies original) ∧ exact = commitComment spec ∧
        (∀ b ∈ bodies, Admissible b) ∧ marked family bodies = [exact] := by
  simp only [readback, ok_iff, requireMatchingBegin_eq_ok hreads, records_eq_ok hreads, not_or,
    not_not, ne_eq]
  constructor
  · rintro ⟨hvalid, hbegin, raw, hstrip, actual, hread, ⟨rfl, rfl⟩, commits, ⟨hall, rfl⟩, hsole⟩
    exact ⟨hvalid, hbegin, stripPrefix_eq_some.mp hstrip, hall, hsole⟩
  · rintro ⟨hvalid, hbegin, rfl, hall, hsole⟩
    exact ⟨hvalid, hbegin, _, stripPrefix_append _ _, spec, JsonCodec.ofText_text _ (by decide) _,
      ⟨rfl, rfl⟩, _, ⟨hall, rfl⟩, hsole⟩

/-- A comment of another family does not matter to the BEGIN of a join. -/
theorem MatchingBegin.snoc {original : ExistingJoinBegin}
    (h : MatchingBegin spec revision release bodies original) (hbody : contains body beginFamily = false) :
    MatchingBegin spec revision release (bodies ++ [body]) original where
  sole := by
    rw [marked_snoc, hbody, h.sole]
    rfl
  valid := h.valid
  runId := h.runId
  acceptedRevision := h.acceptedRevision
  releaseSetSha256 := h.releaseSetSha256
  windowsActive := h.windowsActive
  vmCandidate := h.vmCandidate

theorem admissible_commit (hvalid : validate spec revision release = .ok ()) :
    Admissible (commitComment spec) :=
  have hmarks := marks_commit hvalid
  ⟨hmarks.not_blank, fun _ => startsWith_append _ _, hmarks.not_startsWith (by decide)⟩

theorem admissible_begin (hvalid : validateBegin value revision release = .ok ()) :
    Admissible (beginComment value) := by
  have hmarks := marks_begin hvalid
  refine ⟨hmarks.not_blank, fun h => ?_, hmarks.not_startsWith (by decide)⟩
  rw [hmarks.not_contains (by decide)] at h
  cases h

theorem admissible_snoc (h : ∀ b ∈ bodies, Admissible b) (hbody : Admissible body) :
    ∀ b ∈ bodies ++ [body], Admissible b := by
  intro b hb
  rcases List.mem_append.mp hb with hb | hb
  · exact h b hb
  · rw [List.mem_singleton.mp hb]
    exact hbody

/-- A planned COMMIT reads back right behind the comments it was planned on. -/
theorem readback_of_plan {history' : String} (hreads : Reads history bodies)
    (h : plan spec history revision release = .ok r) (hreads' : Reads history' (bodies ++ [r])) :
    readback spec history' r revision release = .ok () := by
  obtain ⟨hvalid, ⟨original, hmatch⟩, hall, hnone, rfl⟩ := (plan_eq_ok hreads).mp h
  have hmarks := marks_commit hvalid
  refine (readback_eq_ok hreads').mpr
    ⟨hvalid, ⟨original, hmatch.snoc (hmarks.not_contains (by decide))⟩, rfl,
      admissible_snoc hall (admissible_commit hvalid), ?_⟩
  rw [marked_snoc, hnone, hmarks.contains (by decide)]
  rfl

end Readback

/-! ## Classification -/

/-- What the two hosts report. -/
structure ExistingJoinSnapshot where
  windowsActive : Witness
  windowsCandidate : Option Witness
  windowsPrevious : Option Witness
  vmActive : Option Witness
  vmCandidate : Option Witness
  vmJoinReceiptIntentSha256 : Option String
  windowsJoinReceiptIntentSha256 : Option String
  windowsPrepareBeginSha256 : Option String
  windowsWorkerOriginVerified : Bool
  vmWorkerOriginVerified : Bool
  windowsStoppedProxyOnly : Bool
  line1AuthenticatedEndpoints : UInt8
  line2AuthenticatedEndpoints : UInt8
deriving DecidableEq

inductive JoinStatus
  | unknownSafeBlockedNoReplay
  | safeBlockedUnprovenOwnerOrNetwork
  | intentDurablePreparedNoAutoApply
  | preparedNetworkUnprovenNoReplay
  | pointersCompleteRequiresIndependentAcceptance
  | pointersCompleteNetworkUnprovenNoReplay
  | partialSafeBlockedNoReplay
deriving DecidableEq

/-- The decision of `reconcile` once the journal has been read back and the two digests are known. -/
def classify (spec : ExistingJoinIntent) (beginDigest expectedDigest : String)
    (snapshot : ExistingJoinSnapshot) :
    JoinStatus :=
  if snapshot.windowsWorkerOriginVerified = false ∨ snapshot.vmWorkerOriginVerified = false ∨
      snapshot.windowsStoppedProxyOnly = false then .safeBlockedUnprovenOwnerOrNetwork
  else
    let networkVerified := snapshot.line1AuthenticatedEndpoints = 4 ∧
        snapshot.line2AuthenticatedEndpoints = 6
    let a := spec.windowsActive
    let b := spec.windowsCandidate
    let vm := spec.vmCandidate
    let winIsA := snapshot.windowsActive = a
    let winIsB := snapshot.windowsActive = b
    let vmIsB := snapshot.vmActive = some vm
    let vmCandidateB := snapshot.vmCandidate = some vm
    let receiptCorrect := snapshot.vmJoinReceiptIntentSha256 = some expectedDigest
    let receiptAbsent := snapshot.vmJoinReceiptIntentSha256 = none
    let windowsReceiptCorrect := snapshot.windowsJoinReceiptIntentSha256 = some expectedDigest
    let windowsReceiptAbsent := snapshot.windowsJoinReceiptIntentSha256 = none
    let prepareCorrect := snapshot.windowsPrepareBeginSha256 = some beginDigest
    let prepareAbsent := snapshot.windowsPrepareBeginSha256 = none
    if (¬ windowsReceiptAbsent ∧ ¬ windowsReceiptCorrect) ∨ (¬ receiptAbsent ∧ ¬ receiptCorrect) ∨
        (¬ prepareAbsent ∧ ¬ prepareCorrect) then .unknownSafeBlockedNoReplay
    else if winIsA ∧ snapshot.windowsCandidate = some b ∧ snapshot.windowsPrevious = none ∧
        snapshot.vmActive = none ∧ vmCandidateB ∧ receiptAbsent ∧ windowsReceiptAbsent ∧ prepareCorrect then
      if networkVerified then .intentDurablePreparedNoAutoApply else .preparedNetworkUnprovenNoReplay
    else if winIsB ∧ snapshot.windowsCandidate = none ∧ snapshot.windowsPrevious = some a ∧ vmIsB ∧
        snapshot.vmCandidate = none ∧ receiptCorrect ∧ windowsReceiptCorrect ∧ prepareCorrect then
      if networkVerified then .pointersCompleteRequiresIndependentAcceptance
      else .pointersCompleteNetworkUnprovenNoReplay
    else if (winIsA ∨ winIsB) ∧ (vmIsB ∨ vmCandidateB) ∧ (receiptAbsent ∨ receiptCorrect) ∧
        (windowsReceiptAbsent ∨ windowsReceiptCorrect) ∧ (prepareAbsent ∨ prepareCorrect) then
      .partialSafeBlockedNoReplay
    else .unknownSafeBlockedNoReplay

/-- How far the join has come on the two hosts. -/
def reconcile (spec : ExistingJoinIntent) (history exact revision release : String)
    (snapshot : ExistingJoinSnapshot) : Except String JoinStatus := do
  readback spec history exact revision release
  let begins ← beginRecords history
  match begins with
  | [begin] =>
    pure (classify spec (hex (sha256 (utf8 begin))) (hex (sha256 (utf8 exact))) snapshot)
  | _ => pure .unknownSafeBlockedNoReplay

end EdgePlatform.Orchestrator.ExistingJoin
