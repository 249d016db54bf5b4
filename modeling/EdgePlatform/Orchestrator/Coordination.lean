import EdgePlatform.Foundation.Reservation
import EdgePlatform.Orchestrator.ExistingJoin

/-!
# `EdgePlatform.Orchestrator.Coordination` — workflow runs on one comment journal

Workflow runs share the comments of one issue and nothing else. A run plans a record on the comments it read,
another step of the workflow appends the planned comment, and the run reads all comments again to verify it;
any number of runs do so at the same time, and anybody may comment in between. This is the `Coordinator`
whose log is the list of comment bodies.

Each first-use family (BEGIN, COMMIT_INTENT, RECOVERY_INTENT) is a `Coordinator.Family`: a verification
succeeds only while the family's one comment is the run's own. The existing-active join refuses a journal
with a first-use commit, but a first-use commit does not look for a join: `commit_and_join` shows both
succeeding, in this order.
-/

namespace EdgePlatform.Orchestrator

open Foundation Credential

/-- What a run is to record. -/
inductive Job
  | initialBegin (request : InitialJournal.InitialPairJournalPlan)
  | commitIntent (request : InitialJournal.PairedCommitPlan) (originalBegin : String)
  | recoveryIntent (plan : InitialJournal.PairedRecoveryPlan) (originalBegin originalIntent : String)
  | joinBegin (value : ExistingJoin.ExistingJoinBegin) (revision release : String)
  | joinCommit (spec : ExistingJoin.ExistingJoinIntent) (revision release : String)

namespace Job

open InitialJournal in
def plan (history : String) : Job → Except String String
  | .initialBegin request => planInitialPairReservation request history
  | .commitIntent request originalBegin => planPairedCommit request history originalBegin
  | .recoveryIntent plan originalBegin originalIntent =>
    planPairedRecovery plan history originalBegin originalIntent
  | .joinBegin value revision release => ExistingJoin.planBegin value history revision release
  | .joinCommit spec revision release => ExistingJoin.plan spec history revision release

open InitialJournal in
def verify (history exact : String) : Job → Except String Unit
  | .initialBegin request => verifyExpectedInitialAttempt history exact request
  | .commitIntent request originalBegin => verifyPairedCommitIntent request history originalBegin exact
  | .recoveryIntent plan originalBegin originalIntent =>
    verifyPairedRecovery plan history originalBegin originalIntent exact
  | .joinBegin value revision release => ExistingJoin.readbackBegin value history exact revision release
  | .joinCommit spec revision release => ExistingJoin.readback spec history exact revision release

/-- The workflow run that does the job. -/
def runId : Job → UInt64
  | .initialBegin request => request.githubRunId
  | .commitIntent request _ => request.commitRunId
  | .recoveryIntent plan _ _ => plan.recoveryRunId
  | .joinBegin value _ _ => value.runId
  | .joinCommit spec _ _ => spec.runId

end Job

/-- The records of a first use. -/
inductive FirstUseRecord
  | initialBegin
  | commitIntent
  | recoveryIntent
deriving DecidableEq

open InitialJournal in
def FirstUseRecord.family : FirstUseRecord → String
  | .initialBegin => markerFamily
  | .commitIntent => pairedCommitMarkerFamily
  | .recoveryIntent => pairedRecoveryMarkerFamily

def Job.firstUse : Job → Option FirstUseRecord
  | .initialBegin _ => some .initialBegin
  | .commitIntent _ _ => some .commitIntent
  | .recoveryIntent _ _ _ => some .recoveryIntent
  | _ => none

def Job.isJoinCommit : Job → Bool
  | .joinCommit _ _ _ => true
  | _ => false

/-- The shared journal: every plan and every verification reads a text of the comments there are. -/
def journal : Coordinator String where
  Job := Job
  Plans j bodies r := ∃ history, Reads history bodies ∧ j.plan history = .ok r
  Verifies j bodies r := ∃ history, Reads history bodies ∧ j.verify history r = .ok ()

/-! ## First-use records -/

section FirstUse

variable {j : Job} {k : FirstUseRecord} {history r : String} {bodies : List String}

section

variable (hj : j.firstUse = some k)
include hj

open InitialJournal in
/-- A plan of a first-use record finds none in the journal. -/
theorem marked_of_plan (hreads : Reads history bodies) (h : j.plan history = .ok r) :
    marked k.family bodies = [] := by
  have hcomments := hreads.readComments
  cases j with
  | initialBegin request =>
    cases hj
    exact ((planInitialPairReservation_eq_ok hcomments).mp h).2.2.1
  | commitIntent request originalBegin =>
    cases hj
    exact ((planPairedCommit_eq_ok hcomments).mp h).2.1
  | recoveryIntent plan originalBegin originalIntent =>
    cases hj
    exact ((planPairedRecovery_eq_ok hcomments).mp h).2.1
  | joinBegin value revision release => cases hj
  | joinCommit spec revision release => cases hj

open InitialJournal in
/-- A verified first-use record is the only one in the journal. -/
theorem marked_of_verify (hreads : Reads history bodies)
    (h : j.verify history r = .ok ()) : marked k.family bodies = [r] := by
  have hcomments := hreads.readComments
  cases j with
  | initialBegin request =>
    cases hj
    exact ((verifyExpectedInitialAttempt_eq_ok hcomments).mp h).2.2.2
  | commitIntent request originalBegin =>
    cases hj
    exact ((verifyPairedCommitIntent_eq_ok hcomments).mp h).2.2
  | recoveryIntent plan originalBegin originalIntent =>
    cases hj
    exact ((verifyPairedRecovery_eq_ok hcomments).mp h).2.2
  | joinBegin value revision release => cases hj
  | joinCommit spec revision release => cases hj

open InitialJournal in
/-- Two runs that verified one first-use record are the same run. -/
theorem runId_of_verify {j' : Job} {history' : String} {bodies' : List String}
    (hj' : j'.firstUse = some k) (hreads : Reads history bodies) (hreads' : Reads history' bodies')
    (h : j.verify history r = .ok ()) (h' : j'.verify history' r = .ok ()) : j.runId = j'.runId := by
  have hcomments := hreads.readComments
  have hcomments' := hreads'.readComments
  cases k with
  | initialBegin =>
    cases j <;> cases hj
    cases j' <;> cases hj'
    have hbegin := ((verifyExpectedInitialAttempt_eq_ok hcomments).mp h).2.1
    have hbegin' := ((verifyExpectedInitialAttempt_eq_ok hcomments').mp h').2.1
    exact congrArg AttemptRecord.githubRunId (hbegin.unique hbegin')
  | commitIntent =>
    cases j <;> cases hj
    cases j' <;> cases hj'
    have hintent := ((verifyPairedCommitIntent_eq_ok hcomments).mp h).2.1
    have hintent' := ((verifyPairedCommitIntent_eq_ok hcomments').mp h').2.1
    exact congrArg PairedCommitRecord.commitRunId (hintent.unique hintent')
  | recoveryIntent =>
    cases j <;> cases hj
    cases j' <;> cases hj'
    have hrecovery := ((verifyPairedRecovery_eq_ok hcomments).mp h).2.1
    have hrecovery' := ((verifyPairedRecovery_eq_ok hcomments').mp h').2.1
    exact congrArg PairedRecoveryRecord.recoveryRunId (hrecovery.unique hrecovery')

open InitialJournal in
/-- A planned first-use record verifies right behind the comments it was planned on. -/
theorem verify_of_plan {history' : String} (hreads : Reads history bodies)
    (h : j.plan history = .ok r) (hreads' : Reads history' (bodies ++ [r])) :
    j.verify history' r = .ok () := by
  have hcomments := hreads.readComments
  have hcomments' := hreads'.readComments
  cases j with
  | initialBegin request =>
    obtain ⟨hvalid, hblank, hnone, rfl⟩ := (planInitialPairReservation_eq_ok hcomments).mp h
    have hmarks := marks_planned hvalid
    refine (verifyExpectedInitialAttempt_eq_ok hcomments').mpr
      ⟨hvalid, isBegin_planned hvalid, noBlank_snoc hblank hmarks.not_blank, ?_⟩
    rw [marked_snoc, hnone, hmarks.contains (by decide)]
    rfl
  | commitIntent request originalBegin =>
    obtain ⟨hcontext, hnone, rfl⟩ := (planPairedCommit_eq_ok hcomments).mp h
    have hmarks := marks_intent originalBegin hcontext.valid
    refine (verifyPairedCommitIntent_eq_ok hcomments').mpr
      ⟨hcontext.snoc hmarks.not_blank (hmarks.not_contains (by decide)) (hmarks.not_contains (by decide))
        (hmarks.not_contains (by decide)), isIntent_planned, ?_⟩
    rw [marked_snoc, hnone, hmarks.contains (by decide)]
    rfl
  | recoveryIntent plan originalBegin originalIntent =>
    obtain ⟨hcontext, hnone, rfl⟩ := (planPairedRecovery_eq_ok hcomments).mp h
    have hmarks := marks_recovery hcontext
    refine (verifyPairedRecovery_eq_ok hcomments').mpr
      ⟨hcontext.snoc hmarks.not_blank (hmarks.not_contains (by decide)) (hmarks.not_contains (by decide))
        (hmarks.not_contains (by decide)) (hmarks.not_contains (by decide)), isRecovery_planned, ?_⟩
    rw [marked_snoc, hnone, hmarks.contains (by decide)]
    rfl
  | joinBegin value revision release => cases hj
  | joinCommit spec revision release => cases hj

end

/-- The runs that compete for one first-use record. -/
def FirstUseRecord.competing (k : FirstUseRecord) : journal.Family where
  member := fun j : Job => j.firstUse = some k
  marked b := contains b k.family = true
  sole := by
    rintro j bodies r hj ⟨history, hreads, hverify⟩
    have hsole := marked_of_verify hj hreads hverify
    have hr : r ∈ marked k.family bodies := by
      rw [hsole]
      exact List.mem_singleton_self r
    refine ⟨(mem_marked.mp hr).1, (mem_marked.mp hr).2, fun x hx hmark => ?_⟩
    have hmem : x ∈ marked k.family bodies := mem_marked.mpr ⟨hx, hmark⟩
    rw [hsole] at hmem
    exact List.mem_singleton.mp hmem
  fresh := by
    rintro j bodies r hj ⟨history, hreads, hplan⟩ x hx hmark
    have hmem : x ∈ marked k.family bodies := mem_marked.mpr ⟨hx, hmark⟩
    rw [marked_of_plan hj hreads hplan] at hmem
    cases hmem

end FirstUse

/-- **Mutual exclusion on the journal.** In every interleaving of runs and other comments, verifications of a
    first-use record succeed for one run only; a planned record verifies if it is appended next; and a record
    of the family, or anything with its marker, ends the planning of that record. -/
theorem firstUse_exclusive (log : List String) (s : journal.Board)
    (h : journal.Reaches (journal.start log) s) (k : FirstUseRecord) :
    (∀ v ∈ s.accepted, ∀ w ∈ s.accepted, Job.firstUse v.job = some k → Job.firstUse w.job = some k →
      Job.runId v.job = Job.runId w.job) ∧
    (∀ j history bodies r history', Job.firstUse j = some k → Reads history bodies → j.plan history = .ok r →
      Reads history' (bodies ++ [r]) → j.verify history' r = .ok ()) ∧
    (∀ b ∈ s.log, contains b k.family = true → ∀ s', journal.Reaches s s' →
      ∀ j history r, Job.firstUse j = some k → Reads history s'.log → j.plan history ≠ .ok r) := by
  refine ⟨?_, ?_, ?_⟩
  · intro v hv w hw hvk hwk
    have hentry : v.entry = w.entry := k.competing.agree h hv hw hvk hwk
    obtain ⟨history, hreads, hverify⟩ := (h.traced v hv).2
    obtain ⟨history', hreads', hverify'⟩ := (h.traced w hw).2
    rw [← hentry] at hverify'
    exact runId_of_verify hvk hwk hreads hreads' hverify hverify'
  · intro j history bodies r history' hj hreads hplan hreads'
    exact verify_of_plan hj hreads hplan hreads'
  · intro b hb hmark s' hs' j history r hj hreads hplan
    exact k.competing.blocked hs' hb hmark hj ⟨history, hreads, hplan⟩

/-! ## A first use on an empty journal -/

def sampleDigest (c : Char) : String := String.ofList (List.replicate 64 c)

def sampleRevision : String := String.ofList (List.replicate 40 'a')

def sampleBegin : InitialJournal.InitialPairJournalPlan where
  generation := 2
  slot := "B"
  providerIntentSha256 := sampleDigest '1'
  vmAttestationSha256 := sampleDigest '2'
  windowsAttestationSha256 := sampleDigest '3'
  releaseSourceRevision := sampleRevision
  releaseSetSha256 := sampleDigest '4'
  githubRunId := 11

def sampleCommit : InitialJournal.PairedCommitPlan where
  originalRunId := 11
  commitRunId := 12
  generation := 2
  slot := "B"
  acceptedRevision := sampleRevision
  releaseSetSha256 := sampleDigest '4'
  vmPreparedSha256 := sampleDigest '5'
  windowsPreparedSha256 := sampleDigest '6'

open InitialJournal in
/-- The comment of the sample BEGIN. -/
def sampleBeginComment : String :=
  marker ++ "\n" ++ attemptFields.codec.text (attemptRecord sampleBegin)

open InitialJournal in
def sampleIntentComment : String :=
  pairedCommitMarker ++ "\n" ++
    pairedCommitFields.codec.text (pairedCommitRecord sampleCommit sampleBeginComment)

def sampleRecovery : InitialJournal.PairedRecoveryPlan where
  pair := sampleCommit
  recoveryRunId := 13
  vmActiveSha256 := sampleDigest '7'
  windowsCandidateSha256 := sampleDigest '8'
  originalIntentSha256 := hex (sha256 (utf8 sampleIntentComment))
  vm := ⟨2, "B", .active, true, true⟩
  windows := ⟨2, "B", .candidate, true, true⟩

theorem sampleBegin_valid : InitialJournal.validateRequest sampleBegin = .ok () := by decide

theorem sampleCommit_valid : InitialJournal.validateCommitRequest sampleCommit = .ok () := by decide

variable {log : List String} {s s' : journal.Board}

theorem journal_plans {j : Job} {r : String} (h : j.plan (commentsText log) = .ok r) :
    journal.Plans j log r :=
  ⟨commentsText log, reads_commentsText log, h⟩

theorem journal_verifies {j : Job} {r : String} (h : j.verify (commentsText log) r = .ok ()) :
    journal.Verifies j log r :=
  ⟨commentsText log, reads_commentsText log, h⟩

/-- A job is done at once: planned on the journal, appended and verified. -/
theorem journal_perform {j : Job} {k : FirstUseRecord} {r : String}
    (h : journal.Reaches s s') (hj : j.firstUse = some k) (hplan : j.plan (commentsText s'.log) = .ok r) :
    journal.Reaches s ⟨s'.log ++ [r], (j, r) :: s'.planned, (j, r) :: s'.appended,
      ⟨j, r, s'.log ++ [r]⟩ :: s'.accepted⟩ :=
  h.perform (journal_plans hplan)
    (journal_verifies (verify_of_plan hj (reads_commentsText _) hplan (reads_commentsText _)))

theorem sampleBegin_planned : (Job.initialBegin sampleBegin).plan (commentsText []) =
    .ok sampleBeginComment := by
  have hreads := (reads_commentsText []).readComments
  exact (InitialJournal.planInitialPairReservation_eq_ok hreads).mpr
    ⟨sampleBegin_valid, fun b hb => (nomatch hb), rfl, rfl⟩

open InitialJournal in
/-- The sample commit fits every journal whose only BEGIN is the sample one. -/
theorem sampleCommit_context {bodies : List String} (hblank : NoBlank bodies)
    (hsole : marked markerFamily bodies = [sampleBeginComment]) :
    CommitContext sampleCommit sampleBeginComment bodies where
  valid := sampleCommit_valid
  original := ⟨_, isBegin_planned sampleBegin_valid, rfl, rfl, rfl, .inl ⟨rfl, rfl⟩⟩
  noBlank := hblank
  sole := hsole

open InitialJournal in
theorem sampleBeginComment_marks : Marks marker sampleBeginComment :=
  marks_planned sampleBegin_valid

open InitialJournal in
theorem sampleIntentComment_marks : Marks pairedCommitMarker sampleIntentComment :=
  marks_intent sampleBeginComment sampleCommit_valid

theorem sampleCommit_planned :
    (Job.commitIntent sampleCommit sampleBeginComment).plan (commentsText [sampleBeginComment]) =
      .ok sampleIntentComment := by
  have hreads := (reads_commentsText [sampleBeginComment]).readComments
  have hbegin := sampleBeginComment_marks
  refine (InitialJournal.planPairedCommit_eq_ok hreads).mpr ⟨sampleCommit_context ?_ ?_, ?_, rfl⟩
  · simp [NoBlank, hbegin.not_blank]
  · exact hbegin.marked_cons (by decide) []
  · exact hbegin.marked_skip (by decide) []

open InitialJournal in
def sampleRecoveryComment : String :=
  pairedRecoveryMarker ++ "\n" ++
    pairedRecoveryFields.codec.text (recoveryRecord sampleRecovery)

open InitialJournal in
theorem sampleRecovery_context :
    RecoveryContext sampleRecovery sampleBeginComment sampleIntentComment
      [sampleBeginComment, sampleIntentComment] := by
  have hbegin := sampleBeginComment_marks
  have hintent := sampleIntentComment_marks
  refine ⟨sampleCommit_context ?_ ?_, isIntent_planned, ?_, by decide, ?_, by decide⟩
  · simp [NoBlank, hbegin.not_blank, hintent.not_blank]
  · exact (hbegin.marked_cons (by decide) _).trans
      (congrArg (sampleBeginComment :: ·) (hintent.marked_skip (by decide) []))
  · exact (hbegin.marked_skip (by decide) _).trans (hintent.marked_cons (by decide) [])
  · exact ⟨by decide, by decide, isLowerHexText_hex_sha256 _, by decide, rfl⟩

theorem sampleRecovery_planned :
    (Job.recoveryIntent sampleRecovery sampleBeginComment sampleIntentComment).plan
        (commentsText [sampleBeginComment, sampleIntentComment]) = .ok sampleRecoveryComment := by
  have hreads := (reads_commentsText [sampleBeginComment, sampleIntentComment]).readComments
  refine (InitialJournal.planPairedRecovery_eq_ok hreads).mpr ⟨sampleRecovery_context, ?_, rfl⟩
  exact (sampleBeginComment_marks.marked_skip (by decide) _).trans
    (sampleIntentComment_marks.marked_skip (by decide) [])

/-- One first use with its commit and its recovery: every record is verified, by its own run only, and none
    of them can be planned again. -/
theorem firstUse_exclusive_sample :
    ∃ s, journal.Reaches (journal.start []) s ∧ ∀ k : FirstUseRecord,
      (∃ v ∈ s.accepted, Job.firstUse v.job = some k) ∧
      (∀ v ∈ s.accepted, ∀ w ∈ s.accepted, Job.firstUse v.job = some k → Job.firstUse w.job = some k →
        Job.runId v.job = Job.runId w.job) ∧
      ∀ s', journal.Reaches s s' → ∀ j history r, Job.firstUse j = some k → Reads history s'.log →
        j.plan history ≠ .ok r := by
  have hstart : journal.Reaches (journal.start []) (journal.start []) := .refl
  have hbegin := journal_perform hstart rfl sampleBegin_planned
  have hcommit := journal_perform hbegin rfl sampleCommit_planned
  have hrecovery := journal_perform hcommit rfl sampleRecovery_planned
  refine ⟨_, hrecovery, fun k => ?_⟩
  obtain ⟨hsame, -, hblocked⟩ := firstUse_exclusive [] _ hrecovery k
  have hmarked : ∃ b ∈ [sampleBeginComment, sampleIntentComment, sampleRecoveryComment],
      contains b k.family = true := by
    cases k with
    | initialBegin => exact ⟨_, .head _, sampleBeginComment_marks.contains (by decide)⟩
    | commitIntent => exact ⟨_, .tail _ (.head _), sampleIntentComment_marks.contains (by decide)⟩
    | recoveryIntent => exact ⟨_, .tail _ (.tail _ (.head _)), 
        (InitialJournal.marks_recovery sampleRecovery_context).contains (by decide)⟩
  obtain ⟨b, hb, hmark⟩ := hmarked
  refine ⟨?_, hsame, hblocked b hb hmark⟩
  cases k with
  | initialBegin => exact ⟨_, .tail _ (.tail _ (.head _)), rfl⟩
  | commitIntent => exact ⟨_, .tail _ (.head _), rfl⟩
  | recoveryIntent => exact ⟨_, .head _, rfl⟩

/-! ## First-use commits and existing-active joins -/

/-- A verified first-use commit stands in the journal as a comment that no join accepts. -/
theorem inadmissible_of_verify {j : Job} {history r : String} {bodies : List String}
    (hj : j.firstUse = some .commitIntent) (hreads : Reads history bodies)
    (h : j.verify history r = .ok ()) :
    r ∈ bodies ∧ ¬ ExistingJoin.Admissible r := by
  have hsole := marked_of_verify hj hreads h
  have hr : r ∈ marked FirstUseRecord.commitIntent.family bodies := by
    rw [hsole]
    exact List.mem_singleton_self r
  cases j <;> cases hj
  obtain ⟨-, hintent, -⟩ := (InitialJournal.verifyPairedCommitIntent_eq_ok hreads.readComments).mp h
  refine ⟨(mem_marked.mp hr).1, fun hadmissible => ?_⟩
  have hfamily : startsWith r "<!-- sing-box-credential-paired-commit/" = true := by
    have hmarker := startsWith_iff.mp hintent.wellMarked.1
    refine startsWith_iff.mpr (List.IsPrefix.trans ?_ hmarker)
    exact startsWith_iff.mp (by decide)
  rw [hadmissible.2.2] at hfamily
  cases hfamily

/-- A join COMMIT that is read back stands in the journal with its marker. -/
theorem marked_of_readback {j : Job} {history r : String} {bodies : List String} (hj : j.isJoinCommit = true)
    (hreads : Reads history bodies) (h : j.verify history r = .ok ()) :
    r ∈ bodies ∧ contains r ExistingJoin.family = true := by
  cases j <;> cases hj
  obtain ⟨-, -, -, -, hsole⟩ := (ExistingJoin.readback_eq_ok hreads).mp h
  exact mem_marked.mp (hsole ▸ List.mem_singleton_self r)

/-- Every comment of that journal is one that a join accepts. -/
theorem admissible_of_readback {j : Job} {history r : String} {bodies : List String}
    (hj : j.isJoinCommit = true) (hreads : Reads history bodies) (h : j.verify history r = .ok ()) :
    ∀ b ∈ bodies, ExistingJoin.Admissible b := by
  cases j <;> cases hj
  exact ((ExistingJoin.readback_eq_ok hreads).mp h).2.2.2.1

/-- A verified first-use commit and a read-back join COMMIT: the commit was verified over the join's
record. -/
theorem commit_after_join (h : journal.Reaches (journal.start log) s) {v w : journal.Verified}
    (hv : v ∈ s.accepted) (hw : w ∈ s.accepted) (hcommit : Job.firstUse v.job = some .commitIntent)
    (hjoin : Job.isJoinCommit w.job = true) :
    w.log <+: v.log ∧ w.entry ∈ v.log := by
  obtain ⟨history, hreads, hverify⟩ := (h.traced v hv).2
  obtain ⟨history', hreads', hverify'⟩ := (h.traced w hw).2
  obtain ⟨hmem, hinadmissible⟩ := inadmissible_of_verify hcommit hreads hverify
  have hmem' := (marked_of_readback hjoin hreads' hverify').1
  have hrefused : v.entry ∉ w.log := fun hin =>
    hinadmissible (admissible_of_readback hjoin hreads' hverify' _ hin)
  have hbefore := h.after_of_refused hv hw hmem hrefused
  exact ⟨hbefore, hbefore.mem hmem'⟩

/-- A COMMIT_INTENT is looked at only where the journal holds no COMMIT of a join. -/
def CommitsWithoutJoin (j : Job) (bodies : List String) : Prop :=
  j.firstUse = some .commitIntent → marked ExistingJoin.family bodies = []

/-- **When the commit families exclude each other.** In every interleaving in which no COMMIT_INTENT is
    planned or verified on a journal that holds a COMMIT comment of an existing-active join, a COMMIT_INTENT
    and a join COMMIT do not both succeed. -/
theorem commit_excludes_join (log : List String) (s : journal.Board)
    (h : journal.GuardedReaches CommitsWithoutJoin (journal.start log) s) :
    ¬ ∃ v ∈ s.accepted, ∃ w ∈ s.accepted,
      Job.firstUse v.job = some .commitIntent ∧ Job.isJoinCommit w.job = true := by
  rintro ⟨v, hv, w, hw, hcommit, hjoin⟩
  have hafter := (commit_after_join h.reaches hv hw hcommit hjoin).2
  obtain ⟨history, hreads, hverify⟩ := (h.reaches.traced w hw).2
  have hmarked : w.entry ∈ marked ExistingJoin.family v.log :=
    mem_marked.mpr ⟨hafter, (marked_of_readback hjoin hreads hverify).2⟩
  rw [h.guarded v hv hcommit] at hmarked
  cases hmarked

/-- A join COMMIT is planned on the journal, appended and read back. -/
theorem journal_join {spec : ExistingJoin.ExistingJoinIntent} {revision release r : String}
    (h : journal.Reaches s s')
    (hplan : (Job.joinCommit spec revision release).plan (commentsText s'.log) = .ok r) :
    journal.Reaches s ⟨s'.log ++ [r], (Job.joinCommit spec revision release, r) :: s'.planned,
      (Job.joinCommit spec revision release, r) :: s'.appended,
      ⟨Job.joinCommit spec revision release, r, s'.log ++ [r]⟩ :: s'.accepted⟩ :=
  have hreadback : (Job.joinCommit spec revision release).verify (commentsText (s'.log ++ [r])) r = .ok () :=
    ExistingJoin.readback_of_plan (reads_commentsText _) hplan (reads_commentsText _)
  h.perform (journal_plans hplan) (journal_verifies hreadback)

def sampleJoinBegin : ExistingJoin.ExistingJoinBegin where
  schema := ExistingJoin.beginSchema
  runId := 21
  acceptedRevision := sampleRevision
  releaseSetSha256 := sampleDigest '4'
  windowsActive := ⟨1, "A", sampleDigest '7'⟩
  vmCandidate := ⟨2, "B", sampleDigest '8'⟩
  windowsWorkerOriginExact := true
  vmWorkerOriginExact := true
  vmLine2SixAuthenticated := true
  windowsStoppedProxyOnly := true

def sampleJoinIntent : ExistingJoin.ExistingJoinIntent where
  schema := ExistingJoin.schema
  runId := 21
  acceptedRevision := sampleRevision
  releaseSetSha256 := sampleDigest '4'
  windowsActive := ⟨1, "A", sampleDigest '7'⟩
  windowsCandidate := ⟨2, "B", sampleDigest '9'⟩
  vmCandidate := ⟨2, "B", sampleDigest '8'⟩
  windowsWorkerBothExact := true
  windowsStoppedProxyOnly := true
  windowsLine1FourAuthenticated := true
  vmWorkerCandidateExact := true
  vmLine2SixAuthenticated := true

theorem sampleJoinBegin_valid :
    ExistingJoin.validateBegin sampleJoinBegin sampleRevision (sampleDigest '4') = .ok () := by decide

theorem sampleJoinIntent_valid :
    ExistingJoin.validate sampleJoinIntent sampleRevision (sampleDigest '4') = .ok () := by decide

theorem sampleBeginComment_admissible : ExistingJoin.Admissible sampleBeginComment := by
  have hmarks := sampleBeginComment_marks
  refine ⟨hmarks.not_blank, fun h => ?_, hmarks.not_startsWith (by decide)⟩
  rw [hmarks.not_contains (by decide)] at h
  cases h

theorem sampleJoinBegin_planned :
    (Job.joinBegin sampleJoinBegin sampleRevision (sampleDigest '4')).plan
      (commentsText [sampleBeginComment]) = .ok (ExistingJoin.beginComment sampleJoinBegin) := by
  refine (ExistingJoin.planBegin_eq_ok (reads_commentsText _)).mpr ⟨sampleJoinBegin_valid, ?_, ?_, ?_, rfl⟩
  · exact sampleBeginComment_marks.marked_skip (by decide) []
  · intro b hb
    rw [List.mem_singleton.mp hb]
    exact sampleBeginComment_admissible
  · exact sampleBeginComment_marks.marked_skip (by decide) []

theorem sampleJoinCommit_planned :
    (Job.joinCommit sampleJoinIntent sampleRevision (sampleDigest '4')).plan
        (commentsText [sampleBeginComment, ExistingJoin.beginComment sampleJoinBegin]) =
      .ok (ExistingJoin.commitComment sampleJoinIntent) := by
  have hmarks := ExistingJoin.marks_begin sampleJoinBegin_valid
  refine (ExistingJoin.plan_eq_ok (reads_commentsText _)).mpr
    ⟨sampleJoinIntent_valid, ⟨sampleJoinBegin, ?_, sampleJoinBegin_valid, rfl, rfl, rfl, rfl, rfl⟩, ?_, ?_,
      rfl⟩
  · exact (sampleBeginComment_marks.marked_skip (by decide) _).trans (hmarks.marked_cons (by decide) [])
  · intro b hb
    rcases List.mem_pair.mp hb with rfl | rfl
    · exact sampleBeginComment_admissible
    · exact ExistingJoin.admissible_begin sampleJoinBegin_valid
  · exact (sampleBeginComment_marks.marked_skip (by decide) _).trans (hmarks.marked_skip (by decide) [])

theorem sampleCommit_planned_after_join :
    (Job.commitIntent sampleCommit sampleBeginComment).plan
        (commentsText [sampleBeginComment, ExistingJoin.beginComment sampleJoinBegin,
          ExistingJoin.commitComment sampleJoinIntent]) = .ok sampleIntentComment := by
  have hreads := (reads_commentsText [sampleBeginComment, ExistingJoin.beginComment sampleJoinBegin,
    ExistingJoin.commitComment sampleJoinIntent]).readComments
  have hbegin := sampleBeginComment_marks
  have hjoinBegin := ExistingJoin.marks_begin sampleJoinBegin_valid
  have hjoinCommit := ExistingJoin.marks_commit sampleJoinIntent_valid
  refine (InitialJournal.planPairedCommit_eq_ok hreads).mpr ⟨sampleCommit_context ?_ ?_, ?_, rfl⟩
  · simp [NoBlank, hbegin.not_blank, hjoinBegin.not_blank, hjoinCommit.not_blank]
  · refine (hbegin.marked_cons (by decide) _).trans (congrArg (sampleBeginComment :: ·) ?_)
    exact (hjoinBegin.marked_skip (by decide) _).trans (hjoinCommit.marked_skip (by decide) [])
  · refine (hbegin.marked_skip (by decide) _).trans ?_
    exact (hjoinBegin.marked_skip (by decide) _).trans (hjoinCommit.marked_skip (by decide) [])

/-- A COMMIT_INTENT is planned, appended and verified behind a join COMMIT that was read back. -/
theorem commit_and_join :
    ∃ s, journal.Reaches (journal.start []) s ∧ ∃ v ∈ s.accepted, ∃ w ∈ s.accepted,
      Job.firstUse v.job = some .commitIntent ∧ Job.isJoinCommit w.job = true := by
  have hstart : journal.Reaches (journal.start []) (journal.start []) := .refl
  have hbegin := journal_perform hstart rfl sampleBegin_planned
  have hjoinBegin := hbegin.reserve (journal_plans sampleJoinBegin_planned)
  have hjoin := journal_join hjoinBegin sampleJoinCommit_planned
  have hcommit := journal_perform hjoin rfl sampleCommit_planned_after_join
  exact ⟨_, hcommit, _, .head _, _, .tail _ (.head _), rfl, rfl⟩

/-- A first use with its commit, on a journal without a join. -/
theorem commit_excludes_join_sample :
    ∃ s, journal.GuardedReaches CommitsWithoutJoin (journal.start []) s ∧
      (∃ v ∈ s.accepted, Job.firstUse v.job = some .commitIntent) ∧
      ¬ ∃ v ∈ s.accepted, ∃ w ∈ s.accepted,
        Job.firstUse v.job = some .commitIntent ∧ Job.isJoinCommit w.job = true := by
  have hclear : ∀ j, CommitsWithoutJoin j [sampleBeginComment] ∧
      CommitsWithoutJoin j [sampleBeginComment, sampleIntentComment] := fun j =>
    ⟨fun _ => sampleBeginComment_marks.marked_skip (by decide) [], fun _ =>
      (sampleBeginComment_marks.marked_skip (by decide) _).trans
        (sampleIntentComment_marks.marked_skip (by decide) [])⟩
  have hstart : journal.GuardedReaches CommitsWithoutJoin (journal.start []) (journal.start []) := .refl
  have hbegin := hstart.perform (journal_plans sampleBegin_planned)
      (journal_verifies (verify_of_plan (k := .initialBegin)
    rfl (reads_commentsText _) sampleBegin_planned (reads_commentsText _))) (fun _ => rfl) (hclear _).1
  have hcommit := hbegin.perform (journal_plans sampleCommit_planned) (journal_verifies (verify_of_plan
    (k := .commitIntent) rfl (reads_commentsText _) sampleCommit_planned (reads_commentsText _)))
    (hclear _).1 (hclear _).2
  exact ⟨_, hcommit, ⟨_, .head _, rfl⟩, commit_excludes_join [] _ hcommit⟩

end EdgePlatform.Orchestrator
