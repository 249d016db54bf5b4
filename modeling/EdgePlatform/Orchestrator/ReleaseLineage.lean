import EdgePlatform.Orchestrator.Coordination

/-!
# `EdgePlatform.Orchestrator.ReleaseLineage` — the milestones between a BEGIN and its COMMIT_INTENT

A COMMIT_INTENT may be for another release than the BEGIN it refers to, if the Windows program was prepared
and staged for that release in between. `requirePairedReleaseLineage` looks for the two milestone comments in
one pass (`milestones_eq_ok`): each family has one comment, of this release and original run, and the
preparation comes before the stage.

The pass compares the milestones with each other, and not with the BEGIN or the intent. An intent that was
planned on the comments so far does stand behind all three (`lineage_ordered`).
-/

namespace EdgePlatform.Orchestrator.InitialJournal

open Foundation Credential

variable {request : PairedCommitPlan} {history originalBegin exact : String}

/-! ## One pass over the comments -/

/-- A program-prepare of the release and original run of the request. -/
def IsPrepare (request : PairedCommitPlan) (body : String) : Prop :=
  ∃ raw record, body = prepareMarker ++ raw ∧ programPrepareFields.codec.ofText raw = some record ∧
    record.schema = "sing-box.windows-program-prepare/v1" ∧ record.phase = "BEGIN" ∧
    record.originalRunId = request.originalRunId ∧ record.githubRunId ≠ 0 ∧
    record.githubRunId ≠ request.originalRunId ∧ record.sourceRevision = request.acceptedRevision ∧
    record.releaseSetSha256 = request.releaseSetSha256

/-- A persistent-stage of the release, slot and original run of the request. -/
def IsStage (request : PairedCommitPlan) (body : String) : Prop :=
  ∃ raw record, body = stageMarker ++ raw ∧ persistentStageFields.codec.ofText raw = some record ∧
    record.schema = "sing-box.windows-persistent-initial-stage/v1" ∧ record.phase = "BEGIN" ∧
    record.originalRunId = request.originalRunId ∧ record.githubRunId ≠ 0 ∧
    record.githubRunId ≠ request.originalRunId ∧ record.slot = request.slot ∧
    record.sourceRevision = request.acceptedRevision ∧ record.releaseSetSha256 = request.releaseSetSha256

variable {body : String}

section Scan

variable {family : String} {good : String → Prop}

/-- One comment: a marked one has to be good and the first. -/
def Step (family : String) (good : String → Prop) (index : Nat) (body : String)
    (before after : Option Nat) : Prop :=
  if contains body family then before = none ∧ good body ∧ after = some index else after = before

/-- All comments: at most one is marked, and it is good and the first. -/
def Scan (family : String) (good : String → Prop) (index : Nat) (bodies : List String)
    (before after : Option Nat) :
    Prop :=
  (marked family bodies = [] ∧ after = before) ∨
    (before = none ∧ ∃ front body back, bodies = front ++ body :: back ∧ good body ∧
      marked family bodies = [body] ∧ after = some (index + front.length))

theorem contains_of_marked {bodies : List String} (h : marked family bodies = [body]) :
    contains body family = true := by
  have hmem : body ∈ marked family bodies := h ▸ List.mem_singleton_self body
  exact (mem_marked.mp hmem).2

/-- **A pass is a step and the rest of the pass.** -/
theorem scan_cons {index : Nat} {b : String} {rest : List String} {before after : Option Nat} :
    Scan family good index (b :: rest) before after ↔
      ∃ mid, Step family good index b before mid ∧ Scan family good (index + 1) rest mid after := by
  by_cases hb : contains b family = true
  · have hmarked : marked family (b :: rest) = b :: marked family rest := List.filter_cons_of_pos hb
    simp only [Scan, Step, hb, if_true, hmarked, reduceCtorEq, false_and, false_or]
    constructor
    · rintro ⟨rfl, front, body, back, hsplit, hgood, hsole, rfl⟩
      obtain ⟨rfl, hnone⟩ := List.cons.inj hsole
      cases front with
      | nil => exact ⟨some index, ⟨rfl, hgood, rfl⟩, .inl ⟨hnone, rfl⟩⟩
      | cons c front =>
        -- the comment would be marked a second time
        have hmem : b ∈ marked family rest := by
          rw [(List.cons.inj hsplit).2]
          exact mem_marked.mpr ⟨by simp, hb⟩
        rw [hnone] at hmem
        cases hmem
    · rintro ⟨mid, ⟨rfl, hgood, rfl⟩, ⟨hnone, rfl⟩ | ⟨hmid, -⟩⟩
      · exact ⟨rfl, [], b, rest, rfl, hgood, by rw [hnone], rfl⟩
      · cases hmid
  · have hmarked : marked family (b :: rest) = marked family rest := List.filter_cons_of_neg hb
    simp only [Scan, Step, hb, if_false, hmarked, exists_eq_left, Bool.false_eq_true]
    refine or_congr_right (and_congr_right fun _ => ⟨?_, ?_⟩)
    · rintro ⟨front, body, back, hsplit, hgood, hsole, rfl⟩
      cases front with
      | nil => exact absurd ((List.cons.inj hsplit).1 ▸ contains_of_marked hsole) hb
      | cons c front =>
        refine ⟨front, body, back, (List.cons.inj hsplit).2, hgood, hsole, ?_⟩
        rw [List.length_cons, Nat.add_assoc, Nat.add_comm 1]
    · rintro ⟨front, body, back, rfl, hgood, hsole, rfl⟩
      refine ⟨b :: front, body, back, rfl, hgood, hsole, ?_⟩
      rw [List.length_cons, Nat.add_assoc, Nat.add_comm 1]

end Scan

variable {index : Nat} {seen after : Option Nat} {bodies : List String}

theorem milestone_eq_ok {α : Type} {family marker e e' e'' : String} {read : String → Option α}
    {bad : α → Prop} [∀ record, Decidable (seen ≠ none ∨ bad record)] : (do
      if contains body family then
        let raw ← okOr (stripPrefix body marker) e
        let record ← okOr (read raw) e'
        rejectIf (seen ≠ none ∨ bad record) e''
        pure (some index)
      else pure seen) = .ok after ↔
      Step family (fun body => ∃ raw record, body = marker ++ raw ∧ read raw = some record ∧ ¬ bad record)
      index body seen
        after := by
  unfold Step
  by_cases hb : contains body family = true
  · simp only [hb, if_true, ok_iff, stripPrefix_eq_some, not_or, not_not, pure_eq_ok]
    constructor
    · rintro ⟨raw, hraw, record, hread, ⟨hseen, hrecord⟩, rfl⟩
      exact ⟨hseen, ⟨raw, record, hraw, hread, hrecord⟩, rfl⟩
    · rintro ⟨hseen, ⟨raw, record, hraw, hread, hrecord⟩, rfl⟩
      exact ⟨raw, hraw, record, hread, ⟨hseen, hrecord⟩, rfl⟩
  · simp only [hb, if_false, pure_eq_ok, Bool.false_eq_true]
    exact eq_comm

theorem prepareMilestone_eq_ok :
    prepareMilestone request index body seen = .ok after ↔
      Step prepareFamily (IsPrepare request) index body seen after :=
  milestone_eq_ok.trans (by simp only [not_or, not_not, ne_eq, Step, IsPrepare])

theorem stageMilestone_eq_ok :
    stageMilestone request index body seen = .ok after ↔
      Step stageFamily (IsStage request) index body seen after :=
  milestone_eq_ok.trans (by simp only [not_or, not_not, ne_eq, Step, IsStage])

/-- **The pass over a history** is a pass for each family. -/
theorem milestones_eq_ok {seen after : Milestones} :
    milestones request index bodies seen = .ok after ↔
      Scan prepareFamily (IsPrepare request) index bodies seen.prepareIndex after.prepareIndex ∧
        Scan stageFamily (IsStage request) index bodies seen.stageIndex after.stageIndex := by
  induction bodies generalizing index seen with
  | nil =>
    obtain ⟨p, s⟩ := seen
    obtain ⟨p', s'⟩ := after
    simp [milestones, Scan, marked, eq_comm]
  | cons b rest ih =>
    simp only [milestones, ok_iff, prepareMilestone_eq_ok, stageMilestone_eq_ok, ih, scan_cons]
    constructor
    · rintro ⟨p, hp, s, hs, hprepare, hstage⟩
      exact ⟨⟨p, hp, hprepare⟩, s, hs, hstage⟩
    · rintro ⟨⟨p, hp, hprepare⟩, s, hs, hstage⟩
      exact ⟨p, hp, s, hs, hprepare, hstage⟩

/-- Both milestones occur once, the preparation first. -/
def OrderedMilestones (request : PairedCommitPlan) (bodies : List String) (prepare stage : String) : Prop :=
  IsPrepare request prepare ∧ IsStage request stage ∧ marked prepareFamily bodies = [prepare] ∧
    marked stageFamily bodies = [stage] ∧ [prepare, stage].Sublist bodies

theorem exists_milestones (h : requireOrderedMilestones request bodies = .ok ()) :
    ∃ prepare stage, OrderedMilestones request bodies prepare stage := by
  simp only [requireOrderedMilestones, ok_iff, milestones_eq_ok] at h
  obtain ⟨⟨p, s⟩, ⟨hprepare, hstage⟩, h⟩ := h
  rcases hprepare with ⟨-, rfl⟩ | ⟨-, front, prepare, back, hsplit, hgood, hsole, rfl⟩
  · cases h
  rcases hstage with ⟨-, rfl⟩ | ⟨-, front', stage, back', hsplit', hgood', hsole', rfl⟩
  · cases h
  refine ⟨prepare, stage, hgood, hgood', hsole, hsole', ?_⟩
  have hlt : front.length < front'.length := by simpa using h
  -- the preparation is among the comments in front of the stage
  have hget : front'[front.length]? = some prepare := by
    have hcommon := congrArg (fun l => l[front.length]?) (hsplit.symm.trans hsplit')
    simpa [List.getElem?_append_left hlt, List.getElem?_append_right] using hcommon.symm
  have hfront : [prepare].Sublist front' := List.singleton_sublist.mpr (List.mem_of_getElem? hget)
  rw [hsplit']
  exact hfront.append (List.singleton_sublist.mpr (.head _))

/-! ## What a verified intent says -/

theorem exists_comments (h : verifyPairedCommitIntent request history originalBegin exact = .ok ()) :
    ∃ bodies, readComments history = some bodies := by
  simp only [verifyPairedCommitIntent, ok_iff, Prod.exists] at h
  obtain ⟨-, original, -, -, first, body, -, -, actual, -, -, records, hrecords, -⟩ := h
  simp only [commitRecords, ok_iff] at hrecords
  obtain ⟨bodies, hreads, -⟩ := hrecords
  exact ⟨bodies, hreads⟩

/-- The milestones of the comments so far are those of all comments. -/
theorem OrderedMilestones.eq_of_append {before later : List String} {prepare stage prepare' stage' : String}
    (h : OrderedMilestones request (before ++ later) prepare stage)
    (h' : OrderedMilestones request before prepare' stage') : prepare' = prepare ∧ stage' = stage := by
  have hall : ∀ {family x y : String}, marked family (before ++ later) = [x] →
      marked family before = [y] → y = x := by
    intro family x y hx hy
    rw [marked, List.filter_append, ← marked, hy] at hx
    exact (List.cons.inj hx).1
  exact ⟨hall h.2.2.1 h'.2.2.1, hall h.2.2.2.1 h'.2.2.2.1⟩

/-- **Release lineage.** A verified intent for another release than the BEGIN's has one program-prepare and
    one persistent-stage of its release and original run, in this order. If it was planned on the comments
    before it, both and the BEGIN come before it. -/
theorem lineage_ordered (h : verifyPairedCommitIntent request history originalBegin exact = .ok ()) :
    ∃ bodies original, readComments history = some bodies ∧ IsBegin originalBegin original ∧
      marked markerFamily bodies = [originalBegin] ∧ marked pairedCommitMarkerFamily bodies = [exact] ∧
      (¬ (original.releaseSourceRevision = request.acceptedRevision ∧
          original.releaseSetSha256 = request.releaseSetSha256) →
        ∃ prepare stage, OrderedMilestones request bodies prepare stage ∧
          ∀ planned before later, bodies = before ++ later → readComments planned = some before →
            planPairedCommit request planned originalBegin = .ok exact →
            [prepare, stage, exact].Sublist bodies ∧ [originalBegin, exact].Sublist bodies) := by
  obtain ⟨bodies, hreads⟩ := exists_comments h
  obtain ⟨hcontext, -, hsole⟩ := (verifyPairedCommitIntent_eq_ok hreads).mp h
  obtain ⟨original, hbegin, -, -, -, hlineage⟩ := hcontext.original
  refine ⟨bodies, original, hreads, hbegin, hcontext.sole, hsole, fun hother => ?_⟩
  obtain ⟨prepare, stage, hordered⟩ := exists_milestones (hlineage.resolve_left hother)
  refine ⟨prepare, stage, hordered, ?_⟩
  rintro planned before later rfl hplanned hplan
  obtain ⟨hcontext', hnone, -⟩ := (planPairedCommit_eq_ok hplanned).mp hplan
  obtain ⟨original', hbegin', -, -, -, hlineage'⟩ := hcontext'.original
  obtain rfl := hbegin'.unique hbegin
  obtain ⟨prepare', stage', hordered'⟩ := exists_milestones (hlineage'.resolve_left hother)
  obtain ⟨rfl, rfl⟩ := hordered.eq_of_append hordered'
  -- no intent was there when it was planned
  have hlater : [exact].Sublist later := by
    rw [marked, List.filter_append, ← marked, hnone, List.nil_append] at hsole
    exact hsole ▸ List.filter_sublist
  have hbefore : [originalBegin].Sublist before := hcontext'.sole ▸ List.filter_sublist
  exact ⟨hordered'.2.2.2.2.append hlater, hbefore.append hlater⟩

/-! ## A commit for an upgraded release -/

def upgradedCommit : PairedCommitPlan := { sampleCommit with releaseSetSha256 := sampleDigest '9' }

def upgradedPrepare : String := prepareMarker ++ programPrepareFields.codec.text
  ⟨"sing-box.windows-program-prepare/v1", "BEGIN", 11, 14, sampleRevision, sampleDigest '9'⟩

def upgradedStage : String := stageMarker ++ persistentStageFields.codec.text
  ⟨"sing-box.windows-persistent-initial-stage/v1", "BEGIN", 11, 15, "B", sampleDigest '9', sampleRevision⟩

def upgradedIntent : String :=
  pairedCommitMarker ++ "\n" ++ pairedCommitFields.codec.text
    (pairedCommitRecord upgradedCommit sampleBeginComment)

theorem isPrepare_upgraded : IsPrepare upgradedCommit upgradedPrepare :=
  ⟨_, _, rfl, JsonCodec.ofText_text _ (by decide) _, rfl, rfl, rfl, by decide, by decide, rfl, rfl⟩

theorem isStage_upgraded : IsStage upgradedCommit upgradedStage :=
  ⟨_, _, rfl, JsonCodec.ofText_text _ (by decide) _, rfl, rfl, rfl, by decide, by decide, rfl, rfl, rfl⟩

theorem upgradedPrepare_marks : Marks "<!-- sing-box-windows-program-prepare/v1 -->" upgradedPrepare := by
  refine ⟨by decide, _, rfl, programPrepareFields.not_mem_text (by decide) (by decide) ?_⟩
  decide

theorem upgradedStage_marks :
    Marks "<!-- sing-box-windows-persistent-initial-stage/v1 -->" upgradedStage := by
  refine ⟨by decide, _, rfl, persistentStageFields.not_mem_text (by decide) (by decide) ?_⟩
  decide

theorem upgradedIntent_marks : Marks pairedCommitMarker upgradedIntent :=
  marks_intent sampleBeginComment (by decide)

/-- Each family has one of the four comments. -/
theorem upgraded_marked
    (hperm : bodies.Perm [sampleBeginComment, upgradedPrepare, upgradedStage, upgradedIntent]) :
    marked markerFamily bodies = [sampleBeginComment] ∧ marked prepareFamily bodies = [upgradedPrepare] ∧
      marked stageFamily bodies = [upgradedStage] ∧
      marked pairedCommitMarkerFamily bodies = [upgradedIntent] := by
  have hbegin := sampleBeginComment_marks
  have hprepare := upgradedPrepare_marks
  have hstage := upgradedStage_marks
  have hintent := upgradedIntent_marks
  have hsole : ∀ {family x : String},
      marked family [sampleBeginComment, upgradedPrepare, upgradedStage, upgradedIntent] = [x] →
        marked family bodies = [x] := by
    intro family x h
    have hfilter : (marked family bodies).Perm [x] := h ▸ hperm.filter _
    exact List.perm_singleton.mp hfilter
  refine ⟨hsole ?_, hsole ?_, hsole ?_, hsole ?_⟩
  · rw [hbegin.marked_cons (by decide), hprepare.marked_skip (by decide), hstage.marked_skip (by decide),
      hintent.marked_skip (by decide)]
    rfl
  · rw [hbegin.marked_skip (by decide), hprepare.marked_cons (by decide), hstage.marked_skip (by decide),
      hintent.marked_skip (by decide)]
    rfl
  · rw [hbegin.marked_skip (by decide), hprepare.marked_skip (by decide), hstage.marked_cons (by decide),
      hintent.marked_skip (by decide)]
    rfl
  · rw [hbegin.marked_skip (by decide), hprepare.marked_skip (by decide), hstage.marked_skip (by decide),
      hintent.marked_cons (by decide)]
    rfl

/-- Some of the four comments, among them the BEGIN once and the preparation before the stage. -/
theorem upgraded_context (front mid : List String) {back : List String}
    (hsub : bodies ⊆ [sampleBeginComment, upgradedPrepare, upgradedStage, upgradedIntent])
    (hsplit : bodies = front ++ upgradedPrepare :: (mid ++ upgradedStage :: back))
    (hbegin : marked markerFamily bodies = [sampleBeginComment])
    (hprepare : marked prepareFamily bodies = [upgradedPrepare])
    (hstage : marked stageFamily bodies = [upgradedStage]) :
    CommitContext upgradedCommit sampleBeginComment bodies := by
  have hblank : NoBlank bodies := by
    intro b hb
    have hb' := hsub hb
    simp only [List.mem_cons, List.not_mem_nil, or_false] at hb'
    rcases hb' with rfl | rfl | rfl | rfl
    · exact sampleBeginComment_marks.not_blank
    · exact upgradedPrepare_marks.not_blank
    · exact upgradedStage_marks.not_blank
    · exact upgradedIntent_marks.not_blank
  have hordered : requireOrderedMilestones upgradedCommit bodies = .ok () := by
    have hscan : milestones upgradedCommit 0 bodies ⟨none, none⟩ =
        .ok ⟨some (0 + front.length), some (0 + (front ++ upgradedPrepare :: mid).length)⟩ := by
      refine milestones_eq_ok.mpr ⟨.inr ⟨rfl, front, _, _, hsplit, isPrepare_upgraded, hprepare, rfl⟩,
        .inr ⟨rfl, _, _, back, ?_, isStage_upgraded, hstage, rfl⟩⟩
      rw [hsplit, List.append_assoc, List.cons_append]
    rw [requireOrderedMilestones, hscan]
    exact rejectIf_of_not (by simp)
  exact ⟨by decide, ⟨_, isBegin_planned sampleBegin_valid, rfl, rfl, rfl, .inr hordered⟩, hblank, hbegin⟩

/-- The four comments in any order that has the preparation before the stage. -/
theorem upgraded_verified (front mid : List String) {back : List String}
    (hperm : bodies.Perm [sampleBeginComment, upgradedPrepare, upgradedStage, upgradedIntent])
    (hsplit : bodies = front ++ upgradedPrepare :: (mid ++ upgradedStage :: back)) :
    verifyPairedCommitIntent upgradedCommit (commentsText bodies) sampleBeginComment upgradedIntent =
      .ok () := by
  obtain ⟨hbegin, hprepare, hstage, hintent⟩ := upgraded_marked hperm
  exact (verifyPairedCommitIntent_eq_ok (reads_commentsText bodies).readComments).mpr
    ⟨upgraded_context front mid hperm.subset hsplit hbegin hprepare hstage, isIntent_planned, hintent⟩

/-- The intent is planned on the BEGIN and the two milestones. -/
theorem upgraded_planned :
    planPairedCommit upgradedCommit (commentsText [sampleBeginComment, upgradedPrepare, upgradedStage])
      sampleBeginComment = .ok upgradedIntent := by
  obtain ⟨hbegin, hprepare, hstage, hintent⟩ := upgraded_marked (.refl _)
  -- the comments of a family among the first three are those of all four without the intent
  have hbefore : ∀ {family : String} {xs : List String},
      marked family ([sampleBeginComment, upgradedPrepare, upgradedStage] ++ [upgradedIntent]) =
        xs ++ marked family [upgradedIntent] →
      marked family [sampleBeginComment, upgradedPrepare, upgradedStage] = xs := by
    intro family xs h
    rw [marked, List.filter_append] at h
    exact List.append_cancel_right h
  have hcontext : CommitContext upgradedCommit sampleBeginComment
      [sampleBeginComment, upgradedPrepare, upgradedStage] :=
    upgraded_context [sampleBeginComment] [] (fun _ hb => List.mem_append_left [upgradedIntent] hb) rfl
    (hbefore (hbegin.trans (by rw [upgradedIntent_marks.marked_skip (by decide)]; rfl)))
    (hbefore (hprepare.trans (by rw [upgradedIntent_marks.marked_skip (by decide)]; rfl)))
    (hbefore (hstage.trans (by rw [upgradedIntent_marks.marked_skip (by decide)]; rfl)))
  refine (planPairedCommit_eq_ok (reads_commentsText _).readComments).mpr ⟨hcontext, hbefore ?_, rfl⟩
  exact hintent.trans (by rw [upgradedIntent_marks.marked_cons (by decide)]; rfl)

/-- The BEGIN, the two milestones and the intent that was planned on these three. -/
theorem upgraded_lineage :
    ∃ prepare stage,
      OrderedMilestones upgradedCommit [sampleBeginComment, upgradedPrepare, upgradedStage, upgradedIntent]
      prepare stage ∧ [prepare, stage, upgradedIntent].Sublist
        [sampleBeginComment, upgradedPrepare, upgradedStage, upgradedIntent] := by
  obtain ⟨bodies, original, hreads, hbegin, -, -, hlineage⟩ :=
    lineage_ordered (upgraded_verified [sampleBeginComment] [] (.refl _) rfl)
  rw [(reads_commentsText _).readComments] at hreads
  cases hreads
  obtain rfl := hbegin.unique (isBegin_planned sampleBegin_valid)
  obtain ⟨prepare, stage, hordered, hplanned⟩ := hlineage (by decide)
  obtain ⟨hsublist, -⟩ := hplanned _ [sampleBeginComment, upgradedPrepare, upgradedStage]
    [upgradedIntent] rfl
    (reads_commentsText _).readComments upgraded_planned
  exact ⟨prepare, stage, hordered, hsublist⟩

/-- The outer two of four comments change places. -/
theorem reversed_order {begin intent : String} (prepare stage : String) (hne : begin ≠ intent) :
    [intent, prepare, stage, begin].Perm [begin, prepare, stage, intent] ∧
      ¬ [begin, prepare, stage, intent].Sublist [intent, prepare, stage, begin] := by
  refine ⟨?_, fun hsublist => hne (List.cons.inj (hsublist.eq_of_length rfl)).1⟩
  have hintent := (List.perm_append_singleton intent [prepare, stage]).symm
  exact (List.perm_append_singleton begin [intent, prepare, stage]).trans (hintent.cons begin)

/-- The intent in front and the BEGIN behind the milestones is verified as well. -/
theorem reversed_lineage_verified :
    ∃ request originalBegin exact original prepare stage,
      verifyPairedCommitIntent request (commentsText [exact, prepare, stage, originalBegin]) originalBegin
      exact = .ok () ∧ IsBegin originalBegin original ∧
        original.releaseSetSha256 ≠ request.releaseSetSha256 ∧
      IsPrepare request prepare ∧ IsStage request stage ∧
      ¬ [originalBegin, prepare, stage, exact].Sublist [exact, prepare, stage, originalBegin] := by
  have hne : sampleBeginComment ≠ upgradedIntent := by
    intro heq
    have hcontains : contains sampleBeginComment markerFamily = true :=
      sampleBeginComment_marks.contains (by decide)
    rw [heq, upgradedIntent_marks.not_contains (by decide)] at hcontains
    cases hcontains
  obtain ⟨hperm, hreversed⟩ := reversed_order upgradedPrepare upgradedStage hne
  exact ⟨upgradedCommit, sampleBeginComment, upgradedIntent, _, upgradedPrepare, upgradedStage,
    upgraded_verified [upgradedIntent] [] hperm rfl, isBegin_planned sampleBegin_valid, by
    decide, isPrepare_upgraded, isStage_upgraded, hreversed⟩

end EdgePlatform.Orchestrator.InitialJournal
