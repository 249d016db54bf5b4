import EdgePlatform.Credential.Bundle
import EdgePlatform.Foundation.Comments
import Mathlib.Data.List.SplitBy

/-!
# `EdgePlatform.Orchestrator.WorkerBegins` — the BEGIN reservations of a VM Worker

A run that deploys the Worker of a machine first reserves its operation by a BEGIN comment. A later run reads
the comments of the issue and collects the BEGINs of its machine (`priorBegins`): each of them has to be
reconciled before the run may reserve its own, so one that is overlooked is replayed.

An accepted history is collected completely from its marked lines: the BEGINs returned are, in order, the
comments that begin with the marker family and name the machine (`scanBegins_eq_ok`). A marker that does not
stand at the beginning of a comment is overlooked, unlike in the credential journals, which refuse a
displaced marker (`ExistingJoin.judgeBegin`).
-/

namespace EdgePlatform.Orchestrator.WorkerBegins

open Foundation Credential

def beginPrefix : String := "<!-- sing-box-vm-worker-authorizer-begin/v1 machine="

def beginFamily : String := "<!-- sing-box-vm-worker-authorizer-begin/"

def issue26 : String := "https://api.github.com/repos/iamaman11/sing-box/issues/26"

def botId : UInt64 := 41898282

/-- A BEGIN of an earlier run. -/
structure PriorBegin where
  operatorCommentId : UInt64
  sourceRevision : String
  githubRunId : UInt64
  deriving DecidableEq

/-- The marker of a machine. -/
def machinePrefix (machineId : String) : String := beginPrefix ++ machineId ++ " "

def scope (machineId : String) : String := " machine=" ++ machineId ++ " "

def malformed : String := "HOST_VM_WORKER_PRIOR_BEGIN_MALFORMED_NO_REPLAY"

/-- A positive number without leading zeros, after its label. -/
def idAfter (part label : String) : Except String UInt64 := do
  let digits ← okOr (stripPrefix part label) malformed
  rejectIf (startsWith digits "0" = true ∨ (utf8 digits).all isAsciiDigit = false) malformed
  okOr ((parseU64 digits).filter fun id => 0 < id) malformed

/-- The fields behind the marker. -/
def parseFields (fields : String) : Except String PriorBegin := do
  let fields ← okOr (stripSuffix fields " -->") malformed
  match fields.toList.splitOn ' ' with
  | [comment, revision, run] => do
      let operatorCommentId ← idAfter (String.ofList comment) "comment="
      let sourceRevision ← okOr (stripPrefix (String.ofList revision) "revision=") malformed
      rejectIf (isLowerHexText sourceRevision 40 = false) malformed
      let githubRunId ← idAfter (String.ofList run) "run="
      pure ⟨operatorCommentId, sourceRevision, githubRunId⟩
  | _ => .error malformed

/-- Written by the workflow's own account on the journal issue, and never edited. -/
def trusted (entry : Json) : Bool :=
  ((entry.get "user").bind (Json.get "id")).bind Json.asU64 == some botId &&
    (entry.get "issue_url").bind Json.asStr == some issue26 &&
    ((entry.get "created_at").bind Json.asStr).isSome && entry.get "created_at" == entry.get "updated_at"

def bodyOf (entry : Json) : String := (bodyValue entry).getD ""

/-- The loop over the comments, with the operator comments and the runs seen so far. -/
def scanBegins (machineId : String) : List UInt64 → List UInt64 → List Json → Except String (List PriorBegin)
  | _, _, [] => .ok []
  | seenComments, seenRuns, entry :: rest => do
      rejectIf (startsWith (bodyOf entry) beginFamily = true ∧
          contains (bodyOf entry) (scope machineId) = true ∧
          startsWith (bodyOf entry) (machinePrefix machineId) = false)
        "HOST_VM_WORKER_PRIOR_BEGIN_VERSION_UNPROVEN_NO_REPLAY"
      match stripPrefix (bodyOf entry) (machinePrefix machineId) with
      | none => scanBegins machineId seenComments seenRuns rest
      | some fields => do
          let begun ← parseFields fields
          rejectIf (trusted entry = false ∨ begun.operatorCommentId ∈ seenComments ∨
            begun.githubRunId ∈ seenRuns)
            "HOST_VM_WORKER_PRIOR_BEGIN_UNTRUSTED_NO_REPLAY"
          let found ← scanBegins machineId (begun.operatorCommentId :: seenComments)
              (begun.githubRunId :: seenRuns) rest
          pure (begun :: found)

/-- The BEGINs of a machine in at most 3000 comments. -/
def priorBegins (history machineId : String) : Except String (List PriorBegin) := do
  let records ← okOr (readRows history) "HOST_VM_WORKER_HISTORY_MALFORMED_NO_REPLAY"
  rejectIf (records.length > 3000) "HOST_VM_WORKER_HISTORY_UNBOUNDED_NO_REPLAY"
  scanBegins machineId [] [] records

/-! ## What is read -/

/-- The comment that a BEGIN was read from. -/
def PriorBegin.text (machineId : String) (b : PriorBegin) : String :=
  machinePrefix machineId ++ "comment=" ++ decimal b.operatorCommentId.toNat ++ " revision=" ++
    b.sourceRevision ++ " run=" ++ decimal b.githubRunId.toNat ++ " -->"

/-- An identifier without leading zero is the decimal text of its number. -/
theorem idAfter_eq_ok {part label : String} {id : UInt64} (h : idAfter part label = .ok id) :
    part = label ++ decimal id.toNat := by
  simp only [idAfter, ok_iff, not_or, Bool.not_eq_true, Bool.not_eq_false, Option.filter_eq_some_iff] at h
  obtain ⟨digits, hstrip, ⟨hzero, hdigits⟩, hparse, -⟩ := h
  have hplus : '+' ∉ digits.toList := not_mem_of_bytes hdigits (by decide)
  rw [stripPrefix_eq_some.mp hstrip, ← eq_decimal_of_parseU64 hparse hplus hzero]

variable {fields machineId : String}

/-- The fields that are read are the comment behind its marker. -/
theorem parseFields_eq_ok {b : PriorBegin} (h : parseFields fields = .ok b) (machineId : String) :
    machinePrefix machineId ++ fields = b.text machineId := by
  simp only [parseFields, ok_iff] at h
  obtain ⟨inner, hsuffix, h⟩ := h
  rw [stripSuffix_eq_some.mp hsuffix]
  split at h
  · next comment revision run hpieces =>
      simp only [ok_iff, pure_eq_ok] at h
      obtain ⟨commentId, hcomment, sha, hrevision, -, runId, hrun, rfl⟩ := h
      have hinner : [' '].intercalate (inner.toList.splitOn ' ') = inner.toList :=
        List.intercalate_splitOn ' '
      rw [hpieces] at hinner
      have hcomment := congrArg String.toList (idAfter_eq_ok hcomment)
      have hrevision := congrArg String.toList (stripPrefix_eq_some.mp hrevision)
      have hrun := congrArg String.toList (idAfter_eq_ok hrun)
      rw [String.toList_ofList] at hcomment hrevision hrun
      apply String.toList_inj.mp
      simp [PriorBegin.text, ← hinner, List.intercalate, hcomment, hrevision, hrun]
  · cases h

/-- The comment begins with the marker family and names the machine. -/
def begins (machineId : String) (entry : Json) : Bool :=
  startsWith (bodyOf entry) beginFamily && contains (bodyOf entry) (scope machineId)

theorem begins_of_machinePrefix {entry : Json}
    (h : bodyOf entry = machinePrefix machineId ++ fields) : begins machineId entry = true := by
  have hmarker : beginPrefix = beginFamily ++ "v1" ++ " machine=" := by decide
  rw [begins, Bool.and_eq_true, startsWith_iff, contains_iff, h, machinePrefix, hmarker]
  refine ⟨⟨("v1" ++ " machine=" ++ machineId ++ " " ++ fields).toList, ?_⟩,
    ⟨(beginFamily ++ "v1").toList, fields.toList, ?_⟩⟩
  · simp
  · simp [scope]

/-- **What an accepted history returns**: the comments that begin with the marker family and name the
machine, in order. -/
theorem scanBegins_eq_ok {entries : List Json} {comments runs : List UInt64}
    {found : List PriorBegin} (h : scanBegins machineId comments runs entries = .ok found) :
    List.Forall₂ (fun entry b => bodyOf entry = b.text machineId)
      (entries.filter (begins machineId)) found := by
  induction entries generalizing comments runs found with
  | nil =>
    cases h
    exact .nil
  | cons entry rest ih =>
    simp only [scanBegins, ok_iff] at h
    obtain ⟨hversion, h⟩ := h
    cases hfields : stripPrefix (bodyOf entry) (machinePrefix machineId) with
    | none =>
      -- skipped, so it does not begin with the family and name the machine
      have hskipped : begins machineId entry ≠ true := by
        intro hbegins
        refine hversion ⟨(Bool.and_eq_true_iff.mp hbegins).1, (Bool.and_eq_true_iff.mp hbegins).2, ?_⟩
        rw [← Bool.not_eq_true]
        intro hstarts
        obtain ⟨rest, hrest⟩ := startsWith_iff.mp hstarts
        have htext : bodyOf entry = machinePrefix machineId ++ String.ofList rest := by
          apply String.toList_inj.mp
          rw [← hrest, String.toList_append, String.toList_ofList]
        rw [stripPrefix_eq_some.mpr htext] at hfields
        cases hfields
      rw [List.filter_cons_of_neg hskipped]
      rw [hfields] at h
      exact ih h
    | some fields =>
      have htext := stripPrefix_eq_some.mp hfields
      rw [List.filter_cons_of_pos (begins_of_machinePrefix htext)]
      simp only [hfields, ok_iff, pure_eq_ok] at h
      obtain ⟨b, hparse, -, later, hlater, rfl⟩ := h
      exact .cons (htext.trans (parseFields_eq_ok hparse machineId)) (ih hlater)

/-- **Which BEGINs of a machine an accepted history lists**: of the comments that contain the marker family
    and the scope of the machine, those that begin with the marker. -/
theorem begin_listed_iff {history machineId : String} {found : List PriorBegin}
    (h : priorBegins history machineId = .ok found) :
    ∃ entries, readRows history = some entries ∧
      List.Forall₂ (fun entry b => bodyOf entry = b.text machineId)
      (entries.filter (begins machineId)) found ∧ ∀ entry ∈ entries,
        contains (bodyOf entry) beginFamily = true → contains (bodyOf entry) (scope machineId) = true →
        ((∃ b ∈ found, bodyOf entry = b.text machineId) ↔ startsWith (bodyOf entry) beginFamily = true) := by
  simp only [priorBegins, ok_iff] at h
  obtain ⟨entries, hread, -, hscan⟩ := h
  have hfound := scanBegins_eq_ok hscan
  refine ⟨entries, hread, hfound, fun entry hentry _ hscope => ⟨?_, fun hstarts => ?_⟩⟩
  · rintro ⟨b, -, htext⟩
    have hmarker : bodyOf entry = machinePrefix machineId ++
        ("comment=" ++ decimal b.operatorCommentId.toNat ++ " revision=" ++ b.sourceRevision ++ " run=" ++
          decimal b.githubRunId.toNat ++ " -->") := by
      rw [htext, PriorBegin.text]
      simp only [String.append_assoc]
    have hbegins := begins_of_machinePrefix hmarker
    exact (Bool.and_eq_true_iff.mp hbegins).1
  · have hmem : entry ∈ entries.filter (begins machineId) :=
      List.mem_filter.mpr ⟨hentry, Bool.and_eq_true_iff.mpr ⟨hstarts, hscope⟩⟩
    obtain ⟨k, hk, hget⟩ := List.mem_iff_getElem.mp hmem
    have hk' : k < found.length := hfound.length_eq ▸ hk
    refine ⟨found[k], List.getElem_mem hk', ?_⟩
    rw [← hget]
    exact hfound.get hk hk'

/-- A BEGIN as the workflow records it. -/
def sampleBegin : PriorBegin := ⟨12, "eae7bd8f89bf37bbe4eb61683d6bf59bad4a261b", 23⟩

def sampleEntry : Json :=
  .obj [("body", .str (sampleBegin.text "edge-1")), ("user", .obj [("id", .int 41898282)]),
    ("issue_url", .str issue26), ("created_at", .str "2026-10-23T23:33:49Z"),
    ("updated_at", .str "2026-10-23T23:33:49Z")]

set_option maxRecDepth 8000 in
theorem recorded_begin_listed : ∃ history, priorBegins history "edge-1" = .ok [sampleBegin] ∧
    ∃ entries, readRows history = some entries ∧
      List.Forall₂ (fun entry b => bodyOf entry = b.text "edge-1") (entries.filter (begins "edge-1"))
      [sampleBegin] ∧ ∀ entry ∈ entries, contains (bodyOf entry) beginFamily = true → contains (bodyOf entry)
        (scope "edge-1") = true →
        ((∃ b ∈ [sampleBegin], bodyOf entry = b.text "edge-1") ↔
          startsWith (bodyOf entry) beginFamily = true) := by
  have hread : readRows (Json.arr [sampleEntry]).compact = some [sampleEntry] := by
    rw [readRows, Json.parse_compact _ (by decide)]
    rfl
  have hbegins : priorBegins (Json.arr [sampleEntry]).compact "edge-1" = .ok [sampleBegin] := by
    rw [priorBegins, hread]
    decide
  exact ⟨_, hbegins, begin_listed_iff hbegins⟩

set_option maxRecDepth 8000 in
/-- A BEGIN behind a line break is overlooked. -/
theorem displaced_begin_overlooked : ∃ history entries, readRows history = some entries ∧
    priorBegins history "edge-1" = .ok [] ∧
    ∃ entry ∈ entries, contains (bodyOf entry) beginFamily = true ∧
    contains (bodyOf entry) (scope "edge-1") = true := by
  have hread : readRows (Json.arr [.obj [("body", .str ("\n" ++ sampleBegin.text "edge-1"))]]).compact =
      some [.obj [("body", .str ("\n" ++ sampleBegin.text "edge-1"))]] := by
    rw [readRows, Json.parse_compact _ (by decide)]
    rfl
  refine ⟨_, _, hread, ?_, _, .head _, ?_⟩
  · rw [priorBegins, hread]
    decide
  · decide

end EdgePlatform.Orchestrator.WorkerBegins
