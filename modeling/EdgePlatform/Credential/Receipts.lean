import EdgePlatform.Credential.Runs

/-!
# `EdgePlatform.Credential.Receipts` — what a receipt file can hold

A receipt comes into being by creating the file, appending its text once, and syncing it. Whatever cuts this,
the file holds a leading part of the text (`Leading`); a promotion that landed has its receipt whole and
durable, and a preparation that reported success has, too. The texts themselves are what the store's readers
accept.
-/

namespace EdgePlatform.Credential

open Foundation Foundation.Wire Foundation.Proc

variable {projection : CredentialProjectionKind} {c : StoreCall} {s w w' : StoreWorld} {n text : String}

/-! ## The content of a receipt -/

/-- Whatever a crash finds of the receipt, it is nothing or a leading part of the text. -/
def Leading (n text : String) (w : StoreWorld) : Prop :=
  ∀ v, (rootOf w).Possible n v → v = none ∨ ∃ f, v = some f ∧ f.data <+: utf8 text

/-- A call that writes this text, or nothing, to the receipt. -/
def Writes (projection : CredentialProjectionKind) (c : StoreCall) (s : StoreWorld)
    (n text : String) : Prop :=
  ∀ state text', stored s = some state → receiptOf projection c state = some (n, text') →
    (rootOf s).get n = none → text' = text

theorem Leading.crash (h : Leading n text w) (hcrash : (rootOf w).Crash (rootOf w')) :
    Leading n text w' := by
  intro v hv
  have hget : v = (rootOf w').get n := (hcrash.quietAt n v hv).1
  obtain ⟨u, hu, htorn⟩ := hcrash.entry n
  rw [← hget] at htorn
  cases htorn with
  | absent => exact .inl rfl
  | whole =>
    rcases h _ hu with hnone | ⟨f, hf, hlead⟩
    · cases hnone
    · cases hf
      exact .inr ⟨_, rfl, hlead⟩
  | cut hcut =>
    rcases h _ hu with hnone | ⟨f, hf, hlead⟩
    · cases hnone
    · cases hf
      exact .inr ⟨_, rfl, hcut.trans hlead⟩

variable {p : StoreProc (Option LocalCredentialState)} {state : LocalCredentialState}

section

variable (hs : Ready projection s)
include hs

theorem leading_steps (hn : IsReceipt n) (hwrites : Writes projection c s n text) (hlead : Leading n text s)
    (hsteps : (c.run projection).Steps storeSem s p w) : Leading n text w := by
  refine (safe_run hs c).invariant (fun op w a w' hp hw hop v hv => ?_) hlead hsteps
  rcases (hp.facts hop).written n v hn hv with hold
    | ⟨f, rfl, hempty | ⟨state, text', hstate, hreceipt, hfresh, hdata⟩⟩
  · exact hw v hold
  · exact .inr ⟨f, rfl, hempty ▸ List.nil_prefix⟩
  · exact .inr ⟨f, rfl, (hwrites state text' hstate hreceipt hfresh) ▸ hdata ▸ List.prefix_refl _⟩

/-- A turn of the call leaves a leading part. -/
theorem leading_outcome (hn : IsReceipt n) (hwrites : Writes projection c s n text)
    (hlead : Leading n text s) (hout : (storeSystem projection).Outcome c s w) : Leading n text w := by
  cases hout with
  | done hd => exact leading_steps hs hn hwrites hlead hd
  | cut hsteps hcrash => exact (leading_steps hs hn hwrites hlead hsteps).crash hcrash.1

theorem durable_steps {b : Bytes}
    (hn : IsReceipt n) (hb : (rootOf s).Durable n b) (hsteps : (c.run projection).Steps storeSem s p w) :
    (rootOf w).Durable n b :=
  (safe_run hs c).invariant (I := fun w => (rootOf w).Durable n b)
    (fun _ _ _ _ hp hw hop => (hp.facts hop).durable n b hn hw) hb hsteps

/-- A whole receipt stays. -/
theorem durable_outcome {b : Bytes} (hn : IsReceipt n) (hb : (rootOf s).Durable n b)
    (hout : (storeSystem projection).Outcome c s w) : (rootOf w).Durable n b := by
  cases hout with
  | done hd => exact durable_steps hs hn hb hd
  | cut hsteps hcrash => exact hcrash.1.durable (durable_steps hs hn hb hsteps)

/-- A call that does not promote keeps to the pointer; one that does may have made the candidate active, with
    its receipt whole. -/
theorem promoted_outcome {k : OneShot} {candidate : LocalCredentialBundleRef} (hk : c.oneShot = some k)
    (hstate : stored s = some state) (hcandidate : state.candidate = some candidate)
    (hreceipt : receiptOf projection c state = some (k.receipt, text))
    (hout : (storeSystem projection).Outcome c s w) :
    stored w = some state ∨
      (stored w = some (promoted projection state candidate) ∧
        (rootOf w).Durable k.receipt (utf8 text)) := by
  by_cases hsame : stored w = stored s
  · exact .inl (hsame.trans hstate)
  · right
    have hadmitted := (pointed_outcome hs hout).changed hsame
    obtain ⟨state', text', hstate', hreceipt', hdurable⟩ := hadmitted.receipt k hk
    rw [hstate, Option.some.injEq] at hstate'
    subst hstate'
    rw [hreceipt, Option.some.injEq, Prod.mk.injEq] at hreceipt'
    rw [← hreceipt'.2] at hdurable
    refine ⟨?_, hdurable⟩
    have htransition := hadmitted.transition
    rw [hstate] at htransition
    generalize hnext : stored w = next at htransition
    cases htransition with
    | stage hstages _ _ _ => rcases hstages with rfl | ⟨_, _, rfl, _⟩ <;> cases hk
    | promote _ hcandidate' _ =>
      rw [hcandidate, Option.some.injEq] at hcandidate'
      rw [hcandidate']
    | rollback | discard | clear | drop => cases hk

/-- A call finds nothing to promote in a state without a candidate. -/
theorem unchanged_outcome (hstate : stored s = some state)
    (hquiet : ∀ next, ¬ Transition projection c (some state) next)
    (hout : (storeSystem projection).Outcome c s w) : stored w = some state := by
  by_contra hne
  have hchanged : stored w ≠ stored s := by rwa [hstate]
  have htransition := ((pointed_outcome hs hout).changed hchanged).transition
  rw [hstate] at htransition
  exact hquiet _ htransition

/-- **A preparation that reports success has its receipt.** -/
theorem prepare_done {source candidate : LocalCredentialBundleRef} {vm begin : String}
    {a : Option LocalCredentialState}
    (hdone : (StoreCall.run projection (.prepareWindowsJoin source candidate vm begin)).Done storeSem
      s (.ok a) w) :
    (rootOf w).Durable existingJoinPrepareReceipt
      (utf8 (existingJoinPrepareText projection source candidate vm begin)) := by
  have hsafe := @safe_prepare projection s candidate hs source vm begin (fun r w => ∀ a, r = .ok a →
    (rootOf w).Durable existingJoinPrepareReceipt
    (utf8 (existingJoinPrepareText projection source candidate vm begin)))
    (fun e a h => nomatch h) fun _ _ => by
    simpa using Dir.durable_install (rootOf s) existingJoinPrepareReceipt _
  exact hsafe.done hdone a rfl

end

/-! ## The texts -/

theorem oneLine_digest {value : String} {size : Nat} (h : isLowerHexText value size = true) :
    OneLine value :=
  ⟨not_mem_of_isLowerHexText h (by decide), not_mem_of_isLowerHexText h (by decide)⟩

theorem oneLine_projectionLine (projection : CredentialProjectionKind) :
    OneLine (projectionLine projection) := by
  cases projection <;> decide

/-- The rows of a receipt: two generations with their slots and digests, and two digests more. -/
theorem oneLine_rows {header k₁ k₂ k₃ k₄ k₅ k₆ k₇ k₈ d₁ d₂ d₃ d₄ : String} {m n : Nat}
    (h₁ : validFirstUseDigest d₁ = true) (h₂ : validFirstUseDigest d₂ = true)
    (h₃ : validFirstUseDigest d₃ = true) (h₄ : validFirstUseDigest d₄ = true)
    (hkeys : [header, k₁, k₂, k₃, k₄, k₅, k₆, k₇, k₈].Forall OneLine := by decide) :
    ∀ row ∈ [header, projectionLine projection, k₁ ++ decimal m, k₂ ++ decimalI32 1, k₃ ++ d₁,
      k₄ ++ decimal n, k₅ ++ decimalI32 2, k₆ ++ d₂, k₇ ++ d₃, k₈ ++ d₄], OneLine row := by
  simp only [List.Forall] at hkeys
  obtain ⟨h, hk₁, hk₂, hk₃, hk₄, hk₅, hk₆, hk₇, hk₈⟩ := hkeys
  simp only [List.forall_mem_cons, List.not_mem_nil, false_imp_iff, implies_true, and_true]
  exact ⟨h, oneLine_projectionLine _, .append hk₁ (oneLine_decimal _), .append hk₂ (by decide),
    .append hk₃ (oneLine_digest h₁), .append hk₄ (oneLine_decimal _), .append hk₅ (by decide),
    .append hk₆ (oneLine_digest h₂), .append hk₇ (oneLine_digest h₃), .append hk₈ (oneLine_digest h₄)⟩

/-- The digest in the last line of a receipt. -/
def receiptDigest (key text : String) : Option String := (lines text).getLast?.bind (stripPrefix · key)

section Texts

variable {windowsGeneration vmGeneration : UInt64} {windowsSlot vmSlot : Int32}
variable {windowsSha vmSha windowsCandidate intent : String}

/-- The receipt of a join is one its readers accept. -/
theorem existingJoinText_wellFormed (hslots : windowsSlot = 1 ∧ vmSlot = 2)
    (hwindowsGeneration : windowsGeneration ≠ 0) (hvmGeneration : vmGeneration ≠ 0)
    (hne : windowsGeneration ≠ vmGeneration) (hwindows : validFirstUseDigest windowsSha = true)
    (hvm : validFirstUseDigest vmSha = true) (hcandidate : validFirstUseDigest windowsCandidate = true)
    (hintent : validFirstUseDigest intent = true) :
    existingJoinWellFormed projection
      (lines (existingJoinText projection windowsGeneration windowsSlot windowsSha
        vmGeneration vmSlot vmSha windowsCandidate intent)) = true ∧
      receiptDigest "intent_sha256=" (existingJoinText projection windowsGeneration windowsSlot windowsSha
        vmGeneration vmSlot vmSha windowsCandidate intent) = some intent := by
  obtain ⟨rfl, rfl⟩ := hslots
  have hlines :
      lines (existingJoinText projection windowsGeneration 1 windowsSha vmGeneration 2 vmSha windowsCandidate
      intent) = _ := lines_unlines (oneLine_rows hwindows hvm hcandidate hintent)
  have hone : parseU64 (decimalI32 1) = some 1 := by decide
  have htwo : parseU64 (decimalI32 2) = some 2 := by decide
  constructor
  · rw [hlines]
    simp [existingJoinWellFormed, hone, htwo, numberField, digestField, hwindowsGeneration,
      hvmGeneration, hne, hwindows, hvm, hcandidate, hintent]
  · rw [receiptDigest, hlines]
    simp

end Texts

section Prepare

variable {source candidate : LocalCredentialBundleRef} {vm begin : String}

/-- The receipt of a preparation is one its readers accept. -/
theorem existingJoinPrepareText_wellFormed (hslots : source.slot = 1 ∧ candidate.slot = 2)
    (hgenerations : source.generation ≠ 0 ∧ candidate.generation ≠ 0 ∧
      source.generation ≠ candidate.generation)
    (hsource : validFirstUseDigest source.sha256 = true)
    (hcandidate : validFirstUseDigest candidate.sha256 = true) (hvm : validFirstUseDigest vm = true)
    (hbegin : validFirstUseDigest begin = true) :
    existingJoinPrepareWellFormed
      (lines (existingJoinPrepareText .windows source candidate vm begin)) = true ∧
        receiptDigest "begin_sha256=" (existingJoinPrepareText .windows source candidate vm begin) =
        some begin := by
  have hlines : lines (existingJoinPrepareText .windows source candidate vm begin) = _ :=
    lines_unlines (hslots.1 ▸ hslots.2 ▸ oneLine_rows hsource hcandidate hvm hbegin)
  obtain ⟨hsourceGeneration, htargetGeneration, hne⟩ := hgenerations
  have hone : parseU64 (decimalI32 1) = some 1 := by decide
  have htwo : parseU64 (decimalI32 2) = some 2 := by decide
  rw [hslots.1, hslots.2] at hlines
  constructor
  · rw [hlines]
    simp [existingJoinPrepareWellFormed, hone, htwo, numberField, digestField, hsourceGeneration,
      htargetGeneration, hne, hsource, hcandidate, hvm, hbegin]
  · rw [receiptDigest, hlines]
    simp

end Prepare

/-! ## Reading a receipt back -/

section Read

variable {unreadable malformed : String} {wellFormed : List String → Bool}

/-- The receipt is not there, or it is whole. -/
def NotTruncated (n text : String) (w : StoreWorld) : Prop :=
  (rootOf w).get n = none ∨ (rootOf w).read n = some (utf8 text)

/-- What a reader makes of a receipt that is not truncated. -/
def readback (n text : String) (w : StoreWorld) : Option String :=
  if (rootOf w).get n = none then none else some text

theorem safe_readback (h : NotTruncated n text w) (hwellFormed : wellFormed (lines text) = true) :
    Safe storeSem (fun _ _ => True) (readReceipt n unreadable malformed wellFormed)
      (fun r w' => r = .ok (readback n text w) ∧ w' = w) w := by
  refine safe_read.mpr ⟨trivial, ?_⟩
  rcases h with hnone | hwhole
  · have hread : (rootOf w).read n = none := by simp [Dir.read, hnone]
    rw [hread, readback, if_pos hnone]
    exact ⟨rfl, rfl⟩
  · have hsome : (rootOf w).get n ≠ none := by
      intro hnone
      simp [Dir.read, hnone] at hwhole
    rw [hwhole, readback, if_neg hsome]
    refine Safe.lift_ok (okOr_eq_ok.mpr (ofUtf8_utf8 text)) ?_
    exact Safe.not_rejected (by simp [hwellFormed]) ⟨rfl, rfl⟩

theorem readback_exists (h : NotTruncated n text w) (hwellFormed : wellFormed (lines text) = true) :
    (readReceipt n unreadable malformed wellFormed).Done storeSem w (.ok (readback n text w)) w := by
  have hsafe : Safe storeSem (fun _ _ => True) (readReceipt n unreadable malformed wellFormed)
      (fun r w' => r = .ok (readback n text w) ∧ w' = w) w := safe_readback h hwellFormed
  obtain ⟨r, w', hdone, rfl, rfl⟩ := hsafe.exists_done storeSem_total
  exact hdone

theorem readback_done {found : Option String} (h : NotTruncated n text w)
    (hwellFormed : wellFormed (lines text) = true)
    (hdone : (readReceipt n unreadable malformed wellFormed).Done storeSem w (.ok found) w') :
    found = readback n text w :=
  Except.ok.inj ((safe_readback h hwellFormed).done hdone).1

end Read

end EdgePlatform.Credential
