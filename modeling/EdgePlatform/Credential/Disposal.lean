import EdgePlatform.Credential.Bound

/-!
# `EdgePlatform.Credential.Disposal` — which candidates can be discarded

`discard_candidate` of a Windows store refuses to run where the receipt of a join preparation exists. The
receipt binds one candidate, B; it is never removed. `discard_succeeds_iff` says that a discard removes the
candidate and nothing else exactly where that receipt file does not exist, whichever candidate is staged.
After a join, with B active, a later candidate C is refused as well (`discard_refused_after_join`).
-/

namespace EdgePlatform.Credential

open Foundation Foundation.Wire Foundation.Proc

variable {projection : CredentialProjectionKind} {s w w' : StoreWorld} {state : LocalCredentialState}
  {b : LocalCredentialBundleRef}

/-- A discard ends, and however it runs it reports and leaves the state without the candidate, and the bundle
    files of that state. -/
def DiscardsCandidate (w : StoreWorld) (state : LocalCredentialState) : Prop :=
  (∃ r w', (StoreCall.run .windows .discard).Done storeSem w r w') ∧
    ∀ r w', (StoreCall.run .windows .discard).Done storeSem w r w' →
      r = .ok (withoutCandidate state) ∧ stored w' = withoutCandidate state ∧ Tidy w'

theorem safe_readReceipt_absent {c : StoreCall} {α : Type} {name unreadable malformed : String}
    {wellFormed : List String → Bool} {k : Option String → StoreProc α}
    {Q : Except String α → StoreWorld → Prop} (h : (rootOf w).get name = none)
    (hk : StoreSafe projection c s (k none) Q w) :
    StoreSafe projection c s (readReceipt name unreadable malformed wellFormed >>= k) Q w := by
  have hread : (rootOf w).read name = none := by rw [Dir.read, h, Option.map_none]
  refine safe_bind.mpr (safe_read.mpr ⟨.look (.read _), ?_⟩)
  rw [hread]
  exact hk

/-- Without the receipt a discard removes the candidate. -/
theorem safe_discard_absent (hs : Ready .windows s) (hstate : stored s = some state)
    (hcandidate : state.candidate = some b) (habsent : (rootOf s).get existingJoinPrepareReceipt = none) :
    StoreSafe .windows .discard s (discardCandidate .windows)
      (fun r w' => r = .ok (withoutCandidate state) ∧ stored w' = withoutCandidate state ∧ Tidy w') s := by
  have hsome : state.candidate ≠ none := by simp [hcandidate]
  unfold discardCandidate
  refine safe_readReceipt_absent habsent (Safe.not_rejected (by simp) (safe_readState hs.consistent ?_))
  rw [hstate]
  dsimp only
  rw [if_neg hsome]
  exact safe_removeCandidate hs hstate hsome (by simp [refusedReceipts, habsent]) fun _ _ hstored htidy =>
    ⟨rfl, hstored, htidy⟩

/-- **A discard succeeds exactly where no join was prepared.** In every Windows store that a run can reach, a
    discard removes the staged candidate, keeps the active and the previous bundle and cleans up the files,
    if and only if the receipt file of a join preparation does not exist. -/
theorem discard_succeeds_iff {ts : List (storeSystem .windows).Turn} {w : StoreWorld}
    {state : LocalCredentialState} {b : LocalCredentialBundleRef}
    (hrun : (storeSystem .windows).Run provisionedStore ts w) (hstate : stored w = some state)
    (hcandidate : state.candidate = some b) :
    DiscardsCandidate w state ↔ (rootOf w).get existingJoinPrepareReceipt = none := by
  have hready := run_ready ready_provisioned hrun
  constructor
  · rintro ⟨⟨r, w', hdone⟩, hall⟩
    by_contra hreceipt
    obtain ⟨⟨e, rfl⟩, -⟩ := (discard_refused ⟨hreceipt, state, hstate, hcandidate⟩).done hdone
    cases (hall _ _ hdone).1
  · intro habsent
    have hsafe := safe_discard_absent hready hstate hcandidate habsent
    exact ⟨Proc.exists_done storeSem_total _ _, fun r w' hdone => hsafe.done hdone⟩

/-- With A active and B staged a discard leaves A. -/
theorem discard_succeeds_without_join :
    ∃ ts w, (storeSystem .windows).Run provisionedStore ts w ∧ stored w = some sampleState ∧
      DiscardsCandidate w sampleState := by
  obtain ⟨ts, w, hrun, hstored, habsent⟩ := sampleWindows_staged
  exact ⟨ts, w, hrun, hstored, (discard_succeeds_iff hrun hstored rfl).mpr (habsent _ (by decide))⟩

/-! ## A candidate after the join -/

/-- **The receipt outlives the join.** A is active, B is staged, prepared and joined, A is dropped and C is
    staged. The receipt of the preparation still names B, and a discard of C is refused. -/
theorem discard_refused_after_join :
    bundleRef sampleC ≠ bundleRef sampleB ∧ ∃ ts w, (storeSystem .windows).Run provisionedStore ts w ∧
      (rootOf w).read existingJoinPrepareReceipt =
        some (utf8 (existingJoinPrepareText .windows (bundleRef sampleA)
        (bundleRef sampleB) (bundleRef sampleVm).sha256 sampleTunnel.hysteria2Password)) ∧
      stored w = some sampleLater ∧
      ∀ r w', (StoreCall.run .windows .discard).Done storeSem w r w' → (∃ e, r = .error e) ∧ w' = w := by
  refine ⟨fun heq => absurd (congrArg LocalCredentialBundleRef.generation heq) (by decide), ?_⟩
  obtain ⟨ts, hrun⟩ := run_after sampleJoined
  obtain ⟨-, -, -, hread, hstored⟩ := sample_checked
  exact ⟨ts, _, hrun, hread, hstored, fun r w' hdone =>
    (discard_refused (b := bundleRef sampleC) ⟨Dir.get_ne_of_read hread, sampleLater, hstored, rfl⟩).done
      hdone⟩

end EdgePlatform.Credential
