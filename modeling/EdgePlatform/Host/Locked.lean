import EdgePlatform.Host.Recovery

/-!
# `EdgePlatform.Host.Locked` — gates that no later execution gives up

A gate outlives the execution that took it whenever that execution ends between BEGIN and the release. Only a
RECOVER can free it then. `Unanswerable` says of an operation and its terminals that no RECOVER can: each
verdict it may reach is contradicted by a terminal that is there, or differs from it. `locked_visits` is the
consequence over whole runs: the gate stays. Operations that `finish` ended are of this kind, and so are
operations that no RECOVER may adjudicate at all.
-/

namespace EdgePlatform.Host

open Foundation Foundation.Wire

/-- The gate of `i` is held, its BEGIN is there, and its terminals are exactly these. -/
structure Locked (i : FleetHostIntent) (terminals : Terminal → Option Bytes) (d : Dir) : Prop where
  gate : HoldsGate d i
  begun : d.Present (beginName i.operationId)
  recorded : ∀ t b, terminals t = some b → d.Durable (terminalName i.operationId t) b
  bare : ∀ t, terminals t = none → d.Absent (terminalName i.operationId t)

/-- Whatever verdict a RECOVER reaches on `i`, a terminal stands against it: the opposite one, or another
    record under the same name. -/
def Unanswerable (D : Deps) (i : FleetHostIntent) (terminals : Terminal → Option Bytes) : Prop :=
  ∀ c d o verdict, Adjudicates D c d i o verdict →
    terminals (oppositeTerminal verdict) ≠ none ∨
      ∃ b, terminals (priorTerminal verdict) = some b ∧ ∀ found, decodeHostResult b = .ok found →
        recoveryTerminalMismatch i (priorResult i verdict o.observedAtUnix) found = true

theorem locked_of_reads {i : FleetHostIntent} {terminals : Terminal → Option Bytes} {d : Dir}
    (hquiet : d.QuietOn IsRecordName) (hgate : d.read (nativeScopePendingPath i) = some i.encodeToVec)
    (hbegun : d.get (beginName i.operationId) ≠ none)
    (hterms : ∀ t, d.read (terminalName i.operationId t) = terminals t) : Locked i terminals d where
  gate := (hquiet _ (isRecordName_gate i)).durable hgate
  begun := by
    obtain ⟨f, hf⟩ := Option.ne_none_iff_exists'.mp hbegun
    exact (hquiet _ (isRecordName_begin _)).present hf
  recorded t b ht := (hquiet _ (isRecordName_terminal _ _)).durable ((hterms t).trans ht)
  bare t ht := by
    refine (hquiet _ (isRecordName_terminal _ _)).absent ?_
    have hread := (hterms t).trans ht
    rw [Dir.read, Option.map_eq_none_iff] at hread
    exact hread

section Locked

variable {D : Deps} {c : HostCall} {start w w' : JournalWorld} {i : FleetHostIntent}
variable {terminals : Terminal → Option Bytes}

/-- No call writes a terminal of the operation. -/
theorem Locked.no_terminal (hno : Unanswerable D i terminals) (hstart : Locked i terminals (dirOf start))
    (t : Terminal) (b : Bytes) : ¬ MayWrite D c start w (terminalName i.operationId t) b := by
  intro hmay
  generalize hn : terminalName i.operationId t = n at hmay
  cases hmay with
  | reserve _ _ => exact gate_ne_terminal _ _ _ hn.symm
  | record _ _ => exact begin_ne_terminal _ _ _ hn.symm
  | conclude hclear _ _ _ =>
    have hbegun := hstart.begun.get_ne
    rw [beginName_congr (terminalName_inj hn).1] at hbegun
    exact hbegun hclear.unbegun
  | @adjudicate i' o verdict hclear hadj hfresh hopp _ _ =>
    have hi := hadj.eq_pending hclear hstart.gate.read
    subst hi
    -- A terminal is there: as the opposite one, or as the one to write.
    rcases hno c _ o verdict hadj with hsome | ⟨b', hb', -⟩
    · obtain ⟨b', hb'⟩ := Option.ne_none_iff_exists'.mp hsome
      exact (hstart.recorded _ _ hb').present.get_ne hopp
    · exact (hstart.recorded _ _ hb').present.get_ne hfresh

/-- No call has a reason to give up the gate. -/
theorem Locked.not_ends {t : Terminal} {b : Bytes} (hno : Unanswerable D i terminals)
    (hstart : Locked i terminals (dirOf start)) (h : Locked i terminals (dirOf w)) :
    ¬ Ends D c start w i t b := by
  intro hends
  have ht : terminals t = some b := by
    cases hterm : terminals t with
    | none => exact absurd (h.bare t hterm).get (Dir.get_ne_of_read hends.read)
    | some b' => rw [← hends.read, (h.recorded t b' hterm).read]
  cases hends with
  | wrote hnone _ => exact (hstart.recorded t b ht).present.get_ne hnone
  | @found o verdict result _ _ hadj hprior hopp hfound hmatch =>
    subst hprior
    rcases hno c _ o verdict hadj with hsome | ⟨b', hb', hmismatch⟩
    · obtain ⟨b', hb'⟩ := Option.ne_none_iff_exists'.mp hsome
      exact (hstart.recorded _ _ hb').present.get_ne hopp
    · rw [ht] at hb'
      cases hb'
      rw [hmismatch result hfound] at hmatch
      cases hmatch

theorem Locked.step (hno : Unanswerable D i terminals) (hstart : Locked i terminals (dirOf start))
    (h : Locked i terminals (dirOf w)) (hs : StepEffect D c start w w') : Locked i terminals (dirOf w') where
  gate := by
    rcases hs.holdsGate h.gate with hg | ⟨t, b, hends, -⟩
    · exact hg
    · exact absurd hends (hstart.not_ends hno h)
  begun := hs.present (fun j => (gate_ne_begin j _).symm) h.begun
  recorded t b ht :=
    hs.durable (fun j => (gate_ne_terminal j _ _).symm) (hstart.no_terminal hno t) (h.recorded t b ht)
  bare t ht := by
    by_contra hsome
    rcases hs.terminal_new hsome with hold | ⟨⟨b, hmay⟩, -, -⟩
    · exact hold (h.bare t ht)
    · exact hstart.no_terminal hno t b hmay

theorem Locked.crash {d d' : Dir} (h : Locked i terminals d) (hc : d.Crash d') : Locked i terminals d' where
  gate := hc.durable h.gate
  begun := hc.present h.begun
  recorded t b ht := hc.durable (h.recorded t b ht)
  bare t ht := hc.absent (h.bare t ht)

theorem locked_preserved (hno : Unanswerable D i terminals) :
    (hostSystem D).Preserves (fun _ _ => True) (fun c start => Permitted D c start)
      (fun w => Locked i terminals (dirOf w)) where
  safe c s _ _ := safe_execute D c s
  step _ _ _ _ _ _ _ hI hg h hs := hI.step hno h (hg.stepEffect hs)
  crash _ _ h hc := fsCut_dir (fun _ _ => Locked.crash) h hc

/-- **Locked for good.** In every world visited by any run the lock is as it was. -/
theorem locked_visits {s w₀ : JournalWorld} {ts : List (hostSystem D).Turn} {p : JournalProc FleetHostResult}
    (hno : Unanswerable D i terminals) (h : Locked i terminals (dirOf s))
    (hv : (hostSystem D).Visits s ts c w₀ p w) :
    Locked i terminals (dirOf w) :=
  (locked_preserved hno).visits h hv (fun _ _ => trivial) trivial

end Locked

/-! ## A terminal of `finish` under a gate -/

theorem decodeHostResult_encodeToVec {r found : FleetHostResult}
    (h : decodeHostResult r.encodeToVec = .ok found) : found = r := by
  simp only [decodeHostResult, ok_iff, pure_eq_ok, FleetHostResult.decode_encodeToVec] at h
  obtain ⟨-, r', hr', -, rfl⟩ := h
  exact (Option.some.inj hr').symm

/-- Recovery recognises the reasons of recovery only, and `finish` records none of them. -/
theorem unanswerable_finished (D : Deps) (i : FleetHostIntent) {reason : FleetHostResultReason}
    (readAt : UInt64)
    (hreason : reason = .noFurtherAction ∨ reason = .stoppedReleaseDriftRequiresInstallTarget) :
    Unanswerable D i fun t => if t = .verified then some (finishResult i reason readAt).encodeToVec
      else none := by
  intro c d o verdict hadj
  obtain ⟨a, selected, -, -, hverdict⟩ := hadj.verdict
  rcases recoveryVerdict_cases hverdict with rfl | ⟨hrecovered, -⟩
  · -- "Incomplete" is contradicted by the `.verified` terminal.
    exact .inl (by simp [oppositeTerminal, partialVerdict])
  · refine .inr ⟨(finishResult i reason readAt).encodeToVec, ?_, ?_⟩
    · rcases hrecovered with rfl | rfl <;> rfl
    · intro found hfound
      rw [decodeHostResult_encodeToVec hfound]
      have hne : (finishResult i reason readAt).reason ≠
          (priorResult i verdict o.observedAtUnix).reason := by
        show toI32 reason ≠ toI32 verdict
        rcases hreason with rfl | rfl <;> rcases hrecovered with rfl | rfl <;> decide
      simp [recoveryTerminalMismatch, hne]

theorem finishReason_cases (step : FleetHostPlannedStep) (previous expected : Bytes) :
    finishReason step previous expected = .noFurtherAction ∨
      finishReason step previous expected = .stoppedReleaseDriftRequiresInstallTarget := by
  unfold finishReason
  split
  · exact .inr rfl
  · exact .inl rfl

/-- **A gate left behind by `finish` is never removed.** If the power failed between the `.verified` terminal
    that `finish` wrote for `i` and the release of the gate, then the gate names `i` in every world visited
    by any run. -/
theorem finished_gate_never_released (D : Deps) {s w₀ w : JournalWorld} {ts : List (hostSystem D).Turn}
    {c : HostCall} {p : JournalProc FleetHostResult} {i : FleetHostIntent}
    {executedStep : FleetHostPlannedStep} {previousRuntimeDigest expectedRuntimeDigest : Bytes}
    {observedAtUnix : UInt64} (hquiet : (dirOf s).QuietOn IsRecordName)
    (hgate : (dirOf s).read (nativeScopePendingPath i) = some i.encodeToVec)
    (hbegun : (dirOf s).get (beginName i.operationId) ≠ none)
      (hterm : (dirOf s).read (terminalName i.operationId .verified) = some (finishResult i
      (finishReason executedStep previousRuntimeDigest expectedRuntimeDigest) observedAtUnix).encodeToVec)
    (hlone : ∀ t, t ≠ .verified → (dirOf s).get (terminalName i.operationId t) = none)
    (hv : (hostSystem D).Visits s ts c w₀ p w) :
    (dirOf w).read (nativeScopePendingPath i) = some i.encodeToVec := by
  have hno := unanswerable_finished D i observedAtUnix
    (finishReason_cases executedStep previousRuntimeDigest expectedRuntimeDigest)
  refine (locked_visits hno ?_ hv).gate.read
  refine locked_of_reads hquiet hgate hbegun fun t => ?_
  by_cases ht : t = .verified
  · rw [ht, hterm, if_pos rfl]
  · rw [if_neg ht, Dir.read, hlone t ht, Option.map_none]

/-- APPLY of the installed release on the stopped host: the power fails between the `.verified` terminal and
    the release of the gate. -/
def WindowsSample.finishedThenCut : JournalWorld :=
  powerCycle (replay (owner 'a' false) 24
    (executeAfterProtectedOwnerCheckOnce deps (call "a" .apply 'a' 'a'))
    emptyJournal).2

open WindowsSample in
/-- **A valid RECOVER of a finished operation fails.** It is authentic, names the digests of the APPLY and
    observes the running, ready host with the release of the APPLY, yet it ends in an error and the gate
    stays. -/
theorem recover_after_finish_rejected :
    ∃ ts s w, (hostSystem deps).Run emptyJournal ts s ∧
      (dirOf s).read (terminalName "a" .verified) =
        some (finishResult (intent "a" .apply 'a') .noFurtherAction 1000).encodeToVec ∧
      isErr (authenticate deps (call "b" .recover 'a' 'a')) = false ∧
      (executeAfterProtectedOwnerCheckOnce deps (call "b" .recover 'a' 'a')).Done
        journalSem s (.error "HOST_NATIVE_RECOVERY_TERMINAL_MISMATCH") w ∧
      (observations w.env).getLast? = some (observation 'a' true) ∧
      (dirOf w).get (nativeScopePendingPath (intent "a" .apply 'a')) ≠ none := by
  have hcut : (hostSystem deps).Run emptyJournal _ finishedThenCut :=
    run_cut .nil (owner 'a' false) 24 (call "a" .apply 'a' 'a')
  have hcheck :
      let rest := replay (owner 'a' true) 60 (executeAfterProtectedOwnerCheckOnce
        deps (call "b" .recover 'a' 'a')) finishedThenCut
      (dirOf finishedThenCut).read (terminalName "a" .verified) =
        some (finishResult (intent "a" .apply 'a') .noFurtherAction 1000).encodeToVec ∧
      isErr (authenticate deps (call "b" .recover 'a' 'a')) = false ∧
      failedWith rest.1 = some "HOST_NATIVE_RECOVERY_TERMINAL_MISMATCH" ∧
        (observations rest.2.env).getLast? = some (observation 'a' true) ∧
        (dirOf rest.2).get (nativeScopePendingPath (intent "a" .apply 'a')) ≠ none := by
    decide +kernel
  exact ⟨_, _, _, hcut, hcheck.1, hcheck.2.1, replay_failed hcheck.2.2.1, hcheck.2.2.2⟩

open WindowsSample in
/-- No run from there frees the gate; here the RECOVER above. -/
theorem finished_windows_gate_stays :
    let w := (replay (owner 'a' true) 60 (executeAfterProtectedOwnerCheckOnce deps
      (call "b" .recover 'a' 'a')) finishedThenCut).2
    (dirOf w).read (nativeScopePendingPath (intent "a" .apply 'a')) =
      some (intent "a" .apply 'a').encodeToVec := by
  have hstart : (dirOf finishedThenCut).read
        (nativeScopePendingPath (intent "a" .apply 'a')) =
          some (intent "a" .apply 'a').encodeToVec ∧
      (dirOf finishedThenCut).get (beginName "a") ≠ none ∧
      (dirOf finishedThenCut).read (terminalName "a" .verified) =
        some (finishResult (intent "a" .apply 'a') (finishReason .start [] []) 1000).encodeToVec ∧
      ∀ t, t ≠ .verified → (dirOf finishedThenCut).get (terminalName "a" t) = none := by
    decide +kernel
  exact finished_gate_never_released deps (s := finishedThenCut)
    (fsCrash_quiet (fsCrash_powerCycle _)) hstart.1 hstart.2.1 hstart.2.2.1 hstart.2.2.2
    ⟨.nil, replay_steps (owner 'a' true) 60 _ _⟩

end EdgePlatform.Host
