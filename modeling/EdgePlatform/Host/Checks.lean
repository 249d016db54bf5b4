import EdgePlatform.Host.Journal

/-!
# `EdgePlatform.Host.Checks` — what the checks of an execution establish

The pure checks of an execution are long chains of early returns. For each chain this module has a structure
of the facts that hold when it passes, and the one lemma that takes the chain apart; the modules below use
the structures and never unfold the checks.
-/

namespace EdgePlatform.Host

open Foundation Foundation.Wire

/-! ## What the checks before the journal establish -/

/-- The artifacts an intent is bound to. -/
structure BoundTo (D : Deps) (intent : FleetHostIntent) (registryPb spec releaseSetPb : Bytes)
    (vmBundlePb : Option Bytes) (registry : HostRegistry) (bound : BoundNativeHostArtifacts) : Prop where
  decoded : decodeHostRegistry D registryPb = .ok registry
  owned : ∃ host, registry.owned intent.machineId intent.kind = some host ∧
    digestHostDesired host spec = .ok bound.desiredSha256
  release : ∃ release, D.decodeReleaseSet releaseSetPb = some release ∧
    runtimeReleaseDigest D intent.kind release releaseSetPb vmBundlePb = .ok bound.runtimeReleaseSha256
  runtime : sha bound.runtimeReleaseSha256 = true
  digests : bound.registrySha256 = sha256 registryPb ∧ bound.releaseSetSha256 = sha256 releaseSetPb
  validated : validateHostIntent intent registry bound.registrySha256 bound.desiredSha256
    bound.releaseSetSha256 = .ok ()

variable {D : Deps} {intent : FleetHostIntent} {releaseSetPb r : Bytes} {registry : HostRegistry}
variable {bound derived : BoundNativeHostArtifacts} {c : HostCall}

theorem boundTo_of_bind {registryPb spec : Bytes} {vmBundlePb : Option Bytes}
    (h : bindNativeHostArtifacts D intent registryPb spec releaseSetPb vmBundlePb = .ok (registry, bound)) :
    BoundTo D intent registryPb spec releaseSetPb vmBundlePb registry bound := by
  simp only [bindNativeHostArtifacts, ok_iff, orError_eq_ok] at h
  obtain ⟨-, registry', hregistry, host, hhost, release, hrelease, -, -, runtime, hruntime, hsha,
    desired, hdesired, hintent, h⟩ := h
  cases h
  exact
    { decoded := hregistry
      owned := ⟨host, hhost, hdesired⟩
      release := ⟨release, hrelease, hruntime⟩
      runtime := by simpa using hsha
      digests := ⟨rfl, rfl⟩
      validated := hintent }

/-- The runtime digest depends on the release set alone, as long as no two bundles collide. -/
theorem runtimeReleaseDigest_unique {K : Set Bytes} (hK : Set.InjOn sha256 K) {kind : Int32}
    {release : ReleaseSet} {r' : Bytes} {bundle bundle' : Option Bytes} (hb : ∀ b ∈ bundle, b ∈ K)
    (hb' : ∀ b ∈ bundle', b ∈ K) (h : runtimeReleaseDigest D kind release releaseSetPb bundle = .ok r)
    (h' : runtimeReleaseDigest D kind release releaseSetPb bundle' = .ok r') : r = r' := by
  unfold runtimeReleaseDigest at h h'
  generalize tryFrom FleetHostKind kind = k at h h'
  rcases k with _ | ⟨_ | _ | _⟩
  · cases h
  · cases h
  · -- Windows: the digest of the release set.
    obtain ⟨_, -, h⟩ := bind_ok h
    obtain ⟨_, -, h'⟩ := bind_ok h'
    cases h
    cases h'
    rfl
  · -- VM: the release set fixes the digest of the bundle, hence the bundle.
    simp only [ok_iff] at h h'
    obtain ⟨x, hx, h⟩ := h
    obtain ⟨y, hy, h'⟩ := h'
    have hxy : x = y := by
      simp only [nativeVmBundleRuntimeDigest, ok_iff, not_or, not_not] at h h'
      obtain ⟨-, runtime, hruntime, ⟨-, hdigest⟩, -⟩ := h
      obtain ⟨-, runtime', hruntime', ⟨-, hdigest'⟩, -⟩ := h'
      have hsame : runtime = runtime' := Option.some.inj (hruntime.symm.trans hruntime')
      exact hK (hb x hx) (hb' y hy) (hdigest.trans (hsame ▸ hdigest'.symm))
    subst hxy
    exact Except.ok.inj (h.symm.trans h')

theorem runtimeReleaseDigest_windows {release : ReleaseSet} {bundle : Option Bytes}
    (h : runtimeReleaseDigest D (toI32 FleetHostKind.windows) release releaseSetPb bundle = .ok r) :
    r = sha256 releaseSetPb := by
  unfold runtimeReleaseDigest at h
  rw [tryFrom_toI32] at h
  obtain ⟨_, -, h⟩ := bind_ok h
  cases h
  rfl

/-- What holds of a validated intent. -/
structure ValidIntent (intent : FleetHostIntent) (registry : HostRegistry) (r d s : Bytes) : Prop where
  schema : intent.schemaVersion = 1
  machineId : token intent.machineId = true
  operationId : token intent.operationId = true
  digests : intent.registrySha256 = r ∧ intent.desiredSha256 = d ∧ intent.releaseSetSha256 = s
  present : sha r = true ∧ sha d = true ∧ sha s = true
  registered : ∃ host, registry.machine intent.machineId = some host ∧ host.kind = intent.kind
  scope : intent.resourceId ≠ "sing-box" → intent.action = toI32 FleetHostAction.apply
  admission : intent.networkAdmission.isSome = true → intent.action = toI32 FleetHostAction.start

theorem validIntent_of_validate {d s : Bytes}
    (h : validateHostIntent intent registry r d s = .ok ()) : ValidIntent intent registry r d s := by
  unfold validateHostIntent at h
  simp only [ok_iff, not_or, not_not] at h
  obtain ⟨hid, hdigests, host, hhost, hkind, action, haction, h⟩ := h
  have haction := tryFrom_eq_some.mp haction
  -- The scope check is the one branch; what follows it is common.
  have hrest : (intent.resourceId ≠ "sing-box" → action = .apply) ∧
      ¬ (intent.networkAdmission.isSome ∧ (host.kind ≠ toI32 FleetHostKind.windows ∨ action ≠ .start)) := by
    split at h
    · simp only [ok_iff, not_not] at h
      obtain ⟨hscope, -, mode, -, hadmission, -⟩ := h
      exact ⟨fun _ => hscope, hadmission⟩
    · rename_i hwhole
      simp only [ok_iff] at h
      obtain ⟨mode, -, hadmission, -⟩ := h
      exact ⟨fun hne => absurd hne hwhole, hadmission⟩
  obtain ⟨hscope, hadmission⟩ := hrest
  exact
    { schema := hid.1
      machineId := by simpa using hid.2.1
      operationId := by simpa using hid.2.2.2.1
      digests := ⟨hdigests.2.2.2.1, hdigests.2.2.2.2.1, hdigests.2.2.2.2.2⟩
      present := ⟨hdigests.1, hdigests.2.1, hdigests.2.2.1⟩
      registered := ⟨host, hhost, hkind.1⟩
      scope := fun hne => by rw [← haction, hscope hne]
      admission := by
        intro hsome
        by_contra hne
        refine hadmission ⟨hsome, .inr fun hstart => hne ?_⟩
        rw [← haction, hstart] }

/-- The first host of an id has the kind of the intent, so looking it up by kind finds the same host. -/
theorem owned_of_machine {machineId : String} {kind : Int32} {host : FleetHost}
    (h : registry.machine machineId = some host) (hkind : host.kind = kind) :
    registry.owned machineId kind = some host := by
  unfold HostRegistry.machine at h
  unfold HostRegistry.owned
  rw [List.find?_eq_some_iff_append] at h ⊢
  obtain ⟨hid, before, after, hsplit, hbefore⟩ := h
  refine ⟨by simpa [hkind] using hid, before, after, hsplit, fun x hx => ?_⟩
  have hne := hbefore x hx
  simp only [Bool.not_eq_true', decide_eq_false_iff_not] at hne
  simp [hne]

/-- What holds of an intent that fits the target of its host. -/
structure Targeted (intent : FleetHostIntent) (registry : HostRegistry) (host : FleetHost)
    (target : FleetHostTarget) (run : FleetHostRunState) : Prop where
  machine : registry.machine intent.machineId = some host
  desired : host.target = some target
  runState : tryFrom FleetHostRunState target.runState = some run
  specified : run ≠ .unspecified
  mode : tryFrom FleetHostMode target.windowsMode = some .unspecified

theorem targeted_of_validate (h : validateIntentAgainstTarget intent registry = .ok ()) :
    ∃ host target run, Targeted intent registry host target run := by
  simp only [validateIntentAgainstTarget, ok_iff, not_not] at h
  obtain ⟨host, hhost, target, htarget, action, -, run, hrun, hspecified, mode, hmode, hunspecified, -⟩ := h
  exact ⟨host, target, run, hhost, htarget, hrun, hspecified, hunspecified ▸ hmode⟩

/-- Everything an execution has checked before it looks at the journal. -/
structure Authentic (D : Deps) (c : HostCall) (a : Admission) : Prop where
  identity : ¬ (c.intent.machineId ≠ c.nativeMachineId ∨ c.intent.kind ≠ c.nativeOwnerKind)
  bound : ∃ derived, bindNativeHostArtifacts D c.intent c.registryPb c.selectedSpecBytes c.releaseSetPb
      c.vmBundlePb = .ok (a.registry, derived) ∧ bindInstalledRelease c derived = .ok a.bound
  target : validateIntentAgainstTarget c.intent a.registry = .ok ()
  pin : verifyWindowsSignerPin c a.registry = .ok ()
  signed : verifyHostAuthorization D c.intent c.authorization c.pinnedWorkerPublicKey c.nowUnix = .ok ()
  action : tryFrom FleetHostAction c.intent.action = some a.action
  kind : tryFrom FleetHostKind c.intent.kind = some a.kind
  allowed : validateNativeActionKind a.kind a.action = .ok ()

theorem authentic_of_authenticate {a : Admission} (h : authenticate D c = .ok a) : Authentic D c a := by
  simp only [authenticate, ok_iff] at h
  obtain ⟨hidentity, ⟨registry, derived⟩, hbind, bound, hbound, htarget, hpin, hsigned, action,
    haction, kind, hkind, hallowed, h⟩ := h
  cases h
  exact ⟨hidentity, ⟨derived, hbind, hbound⟩, htarget, hpin, hsigned, haction, hkind, hallowed⟩

/-- With a binding the host is a Windows host; for every action but APPLY the installed release replaces the
    derived one. -/
theorem bindInstalledRelease_some {binding : WindowsExecutionBinding} (hb : c.binding = some binding)
    (h : bindInstalledRelease c derived = .ok bound) :
    c.intent.kind = toI32 FleetHostKind.windows ∧
      bound = if c.intent.action ≠ toI32 FleetHostAction.apply then
      { derived with runtimeReleaseSha256 := binding.installedReleaseSha256 } else derived := by
  simp only [bindInstalledRelease, hb, ok_iff, not_or, not_not] at h
  obtain ⟨-, hkind, h⟩ := h
  refine ⟨hkind.2.1.trans hkind.1, ?_⟩
  split_ifs at h ⊢ <;> cases h <;> rfl

theorem bindInstalledRelease_none
    (hb : c.binding = none) (h : bindInstalledRelease c derived = .ok bound) : bound = derived := by
  unfold bindInstalledRelease at h
  rw [hb] at h
  cases h
  rfl

/-- An APPLY keeps the derived runtime digest. -/
theorem bindInstalledRelease_apply
    (haction : c.intent.action = toI32 FleetHostAction.apply)
    (h : bindInstalledRelease c derived = .ok bound) :
    bound = derived := by
  cases hb : c.binding with
  | none => exact bindInstalledRelease_none hb h
  | some binding =>
    rw [(bindInstalledRelease_some hb h).2, if_neg (not_not.mpr haction)]

/-- The binding replaces the runtime digest only. -/
theorem bindInstalledRelease_digests (h : bindInstalledRelease c derived = .ok bound) :
    bound.registrySha256 = derived.registrySha256 ∧ bound.desiredSha256 = derived.desiredSha256 ∧
      bound.releaseSetSha256 = derived.releaseSetSha256 := by
  cases hb : c.binding with
  | none => rw [bindInstalledRelease_none hb h]; exact ⟨rfl, rfl, rfl⟩
  | some binding =>
    rw [(bindInstalledRelease_some hb h).2]
    split <;> exact ⟨rfl, rfl, rfl⟩

/-- The bound runtime digest is a proper digest, derived or installed. -/
theorem sha_bindInstalledRelease
    (hderived : sha derived.runtimeReleaseSha256 = true) (h : bindInstalledRelease c derived = .ok bound) :
    sha bound.runtimeReleaseSha256 = true := by
  cases hb : c.binding with
  | none => rw [bindInstalledRelease_none hb h]; exact hderived
  | some binding =>
    rw [(bindInstalledRelease_some hb h).2]
    simp only [bindInstalledRelease, hb, ok_iff, not_or, not_not] at h
    split
    · exact h.2.1.2.2
    · exact hderived

/-- An admission repeats checks that have passed already. -/
theorem validateAdmission_of_authenticate {a : Admission}
    (h : authenticate D c = .ok a) : validateAdmission D c a.registry a.bound = .ok () := by
  have hauth := authentic_of_authenticate h
  obtain ⟨derived, hbind, hinstalled⟩ := hauth.bound
  have hvalid := (boundTo_of_bind hbind).validated
  obtain ⟨hr, hd, hs⟩ := bindInstalledRelease_digests hinstalled
  refine passes_bind hauth.identity ?_
  refine ok_bind (a := ()) ?_ ?_
  · rw [hr, hd, hs]
    exact hvalid
  · exact ok_bind hauth.target hauth.signed

/-! ## The post-state -/

/-- What `finish` accepts as a post-state: a current, undegraded observation of the right kind and release
    that shows the target's run state. -/
structure Poststate (D : Deps) (intent : FleetHostIntent) (target : FleetHostTarget) (expected : Bytes)
    (step : FleetHostPlannedStep) (previous : Bytes) (now : UInt64) (o : FleetNativeObservation)
    (kind : FleetHostKind) (proof : FleetNativeReleaseProof) (run : FleetHostRunState) : Prop where
  valid : validateNativeObservation D o = .ok ()
  hostKind : o.hostKind = intent.kind
  past : readbackFuture o.observedAtUnix now = false
  fresh : readbackStale o.observedAtUnix now = false
  undegraded : o.reasonCodes = []
  kindOf : tryFrom FleetHostKind intent.kind = some kind
  required : requiredProof kind = some proof
  proven : o.releaseProof = toI32 proof
  release : o.observedReleaseSha256 = if step = .stop then previous else expected
  runState : tryFrom FleetHostRunState target.runState = some run
  state : (run = .stopped ∧ o.ownerState = toI32 FleetNativeOwnerState.stopped) ∨
    (run = .running ∧ o.ownerState = toI32 FleetNativeOwnerState.running ∧ o.runtimeReadyProven = true ∧
      o.runtimeReady = true)

theorem poststate_of_finish {target : FleetHostTarget} {expected : Bytes}
    {step : FleetHostPlannedStep} {previous : Bytes} {now : UInt64} {o : FleetNativeObservation}
    (h : finishPoststate D intent target expected step previous now o = .ok ()) :
    ∃ kind proof run, Poststate D intent target expected step previous now o kind proof run := by
  simp only [finishPoststate, ok_iff, not_or, not_not] at h
  obtain ⟨hvalid, hkind, hpast, hfresh, hcodes, kind, hkind', proof, hproof, -, hrelease, run, hrun, owner,
    howner, hsame, hready⟩ := h
  have howner := tryFrom_eq_some.mp howner
  refine ⟨kind, proof, run, hvalid, hkind, by simpa using hpast, by simpa using hfresh, hcodes,
    hkind', hproof, hrelease.1, hrelease.2, hrun, ?_⟩
  rcases or_iff_not_and_not.mpr hsame with ⟨hr, ho⟩ | ⟨hr, ho⟩
  · exact .inl ⟨hr, by rw [← howner, ho]⟩
  · have hready : o.runtimeReadyProven = true ∧ o.runtimeReady = true := by
      by_contra hnot
      exact hready ⟨hr, hnot⟩
    exact .inr ⟨hr, by rw [← howner, ho], hready⟩

end EdgePlatform.Host
