import EdgePlatform.Credential.Disposal

/-!
# `EdgePlatform.Credential.Delta` — what a rotation delta changes, and what staging and rollback keep

A rotation delta names one class of credentials and carries the material of that class. Materialized over the
active bundle it gives a full bundle of the same projection that differs from the active one in that class
alone (besides its generation and slot). Staging a delivery changes the candidate of the store and not its
active bundle; a rollback swaps the active and the previous bundle, so that a second one restores the state.

A validator checks a field under a label that only its errors show (`LabelFree`), so material that was
checked as part of a delta passes as part of a projection.
-/

namespace EdgePlatform.Credential

open Foundation Foundation.Wire Foundation.Proc

/-! ## Labels -/

/-- Whether a check passes does not depend on the label. -/
def LabelFree {α : Type} (check : String → α → Except String Unit) : Prop :=
  ∀ label label' a, check label a = .ok () → check label' a = .ok ()

theorem labelFree_tunnelAuthentication : LabelFree validateTunnelAuthentication := by
  intro label label' a h
  simp only [validateTunnelAuthentication, validateLowerUuid, ok_iff, validateLowerHex_eq_ok] at h ⊢
  exact h

theorem labelFree_realityPublicIdentity : LabelFree validateRealityPublicIdentity := by
  intro label label' a h
  simp only [validateRealityPublicIdentity, validateRealityKey, rejectIf_eq_ok] at h ⊢
  exact h

theorem labelFree_realityPrivateIdentity : LabelFree validateRealityPrivateIdentity := by
  intro label label' a h
  simp only [validateRealityPrivateIdentity, validateRealityKey, rejectIf_eq_ok] at h ⊢
  exact h

theorem labelFree_proxyCredentialGeneration : LabelFree validateProxyCredentialGeneration := by
  intro label label' a h
  simp only [validateProxyCredentialGeneration, ok_iff, validateLowerHex_eq_ok] at h ⊢
  exact h

theorem LabelFree.lineGeneration {α : Type} {check : String → α → Except String Unit} (h : LabelFree check) :
    LabelFree (validateLineGeneration check) := by
  intro label label' a hok
  simp only [validateLineGeneration, ok_iff] at hok ⊢
  obtain ⟨hgeneration, direct, hdirect, hcheck, warp, hwarp, hcheck'⟩ := hok
  exact ⟨hgeneration, direct, hdirect, h _ _ _ hcheck, warp, hwarp, h _ _ _ hcheck'⟩

/-! ## Valid bundles -/

/-- The check of the payload of a real bundle. -/
def PayloadValid (generation : UInt64) : CredentialProjectionKind → Payload → Prop
  | .windows, .windows value => validateWindowsCredentialProjection value = .ok ()
  | .vm, .vm value => validateVmCredentialProjection value = .ok ()
  | .windows, .windowsRotation value => validateWindowsCredentialRotationDelta generation value = .ok ()
  | .vm, .vmRotation value => validateVmCredentialRotationDelta generation value = .ok ()
  | _, _ => False

/-- What validation says about a real bundle. -/
structure RealBundle (bundle : CredentialDeliveryBundle) (projection : CredentialProjectionKind)
    (payload : Payload) :
    Prop where
  schema : bundle.schemaVersion = 1
  generation : bundle.generation ≠ 0
  owner : tryFrom CredentialProjectionKind bundle.projection = some projection
  slot : ∃ slot, tryFrom CredentialDeliverySlot bundle.slot = some slot ∧ slot ≠ .unspecified
  carries : bundle.payload = some payload
  valid : PayloadValid bundle.generation projection payload

variable {bundle : CredentialDeliveryBundle}

theorem validate_real_iff (hreal : bundle.dummyNonSecret = false) :
    validateCredentialDeliveryBundle bundle = .ok () ↔
      ∃ projection payload, RealBundle bundle projection payload := by
  simp only [validateCredentialDeliveryBundle, ok_iff, hreal, Bool.false_eq_true, if_false, not_not]
  constructor
  · rintro ⟨hschema, hgeneration, projection, howner, hspecified, slot, hslot, hslot', payload,
      hpayload, hvalid⟩
    refine ⟨projection, payload, hschema, hgeneration, howner, ⟨slot, hslot, hslot'⟩, hpayload, ?_⟩
    cases projection <;> cases payload <;> first | exact absurd rfl hspecified | exact hvalid | cases hvalid
  · rintro ⟨projection, payload, hschema, hgeneration, howner, ⟨slot, hslot, hslot'⟩, hpayload, hvalid⟩
    refine ⟨hschema, hgeneration, projection, howner, ?_, slot, hslot, hslot', payload, hpayload, ?_⟩
    · rintro rfl
      cases payload <;> exact hvalid
    · cases projection <;> cases payload <;> first | exact hvalid | exact hvalid.elim

theorem real_of_payload {payload : Payload}
    (hvalid : validateCredentialDeliveryBundle bundle = .ok ()) (hpayload : bundle.payload = some payload) :
    bundle.dummyNonSecret = false := by
  by_contra hdummy
  rw [Bool.not_eq_false] at hdummy
  simp only [validateCredentialDeliveryBundle, ok_iff, hdummy, if_true, hpayload] at hvalid
  simp at hvalid

/-! ## Materialization -/

/-- The class of credentials a delta names. -/
def Payload.rotationClass : Payload → Option CredentialRotationClass
  | .windowsRotation delta => tryFrom CredentialRotationClass delta.credentialClass
  | .vmRotation delta => tryFrom CredentialRotationClass delta.credentialClass
  | .windows _ | .vm _ => none

/-- Two projections of one kind agree in every group of credentials but that of the class. -/
def SameOutside (cls : CredentialRotationClass) : Payload → Payload → Prop
  | .windows active, .windows next =>
    (cls ≠ .tunnelAuth → next.tunnelAuth = active.tunnelAuth) ∧
      (cls ≠ .realityIdentity → next.realityIdentity = active.realityIdentity)
  | .vm active, .vm next =>
    (cls ≠ .tunnelAuth → next.tunnelAuth = active.tunnelAuth) ∧
      (cls ≠ .realityIdentity → next.realityIdentity = active.realityIdentity) ∧
      (cls ≠ .line2ProxyAuth → next.line2Proxy = active.line2Proxy)
  | _, _ => False

/-- The group of the class is the one the delta carries. -/
def TakesClass (cls : CredentialRotationClass) : Payload → Payload → Prop
  | .windowsRotation delta, .windows next =>
    (cls = .tunnelAuth → next.tunnelAuth = delta.tunnelAuth) ∧
      (cls = .realityIdentity → next.realityIdentity = delta.realityIdentity)
  | .vmRotation delta, .vm next =>
    (cls = .tunnelAuth → next.tunnelAuth = delta.tunnelAuth) ∧
      (cls = .realityIdentity → next.realityIdentity = delta.realityIdentity) ∧
      (cls = .line2ProxyAuth → next.line2Proxy = delta.line2Proxy)
  | _, _ => False

theorem validateRotationClass_eq_ok {value : Int32} {cls : CredentialRotationClass} :
    validateRotationClass value = .ok cls ↔ tryFrom CredentialRotationClass value = some cls ∧
      cls ≠ .unspecified := by
  simp only [validateRotationClass, ok_iff, pure_eq_ok]
  constructor
  · rintro ⟨_, hcls, hspecified, rfl⟩
    exact ⟨hcls, hspecified⟩
  · rintro ⟨hcls, hspecified⟩
    exact ⟨cls, hcls, hspecified, rfl⟩

section Materialize

variable {generation : UInt64}

theorem materializeWindows_exists {active : WindowsCredentialProjection}
    {delta : WindowsCredentialRotationDelta} (hactive : validateWindowsCredentialProjection active = .ok ())
    (hdelta : validateWindowsCredentialRotationDelta generation delta = .ok ()) :
    ∃ cls next, tryFrom CredentialRotationClass delta.credentialClass = some cls ∧
      materializeWindows active delta = .ok next ∧ validateWindowsCredentialProjection next = .ok () ∧
      SameOutside cls (.windows active) (.windows next) ∧
      TakesClass cls (.windowsRotation delta) (.windows next) := by
  simp only [validateWindowsCredentialRotationDelta, ok_iff] at hdelta
  obtain ⟨cls, hcls, hmaterial⟩ := hdelta
  have hcls' := (validateRotationClass_eq_ok.mp hcls).1
  simp only [validateWindowsCredentialProjection, ok_iff] at hactive
  obtain ⟨tunnel, htunnel, htunnelOk, reality, hreality, hrealityOk⟩ := hactive
  cases cls with
  | unspecified => exact absurd rfl (validateRotationClass_eq_ok.mp hcls).2
  | tunnelAuth =>
    simp only [ok_iff] at hmaterial
    obtain ⟨tunnel', htunnel', -, hok, -⟩ := hmaterial
    refine ⟨_, { active with tunnelAuth := delta.tunnelAuth },
      hcls', by rw [materializeWindows, hcls]; rfl, ?_, ?_, ?_⟩
    · simp only [validateWindowsCredentialProjection, ok_iff]
      exact ⟨tunnel', htunnel', labelFree_tunnelAuthentication.lineGeneration _ _ _ hok, reality,
        hreality, hrealityOk⟩
    · simp [SameOutside]
    · simp [TakesClass]
  | realityIdentity =>
    simp only [ok_iff] at hmaterial
    obtain ⟨-, reality', hreality', hok, -⟩ := hmaterial
    refine ⟨_, { active with realityIdentity := delta.realityIdentity },
      hcls', by rw [materializeWindows, hcls]; rfl, ?_, ?_, ?_⟩
    · simp only [validateWindowsCredentialProjection, ok_iff]
      exact ⟨tunnel, htunnel, htunnelOk, reality', hreality',
        labelFree_realityPublicIdentity.lineGeneration _ _ _ hok⟩
    · simp [SameOutside]
    · simp [TakesClass]
  | line2ProxyAuth =>
    refine ⟨_, active, hcls', by rw [materializeWindows, hcls]; rfl,
      ?_, by simp [SameOutside], by simp [TakesClass]⟩
    simp only [validateWindowsCredentialProjection, ok_iff]
    exact ⟨tunnel, htunnel, htunnelOk, reality, hreality, hrealityOk⟩

theorem materializeVm_exists {active : VmCredentialProjection} {delta : VmCredentialRotationDelta}
    (hactive : validateVmCredentialProjection active = .ok ())
    (hdelta : validateVmCredentialRotationDelta generation delta = .ok ()) :
    ∃ cls next, tryFrom CredentialRotationClass delta.credentialClass = some cls ∧
      materializeVm active delta = .ok next ∧ validateVmCredentialProjection next = .ok () ∧
      SameOutside cls (.vm active) (.vm next) ∧ TakesClass cls (.vmRotation delta) (.vm next) := by
  simp only [validateVmCredentialRotationDelta, ok_iff] at hdelta
  obtain ⟨cls, hcls, hmaterial⟩ := hdelta
  have hcls' := (validateRotationClass_eq_ok.mp hcls).1
  simp only [validateVmCredentialProjection, ok_iff] at hactive ⊢
  obtain ⟨tunnel, htunnel, htunnelOk, reality, hreality, hrealityOk, line2, hline2, hline2Ok⟩ := hactive
  cases cls with
  | unspecified => exact absurd rfl (validateRotationClass_eq_ok.mp hcls).2
  | tunnelAuth =>
    simp only [ok_iff] at hmaterial
    obtain ⟨tunnel', htunnel', -, hok, -⟩ := hmaterial
    exact ⟨_, { active with tunnelAuth := delta.tunnelAuth }, hcls', by rw [materializeVm, hcls]; rfl,
      ⟨tunnel', htunnel', labelFree_tunnelAuthentication.lineGeneration _ _ _ hok, reality, hreality,
        hrealityOk, line2, hline2, hline2Ok⟩, by simp [SameOutside], by simp [TakesClass]⟩
  | realityIdentity =>
    simp only [ok_iff] at hmaterial
    obtain ⟨-, reality', hreality', hok, -⟩ := hmaterial
    exact ⟨_, { active with realityIdentity := delta.realityIdentity },
      hcls', by rw [materializeVm, hcls]; rfl,
        ⟨tunnel, htunnel, htunnelOk, reality', hreality',
          labelFree_realityPrivateIdentity.lineGeneration _ _ _ hok, line2, hline2, hline2Ok⟩, by
          simp [SameOutside], by simp [TakesClass]⟩
  | line2ProxyAuth =>
    simp only [ok_iff] at hmaterial
    obtain ⟨-, line2', hline2', hok, -⟩ := hmaterial
    exact ⟨_, { active with line2Proxy := delta.line2Proxy }, hcls', by rw [materializeVm, hcls]; rfl,
      ⟨tunnel, htunnel, htunnelOk, reality, hreality, hrealityOk, line2', hline2',
        labelFree_proxyCredentialGeneration _ _ _ hok⟩, by simp [SameOutside], by simp [TakesClass]⟩

end Materialize

/-- A full bundle that the store may hold. -/
structure FullBundle (bundle : CredentialDeliveryBundle) : Prop where
  valid : validateCredentialDeliveryBundle bundle = .ok ()
  real : bundle.dummyNonSecret = false
  full : credentialDeliveryIsRotationDelta bundle = false

theorem fullBundle_iff {bundle : CredentialDeliveryBundle} :
    FullBundle bundle ↔ ∃ reference, localCredentialBundleRef bundle = .ok reference := by
  simp only [localCredentialBundleRef_eq_ok]
  exact ⟨fun h => ⟨_, h.valid, h.real, h.full, rfl⟩,
    fun ⟨_, hvalid, hreal, hfull, _⟩ => ⟨hvalid, hreal, hfull⟩⟩

/-- A delta that fits the active bundle. -/
structure DeltaFits (active delivery : CredentialDeliveryBundle) : Prop where
  valid : validateCredentialDeliveryBundle delivery = .ok ()
  projection : active.projection = delivery.projection
  generation : active.generation ≠ delivery.generation
  slot : active.slot ≠ delivery.slot

/-- What a materialized delta has in common with the active bundle and with the delta. -/
structure DeltaFrame (active delivery candidate : CredentialDeliveryBundle) : Prop where
  full : FullBundle candidate
  projection : candidate.projection = active.projection
  generation : candidate.generation = delivery.generation
  slot : candidate.slot = delivery.slot
  material : ∃ cls before delta after, active.payload = some before ∧ delivery.payload = some delta ∧
    candidate.payload = some after ∧ delta.rotationClass = some cls ∧ SameOutside cls before after ∧
    TakesClass cls delta after

section Delta

variable {active delivery candidate : CredentialDeliveryBundle}

/-- The payloads of an active bundle and of a delta of the same owner are of one kind. -/
theorem payload_cases (hactive : FullBundle active)
    (hdelta : credentialDeliveryIsRotationDelta delivery = true) (hfits : DeltaFits active delivery) :
    (∃ value delta, active.payload = some (.windows value) ∧
      validateWindowsCredentialProjection value = .ok () ∧
      RealBundle delivery .windows (.windowsRotation delta)) ∨
    ∃ value delta, active.payload = some (.vm value) ∧ validateVmCredentialProjection value = .ok () ∧
      RealBundle delivery .vm (.vmRotation delta) := by
  have hreal : delivery.dummyNonSecret = false := by
    cases hpayload : delivery.payload with
    | none => simp [credentialDeliveryIsRotationDelta, hpayload] at hdelta
    | some payload => exact real_of_payload hfits.valid hpayload
  obtain ⟨kind, before, hbefore⟩ := (validate_real_iff hactive.real).mp hactive.valid
  obtain ⟨kind', delta, hafter⟩ := (validate_real_iff hreal).mp hfits.valid
  obtain rfl : kind = kind' := by
    have howner := hbefore.owner
    rw [hfits.projection, hafter.owner] at howner
    exact (Option.some.inj howner).symm
  have hfull := hactive.full
  rw [credentialDeliveryIsRotationDelta, hbefore.carries] at hfull
  rw [credentialDeliveryIsRotationDelta, hafter.carries] at hdelta
  have hvalid := hbefore.valid
  have hvalid' := hafter.valid
  cases kind with
  | unspecified => cases before <;> exact hvalid.elim
  | windows =>
    cases before with
    | windows value =>
      cases delta with
      | windowsRotation delta => exact .inl ⟨value, delta, hbefore.carries, hvalid, hafter⟩
      | vmRotation _ => exact hvalid'.elim
      | windows _ | vm _ => simp at hdelta
    | windowsRotation _ => simp at hfull
    | vm _ | vmRotation _ => exact hvalid.elim
  | vm =>
    cases before with
    | vm value =>
      cases delta with
      | vmRotation delta => exact .inr ⟨value, delta, hbefore.carries, hvalid, hafter⟩
      | windowsRotation _ => exact hvalid'.elim
      | windows _ | vm _ => simp at hdelta
    | vmRotation _ => simp at hfull
    | windows _ | windowsRotation _ => exact hvalid.elim

/-- The bundle made of the header of a delivery and a full payload. -/
def withPayload (delivery : CredentialDeliveryBundle) (payload : Payload) : CredentialDeliveryBundle :=
  ⟨delivery.schemaVersion, delivery.generation, delivery.projection, false, delivery.slot, some payload⟩

theorem fullBundle_withPayload {kind : CredentialProjectionKind} {delta payload : Payload}
    (hdelivery : RealBundle delivery kind delta) (hvalid : PayloadValid delivery.generation kind payload)
    (hfull : credentialDeliveryIsRotationDelta (withPayload delivery payload) = false) :
    FullBundle (withPayload delivery payload) := by
  refine ⟨?_, rfl, hfull⟩
  have hreal : (withPayload delivery payload).dummyNonSecret = false := rfl
  rw [validate_real_iff hreal]
  exact ⟨kind, payload, hdelivery.schema, hdelivery.generation, hdelivery.owner, hdelivery.slot, rfl, hvalid⟩

theorem deltaFits_of_materialize (hdelta : credentialDeliveryIsRotationDelta delivery = true)
    (h : materializeCredentialDeliveryCandidate (some active) delivery = .ok candidate) :
    DeltaFits active delivery := by
  simp only [materializeCredentialDeliveryCandidate, hdelta, not_true_eq_false, if_false, ok_iff,
    Option.some.injEq, not_not] at h
  obtain ⟨hvalid, -, _, rfl, -, _, -, hprojection, hgeneration, hslot, -⟩ := h
  exact ⟨hvalid, hprojection, hgeneration, hslot⟩

theorem materialize_exists (hactive : FullBundle active)
    (hdelta : credentialDeliveryIsRotationDelta delivery = true) (hfits : DeltaFits active delivery) :
    ∃ candidate, materializeCredentialDeliveryCandidate (some active) delivery = .ok candidate ∧
      DeltaFrame active delivery candidate := by
  obtain ⟨reference, hreference⟩ := fullBundle_iff.mp hactive
  have hreal : ∀ kind payload, RealBundle delivery kind payload → ¬ delivery.dummyNonSecret = true := by
    intro kind payload h
    simp [real_of_payload hfits.valid h.carries]
  rcases payload_cases hactive hdelta hfits with ⟨value, delta, hpayload, hvalue, hdelivery⟩ |
    ⟨value, delta, hpayload, hvalue, hdelivery⟩
  case' inl =>
    obtain ⟨cls, next, hcls, hnext, hvalid, hsame, htakes⟩ :=
      materializeWindows_exists hvalue hdelivery.valid
    have hfull : FullBundle (withPayload delivery (.windows next)) :=
      fullBundle_withPayload hdelivery hvalid rfl
  case' inr =>
    obtain ⟨cls, next, hcls, hnext, hvalid, hsame, htakes⟩ := materializeVm_exists hvalue hdelivery.valid
    have hfull : FullBundle (withPayload delivery (.vm next)) := fullBundle_withPayload hdelivery hvalid rfl
  all_goals
    obtain ⟨reference', hreference'⟩ := fullBundle_iff.mp hfull
    refine ⟨_, ?_, hfull, hfits.projection.symm, rfl, rfl, cls, _, _, _, hpayload, hdelivery.carries,
      rfl, hcls, hsame, htakes⟩
    simp only [materializeCredentialDeliveryCandidate, hdelta, not_true_eq_false, if_false, ok_iff,
      Option.some.injEq, not_not]
    refine ⟨hfits.valid, hreal _ _ hdelivery, active, rfl, hactive.valid, reference, hreference,
      hfits.projection, hfits.generation, hfits.slot, ?_⟩
    rw [hpayload, hdelivery.carries]
    simp only [ok_iff]
    exact ⟨_, by rw [hnext]; rfl, hfull.valid, reference', hreference', rfl⟩

end Delta

/-! ## Staging and rollback -/

section Store

variable {projection : CredentialProjectionKind} {s w : StoreWorld}

/-- The active bundle of a store. -/
def activeBundle (w : StoreWorld) : Option LocalCredentialBundleRef := (stored w).bind (·.active)

theorem Pointed.keeps_active {delivery : CredentialDeliveryBundle}
    (h : Pointed projection (.stageDelivery delivery) s w) :
    activeBundle w = activeBundle s := by
  by_cases hsame : stored w = stored s
  · rw [activeBundle, activeBundle, hsame]
  · have htransition := (h.changed hsame).transition
    rw [activeBundle, activeBundle]
    generalize stored w = next at htransition ⊢
    generalize stored s = current at htransition ⊢
    cases htransition with
    | stage _ _ _ _ => cases current <;> rfl
    | promote hpromotes _ _ => exact hpromotes.elim

variable {r : Except String LocalCredentialState}

/-- What a rollback has left when it reports success. -/
theorem rollback_done (hs : Ready projection s) (h : (rollbackPrevious projection).Done storeSem s r w) :
    (∃ e, r = .error e) ∨ ∃ state active previous, stored s = some state ∧ state.candidate = none ∧
      state.active = some active ∧ state.previous = some previous ∧
      r = .ok (swapped projection active previous) ∧ stored w = some (swapped projection active previous) ∧
      bundlesOf w = bundlesOf s := by
  have hsafe : StoreSafe projection .rollback s (rollbackPrevious projection)
      (fun r w => (∃ e, r = .error e) ∨ ∃ state active previous, stored s = some state ∧
        state.candidate = none ∧ state.active = some active ∧ state.previous = some previous ∧
        r = .ok (swapped projection active previous) ∧ stored w = some (swapped projection active previous) ∧
        bundlesOf w = bundlesOf s) s := by
    refine safe_readState hs.consistent (Safe.check (fun e => .inl ⟨e, rfl⟩) fun state hstate =>
      Safe.check (fun e => .inl ⟨e, rfl⟩) fun _ hcandidate => Safe.check
        (fun e => .inl ⟨e, rfl⟩) fun active hactive =>
      Safe.check (fun e => .inl ⟨e, rfl⟩) fun previous hprevious => ?_)
    rw [okOr_eq_ok] at hstate hactive hprevious
    rw [rejectIf_eq_ok, not_not] at hcandidate
    exact safe_swap hs hstate hcandidate hactive hprevious fun _ _ hstored hbundles =>
      .inr ⟨state, active, previous, hstate, hcandidate, hactive, hprevious, rfl, hstored, hbundles⟩
  exact hsafe.done h

/-- A rollback that can run succeeds. -/
theorem rollback_swaps {active previous : LocalCredentialBundleRef}
    (hs : Ready projection s) (hstate : stored s = some (swapped projection active previous))
    (h : (rollbackPrevious projection).Done storeSem s r w) :
    r = .ok (swapped projection previous active) ∧ stored w = some (swapped projection previous active) ∧
      bundlesOf w = bundlesOf s := by
  have hsafe : StoreSafe projection .rollback s (rollbackPrevious projection)
      (fun r w => r = .ok (swapped projection previous active) ∧
        stored w = some (swapped projection previous active) ∧ bundlesOf w = bundlesOf s) s := by
    refine safe_readState hs.consistent ?_
    rw [hstate]
    refine Safe.lift_ok rfl (Safe.not_rejected (by simp [swapped]) (Safe.lift_ok rfl (Safe.lift_ok rfl ?_)))
    exact safe_swap hs hstate rfl rfl rfl fun _ _ hstored hbundles => ⟨rfl, hstored, hbundles⟩
  exact hsafe.done h

end Store

/-- **The frame of a rotation.** A delta that fits a full active bundle, and no other, gives a full bundle of
    the same projection that differs from it in the credentials of the delta's class alone. Staging a
    delivery never changes the active bundle of a reachable store, also across a crash. After a rollback a
    second one succeeds and restores the state and the bundles. -/
theorem credential_delta_frame :
    (∀ active delivery, FullBundle active → credentialDeliveryIsRotationDelta delivery = true →
      ((∃ candidate, materializeCredentialDeliveryCandidate (some active) delivery = .ok candidate) ↔
        DeltaFits active delivery) ∧
      ∀ candidate, materializeCredentialDeliveryCandidate (some active) delivery = .ok candidate →
        DeltaFrame active delivery candidate) ∧
    (∀ projection ts s delivery, (storeSystem projection).Run provisionedStore ts s →
      (∀ p w, (StoreCall.run projection (.stageDelivery delivery)).Steps storeSem s p w →
        activeBundle w = activeBundle s) ∧
      ∀ w, (storeSystem projection).Outcome (.stageDelivery delivery) s w →
      activeBundle w = activeBundle s) ∧
    ∀ projection ts s state w, (storeSystem projection).Run provisionedStore ts s →
      (rollbackPrevious projection).Done storeSem s (.ok state) w →
      (∃ r w', (rollbackPrevious projection).Done storeSem w r w') ∧
      ∀ r w', (rollbackPrevious projection).Done storeSem w r w' → ∃ original, stored s = some original ∧
        r = .ok original ∧ stored w' = some original ∧ bundlesOf w' = bundlesOf s := by
  refine ⟨fun active delivery hactive hdelta => ⟨⟨?_, ?_⟩, ?_⟩,
    fun projection ts s delivery hrun => ⟨?_, ?_⟩, ?_⟩
  · rintro ⟨candidate, h⟩
    exact deltaFits_of_materialize hdelta h
  · intro hfits
    obtain ⟨candidate, h, -⟩ := materialize_exists hactive hdelta hfits
    exact ⟨candidate, h⟩
  · intro candidate h
    obtain ⟨candidate', h', hframe⟩ := materialize_exists hactive hdelta (deltaFits_of_materialize hdelta h)
    rw [h, Except.ok.injEq] at h'
    exact h' ▸ hframe
  · intro p w hsteps
    exact (pointed_steps (run_ready ready_provisioned hrun) hsteps).keeps_active
  · intro w hout
    exact (pointed_outcome (run_ready ready_provisioned hrun) hout).keeps_active
  · intro projection ts s state w hrun hdone
    have hs := run_ready ready_provisioned hrun
    have hcall : (StoreCall.run projection .rollback).Done storeSem s (.ok (some state)) w := done_some hdone
    have hw : Ready projection w := ready_done hs hcall
    refine ⟨Proc.exists_done storeSem_total _ _, fun r w' hdone' => ?_⟩
    rcases rollback_done hs hdone with ⟨_, herror⟩ |
      ⟨original, active, previous, hstored, hcandidate, hactive, hprevious, -, hstored', hbundles⟩
    · cases herror
    · obtain ⟨rfl, hstored'', hbundles'⟩ := rollback_swaps hw hstored' hdone'
      have hsound := hs.consistent.sound hstored
      have horiginal : swapped projection previous active = original := by
        obtain ⟨schemaVersion, owner, _, _, _⟩ := original
        cases hcandidate
        cases hactive
        cases hprevious
        rw [swapped, ← show schemaVersion = 1 from hsound.wellFormed.schema, ← show owner =
          _ from hsound.owner]
      exact ⟨original, hstored, by rw [horiginal], by rw [hstored'', horiginal], hbundles'.trans hbundles⟩

/-- A rotation of the tunnel credentials of the VM. -/
def sampleVmDelta : CredentialDeliveryBundle :=
  ⟨1, 3, toI32 CredentialProjectionKind.vm, false, toI32 CredentialDeliverySlot.a,
    some (.vmRotation ⟨toI32 CredentialRotationClass.tunnelAuth,
      some ⟨3, some sampleTunnel, some sampleTunnel⟩, none, none⟩)⟩

/-- It can be materialized over the sample bundle of the VM, and keeps all but the tunnel credentials. -/
theorem credential_delta_frame_vm :
    ∃ candidate, materializeCredentialDeliveryCandidate (some sampleVm) sampleVmDelta = .ok candidate ∧
      DeltaFrame sampleVm sampleVmDelta candidate := by
  have hactive : FullBundle sampleVm := ⟨sampleVm_deliverable.valid, rfl, rfl⟩
  obtain ⟨hiff, hframe⟩ := credential_delta_frame.1 sampleVm sampleVmDelta hactive rfl
  obtain ⟨candidate, h⟩ := hiff.mpr ⟨by decide, rfl, by decide, by decide⟩
  exact ⟨candidate, h, hframe candidate h⟩

end EdgePlatform.Credential
