import EdgePlatform.Host.Families

/-!
# `EdgePlatform.Host.AdminReceipts` — the receipt of an administrative program, and who accepts it

A controller checks a signed receipt against the Worker's authorization (`verify_receipt_worker_authority`).
`receipt_accepted_iff` compares the time window of that check with the window of the admission.
-/

namespace EdgePlatform.Host.HostAdmin

open Foundation

/-! ## The receipt check -/

/-- The receipt was authorized before it was built, or is a rejection. -/
def verifyReceiptWorkerAuthority (D : Deps) (request : FleetNativeAdminRequest)
    (receipt : FleetNativeAdminResult) (workerPublicKey : Bytes) : Except String Unit :=
  if receipt.rejectedBeforeBegin then
    rejectIf (receipt.workerAuthorization.isSome) "HOST_ADMIN_REJECTION_CANNOT_CLAIM_AUTHORIZATION"
  else do
    let auth ← okOr receipt.workerAuthorization "HOST_ADMIN_RECEIPT_WORKER_AUTHORIZATION_MISSING"
    rejectIf (receipt.observedAtUnix < auth.issuedAtUnix) "HOST_ADMIN_RECEIPT_PRECEDES_AUTHORIZATION"
    verifyAuthorization D request auth workerPublicKey auth.issuedAtUnix

section Acceptance

variable {D : Deps} {request : FleetNativeAdminRequest} {auth : FleetNativeAdminAuthorization} {key : Bytes}
variable {now : UInt64}

/-- What was admitted at some time is in order at the time it was issued. -/
theorem verifyAuthorization_issued (h : verifyAuthorization D request auth key now = .ok ()) :
    verifyAuthorization D request auth key auth.issuedAtUnix = .ok () := by
  simp only [verifyAuthorization, ok_iff, not_or, not_not] at h ⊢
  obtain ⟨hrequest, ⟨h1, h2, h3, h4, h5, h6, h7, hwindow, hspan, -, -⟩, hsignature⟩ := h
  refine ⟨hrequest, ⟨h1, h2, h3, h4, h5, h6, h7, hwindow, hspan, ?_, ?_⟩, hsignature⟩
  · unfold saturatingAdd
    split
    · exact UInt64.not_lt.mpr (UInt64.le_iff_toNat_le.mpr (Nat.le_of_lt_succ auth.issuedAtUnix.toNat_lt))
    · rename_i hfits
      rw [UInt64.lt_iff_toNat_lt, UInt64.toNat_add, Nat.mod_eq_of_lt (not_le.mp hfits)]
      omega
  · exact fun hlate => hwindow (UInt64.le_of_lt hlate)

theorem verifyReceiptWorkerAuthority_eq_ok {receipt : FleetNativeAdminResult}
    (hbegun : receipt.rejectedBeforeBegin = false) (hauth : receipt.workerAuthorization = some auth) :
    verifyReceiptWorkerAuthority D request receipt key = .ok () ↔
      auth.issuedAtUnix ≤ receipt.observedAtUnix ∧
        verifyAuthorization D request auth key auth.issuedAtUnix = .ok () := by
  unfold verifyReceiptWorkerAuthority
  rw [hbegun, if_neg Bool.false_ne_true]
  simp only [hauth, ok_iff, Option.some.injEq, exists_eq_left', UInt64.not_lt]

/-- **When the receipt of an admitted execution is accepted.** The signed receipt that is built at
    `observedAt` for an admitted execution passes the check exactly if it was not built before the
    authorization was issued. The admission tolerates an authorization up to a minute ahead of the clock, the
    check does not. -/
theorem receipt_accepted_iff (h : verifyAuthorization D request auth key now = .ok ()) {raw ownerKey : Bytes}
    {observedAt : UInt64} {outcome : AdminChildOutcome} {out err : CapturedStream}
    {receipt : FleetNativeAdminResult}
      (hsigned : signReceipt D request (receiptOf request raw auth observedAt journalPath outcome out err)
        ownerKey = .ok receipt) :
    verifyReceiptWorkerAuthority D request receipt key = .ok () ↔ auth.issuedAtUnix ≤ observedAt := by
  simp only [signReceipt, ok_iff, pure_eq_ok] at hsigned
  obtain ⟨-, signature, -, rfl⟩ := hsigned
  exact (verifyReceiptWorkerAuthority_eq_ok rfl rfl).trans (and_iff_left (verifyAuthorization_issued h))

end Acceptance

theorem exists_ok {ε α : Type} {x : Except ε α} (h : x.toBool = true) : ∃ a, x = .ok a := by
  cases x with
  | error e => cases h
  | ok a => exact ⟨a, rfl⟩

open VmSample in
/-- The program of the sample, admitted a minute before its authorization was issued and finished when it
was. -/
theorem receipt_accepted_after_wait :
    verifyAuthorization deps request adminAuthorization WindowsSample.workerKey 940 = .ok () ∧
      ∃ signed, signReceipt deps request VmSample.receipt receiptKey = .ok signed ∧
        verifyReceiptWorkerAuthority deps request signed WindowsSample.workerKey = .ok () := by
  have hcheck : verifyAuthorization deps request adminAuthorization WindowsSample.workerKey 940 = .ok () ∧
      (signReceipt deps request VmSample.receipt receiptKey).toBool = true := by
    decide +kernel
  obtain ⟨signed, hsigned⟩ := exists_ok hcheck.2
  exact ⟨hcheck.1, signed, hsigned, (receipt_accepted_iff hcheck.1 hsigned).mpr (by decide)⟩

namespace EarlySample

open VmSample

/-- The receipt of the same program where it finished after a second. -/
def earlyReceipt : FleetNativeAdminResult :=
  receiptOf request request.encodeToVec adminAuthorization 941 journalPath outcome ⟨sha256 [], 0, [], 0⟩
    ⟨sha256 [], 0, [], 0⟩

/-- The signature scheme on that receipt as well. -/
def earlyDeps : Deps :=
  { deps with
    ed25519Sign := fun pkcs8 message =>
      if pkcs8 = receiptKey ∧ message = receiptPayload request earlyReceipt then some
          (WindowsSample.bytesOf 64
        0xff8790b484fb69280c936377f99a417d3459200c8df3bc211708d3ef0f0772cc60ad3d9ba837aaea75ade8083618a5b2b094512b6d3b055550044be05f1b4500)
      else none }

end EarlySample

open EarlySample VmSample in
/-- The authorization is issued at 1000. The owner's clock shows 940 when the program is admitted and 941
    when it has finished. The receipt is signed, and the check refuses it. -/
theorem admitted_receipt_refused :
    verifyAuthorization earlyDeps request adminAuthorization WindowsSample.workerKey 940 = .ok () ∧
      ∃ signed, signReceipt earlyDeps request earlyReceipt receiptKey = .ok signed ∧
        verifyReceiptWorkerAuthority earlyDeps request signed WindowsSample.workerKey =
          .error "HOST_ADMIN_RECEIPT_PRECEDES_AUTHORIZATION" := by
  obtain ⟨hadmitted, hsigns, hcheck⟩ :
      verifyAuthorization earlyDeps request adminAuthorization WindowsSample.workerKey 940 = .ok () ∧
      (signReceipt earlyDeps request earlyReceipt receiptKey).toBool = true ∧
      (signReceipt earlyDeps request earlyReceipt receiptKey).bind
        (verifyReceiptWorkerAuthority earlyDeps request · WindowsSample.workerKey) =
          .error "HOST_ADMIN_RECEIPT_PRECEDES_AUTHORIZATION" := by
    decide +kernel
  obtain ⟨signed, hsigned⟩ := exists_ok hsigns
  rw [hsigned] at hcheck
  exact ⟨hadmitted, signed, hsigned, hcheck⟩

end EdgePlatform.Host.HostAdmin
