import EdgePlatform.Foundation.Framing
import EdgePlatform.Host.Families

/-!
# `EdgePlatform.Host.SignedPayloads` — what a Worker signature is a signature of

The Worker signs two kinds of payloads with one key: `host_authorization_payload` for a lifecycle intent and
`authorization_payload` for an administrative program. Each is a domain, fields behind their lengths and two
times. `signed_payloads_unambiguous` says that a payload determines its fields and its kind, so that a
signature which is valid for one payload only authorizes one tuple only.
-/

namespace EdgePlatform.Host

open Foundation

/-- A field whose length a prefix of four bytes can hold. -/
def Short (b : Bytes) : Prop := b.length < 2 ^ 32

/-- What a host authorization is given for. -/
def hostTuple (i : FleetHostIntent) (a : FleetHostAuthorization) :
    Bytes × String × String × UInt64 × UInt64 :=
  (i.encodeToVec, a.keyId, a.operationId, a.issuedAtUnix, a.expiresAtUnix)

/-- What an administrative authorization is given for. -/
def adminTuple (r : FleetNativeAdminRequest) (a : FleetNativeAdminAuthorization) :
    Bytes × String × UInt64 × UInt64 :=
  (r.encodeToVec, a.keyId, a.issuedAtUnix, a.expiresAtUnix)

/-- The fields of a host payload are short. -/
def HostShort (i : FleetHostIntent) (a : FleetHostAuthorization) : Prop :=
  Short i.encodeToVec ∧ Short (utf8 a.keyId) ∧ Short (utf8 a.operationId)

/-- The fields of an administrative payload are short. -/
def AdminShort (r : FleetNativeAdminRequest) (b : FleetNativeAdminAuthorization) : Prop :=
  Short r.encodeToVec ∧ Short (utf8 b.keyId)

/-- Under this key the signature is valid for one message at most. -/
def SignsOne (D : Deps) (key signature : Bytes) : Prop :=
  ∀ m m', D.ed25519Verify key m signature = true → D.ed25519Verify key m' signature = true → m = m'

/-- The two times at the end of a payload. -/
def times (issued expires : UInt64) : Bytes := be64 issued ++ be64 expires

theorem framed_be64 : Framed (fun _ : UInt64 => True) be64 := by
  refine framed_of_width (w := 8) (fun x => by simp [be64]) fun a b _ _ h => UInt64.toNat_inj.mp ?_
  exact bigEndian_inj (w := 8) a.toNat_lt b.toNat_lt h

theorem times_inj {issued expires issued' expires' : UInt64}
    (h : times issued expires = times issued' expires') :
    issued = issued' ∧ expires = expires' := by
  obtain ⟨hissued, hrest⟩ := framed_be64 trivial trivial h
  refine ⟨hissued, (framed_be64 (s := []) (t := []) trivial trivial ?_).1⟩
  rw [hrest]

theorem be32Len_eq {b : Bytes} (h : Short b) : be32Len b = bigEndian 4 b.length := by
  have hmod : b.length % 4294967296 = b.length := Nat.mod_eq_of_lt h
  have hhigh : b.length / 16777216 % 256 = b.length / 16777216 := by
    refine Nat.mod_eq_of_lt ?_
    omega
  simp only [be32Len, Sha256.be32, BitVec.toNat_ofNat, hmod, bigEndian, List.range, List.range.loop,
    List.map_cons, List.map_nil, Nat.reduceSub, Nat.reducePow, hhigh, Nat.div_one]

theorem framed_field : Framed Short fun b => be32Len b ++ b := by
  intro a b ha hb s t h
  simp only [be32Len_eq ha, be32Len_eq hb] at h
  have hsize : Framed (· < 2 ^ 32) (bigEndian 4) := framed_bigEndian 4
  exact framed_of_length hsize ha hb h

section Payloads

variable {i i' : FleetHostIntent} {a a' : FleetHostAuthorization} {r r' : FleetNativeAdminRequest}
variable {b b' : FleetNativeAdminAuthorization}

/-- Both payloads have one shape. -/
def framedPayload (domain subject key operation : Bytes) (issued expires : UInt64) : Bytes :=
  domain ++ ((be32Len subject ++ subject) ++ ((be32Len key ++ key) ++ ((be32Len operation ++ operation) ++
    times issued expires)))

theorem framedPayload_inj {domain subject key operation subject' key' operation' : Bytes}
    {issued expires issued' expires' : UInt64} (hs : Short subject) (hs' : Short subject') (hk : Short key)
    (hk' : Short key') (h : framedPayload domain subject key operation issued expires =
      framedPayload domain subject' key' operation' issued' expires') :
    subject = subject' ∧ key = key' ∧ be32Len operation ++ operation = be32Len operation' ++ operation' ∧
      issued = issued' ∧ expires = expires' := by
  obtain ⟨hsubject, hrest⟩ := framed_field hs hs' (List.append_cancel_left h)
  obtain ⟨hkey, hrest⟩ := framed_field hk hk' hrest
  -- the times have one width, so the field before them need not be read
  obtain ⟨hoperation, htimes⟩ := List.append_inj' hrest (by simp [times, be64])
  exact ⟨hsubject, hkey, hoperation, times_inj htimes⟩

theorem hostAuthorizationPayload_eq : hostAuthorizationPayload i a = framedPayload
    (utf8 "sing-box/native-host-authorization/v1:") i.encodeToVec (utf8 a.keyId)
    (utf8 a.operationId) a.issuedAtUnix
    a.expiresAtUnix := by
  simp only [hostAuthorizationPayload, framedPayload, times, List.append_assoc]

theorem authorizationPayload_eq : HostAdmin.authorizationPayload r b = framedPayload
    (utf8 "sing-box/native-admin-authorization/v1:") r.encodeToVec (utf8 b.keyId)
    (utf8 (HostAdmin.operationId r))
    b.issuedAtUnix b.expiresAtUnix := by
  simp only [HostAdmin.authorizationPayload, framedPayload, times, List.append_assoc]

theorem hostTuple_of_payload (hs : HostShort i a) (hs' : HostShort i' a')
    (h : hostAuthorizationPayload i a = hostAuthorizationPayload i' a') :
    hostTuple i a = hostTuple i' a' := by
  rw [hostAuthorizationPayload_eq, hostAuthorizationPayload_eq] at h
  obtain ⟨hintent, hkey, hfield, hissued, hexpires⟩ := framedPayload_inj hs.1 hs'.1 hs.2.1 hs'.2.1 h
  have hoperation := (framed_field.split hs.2.2 hs'.2.2 (s := []) (t := [])).mp (by simpa using hfield)
  simp only [hostTuple, hintent, utf8_injective hkey, utf8_injective hoperation.1, hissued, hexpires]

theorem adminTuple_of_payload (hs : AdminShort r b) (hs' : AdminShort r' b')
    (h : HostAdmin.authorizationPayload r b = HostAdmin.authorizationPayload r' b') :
    adminTuple r b = adminTuple r' b' := by
  rw [authorizationPayload_eq, authorizationPayload_eq] at h
  obtain ⟨hrequest, hkey, -, hissued, hexpires⟩ := framedPayload_inj hs.1 hs'.1 hs.2 hs'.2 h
  simp only [adminTuple, hrequest, utf8_injective hkey, hissued, hexpires]

/-- The domains differ in their seventeenth byte, an `h` or an `a`. -/
theorem hostPayload_ne_adminPayload : hostAuthorizationPayload i a ≠ HostAdmin.authorizationPayload r b := by
  intro h
  rw [hostAuthorizationPayload_eq, authorizationPayload_eq] at h
  have hbyte := congrArg (fun m : Bytes => m[16]?) h
  simp only [framedPayload] at hbyte
  rw [List.getElem?_append_left (by decide), List.getElem?_append_left (by decide)] at hbyte
  revert hbyte
  decide

end Payloads

/-- **Signed payloads are unambiguous.** A payload of either kind determines what it is given for, no payload
    is of both kinds, and so a signature that is valid for one message only authorizes one tuple only. -/
theorem signed_payloads_unambiguous :
    (∀ i a i' a', HostShort i a → HostShort i' a' →
      hostAuthorizationPayload i a = hostAuthorizationPayload i' a' → hostTuple i a = hostTuple i' a') ∧
    (∀ r b r' b', AdminShort r b → AdminShort r' b' →
      HostAdmin.authorizationPayload r b = HostAdmin.authorizationPayload r' b' →
      adminTuple r b = adminTuple r' b') ∧
    (∀ i a r b, hostAuthorizationPayload i a ≠ HostAdmin.authorizationPayload r b) ∧
    ∀ (D : Deps) (key signature : Bytes), SignsOne D key signature →
      (∀ i a i' a', HostShort i a → HostShort i' a' →
        D.ed25519Verify key (hostAuthorizationPayload i a) signature = true →
        D.ed25519Verify key (hostAuthorizationPayload i' a') signature = true →
        hostTuple i a = hostTuple i' a') ∧
      (∀ r b r' b', AdminShort r b → AdminShort r' b' →
        D.ed25519Verify key (HostAdmin.authorizationPayload r b) signature = true →
        D.ed25519Verify key (HostAdmin.authorizationPayload r' b') signature = true →
          adminTuple r b = adminTuple r' b') ∧
      ∀ i a r b, D.ed25519Verify key (hostAuthorizationPayload i a) signature = true →
        D.ed25519Verify key (HostAdmin.authorizationPayload r b) signature = false := by
  refine ⟨fun i a i' a' => hostTuple_of_payload, fun r b r' b' => adminTuple_of_payload,
    fun i a r b => hostPayload_ne_adminPayload, fun D key signature hone => ⟨?_, ?_, ?_⟩⟩
  · intro i a i' a' hs hs' h h'
    exact hostTuple_of_payload hs hs' (hone _ _ h h')
  · intro r b r' b' hs hs' h h'
    exact adminTuple_of_payload hs hs' (hone _ _ h h')
  · intro i a r b h
    by_contra hadmin
    rw [Bool.not_eq_false] at hadmin
    exact hostPayload_ne_adminPayload (hone _ _ h hadmin)

open VmSample in
/-- The signature on the intent of the first comment authorizes that intent only, and no administrative
program. -/
theorem comment_signature_unambiguous :
    (∀ i a, HostShort i a →
        deps.ed25519Verify WindowsSample.workerKey (hostAuthorizationPayload i a)
          (signatureOf "issue1-comment-1") = true → hostTuple i a = hostTuple (intent "issue1-comment-1")
          (authorization "issue1-comment-1")) ∧
      ∀ r b, deps.ed25519Verify WindowsSample.workerKey (HostAdmin.authorizationPayload r b)
        (signatureOf "issue1-comment-1") = false := by
  have hone : SignsOne deps WindowsSample.workerKey (signatureOf "issue1-comment-1") := by
    have hfirst : signatureOf "issue1-comment-1" ≠ signatureOf "issue1-comment-2" := by decide
    have hadmin : signatureOf "issue1-comment-1" ≠ adminAuthorization.ed25519Signature := by decide
    intro m m' h h'
    simp only [deps, List.any_cons, List.any_nil, hfirst, hadmin, decide_true, decide_false, Bool.true_and,
      Bool.false_and, Bool.or_false, decide_eq_true_eq] at h h'
    rw [h, h']
  have hvalid : deps.ed25519Verify WindowsSample.workerKey
      (hostAuthorizationPayload (intent "issue1-comment-1") (authorization "issue1-comment-1"))
      (signatureOf "issue1-comment-1") = true := by
    simp [deps]
  have hshort : HostShort (intent "issue1-comment-1") (authorization "issue1-comment-1") := by
    refine ⟨?_, ?_, ?_⟩ <;> unfold Short <;> decide +kernel
  obtain ⟨-, -, -, hsigned⟩ := signed_payloads_unambiguous
  obtain ⟨htuple, -, hkind⟩ := hsigned _ _ _ hone
  exact ⟨fun i a hs h => htuple i a _ _ hs hshort h hvalid, fun r b => hkind _ _ r b hvalid⟩

end EdgePlatform.Host
