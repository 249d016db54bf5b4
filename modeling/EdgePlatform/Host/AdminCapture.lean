import EdgePlatform.Foundation.JsonObject
import EdgePlatform.Foundation.Progress
import EdgePlatform.Host.Admin
import EdgePlatform.Host.Protocol

/-!
# `EdgePlatform.Host.AdminCapture` — the captured output of an administrative program

A pipe hands over its bytes in reads of any size. The VM owner (`capture_stream_with_file`) and the Windows
owner (`drain`) both count and hash everything, spool the first 16 MiB and keep the first 64 KiB as a
preview. `Kept` is what the two loops keep true after every read; `captures_exact` is what they record in the
end, and that a receipt built from two such captures passes the equations of `preview_valid` and is signed.
-/

namespace EdgePlatform.Host.HostAdmin

open Foundation

/-! ## The Windows owner -/

/-- What a Windows drain returns. -/
structure Stream where
  digest : Bytes
  total : UInt64
  saved : UInt64
  preview : Bytes
  eof : Bool
deriving DecidableEq

/-- One read of `drain`, with the spool behind it. The sum wraps. -/
def drainRead (s : Stream × Bytes) (buf : Bytes) : Stream × Bytes :=
  let keep := min buf.length (captureLimit - s.1.saved.toNat)
  ({ s.1 with
      total := s.1.total + UInt64.ofNat buf.length
      preview := s.1.preview ++ buf.take (min buf.length (previewLimit - s.1.preview.length))
      saved := s.1.saved + UInt64.ofNat keep },
    s.2 ++ buf.take keep)

/-- `drain` of a pipe that ends in these reads, by its end or by the time after the exit of the child, and
the spool. -/
def drain (reads : List Bytes) (eof : Bool) : Stream × Bytes :=
  let s := reads.foldl drainRead (⟨[], 0, 0, [], false⟩, [])
  ({ s.1 with digest := sha256 reads.flatten, eof := eof }, s.2)

def Stream.captured (s : Stream) : CapturedStream := ⟨s.digest, s.total, s.preview, s.saved⟩

/-- The journal under the fixed installation root. -/
def windowsJournalPath : String := "C:\\sing-box\\native-host/journal"

/-- The receipt of `windows_admin_process::run`: that of a VM, but for the exit code and the separator of the
    paths. -/
def windowsReceiptOf (request : FleetNativeAdminRequest) (raw : Bytes) (auth : FleetNativeAdminAuthorization)
    (observedAt : UInt64) (timeout : Bool) (exit : Int32) (written : UInt64) (out err : Stream) :
    FleetNativeAdminResult :=
  { receiptOf request raw auth observedAt windowsJournalPath
      ⟨some (if timeout then 124 else exit), [], [], out.eof, err.eof, written⟩ out.captured
        err.captured with
    stdoutCapturePath := windowsJournalPath ++ "\\" ++ stdoutName (operationId request)
    stderrCapturePath := windowsJournalPath ++ "\\" ++ stderrName (operationId request) }

/-! ## What the loops keep -/

/-- After `seen` bytes: the preview and the spool are leading parts of them. -/
structure Kept (seen preview spool : Bytes) (saved : UInt64) : Prop where
  preview : preview = seen.take previewLimit
  spool : spool = seen.take captureLimit
  saved : saved.toNat = min captureLimit seen.length

/-- The capture of a whole stream. -/
structure Exact (stream : Bytes) (c : CapturedStream) (spool : Bytes) : Prop where
  total : c.totalBytes.toNat = stream.length
  digest : c.sha256 = sha256 stream
  kept : Kept stream c.preview spool c.captureBytes

section Loops

variable {seen preview spool : Bytes} {saved : UInt64}

/-- A leading part grows by what still fits. -/
theorem take_grow (limit : Nat) (seen buffer : Bytes) :
    seen.take limit ++ buffer.take (min (limit - min limit seen.length) buffer.length) =
      (seen ++ buffer).take limit := by
  rw [List.take_append]
  refine congrArg _ ?_
  rw [List.take_eq_take_iff]
  omega

theorem kept_nil : Kept [] [] [] 0 := ⟨rfl, rfl, rfl⟩

/-- **One read.** -/
theorem Kept.read (h : Kept seen preview spool saved) (buffer : Bytes) {save : Nat}
    (hsave : save = min (captureLimit - saved.toNat) buffer.length) :
    Kept (seen ++ buffer) (preview ++ buffer.take (min (previewLimit - preview.length) buffer.length))
      (spool ++ buffer.take save) (saved + UInt64.ofNat save) where
  preview := by
    rw [h.preview, List.length_take, take_grow]
  spool := by
    rw [h.spool, hsave, h.saved, take_grow]
  saved := by
    have hlimit : captureLimit < 2 ^ 64 := by decide
    rw [h.saved] at hsave
    rw [UInt64.toNat_add, UInt64.toNat_ofNat_of_lt' (show save < 2 ^ 64 by omega), h.saved,
      List.length_append, Nat.mod_eq_of_lt (by omega)]
    omega

theorem toNat_saturatingAdd (a b : UInt64) : (saturatingAdd a b).toNat = min (a.toNat + b.toNat)
    (2 ^ 64 - 1) := by
  unfold saturatingAdd
  split
  · rename_i hbig
    show 18446744073709551615 = _
    omega
  · rename_i hfits
    rw [UInt64.toNat_add]
    omega

/-- The VM loop from any point on. -/
theorem safe_captureReads_kept {w : JournalWorld} {name : String} {s : CapturedStream}
    {reads : List Bytes} {f : File} (hreads : ∀ buffer ∈ reads, buffer.length < 2 ^ 64)
    (hfile : (dirOf w).get name = some f) (hkept : Kept seen s.preview f.data s.captureBytes)
    (htotal : s.totalBytes.toNat = min seen.length (2 ^ 64 - 1)) :
    (captureReads name s seen reads).Safe journalSem (fun _ _ => True) (fun r w' => ∃ c f',
      r = .ok c ∧ (dirOf w').get name = some f' ∧ c.sha256 = sha256 (seen ++ reads.flatten) ∧
        Kept (seen ++ reads.flatten) c.preview f'.data c.captureBytes ∧
        c.totalBytes.toNat = min (seen ++ reads.flatten).length (2 ^ 64 - 1)) w := by
  induction reads generalizing w s seen f with
  | nil =>
    refine ⟨_, f, rfl, hfile, ?_⟩
    simpa using ⟨hkept, htotal⟩
  | cons buffer reads ih =>
    have hbuffer : (UInt64.ofNat buffer.length).toNat = buffer.length :=
      UInt64.toNat_ofNat_of_lt' (hreads buffer (.head _))
    have hstep := hkept.read buffer rfl
    have hsum : (saturatingAdd s.totalBytes (UInt64.ofNat buffer.length)).toNat =
        min (seen ++ buffer).length (2 ^ 64 - 1) := by
      rw [toNat_saturatingAdd, htotal, hbuffer, List.length_append]
      omega
    unfold captureReads
    simp only [List.flatten_cons, ← List.append_assoc]
    have hrest := fun b hb => hreads b (.tail _ hb)
    split
    · -- the spool takes a part of the read
      refine Proc.safe_append.mpr ⟨trivial, ih (f := ⟨f.data ++ _, false⟩) hrest ?_ hstep hsum⟩
      rw [dirOf_setDir, Dir.get_append hfile, if_pos rfl]
    · -- the spool is full
      rename_i hfull
      have hnone : min (captureLimit - s.captureBytes.toNat) buffer.length = 0 :=
        Nat.eq_zero_of_not_pos hfull
      rw [hnone, List.take_zero, List.append_nil] at hstep
      exact ih hrest hfile (by simpa [hnone] using hstep) hsum

/-- A capture into an empty spool has a run, and each one records the stream. -/
theorem captureStreamWithFile_records {w : JournalWorld} {name : String} {reads : List Bytes} {synced : Bool}
    (hreads : ∀ buffer ∈ reads, buffer.length < 2 ^ 64) (hfile : (dirOf w).get name = some ⟨[], synced⟩) :
    (captureStreamWithFile name reads).Safe journalSem (fun _ _ => True) (fun r w' => ∃ c f,
      r = .ok c ∧ (dirOf w').get name = some f ∧ f.synced = true ∧ c.sha256 = sha256 reads.flatten ∧
        Kept reads.flatten c.preview f.data c.captureBytes ∧
        c.totalBytes.toNat = min reads.flatten.length (2 ^ 64 - 1)) w := by
  have hreading := safe_captureReads_kept (s := ⟨[], 0, [], 0⟩) hreads hfile kept_nil rfl
  refine Proc.Safe.bind hreading ?_ ?_
  · rintro captured w' ⟨c, f, hc, hf, hrecorded⟩
    cases hc
    refine Proc.safe_fsync.mpr ⟨trivial, captured, ⟨f.data, true⟩, rfl, ?_, rfl, hrecorded⟩
    rw [dirOf_setDir, Dir.get_fsync hf, if_pos rfl]
  · rintro e w' ⟨c, f, hc, -⟩
    cases hc

/-- The Windows loop. -/
theorem drain_kept (reads : List Bytes) (eof : Bool) :
    Kept reads.flatten (drain reads eof).1.preview (drain reads eof).2 (drain reads eof).1.saved ∧
      (drain reads eof).1.total.toNat = reads.flatten.length % 2 ^ 64 := by
  have hloop : ∀ (s : Stream × Bytes) (seen : Bytes), Kept seen s.1.preview s.2 s.1.saved →
      s.1.total.toNat = seen.length % 2 ^ 64 →
      Kept (seen ++ reads.flatten) (reads.foldl drainRead s).1.preview (reads.foldl drainRead s).2
        (reads.foldl drainRead s).1.saved ∧
      (reads.foldl drainRead s).1.total.toNat = (seen ++ reads.flatten).length % 2 ^ 64 := by
    induction reads with
    | nil =>
      intro s seen hkept htotal
      simpa using ⟨hkept, htotal⟩
    | cons buffer reads ih =>
      intro s seen hkept htotal
      rw [List.foldl_cons, List.flatten_cons, ← List.append_assoc]
      refine ih _ _ ?_ ?_
      · simp only [drainRead, Nat.min_comm buffer.length]
        exact hkept.read buffer rfl
      · simp only [drainRead, UInt64.toNat_add, htotal, List.length_append, UInt64.toNat_ofNat']
        omega
  exact hloop _ [] kept_nil rfl

end Loops

/-! ## The receipt of two captures -/

section Receipts

variable {request : FleetNativeAdminRequest} {out err : CapturedStream}
    {outStream errStream outSpool errSpool : Bytes}

theorem length_utf8_le (s : String) : (utf8 s).length ≤ 4 * s.toList.length := by
  rw [Json.length_utf8]
  induction s.toList with
  | nil => simp
  | cons c cs ih =>
    have hc := c.utf8Size_le_four
    rw [Json.size_cons, List.length_cons]
    omega

variable {journal : String} {r : FleetNativeAdminResult} {auth : FleetNativeAdminAuthorization}
variable {outcome : AdminChildOutcome}

/-- The name of a capture: the end that is looked for, and a bounded length. -/
theorem capturePath_valid {sep last : String} {operation : Bytes}
    (hjournal : (journal ++ sep).toList.length ≤ 46) (hlast : last.toList.length ≤ 11) :
    endsWith (journal ++ sep ++ ("admin-" ++ journalHex operation ++ last)) last = true ∧
      (utf8 (journal ++ sep ++ ("admin-" ++ journalHex operation ++ last))).length ≤ 512 := by
  constructor
  · rw [← String.append_assoc]
    exact endsWith_append _ _
  · refine (length_utf8_le _).trans ?_
    have hname : "admin-".toList.length = 6 := by decide
    simp only [String.toList_append, List.length_append, journalHex, toList_hex, length_hexChars,
      length_sha256] at *
    omega

/-- The equations of one stream of a receipt. -/
theorem Exact.stream {c : CapturedStream} {stream spool : Bytes} (h : Exact stream c spool)
    (publish : Bool) :
    let preview := if publish then c.preview else []
    preview.length ≤ previewLimit ∧ c.captureBytes.toNat = min c.totalBytes.toNat captureLimit ∧
      (publish = true ∨ preview.length = 0) ∧ preview.length ≤ c.totalBytes.toNat ∧
      (publish = false ∨ preview.length = min c.totalBytes.toNat previewLimit) := by
  have hpreview : c.preview.length = min previewLimit stream.length := by
    rw [h.kept.preview, List.length_take]
  have hsaved := h.kept.saved
  have htotal := h.total
  have hcapture : c.captureBytes.toNat = min c.totalBytes.toNat captureLimit := by omega
  cases publish with
  | false => exact ⟨Nat.zero_le _, hcapture, .inr rfl, Nat.zero_le _, .inl rfl⟩
  | true =>
    simp only [if_true]
    exact ⟨by omega, hcapture, .inl trivial, by omega, .inr (by omega)⟩

/-- **The receipt of two captures is consistent**, for either owner: where the streams are recorded exactly
    and no more input was written than there is. -/
theorem previewValid_of_exact (hout : Exact outStream out outSpool)
    (herr : Exact errStream err errSpool) {raw : Bytes} {observedAt : UInt64}
    (hwritten : outcome.stdinBytesWritten.toNat ≤ request.stdinBytes.length) {outPath errPath : String}
    (hr : r = { receiptOf request raw auth observedAt journal outcome out err with
      stdoutCapturePath := outPath, stderrCapturePath := errPath })
    (houtPath : endsWith outPath ".stdout.bin" = true ∧ (utf8 outPath).length ≤ 512)
    (herrPath : endsWith errPath ".stderr.bin" = true ∧ (utf8 errPath).length ≤ 512) :
    previewValid request r = true := by
  obtain ⟨ho₁, ho₂, ho₃, ho₄, ho₅⟩ := hout.stream request.publishOutput
  obtain ⟨he₁, he₂, he₃, he₄, he₅⟩ := herr.stream request.publishOutput
  have hfields : r.rejectedBeforeBegin = false ∧ r.rejectionCode = "" ∧ r.stdoutCapturePath = outPath ∧
      r.stderrCapturePath = errPath ∧ r.stdinBytesWritten = outcome.stdinBytesWritten ∧
      r.stdinInputComplete = decide (outcome.stdinBytesWritten.toNat = request.stdinBytes.length) := by
    subst hr
    exact ⟨rfl, rfl, rfl, rfl, rfl, rfl⟩
  have hstreams : r.stdoutPreview = (if request.publishOutput then out.preview else []) ∧
      r.stderrPreview = (if request.publishOutput then err.preview else []) ∧
      r.stdoutTotalBytes = out.totalBytes ∧ r.stderrTotalBytes = err.totalBytes ∧
      r.stdoutCaptureBytes = out.captureBytes ∧ r.stderrCaptureBytes = err.captureBytes := by
    subst hr
    exact ⟨rfl, rfl, rfl, rfl, rfl, rfl⟩
  have hflags : r.stdoutTruncated = decide (out.totalBytes.toNat > previewLimit) ∧
      r.stderrTruncated = decide (err.totalBytes.toNat > previewLimit) ∧
      r.stdoutCaptureComplete = decide (out.captureBytes = out.totalBytes) ∧
      r.stderrCaptureComplete = decide (err.captureBytes = err.totalBytes) := by
    subst hr
    exact ⟨rfl, rfl, rfl, rfl⟩
  simp only [previewValid, hfields, hstreams, hflags, houtPath, herrPath, ho₁, ho₂, ho₄, he₁, he₂,
    he₄, hwritten, Bool.false_eq_true, if_false, ne_eq, not_true_eq_false, Bool.and_eq_true, Bool.or_eq_true,
    decide_eq_true_eq, Bool.not_eq_true', decide_true, and_true, true_and]
  exact ⟨or_and_left.mpr ⟨ho₃, he₃⟩, or_and_left.mpr ⟨ho₅, he₅⟩⟩

theorem signReceipt_of_valid {D : Deps} {key signature : Bytes} (hschema : r.schemaVersion = 1)
    (hmachine : r.machineId = request.machineId) (hoperation : r.operationId = operationId request)
    (hrequest : r.requestSha256 = sha256 request.encodeToVec) (hout : r.stdoutSha256.length = 32)
    (herr : r.stderrSha256.length = 32) (hvalid : previewValid request r = true)
    (hsign : D.ed25519Sign key (receiptPayload request r) = some signature) :
    signReceipt D request r key = .ok { r with rootSignature := signature } := by
  unfold signReceipt
  rw [rejectIf, if_neg (by simp [hschema, hmachine, hoperation, hrequest, hout, herr, hvalid]), hsign]
  rfl

/-- A receipt the owner can sign with every key that signs. -/
def Signable (D : Deps) (request : FleetNativeAdminRequest) (r : FleetNativeAdminResult) : Prop :=
  previewValid request r = true ∧ ∀ key signature,
    D.ed25519Sign key (receiptPayload request r) = some signature →
    signReceipt D request r key = .ok { r with rootSignature := signature }

theorem signable_of_exact (D : Deps) (hout : Exact outStream out outSpool)
    (herr : Exact errStream err errSpool) {observedAt : UInt64}
    (hwritten : outcome.stdinBytesWritten.toNat ≤ request.stdinBytes.length) (sep : String)
    (hjournal : (journal ++ sep).toList.length ≤ 46)
    (hr : r = { receiptOf request request.encodeToVec auth observedAt journal outcome out err with
      stdoutCapturePath := journal ++ sep ++ stdoutName (operationId request)
      stderrCapturePath := journal ++ sep ++ stderrName (operationId request) }) : Signable D request r := by
  have hvalid : previewValid request r = true :=
    previewValid_of_exact hout herr hwritten hr (capturePath_valid hjournal (by decide))
      (capturePath_valid hjournal (by decide))
  refine ⟨hvalid, fun key signature hsign => ?_⟩
  have hdigest : out.sha256.length = 32 ∧ err.sha256.length = 32 := by
    rw [hout.digest, herr.digest]
    exact ⟨length_sha256 _, length_sha256 _⟩
  subst hr
  exact signReceipt_of_valid rfl rfl rfl rfl hdigest.1 hdigest.2 hvalid hsign

end Receipts

theorem journalSem_total (op : (fsSig Unit ownerSig).Op) (w : JournalWorld) :
    ∃ a w', journalSem op w a w' := by
  refine fsSem_total (fun op w => ?_) op w
  have hanswer : Nonempty op.Ans := by
    cases op <;> first | exact ⟨.error ""⟩ | exact ⟨(0 : UInt64)⟩
  exact ⟨hanswer.some, _, rfl⟩

/-- **Output capture is exact** for a stream whose length a `u64` holds, however the pipe splits it, and the
    receipt of two exact captures is never refused by the signer. -/
theorem captures_exact :
    (∀ reads : List Bytes, reads.flatten.length < 2 ^ 64 →
      (∀ (w : JournalWorld) (name : String) (synced : Bool), (dirOf w).get name = some ⟨[], synced⟩ →
        (∃ r w', (captureStreamWithFile name reads).Done journalSem w r w') ∧
        ∀ r w', (captureStreamWithFile name reads).Done journalSem w r w' →
          ∃ c f, r = .ok c ∧ (dirOf w').get name = some f ∧ f.synced = true ∧ Exact reads.flatten c f.data) ∧
      ∀ eof, Exact reads.flatten (drain reads eof).1.captured (drain reads eof).2) ∧
    ∀ (D : Deps) (request : FleetNativeAdminRequest) (auth : FleetNativeAdminAuthorization)
      (observedAt : UInt64) (outStream errStream outSpool errSpool : Bytes),
      (∀ (out err : CapturedStream) (outcome : AdminChildOutcome), Exact outStream out outSpool →
        Exact errStream err errSpool → outcome.stdinBytesWritten.toNat ≤ request.stdinBytes.length →
        Signable D request
        (receiptOf request request.encodeToVec auth observedAt journalPath outcome out err)) ∧
      ∀ (out err : Stream) (timeout : Bool) (exit : Int32) (written : UInt64),
        Exact outStream out.captured outSpool → Exact errStream err.captured errSpool →
        written.toNat ≤ request.stdinBytes.length → Signable D request
          (windowsReceiptOf request request.encodeToVec auth observedAt timeout exit written out err) := by
  refine ⟨fun reads hlen => ⟨fun w name synced hfile => ?_, fun eof => ?_⟩,
    fun D request auth observedAt outStream errStream outSpool errSpool => ⟨?_, ?_⟩⟩
  · have hreads : ∀ buffer ∈ reads, buffer.length < 2 ^ 64 := fun buffer hb =>
      (List.sublist_flatten_of_mem hb).length_le.trans_lt hlen
    have hsafe := captureStreamWithFile_records hreads hfile
    refine ⟨Proc.exists_done journalSem_total _ _, fun r w' hdone => ?_⟩
    obtain ⟨c, f, hr, hf, hsynced, hdigest, hkept, htotal⟩ := hsafe.done hdone
    exact ⟨c, f, hr, hf, hsynced, ⟨by omega, hdigest, hkept⟩⟩
  · obtain ⟨hkept, htotal⟩ := drain_kept reads eof
    exact ⟨htotal.trans (Nat.mod_eq_of_lt hlen), rfl, hkept⟩
  · intro out err outcome hout herr hwritten
    exact signable_of_exact D hout herr hwritten "/" (by decide) rfl
  · intro out err timeout exit written hout herr hwritten
    exact signable_of_exact D hout herr hwritten "\\" (by decide) rfl

/-- Two reads into a fresh spool. -/
theorem two_reads_captured :
    (∃ w : JournalWorld, (dirOf w).get "out" = some ⟨[], false⟩ ∧
      ∃ r w', (captureStreamWithFile "out" [[1, 2], [3]]).Done journalSem w r w') ∧
    Exact [1, 2, 3] (drain [[1, 2], [3]] true).1.captured (drain [[1, 2], [3]] true).2 := by
  obtain ⟨hvm, hwindows⟩ := captures_exact.1 [[1, 2], [3]] (by decide)
  have hfile : (Dir.empty.create "out").get "out" = some ⟨[], false⟩ := Dir.get_create ..
  exact ⟨⟨⟨fun _ => Dir.empty.create "out", []⟩, hfile, (hvm _ _ _ hfile).1⟩, hwindows true⟩

/-- 16 KiB buffers, enough of them: the VM count saturates and the Windows count wraps. -/
theorem long_stream_miscounted :
    ∃ reads : List Bytes, (∀ buffer ∈ reads, 0 < buffer.length ∧ buffer.length ≤ 16384) ∧
      (∀ (w : JournalWorld) (name : String), (dirOf w).get name = some ⟨[], true⟩ →
        ∀ c w', (captureStreamWithFile name reads).Done journalSem w (.ok c) w' →
          c.totalBytes.toNat ≠ reads.flatten.length) ∧
      (drain reads true).1.total.toNat ≠ reads.flatten.length := by
  obtain ⟨n, hn⟩ : ∃ n, n = 2 ^ 50 := ⟨_, rfl⟩
  obtain ⟨buffer, hbuffer⟩ : ∃ buffer : Bytes, buffer.length = 16384 :=
    ⟨.replicate 16384 0, List.length_replicate⟩
  have hmem : ∀ b ∈ List.replicate n buffer, b.length = 16384 :=
    fun b hb => by rw [List.eq_of_mem_replicate hb, hbuffer]
  have hlen : (List.replicate n buffer).flatten.length = 2 ^ 64 := by
    rw [List.length_flatten, List.map_replicate, List.sum_replicate_nat, hbuffer, hn]
    rfl
  refine ⟨.replicate n buffer, fun b hb => ?_, fun w name hfile c w' hdone => ?_, ?_⟩
  · have hb := hmem b hb
    omega
  · have hreads : ∀ b ∈ List.replicate n buffer, b.length < 2 ^ 64 := fun b hb => by
      have hb := hmem b hb
      omega
    obtain ⟨c', f, hc, -, -, -, -, htotal⟩ := (captureStreamWithFile_records hreads hfile).done hdone
    cases hc
    omega
  · rw [(drain_kept _ true).2, hlen]
    decide

end EdgePlatform.Host.HostAdmin
