import EdgePlatform.Foundation.Assoc
import EdgePlatform.Foundation.Entries

/-!
# `EdgePlatform.Agent.RuntimeEnvironment` — the environment file of the VM runtime

The agent writes the runtime environment from the policy of the bundle and the secrets of the VM credential
(`write_vm_runtime_environment`) and reads it back before it uses it (`read_typed_runtime_environment`). The
policy is validated line by line after trimming, but written as it is; the reader does not trim. What is
written is read back exactly if trimming changes no line of the policy.

Maps are lists of entries in the order of insertion, each key once.
-/

namespace EdgePlatform.Agent

open Foundation

/-! ## The policy -/

def line2Keys : List String := ["PROXY_USERNAME", "PROXY_CERT_CN"]

def line1Keys : List String := ["REALITY_SERVER_NAME", "TUNNEL_DOMAIN", "ACME_EMAIL", "ACME_PROVIDER"]

/-- `b'.' | b'_' | b':' | b'@' | b'%' | b'+' | b'/' | b'-'`. -/
def isPolicyByte (b : UInt8) : Bool := isAsciiAlphanumeric b || [46, 95, 58, 64, 37, 43, 47, 45].contains b

def policyGrammar : EntryGrammar where
  clean := trim
  syntaxError line := s!"runtime policy line {line} must use KEY=VALUE syntax"
  check _ key value := do
    rejectIf (key ∉ line1Keys ++ line2Keys) s!"unsupported runtime policy key: {key}"
    rejectIf (value = "" ∨ (utf8 value).length > 253 ∨ ¬ (utf8 value).all isPolicyByte)
      s!"runtime policy {key} must be a non-empty shell-safe policy value"
  duplicateError key := s!"runtime policy key is duplicated: {key}"

/-- The same keys, in whatever order. -/
def sameKeys (a b : List String) : Prop := a ⊆ b ∧ b ⊆ a

instance (a b : List String) : Decidable (sameKeys a b) := inferInstanceAs (Decidable (_ ∧ _))

/-- The keys of one of three policies. -/
def validateRuntimePolicyEnv (raw : String) : Except String Unit := do
  let observed ← readEntries policyGrammar 1 [] (lines raw)
  let keys := observed.map Prod.fst
  rejectIf (¬ sameKeys keys line2Keys ∧ ¬ sameKeys keys line1Keys ∧ ¬ sameKeys keys (line1Keys ++ line2Keys))
    "runtime policy key set must exactly match base, tunnel, or full application policy"

/-! ## The secrets -/

/-- The secrets of the VM. -/
structure ApplicationRuntimeSecrets where
  proxyPassword : String
  vlessUuid : String
  hy2Password : String
  realityPrivateKey : String
  realityPublicKey : String
  realityShortId : String
  vlessWarpUuid : String
  hy2WarpPassword : String
  realityWarpPrivateKey : String
  realityWarpPublicKey : String
  realityWarpShortId : String
deriving DecidableEq

def applicationRuntimeSecretKeys : List String :=
  ["PROXY_PASSWORD", "VLESS_UUID", "HY2_PASSWORD", "REALITY_PRIVATE_KEY", "REALITY_PUBLIC_KEY",
    "REALITY_SHORT_ID", "VLESS_WARP_UUID", "HY2_WARP_PASSWORD", "REALITY_WARP_PRIVATE_KEY",
    "REALITY_WARP_PUBLIC_KEY", "REALITY_WARP_SHORT_ID"]

/-- `ch.is_ascii_hexdigit() && !ch.is_ascii_uppercase()`. -/
def isLowerHexChar (c : Char) : Bool := c.isDigit || (97 ≤ c.toNat && c.toNat ≤ 102)

/-- Lower-case hexadecimal. -/
def validateHex (label value : String) (expectedLen : Nat) : Except String Unit :=
  rejectIf ((utf8 value).length ≠ expectedLen ∨ ¬ value.toList.all isLowerHexChar)
    s!"{label} must be exactly {expectedLen} lowercase hexadecimal characters"

/-- An image of the repository, by its digest. -/
def validateExactImageRef (label value repository : String) : Except String Unit := do
  let digest ← okOr (stripPrefix value (repository ++ "@sha256:"))
    s!"{label} must reference exact repository {repository} by digest"
  validateHex label digest 64

def uuidChar (index : Nat) (c : Char) : Bool :=
  if index ∈ [8, 13, 18, 23] then c == '-' else isLowerHexChar c

/-- A UUID in lower case. -/
def validateUuid (label value : String) : Except String Unit :=
  rejectIf ((utf8 value).length ≠ 36 ∨ ¬ value.toList.zipIdx.all fun c => uuidChar c.2 c.1)
    s!"{label} must be a lowercase UUID"

/-- A character of unpadded base64url. -/
def isKeyByte (b : UInt8) : Bool := isAsciiAlphanumeric b || b == 95 || b == 45

/-- An X25519 key in unpadded base64url. -/
def validateKey (label value : String) : Except String Unit :=
  rejectIf ((utf8 value).length ≠ 43 ∨ ¬ (utf8 value).all isKeyByte)
    s!"{label} must be a 43-character unpadded base64url X25519 key"

namespace ApplicationRuntimeSecrets

/-- The secrets under the keys of the environment. -/
def entries (s : ApplicationRuntimeSecrets) : List (String × String) :=
  [("PROXY_PASSWORD", s.proxyPassword), ("VLESS_UUID", s.vlessUuid), ("HY2_PASSWORD", s.hy2Password),
    ("REALITY_PRIVATE_KEY", s.realityPrivateKey), ("REALITY_PUBLIC_KEY", s.realityPublicKey),
    ("REALITY_SHORT_ID", s.realityShortId), ("VLESS_WARP_UUID", s.vlessWarpUuid),
    ("HY2_WARP_PASSWORD", s.hy2WarpPassword), ("REALITY_WARP_PRIVATE_KEY", s.realityWarpPrivateKey),
    ("REALITY_WARP_PUBLIC_KEY", s.realityWarpPublicKey), ("REALITY_WARP_SHORT_ID", s.realityWarpShortId)]

/-- Every secret has its form. -/
def validate (s : ApplicationRuntimeSecrets) : Except String Unit := do
  validateHex "PROXY_PASSWORD" s.proxyPassword 64
  validateUuid "VLESS_UUID" s.vlessUuid
  validateHex "HY2_PASSWORD" s.hy2Password 64
  validateKey "REALITY_PRIVATE_KEY" s.realityPrivateKey
  validateKey "REALITY_PUBLIC_KEY" s.realityPublicKey
  validateHex "REALITY_SHORT_ID" s.realityShortId 16
  validateUuid "VLESS_WARP_UUID" s.vlessWarpUuid
  validateHex "HY2_WARP_PASSWORD" s.hy2WarpPassword 64
  validateKey "REALITY_WARP_PRIVATE_KEY" s.realityWarpPrivateKey
  validateKey "REALITY_WARP_PUBLIC_KEY" s.realityWarpPublicKey
  validateHex "REALITY_WARP_SHORT_ID" s.realityWarpShortId 16

end ApplicationRuntimeSecrets

/-- `KEY=VALUE`. -/
def entryLine (entry : String × String) : String := entry.1 ++ "=" ++ entry.2

/-- A line for each secret. -/
def ApplicationRuntimeSecrets.renderEnv (s : ApplicationRuntimeSecrets) : String :=
  unlines (s.entries.map entryLine)

def secretGrammar : EntryGrammar where
  clean := trim
  syntaxError line := s!"secret line {line} must use KEY=VALUE syntax"
  check _ key value := do
    rejectIf (key ∉ applicationRuntimeSecretKeys) s!"unexpected secret key: {key}"
    rejectIf (value = "") s!"secret {key} must be non-empty"
  duplicateError key := s!"secret key is duplicated: {key}"

/-- The keys in the order of a set. -/
def ordered (keys : List String) : List String := keys.mergeSort fun a b => decide (a ≤ b)

/-- Exactly the keys of the secrets. -/
def parseClosedEnv (raw : String) : Except String (List (String × String)) := do
  let values ← readEntries secretGrammar 1 [] (lines raw)
  let missing := (ordered applicationRuntimeSecretKeys).filter fun key => key ∉ values.map Prod.fst
  rejectIf (¬ sameKeys (values.map Prod.fst) applicationRuntimeSecretKeys)
    ("secret store is missing keys: " ++ ",".intercalate missing)
  pure values

/-- The value of a key. -/
def required (values : List (String × String)) (key : String) : Except String String :=
  okOr (values.lookup key) s!"secret store is missing {key}"

/-- The secrets, if each has its form. -/
def ApplicationRuntimeSecrets.parseEnv (raw : String) : Except String ApplicationRuntimeSecrets := do
  let values ← parseClosedEnv raw
  let proxyPassword ← required values "PROXY_PASSWORD"
  let vlessUuid ← required values "VLESS_UUID"
  let hy2Password ← required values "HY2_PASSWORD"
  let realityPrivateKey ← required values "REALITY_PRIVATE_KEY"
  let realityPublicKey ← required values "REALITY_PUBLIC_KEY"
  let realityShortId ← required values "REALITY_SHORT_ID"
  let vlessWarpUuid ← required values "VLESS_WARP_UUID"
  let hy2WarpPassword ← required values "HY2_WARP_PASSWORD"
  let realityWarpPrivateKey ← required values "REALITY_WARP_PRIVATE_KEY"
  let realityWarpPublicKey ← required values "REALITY_WARP_PUBLIC_KEY"
  let realityWarpShortId ← required values "REALITY_WARP_SHORT_ID"
  let result : ApplicationRuntimeSecrets :=
    { proxyPassword, vlessUuid, hy2Password, realityPrivateKey, realityPublicKey, realityShortId,
      vlessWarpUuid, hy2WarpPassword, realityWarpPrivateKey, realityWarpPublicKey, realityWarpShortId }
  result.validate
  pure result

/-! ## Writing and reading the environment -/

/-- A valid policy followed by valid secrets. -/
def vmRuntimeEnvironment (policy : String) (secrets : ApplicationRuntimeSecrets) : Except String String := do
  validateRuntimePolicyEnv policy
  secrets.validate
  pure (terminated policy ++ secrets.renderEnv)

def strictGrammar (path : String) : EntryGrammar where
  clean line := line
  syntaxError line := s!"environment {path} line {line} must use KEY=VALUE syntax"
  check line key value :=
    rejectIf (key = "" ∨ trim key ≠ key ∨ value = "")
      s!"environment {path} line {line} contains an invalid key or empty value"
  duplicateError key := s!"environment {path} contains duplicate key: {key}"

/-- Entries without repetition. -/
def readStrictEnvFile (path raw : String) : Except String (List (String × String)) :=
  readEntries (strictGrammar path) 1 [] (lines raw)

/-- How many of the keys are there. -/
def present (values : List (String × String)) (keys : List String) : Nat :=
  (keys.filter fun key => key ∈ values.map Prod.fst).length

/-- The entries of a policy and all secrets, and no others. -/
def readTypedRuntimeEnvironment (path raw : String) : Except String (List (String × String)) := do
  let values ← readStrictEnvFile path raw
  let unsupported := (values.map Prod.fst).filter
    (· ∉ line2Keys ++ line1Keys ++ applicationRuntimeSecretKeys)
  rejectIf (unsupported ≠ [])
      ("runtime environment contains unsupported key: " ++ (ordered unsupported).headD "")
  let secretLines ← applicationRuntimeSecretKeys.mapM fun key => do
    let value ← okOr (values.lookup key) s!"runtime environment is missing VM-owned credential: {key}"
    pure (entryLine (key, value))
  let _ ← (ApplicationRuntimeSecrets.parseEnv (unlines secretLines)).mapError fun err =>
    s!"VM-owned runtime credentials are invalid: {err}"
  let line2Count := present values ["PROXY_USERNAME", "PROXY_CERT_CN"]
  rejectIf (line2Count ≠ 0 ∧ line2Count ≠ 2) "runtime environment contains incomplete Line 2 policy"
  let line1Count := present values ["REALITY_SERVER_NAME", "TUNNEL_DOMAIN", "ACME_EMAIL"]
  rejectIf (line1Count ≠ 0 ∧ line1Count ≠ 3) "runtime environment contains incomplete Line 1 policy"
  rejectIf (line1Count = 0 ∧ line2Count = 0) "runtime environment contains no enabled application capability"
  pure values

/-! ## Texts of plain characters -/

/-- Printable ASCII without the blank. -/
def Graphic (s : String) : Prop := ∀ c ∈ s.toList, 33 ≤ c.toNat ∧ c.toNat ≤ 126

instance (s : String) : Decidable (Graphic s) := List.decidableBAll _ s.toList

section Graphic

variable {s : String}

theorem Graphic.visible (h : Graphic s) : Visible s := by
  intro c hc
  have hrange := h c hc
  simp only [isWhitespace, Bool.or_eq_false_iff, Bool.and_eq_false_iff, decide_eq_false_iff_not,
    beq_eq_false_iff_ne]
  omega

theorem Graphic.oneLine (h : Graphic s) : OneLine s :=
  ⟨fun hc => absurd (h _ hc) (by decide), fun hc => absurd (h _ hc) (by decide)⟩

theorem Graphic.append {t : String} (hs : Graphic s) (ht : Graphic t) : Graphic (s ++ t) := by
  intro c hc
  rw [String.toList_append, List.mem_append] at hc
  exact hc.elim (hs c) (ht c)

/-- A character beyond ASCII ends with a byte that is none of ASCII; the others are their own byte. -/
theorem utf8EncodeChar_cases (c : Char) :
    String.utf8EncodeChar c = [UInt8.ofNat c.toNat] ∧ c.toNat < 128 ∨
      ∃ b ∈ String.utf8EncodeChar c, 128 ≤ b.toNat := by
  have hlast : 128 ≤ (UInt8.ofNat (c.val.toNat % 64 + 128)).toNat := by
    rw [UInt8.toNat_ofNat']
    omega
  unfold String.utf8EncodeChar
  dsimp only
  split_ifs with h₁ h₂ h₃
  · exact .inl ⟨rfl, Nat.lt_succ_of_le h₁⟩
  · exact .inr ⟨_, by simp, hlast⟩
  · exact .inr ⟨_, by simp, hlast⟩
  · exact .inr ⟨_, by simp, hlast⟩

/-- Bytes of a class of printable ASCII make a text of printable ASCII. -/
theorem graphic_of_bytes {p : UInt8 → Bool} (hp : ∀ b, p b = true → 33 ≤ b.toNat ∧ b.toNat ≤ 126)
    (h : (utf8 s).all p = true) : Graphic s := by
  intro c hc
  have hbytes : ∀ b ∈ String.utf8EncodeChar c, p b = true :=
    fun b hb => List.all_eq_true.mp h b (mem_utf8 hc hb)
  rcases utf8EncodeChar_cases c with ⟨hsingle, hascii⟩ | ⟨b, hb, hhigh⟩
  · rw [hsingle] at hbytes
    have hrange := hp _ (hbytes _ (.head _))
    rw [UInt8.toNat_ofNat', Nat.mod_eq_of_lt (by omega)] at hrange
    exact hrange
  · have hrange := hp b (hbytes b hb)
    omega

theorem range_of_isAsciiAlphanumeric {b : UInt8} (h : isAsciiAlphanumeric b = true) :
    33 ≤ b.toNat ∧ b.toNat ≤ 126 := by
  simp only [isAsciiAlphanumeric, isAsciiDigit, isAsciiUppercase, isAsciiLowercase, Bool.or_eq_true,
    Bool.and_eq_true, decide_eq_true_eq, UInt8.le_iff_toNat_le] at h
  have hconst : (48 : UInt8).toNat = 48 ∧ (57 : UInt8).toNat = 57 ∧ (65 : UInt8).toNat = 65 ∧
      (90 : UInt8).toNat = 90 ∧ (97 : UInt8).toNat = 97 ∧ (122 : UInt8).toNat = 122 := by decide
  omega

theorem graphic_of_isLowerHexChar {c : Char} (h : isLowerHexChar c = true) :
    33 ≤ c.toNat ∧ c.toNat ≤ 126 := by
  simp only [isLowerHexChar, Char.isDigit, Bool.or_eq_true, Bool.and_eq_true, decide_eq_true_eq,
    UInt32.le_iff_toNat_le] at h
  have hval : c.toNat = c.val.toNat := rfl
  have hconst : '0'.val.toNat = 48 ∧ '9'.val.toNat = 57 := by decide
  omega

end Graphic

/-! ## The secrets are read back -/

/-- What the validators leave of a value. -/
def Plain (value : String) : Prop := value ≠ "" ∧ Graphic value

theorem ne_empty_of_length {value : String} {n : Nat} (h : (utf8 value).length = n)
    (hn : n ≠ 0) : value ≠ "" := by
  rintro rfl
  exact hn h.symm

theorem plain_of_validateHex {label value : String} {n : Nat} {u : Unit}
    (h : validateHex label value n = .ok u) (hn : n ≠ 0) : Plain value := by
  simp only [validateHex, rejectIf_eq_ok, not_or, not_not] at h
  exact ⟨ne_empty_of_length h.1 hn, fun c hc => graphic_of_isLowerHexChar (List.all_eq_true.mp h.2 c hc)⟩

theorem plain_of_validateUuid {label value : String} {u : Unit} (h : validateUuid label value = .ok u) :
    Plain value := by
  simp only [validateUuid, rejectIf_eq_ok, not_or, not_not] at h
  refine ⟨ne_empty_of_length h.1 (by decide), fun c hc => ?_⟩
  obtain ⟨i, hi⟩ := List.mem_iff_getElem?.mp hc
  have hchar := List.all_eq_true.mp h.2 (c, i) (List.mem_zipIdx_iff_getElem?.mpr hi)
  unfold uuidChar at hchar
  split_ifs at hchar
  · obtain rfl : c = '-' := beq_iff_eq.mp hchar
    decide
  · exact graphic_of_isLowerHexChar hchar

theorem plain_of_validateKey {label value : String} {u : Unit}
    (h : validateKey label value = .ok u) : Plain value := by
  simp only [validateKey, rejectIf_eq_ok, not_or, not_not] at h
  refine ⟨ne_empty_of_length h.1 (by decide), graphic_of_bytes (fun b hb => ?_) h.2⟩
  simp only [isKeyByte, Bool.or_eq_true, beq_iff_eq] at hb
  rcases hb with (hb | rfl) | rfl
  · exact range_of_isAsciiAlphanumeric hb
  · decide
  · decide

section Secrets

variable {secrets : ApplicationRuntimeSecrets} {u : Unit}

theorem ApplicationRuntimeSecrets.plain_entries (h : secrets.validate = .ok u) :
    ∀ entry ∈ secrets.entries, Plain entry.2 := by
  simp only [validate, ok_iff] at h
  obtain ⟨h₁, h₂, h₃, h₄, h₅, h₆, h₇, h₈, h₉, h₁₀, h₁₁⟩ := h
  simp only [entries, List.forall_mem_cons]
  exact ⟨plain_of_validateHex h₁ (by decide), plain_of_validateUuid h₂, plain_of_validateHex h₃ (by decide),
    plain_of_validateKey h₄, plain_of_validateKey h₅, plain_of_validateHex h₆ (by decide),
    plain_of_validateUuid h₇, plain_of_validateHex h₈ (by decide), plain_of_validateKey h₉,
    plain_of_validateKey h₁₀, plain_of_validateHex h₁₁ (by decide), by simp⟩

theorem ApplicationRuntimeSecrets.keys_entries (s : ApplicationRuntimeSecrets) :
    s.entries.map Prod.fst = applicationRuntimeSecretKeys := rfl

/-- The keys that occur are plain names. -/
theorem graphic_key : ∀ key ∈ line2Keys ++ line1Keys ++ applicationRuntimeSecretKeys,
    Graphic key ∧ '=' ∉ key.toList ∧ key ≠ "" ∧ trim key = key := by
  decide

theorem splitOnce_entryLine {entry : String × String} (h : '=' ∉ entry.1.toList) :
    splitOnce (entryLine entry) '=' = some entry :=
  splitOnce_eq_some.mpr ⟨by simp [entryLine], h⟩

theorem ApplicationRuntimeSecrets.key_mem {entry : String × String} (h : entry ∈ secrets.entries) :
    entry.1 ∈ line2Keys ++ line1Keys ++ applicationRuntimeSecretKeys :=
  List.mem_append_right _ (secrets.keys_entries ▸ List.mem_map_of_mem h)

theorem graphic_entryLine {entry : String × String} (hkey : Graphic entry.1) (hvalue : Graphic entry.2) :
    Graphic (entryLine entry) := by
  have hmark : Graphic "=" := by
    intro c hc
    obtain rfl : c = '=' := by simpa using hc
    decide
  exact (hkey.append hmark).append hvalue

theorem ApplicationRuntimeSecrets.graphic_lines (h : secrets.validate = .ok u) :
    ∀ line ∈ secrets.entries.map entryLine, Graphic line := by
  intro line hline
  obtain ⟨entry, hentry, rfl⟩ := List.mem_map.mp hline
  exact graphic_entryLine (graphic_key _ (key_mem hentry)).1 (plain_entries h entry hentry).2

theorem ApplicationRuntimeSecrets.lines_renderEnv (h : secrets.validate = .ok u) :
    lines secrets.renderEnv = secrets.entries.map entryLine :=
  lines_unlines fun line hline => (graphic_lines h line hline).oneLine

/-- A reader sees every line of the secrets, trimming or not. -/
theorem ApplicationRuntimeSecrets.cleaned_lines (h : secrets.validate = .ok u) {clean : String → String}
    (hclean : ∀ line, Graphic line → clean line = line) :
    cleaned clean (secrets.entries.map entryLine) = secrets.entries.map entryLine := by
  have hmap : (secrets.entries.map entryLine).map clean = secrets.entries.map entryLine := by
    conv_rhs => rw [← List.map_id (secrets.entries.map entryLine)]
    exact List.map_congr_left fun line hline => hclean line (graphic_lines h line hline)
  rw [cleaned, hmap, List.filter_eq_self]
  intro line hline
  obtain ⟨entry, hentry, rfl⟩ := List.mem_map.mp hline
  simp only [decide_eq_true_eq]
  intro hempty
  have hmem : '=' ∈ (entryLine entry).toList := by simp [entryLine]
  rw [hempty] at hmem
  cases hmem

theorem filterMap_entryLine {entries : List (String × String)}
    (h : ∀ entry ∈ entries, '=' ∉ entry.1.toList) :
    (entries.map entryLine).filterMap (fun line => splitOnce line '=') = entries := by
  induction entries with
  | nil => rfl
  | cons entry entries ih =>
    rw [List.map_cons, List.filterMap_cons, splitOnce_entryLine (h entry (.head _)),
      ih fun e he => h e (.tail _ he)]

theorem ApplicationRuntimeSecrets.entriesOf_lines (h : secrets.validate = .ok u) {clean : String → String}
    (hclean : ∀ line, Graphic line → clean line = line) :
    entriesOf clean (secrets.entries.map entryLine) = secrets.entries := by
  rw [entriesOf, cleaned_lines h hclean]
  exact filterMap_entryLine fun entry hentry => (graphic_key _ (key_mem hentry)).2.1

theorem trim_of_graphic (line : String) (h : Graphic line) : trim line = line := trim_of_visible h.visible

theorem secretKeys_nodup : applicationRuntimeSecretKeys.Nodup := by decide

theorem ApplicationRuntimeSecrets.parseClosedEnv_renderEnv (h : secrets.validate = .ok u) :
    parseClosedEnv secrets.renderEnv = .ok secrets.entries := by
  have hcheck : ∀ n k v, secretGrammar.check n k v = .ok () ↔ k ∈ applicationRuntimeSecretKeys ∧ v ≠ "" := by
    intro n k v
    simp [secretGrammar, ok_iff]
  have hread : readEntries secretGrammar 1 [] (lines secrets.renderEnv) = .ok secrets.entries := by
    rw [lines_renderEnv h, readEntries_nil_eq_ok hcheck]
    have hentries : entriesOf secretGrammar.clean (secrets.entries.map entryLine) = secrets.entries :=
      entriesOf_lines h trim_of_graphic
    refine ⟨?_, ?_, ?_⟩
    · intro line hline
      rw [show secretGrammar.clean = trim from rfl, cleaned_lines h trim_of_graphic] at hline
      obtain ⟨entry, hentry, rfl⟩ := List.mem_map.mp hline
      refine ⟨entry.1, entry.2, splitOnce_entryLine (graphic_key _ (key_mem hentry)).2.1, ?_,
        (plain_entries h entry hentry).1⟩
      exact secrets.keys_entries ▸ List.mem_map_of_mem hentry
    · rw [hentries, keys_entries]
      exact secretKeys_nodup
    · rw [hentries]
  simp only [parseClosedEnv, hread, ok_iff, Except.ok.injEq, exists_eq_left', keys_entries]
  exact ⟨not_not.mpr ⟨fun _ hk => hk, fun _ hk => hk⟩, rfl⟩

theorem ApplicationRuntimeSecrets.parseEnv_renderEnv (h : secrets.validate = .ok ()) :
    parseEnv secrets.renderEnv = .ok secrets := by
  rw [parseEnv, parseClosedEnv_renderEnv h]
  show (do secrets.validate; pure secrets : Except String ApplicationRuntimeSecrets) = .ok secrets
  rw [h]
  rfl

end Secrets

/-! ## The environment is read back -/

/-- The values of a policy, as its validator reads them. -/
def policyEntries (policy : String) : List (String × String) := entriesOf trim (lines policy)

/-- What is written: the values of the policy and the secrets. -/
def writtenEntries (policy : String) (secrets : ApplicationRuntimeSecrets) : List (String × String) :=
  policyEntries policy ++ secrets.entries

section Environment

variable {policy path : String} {secrets : ApplicationRuntimeSecrets}
    {values : List (String × String)} {u : Unit}

/-- What an accepted policy is. -/
structure AcceptedPolicy (policy : String) : Prop where
  lines : ∀ line ∈ cleaned trim (lines policy), ∃ k v, splitOnce line '=' = some (k, v) ∧
    k ∈ line1Keys ++ line2Keys ∧ v ≠ ""
  nodup : ((policyEntries policy).map Prod.fst).Nodup
  keys : sameKeys ((policyEntries policy).map Prod.fst) line2Keys ∨
    sameKeys ((policyEntries policy).map Prod.fst) line1Keys ∨
    sameKeys ((policyEntries policy).map Prod.fst) (line1Keys ++ line2Keys)

theorem accepted_of_validate (h : validateRuntimePolicyEnv policy = .ok u) : AcceptedPolicy policy := by
  simp only [validateRuntimePolicyEnv, ok_iff] at h
  obtain ⟨observed, hread, hkeys⟩ := h
  have hcheck : ∀ n k v, policyGrammar.check n k v = .ok () ↔ k ∈ line1Keys ++ line2Keys ∧
      ¬ (v = "" ∨ (utf8 v).length > 253 ∨ ¬ (utf8 v).all isPolicyByte) := by
    intro n k v
    simp only [policyGrammar, ok_iff, not_not]
  obtain ⟨hlines, hnodup, rfl⟩ := (readEntries_nil_eq_ok hcheck).mp hread
  refine ⟨?_, hnodup, ?_⟩
  · intro line hline
    obtain ⟨k, v, hsplit, hkey, hvalue⟩ := hlines line hline
    exact ⟨k, v, hsplit, hkey, fun hempty => hvalue (.inl hempty)⟩
  · by_contra hnone
    rw [not_or, not_or] at hnone
    exact hkeys hnone

theorem policyEntries_terminated (policy : String) :
    entriesOf trim (lines (terminated policy)) = policyEntries policy := by
  rw [entriesOf, cleaned_terminated]
  rfl

theorem AcceptedPolicy.entry (h : AcceptedPolicy policy) {entry : String × String}
    (hentry : entry ∈ policyEntries policy) :
    entry.1 ∈ line1Keys ++ line2Keys ∧ entry.2 ≠ "" := by
  obtain ⟨line, hline, hsplit⟩ := List.mem_filterMap.mp hentry
  obtain ⟨k, v, hsplit', hkey, hvalue⟩ := h.lines line hline
  rw [hsplit'] at hsplit
  cases hsplit
  exact ⟨hkey, hvalue⟩

theorem policyKey_not_secret : ∀ key ∈ line1Keys ++ line2Keys, key ∉ applicationRuntimeSecretKeys := by
  decide

/-- Each key is written once. -/
theorem AcceptedPolicy.nodup_written (h : AcceptedPolicy policy) (secrets : ApplicationRuntimeSecrets) :
    ((writtenEntries policy secrets).map Prod.fst).Nodup := by
  rw [writtenEntries, List.map_append, List.nodup_append, secrets.keys_entries]
  refine ⟨h.nodup, secretKeys_nodup, ?_⟩
  rintro a ha b hb rfl
  obtain ⟨entry, hentry, rfl⟩ := List.mem_map.mp ha
  exact policyKey_not_secret _ (h.entry hentry).1 hb

/-- What the strict reader makes of the written text. -/
theorem readStrict_written (hsecrets : secrets.validate = .ok u) :
    readStrictEnvFile path (terminated policy ++ secrets.renderEnv) = .ok values ↔
      (∀ line ∈ lines (terminated policy), line ≠ "" →
          ∃ k v, splitOnce line '=' = some (k, v) ∧ k ≠ "" ∧ trim k = k ∧ v ≠ "") ∧
        ((entriesOf id (lines (terminated policy)) ++ secrets.entries).map Prod.fst).Nodup ∧
        values = entriesOf id (lines (terminated policy)) ++ secrets.entries := by
  have hcheck : ∀ n k v, (strictGrammar path).check n k v = .ok () ↔ k ≠ "" ∧ trim k = k ∧ v ≠ "" := by
    intro n k v
    simp only [strictGrammar, rejectIf_eq_ok, not_or, not_not, ne_eq]
  have hclean : (strictGrammar path).clean = id := rfl
  have hlines := lines_terminated_append policy secrets.renderEnv
  rw [ApplicationRuntimeSecrets.lines_renderEnv hsecrets] at hlines
  have hcleaned : cleaned id (lines (terminated policy) ++ secrets.entries.map entryLine) =
      cleaned id (lines (terminated policy)) ++ secrets.entries.map entryLine := by
    rw [cleaned, List.map_append, List.filter_append]
    exact congrArg _ (@ApplicationRuntimeSecrets.cleaned_lines secrets u hsecrets id fun _ _ => rfl)
  have hentries : entriesOf id (lines (terminated policy) ++ secrets.entries.map entryLine) =
      entriesOf id (lines (terminated policy)) ++ secrets.entries := by
    rw [entriesOf, hcleaned, List.filterMap_append]
    exact congrArg _ (filterMap_entryLine fun entry hentry =>
      (graphic_key _ (ApplicationRuntimeSecrets.key_mem hentry)).2.1)
  rw [readStrictEnvFile, hlines, readEntries_nil_eq_ok hcheck, hclean, hcleaned, hentries]
  refine and_congr_left fun _ => ⟨?_, ?_⟩
  · intro h line hline hne
    exact h line
      (List.mem_append_left _
        (List.mem_filter.mpr ⟨List.mem_map.mpr ⟨line, hline, rfl⟩, by simpa using hne⟩))
  · intro h line hline
    rcases List.mem_append.mp hline with hline | hline
    · obtain ⟨hline, hne⟩ := List.mem_filter.mp hline
      rw [List.map_id] at hline
      exact h line hline (by simpa using hne)
    · obtain ⟨entry, hentry, rfl⟩ := List.mem_map.mp hline
      obtain ⟨-, hmark, hne, htrim⟩ := graphic_key _ (ApplicationRuntimeSecrets.key_mem hentry)
      exact ⟨entry.1, entry.2, splitOnce_entryLine hmark, hne, htrim,
        (ApplicationRuntimeSecrets.plain_entries hsecrets entry hentry).1⟩

/-! ### The typed checks -/

theorem lookup_written (h : AcceptedPolicy policy) {entry : String × String}
    (hentry : entry ∈ secrets.entries) :
    (writtenEntries policy secrets).lookup entry.1 = some entry.2 := by
  exact lookup_of_mem (h.nodup_written secrets) (List.mem_append_right _ hentry)

theorem present_written (policy : String) (secrets : ApplicationRuntimeSecrets) {keys : List String}
    (hkeys : ∀ key ∈ keys, key ∉ applicationRuntimeSecretKeys) :
    present (writtenEntries policy secrets) keys = present (policyEntries policy) keys := by
  unfold present
  congr 1
  apply List.filter_congr
  intro key hkey
  have hnot := hkeys key hkey
  rw [← secrets.keys_entries] at hnot
  rw [writtenEntries, List.map_append, decide_eq_decide, List.mem_append]
  exact ⟨fun h => h.resolve_right hnot, .inl⟩

theorem present_of_sameKeys {keys wanted : List String} (h : sameKeys (values.map Prod.fst) keys) :
    present values wanted = (wanted.filter fun key => key ∈ keys).length := by
  unfold present
  congr 1
  apply List.filter_congr
  intro key _
  rw [decide_eq_decide]
  exact ⟨fun hmem => h.1 hmem, fun hmem => h.2 hmem⟩

/-- What is read as it was written passes the typed checks. -/
theorem readTyped_of_strict (hpolicy : AcceptedPolicy policy) (hsecrets : secrets.validate = .ok ())
    {raw : String} (hstrict : readStrictEnvFile path raw = .ok (writtenEntries policy secrets)) :
    readTypedRuntimeEnvironment path raw = .ok (writtenEntries policy secrets) := by
  have hsupported : ((writtenEntries policy secrets).map Prod.fst).filter
      (· ∉ line2Keys ++ line1Keys ++ applicationRuntimeSecretKeys) = [] := by
    rw [List.filter_eq_nil_iff]
    intro key hkey
    obtain ⟨entry, hentry, rfl⟩ := List.mem_map.mp hkey
    rcases List.mem_append.mp hentry with hentry | hentry
    · have hmem := (hpolicy.entry hentry).1
      simp only [List.mem_append] at hmem ⊢
      simp [hmem.symm]
    · simp only [decide_eq_true_eq, not_not]
      exact ApplicationRuntimeSecrets.key_mem hentry
  have hlines : (applicationRuntimeSecretKeys.mapM fun key => do
      let value ← okOr ((writtenEntries policy secrets).lookup key)
        s!"runtime environment is missing VM-owned credential: {key}"
      pure (entryLine (key, value))) = .ok (secrets.entries.map entryLine) := by
    rw [← secrets.keys_entries, Except.mapM_eq_ok, List.forall₂_map_left_iff, List.forall₂_map_right_iff,
      List.forall₂_same]
    intro entry hentry
    rw [lookup_written hpolicy hentry]
    rfl
  have hparse : (ApplicationRuntimeSecrets.parseEnv (unlines (secrets.entries.map entryLine))).mapError
      (fun err => s!"VM-owned runtime credentials are invalid: {err}") = .ok secrets := by
    rw [← ApplicationRuntimeSecrets.renderEnv, ApplicationRuntimeSecrets.parseEnv_renderEnv hsecrets]
    rfl
  have hline2 := present_written policy secrets (show ∀ key ∈ ["PROXY_USERNAME", "PROXY_CERT_CN"],
    key ∉ applicationRuntimeSecretKeys by decide)
  have hline1 :=
    present_written policy secrets
      (show ∀ key ∈ ["REALITY_SERVER_NAME", "TUNNEL_DOMAIN", "ACME_EMAIL"], key ∉
        applicationRuntimeSecretKeys by decide)
  simp only [readTypedRuntimeEnvironment, hstrict, ok_iff, Except.ok.injEq, exists_eq_left', hsupported,
    hlines, hparse, hline1, hline2]
  refine ⟨not_not.mpr rfl, ?_⟩
  -- which lines are configured decides the counts
  rcases hpolicy.keys with hkeys | hkeys
    | hkeys <;> rw [present_of_sameKeys hkeys, present_of_sameKeys hkeys] <;>
    exact ⟨by decide, by decide, by decide, rfl⟩

theorem readStrict_of_typed {raw : String} (h : readTypedRuntimeEnvironment path raw = .ok values) :
    readStrictEnvFile path raw = .ok values := by
  simp only [readTypedRuntimeEnvironment, ok_iff] at h
  obtain ⟨found, hfound, -, _, -, _, -, -, -, -, hpure⟩ := h
  cases hpure
  exact hfound

/-- The written text is read back: every value of the policy and every secret, each key once. -/
def RoundTrip (path policy : String) (secrets : ApplicationRuntimeSecrets) : Prop :=
  ∃ text values, vmRuntimeEnvironment policy secrets = .ok text ∧
    readTypedRuntimeEnvironment path text = .ok values ∧ values.Perm (writtenEntries policy secrets) ∧
    (values.map Prod.fst).Nodup

theorem vmRuntimeEnvironment_eq (hpolicy : validateRuntimePolicyEnv policy = .ok ())
    (hsecrets : secrets.validate = .ok ()) :
    vmRuntimeEnvironment policy secrets = .ok (terminated policy ++ secrets.renderEnv) := by
  rw [vmRuntimeEnvironment, hpolicy, hsecrets]
  rfl

theorem trimmed_of_roundTrip (hpolicy : validateRuntimePolicyEnv policy = .ok ())
    (hsecrets : secrets.validate = .ok ()) (h : RoundTrip path policy secrets) :
    ∀ line ∈ lines (terminated policy), trim line = line := by
  have haccepted := accepted_of_validate hpolicy
  obtain ⟨text, values, hwrite, hread, hperm, hnodup⟩ := h
  intro line hline
  cases (vmRuntimeEnvironment_eq hpolicy hsecrets).symm.trans hwrite
  obtain ⟨hgood, -, rfl⟩ := (readStrict_written hsecrets).mp (readStrict_of_typed hread)
  by_cases hblank : line = ""
  · rw [hblank, trim_empty]
  obtain ⟨k, v, hsplit, hne, htrim, -⟩ := hgood line hline hblank
  obtain ⟨v', hsplit'⟩ := splitOnce_trim hsplit htrim hne
  -- the key was written once, so the reader's value is the validator's
  have hmem : (k, v) ∈ writtenEntries policy secrets := by
    apply hperm.mem_iff.mp
    apply List.mem_append_left
    exact List.mem_filterMap.mpr
      ⟨line, List.mem_filter.mpr ⟨List.mem_map.mpr ⟨line, hline, rfl⟩, by simpa⟩, hsplit⟩
  have hmem' : (k, v') ∈ writtenEntries policy secrets := by
    apply List.mem_append_left
    rw [← policyEntries_terminated]
    refine List.mem_filterMap.mpr ⟨trim line, List.mem_filter.mpr ⟨List.mem_map_of_mem hline, ?_⟩, hsplit'⟩
    have hmark : '=' ∈ (trim line).toList := by simp [(splitOnce_eq_some.mp hsplit').1]
    simp only [decide_eq_true_eq]
    intro hempty
    rw [hempty] at hmark
    cases hmark
  have hsame := List.inj_on_of_nodup_map (haccepted.nodup_written secrets) hmem hmem' rfl
  cases hsame
  apply String.toList_inj.mp
  rw [(splitOnce_eq_some.mp hsplit).1, (splitOnce_eq_some.mp hsplit').1]

theorem roundTrip_of_trimmed (path : String) (hpolicy : validateRuntimePolicyEnv policy = .ok ())
    (hsecrets : secrets.validate = .ok ())
    (htrimmed : ∀ line ∈ lines (terminated policy), trim line = line) :
    RoundTrip path policy secrets := by
  have haccepted := accepted_of_validate hpolicy
  have hcleaned : cleaned id (lines (terminated policy)) = cleaned trim (lines (terminated policy)) := by
    rw [cleaned, cleaned]
    congr 1
    exact List.map_congr_left fun line hline => (htrimmed line hline).symm
  have hentries : entriesOf id (lines (terminated policy)) = policyEntries policy := by
    rw [entriesOf, hcleaned]
    exact policyEntries_terminated policy
  have hnodup := haccepted.nodup_written secrets
  have hstrict : readStrictEnvFile path (terminated policy ++ secrets.renderEnv) =
      .ok (writtenEntries policy secrets) := by
    rw [readStrict_written hsecrets, hentries]
    refine ⟨?_, hnodup, rfl⟩
    intro line hline hne
    have hmem : line ∈ cleaned trim (lines policy) := by
      rw [← cleaned_terminated, ← hcleaned]
      exact List.mem_filter.mpr ⟨List.mem_map.mpr ⟨line, hline, rfl⟩, by simpa using hne⟩
    obtain ⟨k, v, hsplit, hkey, hvalue⟩ := haccepted.lines line hmem
    have hkey' : k ∈ line2Keys ++ line1Keys ++ applicationRuntimeSecretKeys := by
      simp only [List.mem_append] at hkey ⊢
      exact .inl hkey.symm
    obtain ⟨-, -, hkne, hktrim⟩ := graphic_key k hkey'
    exact ⟨k, v, hsplit, hkne, hktrim, hvalue⟩
  exact ⟨_, _, vmRuntimeEnvironment_eq hpolicy hsecrets, readTyped_of_strict haccepted hsecrets hstrict,
    .refl _, hnodup⟩

end Environment

/-! ### An example -/

namespace Sample

def secrets : ApplicationRuntimeSecrets where
  proxyPassword := "00112233445566778899aabbccddeeff00112233445566778899aabbccddeeff"
  vlessUuid := "8b7bb0c6-9e4b-4d0b-8a39-3d4ab0c1f1d5"
  hy2Password := "ffeeddccbbaa99887766554433221100ffeeddccbbaa99887766554433221100"
  realityPrivateKey := "AAAAAAAAAAAAAAAAAAAAAAAAAAAAAAAAAAAAAAAAAAA"
  realityPublicKey := "BBBBBBBBBBBBBBBBBBBBBBBBBBBBBBBBBBBBBBBBBBB"
  realityShortId := "0011223344556677"
  vlessWarpUuid := "8b7bb0c6-9e4b-4d0b-8a39-3d4ab0c1f1d6"
  hy2WarpPassword := "00112233445566778899aabbccddeeff00112233445566778899aabbccddee00"
  realityWarpPrivateKey := "CCCCCCCCCCCCCCCCCCCCCCCCCCCCCCCCCCCCCCCCCCC"
  realityWarpPublicKey := "DDDDDDDDDDDDDDDDDDDDDDDDDDDDDDDDDDDDDDDDDDD"
  realityWarpShortId := "7766554433221100"

def policy : String := "PROXY_USERNAME=acceptance\nPROXY_CERT_CN=acceptance.local\n"

/-- The same policy, its second line indented. -/
def indentedPolicy : String := "PROXY_USERNAME=acceptance\n PROXY_CERT_CN=acceptance.local\n"

/-- The same policy, its second line with a blank behind it. -/
def blankPolicy : String := "PROXY_USERNAME=acceptance\nPROXY_CERT_CN=acceptance.local \n"

end Sample

open Sample in
/-- Both policies are accepted, and neither is read back: the reader refuses the indented line, and takes the
blank behind the other for a part of its value. -/
theorem blank_in_policy_not_read_back :
    secrets.validate = .ok () ∧
      (validateRuntimePolicyEnv indentedPolicy = .ok () ∧
        ¬ RoundTrip ".env.runtime" indentedPolicy secrets) ∧
      (validateRuntimePolicyEnv blankPolicy = .ok () ∧
        ¬ RoundTrip ".env.runtime" blankPolicy secrets) := by
  have hsecrets : secrets.validate = .ok () := by decide
  have hindented : validateRuntimePolicyEnv indentedPolicy = .ok () := by decide
  have hblank : validateRuntimePolicyEnv blankPolicy = .ok () := by decide
  refine ⟨hsecrets, ⟨hindented, fun h => ?_⟩, hblank, fun h => ?_⟩
  · exact absurd (trimmed_of_roundTrip hindented hsecrets h) (by decide)
  · exact absurd (trimmed_of_roundTrip hblank hsecrets h) (by decide)

/-- **What is written is read back exactly if trimming changes no line of the policy** (its last line
terminated). -/
theorem runtime_environment_round_trip (path policy : String) (secrets : ApplicationRuntimeSecrets)
    (hpolicy : validateRuntimePolicyEnv policy = .ok ()) (hsecrets : secrets.validate = .ok ()) :
    RoundTrip path policy secrets ↔ ∀ line ∈ lines (terminated policy), trim line = line :=
  ⟨trimmed_of_roundTrip hpolicy hsecrets, roundTrip_of_trimmed path hpolicy hsecrets⟩

open Sample in
theorem runtime_environment_round_trip_line2 : RoundTrip ".env.runtime" policy secrets := by
  have hiff := runtime_environment_round_trip ".env.runtime" policy secrets (by decide) (by decide)
  exact hiff.mpr (by decide)

end EdgePlatform.Agent
