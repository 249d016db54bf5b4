import EdgePlatform.Foundation.Cidr
import EdgePlatform.Foundation.Entries
import EdgePlatform.Windows.Routing

/-!
# `EdgePlatform.Controller.Vpc` — the private network of a machine at the provider

`vultr_vpc_lifecycle.rs` checks the subnet the provider reports for the VPC of a machine, and the address the
machine has there; `orchestration.rs` makes the route into the mesh from it.

Errors are modelled by their text, and an arithmetic overflow by the text it panics with.
-/

namespace EdgePlatform.Controller

open Foundation Foundation.Cidr

/-! ## Addresses -/

/-- `Ipv4Addr::from_str`. -/
def parseAddress (value : String) : Option (BitVec 32) :=
  (Windows.parseIpv4 value).map fun octets => BitVec.ofNat 32 (octets.foldl (fun acc n => acc * 256 + n) 0)

/-- `Ipv4Addr::to_string`. -/
def display (n : BitVec 32) : String :=
  decimal (n.toNat / 2 ^ 24) ++ "." ++ decimal (n.toNat / 2 ^ 16 % 256) ++ "." ++
    decimal (n.toNat / 2 ^ 8 % 256) ++ "." ++ decimal (n.toNat % 256)

/-- The ranges of RFC 1918, with their prefix lengths. -/
def privateRanges : List (BitVec 32 × Nat) := [(0x0a000000, 8), (0xac100000, 12), (0xc0a80000, 16)]

/-- `Ipv4Addr::is_private`. -/
def isPrivate (n : BitVec 32) : Bool := privateRanges.any fun r => InBlock r.1 r.2 n

/-- `u32::MAX << (32 - mask)`. -/
def networkMask (mask : UInt8) : Except String (BitVec 32) := do
  rejectIf (32 < mask.toNat) "attempt to subtract with overflow"
  rejectIf (32 ≤ 32 - mask.toNat) "attempt to shift left with overflow"
  pure (BitVec.allOnes 32 <<< (32 - mask.toNat))

/-- A VPC of the provider. -/
structure ObservedVpc where
  providerId : String
  region : String
  description : String
  v4Subnet : String
  v4SubnetMask : UInt8
deriving DecidableEq

/-- Its network, if private and canonical. -/
def observedCidr (vpc : ObservedVpc) : Except String String := do
  let subnet ← okOr (parseAddress vpc.v4Subnet)
    s!"Vultr VPC {vpc.providerId} returned invalid IPv4 subnet {vpc.v4Subnet}: invalid IPv4 address syntax"
  rejectIf (isPrivate subnet = false)
      s!"Vultr VPC {vpc.providerId} returned non-private IPv4 subnet {vpc.v4Subnet}"
  rejectIf (¬ (1 ≤ vpc.v4SubnetMask ∧ vpc.v4SubnetMask ≤ 32))
    s!"Vultr VPC {vpc.providerId} returned invalid IPv4 prefix length {vpc.v4SubnetMask.toNat}"
  let mask ← networkMask vpc.v4SubnetMask
  rejectIf (subnet &&& mask ≠ subnet) (s!"Vultr VPC {vpc.providerId} returned non-canonical subnet " ++
    s!"{vpc.v4Subnet}/{vpc.v4SubnetMask.toNat}; expected {display (subnet &&& mask)}/{vpc.v4SubnetMask.toNat}")
  pure (display subnet ++ "/" ++ decimal vpc.v4SubnetMask.toNat)

/-- A private address of the VPC. -/
def validatePrivateIpInCidr (value : String) (vpc : ObservedVpc) : Except String Unit := do
  let ip ← okOr (parseAddress value)
    s!"Vultr VPC attachment returned invalid private IPv4 {value}: invalid IPv4 address syntax"
  rejectIf (isPrivate ip = false) s!"Vultr VPC attachment returned non-private IPv4 {value}"
  let subnet ← okOr (parseAddress vpc.v4Subnet)
    s!"Vultr VPC {vpc.providerId} returned invalid IPv4 subnet {vpc.v4Subnet}: invalid IPv4 address syntax"
  let mask ← networkMask vpc.v4SubnetMask
  rejectIf (ip &&& mask ≠ subnet)
    s!"Vultr VPC attachment private IPv4 {value} is outside {vpc.v4Subnet}/{vpc.v4SubnetMask.toNat}"

/-- In a prefix length that is in range the mask is computed. -/
theorem networkMask_eq {mask : UInt8} (hlow : 1 ≤ mask.toNat) (hhigh : mask.toNat ≤ 32) :
    networkMask mask = .ok (BitVec.allOnes 32 <<< (32 - mask.toNat)) := by
  rw [networkMask, rejectIf_of_not (by omega), rejectIf_of_not (by omega)]
  rfl

/-- What an accepted subnet is. -/
theorem observedCidr_eq_ok {vpc : ObservedVpc} {cidr : String} (h : observedCidr vpc = .ok cidr) :
    ∃ base, parseAddress vpc.v4Subnet = some base ∧ isPrivate base = true ∧
      (1 ≤ vpc.v4SubnetMask.toNat ∧ vpc.v4SubnetMask.toNat ≤ 32) ∧ Canonical base vpc.v4SubnetMask.toNat ∧
      cidr = display base ++ "/" ++ decimal vpc.v4SubnetMask.toNat := by
  simp only [observedCidr, ok_iff, UInt8.le_iff_toNat_le] at h
  obtain ⟨base, hbase, hprivate, hrange, mask, hmask, hhost, hcidr⟩ := h
  obtain ⟨hlow, hhigh⟩ := not_not.mp hrange
  rw [networkMask_eq hlow hhigh, Except.ok.injEq] at hmask
  subst hmask
  exact ⟨base, hbase, by simpa using hprivate, ⟨hlow, hhigh⟩, canonical_iff_high_mask.mp (not_not.mp hhost),
    (Except.ok.inj hcidr).symm⟩

theorem privateRanges_le : ∀ r ∈ privateRanges, r.2 ≤ 32 := by decide

variable {base : BitVec 32}

/-- The block of the same size beside a private range holds no private address. -/
theorem sibling_not_private {r : BitVec 32 × Nat} (hr : r ∈ privateRanges)
    (hbase : InBlock r.1 r.2 base) : isPrivate (base ^^^ (1#32 <<< (32 - r.2))) = false := by
  have hapart : ∀ r ∈ privateRanges, ∀ r' ∈ privateRanges,
      ¬ InBlock (r.1 ^^^ (1#32 <<< (32 - r.2))) (min r.2 r'.2) r'.1 := by decide
  rw [isPrivate, List.any_eq_false]
  intro r' hr' hin
  exact hapart r hr r' hr'
    ((hbase.xor _).meet (privateRanges_le r hr) (of_decide_eq_true hin) (privateRanges_le r' hr'))

/-- A block is private exactly when it is no larger than the range its base lies in. -/
theorem block_private_iff {p : Nat} (hp : p ≤ 32) :
    (∀ n, InBlock base p n → isPrivate n = true) ↔ ∃ r ∈ privateRanges, InBlock r.1 r.2 base ∧ r.2 ≤ p := by
  constructor
  · intro hall
    obtain ⟨r, hr, hbase⟩ := List.any_eq_true.mp (hall base rfl)
    replace hbase := of_decide_eq_true hbase
    refine ⟨r, hr, hbase, ?_⟩
    by_contra hlt
    have hle := privateRanges_le r hr
    have hflip := hall _ (inBlock_flip (k := 32 - r.2) (by omega))
    rw [sibling_not_private hr hbase] at hflip
    cases hflip
  · rintro ⟨r, hr, hbase, hle⟩ n hn
    exact List.any_eq_true.mpr ⟨r, hr, decide_eq_true ((hn.widen hle hp).trans hbase)⟩

theorem validatePrivateIpInCidr_iff {vpc : ObservedVpc}
    (hbase : parseAddress vpc.v4Subnet = some base) (hlow : 1 ≤ vpc.v4SubnetMask.toNat)
    (hhigh : vpc.v4SubnetMask.toNat ≤ 32) (hc : Canonical base vpc.v4SubnetMask.toNat) (value : String) :
    validatePrivateIpInCidr value vpc = .ok () ↔
      ∃ n, parseAddress value = some n ∧ isPrivate n = true ∧ InBlock base vpc.v4SubnetMask.toNat n := by
  simp only [validatePrivateIpInCidr, ok_iff, hbase, networkMask_eq hlow hhigh, Option.some.injEq,
    Except.ok.injEq, exists_eq_left', not_not, hc.masked_iff, Bool.not_eq_false]

namespace VpcSample

def vpc (subnet : String) (mask : UInt8) : ObservedVpc :=
  ⟨"vpc-1", "waw", "managed-by-sing-box:vpc:prod:vm", subnet, mask⟩

end VpcSample

/-! ## The derived route -/

/-- What the orchestration keeps of a VPC. -/
structure VpcObservation where
  providerId : String
  cidr : String
  privateIpv4 : String

/-- A route for the mesh. -/
structure DerivedMeshRoute where
  sourceVpcId : String
  network : String
  privateIpv4 : String

/-- `str::parse::<u8>` with its error: the first character that does not fit decides. -/
def parseU8 (s : String) : Except String UInt8 := do
  rejectIf (s = "") "cannot parse integer from empty string"
  rejectIf (unsigned s.toList = []) "invalid digit found in string"
  let n ← (unsigned s.toList).foldlM (fun n c => do
    rejectIf (c.isDigit = false) "invalid digit found in string"
    rejectIf (256 ≤ 10 * n + (c.toNat - 48)) "number too large to fit in target type"
    pure (10 * n + (c.toNat - 48))) 0
  pure (UInt8.ofNat n)

theorem parseU8_decimal (n : UInt8) : parseU8 (decimal n.toNat) = .ok n := by
  have hall : ∀ n < 256, parseU8 (decimal n) = .ok (UInt8.ofNat n) := by decide +kernel
  rw [hall n.toNat n.toNat_lt, UInt8.ofNat_toNat]

/-- An IPv4 address. -/
def parseIpv4 (label value : String) : Except String (BitVec 32) :=
  okOr (parseAddress (trim value)) s!"{label} must be an exact IPv4 address"

/-- A network address and its length. -/
def canonicalIpv4Cidr (value : String) : Except String String := do
  let (address, length) ← okOr (splitOnce (trim value) '/') "VPC cidr must be an IPv4 CIDR"
  let address ← parseIpv4 "VPC cidr address" address
  let length ← (parseU8 length).mapError fun _ => "VPC cidr prefix must be an integer"
  rejectIf (32 < length) "VPC cidr prefix must be <= 32"
  let mask ← if length = 0 then pure 0 else networkMask length
  let network := display (address &&& mask)
  rejectIf (address &&& mask ≠ address)
    s!"VPC cidr must be canonical network address: expected {network}/{length.toNat}"
  pure (network ++ "/" ++ decimal length.toNat)

/-- A network and an address. -/
def VpcObservation.validate (o : VpcObservation) : Except String Unit := do
  rejectIf (trim o.providerId = "") "VPC provider_id must be non-empty"
  let _ ← canonicalIpv4Cidr o.cidr
  let _ ← parseIpv4 "VPC private_ipv4" o.privateIpv4

/-- The route of an observed VPC. -/
def deriveMeshRoute (observed : VpcObservation) : Except String DerivedMeshRoute := do
  observed.validate
  let network ← canonicalIpv4Cidr observed.cidr
  let address ← parseIpv4 "VPC private_ipv4" observed.privateIpv4
  pure ⟨observed.providerId, network, display address⟩

theorem deriveMeshRoute_network {o : VpcObservation} {route : DerivedMeshRoute}
    (h : deriveMeshRoute o = .ok route) :
    canonicalIpv4Cidr o.cidr = .ok route.network := by
  simp only [deriveMeshRoute, ok_iff, pure_eq_ok] at h
  obtain ⟨-, network, hnetwork, address, -, rfl⟩ := h
  exact hnetwork

theorem ipv4Octet_toDigits : ∀ k < 256, Windows.ipv4Octet (Nat.toDigits 10 k) = some k := by decide +kernel

variable {c : Char}

theorem not_mem_decimal (hc : c.isDigit = false) (n : Nat) : c ∉ (decimal n).toList := by
  intro hmem
  rw [decimal, String.toList_ofList] at hmem
  simp [Nat.isDigit_of_mem_toDigits (by decide) (by decide) hmem] at hc

theorem parseIpv4_octets {a b c d : Nat} (ha : a < 256) (hb : b < 256) (hc : c < 256) (hd : d < 256) :
    Windows.parseIpv4 (decimal a ++ "." ++ decimal b ++ "." ++ decimal c ++ "." ++ decimal d) = some
      [a, b, c, d] := by
  have hdot (k : Nat) : '.' ∉ (decimal k).toList := not_mem_decimal (by decide) k
  have hoctet (k : Nat) (hk : k < 256) : Windows.ipv4Octet (decimal k).toList = some k := by
    rw [decimal, String.toList_ofList, ipv4Octet_toDigits k hk]
  have hparts :
      Host.HostAdmin.splitAt '.'
        (decimal a ++ "." ++ decimal b ++ "." ++ decimal c ++ "." ++ decimal d).toList =
          [(decimal a).toList, (decimal b).toList, (decimal c).toList, (decimal d).toList] := by
    have htext : (decimal a ++ "." ++ decimal b ++ "." ++ decimal c ++ "." ++ decimal d).toList =
        (decimal a).toList ++
        '.' :: ((decimal b).toList ++ '.' :: ((decimal c).toList ++ '.' :: (decimal d).toList)) := by
      simp
    rw [htext, (Host.HostAdmin.splitAt_of_not_mem (hdot a) _).1,
      (Host.HostAdmin.splitAt_of_not_mem (hdot b) _).1, (Host.HostAdmin.splitAt_of_not_mem (hdot c) _).1,
      (Host.HostAdmin.splitAt_of_not_mem (hdot d) []).2]
  rw [Windows.parseIpv4, hparts]
  simp [hoctet, ha, hb, hc, hd]

theorem parseAddress_display (n : BitVec 32) : parseAddress (display n) = some n := by
  have hlt := n.isLt
  rw [parseAddress, display, parseIpv4_octets (by omega) (by omega) (by omega) (by omega), Option.map_some,
    Option.some.injEq]
  apply BitVec.eq_of_toNat_eq
  simp only [List.foldl_cons, List.foldl_nil, BitVec.toNat_ofNat]
  omega

/-- A character of a subnet's text. -/
def isCidrChar (c : Char) : Bool := c == '.' || c == '/' || c.isDigit

theorem visible_of_isCidrChar (h : isCidrChar c = true) : isWhitespace c = false := by
  simp only [isCidrChar, Bool.or_eq_true, beq_iff_eq] at h
  obtain (rfl | rfl) | h := h
  · decide
  · decide
  · exact not_isWhitespace_of_isAlphanum (by simp [Char.isAlphanum, h])

theorem isCidrChar_decimal {n : Nat} (h : c ∈ (decimal n).toList) : isCidrChar c = true := by
  by_contra hc
  simp only [isCidrChar, Bool.or_eq_true, not_or, Bool.not_eq_true] at hc
  exact not_mem_decimal hc.2 n h

theorem isCidrChar_display {n : BitVec 32} (h : c ∈ (display n).toList) : isCidrChar c = true := by
  by_contra hc
  have hno (k : Nat) : c ∉ (decimal k).toList := fun hmem => hc (isCidrChar_decimal hmem)
  have hdot : c = '.' := by simpa [display, hno] using h
  exact hc (by rw [hdot]; decide)

theorem isCidrChar_cidr {n : BitVec 32} {length : Nat}
    (h : c ∈ (display n ++ "/" ++ decimal length).toList) :
    isCidrChar c = true := by
  by_contra hc
  have haddress : c ∉ (display n).toList := fun hmem => hc (isCidrChar_display hmem)
  have hlength : c ∉ (decimal length).toList := fun hmem => hc (isCidrChar_decimal hmem)
  have hslash : c = '/' := by simpa [haddress, hlength] using h
  exact hc (by rw [hslash]; decide)

/-- A checked subnet is its own canonical form. -/
theorem canonicalIpv4Cidr_display {length : UInt8} (hlow : 1 ≤ length.toNat) (hhigh : length.toNat ≤ 32)
    (hc : Canonical base length.toNat) : canonicalIpv4Cidr (display base ++ "/" ++ decimal length.toNat) =
      .ok (display base ++ "/" ++ decimal length.toNat) := by
  have hslash : '/' ∉ (display base).toList := by
    simp [display, not_mem_decimal (c := '/') (by decide)]
  have hsplit : splitOnce (display base ++ "/" ++ decimal length.toNat) '/' =
      some (display base, decimal length.toNat) :=
    splitOnce_eq_some.mpr ⟨by simp, hslash⟩
  have hlength : (parseU8 (decimal length.toNat)).mapError (fun _ => "VPC cidr prefix must be an integer") =
      .ok length := by rw [parseU8_decimal, Except.mapError]
  have hne : length ≠ 0 := by
    rintro rfl
    cases hlow
  have hle : ¬ (32 : UInt8) < length := Nat.not_lt.mpr hhigh
  have hmask := canonical_iff_high_mask.mpr hc
  have htrim : trim (display base ++ "/" ++ decimal length.toNat) =
      display base ++ "/" ++ decimal length.toNat :=
    trim_of_visible fun _ hmem => visible_of_isCidrChar (isCidrChar_cidr hmem)
  have htrim' : trim (display base) = display base :=
    trim_of_visible fun _ hmem => visible_of_isCidrChar (isCidrChar_display hmem)
  refine ok_bind (okOr_eq_ok.mpr (by rw [htrim, hsplit])) ?_
  refine ok_bind (okOr_eq_ok.mpr (by rw [htrim', parseAddress_display])) ?_
  refine ok_bind hlength (passes_bind hle ?_)
  rw [if_neg hne]
  refine ok_bind (networkMask_eq hlow hhigh) (passes_bind (not_not.mpr hmask) ?_)
  rw [hmask]
  rfl

theorem observed_block_private_iff {vpc : ObservedVpc} {cidr : String} (h : observedCidr vpc = .ok cidr) :
    ∃ base, parseAddress vpc.v4Subnet = some base ∧ Canonical base vpc.v4SubnetMask.toNat ∧
      cidr = display base ++ "/" ++ decimal vpc.v4SubnetMask.toNat ∧
      (∀ o route, deriveMeshRoute o = .ok route → o.cidr = cidr → route.network = cidr) ∧
      ((∀ n, InBlock base vpc.v4SubnetMask.toNat n → isPrivate n = true) ↔
        ∃ r ∈ privateRanges, InBlock r.1 r.2 base ∧ r.2 ≤ vpc.v4SubnetMask.toNat) ∧
      networkMask vpc.v4SubnetMask = .ok (BitVec.allOnes 32 <<< (32 - vpc.v4SubnetMask.toNat)) ∧
      ∀ value, validatePrivateIpInCidr value vpc = .ok () ↔
        ∃ n, parseAddress value = some n ∧ isPrivate n = true ∧ InBlock base vpc.v4SubnetMask.toNat n := by
  obtain ⟨base, hbase, -, ⟨hlow, hhigh⟩, hc, rfl⟩ := observedCidr_eq_ok h
  refine ⟨base, hbase, hc, rfl, ?_, block_private_iff hhigh, networkMask_eq hlow hhigh,
    validatePrivateIpInCidr_iff hbase hlow hhigh hc⟩
  intro o route hroute hcidr
  have hnetwork := deriveMeshRoute_network hroute
  rw [hcidr, canonicalIpv4Cidr_display hlow hhigh hc] at hnetwork
  exact (Except.ok.inj hnetwork).symm

open VpcSample in
theorem private_subnet_block :
    observedCidr (vpc "10.27.96.0" 20) = .ok "10.27.96.0/20" ∧
      ∃ base, parseAddress "10.27.96.0" = some base ∧ ∀ n, InBlock base 20 n → isPrivate n = true := by
  have haccepted : observedCidr (vpc "10.27.96.0" 20) = .ok "10.27.96.0/20" := by decide
  obtain ⟨base, hbase, -, -, -, hprivate, -⟩ := observed_block_private_iff haccepted
  have hvalue : parseAddress "10.27.96.0" = some 0x0a1b6000 := by decide
  cases hvalue.symm.trans hbase
  exact ⟨haccepted, _, hvalue, hprivate.mpr (by decide)⟩

open VpcSample in
/-- Only the base is tested: the block of ten and eleven is accepted, becomes a route, and half of it is
public. -/
theorem wide_subnet_not_private :
    observedCidr (vpc "10.0.0.0" 7) = .ok "10.0.0.0/7" ∧
      ((deriveMeshRoute ⟨"vpc-1", "10.0.0.0/7", "10.0.0.3"⟩).map (·.network)) = .ok "10.0.0.0/7" ∧
      InBlock (0x0a000000#32) 7 0x0b000001 ∧ isPrivate 0x0b000001 = false := by
  decide

end EdgePlatform.Controller
