import EdgePlatform.Fleet.Report
import EdgePlatform.Foundation.Cidr

/-!
# `EdgePlatform.Agent.Manifests` — manifests of managed Docker objects, routes, resolvers and firewalls

A release may carry manifests under `managed/`. Each is one message in its canonical encoding, and its
resource name is `sb-<machine id>-<suffix>` with the suffix of its file name. What the four decoders allow in
a suffix differs: Docker objects and routes may have a hyphen in it, resolvers and firewalls may not.

Decoding a message is `prost`'s; a decoder here is a function of it (`ManifestDecoders`), since every
manifest that is accepted is also encoded again and compared.
-/

namespace EdgePlatform.Agent

open Foundation Foundation.Wire Foundation.Cidr
open Host (FleetHost FleetHostKind strLt)
open Fleet

/-! ## Messages -/

inductive FleetVmFirewallTransport
  | unspecified | tcp | udp
deriving DecidableEq

inductive FleetVmFirewallAction
  | unspecified | allow | deny
deriving DecidableEq

instance : ProtoEnum FleetVmFirewallTransport where
  all := [.unspecified, .tcp, .udp]
  code := FleetVmFirewallTransport.ctorIdx

instance : ProtoEnum FleetVmFirewallAction where
  all := [.unspecified, .allow, .deny]
  code := FleetVmFirewallAction.ctorIdx

structure FleetVmManagedDockerResource where
  schemaVersion : UInt32
  machineId : String
  resourceName : String
  kind : Int32
  desiredState : Int32
  imageRef : String
  networkName : String
  restartGeneration : UInt64
  ipv6Subnet : String
  ipv6Gateway : String
  dnsServers : List String
  bridgeInterfaceName : String
deriving DecidableEq

structure FleetVmManagedKernelRoute where
  schemaVersion : UInt32
  machineId : String
  resourceName : String
  family : Int32
  destination : String
  prefixLength : UInt32
  interfaceName : String
  tableId : UInt32
deriving DecidableEq

structure FleetVmFirewallRule where
  transport : Int32
  destinationPort : UInt32
  action : Int32
deriving DecidableEq

structure FleetVmManagedFirewall where
  schemaVersion : UInt32
  machineId : String
  resourceName : String
  ingressRules : List FleetVmFirewallRule
deriving DecidableEq

structure FleetVmManagedSystemDns where
  schemaVersion : UInt32
  machineId : String
  resourceName : String
  interfaceName : String
  nameServers : List String
  routingDomain : String
deriving DecidableEq

def FleetVmManagedDockerResource.encodeToVec (s : FleetVmManagedDockerResource) : Bytes :=
  encodeFields (put 1 (u32Value s.schemaVersion) ++ put 2 (stringValue s.machineId) ++
    put 3 (stringValue s.resourceName) ++ put 4 (i32Value s.kind) ++ put 5 (i32Value s.desiredState) ++
    put 6 (stringValue s.imageRef) ++ put 7 (stringValue s.networkName) ++
    put 8 (u64Value s.restartGeneration) ++ put 9 (stringValue s.ipv6Subnet) ++
    put 10 (stringValue s.ipv6Gateway) ++ putStrings 11 s.dnsServers ++
    put 12 (stringValue s.bridgeInterfaceName))

def FleetVmManagedKernelRoute.encodeToVec (s : FleetVmManagedKernelRoute) : Bytes :=
  encodeFields (put 1 (u32Value s.schemaVersion) ++ put 2 (stringValue s.machineId) ++
    put 3 (stringValue s.resourceName) ++ put 4 (i32Value s.family) ++ put 5 (stringValue s.destination) ++
    put 6 (u32Value s.prefixLength) ++ put 7 (stringValue s.interfaceName) ++ put 8 (u32Value s.tableId))

def FleetVmFirewallRule.encodeToVec (r : FleetVmFirewallRule) : Bytes :=
  encodeFields (put 1 (i32Value r.transport) ++ put 2 (u32Value r.destinationPort) ++
    put 3 (i32Value r.action))

def FleetVmManagedFirewall.encodeToVec (s : FleetVmManagedFirewall) : Bytes :=
  encodeFields (put 1 (u32Value s.schemaVersion) ++ put 2 (stringValue s.machineId) ++
    put 3 (stringValue s.resourceName) ++ putMessages 4 FleetVmFirewallRule.encodeToVec s.ingressRules)

def FleetVmManagedSystemDns.encodeToVec (s : FleetVmManagedSystemDns) : Bytes :=
  encodeFields (put 1 (u32Value s.schemaVersion) ++ put 2 (stringValue s.machineId) ++
    put 3 (stringValue s.resourceName) ++ put 4 (stringValue s.interfaceName) ++
    putStrings 5 s.nameServers ++ put 6 (stringValue s.routingDomain))

/-- `prost::Message::decode` of the four manifests. -/
structure ManifestDecoders where
  docker : Bytes → Option FleetVmManagedDockerResource
  route : Bytes → Option FleetVmManagedKernelRoute
  firewall : Bytes → Option FleetVmManagedFirewall
  dns : Bytes → Option FleetVmManagedSystemDns

/-! ## Addresses -/

namespace IpAddr

open Fleet.IpAddr

def isUnspecified : IpAddr → Bool
  | v4 n => n = 0
  | v6 n => n = 0

def isLoopback : IpAddr → Bool
  | v4 n => n >>> 24 = 127
  | v6 n => n = 1

def isMulticast : IpAddr → Bool
  | v4 n => n >>> 28 = 14
  | v6 n => n >>> 120 = 255

end IpAddr

/-! ## Names -/

def isLowerOrDigit (b : UInt8) : Bool := isAsciiLowercase b || isAsciiDigit b

def isHyphen (b : UInt8) : Bool := b = 45

/-- The name of a managed resource. -/
def managedName (machineId suffix : String) : String := "sb-" ++ machineId ++ "-" ++ suffix

/-- A resource name within its bound, made from the suffix of the manifest's file name. -/
def nameMatches (machineId suffix name : String) : Bool :=
  name = managedName machineId suffix && (utf8 name).length ≤ 112

/-- The suffix of a Docker object: it begins with a letter or digit and may have hyphens. -/
def dockerSuffix (suffix : String) : Bool :=
  suffix ≠ "" && (utf8 suffix).length ≤ 40 && (utf8 suffix).head?.any isAsciiAlphanumeric &&
    (utf8 suffix).all fun b => isAsciiAlphanumeric b || isHyphen b

/-- The suffix of a route: hyphens within it only. -/
def routeSuffix (suffix : String) : Bool :=
  suffix ≠ "" && (utf8 suffix).length ≤ 24 && !startsWith suffix "-" && !endsWith suffix "-" &&
    (utf8 suffix).all fun b => isLowerOrDigit b || isHyphen b

/-- The suffix of a resolver or a firewall: no hyphen. -/
def plainSuffix (suffix : String) : Bool :=
  suffix ≠ "" && (utf8 suffix).length ≤ 24 && (utf8 suffix).all isLowerOrDigit

/-- What lies between the two ends of a manifest's path. -/
def pathSuffix (path start : String) : Option String := (stripPrefix path start).bind (stripSuffix · ".pb")

/-- A Docker name of the machine. -/
def exactOwnedNetworkName (machineId name : String) : Bool :=
  match stripPrefix name ("sb-" ++ machineId ++ "-") with
  | none => false
  | some suffix => dockerSuffix suffix && !endsWith suffix "-"

/-- The machine ids the resolver and firewall decoders accept. -/
def plainMachineId (machineId : String) : Bool :=
  machineId ≠ "" && (utf8 machineId).length ≤ 64 &&
    (utf8 machineId).all fun b => isLowerOrDigit b || isHyphen b

/-! ## Docker objects -/

/-- Docker IPv6 is opt-in, and only a canonical ULA /64 with a gateway inside it. -/
def canonicalPrivateIpv6Ipam (T : IpText) (spec : FleetVmManagedDockerResource) : Bool :=
  if spec.ipv6Subnet = "" ∧ spec.ipv6Gateway = "" then true
  else
    match stripSuffix spec.ipv6Subnet "/64" with
    | none => false
    | some text =>
      match T.parse text, T.parse spec.ipv6Gateway with
      | some (.v6 subnet), some (.v6 gateway) =>
        T.display (.v6 subnet) = text && T.display (.v6 gateway) = spec.ipv6Gateway &&
          subnet >>> 120 = 0xfd && subnet.truncate 64 = 0 && gateway >>> 64 = subnet >>> 64 &&
          gateway ≠ subnet
      | _, _ => false

def containerDnsServer (T : IpText) (text : String) : Bool :=
  match T.parse text with
  | some (.v4 n) =>
    text = T.display (.v4 n) && !IpAddr.isUnspecified (.v4 n) && !IpAddr.isLoopback (.v4 n) &&
      !IpAddr.isMulticast (.v4 n) && n >>> 16 ≠ 0xa9fe && n ≠ BitVec.allOnes 32
  | some (.v6 n) =>
    text = T.display (.v6 n) && (n >>> 120 = 0xfd || n >>> 125 = 1) && !IpAddr.isMulticast (.v6 n) &&
      !IpAddr.isLoopback (.v6 n) && !IpAddr.isUnspecified (.v6 n)
  | none => false

/-- At most four servers, in order. -/
def canonicalContainerDns (T : IpText) (addresses : List String) : Bool :=
  addresses.length ≤ 4 && decide (addresses.IsChain fun a b => strLt a b = true) &&
    addresses.all (containerDnsServer T)

/-- No name, or one of ours. -/
def canonicalBridgeInterfaceName (name : String) : Bool :=
  name = "" ||
    (3 ≤ (utf8 name).length && (utf8 name).length ≤ 15 && startsWith name "sb" && !endsWith name "-" &&
      (utf8 name).all fun b => isLowerOrDigit b || isHyphen b)

def isImagePathByte (b : UInt8) : Bool := isLowerOrDigit b || [46, 45, 95, 47].contains b

def managedImagePinned (imageRef : String) : Bool :=
  match rsplitOnce imageRef "@sha256:" with
  | none => false
  | some (image, digest) =>
    (utf8 image).length ≤ 180 && image ≠ "" && !contains image ".." && !contains image "//" &&
      (utf8 image).all isImagePathByte && (utf8 digest).length = 64 && (utf8 digest).all isLowerHex &&
      !(utf8 digest).all (· = 48)

def dockerPathStart : FleetVmManagedDockerKind → Option String
  | .localVolume => some "managed/docker-volume-"
  | .bridgeNetwork => some "managed/docker-network-"
  | .container => some "managed/docker-container-"
  | .unspecified => none

def isDesiredState (state : Int32) (e : FleetVmManagedDockerDesiredState) : Bool := state = toI32 e

/-- The fields each kind may carry. -/
def dockerFieldsExpected (T : IpText) (machineId : String) (spec : FleetVmManagedDockerResource) :
    FleetVmManagedDockerKind → Bool
  | .container =>
    managedImagePinned spec.imageRef && spec.ipv6Subnet = "" && spec.ipv6Gateway = "" &&
      spec.bridgeInterfaceName = "" && canonicalContainerDns T spec.dnsServers &&
      (spec.networkName = "" || exactOwnedNetworkName machineId spec.networkName)
  | .localVolume =>
    spec.imageRef = "" && spec.networkName = "" && spec.restartGeneration = 0 &&
      !isDesiredState spec.desiredState .stopped && spec.ipv6Subnet = "" && spec.ipv6Gateway = "" &&
      spec.dnsServers = [] && spec.bridgeInterfaceName = ""
  | .bridgeNetwork =>
    spec.imageRef = "" && spec.networkName = "" && spec.restartGeneration = 0 &&
      !isDesiredState spec.desiredState .stopped && canonicalPrivateIpv6Ipam T spec &&
      canonicalBridgeInterfaceName spec.bridgeInterfaceName && spec.dnsServers = []
  | .unspecified => false

/-- The manifest belongs to its path and the host. -/
def resourcePathExpected (T : IpText) (host : FleetHost) (path : String)
    (spec : FleetVmManagedDockerResource) : Bool :=
  match tryFrom FleetVmManagedDockerKind spec.kind with
  | none => false
  | some kind =>
    match (dockerPathStart kind).bind (pathSuffix path) with
    | none => false
    | some suffix =>
      dockerSuffix suffix && nameMatches host.machineId suffix spec.resourceName &&
        spec.machineId = host.machineId && spec.schemaVersion = 1 &&
        (isDesiredState spec.desiredState .present || isDesiredState spec.desiredState .absent ||
          isDesiredState spec.desiredState .stopped) &&
        dockerFieldsExpected T host.machineId spec kind

/-- A canonical Docker manifest of the host. -/
def decodeExactSpec (D : ManifestDecoders) (T : IpText) (host : FleetHost) (path : String) (raw : Bytes) :
    Except String FleetVmManagedDockerResource := do
  rejectIf (raw = [] ∨ raw.length > 2048) "HOST_VM_DOCKER_MANIFEST_SIZE_INVALID"
  let spec ← okOr (D.docker raw) "HOST_VM_DOCKER_MANIFEST_DECODE_INVALID"
  rejectIf (spec.encodeToVec ≠ raw ∨ resourcePathExpected T host path spec = false)
    "HOST_VM_DOCKER_MANIFEST_CANONICAL_OR_SCOPE_INVALID"
  pure spec

/-! ## Routes -/

/-- A network address that is not too wide. -/
def canonicalDestination (T : IpText) (spec : FleetVmManagedKernelRoute) : Bool :=
  match T.parse spec.destination with
  | none => false
  | some ip =>
    spec.destination = T.display ip &&
      match tryFrom FleetVmIpFamily spec.family, ip with
      | some .v4, .v4 n =>
        8 ≤ spec.prefixLength && spec.prefixLength ≤ 32 && !IpAddr.isUnspecified (.v4 n) &&
          n ≠ BitVec.allOnes 32 && !IpAddr.isMulticast (.v4 n) && !IpAddr.isLoopback (.v4 n) &&
          n &&& ((1#32 <<< (32 - spec.prefixLength.toNat)) - 1) = 0
      | some .v6, .v6 n =>
        16 ≤ spec.prefixLength && spec.prefixLength ≤ 128 && !IpAddr.isUnspecified (.v6 n) &&
          !IpAddr.isMulticast (.v6 n) && !IpAddr.isLoopback (.v6 n) &&
          n &&& ((1#128 <<< (128 - spec.prefixLength.toNat)) - 1) = 0
      | _, _ => false

open Fleet.IpAddr in
/-- What an accepted destination says about its base and its prefix length. -/
theorem canonicalDestination_cases {T : IpText} {spec : FleetVmManagedKernelRoute} {ip : IpAddr}
    (hparse : T.parse spec.destination = some ip) (h : canonicalDestination T spec = true) :
    (∃ n, ip = v4 n ∧ 8 ≤ spec.prefixLength.toNat ∧ spec.prefixLength.toNat ≤ 32 ∧ n ≠ 0 ∧ n >>> 28 ≠ 14 ∧
        n >>> 24 ≠ 127 ∧ Canonical n spec.prefixLength.toNat) ∨
      ∃ n, ip = v6 n ∧ 16 ≤ spec.prefixLength.toNat ∧ spec.prefixLength.toNat ≤ 128 ∧ n ≠ 0 ∧
        n >>> 120 ≠ 255 ∧ n ≠ 1 ∧ Canonical n spec.prefixLength.toNat := by
  rw [canonicalDestination, hparse] at h
  simp only [Bool.and_eq_true] at h
  obtain ⟨-, h⟩ := h
  split at h
  case h_1 n _ =>
    simp only [IpAddr.isUnspecified, IpAddr.isMulticast, IpAddr.isLoopback, Bool.and_eq_true,
      decide_eq_true_eq, Bool.not_eq_true', decide_eq_false_iff_not, UInt32.le_iff_toNat_le] at h
    obtain ⟨⟨⟨⟨⟨⟨hlow, hhigh⟩, hzero⟩, -⟩, hmulti⟩, hloop⟩, hhost⟩ := h
    simp at hlow hhigh
    exact .inl ⟨n, rfl, hlow, hhigh, hzero, hmulti, hloop, (canonical_iff_low_mask (by omega)).mp hhost⟩
  case h_2 n _ =>
    simp only [IpAddr.isUnspecified, IpAddr.isMulticast, IpAddr.isLoopback, Bool.and_eq_true,
      decide_eq_true_eq, Bool.not_eq_true', decide_eq_false_iff_not, UInt32.le_iff_toNat_le] at h
    obtain ⟨⟨⟨⟨⟨hlow, hhigh⟩, hzero⟩, hmulti⟩, hloop⟩, hhost⟩ := h
    simp at hlow hhigh
    exact .inr ⟨n, rfl, hlow, hhigh, hzero, hmulti, hloop, (canonical_iff_low_mask (by omega)).mp hhost⟩
  case h_3 => cases h

/-- The addresses of the block around a base, in its family. -/
inductive InDestination (p : Nat) : IpAddr → IpAddr → Prop
  | v4 {base n} : InBlock base p n → InDestination p (.v4 base) (.v4 n)
  | v6 {base n} : InBlock base p n → InDestination p (.v6 base) (.v6 n)

/-- The subtractions and the shift of a host mask stay in their type. -/
def MaskExact (w p : Nat) : Prop := p ≤ w ∧ w - p < w ∧ ((1#w <<< (w - p)) - 1).toNat = 2 ^ (w - p) - 1

/-- The host bits are zero, and the mask that tests them is computed exactly. -/
def HostBitsClear (p : Nat) : IpAddr → Prop
  | .v4 n => MaskExact 32 p ∧ Canonical n p
  | .v6 n => MaskExact 128 p ∧ Canonical n p

/-- The limited broadcast address. -/
def broadcast : IpAddr := .v4 (BitVec.allOnes 32)

theorem clear_of_v4 {p : Nat} {base n : BitVec 32} (hlow : 8 ≤ p) (hhigh : p ≤ 32) (hbase : base ≠ 0)
    (hmulti : base >>> 28 ≠ 14) (hloop : base >>> 24 ≠ 127) (hc : Canonical base p) (hn : InBlock base p n) :
    n ≠ 0 ∧ n >>> 24 ≠ 127 ∧ n >>> 28 ≠ 14 := by
  have h24 : n >>> 24 = base >>> 24 := hn.widen hlow hhigh
  have h28 : n >>> 28 = base >>> 28 := hn.widen (q := 4) (by omega) hhigh
  refine ⟨?_, h24 ▸ hloop, h28 ▸ hmulti⟩
  rintro rfl
  exact hbase (by simpa using (hc.eq hn).symm)

/-- `::1` lies in the blocks around `::` and in its own. -/
theorem clear_of_v6 {p : Nat} {base n : BitVec 128} (hlow : 16 ≤ p) (hhigh : p ≤ 128) (hbase : base ≠ 0)
    (hmulti : base >>> 120 ≠ 255) (hloop : base ≠ 1) (hc : Canonical base p) (hn : InBlock base p n) :
    n ≠ 0 ∧ n ≠ 1 ∧ n >>> 120 ≠ 255 := by
  have h120 : n >>> 120 = base >>> 120 := by simpa [InBlock] using hn.widen (q := 8) (by omega) hhigh
  refine ⟨?_, ?_, by rwa [h120]⟩
  · rintro rfl
    exact hbase (by simpa using (hc.eq hn).symm)
  · rintro rfl
    have hback := hc.eq hn
    by_cases hfull : 128 - p = 0
    · exact hloop (by simpa [hfull] using hback.symm)
    · have hgone : 1#128 >>> (128 - p) = 0 := by
        apply BitVec.eq_of_toNat_eq
        simp [Nat.shiftRight_eq_div_pow, hfull]
      exact hbase (by simpa [hgone] using hback.symm)

theorem destination_block_safe_iff {T : IpText} {spec : FleetVmManagedKernelRoute} {ip : IpAddr}
    (hparse : T.parse spec.destination = some ip) (h : canonicalDestination T spec = true) :
    HostBitsClear spec.prefixLength.toNat ip ∧
      (∀ a, InDestination spec.prefixLength.toNat ip a →
        IpAddr.isUnspecified a = false ∧ IpAddr.isLoopback a = false ∧ IpAddr.isMulticast a = false) ∧
      (¬ InDestination spec.prefixLength.toNat ip broadcast ↔
        ip ≠ .v4 (BitVec.allOnes 32 <<< (32 - spec.prefixLength.toNat))) := by
  obtain ⟨base, rfl, hlow, hhigh, hbase, hmulti, hloop, hc⟩
    | ⟨base, rfl, hlow, hhigh, hbase, hmulti, hloop, hc⟩ :=
    canonicalDestination_cases hparse h
  · refine ⟨⟨⟨hhigh, by omega, toNat_low_mask (by omega)⟩, hc⟩, ?_, ?_⟩
    · rintro _ (hn | _)
      simpa [IpAddr.isUnspecified, IpAddr.isLoopback, IpAddr.isMulticast] using
        clear_of_v4 hlow hhigh hbase hmulti hloop hc hn
    · have hmask := hc.masked_iff (x := BitVec.allOnes 32)
      rw [BitVec.allOnes_and, eq_comm] at hmask
      rw [not_iff_not, IpAddr.v4.injEq, hmask]
      refine ⟨fun hn => ?_, .v4⟩
      cases hn with
      | v4 hn => exact hn
  · refine ⟨⟨⟨hhigh, by omega, toNat_low_mask (by omega)⟩, hc⟩, ?_, ?_⟩
    · rintro _ (_ | hn)
      simpa [IpAddr.isUnspecified, IpAddr.isLoopback, IpAddr.isMulticast] using
        clear_of_v6 hlow hhigh hbase hmulti hloop hc hn
    · simp [broadcast]
      rintro ⟨⟩

namespace RouteSample

def route (destination : String) (prefixLength : UInt32) : FleetVmManagedKernelRoute :=
  { schemaVersion := 1, machineId := "vm", resourceName := "sb-vm-x",
    family := toI32 FleetVmIpFamily.v4, destination, prefixLength, interfaceName := "sblab0",
    tableId := 20000 }

/-- One address and its text. -/
def address (text : String) (n : BitVec 32) : IpText where
  parse t := if t = text then some (.v4 n) else none
  display _ := text

end RouteSample

open RouteSample in
theorem private_route_block_safe :
    canonicalDestination (address "10.9.0.0" 0x0a090000) (route "10.9.0.0" 16) = true ∧
      ¬ InDestination 16 (.v4 0x0a090000) broadcast := by
  have haccepted : canonicalDestination (address "10.9.0.0" 0x0a090000) (route "10.9.0.0" 16) = true := by
    decide
  exact ⟨haccepted, (destination_block_safe_iff (by decide) haccepted).2.2.mpr (by decide)⟩

open RouteSample in
/-- Only the base is compared with the broadcast address: the last `/8` is accepted, and holds it. -/
theorem last_block_holds_broadcast :
    canonicalDestination (address "255.0.0.0" 0xff000000) (route "255.0.0.0" 8) = true ∧
      InDestination 8 (.v4 0xff000000) broadcast :=
  ⟨by decide, .v4 (by decide)⟩

def managedInterfaceName (name : String) : Bool :=
  startsWith name "sb" && 3 ≤ (utf8 name).length && (utf8 name).length ≤ 15 &&
    (utf8 name).all fun b => isLowerOrDigit b || isHyphen b

/-- The route belongs to its path and the host. -/
def canonicalScope (T : IpText) (host : FleetHost) (path : String)
    (spec : FleetVmManagedKernelRoute) : Bool :=
  match pathSuffix path "managed/host-route-" with
  | none => false
  | some suffix =>
    routeSuffix suffix && spec.schemaVersion = 1 && host.kind = toI32 FleetHostKind.vm &&
      spec.machineId = host.machineId && nameMatches host.machineId suffix spec.resourceName &&
      20000 ≤ spec.tableId && spec.tableId ≤ 20999 && managedInterfaceName spec.interfaceName &&
      !endsWith spec.interfaceName "-" && canonicalDestination T spec

/-- A canonical route manifest of the host. -/
def decodeRoute (D : ManifestDecoders) (T : IpText) (host : FleetHost) (path : String) (raw : Bytes) :
    Except String FleetVmManagedKernelRoute := do
  rejectIf (raw = [] ∨ raw.length > 2048) "HOST_VM_MANAGED_ROUTE_PROTOBUF_SIZE_INVALID"
  let spec ← okOr (D.route raw) "HOST_VM_MANAGED_ROUTE_PROTOBUF_INVALID"
  rejectIf (spec.encodeToVec ≠ raw ∨ canonicalScope T host path spec = false)
    "HOST_VM_MANAGED_ROUTE_SCOPE_OR_CANONICAL_INVALID"
  pure spec

/-! ## Resolvers -/

/-- The servers of a link in strictly increasing order, each a canonical address. -/
def checkNameServers (T : IpText) : (previous : Option String) → List String → Except String Unit
  | _, [] => .ok ()
  | previous, addr :: rest => do
      let ip ← okOr (T.parse addr) "HOST_VM_DNS_SERVER_INVALID"
      rejectIf (T.display ip ≠ addr ∨ IpAddr.isLoopback ip = true ∨ IpAddr.isUnspecified ip = true ∨
        IpAddr.isMulticast ip = true ∨ ∃ p ∈ previous, ¬ strLt p addr) "HOST_VM_DNS_SERVER_NONCANONICAL"
      checkNameServers T (some addr) rest

/-- A canonical resolver manifest of the host. -/
def decodeDnsScope (D : ManifestDecoders) (T : IpText) (host : FleetHost) (path : String) (raw : Bytes) :
    Except String FleetVmManagedSystemDns := do
  let suffix ← okOr (pathSuffix path "managed/host-dns-") "HOST_VM_DNS_MANIFEST_PATH_INVALID"
  rejectIf (plainSuffix suffix = false ∨ raw = [] ∨ raw.length > 2048) "HOST_VM_DNS_MANIFEST_BOUNDS_INVALID"
  let spec ← okOr (D.dns raw) "HOST_VM_DNS_PROTOBUF_INVALID"
  rejectIf (spec.encodeToVec ≠ raw ∨ spec.schemaVersion ≠ 1 ∨ host.kind ≠ toI32 FleetHostKind.vm ∨
    plainMachineId host.machineId = false ∨ spec.machineId ≠ host.machineId ∨
    nameMatches host.machineId suffix spec.resourceName = false ∨
    managedInterfaceName spec.interfaceName = false ∨
    spec.routingDomain ≠ "~" ++ suffix ++ ".singbox.internal" ∨ spec.nameServers = [] ∨
    spec.nameServers.length > 4)
    "HOST_VM_DNS_SCOPE_OR_CONTROL_PATH_UNPROVEN"
  checkNameServers T none spec.nameServers
  pure spec

/-! ## Firewalls -/

/-- A rule as the decoder orders and renders it: transport, port, action. -/
abbrev RuleKey := Int32 × UInt16 × Int32

def FleetVmFirewallRule.canonical (rule : FleetVmFirewallRule) : Option RuleKey :=
  if (rule.transport = toI32 FleetVmFirewallTransport.tcp ∨
      rule.transport = toI32 FleetVmFirewallTransport.udp) ∧ 1025 ≤ rule.destinationPort ∧
      rule.destinationPort ≤ 65535 ∧
      (rule.action = toI32 FleetVmFirewallAction.allow ∨ rule.action = toI32 FleetVmFirewallAction.deny)
  then some (rule.transport, rule.destinationPort.toUInt16, rule.action)
  else none

/-- The order of tuples. -/
def ruleLt (a b : RuleKey) : Prop :=
  a.1 < b.1 ∨ (a.1 = b.1 ∧ (a.2.1 < b.2.1 ∨ (a.2.1 = b.2.1 ∧ a.2.2 < b.2.2)))

instance : DecidableRel ruleLt := fun a b => by unfold ruleLt; infer_instance

/-- Consecutive rules increase, and never differ in their action only. -/
def ruleBefore (a b : RuleKey) : Prop := ruleLt a b ∧ (a.1, a.2.1) ≠ (b.1, b.2.1)

instance : DecidableRel ruleBefore := fun a b => by unfold ruleBefore; infer_instance

/-- The rules, if they are in order. -/
def canonicalRules (spec : FleetVmManagedFirewall) : Option (List RuleKey) :=
  if spec.ingressRules = [] ∨ spec.ingressRules.length > 16 then none
  else
    match spec.ingressRules.mapM FleetVmFirewallRule.canonical with
    | none => none
    | some ordered => if ordered.IsChain ruleBefore then some ordered else none

/-- A canonical firewall manifest of the host. -/
def decodeFirewallScope (D : ManifestDecoders) (host : FleetHost) (path : String) (raw : Bytes) :
    Except String FleetVmManagedFirewall := do
  let suffix ← okOr (pathSuffix path "managed/host-firewall-") "HOST_VM_FIREWALL_MANIFEST_PATH_INVALID"
  rejectIf (plainSuffix suffix = false) "HOST_VM_FIREWALL_TABLE_NAME_INVALID"
  rejectIf (raw = [] ∨ raw.length > 2048) "HOST_VM_FIREWALL_MANIFEST_SIZE_INVALID"
  let spec ← okOr (D.firewall raw) "HOST_VM_FIREWALL_MANIFEST_DECODE_INVALID"
  rejectIf (plainMachineId host.machineId = false ∨ spec.encodeToVec ≠ raw ∨ spec.schemaVersion ≠ 1 ∨
    host.kind ≠ toI32 FleetHostKind.vm ∨ spec.machineId ≠ host.machineId ∨
    nameMatches host.machineId suffix spec.resourceName = false ∨ (canonicalRules spec).isNone = true)
    "HOST_VM_FIREWALL_MANIFEST_SCOPE_INVALID"
  pure spec

end EdgePlatform.Agent
