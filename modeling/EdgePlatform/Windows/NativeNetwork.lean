import EdgePlatform.Foundation.Proc
import EdgePlatform.Foundation.Text

/-!
# `EdgePlatform.Windows.NativeNetwork` — the native network before and under a managed TUN

`windows_native_network.rs`: the network of a host is its lists of routes, addresses, resolvers and foreign
WARP adapters, each row with the LUID of its interface. A started TUN is accepted if both address families
are routed through its interface and nothing else of the network changed; the comparison is one of lists,
after the rows of the TUN are left out.

`capture_sound` says what that is worth: the network before had no row of the TUN's LUID, the network after
is the one before with rows of that LUID added, and every IPv4 and IPv6 address is covered by a route of that
LUID.
-/

namespace EdgePlatform.Windows

open Foundation

/-- A row of the routing table. -/
structure RouteIdentity where
  interfaceLuid : UInt64
  family : UInt16
  prefixBytes : Bytes
  prefixLength : UInt8
  nextHop : Bytes
  metric : UInt32
  protocol : Int32
  origin : Int32
  sitePrefixLength : UInt8
  loopback : Bool
  published : Bool
deriving DecidableEq

/-- A DNS server of an interface. -/
structure DnsIdentity where
  interfaceLuid : UInt64
  order : UInt32
  family : UInt16
  server : Bytes
deriving DecidableEq

/-- An address of an interface. -/
structure UnicastAddressIdentity where
  interfaceLuid : UInt64
  family : UInt16
  address : Bytes
  prefixLength : UInt8
deriving DecidableEq

/-- An adapter. -/
structure ManagedAdapterIdentity where
  adapterAlias : String
  interfaceLuid : UInt64
  operStatus : Int32
deriving DecidableEq

/-- What is compared before and after. -/
structure NativeNetworkIdentity where
  routes : List RouteIdentity
  addresses : List UnicastAddressIdentity
  dns : List DnsIdentity
  foreignWarpAdapters : List ManagedAdapterIdentity
deriving DecidableEq

/-- The network while the TUN is up. -/
structure ManagedTunNetworkObservation where
  network : NativeNetworkIdentity
  ownedTun : ManagedAdapterIdentity

def afInet : UInt16 := 2

def afInet6 : UInt16 := 23

/-- A default route through the interface, or one for each half of the addresses. -/
def captured (routes : List RouteIdentity) (luid : UInt64) (family : UInt16) (bytes : Nat) : Bool :=
  let owned (start : Bytes) (length : UInt8) : Bool := routes.any fun route =>
    route.interfaceLuid = luid ∧ route.family = family ∧ route.prefixLength = length ∧
      route.prefixBytes = start
  owned (.replicate bytes 0) 0 ||
    (owned (.replicate bytes 0) 1 && owned ((List.replicate bytes 0).set 0 128) 1)

/-- Routes of the interface cover the family. -/
def nativeDefaultCapturePresent (routes : List RouteIdentity) (luid : UInt64) (family : UInt16) : Bool :=
  if family = afInet then captured routes luid family 4
  else if family = afInet6 then captured routes luid family 16 else false

namespace NativeNetworkIdentity

/-- Nothing has changed. -/
def requireRestored (before after : NativeNetworkIdentity) : Except String Unit := do
  rejectIf (before.routes ≠ after.routes) "HOST_WINDOWS_NETWORK_ROUTES_NOT_RESTORED"
  rejectIf (before.addresses ≠ after.addresses) "HOST_WINDOWS_NETWORK_ADDRESSES_NOT_RESTORED"
  rejectIf (before.dns ≠ after.dns) "HOST_WINDOWS_NETWORK_DNS_NOT_RESTORED"
  rejectIf (before.foreignWarpAdapters ≠ after.foreignWarpAdapters)
    "HOST_WINDOWS_NETWORK_CLOUDFLARE_ONE_CHANGED"

/-- The one foreign adapter is up. -/
def requireForeignWarpUp (network : NativeNetworkIdentity) : Except String Unit :=
  rejectIf (network.foreignWarpAdapters.map (·.operStatus) ≠ [1])
    "HOST_WINDOWS_CLOUDFLARE_ONE_NATIVE_IDENTITY_UNPROVEN"

/-- The rows of other interfaces. -/
def preserved (network : NativeNetworkIdentity) (luid : UInt64) : NativeNetworkIdentity where
  routes := network.routes.filter (·.interfaceLuid ≠ luid)
  addresses := network.addresses.filter (·.interfaceLuid ≠ luid)
  dns := network.dns.filter (·.interfaceLuid ≠ luid)
  foreignWarpAdapters := network.foreignWarpAdapters

end NativeNetworkIdentity

namespace ManagedTunNetworkObservation

def requireFamily (o : ManagedTunNetworkObservation) (family : UInt16) (reason : String) :
    Except String Unit :=
  rejectIf ((¬ ∃ a ∈ o.network.addresses, a.interfaceLuid = o.ownedTun.interfaceLuid ∧ a.family = family) ∨
    nativeDefaultCapturePresent o.network.routes o.ownedTun.interfaceLuid family = false) reason

/-- The TUN is up and covers both families. -/
def requireNativeDualStackRouteCapture (o : ManagedTunNetworkObservation) : Except String Unit := do
  rejectIf (o.ownedTun.interfaceLuid = 0 ∨
      (∃ warp ∈ o.network.foreignWarpAdapters, warp.interfaceLuid = o.ownedTun.interfaceLuid) ∨
      o.ownedTun.operStatus ≠ 1) "HOST_WINDOWS_MANAGED_TUN_NATIVE_OWNER_INVALID"
  o.requireFamily afInet "HOST_WINDOWS_MANAGED_TUN_IPV4_ROUTE_UNPROVEN"
  o.requireFamily afInet6 "HOST_WINDOWS_MANAGED_TUN_IPV6_ROUTE_UNPROVEN"

/-- And whatever is not of the TUN has not changed. -/
def requireForeignNetworkPreserved (o : ManagedTunNetworkObservation) (before : NativeNetworkIdentity) :
    Except String Unit := do
  o.requireNativeDualStackRouteCapture
  o.network.requireForeignWarpUp
  before.requireRestored (o.network.preserved o.ownedTun.interfaceLuid)

end ManagedTunNetworkObservation

/-! ## What the comparison says -/

/-- The rows after are the rows before, which have none of the interface, with rows of the interface
added. -/
structure Grown {α : Type} (luidOf : α → UInt64) (luid : UInt64) (before after : List α) : Prop where
  absent : ∀ row ∈ before, luidOf row ≠ luid
  kept : before.Sublist after
  added : ∃ rows, (∀ row ∈ rows, luidOf row = luid) ∧ after.Perm (before ++ rows)

theorem grown_of_filter {α : Type} {luidOf : α → UInt64} {luid : UInt64} {before after : List α}
    (h : before = after.filter fun row => luidOf row ≠ luid) : Grown luidOf luid before after := by
  subst h
  refine ⟨fun row hrow => by simpa using (List.mem_filter.mp hrow).2, List.filter_sublist,
    after.filter (fun row => luidOf row = luid), fun row hrow => by
    simpa using (List.mem_filter.mp hrow).2, ?_⟩
  have hsplit := List.filter_append_perm (fun row => decide (luidOf row ≠ luid)) after
  simpa using hsplit.symm

/-! ## What the capture covers -/

/-- The bits of an address, the highest of each byte first. -/
def bits (address : Bytes) : List Bool :=
  address.flatMap fun b => (List.range 8).map fun i => b.toNat.testBit (7 - i)

/-- The address begins with the bits of the route. -/
def RouteIdentity.Covers (route : RouteIdentity) (address : Bytes) : Prop :=
  (bits address).take route.prefixLength.toNat = (bits route.prefixBytes).take route.prefixLength.toNat

/-- **A capture covers every address**: its first bit is the one or the other. -/
theorem covers_of_captured {routes : List RouteIdentity} {luid : UInt64} {family : UInt16} {address : Bytes}
    (hne : 0 < address.length) (h : captured routes luid family address.length = true) :
    ∃ route ∈ routes, route.interfaceLuid = luid ∧ route.family = family ∧ route.Covers address := by
  simp only [captured, Bool.or_eq_true, Bool.and_eq_true, List.any_eq_true, decide_eq_true_eq] at h
  obtain ⟨route, hroute, hluid, hfamily, hlength, -⟩
    | ⟨⟨low, hlow, hlowLuid, hlowFamily, hlowLength, hlowStart⟩, high, hhigh, hhighLuid, hhighFamily,
      hhighLength, hhighStart⟩ := h
  · refine ⟨route, hroute, hluid, hfamily, ?_⟩
    rw [RouteIdentity.Covers, hlength]
    rfl
  · obtain ⟨b, rest, rfl⟩ := List.exists_cons_of_length_pos hne
    cases hbit : b.toNat.testBit 7 with
    | false =>
      refine ⟨low, hlow, hlowLuid, hlowFamily, ?_⟩
      rw [RouteIdentity.Covers, hlowLength, hlowStart]
      exact congrArg (fun x => [x]) hbit
    | true =>
      refine ⟨high, hhigh, hhighLuid, hhighFamily, ?_⟩
      rw [RouteIdentity.Covers, hhighLength, hhighStart]
      exact congrArg (fun x => [x]) hbit

/-- **TUN capture is sound.** -/
theorem capture_sound {o : ManagedTunNetworkObservation} {before : NativeNetworkIdentity}
    (h : o.requireForeignNetworkPreserved before = .ok ()) :
    Grown (·.interfaceLuid) o.ownedTun.interfaceLuid before.routes o.network.routes ∧
      Grown (·.interfaceLuid) o.ownedTun.interfaceLuid before.addresses o.network.addresses ∧
      Grown (·.interfaceLuid) o.ownedTun.interfaceLuid before.dns o.network.dns ∧
      Grown (·.interfaceLuid) o.ownedTun.interfaceLuid before.foreignWarpAdapters
      o.network.foreignWarpAdapters ∧ ∀ address : Bytes, ∀ family, (family = afInet ∧ address.length = 4) ∨
        (family = afInet6 ∧ address.length = 16) → ∃ route ∈ o.network.routes,
          route.interfaceLuid = o.ownedTun.interfaceLuid ∧ route.family = family ∧ route.Covers address := by
  simp only [ManagedTunNetworkObservation.requireForeignNetworkPreserved,
    NativeNetworkIdentity.requireRestored, ManagedTunNetworkObservation.requireNativeDualStackRouteCapture,
    ManagedTunNetworkObservation.requireFamily, ok_iff, not_or, not_not, ne_eq, Bool.not_eq_false] at h
  obtain ⟨⟨⟨-, hwarp, -⟩, ⟨-, h4⟩, -, h6⟩, -, hroutes, haddresses, hdns, hadapters⟩ := h
  refine ⟨grown_of_filter hroutes, grown_of_filter haddresses, grown_of_filter hdns, grown_of_filter ?_, ?_⟩
  · rw [hadapters]
    refine (List.filter_eq_self.mpr fun adapter hadapter => ?_).symm
    exact decide_eq_true fun hluid => hwarp ⟨adapter, hadapter, hluid⟩
  · rintro address family (⟨rfl, hlen⟩ | ⟨rfl, hlen⟩)
    · exact covers_of_captured (by omega) (hlen ▸ h4)
    · exact covers_of_captured (by omega) (hlen ▸ h6)

def sampleWarp : ManagedAdapterIdentity := ⟨"CloudflareWARP", 7, 1⟩

def sampleRoute (family : UInt16) (size : Nat) : RouteIdentity :=
  ⟨9, family, .replicate size 0, 0, .replicate size 0, 1, 3, 0, 0, false, false⟩

/-- A TUN with a default route for each family on a network with a WARP adapter. -/
def sampleObservation : ManagedTunNetworkObservation where
  network := ⟨[sampleRoute afInet 4, sampleRoute afInet6 16],
    [⟨9, afInet, [172, 19, 0, 1], 30⟩, ⟨9, afInet6, .replicate 16 1, 126⟩], [⟨7, 0, afInet, [1, 1, 1, 1]⟩],
    [sampleWarp]⟩
  ownedTun := ⟨"sing-box-tun", 9, 1⟩

theorem sample_captured :
    ∃ o before, ManagedTunNetworkObservation.requireForeignNetworkPreserved o before = .ok () ∧
      Grown (·.interfaceLuid) o.ownedTun.interfaceLuid before.routes o.network.routes ∧
    ∀ address : Bytes, address.length = 4 → ∃ route ∈ o.network.routes,
      route.interfaceLuid = o.ownedTun.interfaceLuid ∧ route.family = afInet ∧ route.Covers address := by
  have h : sampleObservation.requireForeignNetworkPreserved
      ⟨[], [], [⟨7, 0, afInet, [1, 1, 1, 1]⟩], [sampleWarp]⟩ = .ok () := by decide
  obtain ⟨hroutes, -, -, -, hcovered⟩ := capture_sound h
  exact ⟨_, _, h, hroutes, fun address hlen => hcovered address afInet (.inl ⟨rfl, hlen⟩)⟩

end EdgePlatform.Windows
