import EdgePlatform.Host.Admin

/-!
# `EdgePlatform.Windows.Routing` — the desired routing of a Windows host and its runtime state

The part of the desired state that decides how the Windows host routes its traffic (`windows_routing.rs`),
and the runtime state with the addresses and the credentials of the two tunnels
(`validate_windows_runtime_state`). Paths are compared by Unicode lower case and addresses are parsed by the
standard library; both come in as a `Library`, except for IPv4 addresses, whose parser is small and matters
for the rendered text.
-/

namespace EdgePlatform.Windows

open Foundation Foundation.Wire Host

/-- What the standard library does with texts. -/
structure Library where
  /-- `str::to_lowercase`. -/
  toLowercase : String → String
  /-- An IPv6 address in the text, as it is displayed. -/
  parseIpv6 : String → Option String

/-! ## The desired state -/

inductive WindowsApplicationScope
  | unspecified | allApplications | selectedApplications
deriving DecidableEq

inductive WindowsDefaultRoute
  | unspecified | autoDirect | hysteria2Direct | vlessRealityDirect | autoWarp | hysteria2Warp
  | vlessRealityWarp
deriving DecidableEq

instance : ProtoEnum WindowsApplicationScope where
  all := [.unspecified, .allApplications, .selectedApplications]
  code := WindowsApplicationScope.ctorIdx

instance : ProtoEnum WindowsDefaultRoute where
  all := [.unspecified, .autoDirect, .hysteria2Direct, .vlessRealityDirect, .autoWarp, .hysteria2Warp,
    .vlessRealityWarp]
  code := WindowsDefaultRoute.ctorIdx

structure WindowsApplicationRoute where
  executablePath : String
  route : Int32
deriving DecidableEq

structure WindowsApplicationRouting where
  scope : Int32
  applications : List WindowsApplicationRoute
deriving DecidableEq

structure ProductionWindowsRoutePolicy where
  desktop : Int32
  wsl : Int32
deriving DecidableEq

/-- The desired state with what the Windows renderer reads of it. -/
structure WindowsDesiredState extends ProductionDesiredState where
  windowsRoutePolicy : Option ProductionWindowsRoutePolicy
  windowsApplicationRouting : Option WindowsApplicationRouting
  /-- `application.line1.reality_server_name`, if there is an application with a line 1. -/
  realityServerName : Option String
deriving DecidableEq

def WindowsDefaultRoute.tag : WindowsDefaultRoute → Except String String
  | .unspecified => .error "Windows default route must be explicit"
  | .autoDirect => .ok "auto-direct-tunnel"
  | .hysteria2Direct => .ok "hysteria2-direct"
  | .vlessRealityDirect => .ok "vless-reality-direct"
  | .autoWarp => .ok "auto-warp-tunnel"
  | .hysteria2Warp => .ok "hysteria2-warp"
  | .vlessRealityWarp => .ok "vless-reality-warp"

/-- The outbound of a route. -/
def productionWindowsRouteTag (value : Int32) : Except String String := do
  let route ← okOr (tryFrom WindowsDefaultRoute value) s!"unknown Windows default route enum value {value}"
  route.tag

/-! ## `windows_routing::validate` -/

namespace WindowsRouting

/-- The name the foreign WARP service is bypassed by. -/
def foreignWarpServiceBasename : String := "warp-svc.exe"

/-- `str::eq_ignore_ascii_case`. -/
def eqIgnoreAsciiCase (a b : List Char) : Bool := a.map Char.toLower == b.map Char.toLower

/-- The last part of a path. -/
def basename (path : String) : List Char := (HostAdmin.splitAt '\\' path.toList).getLastD []

def checkApplications (lib : Library) : List String → List WindowsApplicationRoute → Except String Unit
  | _, [] => .ok ()
  | seen, app :: rest => do
      rejectIf ((utf8 app.executablePath).length > 2048 ∨
        ¬ HostAdmin.windowsAbsolutePath app.executablePath ∨ lib.toLowercase app.executablePath ∈ seen)
        "WINDOWS_APPLICATION_PATH_INVALID_OR_DUPLICATE"
      rejectIf (eqIgnoreAsciiCase (basename app.executablePath) foreignWarpServiceBasename.toList)
        "WINDOWS_APPLICATION_FOREIGN_WARP_BYPASS_FORBIDDEN"
      rejectIf (tryFrom WindowsDefaultRoute app.route = none ∨
        tryFrom WindowsDefaultRoute app.route = some .unspecified) "WINDOWS_APPLICATION_ROUTE_INVALID"
      checkApplications lib (lib.toLowercase app.executablePath :: seen) rest

/-- At most 128 applications, and some where the scope selects them. -/
def validate (lib : Library) : Option WindowsApplicationRouting → Except String Unit
  | none => .ok ()
  | some policy => do
      let scope ← okOr (tryFrom WindowsApplicationScope policy.scope) "WINDOWS_APPLICATION_SCOPE_INVALID"
      rejectIf (¬ ((scope = .allApplications ∧ policy.applications.length ≤ 128) ∨
        (scope = .selectedApplications ∧ policy.applications ≠ [] ∧ policy.applications.length ≤ 128)))
        "WINDOWS_APPLICATION_SCOPE_INVALID"
      checkApplications lib [] policy.applications

/-- An application that may be routed. -/
structure Routable (app : WindowsApplicationRoute) : Prop where
  length : (utf8 app.executablePath).length ≤ 2048
  path : HostAdmin.windowsAbsolutePath app.executablePath = true
  notWarp : eqIgnoreAsciiCase (basename app.executablePath) foreignWarpServiceBasename.toList = false
  route : ∃ route : WindowsDefaultRoute, route ≠ .unspecified ∧
    tryFrom WindowsDefaultRoute app.route = some route

section Validate

variable {lib : Library} {seen : List String} {apps : List WindowsApplicationRoute} {u : Unit}

theorem route_iff {value : Int32} :
    ¬ (tryFrom WindowsDefaultRoute value = none ∨ tryFrom WindowsDefaultRoute value = some .unspecified) ↔
      ∃ route : WindowsDefaultRoute, route ≠ .unspecified ∧
      tryFrom WindowsDefaultRoute value = some route := by
  cases h : tryFrom WindowsDefaultRoute value with
  | none => simp
  | some route => simp

theorem checkApplications_eq_ok :
    checkApplications lib seen apps = .ok u ↔
      (∀ app ∈ apps, Routable app ∧ lib.toLowercase app.executablePath ∉ seen) ∧
        (apps.map fun app => lib.toLowercase app.executablePath).Nodup := by
  induction apps generalizing seen with
  | nil => simp [checkApplications]
  | cons app rest ih =>
    simp only [checkApplications, ok_iff, ih, not_or, List.map_cons, List.nodup_cons, List.mem_cons,
      forall_eq_or_imp, List.mem_map, not_exists, not_and, not_lt, gt_iff_lt]
    constructor
    · rintro ⟨⟨hlength, hpath, hseen⟩, hwarp, hroute, hrest, hnodup⟩
      refine ⟨⟨⟨⟨hlength, by simpa using hpath, by simpa using hwarp, route_iff.mp (not_or.mpr hroute)⟩,
        hseen⟩, fun other hother => ⟨(hrest other hother).1, (hrest other hother).2.2⟩⟩, ?_, hnodup⟩
      exact fun other hother hsame => (hrest other hother).2.1 hsame
    · rintro ⟨⟨⟨happ, hseen⟩, hrest⟩, hfresh, hnodup⟩
      refine ⟨⟨happ.length, by simp [happ.path], hseen⟩, by simp [happ.notWarp],
        not_or.mp (route_iff.mpr happ.route), fun other hother => ?_, hnodup⟩
      exact ⟨(hrest other hother).1, fun hsame => hfresh other hother hsame, (hrest other hother).2⟩

/-- What an accepted policy is. -/
structure Accepted (lib : Library) (policy : WindowsApplicationRouting) : Prop where
  scope : policy.scope = toI32 WindowsApplicationScope.allApplications ∨
    (policy.scope = toI32 WindowsApplicationScope.selectedApplications ∧ policy.applications ≠ [])
  count : policy.applications.length ≤ 128
  routable : ∀ app ∈ policy.applications, Routable app
  distinct : (policy.applications.map fun app => lib.toLowercase app.executablePath).Nodup

theorem validate_eq_ok {policy : Option WindowsApplicationRouting} :
    validate lib policy = .ok u ↔ ∀ p ∈ policy, Accepted lib p := by
  cases policy with
  | none => simp [validate]
  | some policy =>
    simp only [validate, ok_iff, not_not, checkApplications_eq_ok, Option.mem_def,
      Option.some.injEq, forall_eq', List.not_mem_nil, not_false_eq_true, and_true]
    constructor
    · rintro ⟨scope, hscope, hshape, happs, hnodup⟩
      rw [tryFrom_eq_some] at hscope
      rcases hshape with ⟨rfl, hcount⟩ | ⟨rfl, hne, hcount⟩
      · exact ⟨.inl hscope.symm, hcount, happs, hnodup⟩
      · exact ⟨.inr ⟨hscope.symm, hne⟩, hcount, happs, hnodup⟩
    · rintro ⟨hscope, hcount, happs, hnodup⟩
      rcases hscope with hscope | ⟨hscope, hne⟩
      · exact ⟨.allApplications, tryFrom_eq_some.mpr hscope.symm, .inl ⟨rfl, hcount⟩, happs, hnodup⟩
      · exact ⟨.selectedApplications, tryFrom_eq_some.mpr hscope.symm, .inr ⟨rfl, hne, hcount⟩,
          happs, hnodup⟩

end Validate

end WindowsRouting

/-! ## The runtime state -/

structure WindowsTunnelBinding where
  domain : String
  hy2Port : UInt32
  hy2Password : String
  vlessPort : UInt32
  vlessUuid : String
  realityPublicKey : String
  realityShortId : String
deriving DecidableEq

structure WindowsRuntimeState where
  schemaVersion : UInt32
  deploymentLabel : Option String
  instanceId : String
  serverIp : String
  direct : Option WindowsTunnelBinding
  warp : Option WindowsTunnelBinding
deriving DecidableEq

/-- A bounded text without control characters. -/
def validateSafeRuntimeToken (label value : String) (maxLen : Nat) : Except String Unit :=
  rejectIf (value = "" ∨ (utf8 value).length > maxLen ∨ value.toList.any HostAdmin.isControl)
      s!"{label} is invalid"

def dnsPartInvalid (part : List Char) : Bool :=
  part.isEmpty || decide (63 < part.length) || part.head? = some '-' || part.getLast? = some '-' ||
    !part.all fun c => c.isAlphanum || c = '-'

/-- A DNS name in lower case. -/
def validateRuntimeDnsName (label value : String) : Except String Unit :=
  rejectIf (value = "" ∨ (utf8 value).length > 253 ∨ value.toList ≠ value.toList.map Char.toLower ∨
    value.toList.head? = some '.' ∨ value.toList.getLast? = some '.' ∨
    (HostAdmin.splitAt '.' value.toList).any dnsPartInvalid)
    s!"{label} must be a normalized lowercase DNS name"

/-- One number of an IPv4 address: up to three digits, no leading zero, at most 255. -/
def ipv4Octet (part : List Char) : Option Nat :=
  if part.isEmpty ∨ 3 < part.length ∨ ¬ part.all Char.isDigit ∨
      (part.head? = some '0' ∧ part.length ≠ 1) then none
  else
    let n := part.foldl (fun acc c => acc * 10 + (c.toNat - 48)) 0
    if n ≤ 255 then some n else none

/-- `Ipv4Addr::from_str`. -/
def parseIpv4 (value : String) : Option (List Nat) :=
  let parts := HostAdmin.splitAt '.' value.toList
  if parts.length = 4 then parts.mapM ipv4Octet else none

theorem ipv4Octet_eq_some {part : List Char} {n : Nat} (h : ipv4Octet part = some n) :
    part.length ≤ 3 ∧ (∀ c ∈ part, c.isDigit = true) ∧ n ≤ 255 := by
  unfold ipv4Octet at h
  dsimp only at h
  split_ifs at h with hbad hrange
  cases h
  obtain ⟨-, hlength, hdigits, -⟩ :=
    not_or.mp hbad |>.imp_right not_or.mp |>.imp_right (·.imp_right not_or.mp)
  exact ⟨by omega, by simpa using hdigits, hrange⟩

/-- The parts and the separators between them make up the text. -/
theorem length_splitAt (sep : Char) (cs : List Char) :
    ((HostAdmin.splitAt sep cs).map List.length).sum + (HostAdmin.splitAt sep cs).length =
    cs.length + 1 := by
  induction cs with
  | nil => rfl
  | cons c cs ih =>
    unfold HostAdmin.splitAt
    split_ifs
    · simp only [List.map_cons, List.sum_cons, List.length_nil, List.length_cons]
      omega
    · split
      · next part parts heq =>
          rw [heq] at ih
          simp only [List.map_cons, List.sum_cons, List.length_cons] at ih ⊢
          omega
      · next heq =>
          rw [heq] at ih
          simp at ih

theorem sum_length_le {k : Nat} {parts : List (List Char)} (h : ∀ part ∈ parts, part.length ≤ k) :
    (parts.map List.length).sum ≤ k * parts.length := by
  induction parts with
  | nil => simp
  | cons part parts ih =>
    have hhead := h part (.head _)
    have htail := ih fun p hp => h p (.tail _ hp)
    simp only [List.map_cons, List.sum_cons, List.length_cons, Nat.mul_succ]
    omega

theorem mem_of_mem_splitAt {sep c : Char} {cs : List Char} (h : c ∈ cs) :
    c = sep ∨ ∃ part ∈ HostAdmin.splitAt sep cs, c ∈ part := by
  induction cs with
  | nil => cases h
  | cons d cs ih =>
    unfold HostAdmin.splitAt
    by_cases hd : d = sep
    · rw [if_pos hd]
      rcases List.mem_cons.mp h with rfl | h
      · exact .inl hd
      · obtain hsep | ⟨part, hpart, hc⟩ := ih h
        · exact .inl hsep
        · exact .inr ⟨part, .tail _ hpart, hc⟩
    · rw [if_neg hd]
      split
      · next part parts heq =>
          rcases List.mem_cons.mp h with rfl | h
          · exact .inr ⟨_, .head _, .head _⟩
          · obtain hsep | ⟨found, hfound, hc⟩ := ih h
            · exact .inl hsep
            · rw [heq] at hfound
              rcases List.mem_cons.mp hfound with rfl | hfound
              · exact .inr ⟨_, .head _, .tail _ hc⟩
              · exact .inr ⟨found, .tail _ hfound, hc⟩
      · next heq =>
          rcases List.mem_cons.mp h with rfl | h
          · exact .inr ⟨_, .head _, .head _⟩
          · obtain hsep | ⟨found, hfound, -⟩ := ih h
            · exact .inl hsep
            · rw [heq] at hfound
              cases hfound

/-- An IPv4 address is short, and so are its numbers. -/
theorem parseIpv4_eq_some {value : String} {octets : List Nat} (h : parseIpv4 value = some octets) :
    value.toList.length ≤ 15 ∧ (∀ c ∈ value.toList, c = '.' ∨ c.isDigit = true) ∧
      octets.length = 4 ∧ ∀ n ∈ octets, n ≤ 255 := by
  unfold parseIpv4 at h
  dsimp only at h
  split_ifs at h with hfour
  have hforall := mapM_eq_some.mp h
  have hlength := length_splitAt '.' value.toList
  have hparts : ∀ part ∈ HostAdmin.splitAt '.' value.toList, part.length ≤ 3 ∧
      ∀ c ∈ part, c.isDigit = true := by
    intro part hpart
    obtain ⟨n, -, hn⟩ := exists_of_forall₂_left hforall hpart
    exact ⟨(ipv4Octet_eq_some hn).1, (ipv4Octet_eq_some hn).2.1⟩
  refine ⟨?_, ?_, hforall.length_eq ▸ hfour, ?_⟩
  · have hsum := sum_length_le fun part hpart => (hparts part hpart).1
    omega
  · intro c hc
    obtain hdot | ⟨part, hpart, hmem⟩ := @mem_of_mem_splitAt '.' c _ hc
    · exact .inl hdot
    · exact .inr ((hparts part hpart).2 c hmem)
  · intro n hn
    obtain ⟨part, -, hpart⟩ := exists_of_forall₂_right hforall hn
    exact (ipv4Octet_eq_some hpart).2.2

/-- An IPv4 address. -/
def validateIpv4Literal (label value : String) : Except String Unit :=
  -- an address of the other family is refused like a text that is no address
  rejectIf (parseIpv4 value = none) s!"{label} must be an IPv4 literal"

/-- Ports, a domain and credentials. -/
def validateWindowsTunnelBinding (label : String) (value : WindowsTunnelBinding) : Except String Unit := do
  validateRuntimeDnsName s!"{label}.domain" value.domain
  rejectIf (value.hy2Port = 0 ∨ value.hy2Port > 65535) s!"{label}.hy2_port must be in 1..=65535"
  rejectIf (value.vlessPort = 0 ∨ value.vlessPort > 65535) s!"{label}.vless_port must be in 1..=65535"
  validateSafeRuntimeToken s!"{label}.hy2_password" value.hy2Password 256
  validateSafeRuntimeToken s!"{label}.vless_uuid" value.vlessUuid 128
  validateSafeRuntimeToken s!"{label}.reality_public_key" value.realityPublicKey 256
  validateSafeRuntimeToken s!"{label}.reality_short_id" value.realityShortId 64

/-- A server address and both tunnels. -/
def validateWindowsRuntimeState (state : WindowsRuntimeState) : Except String Unit := do
  rejectIf (state.schemaVersion ≠ 1)
      s!"unsupported Windows runtime-state schema_version {state.schemaVersion}"
  state.deploymentLabel.elim (pure ()) fun label =>
    validateSafeRuntimeToken "WindowsRuntimeState.deployment_label" label 160
  validateSafeRuntimeToken "WindowsRuntimeState.instance_id" state.instanceId 160
  validateIpv4Literal "WindowsRuntimeState.server_ip" state.serverIp
  let direct ← okOr state.direct "WindowsRuntimeState.direct is required"
  validateWindowsTunnelBinding "WindowsRuntimeState.direct" direct
  let warp ← okOr state.warp "WindowsRuntimeState.warp is required"
  validateWindowsTunnelBinding "WindowsRuntimeState.warp" warp

/-- The texts of a tunnel, each no longer than its bound and of printable characters. -/
structure Bounded (value : WindowsTunnelBinding) : Prop where
  domain : (utf8 value.domain).length ≤ 253
  hy2Password : (utf8 value.hy2Password).length ≤ 256
  vlessUuid : (utf8 value.vlessUuid).length ≤ 128
  realityPublicKey : (utf8 value.realityPublicKey).length ≤ 256
  realityShortId : (utf8 value.realityShortId).length ≤ 64

theorem bounded_of_validate {label : String} {value : WindowsTunnelBinding} {u : Unit}
    (h : validateWindowsTunnelBinding label value = .ok u) : Bounded value := by
  simp only [validateWindowsTunnelBinding, validateRuntimeDnsName, validateSafeRuntimeToken, ok_iff,
    not_or, not_lt, gt_iff_lt] at h
  obtain ⟨⟨-, hdomain, -⟩, -, -, ⟨-, hpassword, -⟩, ⟨-, huuid, -⟩, ⟨-, hkey, -⟩, ⟨-, hid, -⟩⟩ := h
  exact ⟨hdomain, hpassword, huuid, hkey, hid⟩

/-- What the renderer relies on of an accepted runtime state. -/
structure Rendered (state : WindowsRuntimeState) (direct warp : WindowsTunnelBinding)
    (octets : List Nat) : Prop where
  hasDirect : state.direct = some direct
  hasWarp : state.warp = some warp
  serverIp : parseIpv4 state.serverIp = some octets
  directBounded : Bounded direct
  warpBounded : Bounded warp

theorem rendered_of_validate {state : WindowsRuntimeState} {u : Unit}
    (h : validateWindowsRuntimeState state = .ok u) :
    ∃ direct warp octets, Rendered state direct warp octets := by
  simp only [validateWindowsRuntimeState, validateIpv4Literal, ok_iff] at h
  obtain ⟨-, -, -, hip, direct, hdirect, hdirectOk, warp, hwarp, hwarpOk⟩ := h
  obtain ⟨octets, hoctets⟩ := Option.ne_none_iff_exists'.mp hip
  exact ⟨direct, warp, octets, hdirect, hwarp, hoctets, bounded_of_validate hdirectOk,
    bounded_of_validate hwarpOk⟩

end EdgePlatform.Windows
