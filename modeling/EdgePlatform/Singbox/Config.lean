import EdgePlatform.Foundation.JsonObject
import EdgePlatform.Windows.Routing

/-!
# `EdgePlatform.Singbox.Config` — the sing-box configuration of a Windows host

The renderer of the configuration (`render_windows_config_for_desired` of `edge-singbox`) and the three
checks that read an installed configuration back: that it captures no routes, that it is the managed TUN, and
that its rules are the application routes of the desired state. The checks see the bytes only.

A configuration is a `Json` value; objects are ordered maps, and the text is the indented one.
-/

namespace EdgePlatform.Singbox

open Foundation Foundation.Wire Host Windows

def strings (values : List String) : Json := .arr (values.map .str)

/-- `get(key).and_then(Value::as_str)`. -/
def strAt (key : String) (v : Json) : Option String := (v.get key).bind Json.asStr

def arrayAt (key : String) (v : Json) : Option (List Json) := (v.get key).bind Json.asArray

def managedSelectorTag : String := "proxy-selector"
def wslSelectorTag : String := "wsl-selector"
def wslInboundTag : String := "wsl-mixed-in"
def desktopTraceInboundTag : String := "mixed-in"
def stage2DesktopProxyPort : Nat := 17891
def stage2WslProxyPort : Nat := 17892
def stage2ClashApiPort : Nat := 19091
def wslInboundBindHost : String := "0.0.0.0"
def warpServiceProcess : String := WindowsRouting.foreignWarpServiceBasename
def warpControlEndpoints : List String :=
  ["162.159.197.2/32", "162.159.197.3/32", "162.159.197.4/32", "162.159.137.105/32", "162.159.138.105/32"]
def foreignCloudflareMeshCidrs : List String := ["100.96.0.0/12"]
def loopbackCidrs : List String := ["127.0.0.0/8", "::1/128"]

/-! ## Rendering -/

def mixedInbound (tag listen : String) (port : Nat) : Json :=
  .object [("type", .str "mixed"), ("tag", .str tag), ("listen", .str listen), ("listen_port", .int port)]

def selectorEntries : Json :=
  strings ["auto-direct-tunnel", "auto-warp-tunnel", "hysteria2-direct", "vless-reality-direct",
    "hysteria2-warp", "vless-reality-warp"]

def selectorOutbound (tag route : String) : Json :=
  .object [("type", .str "selector"), ("tag", .str tag), ("outbounds", selectorEntries),
    ("default", .str route)]

def urltestOutbound (tag : String) (outbounds : List String) : Json :=
  .object [("type", .str "urltest"), ("tag", .str tag), ("outbounds", strings outbounds),
    ("url", .str "https://www.gstatic.com/generate_204"), ("interval", .str "10m")]

def hysteria2Outbound (tag server : String) (port : Nat) (password domain : String) : Json :=
  .object [("type", .str "hysteria2"), ("tag", .str tag), ("server", .str server),
    ("server_port", .int port), ("password", .str password),
    ("tls", .object [("enabled", .bool true), ("server_name", .str domain)])]

def vlessOutbound (tag server : String) (port : Nat)
    (uuid realityServerName publicKey shortId : String) : Json :=
  .object [("type", .str "vless"), ("tag", .str tag), ("server", .str server), ("server_port", .int port),
    ("uuid", .str uuid), ("flow", .str "xtls-rprx-vision"),
    ("tls", .object [("enabled", .bool true), ("server_name", .str realityServerName),
      ("utls", .object [("enabled", .bool true), ("fingerprint", .str "chrome")]),
      ("reality", .object [("enabled", .bool true), ("public_key", .str publicKey),
        ("short_id", .str shortId)])])]

def outbounds (state : WindowsRuntimeState) (direct warp : WindowsTunnelBinding)
    (desktopRoute wslRoute realityServerName : String) : List Json :=
  [selectorOutbound managedSelectorTag desktopRoute, selectorOutbound wslSelectorTag wslRoute,
    urltestOutbound "auto-direct-tunnel" ["hysteria2-direct", "vless-reality-direct"],
    urltestOutbound "auto-warp-tunnel" ["hysteria2-warp", "vless-reality-warp"],
    hysteria2Outbound "hysteria2-direct" state.serverIp direct.hy2Port.toNat direct.hy2Password
    direct.domain, vlessOutbound "vless-reality-direct" state.serverIp direct.vlessPort.toNat
      direct.vlessUuid realityServerName
      direct.realityPublicKey direct.realityShortId,
    hysteria2Outbound "hysteria2-warp" state.serverIp warp.hy2Port.toNat warp.hy2Password warp.domain,
    vlessOutbound "vless-reality-warp" state.serverIp warp.vlessPort.toNat warp.vlessUuid realityServerName
      warp.realityPublicKey warp.realityShortId,
    .object [("type", .str "direct"), ("tag", .str "direct")]]

def logSection : Json := .object [("level", .str "info"), ("timestamp", .bool true)]

def experimentalSection : Json :=
  .object [("clash_api", .object [("external_controller", .str s!"127.0.0.1:{stage2ClashApiPort}")])]

def desktopInbound : Json := mixedInbound desktopTraceInboundTag "127.0.0.1" stage2DesktopProxyPort

def wslInbound : Json := mixedInbound wslInboundTag wslInboundBindHost stage2WslProxyPort

/-- A rule that sends what enters by the inbound to the outbound. -/
def inboundRule (inbound outbound : String) : Json :=
  .object [("inbound", strings [inbound]), ("outbound", .str outbound)]

def selectorRules : List Json :=
  [inboundRule desktopTraceInboundTag managedSelectorTag, inboundRule wslInboundTag wslSelectorTag]

/-- The configuration without route capture. -/
def proxyConfig (outbounds : List Json) : Json :=
  .object [("log", logSection), ("inbounds", .arr [desktopInbound, wslInbound]),
    ("outbounds", .arr outbounds),
      ("route", .object [("rules", .arr selectorRules), ("final", .str managedSelectorTag),
        ("auto_detect_interface", .bool true)]),
    ("experimental", experimentalSection)]

def tunAddress : Json := strings ["172.19.0.1/30", "fdfe:dcba:9876::1/126"]

def tunInbound : Json :=
  .object [("type", .str "tun"), ("tag", .str "managed-tun-in"), ("interface_name", .str "sing-box-tun"),
    ("address", tunAddress), ("auto_route", .bool true), ("strict_route", .bool true),
    ("dns_mode", .str "hijack")]

def managedDns : Json :=
  .object [("servers",
      .arr [.object [("type", .str "tls"), ("tag", .str "managed-dns"), ("server", .str "1.1.1.1"),
        ("server_port", .int 853),
      ("tls", .object [("enabled", .bool true), ("server_name", .str "cloudflare-dns.com")]),
      ("detour", .str managedSelectorTag)]]),
    ("final", .str "managed-dns"), ("strategy", .str "prefer_ipv4")]

def isTun (inbound : Json) : Bool := strAt "type" inbound == some "tun"

/-- The address as displayed, with the length that makes it one host. -/
def controlCidr (lib : Library) (ip : String) : Option String :=
  match parseIpv4 ip with
  | some octets => some (".".intercalate (octets.map toString) ++ "/32")
  | none => (lib.parseIpv6 ip).map (· ++ "/128")

/-- The required addresses that are not among the excluded ones are added at the end. -/
def addMissing (required : List String) (excludes : List Json) : List Json :=
  required.foldl (fun acc cidr => if acc.any (fun v => v.asStr == some cidr) then acc
    else acc ++ [.str cidr]) excludes

def excludeRoutes (required : List String) (inbound : Json) : Json :=
  if isTun inbound then
    inbound.set "route_exclude_address"
      (.arr (addMissing required ((arrayAt "route_exclude_address" inbound).getD [])))
  else inbound

/-- The TUN leaves the control routes out. -/
def syncTunRouteExcludes (lib : Library) (config : Json) (serverIp : Option String) : Except String Json :=
  match arrayAt "inbounds" config with
  | none => .ok config
  | some inbounds =>
    if inbounds.any isTun then do
      let ip ← okOr serverIp "WINDOWS_MANAGED_TUN_CONTROL_IP_MISSING"
      let cidr ← okOr (controlCidr lib ip) "WINDOWS_MANAGED_TUN_CONTROL_IP_INVALID"
      pure (config.set "inbounds"
        (.arr (inbounds.map (excludeRoutes (warpControlEndpoints ++ foreignCloudflareMeshCidrs ++ [cidr])))))
    else .ok config

/-- The WARP service goes direct. -/
def isWarpServiceBypass (rule : Json) : Bool :=
  strAt "outbound" rule == some "direct" &&
    ((arrayAt "process_name" rule).any fun names => names.any fun name =>
      name.asStr == some warpServiceProcess)

/-- Loopback goes direct. -/
def isLoopbackBypass (rule : Json) : Bool :=
  strAt "outbound" rule == some "direct" &&
    ((arrayAt "ip_cidr" rule).any fun cidrs =>
      loopbackCidrs.all fun expected => cidrs.any fun cidr => cidr.asStr == some expected)

/-- A process goes direct. -/
def directProcessRule (processName : String) : Json :=
  .object [("process_name", strings [processName]), ("outbound", .str "direct")]

/-- Addresses go direct. -/
def directCidrRule (cidrs : List String) : Json :=
  .object [("ip_cidr", strings cidrs), ("outbound", .str "direct")]

/-- The two bypasses come first, each once. -/
def withBypasses (rules : List Json) : List Json :=
  directProcessRule warpServiceProcess :: directCidrRule loopbackCidrs ::
    rules.filter fun rule => !isWarpServiceBypass rule && !isLoopbackBypass rule

/-- The bypasses come first. -/
def syncStableBypassRules (config : Json) : Json :=
  config.update "route" fun route => route.update "rules" fun rules =>
    match rules with
    | .arr rules => .arr (withBypasses rules)
    | v => v

/-- The policy, if it selects applications. -/
def selectedPolicy (desired : WindowsDesiredState) : Option WindowsApplicationRouting :=
  desired.windowsApplicationRouting.filter fun policy =>
    policy.scope = toI32 WindowsApplicationScope.selectedApplications

def processRule (path outbound : String) : Json :=
  .object [("inbound", strings ["managed-tun-in"]), ("process_path", strings [path]),
    ("outbound", .str outbound)]

def applicationRule (app : WindowsApplicationRoute) : Except String Json := do
  let outbound ← productionWindowsRouteTag app.route
  pure (processRule app.executablePath outbound)

/-- What of the managed TUN no selected application takes. -/
def fallbackRule : Json := inboundRule "managed-tun-in" "direct"

def addApplicationRules (config : Json) : Option WindowsApplicationRouting → Except String Json
  | none => pure config
  | some policy => do
      let rules ← okOr ((config.get "route").bind (arrayAt "rules")) "WINDOWS_ROUTE_RULES_INVALID"
      let added ← policy.applications.mapM applicationRule
      pure (config.update "route" fun route => route.set "rules" (.arr (rules ++ added ++ [fallbackRule])))

/-- The steps that turn the configuration into one that captures routes. -/
def manageTun (lib : Library) (serverIp : String) (policy : Option WindowsApplicationRouting)
    (config : Json) :
    Except String Json := do
  let inbounds ← okOr (arrayAt "inbounds" config) "Windows config inbounds are not an array"
  let config := (config.set "inbounds" (.arr (inbounds ++ [tunInbound]))).set "dns" managedDns
  let config ← syncTunRouteExcludes lib config (some serverIp)
  let config ← addApplicationRules config policy
  pure (syncStableBypassRules (config.update "route" fun route => route.set "find_process" (.bool true)))

def hasTun (config : Json) : Bool := (arrayAt "inbounds" config).any fun inbounds => inbounds.any isTun

/-- The configuration of a runtime state in the desired mode. -/
def renderWindowsConfigForDesired (lib : Library) (state : WindowsRuntimeState)
    (desired : WindowsDesiredState) :
    Except String Bytes := do
  validateWindowsRuntimeState state
  let mode ← okOr (tryFrom WindowsDatapathMode desired.windowsDatapathMode) "WINDOWS_DATAPATH_MODE_INVALID"
  rejectIf (mode = .unspecified) "WINDOWS_DATAPATH_MODE_UNSPECIFIED"
  WindowsRouting.validate lib desired.windowsApplicationRouting
  let routes ← okOr desired.windowsRoutePolicy "canonical Windows route policy is missing"
  let desktopRoute ← productionWindowsRouteTag routes.desktop
  let wslRoute ← productionWindowsRouteTag routes.wsl
  let realityServerName ← okOr (desired.realityServerName.filter (· ≠ ""))
    "canonical production Reality server name is missing"
  let direct ← okOr state.direct "Windows runtime state direct tunnel is missing"
  let warp ← okOr state.warp "Windows runtime state WARP tunnel is missing"
  let config := proxyConfig (outbounds state direct warp desktopRoute wslRoute realityServerName)
  let config ← if mode = .managedTun then manageTun lib state.serverIp (selectedPolicy desired) config
    else pure config
  rejectIf (mode = .proxyOnly ∧ hasTun config)
    "PROXY_ONLY Windows renderer unexpectedly produced a TUN inbound"
  rejectIf (mode = .managedTun ∧ ¬ hasTun config)
    "MANAGED_TUN Windows renderer did not produce a TUN inbound"
  pure (utf8 config.pretty)

/-! ## Reading back -/

def maxConfigBytes : Nat := 1024 * 1024

/-- Proxy inbounds only. -/
def requireProxyOnlyConfig (bytes : Bytes) : Except String Unit := do
  rejectIf (bytes = [] ∨ bytes.length > maxConfigBytes) "HOST_WINDOWS_EFFECT_CONFIG_SIZE_INVALID"
  let config ← okOr (Json.parseBytes bytes) "HOST_WINDOWS_EFFECT_CONFIG_INVALID"
  let rows ← okOr (arrayAt "inbounds" config) "HOST_WINDOWS_EFFECT_CONFIG_INVALID"
  rejectIf (rows = [] ∨ ∃ r ∈ rows, strAt "type" r ∉ [some "mixed", some "socks", some "http"])
    "HOST_WINDOWS_EFFECT_ROUTE_CAPTURE_NOT_AUTHORIZED"

def boolAt (key : String) (v : Json) : Option Bool := (v.get key).bind Json.asBool

/-- The managed TUN, with its routes and its resolver. -/
def requireManagedTunConfig (bytes : Bytes) : Except String Unit := do
  rejectIf (bytes = [] ∨ bytes.length > maxConfigBytes) "HOST_WINDOWS_TUN_CONFIG_SIZE_INVALID"
  let config ← okOr (Json.parseBytes bytes) "HOST_WINDOWS_TUN_CONFIG_INVALID"
  let inbounds ← okOr (arrayAt "inbounds" config) "HOST_WINDOWS_TUN_CONFIG_INVALID"
  let tuns := inbounds.filter isTun
  rejectIf (tuns.length ≠ 1 ∨ inbounds.length ≠ 3 ∨
    ∃ inbound ∈ inbounds, strAt "type" inbound ∉ [some "tun", some "mixed"])
    "HOST_WINDOWS_TUN_CONFIG_UNEXPECTED_INBOUND"
  let tun := tuns.headD .null
  rejectIf (strAt "tag" tun ≠ some "managed-tun-in" ∨ strAt "interface_name" tun ≠ some "sing-box-tun" ∨
    boolAt "auto_route" tun ≠ some true ∨ boolAt "strict_route" tun ≠ some true ∨
    strAt "dns_mode" tun ≠ some "hijack" ∨ tun.get "address" ≠ some tunAddress ∨
    (config.get "dns").bind (strAt "final") ≠ some "managed-dns")
    "HOST_WINDOWS_TUN_CONFIG_NATIVE_ROUTE_INVALID"
  rejectIf ((config.get "route").bind (boolAt "find_process") ≠ some true)
    "HOST_WINDOWS_TUN_PROCESS_READBACK_NOT_ENABLED"
  let excluded ← okOr (arrayAt "route_exclude_address" tun) "HOST_WINDOWS_TUN_CONTROL_ROUTE_UNPROVEN"
  rejectIf (∃ cidr ∈ warpControlEndpoints ++ foreignCloudflareMeshCidrs, ∀ v ∈ excluded, v.asStr ≠ some cidr)
    "HOST_WINDOWS_TUN_CONTROL_ROUTE_UNPROVEN"

/-- The rule is for the managed TUN and for nothing else. -/
def tunRule (rule : Json) : Bool := rule.get "inbound" == some (strings ["managed-tun-in"])

def hasProcessPath (rule : Json) : Bool := (rule.get "process_path").isSome

/-- The rules with their positions that satisfy a predicate. -/
def rulesWith (p : Json → Bool) (rules : List Json) : List (Json × Nat) := rules.zipIdx.filter fun r => p r.1

def checkProcessRule (row : (Json × Nat) × WindowsApplicationRoute) : Except String Unit := do
  let expectedOutbound ← orError (productionWindowsRouteTag row.2.route)
    "WINDOWS_SELECTED_APPS_ROUTE_INVALID"
  rejectIf (¬ tunRule row.1.1 ∨ row.1.1.get "process_path" ≠ some (strings [row.2.executablePath]) ∨
    strAt "outbound" row.1.1 ≠ some expectedOutbound ∨ (row.1.1.get "process_name").isSome ∨
    (row.1.1.get "domain").isSome) "WINDOWS_SELECTED_APPS_PROCESS_RULE_MISMATCH"
  rejectIf (row.1.2 < 2) "WINDOWS_SELECTED_APPS_BYPASS_SHADOWED"

def checkSelectedRules (rules : List Json) (policy : WindowsApplicationRouting) : Except String Unit := do
  let paths := rulesWith hasProcessPath rules
  rejectIf (paths.length ≠ policy.applications.length) "WINDOWS_SELECTED_APPS_PROCESS_RULE_COUNT_MISMATCH"
  (paths.zip policy.applications).forM checkProcessRule
  let tunRules := rulesWith tunRule rules
  rejectIf (tunRules.length ≠ policy.applications.length + 1) "WINDOWS_SELECTED_APPS_TUN_RULE_COUNT_MISMATCH"
  let fallback ← okOr tunRules.getLast? "WINDOWS_SELECTED_APPS_DIRECT_FALLBACK_MISSING"
  rejectIf (strAt "outbound" fallback.1 ≠ some "direct" ∨ hasProcessPath fallback.1 ∨
    (fallback.1.get "process_name").isSome ∨ (∃ last ∈ paths.getLast?, fallback.2 ≤ last.2) ∨
    ∃ row ∈ tunRules.take policy.applications.length, ¬ hasProcessPath row.1)
    "WINDOWS_SELECTED_APPS_DIRECT_FALLBACK_INVALID"

def checkApplicationRules (rules : List Json) : Option WindowsApplicationRouting → Except String Unit
  | some policy => checkSelectedRules rules policy
  | none => rejectIf (rulesWith hasProcessPath rules ≠ [] ∨ rules.any tunRule)
      "WINDOWS_SELECTED_APPS_STALE_OVERRIDE_FORBIDDEN"

/-- The rules of the policy, behind the bypasses. -/
def verifyManagedApplicationRoutes (lib : Library) (bytes : Bytes) (desired : WindowsDesiredState) :
    Except String Unit := do
  rejectIf (desired.windowsDatapathMode ≠ toI32 WindowsDatapathMode.managedTun)
    "WINDOWS_SELECTED_APPS_MANAGED_TUN_REQUIRED"
  WindowsRouting.validate lib desired.windowsApplicationRouting
  rejectIf (bytes = [] ∨ bytes.length > maxConfigBytes) "WINDOWS_SELECTED_APPS_CONFIG_SIZE_INVALID"
  let config ← okOr (Json.parseBytes bytes) "WINDOWS_SELECTED_APPS_CONFIG_INVALID"
  rejectIf ((config.get "route").bind (boolAt "find_process") ≠ some true)
    "WINDOWS_SELECTED_APPS_PROCESS_READBACK_NOT_ENABLED"
  let rules ← okOr ((config.get "route").bind (arrayAt "rules")) "WINDOWS_SELECTED_APPS_RULES_INVALID"
  checkApplicationRules rules (selectedPolicy desired)
  rejectIf (rules.head?.bind (strAt "outbound") ≠ some "direct" ∨
    rules.head?.bind (Json.get "process_name") ≠ some (strings [warpServiceProcess]) ∨
    rules[1]?.bind (strAt "outbound") ≠ some "direct" ∨
    rules[1]?.bind (Json.get "ip_cidr") ≠ some (strings loopbackCidrs))
    "WINDOWS_SELECTED_APPS_FOREIGN_BYPASS_MISSING"

end EdgePlatform.Singbox
