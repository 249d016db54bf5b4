import EdgePlatform.Singbox.Config

/-!
# `EdgePlatform.Singbox.Readback` — what is rendered is accepted

The renderer builds a configuration and then changes it in place; the checks read the finished text. Here the
changes are carried out once on the configuration as a whole (`manageTun_eq`), which leaves an explicit
value: its text is read back as that value, its size is bounded from the bounds of the texts in it, and each
check sees the members it asks for.

The renderer asks for more than the routing validator: an explicit mode, explicit default routes and a
Reality server name. `Renderable` is exactly that.
-/

namespace EdgePlatform.Singbox

open Foundation Foundation.Wire Host Windows

/-! ## The configuration with a managed TUN -/

variable {app : WindowsApplicationRoute}

section Managed

variable {lib : Library} {outs : List Json} {cidr serverIp : String}
    {policy : Option WindowsApplicationRouting}

/-- The configuration that does not capture routes, with its members in order. -/
theorem proxyConfig_eq (outs : List Json) :
    proxyConfig outs =
      .obj [("experimental", experimentalSection), ("inbounds", .arr [desktopInbound, wslInbound]),
        ("log", logSection), ("outbounds", .arr outs),
      ("route", .obj [("auto_detect_interface", .bool true), ("final", .str managedSelectorTag),
        ("rules", .arr selectorRules)])] := by
  simp only [proxyConfig, Json.object, List.foldl_cons, List.foldl_nil, Json.insertMember, String.reduceEq,
    String.reduceLT, if_false, if_true]

/-- The addresses every TUN leaves alone. -/
def controlRoutes : List String := warpControlEndpoints ++ foreignCloudflareMeshCidrs

/-- The TUN inbound with the addresses it leaves alone. -/
def managedTunInbound (excluded : List String) : Json :=
  .obj [("address", tunAddress), ("auto_route", .bool true), ("dns_mode", .str "hijack"),
    ("interface_name", .str "sing-box-tun"), ("route_exclude_address", strings excluded),
    ("strict_route", .bool true), ("tag", .str "managed-tun-in"), ("type", .str "tun")]

/-- The finished configuration. -/
def managedConfig (outs : List Json) (excluded : List String) (rules : List Json) : Json :=
  .obj [("dns", managedDns), ("experimental", experimentalSection),
    ("inbounds", .arr [desktopInbound, wslInbound, managedTunInbound excluded]), ("log", logSection),
    ("outbounds", .arr outs),
    ("route", .obj [("auto_detect_interface", .bool true), ("final", .str managedSelectorTag),
      ("find_process", .bool true), ("rules", .arr rules)])]

theorem isTun_tunInbound : isTun tunInbound = true := by
  simp [isTun, strAt, tunInbound, Json.get_cons, Json.asStr]

theorem isTun_mixedInbound (tag listen : String) (port : Nat) :
    isTun (mixedInbound tag listen port) = false := by
  simp [isTun, strAt, mixedInbound, Json.get_cons, Json.asStr]

/-- The control routes, and the server if it is none of them. -/
def excludedRoutes (cidr : String) : List String :=
  if cidr ∈ controlRoutes then controlRoutes else controlRoutes ++ [cidr]

theorem addMissing_strings (required present : List String) :
    addMissing required (present.map .str) =
      (required.foldl (fun acc cidr => if cidr ∈ acc then acc else acc ++ [cidr]) present).map .str := by
  induction required generalizing present with
  | nil => rfl
  | cons cidr required ih =>
    have hany : ((present.map Json.str).any fun v => v.asStr == some cidr) = decide (cidr ∈ present) := by
      rw [Bool.eq_iff_iff]
      simp [Json.asStr]
    have hstep : addMissing (cidr :: required) (present.map .str) =
        addMissing required (if cidr ∈ present then present.map .str
          else present.map .str ++ [.str cidr]) := by
      simp only [addMissing, List.foldl_cons, hany, decide_eq_true_eq]
    rw [hstep, List.foldl_cons]
    by_cases hmem : cidr ∈ present
    · rw [if_pos hmem, if_pos hmem]
      exact ih present
    · rw [if_neg hmem, if_neg hmem]
      simpa using ih (present ++ [cidr])

theorem addMissing_controlRoutes (cidr : String) :
    addMissing (controlRoutes ++ [cidr]) [] = (excludedRoutes cidr).map .str := by
  have hcontrol : controlRoutes.foldl (fun acc cidr => if cidr ∈ acc then acc else acc ++ [cidr]) [] =
      controlRoutes := by decide
  have h := addMissing_strings (controlRoutes ++ [cidr]) []
  rw [List.map_nil, List.foldl_append, hcontrol] at h
  exact h

theorem excludeRoutes_tun (cidr : String) :
    excludeRoutes (controlRoutes ++ [cidr]) tunInbound = managedTunInbound (excludedRoutes cidr) := by
  have hnone : (arrayAt "route_exclude_address" tunInbound).getD [] = [] := by
    simp [arrayAt, tunInbound, Json.get_cons]
  rw [excludeRoutes, if_pos isTun_tunInbound, hnone, addMissing_controlRoutes]
  simp only [tunInbound, managedTunInbound, strings, Json.set, Json.object, List.foldl_cons, List.foldl_nil,
    List.cons_append, List.nil_append, Json.insertMember, String.reduceEq, String.reduceLT,
    if_false, if_true]

theorem excludeRoutes_mixed (required : List String) (tag listen : String) (port : Nat) :
    excludeRoutes required (mixedInbound tag listen port) = mixedInbound tag listen port := by
  rw [excludeRoutes, if_neg (by simp [isTun_mixedInbound])]

/-! ### The rules -/

/-- The rule of an accepted application. -/
def appRule (app : WindowsApplicationRoute) : Json :=
  processRule app.executablePath ((productionWindowsRouteTag app.route).toOption.getD "")

/-- The rules the renderer makes for the inbounds. -/
def inboundRules : Option WindowsApplicationRouting → List Json
  | none => selectorRules
  | some policy => selectorRules ++ policy.applications.map appRule ++ [fallbackRule]

/-- All rules: first what is bypassed. -/
def routeRules (policy : Option WindowsApplicationRouting) : List Json :=
  directProcessRule warpServiceProcess :: directCidrRule loopbackCidrs :: inboundRules policy

theorem routeTag_of_routable (h : WindowsRouting.Routable app) :
    ∃ tag, productionWindowsRouteTag app.route = .ok tag ∧
      (productionWindowsRouteTag app.route).toOption.getD "" = tag ∧ Json.quoteSize tag ≤ 22 := by
  obtain ⟨route, hspecified, hroute⟩ := h.route
  have htag : ∃ tag, route.tag = .ok tag ∧ Json.quoteSize tag ≤ 22 := by
    cases route with
    | unspecified => exact absurd rfl hspecified
    | autoDirect | hysteria2Direct | vlessRealityDirect | autoWarp | hysteria2Warp | vlessRealityWarp =>
      exact ⟨_, rfl, by decide⟩
  obtain ⟨tag, htag, hsize⟩ := htag
  have hok : productionWindowsRouteTag app.route = .ok tag := by
    rw [productionWindowsRouteTag, hroute]
    exact htag
  exact ⟨tag, hok, by rw [hok]; rfl, hsize⟩

theorem applicationRules_ok {apps : List WindowsApplicationRoute}
    (h : ∀ app ∈ apps, WindowsRouting.Routable app) :
    apps.mapM applicationRule = .ok (apps.map appRule) := by
  rw [Except.mapM_eq_ok, List.forall₂_map_right_iff, List.forall₂_same]
  intro app happ
  obtain ⟨tag, hok, hget, -⟩ := routeTag_of_routable (h app happ)
  rw [applicationRule, hok, appRule, hget]
  rfl

/-- No rule of the renderer is taken for a bypass. -/
theorem not_bypass {rule : Json} (h : rule.get "process_name" = none ∧ rule.get "ip_cidr" = none) :
    isWarpServiceBypass rule = false ∧ isLoopbackBypass rule = false := by
  simp [isWarpServiceBypass, isLoopbackBypass, arrayAt, h]

theorem plain_inboundRules {rule : Json} (h : rule ∈ inboundRules policy) :
    rule.get "process_name" = none ∧ rule.get "ip_cidr" = none := by
  have hinbound : ∀ inbound outbound, (inboundRule inbound outbound).get "process_name" = none ∧
      (inboundRule inbound outbound).get "ip_cidr" = none := by
    intro inbound outbound
    simp [inboundRule, Json.get_cons]
  have happ : ∀ app, (appRule app).get "process_name" = none ∧ (appRule app).get "ip_cidr" = none := by
    intro app
    simp [appRule, processRule, Json.get_cons]
  have hselector : ∀ rule ∈ selectorRules, rule.get "process_name" = none ∧ rule.get "ip_cidr" = none := by
    intro rule hrule
    simp only [selectorRules, List.mem_cons, List.not_mem_nil, or_false] at hrule
    rcases hrule with rfl | rfl
    · exact hinbound _ _
    · exact hinbound _ _
  cases policy with
  | none => exact hselector rule h
  | some policy =>
    simp only [inboundRules, List.mem_append, List.mem_map, List.mem_singleton] at h
    rcases h with (h | ⟨app, -, rfl⟩) | rfl
    · exact hselector rule h
    · exact happ app
    · exact hinbound _ _

theorem withBypasses_inboundRules (policy : Option WindowsApplicationRouting) :
    withBypasses (inboundRules policy) = routeRules policy := by
  have hkeep :
      (inboundRules policy).filter (fun rule => !isWarpServiceBypass rule && !isLoopbackBypass rule) =
        inboundRules policy := by
    rw [List.filter_eq_self]
    intro rule hrule
    simp [not_bypass (plain_inboundRules hrule)]
  rw [withBypasses, hkeep, routeRules]

/-! ### The changes as a whole -/

/-- The members while the TUN inbound and the rules are put in place. -/
def tunConfig (outs : List Json) (tun : Json) (rules : List Json) : Json :=
  .obj [("dns", managedDns), ("experimental", experimentalSection),
    ("inbounds", .arr [desktopInbound, wslInbound, tun]), ("log", logSection), ("outbounds", .arr outs),
    ("route", .obj [("auto_detect_interface", .bool true), ("final", .str managedSelectorTag),
      ("rules", .arr rules)])]

/-- The members after the TUN inbound, the DNS section and the excluded routes are in place. -/
theorem syncTunRouteExcludes_eq (hcidr : controlCidr lib serverIp = some cidr) :
    syncTunRouteExcludes lib
      (((proxyConfig outs).set "inbounds" (.arr [desktopInbound, wslInbound, tunInbound])).set "dns"
        managedDns) (some serverIp) =
      .ok (tunConfig outs (managedTunInbound (excludedRoutes cidr)) selectorRules) := by
  have hset : ((proxyConfig outs).set "inbounds" (.arr [desktopInbound, wslInbound, tunInbound])).set
      "dns" managedDns = tunConfig outs tunInbound selectorRules := by
    rw [proxyConfig_eq]
    simp only [tunConfig, Json.set, Json.object, List.foldl_cons, List.foldl_nil, List.cons_append,
      List.nil_append, Json.insertMember, String.reduceEq, String.reduceLT, if_false, if_true]
  have hrows : [desktopInbound, wslInbound, tunInbound].map
      (excludeRoutes (warpControlEndpoints ++ foreignCloudflareMeshCidrs ++ [cidr])) =
      [desktopInbound, wslInbound, managedTunInbound (excludedRoutes cidr)] := by
    simp only [List.map_cons, List.map_nil, desktopInbound, wslInbound, excludeRoutes_mixed]
    rw [← controlRoutes, excludeRoutes_tun]
  have hinbounds : arrayAt "inbounds" (tunConfig outs tunInbound selectorRules) =
      some [desktopInbound, wslInbound, tunInbound] := by
    simp [tunConfig, arrayAt, Json.get_cons, Json.asArray]
  rw [hset, syncTunRouteExcludes, hinbounds]
  dsimp only
  rw [if_pos (by simp [isTun_tunInbound])]
  refine ok_bind (okOr_eq_ok.mpr rfl) (ok_bind (okOr_eq_ok.mpr hcidr) (congrArg Except.ok ?_))
  rw [hrows]
  simp only [tunConfig, Json.set, Json.object, List.foldl_cons, List.foldl_nil, List.cons_append,
    List.nil_append, Json.insertMember, String.reduceEq, String.reduceLT, if_false, if_true]

/-- **The configuration with a managed TUN.** -/
theorem manageTun_eq (outs : List Json) (hcidr : controlCidr lib serverIp = some cidr)
    (hroutable : ∀ p ∈ policy, ∀ app ∈ p.applications, WindowsRouting.Routable app) :
    manageTun lib serverIp policy (proxyConfig outs) =
      .ok (managedConfig outs (excludedRoutes cidr) (routeRules policy)) := by
  have hinbounds : arrayAt "inbounds" (proxyConfig outs) = some [desktopInbound, wslInbound] := by
    simp [proxyConfig, arrayAt, Json.get_cons, Json.asArray]
  refine ok_bind (okOr_eq_ok.mpr hinbounds) (ok_bind (syncTunRouteExcludes_eq hcidr) ?_)
  have hrules : ∀ tun, addApplicationRules (tunConfig outs tun selectorRules) policy =
      .ok (tunConfig outs tun (inboundRules policy)) := by
    intro tun
    cases policy with
    | none => rfl
    | some policy =>
      simp only [tunConfig, addApplicationRules, applicationRules_ok (hroutable policy rfl), arrayAt,
        Json.get_cons, Json.get_nil, Json.update, Json.set, Json.object, Json.asArray, okOr, List.foldl_cons,
        List.foldl_nil, List.cons_append, List.nil_append, Json.insertMember, Option.none_or, Option.or_none,
        Option.bind_some, String.reduceEq, String.reduceLT, if_false, if_true, inboundRules]
      rfl
  refine ok_bind (hrules _) (congrArg Except.ok ?_)
  simp only [tunConfig, syncStableBypassRules, managedConfig, ← withBypasses_inboundRules,
    Json.update, Json.set, Json.get_cons, Json.get_nil, Json.object, List.foldl_cons, List.foldl_nil,
    List.cons_append, List.nil_append, Json.insertMember, Option.none_or, Option.or_none, String.reduceEq,
    String.reduceLT, if_false, if_true]

end Managed

/-! ## Sizes -/

variable {k : Nat}

section Sizes

open Foundation.Json

variable {tag server password domain uuid realityServerName publicKey shortId path route outbound : String}
    {port : Nat}

theorem selectorOutbound_eq : selectorOutbound tag route =
    .obj [("default", .str route), ("outbounds", selectorEntries), ("tag", .str tag),
      ("type", .str "selector")] := by
  simp only [selectorOutbound, Json.object, List.foldl_cons, List.foldl_nil, Json.insertMember,
    String.reduceEq, String.reduceLT, if_false, if_true]

theorem hysteria2Outbound_eq : hysteria2Outbound tag server port password domain =
    .obj [("password", .str password), ("server", .str server), ("server_port", .int port),
      ("tag", .str tag), ("tls", .obj [("enabled", .bool true), ("server_name", .str domain)]),
      ("type", .str "hysteria2")] := by
  simp only [hysteria2Outbound, Json.object, List.foldl_cons, List.foldl_nil, Json.insertMember,
    String.reduceEq, String.reduceLT, if_false, if_true]

theorem vlessOutbound_eq : vlessOutbound tag server port uuid realityServerName publicKey shortId =
    .obj [("flow", .str "xtls-rprx-vision"), ("server", .str server), ("server_port", .int port),
      ("tag", .str tag), ("tls", .obj [("enabled", .bool true),
        ("reality", .obj [("enabled", .bool true), ("public_key", .str publicKey),
          ("short_id", .str shortId)]),
        ("server_name", .str realityServerName),
        ("utls", .obj [("enabled", .bool true), ("fingerprint", .str "chrome")])]),
      ("type", .str "vless"), ("uuid", .str uuid)] := by
  simp only [vlessOutbound, Json.object, List.foldl_cons, List.foldl_nil, Json.insertMember, String.reduceEq,
    String.reduceLT, if_false, if_true]

theorem processRule_eq : processRule path outbound =
    .obj [("inbound", strings ["managed-tun-in"]), ("outbound", .str outbound),
      ("process_path", strings [path])] := by
  simp only [processRule, Json.object, List.foldl_cons, List.foldl_nil, Json.insertMember, String.reduceEq,
    String.reduceLT, if_false, if_true]

theorem sized_selectorOutbound (htag : quoteSize tag ≤ 22) (hroute : quoteSize route ≤ 22) :
    Sized 62 3 1000 (selectorOutbound tag route) := by
  have hentries : Sized 62 2 650 selectorEntries := by decide
  rw [selectorOutbound_eq]
  refine Sized.mono
    (.obj (.cons (.str hroute) (.cons hentries (.cons (.str htag) (.cons (.str le_rfl) .nil))))) ?_
  decide

theorem sized_hysteria2Outbound (hport : port < 2 ^ 64) (htag : quoteSize tag ≤ 22)
    (hserver : quoteSize server ≤ 400) (hpassword : quoteSize password ≤ 1540)
    (hdomain : quoteSize domain ≤ 1540) :
    Sized 62 3 4500 (hysteria2Outbound tag server port password domain) := by
  rw [hysteria2Outbound_eq]
  refine Sized.mono
    (.obj (.cons (.str hpassword)
      (.cons (.str hserver)
        (.cons (.nat hport)
          (.cons (.str htag)
            (.cons (.obj (.cons (.bool true) (.cons (.str hdomain) .nil))) (.cons (.str le_rfl) .nil)))))))
            ?_
  decide

theorem sized_vlessOutbound (hport : port < 2 ^ 64) (htag : quoteSize tag ≤ 22)
    (hserver : quoteSize server ≤ 400) (huuid : quoteSize uuid ≤ 800)
    (hname : quoteSize realityServerName ≤ 1540) (hkey : quoteSize publicKey ≤ 1540)
    (hid : quoteSize shortId ≤ 400) :
    Sized 62 3 6500 (vlessOutbound tag server port uuid realityServerName publicKey shortId) := by
  have hutls : Sized 62 1 300 (.obj [("enabled", .bool true), ("fingerprint", .str "chrome")]) := by decide
  rw [vlessOutbound_eq]
  refine Sized.mono (.obj (.cons (.str le_rfl) (.cons (.str hserver) (.cons (.nat hport) (.cons (.str htag)
    (.cons (.obj
      (.cons (.bool true)
        (.cons (.obj (.cons (.bool true) (.cons (.str hkey) (.cons (.str hid) .nil))))
          (.cons (.str hname) (.cons hutls .nil)))))
    (.cons (.str le_rfl) (.cons (.str huuid) .nil)))))))) ?_
  decide

theorem sized_processRule (hpath : quoteSize path ≤ 4100) (houtbound : quoteSize outbound ≤ 22) :
    Sized 62 2 4600 (processRule path outbound) := by
  rw [processRule_eq]
  refine Sized.mono (.obj (.cons (.arr (.cons (.str le_rfl) .nil)) (.cons (.str houtbound)
    (.cons (.arr (.cons (.str hpath) .nil)) .nil)))) ?_
  decide

/-! ### The texts of an accepted runtime state -/

variable {octets : List Nat}

theorem quoteSize_serverIp {value : String} (h : parseIpv4 value = some octets) : quoteSize value ≤ 400 := by
  obtain ⟨hlength, -, -, -⟩ := parseIpv4_eq_some h
  have hsize : ∀ cs : List Char, size cs ≤ 4 * cs.length := by
    intro cs
    induction cs with
    | nil => simp
    | cons c cs ih =>
      have hc : c.utf8Size ≤ 4 := c.utf8Size_le_four
      rw [size_cons, List.length_cons]
      omega
  have hbytes := hsize value.toList
  have hquote := quoteSize_le value
  rw [length_utf8] at hquote
  omega

theorem quoteSize_of_length {s : String} {bound : Nat} (h : (utf8 s).length ≤ k) (hle : 6 * k + 2 ≤ bound) :
    quoteSize s ≤ bound := by
  have hquote := quoteSize_le s
  omega

theorem sized_outbounds {state : WindowsRuntimeState} {direct warp : WindowsTunnelBinding}
    (hstate : Rendered state direct warp octets) {desktopRoute wslRoute : String}
    (hdesktop : quoteSize desktopRoute ≤ 22) (hwsl : quoteSize wslRoute ≤ 22)
    (hname : (utf8 realityServerName).length ≤ 253) :
    SizedItems 62 3 27000 (outbounds state direct warp desktopRoute wslRoute realityServerName) := by
  have hserver := quoteSize_serverIp hstate.serverIp
  have hreality : quoteSize realityServerName ≤ 1540 := quoteSize_of_length hname (by decide)
  have hhysteria : ∀ tag, quoteSize tag ≤ 22 → ∀ binding, Bounded binding →
      Sized 62 3 4500
      (hysteria2Outbound tag state.serverIp binding.hy2Port.toNat binding.hy2Password binding.domain) := by
    intro tag htag binding hbinding
    exact sized_hysteria2Outbound (lt_trans binding.hy2Port.toNat_lt (by decide)) htag hserver
      (quoteSize_of_length hbinding.hy2Password (by decide))
      (quoteSize_of_length hbinding.domain (by decide))
  have hvless : ∀ tag, quoteSize tag ≤ 22 → ∀ binding, Bounded binding →
      Sized 62 3 6500
      (vlessOutbound tag state.serverIp binding.vlessPort.toNat binding.vlessUuid realityServerName
        binding.realityPublicKey binding.realityShortId) := by
    intro tag htag binding hbinding
    exact sized_vlessOutbound (lt_trans binding.vlessPort.toNat_lt (by decide)) htag hserver
      (quoteSize_of_length hbinding.vlessUuid (by decide)) hreality
      (quoteSize_of_length hbinding.realityPublicKey (by decide))
      (quoteSize_of_length hbinding.realityShortId (by decide))
  have hdirect := hstate.directBounded
  have hwarp := hstate.warpBounded
  refine SizedItems.mono (.cons (sized_selectorOutbound (by decide) hdesktop)
    (.cons (sized_selectorOutbound (by decide) hwsl)
    (.cons (show Sized 62 3 900
      (urltestOutbound "auto-direct-tunnel" ["hysteria2-direct", "vless-reality-direct"]) by
      decide)
    (.cons (show Sized 62 3 900
      (urltestOutbound "auto-warp-tunnel" ["hysteria2-warp", "vless-reality-warp"]) by
      decide)
    (.cons (hhysteria _ (by decide) direct hdirect) (.cons (hvless _ (by decide) direct hdirect)
    (.cons (hhysteria _ (by decide) warp hwarp) (.cons (hvless _ (by decide) warp hwarp)
    (.cons (show Sized 62 3 300 (.object [("type", .str "direct"), ("tag", .str "direct")]) by decide)
    .nil))))))))) (by decide)

/-! ### The configurations -/

theorem sized_sections : Sized 62 4 400 logSection ∧ Sized 62 4 400 experimentalSection ∧
    Sized 62 4 1500 managedDns ∧ Sized 62 3 500 desktopInbound ∧ Sized 62 3 500 wslInbound ∧
    SizedItems 62 2 800 selectorRules := by
  decide

theorem reads_proxyConfig {outs : List Json} (houts : SizedItems 62 3 27000 outs) :
    parseBytes (utf8 (proxyConfig outs).pretty) = some (proxyConfig outs) ∧
      (utf8 (proxyConfig outs).pretty).length ≤ 32000 := by
  obtain ⟨hlog, hexperimental, -, hdesktop, hwsl, hrules⟩ := sized_sections
  have hsized : Sized (shareAt 5) 5 32000 (proxyConfig outs) := by
    rw [proxyConfig_eq]
    refine Sized.mono (.obj (.cons hexperimental (.cons (.arr (.cons hdesktop (.cons hwsl .nil))) (.cons hlog
      (.cons (.arr houts) (.cons (.obj (.cons (.bool true) (.cons (.str le_rfl) (.cons (.arr hrules) .nil))))
      .nil)))))) ?_
    decide
  exact hsized.reads_back (by decide)

theorem sized_managedTunInbound {excluded : List String}
    (hexcluded : SizedItems 62 1 3000 (excluded.map .str)) :
    Sized 62 3 4500 (managedTunInbound excluded) := by
  have haddress : Sized 62 2 300 tunAddress := by decide
  refine Sized.mono (.obj (.cons haddress (.cons (.bool true) (.cons (.str le_rfl) (.cons (.str le_rfl)
    (.cons (.arr hexcluded) (.cons (.bool true) (.cons (.str le_rfl) (.cons (.str le_rfl) .nil))))))))) ?_
  decide

theorem reads_managedConfig {outs rules : List Json} {excluded : List String}
    (houts : SizedItems 62 3 27000 outs) (hexcluded : SizedItems 62 1 3000 (excluded.map .str))
    (hrules : SizedItems 62 2 600000 rules) :
    parseBytes (utf8 (managedConfig outs excluded rules).pretty) = some (managedConfig outs excluded rules) ∧
      (utf8 (managedConfig outs excluded rules).pretty).length ≤ 700000 := by
  obtain ⟨hlog, hexperimental, hdns, hdesktop, hwsl, -⟩ := sized_sections
  have htun := sized_managedTunInbound hexcluded
  have hsized : Sized (shareAt 5) 5 700000 (managedConfig outs excluded rules) := by
    refine Sized.mono (.obj (.cons hdns (.cons hexperimental
      (.cons (.arr (.cons hdesktop (.cons hwsl (.cons htun .nil)))) (.cons hlog (.cons (.arr houts)
      (.cons (.obj
        (.cons (.bool true) (.cons (.str le_rfl) (.cons (.bool true) (.cons (.arr hrules) .nil)))))
      .nil))))))) ?_
    decide
  exact hsized.reads_back (by decide)

/-! ### The rules and the excluded routes -/

theorem quoteSize_executablePath (h : WindowsRouting.Routable app) :
    quoteSize app.executablePath ≤ 4100 := by
  have hprintable : ∀ c ∈ app.executablePath.toList, 32 ≤ c.toNat := by
    intro c hc
    have hpath := h.path
    unfold HostAdmin.windowsAbsolutePath at hpath
    split at hpath
    · next drive rest heq =>
        simp only [Bool.and_eq_true, Bool.not_eq_true', List.any_eq_false] at hpath
        have hclean := hpath.1.1.2 c hc
        by_contra hcontrol
        exact hclean (by simp [HostAdmin.isControl, show c.toNat < 32 by omega])
    · cases hpath
  have hquote := quoteSize_le_double hprintable
  have hlength := h.length
  omega

theorem sized_routeRules {policy : Option WindowsApplicationRouting}
    (hcount : ∀ p ∈ policy, p.applications.length ≤ 128)
    (hroutable : ∀ p ∈ policy, ∀ app ∈ p.applications, WindowsRouting.Routable app) :
    SizedItems 62 2 600000 (routeRules policy) := by
  have hbypass :
      SizedItems 62 2 1000 [directProcessRule warpServiceProcess, directCidrRule loopbackCidrs] := by
    decide
  obtain ⟨-, -, -, -, -, hselector⟩ := sized_sections
  have hfallback : SizedItems 62 2 500 [fallbackRule] := by decide
  cases policy with
  | none => exact (hbypass.append hselector).mono (by decide)
  | some policy =>
    have happs : SizedItems 62 2 (4600 * policy.applications.length) (policy.applications.map appRule) := by
      have hall : ∀ rule ∈ policy.applications.map appRule, Sized 62 2 4600 rule := by
        intro rule hrule
        obtain ⟨app, happ, rfl⟩ := List.mem_map.mp hrule
        have hrout := hroutable policy rfl app happ
        obtain ⟨tag, -, hget, hsize⟩ := routeTag_of_routable hrout
        exact sized_processRule (quoteSize_executablePath hrout) (hget ▸ hsize)
      simpa using SizedItems.of_forall hall
    have hlength := hcount policy rfl
    exact (hbypass.append ((hselector.append happs).append hfallback)).mono (by omega)

theorem controlCidr_of_octets {lib : Library} {serverIp : String} (h : parseIpv4 serverIp = some octets) :
    ∃ cidr, controlCidr lib serverIp = some cidr ∧ quoteSize cidr ≤ 400 := by
  obtain ⟨-, -, hlength, hsmall⟩ := parseIpv4_eq_some h
  refine ⟨_, by rw [controlCidr, h], quoteSize_of_length (k := 60) ?_ (by decide)⟩
  have hoctet : ∀ n ≤ 255, (utf8 (toString n)).length ≤ 3 := by decide +kernel
  match octets, hlength with
  | [a, b, c, d], _ =>
    have ha := hoctet a (hsmall a (by simp))
    have hb := hoctet b (hsmall b (by simp))
    have hc := hoctet c (hsmall c (by simp))
    have hd := hoctet d (hsmall d (by simp))
    have hmarks : (utf8 ".").length = 1 ∧ (utf8 "/32").length = 3 := by decide
    show (utf8 (toString a ++ "." ++ toString b ++ "." ++ toString c ++ "." ++ toString d ++ "/32")).length ≤
        60
    simp only [utf8_append, List.length_append, hmarks]
    omega

theorem sized_excludedRoutes {cidr : String} (h : quoteSize cidr ≤ 400) :
    SizedItems 62 1 3000 ((excludedRoutes cidr).map .str) := by
  have hcontrol : SizedItems 62 1 1000 (controlRoutes.map .str) := by decide
  unfold excludedRoutes
  split_ifs
  · exact hcontrol.mono (by decide)
  · rw [List.map_append]
    exact (hcontrol.append (.cons (.str h) .nil)).mono (by decide)

end Sizes

/-! ## The checks on the finished configurations -/

section Checks

variable {lib : Library} {outs rules : List Json} {excluded : List String}

variable {bytes : Bytes}

theorem requireProxyOnlyConfig_ok (hread : Json.parseBytes bytes = some (proxyConfig outs))
    (hlength : bytes.length ≤ maxConfigBytes) (hne : bytes ≠ []) :
    requireProxyOnlyConfig bytes = .ok () := by
  have hinbounds : arrayAt "inbounds" (proxyConfig outs) = some [desktopInbound, wslInbound] := by
    simp [proxyConfig, arrayAt, Json.get_cons, Json.asArray]
  have htype : ∀ tag listen port, strAt "type" (mixedInbound tag listen port) = some "mixed" := by
    intro tag listen port
    simp [strAt, mixedInbound, Json.get_cons, Json.asStr]
  simp only [requireProxyOnlyConfig, ok_iff, hread, Option.some.injEq, exists_eq_left', hinbounds]
  refine ⟨by simp [hne, hlength], ?_⟩
  simp [desktopInbound, wslInbound, htype]

theorem requireManagedTunConfig_ok (hread : Json.parseBytes bytes = some (managedConfig outs excluded rules))
    (hlength : bytes.length ≤ maxConfigBytes) (hne : bytes ≠ []) (hexcluded : controlRoutes ⊆ excluded) :
    requireManagedTunConfig bytes = .ok () := by
  have hinbounds : arrayAt "inbounds" (managedConfig outs excluded rules) =
      some [desktopInbound, wslInbound, managedTunInbound excluded] := by
    simp [managedConfig, arrayAt, Json.get_cons, Json.asArray]
  have hmixed : ∀ tag listen port, strAt "type" (mixedInbound tag listen port) = some "mixed" := by
    intro tag listen port
    simp [strAt, mixedInbound, Json.get_cons, Json.asStr]
  have htun : strAt "type" (managedTunInbound excluded) = some "tun" := by
    simp [strAt, managedTunInbound, Json.get_cons, Json.asStr]
  have htuns : [desktopInbound, wslInbound, managedTunInbound excluded].filter isTun =
      [managedTunInbound excluded] := by
    simp [desktopInbound, wslInbound, isTun, hmixed, htun]
  have hroutes : arrayAt "route_exclude_address" (managedTunInbound excluded) =
      some (excluded.map .str) := by
    simp [arrayAt, managedTunInbound, Json.get_cons, Json.asArray, strings]
  simp only [requireManagedTunConfig, ok_iff, hread, Option.some.injEq, exists_eq_left', hinbounds, htuns,
    List.headD_cons, hroutes]
  refine ⟨by simp [hne, hlength], ?_, ?_, ?_, ?_⟩
  · simp [desktopInbound, wslInbound, hmixed, htun]
  · simp [strAt, boolAt, managedTunInbound, managedConfig, managedDns, Json.get_cons,
      Json.asStr, Json.asBool]
  · simp [boolAt, managedConfig, Json.get_cons, Json.asBool]
  · rintro ⟨cidr, hcidr, hmissing⟩
    exact hmissing (.str cidr) (List.mem_map_of_mem (hexcluded hcidr)) rfl

/-! ### The rules and their positions -/

theorem rulesWith_append (p : Json → Bool) (xs ys : List Json) :
    rulesWith p (xs ++ ys) = rulesWith p xs ++ (ys.zipIdx xs.length).filter fun r => p r.1 := by
  simp [rulesWith, List.zipIdx_append]

theorem filter_zipIdx_all {p : Json → Bool} {xs : List Json} (h : ∀ x ∈ xs, p x = true) (k : Nat) :
    ((xs.zipIdx k).filter fun r => p r.1) = xs.zipIdx k := by
  rw [List.filter_eq_self]
  rintro ⟨x, i⟩ hx
  exact h x (List.fst_mem_of_mem_zipIdx hx)

theorem hasProcessPath_appRule (app : WindowsApplicationRoute) : hasProcessPath (appRule app) = true := by
  simp [hasProcessPath, appRule, processRule, Json.get_cons]

theorem tunRule_appRule (app : WindowsApplicationRoute) : tunRule (appRule app) = true := by
  simp [tunRule, appRule, processRule, Json.get_cons]

/-- The rules ahead of those of the applications. -/
def leadingRules : List Json :=
  directProcessRule warpServiceProcess :: directCidrRule loopbackCidrs :: selectorRules

theorem routeRules_some (policy : WindowsApplicationRouting) :
    routeRules (some policy) = leadingRules ++ policy.applications.map appRule ++ [fallbackRule] := rfl

theorem leadingRules_plain : rulesWith hasProcessPath leadingRules = [] ∧
    rulesWith tunRule leadingRules = [] ∧ leadingRules.any tunRule = false := by decide

theorem fallbackRule_plain : hasProcessPath fallbackRule = false ∧ tunRule fallbackRule = true ∧
    strAt "outbound" fallbackRule = some "direct" ∧ fallbackRule.get "process_name" = none := by decide

theorem processPaths_routeRules (policy : WindowsApplicationRouting) :
    rulesWith hasProcessPath (routeRules (some policy)) = (policy.applications.map appRule).zipIdx 4 := by
  have happs : ∀ rule ∈ policy.applications.map appRule, hasProcessPath rule = true := by
    intro rule hrule
    obtain ⟨app, -, rfl⟩ := List.mem_map.mp hrule
    exact hasProcessPath_appRule app
  rw [routeRules_some, rulesWith_append, rulesWith_append, leadingRules_plain.1, filter_zipIdx_all happs]
  simp [fallbackRule_plain, leadingRules, selectorRules]

theorem tunRules_routeRules (policy : WindowsApplicationRouting) :
    rulesWith tunRule (routeRules (some policy)) =
      (policy.applications.map appRule).zipIdx 4 ++ [(fallbackRule, 4 + policy.applications.length)] := by
  have happs : ∀ rule ∈ policy.applications.map appRule, tunRule rule = true := by
    intro rule hrule
    obtain ⟨app, -, rfl⟩ := List.mem_map.mp hrule
    exact tunRule_appRule app
  rw [routeRules_some, rulesWith_append, rulesWith_append, leadingRules_plain.2.1, filter_zipIdx_all happs]
  simp [fallbackRule_plain, leadingRules, selectorRules]
  omega

/-- Each application stands beside its own rule. -/
theorem mem_zip_zipIdx {apps : List WindowsApplicationRoute} {row : (Json × Nat) × WindowsApplicationRoute}
    (h : row ∈ ((apps.map appRule).zipIdx k).zip apps) :
    row.1.1 = appRule row.2 ∧ k ≤ row.1.2 ∧ row.2 ∈ apps := by
  induction apps generalizing k with
  | nil => cases h
  | cons app apps ih =>
    simp only [List.map_cons, List.zipIdx_cons, List.zip_cons_cons, List.mem_cons] at h
    rcases h with rfl | h
    · exact ⟨rfl, le_rfl, .head _⟩
    · obtain ⟨hrule, hindex, hmem⟩ := ih h
      exact ⟨hrule, by omega, .tail _ hmem⟩

theorem checkProcessRule_ok (h : WindowsRouting.Routable app) (hk : 4 ≤ k) :
    checkProcessRule ((appRule app, k), app) = .ok () := by
  obtain ⟨tag, hok, hget, -⟩ := routeTag_of_routable h
  simp only [checkProcessRule, ok_iff, orError_eq_ok, hok, Except.ok.injEq, exists_eq_left', tunRule_appRule]
  refine ⟨?_, by omega⟩
  simp [appRule, hget, processRule, strAt, Json.get_cons, Json.asStr]

theorem checkSelectedRules_ok {policy : WindowsApplicationRouting}
    (hroutable : ∀ app ∈ policy.applications, WindowsRouting.Routable app) :
    checkSelectedRules (routeRules (some policy)) policy = .ok () := by
  simp only [checkSelectedRules, processPaths_routeRules, tunRules_routeRules, ok_iff, List.getLast?_append,
    List.getLast?_singleton, Option.some_or, Option.some.injEq, exists_eq_left']
  refine ⟨by simp, ?_, by simp, ?_⟩
  · rw [List.forM_eq_forM, Except.forM_eq_ok]
    rintro ⟨⟨rule, k⟩, app⟩ hrow
    obtain ⟨hrule, hk, happ⟩ := mem_zip_zipIdx hrow
    rw [show rule = appRule app from hrule]
    exact checkProcessRule_ok (hroutable app happ) hk
  · have hlast : ∀ last ∈ ((policy.applications.map appRule).zipIdx 4).getLast?,
        last.2 < 4 + policy.applications.length := by
      rintro ⟨rule, k⟩ hmem
      have hbound := List.snd_lt_add_of_mem_zipIdx (List.mem_of_getLast? hmem)
      simpa using hbound
    have htake : ((policy.applications.map appRule).zipIdx 4 ++
        [(fallbackRule, 4 + policy.applications.length)]).take policy.applications.length =
        (policy.applications.map appRule).zipIdx 4 := List.take_left' (by simp)
    rw [htake]
    simp only [fallbackRule_plain, ne_eq, not_true_eq_false, Bool.false_eq_true, Option.isSome_none,
      false_or, not_or]
    refine ⟨?_, ?_⟩
    · rintro ⟨last, hmem, hle⟩
      have hlt := hlast last hmem
      omega
    · rintro ⟨⟨rule, k⟩, hmem, hpath⟩
      obtain ⟨app, -, rfl⟩ := List.mem_map.mp (List.fst_mem_of_mem_zipIdx hmem)
      exact hpath (hasProcessPath_appRule app)

theorem checkApplicationRules_ok {policy : Option WindowsApplicationRouting}
    (hroutable : ∀ p ∈ policy, ∀ app ∈ p.applications, WindowsRouting.Routable app) :
    checkApplicationRules (routeRules policy) policy = .ok () := by
  cases policy with
  | none =>
    simp only [checkApplicationRules, rejectIf_eq_ok]
    rw [show routeRules none = leadingRules from rfl, leadingRules_plain.1, leadingRules_plain.2.2]
    simp
  | some policy => exact checkSelectedRules_ok (hroutable policy rfl)

theorem verifyManagedApplicationRoutes_of_rules {desired : WindowsDesiredState} {rest : List Json}
    (hread : Json.parseBytes bytes = some (managedConfig outs excluded rules))
    (hlength : bytes.length ≤ maxConfigBytes) (hne : bytes ≠ [])
    (hmode : desired.windowsDatapathMode = toI32 WindowsDatapathMode.managedTun)
    (hrouting : WindowsRouting.validate lib desired.windowsApplicationRouting = .ok ())
    (hchecks : checkApplicationRules rules (selectedPolicy desired) = .ok ())
    (hleading : rules = directProcessRule warpServiceProcess :: directCidrRule loopbackCidrs :: rest) :
    verifyManagedApplicationRoutes lib bytes desired = .ok () := by
  have hrules : ((managedConfig outs excluded rules).get "route").bind (arrayAt "rules") = some rules := by
    simp [managedConfig, arrayAt, Json.get_cons, Json.asArray]
  have hprocess : ((managedConfig outs excluded rules).get "route").bind
      (boolAt "find_process") = some true := by
    simp [managedConfig, boolAt, Json.get_cons, Json.asBool]
  have hfirst : strAt "outbound" (directProcessRule warpServiceProcess) = some "direct" ∧
      (directProcessRule warpServiceProcess).get "process_name" = some (strings [warpServiceProcess]) ∧
      strAt "outbound" (directCidrRule loopbackCidrs) = some "direct" ∧
      (directCidrRule loopbackCidrs).get "ip_cidr" = some (strings loopbackCidrs) := by
    simp [directProcessRule, directCidrRule, strAt, Json.get_cons, Json.asStr]
  simp only [verifyManagedApplicationRoutes, ok_iff, hread, Option.some.injEq, exists_eq_left',
    hprocess, hrules, hrouting, hchecks, true_and]
  refine ⟨not_not.mpr hmode, by simp [hne, hlength], not_not.mpr rfl, ?_⟩
  simp [hleading, hfirst]

end Checks

/-! ## Rendering and reading back -/

/-- What the renderer asks for beyond the routing validator. -/
structure Renderable (desired : WindowsDesiredState) : Prop where
  mode : desired.windowsDatapathMode = toI32 WindowsDatapathMode.proxyOnly ∨
    desired.windowsDatapathMode = toI32 WindowsDatapathMode.managedTun
  routes : ∃ routes ∈ desired.windowsRoutePolicy,
    (∃ tag, productionWindowsRouteTag routes.desktop = .ok tag) ∧
    ∃ tag, productionWindowsRouteTag routes.wsl = .ok tag
  name : ∃ name ∈ desired.realityServerName, name ≠ ""

section Render

variable {lib : Library} {state : WindowsRuntimeState} {desired : WindowsDesiredState}
  {direct warp : WindowsTunnelBinding} {octets : List Nat} {desktopRoute wslRoute name : String}

theorem hasTun_proxyConfig (outs : List Json) : hasTun (proxyConfig outs) = false := by
  simp [hasTun, proxyConfig, arrayAt, Json.get_cons, Json.asArray, desktopInbound, wslInbound,
    isTun_mixedInbound]

theorem hasTun_managedConfig (outs : List Json) (excluded : List String) (rules : List Json) :
    hasTun (managedConfig outs excluded rules) = true := by
  simp [hasTun, managedConfig, arrayAt, Json.get_cons, Json.asArray, managedTunInbound, isTun,
    strAt, Json.asStr]

/-- The routes and the name that the renderer writes into the outbounds. -/
structure Resolved (desired : WindowsDesiredState) (desktopRoute wslRoute name : String) : Prop where
  routes : ∃ routes, desired.windowsRoutePolicy = some routes ∧
    productionWindowsRouteTag routes.desktop = .ok desktopRoute ∧
    productionWindowsRouteTag routes.wsl = .ok wslRoute
  name : desired.realityServerName.filter (· ≠ "") = some name

theorem Renderable.resolved (h : Renderable desired) :
    ∃ desktopRoute wslRoute name, Resolved desired desktopRoute wslRoute name ∧
      name ∈ desired.realityServerName := by
  obtain ⟨routes, hroutes, ⟨desktopRoute, hdesktop⟩, wslRoute, hwsl⟩ := h.routes
  obtain ⟨name, hname, hne⟩ := h.name
  exact ⟨desktopRoute, wslRoute, name,
    ⟨⟨routes, hroutes, hdesktop, hwsl⟩, Option.filter_eq_some_iff.mpr ⟨hname, by simpa⟩⟩, hname⟩

theorem renderable_of_render {bytes : Bytes}
    (h : renderWindowsConfigForDesired lib state desired = .ok bytes) :
    Renderable desired := by
  simp only [renderWindowsConfigForDesired, ok_iff] at h
  obtain ⟨-, mode, hmode, hspecified, -, routes, hroutes, desktopRoute, hdesktop, wslRoute, hwsl, name,
    hname, -⟩ := h
  rw [tryFrom_eq_some] at hmode
  obtain ⟨hname, hne⟩ := Option.filter_eq_some_iff.mp hname
  refine ⟨?_, ⟨routes, hroutes, ⟨desktopRoute, hdesktop⟩, wslRoute, hwsl⟩, name, hname, by simpa using hne⟩
  cases mode with
  | unspecified => exact absurd rfl hspecified
  | proxyOnly => exact .inl hmode.symm
  | managedTun => exact .inr hmode.symm

theorem quoteSize_routeTag {value : Int32} {tag : String} (h : productionWindowsRouteTag value = .ok tag) :
    Json.quoteSize tag ≤ 22 := by
  simp only [productionWindowsRouteTag, ok_iff] at h
  obtain ⟨route, -, htag⟩ := h
  cases route with
  | unspecified => cases htag
  | autoDirect | hysteria2Direct | vlessRealityDirect | autoWarp | hysteria2Warp | vlessRealityWarp =>
    cases htag; decide

/-- What holds of a rendered text. -/
structure ReadBack (lib : Library) (desired : WindowsDesiredState) (bytes : Bytes) : Prop where
  size : bytes.length ≤ maxConfigBytes
  managedTun : desired.windowsDatapathMode = toI32 WindowsDatapathMode.managedTun →
    requireManagedTunConfig bytes = .ok () ∧ verifyManagedApplicationRoutes lib bytes desired = .ok ()
  proxyOnly : desired.windowsDatapathMode = toI32 WindowsDatapathMode.proxyOnly →
    requireProxyOnlyConfig bytes = .ok ()

theorem pretty_ne_nil {config : Json} (h : Json.parseBytes (utf8 config.pretty) = some config) :
    utf8 config.pretty ≠ [] := by
  intro hnil
  rw [hnil] at h
  cases h

theorem controlRoutes_subset (cidr : String) : controlRoutes ⊆ excludedRoutes cidr := by
  unfold excludedRoutes
  split_ifs
  · exact List.Subset.refl _
  · exact List.subset_append_left _ _

variable (hrouting : WindowsRouting.validate lib desired.windowsApplicationRouting = .ok ())
include hrouting

/-- The policy that selects applications is an accepted one. -/
theorem accepted_selectedPolicy : ∀ p ∈ selectedPolicy desired, WindowsRouting.Accepted lib p := by
  intro p hp
  obtain ⟨hpolicy, -⟩ := Option.filter_eq_some_iff.mp hp
  exact WindowsRouting.validate_eq_ok.mp hrouting p hpolicy

variable (hstate : validateWindowsRuntimeState state = .ok ())
include hstate

/-- The rendered text, for a configuration that its mode makes of the outbounds. -/
theorem render_eq (hrendered : Rendered state direct warp octets)
    (hresolved : Resolved desired desktopRoute wslRoute name) {mode : WindowsDatapathMode}
    (hmode : tryFrom WindowsDatapathMode desired.windowsDatapathMode = some mode)
    (hspecified : mode ≠ .unspecified) {config : Json} (hconfig : (if mode = .managedTun then
        manageTun lib state.serverIp (selectedPolicy desired)
          (proxyConfig (outbounds state direct warp desktopRoute wslRoute name))
      else pure (proxyConfig (outbounds state direct warp desktopRoute wslRoute name))) = .ok config)
    (htun : hasTun config = decide (mode = .managedTun)) :
    renderWindowsConfigForDesired lib state desired = .ok (utf8 config.pretty) := by
  obtain ⟨⟨routes, hroutes, hdesktop, hwsl⟩, hname⟩ := hresolved
  have hproxy : ¬ (mode = .proxyOnly ∧ hasTun config = true) := by
    rintro ⟨rfl, h⟩
    rw [htun] at h
    cases h
  have hmanaged : ¬ (mode = .managedTun ∧ ¬ hasTun config = true) := by
    rintro ⟨rfl, h⟩
    exact h (by rw [htun]; rfl)
  simp only [renderWindowsConfigForDesired, ok_iff, hstate, hmode, hrouting, hroutes, hname,
    hrendered.hasDirect, hrendered.hasWarp, Option.some.injEq, exists_eq_left', true_and]
  refine ⟨hspecified, desktopRoute, hdesktop, wslRoute, hwsl, ?_⟩
  split_ifs at hconfig ⊢ <;> simp only [hconfig, ok_iff, Except.ok.injEq, exists_eq_left'] <;>
    exact ⟨hproxy, hmanaged, rfl⟩

theorem reads_back_of_renderable
    (hname : ∀ name ∈ desired.realityServerName, (utf8 name).length ≤ 253) (h : Renderable desired) :
    ∃ bytes, renderWindowsConfigForDesired lib state desired = .ok bytes ∧ ReadBack lib desired bytes := by
  obtain ⟨direct, warp, octets, hrendered⟩ := rendered_of_validate hstate
  obtain ⟨desktopRoute, wslRoute, name, hresolved, hmem⟩ := h.resolved
  obtain ⟨routes, -, hdesktop, hwsl⟩ := hresolved.routes
  have hsized := sized_outbounds hrendered (quoteSize_routeTag hdesktop) (quoteSize_routeTag hwsl)
      (hname name hmem)
  rcases h.mode with hmode | hmode
  · -- nothing is captured
    have htry : tryFrom WindowsDatapathMode desired.windowsDatapathMode = some .proxyOnly := by
      rw [tryFrom_eq_some, hmode]
    obtain ⟨hread, hlength⟩ := reads_proxyConfig hsized
    have hsize := hlength.trans (show 32000 ≤ maxConfigBytes by decide)
    refine ⟨_, render_eq hrouting hstate hrendered hresolved htry (by decide) (if_neg (by decide))
      (hasTun_proxyConfig _), hsize, ?_, fun _ => requireProxyOnlyConfig_ok hread hsize
        (pretty_ne_nil hread)⟩
    intro hmanaged
    exact absurd (hmode.symm.trans hmanaged) (by decide)
  · -- the managed TUN
    have htry : tryFrom WindowsDatapathMode desired.windowsDatapathMode = some .managedTun := by
      rw [tryFrom_eq_some, hmode]
    have haccepted := accepted_selectedPolicy hrouting
    have hroutable : ∀ p ∈ selectedPolicy desired, ∀ app ∈ p.applications, WindowsRouting.Routable app :=
      fun p hp => (haccepted p hp).routable
    obtain ⟨cidr, hcidr, hcidrSize⟩ := @controlCidr_of_octets _ lib _ hrendered.serverIp
    have hconfig := manageTun_eq (outbounds state direct warp desktopRoute wslRoute name) hcidr hroutable
    obtain ⟨hread, hlength⟩ := reads_managedConfig hsized (sized_excludedRoutes hcidrSize)
      (sized_routeRules (fun p hp => (haccepted p hp).count) hroutable)
    have hsize := hlength.trans (show 700000 ≤ maxConfigBytes by decide)
    have hne := pretty_ne_nil hread
    refine ⟨_, render_eq hrouting hstate hrendered hresolved htry (by decide) ((if_pos rfl).trans hconfig)
      (hasTun_managedConfig _ _ _), hsize, fun _ => ⟨?_, ?_⟩, ?_⟩
    · exact requireManagedTunConfig_ok hread hsize hne (controlRoutes_subset cidr)
    · exact verifyManagedApplicationRoutes_of_rules hread hsize hne hmode hrouting
        (checkApplicationRules_ok hroutable) rfl
    · intro hproxy
      exact absurd (hmode.symm.trans hproxy) (by decide)

end Render

/-! ### An example -/

namespace Sample

/-- Addresses of the other family do not occur, and the paths are of ASCII characters. -/
def library : Library where
  toLowercase s := String.ofList (s.toList.map Char.toLower)
  parseIpv6 _ := none

def tunnel : WindowsTunnelBinding :=
  ⟨"edge.example.com", 443, "secret", 8443, "8b7bb0c6-9e4b-4d0b-8a39-3d4ab0c1f1d5", "key", "0123abcd"⟩

def state : WindowsRuntimeState := ⟨1, none, "instance", "192.0.2.1", some tunnel, some tunnel⟩

/-- A desired state that routes one application over the WARP line. -/
def desired (name : String) : WindowsDesiredState :=
  { windowsDatapathMode := toI32 WindowsDatapathMode.managedTun
    windowsRoutePolicy := some ⟨toI32 WindowsDefaultRoute.autoDirect, toI32 WindowsDefaultRoute.autoDirect⟩
    windowsApplicationRouting := some ⟨toI32 WindowsApplicationScope.selectedApplications,
      [⟨"C:\\Apps\\browser.exe", toI32 WindowsDefaultRoute.autoWarp⟩]⟩
    realityServerName := some name }

end Sample

open Sample in
/-- The routing validator does not look at the server name; without one nothing is rendered. -/
theorem render_needs_name :
    validateWindowsRuntimeState state = .ok () ∧
      WindowsRouting.validate library (desired "").windowsApplicationRouting = .ok () ∧
      (∀ name ∈ (desired "").realityServerName, (utf8 name).length ≤ 253) ∧
      renderWindowsConfigForDesired library state (desired "") =
        .error "canonical production Reality server name is missing" := by
  decide

/-- **What is rendered is accepted.** From an accepted runtime state and accepted application routes the
renderer succeeds exactly when the mode, the default routes and the Reality server name are given, and its
text passes the checks of its mode. -/
theorem render_then_verify (lib : Library) (state : WindowsRuntimeState) (desired : WindowsDesiredState)
    (hstate : validateWindowsRuntimeState state = .ok ())
    (hrouting : WindowsRouting.validate lib desired.windowsApplicationRouting = .ok ())
    (hname : ∀ name ∈ desired.realityServerName, (utf8 name).length ≤ 253) :
    ((∃ bytes, renderWindowsConfigForDesired lib state desired = .ok bytes) ↔ Renderable desired) ∧
      ∀ bytes, renderWindowsConfigForDesired lib state desired = .ok bytes → ReadBack lib desired bytes := by
  have hforward := @reads_back_of_renderable lib state desired hrouting hstate hname
  refine ⟨⟨fun ⟨bytes, h⟩ => renderable_of_render h, fun h => ?_⟩, ?_⟩
  · obtain ⟨bytes, hrender, -⟩ := hforward h
    exact ⟨bytes, hrender⟩
  · intro bytes h
    obtain ⟨bytes', hrender, hread⟩ := hforward (renderable_of_render h)
    rw [hrender] at h
    cases h
    exact hread

open Sample in
theorem render_then_verify_one_application :
    (∃ bytes, renderWindowsConfigForDesired library state (desired "www.example.com") = .ok bytes) ∧
      ∀ bytes, renderWindowsConfigForDesired library state (desired "www.example.com") = .ok bytes →
        requireManagedTunConfig bytes = .ok () ∧
          verifyManagedApplicationRoutes library bytes (desired "www.example.com") = .ok () := by
  have hall := render_then_verify library state (desired "www.example.com") (by decide)
    (by decide) (by decide)
  have hrenderable : Renderable (desired "www.example.com") :=
    ⟨.inr rfl, ⟨_, rfl, ⟨"auto-direct-tunnel", by decide⟩, "auto-direct-tunnel", by decide⟩, _,
      rfl, by decide⟩
  exact ⟨hall.1.mpr hrenderable, fun bytes h => (hall.2 bytes h).managedTun rfl⟩

end EdgePlatform.Singbox
