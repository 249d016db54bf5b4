import EdgePlatform.Singbox.Readback

/-!
# `EdgePlatform.Singbox.Routes` — what an accepted route table does

A route table is read from its first rule on: the first rule that matches a connection decides its outbound.
The check of an installed configuration looks at the two bypasses, at the rules with a `process_path` and at
those whose `inbound` is exactly the managed TUN; it reads other rules past. `expected` is what the policy
asks of a connection from the TUN, `SelectedSound` that the table does it.

How sing-box matches a rule is outside the repository. Of an `Engine` only the documented meaning of rules
with `inbound`, `process_path`, `process_name` and `ip_cidr` is assumed.
-/

namespace EdgePlatform.Singbox

open Foundation Foundation.Wire Host Windows

/-- What rules can ask about a connection. -/
structure Connection where
  inbound : String
  processPath : String
  processName : String
  destination : String
deriving DecidableEq

/-- The texts of a listed member; none if it is not there. -/
def listed (key : String) (rule : Json) : List String := ((arrayAt key rule).getD []).filterMap Json.asStr

/-- A member without texts asks for nothing, and one with several for any of them. -/
def anyOf (values : List String) (p : String → Bool) : Bool := values.isEmpty || values.any p

/-- A rule asks for all its members. -/
def plainMatches (contains : (cidr address : String) → Bool) (rule : Json) (c : Connection) : Bool :=
  anyOf (listed "inbound" rule) (· == c.inbound) &&
    anyOf (listed "process_path" rule) (· == c.processPath) &&
    anyOf (listed "process_name" rule) (· == c.processName) &&
    anyOf (listed "ip_cidr" rule) (contains · c.destination)

/-- The object has no members but the outbound and these. -/
def Bare (keys : List String) (rule : Json) : Prop :=
  ∃ ms, rule = .obj ms ∧ ∀ m ∈ ms, m.1 ∈ "outbound" :: keys

/-- How sing-box matches rules. -/
structure Engine where
  /-- The address lies in the network. -/
  contains : (cidr address : String) → Bool
  ruleMatches : Json → Connection → Bool
  /-- The documented meaning of a rule with these members only, each a list of texts. -/
  ruleMatches_plain : ∀ rule, Bare ["inbound", "process_path", "process_name", "ip_cidr"] rule →
    (∀ key v, rule.get key = some v → key ≠ "outbound" → ∃ values, v = strings values) →
    ∀ c, ruleMatches rule c = plainMatches contains rule c

/-- The first rule that matches decides. -/
def Engine.route (engine : Engine) (rules : List Json) (final : Option String)
    (c : Connection) : Option String :=
  match rules.find? fun rule => engine.ruleMatches rule c with
  | some rule => strAt "outbound" rule
  | none => final

/-- The WARP service and the loopback networks are left alone. -/
def Engine.bypassed (engine : Engine) (c : Connection) : Bool :=
  c.processName == warpServiceProcess || loopbackCidrs.any fun cidr => engine.contains cidr c.destination

/-- What the policy asks of a connection from the managed TUN. -/
def Engine.expected (engine : Engine) (policy : WindowsApplicationRouting)
    (c : Connection) : Option String :=
  if engine.bypassed c then some "direct"
  else
    match policy.applications.find? fun app => app.executablePath == c.processPath with
    | some app => (productionWindowsRouteTag app.route).toOption
    | none => some "direct"

/-- Every connection from the managed TUN goes where the policy says. -/
def Engine.SelectedSound (engine : Engine) (rules : List Json) (final : Option String)
    (policy : WindowsApplicationRouting) : Prop :=
  ∀ c : Connection, c.inbound = "managed-tun-in" → engine.route rules final c = engine.expected policy c

/-- The rules of an installed configuration, and the outbound of what no rule matches. -/
def installedRules (bytes : Bytes) : List Json :=
  ((Json.parseBytes bytes).bind fun config => (config.get "route").bind (arrayAt "rules")).getD []

def installedFinal (bytes : Bytes) : Option String :=
  (Json.parseBytes bytes).bind fun config => (config.get "route").bind (strAt "final")

/-! ## What the check looks at -/

/-- The rules that the check looks at have no members beside those it compares. -/
structure CheckedBare (rules : List Json) : Prop where
  warp : ∀ rule ∈ rules[0]?, Bare ["process_name"] rule
  loopback : ∀ rule ∈ rules[1]?, Bare ["ip_cidr"] rule
  application : ∀ rule ∈ rules, hasProcessPath rule = true → Bare ["inbound", "process_path"] rule
  fallback : ∀ rule ∈ rules, tunRule rule = true → hasProcessPath rule = false → Bare ["inbound"] rule

/-- A rule that the check reads past. -/
def Unchecked (rules : List Json) (rule : Json) : Prop :=
  rules[0]? ≠ some rule ∧ rules[1]? ≠ some rule ∧ hasProcessPath rule = false ∧ tunRule rule = false

/-- No rule that the check reads past takes a connection from the managed TUN elsewhere. -/
def Engine.NoDiversion (engine : Engine) (rules : List Json) (policy : WindowsApplicationRouting) : Prop :=
  ∀ (c : Connection) (rule : Json), c.inbound = "managed-tun-in" → Unchecked rules rule →
    (rules.find? fun rule => engine.ruleMatches rule c) = some rule →
    strAt "outbound" rule = engine.expected policy c

/-- The rules that the check reads past are for other inbounds. -/
def ForeignInbounds (rules : List Json) : Prop :=
  ∀ rule ∈ rules, Unchecked rules rule → Bare ["inbound"] rule ∧
    ∃ values, rule.get "inbound" = some (strings values) ∧ values ≠ [] ∧ "managed-tun-in" ∉ values

/-- What acceptance says of the table. -/
structure AcceptedRules (rules : List Json) (policy : WindowsApplicationRouting)
    (fallback : Json × Nat) : Prop where
  count : (rulesWith hasProcessPath rules).length = policy.applications.length
  application : ∀ row ∈ (rulesWith hasProcessPath rules).zip policy.applications,
    checkProcessRule row = .ok ()
  tunRules : rulesWith tunRule rules =
    (rulesWith tunRule rules).take policy.applications.length ++ [fallback]
  direct : strAt "outbound" fallback.1 = some "direct"
  catchAll : hasProcessPath fallback.1 = false
  last : ∀ last ∈ (rulesWith hasProcessPath rules).getLast?, last.2 < fallback.2
  others : ∀ row ∈ (rulesWith tunRule rules).take policy.applications.length, hasProcessPath row.1 = true
  warp : ∃ rule, rules[0]? = some rule ∧ strAt "outbound" rule = some "direct" ∧
    rule.get "process_name" = some (strings [warpServiceProcess])
  loopback : ∃ rule, rules[1]? = some rule ∧ strAt "outbound" rule = some "direct" ∧
    rule.get "ip_cidr" = some (strings loopbackCidrs)

variable {app : WindowsApplicationRoute}

section Accepted

variable {lib : Library} {bytes : Bytes} {desired : WindowsDesiredState} {policy : WindowsApplicationRouting}
  {rules : List Json} {fallback : Json × Nat}

theorem split_last {α : Type} {xs : List α} {n : Nat} {x : α} (hlength : xs.length = n + 1)
    (hlast : xs.getLast? = some x) : xs = xs.take n ++ [x] := by
  obtain ⟨init, rfl⟩ := List.getLast?_eq_some_iff.mp hlast
  have hn : init.length = n := by simpa using hlength
  rw [List.take_left' hn]

theorem acceptedRules_of_verify (haccepted : verifyManagedApplicationRoutes lib bytes desired = .ok ())
    (hselected : selectedPolicy desired = some policy) :
    WindowsRouting.Accepted lib policy ∧ policy.applications ≠ [] ∧
      ∃ fallback, AcceptedRules (installedRules bytes) policy fallback := by
  simp only [verifyManagedApplicationRoutes, ok_iff] at haccepted
  obtain ⟨-, hrouting, -, config, hconfig, -, rules, hrules, happlications, hbypass⟩ := haccepted
  have hinstalled : installedRules bytes = rules := by simp [installedRules, hconfig, hrules]
  have hpolicy := accepted_selectedPolicy hrouting policy hselected
  have hscope : policy.scope = toI32 WindowsApplicationScope.selectedApplications := by
    simpa using (Option.filter_eq_some_iff.mp hselected).2
  have hne : policy.applications ≠ [] := by
    rcases hpolicy.scope with hall | ⟨-, hne⟩
    · rw [hscope] at hall
      exact absurd hall (by decide)
    · exact hne
  refine ⟨hpolicy, hne, ?_⟩
  simp only [checkApplicationRules, hselected, checkSelectedRules, ok_iff, List.forM_eq_forM,
    Except.forM_eq_ok, not_not, not_or] at happlications
  obtain ⟨hcount, hrows, htunCount, fallback, hfallback, hdirect, hpath, -, hlast, hothers⟩ := happlications
  simp only [not_or, not_not] at hbypass
  obtain ⟨hwarpDirect, hwarp, hloopbackDirect, hloopback⟩ := hbypass
  obtain ⟨first, hfirst, hfirstName⟩ := Option.bind_eq_some_iff.mp hwarp
  obtain ⟨second, hsecond, hsecondCidr⟩ := Option.bind_eq_some_iff.mp hloopback
  rw [List.head?_eq_getElem?] at hfirst hwarpDirect
  rw [hinstalled]
  refine ⟨fallback, hcount, hrows, split_last htunCount hfallback, hdirect, by simpa using hpath,
    ?_, ?_, ?_, ?_⟩
  · intro last hmem
    by_contra hle
    exact hlast ⟨last, hmem, by omega⟩
  · intro row hmem
    by_contra hno
    exact hothers ⟨row, hmem, by simpa using hno⟩
  · exact ⟨first, hfirst, by simpa [hfirst] using hwarpDirect, hfirstName⟩
  · exact ⟨second, hsecond, by simpa [hsecond] using hloopbackDirect, hsecondCidr⟩

/-! ### Rules and positions -/

variable {i : Nat}

theorem mem_rulesWith {p : Json → Bool} {rule : Json} :
    (rule, i) ∈ rulesWith p rules ↔ rules[i]? = some rule ∧ p rule = true := by
  rw [rulesWith, List.mem_filter, List.mem_zipIdx_iff_getElem?]

theorem rulesWith_ascending (p : Json → Bool) (rules : List Json) :
    (rulesWith p rules).Pairwise fun a b => a.2 < b.2 := by
  have hall : rules.zipIdx.Pairwise fun a b => a.2 < b.2 := by
    rw [← List.pairwise_map (f := Prod.snd) (R := (· < ·)), List.zipIdx_map_snd]
    exact List.pairwise_lt_range'
  exact hall.sublist List.filter_sublist

/-- What an application's rule is. -/
structure ApplicationRule (rule : Json) (app : WindowsApplicationRoute) : Prop where
  inbound : rule.get "inbound" = some (strings ["managed-tun-in"])
  path : rule.get "process_path" = some (strings [app.executablePath])
  outbound : strAt "outbound" rule = (productionWindowsRouteTag app.route).toOption

theorem applicationRule_of_check {row : (Json × Nat) × WindowsApplicationRoute}
    (h : checkProcessRule row = .ok ()) :
    ApplicationRule row.1.1 row.2 ∧ 2 ≤ row.1.2 := by
  simp only [checkProcessRule, ok_iff, orError_eq_ok, not_or, not_not] at h
  obtain ⟨tag, htag, ⟨htun, hpath, houtbound, -⟩, hindex⟩ := h
  refine ⟨⟨by simpa [tunRule] using htun, hpath, ?_⟩, by omega⟩
  rw [houtbound, htag]
  rfl

section

variable (h : AcceptedRules rules policy fallback)
include h

/-- A rule with a path is the rule of an application, and comes after the bypasses. -/
theorem AcceptedRules.exists_application {rule : Json}
    (hrule : rules[i]? = some rule) (hpath : hasProcessPath rule = true) :
    ∃ app ∈ policy.applications, ApplicationRule rule app ∧ 2 ≤ i := by
  have hmem : (rule, i) ∈ rulesWith hasProcessPath rules := mem_rulesWith.mpr ⟨hrule, hpath⟩
  rw [← List.map_fst_zip h.count.le] at hmem
  obtain ⟨⟨row, app⟩, hzip, rfl⟩ := List.mem_map.mp hmem
  obtain ⟨happ, hindex⟩ := applicationRule_of_check (h.application _ hzip)
  exact ⟨app, (List.of_mem_zip hzip).2, happ, hindex⟩

/-- Every application has its rule, between the bypasses and the fallback. -/
theorem AcceptedRules.exists_rule (happ : app ∈ policy.applications) :
    ∃ (rule : Json) (i : Nat), rules[i]? = some rule ∧ hasProcessPath rule = true ∧
      ApplicationRule rule app ∧ 2 ≤ i ∧ i < fallback.2 := by
  rw [← List.map_snd_zip h.count.ge] at happ
  obtain ⟨⟨⟨rule, i⟩, app⟩, hzip, rfl⟩ := List.mem_map.mp happ
  obtain ⟨hrule, hindex⟩ := applicationRule_of_check (h.application _ hzip)
  have hmem := (List.of_mem_zip hzip).1
  obtain ⟨hget, hpath⟩ := mem_rulesWith.mp hmem
  refine ⟨rule, i, hget, hpath, hrule, hindex, ?_⟩
  -- the paths ascend, so the last of them bounds the others
  obtain ⟨last, hlast⟩ : ∃ last, (rulesWith hasProcessPath rules).getLast? = some last :=
    ⟨_, List.getLast?_eq_some_getLast (List.ne_nil_of_mem hmem)⟩
  have hbound := h.last last hlast
  obtain ⟨init, hinit⟩ := List.getLast?_eq_some_iff.mp hlast
  have hascending := rulesWith_ascending hasProcessPath rules
  rw [hinit] at hmem hascending
  rcases List.mem_append.mp hmem with hmem | hmem
  · have hlt := (List.pairwise_append.mp hascending).2.2 _ hmem last (List.mem_singleton.mpr rfl)
    exact hlt.trans hbound
  · obtain rfl := List.mem_singleton.mp hmem
    exact hbound

/-- A rule for the TUN without a path is the fallback. -/
theorem AcceptedRules.eq_fallback {rule : Json}
    (hrule : rules[i]? = some rule) (htun : tunRule rule = true) (hpath : hasProcessPath rule = false) :
    (rule, i) = fallback := by
  have hmem : (rule, i) ∈ rulesWith tunRule rules := mem_rulesWith.mpr ⟨hrule, htun⟩
  rw [h.tunRules] at hmem
  rcases List.mem_append.mp hmem with hmem | hmem
  · rw [h.others _ hmem] at hpath
    cases hpath
  · exact List.mem_singleton.mp hmem

theorem AcceptedRules.fallback_mem : rules[fallback.2]? = some fallback.1 ∧ tunRule fallback.1 = true := by
  apply mem_rulesWith.mp
  rw [h.tunRules]
  exact List.mem_append_right _ (List.mem_singleton.mpr rfl)

end

end Accepted

/-! ## What the checked rules match -/

section Matching

variable {engine : Engine} {rule : Json} {c : Connection} {keys values : List String} {key : String}

theorem listed_strings (h : rule.get key = some (strings values)) : listed key rule = values := by
  have hsome : values.filterMap (fun s => Json.asStr (.str s)) = values := by
    induction values with
    | nil => rfl
    | cons s values ih => simp [Json.asStr]
  simp [listed, arrayAt, h, strings, Json.asArray, List.filterMap_map, hsome]

theorem listed_none (h : rule.get key = none) : listed key rule = [] := by simp [listed, arrayAt, h]

theorem Bare.get_none (h : Bare keys rule) (hkey : key ∉ "outbound" :: keys) : rule.get key = none := by
  obtain ⟨ms, rfl, hms⟩ := h
  apply Json.get_eq_none
  rintro m hm rfl
  exact hkey (hms m hm)

theorem Engine.matches_bare (engine : Engine) (hbare : Bare keys rule)
    (hkeys : keys ⊆ ["inbound", "process_path", "process_name", "ip_cidr"])
    (hlists : ∀ key ∈ keys, ∃ values, rule.get key = some (strings values)) (c : Connection) :
    engine.ruleMatches rule c = plainMatches engine.contains rule c := by
  obtain ⟨ms, hrule, hms⟩ := hbare
  apply engine.ruleMatches_plain
  · exact ⟨ms, hrule, fun m hm => List.cons_subset_cons _ hkeys (hms m hm)⟩
  · intro key v hget hne
    by_cases hkey : key ∈ keys
    · obtain ⟨values, hvalues⟩ := hlists key hkey
      exact ⟨values, Option.some.inj (hget.symm.trans hvalues)⟩
    · have hnone := Bare.get_none ⟨ms, hrule, hms⟩ (show key ∉ "outbound" :: keys by simp [hne, hkey])
      rw [hnone] at hget
      cases hget

theorem Engine.matches_warp (hbare : Bare ["process_name"] rule)
    (hname : rule.get "process_name" = some (strings [warpServiceProcess])) :
    engine.ruleMatches rule c = (c.processName == warpServiceProcess) := by
  rw [engine.matches_bare hbare (by decide) (by simp [hname]), plainMatches, listed_strings hname,
    listed_none (hbare.get_none (by decide)), listed_none (hbare.get_none (by decide)),
    listed_none (hbare.get_none (by decide))]
  simp [anyOf, Bool.beq_comm]

theorem Engine.matches_loopback (hbare : Bare ["ip_cidr"] rule)
    (hcidr : rule.get "ip_cidr" = some (strings loopbackCidrs)) :
    engine.ruleMatches rule c = loopbackCidrs.any fun cidr => engine.contains cidr c.destination := by
  rw [engine.matches_bare hbare (by decide) (by simp [hcidr]), plainMatches, listed_strings hcidr,
    listed_none (hbare.get_none (by decide)), listed_none (hbare.get_none (by decide)),
    listed_none (hbare.get_none (by decide))]
  simp [anyOf, loopbackCidrs]

theorem Engine.matches_application (hbare : Bare ["inbound", "process_path"] rule)
    (happ : ApplicationRule rule app) (hc : c.inbound = "managed-tun-in") :
    engine.ruleMatches rule c = (app.executablePath == c.processPath) := by
  rw [engine.matches_bare hbare (by decide) (by simp [happ.inbound, happ.path]), plainMatches,
    listed_strings happ.inbound, listed_strings happ.path, listed_none (hbare.get_none (by decide)),
    listed_none (hbare.get_none (by decide))]
  simp [anyOf, hc]

/-- A rule that asks for inbounds only. -/
theorem Engine.matches_inbound (hbare : Bare ["inbound"] rule)
    (hinbound : rule.get "inbound" = some (strings values)) :
    engine.ruleMatches rule c = anyOf values (· == c.inbound) := by
  rw [engine.matches_bare hbare (by decide) (by simp [hinbound]), plainMatches, listed_strings hinbound,
    listed_none (hbare.get_none (by decide)), listed_none (hbare.get_none (by decide)),
    listed_none (hbare.get_none (by decide))]
  simp [anyOf]

end Matching

/-! ## The whole table -/

section Table

variable {engine : Engine} {lib : Library} {policy : WindowsApplicationRouting} {rules : List Json}
  {fallback : Json × Nat} {c : Connection} {rule : Json} {i : Nat}

/-- No rule before this position matches. -/
def Engine.SilentBefore (engine : Engine) (rules : List Json) (c : Connection) (i : Nat) : Prop :=
  ∀ (j : Nat) (rule : Json), j < i → rules[j]? = some rule → engine.ruleMatches rule c = false

theorem Engine.find_eq_some :
    (rules.find? fun rule => engine.ruleMatches rule c) = some rule ↔
      engine.ruleMatches rule c = true ∧ ∃ i, rules[i]? = some rule ∧ engine.SilentBefore rules c i := by
  rw [List.find?_eq_some_iff_getElem]
  refine and_congr_right fun _ => ⟨?_, ?_⟩
  · rintro ⟨i, hi, hrule, hbefore⟩
    refine ⟨i, List.getElem?_eq_some_iff.mpr ⟨hi, hrule⟩, ?_⟩
    intro j other hj hother
    obtain ⟨hlt, rfl⟩ := List.getElem?_eq_some_iff.mp hother
    simpa using hbefore j hj
  · rintro ⟨i, hget, hbefore⟩
    obtain ⟨hi, hrule⟩ := List.getElem?_eq_some_iff.mp hget
    refine ⟨i, hi, hrule, ?_⟩
    intro j hj
    simpa using hbefore j _ hj (List.getElem?_eq_getElem (hj.trans hi))

/-- Past the bypasses there is nothing left of what they take. -/
theorem AcceptedRules.not_bypassed (h : AcceptedRules rules policy fallback)
    (hbare : CheckedBare rules) (hi : 2 ≤ i) (hsilent : engine.SilentBefore rules c i) :
    engine.bypassed c = false := by
  obtain ⟨first, hfirst, -, hname⟩ := h.warp
  obtain ⟨second, hsecond, -, hcidr⟩ := h.loopback
  have hwarp := hsilent 0 first (by omega) hfirst
  have hloopback := hsilent 1 second (by omega) hsecond
  rw [Engine.matches_warp (hbare.warp first hfirst) hname] at hwarp
  rw [Engine.matches_loopback (hbare.loopback second hsecond) hcidr] at hloopback
  rw [Engine.bypassed, hwarp, hloopback]
  rfl

theorem Engine.expected_of_mem (hpolicy : WindowsRouting.Accepted lib policy)
    (happ : app ∈ policy.applications) (hpath : app.executablePath = c.processPath)
    (hbypassed : engine.bypassed c = false) :
    engine.expected policy c = (productionWindowsRouteTag app.route).toOption := by
  have hfind : (policy.applications.find? fun app => app.executablePath == c.processPath) = some app := by
    cases hfound : policy.applications.find? fun app => app.executablePath == c.processPath with
    | none => exact absurd hpath (by simpa using List.find?_eq_none.mp hfound app happ)
    | some other =>
      have hother := List.mem_of_find?_eq_some hfound
      have hsame : other.executablePath = c.processPath := by simpa using List.find?_some hfound
      rw [List.inj_on_of_nodup_map hpolicy.distinct hother happ (by rw [hsame, hpath])]
  rw [Engine.expected, hbypassed, hfind]
  rfl

theorem Engine.expected_of_forall (hpath : ∀ app ∈ policy.applications, app.executablePath ≠ c.processPath)
    (hbypassed : engine.bypassed c = false) : engine.expected policy c = some "direct" := by
  have hfind : (policy.applications.find? fun app => app.executablePath == c.processPath) = none := by
    rw [List.find?_eq_none]
    intro app happ
    simpa using hpath app happ
  rw [Engine.expected, hbypassed, hfind]
  rfl

theorem Engine.expected_of_bypassed (hbypassed : engine.bypassed c = true) :
    engine.expected policy c = some "direct" := by
  rw [Engine.expected, hbypassed]
  rfl

/-- The rules that the check looks at do what the policy asks, wherever they are the first to match. -/
theorem AcceptedRules.outbound_of_checked (h : AcceptedRules rules policy fallback)
    (hpolicy : WindowsRouting.Accepted lib policy) (hne : policy.applications ≠ [])
    (hbare : CheckedBare rules) (hc : c.inbound = "managed-tun-in") (hrule : rules[i]? = some rule)
    (hmatches : engine.ruleMatches rule c = true) (hsilent : engine.SilentBefore rules c i)
    (hchecked : ¬ Unchecked rules rule) :
    strAt "outbound" rule = engine.expected policy c := by
  have hmem : rule ∈ rules := List.mem_of_getElem? hrule
  obtain ⟨first, hfirst, hfirstDirect, hname⟩ := h.warp
  obtain ⟨second, hsecond, hsecondDirect, hcidr⟩ := h.loopback
  by_cases hiswarp : rules[0]? = some rule
  · obtain rfl : first = rule := Option.some.inj (hfirst.symm.trans hiswarp)
    rw [Engine.matches_warp (hbare.warp first hfirst) hname] at hmatches
    rw [hfirstDirect, Engine.expected_of_bypassed (by simp [Engine.bypassed, hmatches])]
  by_cases hisloopback : rules[1]? = some rule
  · obtain rfl : second = rule := Option.some.inj (hsecond.symm.trans hisloopback)
    rw [Engine.matches_loopback (hbare.loopback second hsecond) hcidr] at hmatches
    rw [hsecondDirect, Engine.expected_of_bypassed (by simp only [Engine.bypassed, hmatches, Bool.or_true])]
  by_cases hpath : hasProcessPath rule = true
  · obtain ⟨app, happ, hofApp, hi⟩ := h.exists_application hrule hpath
    rw [Engine.matches_application (hbare.application rule hmem hpath) hofApp hc] at hmatches
    rw [hofApp.outbound]
    exact (Engine.expected_of_mem hpolicy happ (by simpa using hmatches)
      (h.not_bypassed hbare hi hsilent)).symm
  · have hnopath : hasProcessPath rule = false := by simpa using hpath
    have htun : tunRule rule = true := by
      by_contra htun
      exact hchecked ⟨hiswarp, hisloopback, hnopath, by simpa using htun⟩
    obtain rfl := h.eq_fallback hrule htun hnopath
    -- every application's rule came before and did not match
    have hnone : ∀ app ∈ policy.applications, app.executablePath ≠ c.processPath := by
      intro app happ hsame
      obtain ⟨other, j, hother, hotherPath, hofApp, -, hj⟩ := h.exists_rule happ
      have hbareOther := hbare.application other (List.mem_of_getElem? hother) hotherPath
      have hquiet := hsilent j other hj hother
      rw [Engine.matches_application hbareOther hofApp hc, hsame, beq_self_eq_true] at hquiet
      cases hquiet
    obtain ⟨app, happ⟩ := List.exists_mem_of_ne_nil _ hne
    obtain ⟨-, j, -, -, -, htwo, hj⟩ := h.exists_rule happ
    have hi : 2 ≤ i := htwo.trans hj.le
    rw [h.direct, Engine.expected_of_forall hnone (h.not_bypassed hbare hi hsilent)]

/-- The fallback leaves no connection from the TUN over. -/
theorem AcceptedRules.exists_first (h : AcceptedRules rules policy fallback) (hbare : CheckedBare rules)
    (hc : c.inbound = "managed-tun-in") :
    ∃ rule, (rules.find? fun rule => engine.ruleMatches rule c) = some rule := by
  obtain ⟨hget, htun⟩ := h.fallback_mem
  have hmem := List.mem_of_getElem? hget
  have hinbound : fallback.1.get "inbound" = some (strings ["managed-tun-in"]) := by
    simpa [tunRule] using htun
  have hmatches : engine.ruleMatches fallback.1 c = true := by
    rw [Engine.matches_inbound (hbare.fallback _ hmem htun h.catchAll) hinbound, anyOf, hc]
    rfl
  exact Option.isSome_iff_exists.mp (List.find?_isSome.mpr ⟨fallback.1, hmem, hmatches⟩)

end Table

/-! ### The rendered table -/

section Rendered

variable {policy : WindowsApplicationRouting} {rule : Json}

theorem bare_object {keys : List String} {ms : List (String × Json)}
    (h : ∀ m ∈ ms, m.1 ∈ "outbound" :: keys) :
    Bare keys (.object ms) := by
  obtain ⟨ns, hns, hmem⟩ := Json.exists_members_object ms
  exact ⟨ns, hns, fun m hm => h m (hmem m hm)⟩

theorem bare_inboundRule (inbound outbound : String) : Bare ["inbound"] (inboundRule inbound outbound) :=
  bare_object (by simp)

theorem mem_routeRules (h : rule ∈ routeRules (some policy)) :
    rule ∈ leadingRules ∨ (∃ app ∈ policy.applications, rule = appRule app) ∨ rule = fallbackRule := by
  rw [routeRules_some, List.mem_append, List.mem_append, List.mem_map, List.mem_singleton] at h
  rcases h with (h | ⟨app, happ, rfl⟩) | h
  · exact .inl h
  · exact .inr (.inl ⟨app, happ, rfl⟩)
  · exact .inr (.inr h)

theorem leadingRules_unchecked : ∀ rule ∈ leadingRules, hasProcessPath rule = false ∧
    tunRule rule = false := by
  decide

theorem checkedBare_routeRules (policy : WindowsApplicationRouting) :
    CheckedBare (routeRules (some policy)) where
  warp := by
    rintro rule h
    obtain rfl : directProcessRule warpServiceProcess = rule := Option.some.inj h
    exact bare_object (by simp)
  loopback := by
    rintro rule h
    obtain rfl : directCidrRule loopbackCidrs = rule := Option.some.inj h
    exact bare_object (by simp)
  application := by
    intro rule h hpath
    rcases mem_routeRules h with hleading | ⟨app, -, rfl⟩ | rfl
    · rw [(leadingRules_unchecked rule hleading).1] at hpath
      cases hpath
    · exact bare_object (by simp)
    · rw [fallbackRule_plain.1] at hpath
      cases hpath
  fallback := by
    intro rule h htun hpath
    rcases mem_routeRules h with hleading | ⟨app, -, rfl⟩ | rfl
    · rw [(leadingRules_unchecked rule hleading).2] at htun
      cases htun
    · rw [hasProcessPath_appRule] at hpath
      cases hpath
    · exact bare_inboundRule _ _

theorem foreignInbounds_routeRules (policy : WindowsApplicationRouting) :
    ForeignInbounds (routeRules (some policy)) := by
  rintro rule h ⟨hwarp, hloopback, hpath, htun⟩
  rcases mem_routeRules h with hleading | ⟨app, -, rfl⟩ | rfl
  · simp only [leadingRules, selectorRules, List.mem_cons, List.not_mem_nil, or_false] at hleading
    rcases hleading with rfl | rfl | rfl | rfl
    · exact absurd rfl hwarp
    · exact absurd rfl hloopback
    · exact ⟨bare_inboundRule _ _, [desktopTraceInboundTag], by simp [inboundRule, Json.get_cons], by decide⟩
    · exact ⟨bare_inboundRule _ _, [wslInboundTag], by simp [inboundRule, Json.get_cons], by decide⟩
  · rw [hasProcessPath_appRule] at hpath
    cases hpath
  · rw [fallbackRule_plain.2.1] at htun
    cases htun

end Rendered

/-! ### An example -/

namespace Sample

/-- Rules as documented; of the loopback networks the example needs the one of IPv4. -/
def engine : Engine where
  contains cidr address := cidr == "127.0.0.0/8" && address.toList.take 4 == "127.".toList
  ruleMatches := plainMatches fun cidr address => cidr == "127.0.0.0/8" &&
    address.toList.take 4 == "127.".toList
  ruleMatches_plain _ _ _ _ := rfl

def policy : WindowsApplicationRouting :=
  ⟨toI32 WindowsApplicationScope.selectedApplications,
    [⟨"C:\\Apps\\browser.exe", toI32 WindowsDefaultRoute.autoWarp⟩]⟩

/-- The installed configuration with these rules. -/
def installed (rules : List Json) : Bytes :=
  utf8 (managedConfig (outbounds state tunnel tunnel "auto-direct-tunnel" "auto-direct-tunnel"
    "www.example.com")
    (excludedRoutes "192.0.2.1/32") rules).pretty

/-- A rule for the TUN and another inbound, which is not one for the TUN alone. -/
def shadowingRule : Json :=
  .object [("inbound", strings ["managed-tun-in", "mixed-in"]), ("outbound", .str "vless-reality-direct")]

def shadowedRules : List Json := leadingRules ++ shadowingRule :: policy.applications.map appRule ++
    [fallbackRule]

def browserConnection : Connection :=
  ⟨"managed-tun-in", "C:\\Apps\\browser.exe", "browser.exe", "203.0.113.7"⟩

theorem reads_installed {rules : List Json} (hrules : Json.SizedItems 62 2 600000 rules) :
    Json.parseBytes (installed rules) = some (managedConfig
        (outbounds state tunnel tunnel "auto-direct-tunnel" "auto-direct-tunnel" "www.example.com")
        (excludedRoutes "192.0.2.1/32") rules) ∧
      (installed rules).length ≤ maxConfigBytes ∧ installed rules ≠ [] ∧
      installedRules (installed rules) = rules := by
  have houts : Json.SizedItems 62 3 27000
      (outbounds state tunnel tunnel "auto-direct-tunnel" "auto-direct-tunnel" "www.example.com") := by
    decide
  have hexcluded := sized_excludedRoutes (show Json.quoteSize "192.0.2.1/32" ≤ 400 by decide)
  obtain ⟨hread, hlength⟩ := reads_managedConfig houts hexcluded hrules
  refine ⟨hread, hlength.trans (by decide), pretty_ne_nil hread, ?_⟩
  rw [installedRules, installed, hread]
  simp [managedConfig, arrayAt, Json.get_cons, Json.asArray]

theorem verify_installed {rules rest : List Json} (hrules : Json.SizedItems 62 2 600000 rules)
    (hchecks : checkApplicationRules rules (some policy) = .ok ())
    (hleading : rules = directProcessRule warpServiceProcess :: directCidrRule loopbackCidrs :: rest) :
    verifyManagedApplicationRoutes library (installed rules) (desired "www.example.com") = .ok () := by
  obtain ⟨hread, hlength, hne, -⟩ := reads_installed hrules
  exact verifyManagedApplicationRoutes_of_rules hread hlength hne rfl (by decide) hchecks hleading

end Sample

open Sample in
/-- A rule ahead of the application's takes its connections to another line, and both checks accept it. -/
theorem shadowed_routes_accepted :
    verifyManagedApplicationRoutes library (installed shadowedRules)
        (desired "www.example.com") = .ok () ∧
      requireManagedTunConfig (installed shadowedRules) = .ok () ∧
      selectedPolicy (desired "www.example.com") = some policy ∧
      engine.route (installedRules (installed shadowedRules))
          (installedFinal (installed shadowedRules)) browserConnection =
        some "vless-reality-direct" ∧
      engine.expected policy browserConnection = some "auto-warp-tunnel" := by
  have hsized : Json.SizedItems 62 2 600000 shadowedRules := by decide
  obtain ⟨hread, hlength, hne, hrules⟩ := reads_installed hsized
  refine ⟨verify_installed hsized (by decide) rfl,
    requireManagedTunConfig_ok hread hlength hne (controlRoutes_subset _), rfl, ?_, by decide⟩
  rw [hrules]
  have hfirst : (shadowedRules.find? fun rule => engine.ruleMatches rule browserConnection) =
      some shadowingRule := by decide
  rw [Engine.route, hfirst]
  decide

/-- **What an accepted table does.** If the rules that the check looks at have no further members, the table
follows the policy exactly if no rule that the check reads past is the first to match a connection from the
managed TUN and sends it elsewhere; rules for other inbounds do not. -/
theorem selected_sound_iff (engine : Engine) (lib : Library) (bytes : Bytes) (desired : WindowsDesiredState)
    (policy : WindowsApplicationRouting)
    (haccepted : verifyManagedApplicationRoutes lib bytes desired = .ok ())
    (hselected : selectedPolicy desired = some policy) (hbare : CheckedBare (installedRules bytes)) :
    (engine.SelectedSound (installedRules bytes) (installedFinal bytes) policy ↔
        engine.NoDiversion (installedRules bytes) policy) ∧
      (ForeignInbounds (installedRules bytes) →
        engine.SelectedSound (installedRules bytes) (installedFinal bytes) policy) := by
  obtain ⟨hpolicy, hne, fallback, h⟩ := acceptedRules_of_verify haccepted hselected
  have hsound : engine.NoDiversion (installedRules bytes) policy →
      engine.SelectedSound (installedRules bytes) (installedFinal bytes) policy := by
    intro hnone c hc
    obtain ⟨rule, hfind⟩ := @AcceptedRules.exists_first engine _ _ _ c h hbare hc
    rw [Engine.route, hfind]
    by_cases hunchecked : Unchecked (installedRules bytes) rule
    · exact hnone c rule hc hunchecked hfind
    · obtain ⟨hmatches, i, hrule, hsilent⟩ := Engine.find_eq_some.mp hfind
      exact h.outbound_of_checked hpolicy hne hbare hc hrule hmatches hsilent hunchecked
  refine ⟨⟨?_, hsound⟩, fun hforeign => hsound ?_⟩
  · intro hall c rule hc _ hfind
    have hroute := hall c hc
    rw [Engine.route, hfind] at hroute
    exact hroute
  · intro c rule hc hunchecked hfind
    obtain ⟨hmatches, i, hrule, -⟩ := Engine.find_eq_some.mp hfind
    obtain ⟨hruleBare, values, hinbound, hsome, hforeignTun⟩ :=
      hforeign rule (List.mem_of_getElem? hrule) hunchecked
    rw [Engine.matches_inbound hruleBare hinbound, hc] at hmatches
    simp only [anyOf, Bool.or_eq_true, List.isEmpty_iff, hsome, List.any_eq_true, beq_iff_eq,
      exists_eq_right, hforeignTun, or_self] at hmatches

open Sample in
/-- The table as it is rendered follows the policy. -/
theorem selected_sound_rendered :
    engine.SelectedSound (installedRules (installed (routeRules (some policy))))
      (installedFinal (installed (routeRules (some policy)))) policy := by
  have hsized : Json.SizedItems 62 2 600000 (routeRules (some policy)) := by decide
  obtain ⟨-, -, -, hrules⟩ := reads_installed hsized
  have hbare := checkedBare_routeRules policy
  have hforeign := foreignInbounds_routeRules policy
  rw [← hrules] at hbare hforeign
  exact (selected_sound_iff engine library _ (desired "www.example.com") policy
    (verify_installed hsized (by decide) rfl) rfl hbare).2 hforeign

end EdgePlatform.Singbox
