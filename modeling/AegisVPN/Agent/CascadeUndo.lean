import AegisVPN.Agent.Cascade

namespace AegisVPN
set_option autoImplicit true

/-! ## What the routes put into a config -/

def routeOutbounds (route : DesiredCascadeRoute) : List Outbound :=
  route.exits.map (cascadeOutbound route)

def routeTags (route : DesiredCascadeRoute) : List String :=
  (routeOutbounds route).filterMap Outbound.tag

def routeBalancerTag (route : DesiredCascadeRoute) : String :=
  s!"{tagPrefix}{route.routeId}-balancer"

def routeRule (route : DesiredCascadeRoute) : RoutingRule :=
  ⟨route.inboundTags, some (routeBalancerTag route), ""⟩

def routeBalancer (route : DesiredCascadeRoute) : Balancer :=
  ⟨some (routeBalancerTag route), routeTags route, routeStrategy route, ""⟩

/-- What the loop has collected after these routes. -/
def CascadeParts.adding (parts : CascadeParts) (routes : List DesiredCascadeRoute) :
    CascadeParts where
  claimed := parts.claimed ++ routes.flatMap DesiredCascadeRoute.inboundTags
  outbounds := parts.outbounds ++ routes.flatMap routeOutbounds
  subjects := parts.subjects ++ routes.flatMap routeTags
  rules := parts.rules ++ routes.map routeRule
  balancers := parts.balancers ++ routes.map routeBalancer

theorem addCascadeRoute_adding {parts parts' : CascadeParts}
    (h : addCascadeRoute parts route = .ok parts') : parts' = parts.adding [route] := by
  simp only [addCascadeRoute] at h
  split at h
  · cases h
  split at h
  · cases h
  split at h
  · cases h
  cases h
  simp only [CascadeParts.adding, List.flatMap_singleton, List.map_cons, List.map_nil, routeTags,
    routeOutbounds, routeRule, routeBalancer, routeBalancerTag]

theorem addCascadeRoutes_adding {routes : List DesiredCascadeRoute} {parts parts' : CascadeParts}
    (h : routes.foldlM addCascadeRoute parts = .ok parts') : parts' = parts.adding routes := by
  induction routes generalizing parts with
  | nil =>
    cases h
    simp only [CascadeParts.adding, List.flatMap_nil, List.map_nil, List.append_nil]
  | cons route routes ih =>
    rw [List.foldlM_cons] at h
    cases hadd : addCascadeRoute parts route with
    | error e =>
      rw [hadd] at h
      cases h
    | ok next =>
      rw [hadd] at h
      rw [ih h, addCascadeRoute_adding hadd]
      simp only [CascadeParts.adding, List.flatMap_cons, List.flatMap_nil, List.map_cons,
        List.map_nil, List.append_assoc, List.append_nil, List.cons_append, List.nil_append]

def sortedRoutes (routes : List DesiredCascadeRoute) : List DesiredCascadeRoute :=
  routes.insertionSort fun a b => a.routeId ≤ b.routeId

def partsOf (routes : List DesiredCascadeRoute) : CascadeParts :=
  CascadeParts.adding ⟨[], [], [], [], []⟩ (sortedRoutes routes)

theorem applyCascadeRoutes_parts {first : DesiredCascadeRoute} {rest : List DesiredCascadeRoute}
    (h : applyCascadeRoutes config (first :: rest) = .ok config') :
    (partsOf (first :: rest)).Managed ∧
      config' = cascadedConfig (stripManaged config) first (partsOf (first :: rest)) := by
  obtain ⟨parts, hparts, rfl⟩ := applyCascadeRoutes_cons.1 h
  obtain rfl : parts = partsOf (first :: rest) := addCascadeRoutes_adding hparts
  refine ⟨addCascadeRoutes_managed ?_ hparts, rfl⟩
  constructor <;> simp

/-! ## Foreign content -/

/-- Whether the config has outbounds or balancers of a cascade. -/
def hadManaged (config : XrayConfig) : Bool :=
  (config.outbounds.getD []).any (fun o => isManaged o.tag) ||
    ((config.routing.bind Routing.balancers).getD []).any fun b => isManaged b.tag

def foreignOutbounds (config : XrayConfig) : List Outbound :=
  (config.outbounds.getD []).filter fun o => !isManaged o.tag

def foreignRules (config : XrayConfig) : List RoutingRule :=
  ((config.routing.bind Routing.rules).getD []).filter fun r => !isManaged r.balancerTag

def foreignBalancers (config : XrayConfig) : List Balancer :=
  ((config.routing.bind Routing.balancers).getD []).filter fun b => !isManaged b.tag

/-- What belongs to others is there as before and in its order. An observatory belongs to the
cascade where there is one. -/
structure ForeignKept (config config' : XrayConfig) : Prop where
  outbounds : foreignOutbounds config' = foreignOutbounds config
  rules : foreignRules config' = foreignRules config
  balancers : foreignBalancers config' = foreignBalancers config
  observatory : ∀ o, config.observatory = some o → hadManaged config = false →
    config'.observatory = some o

/-- A config with its missing routing rules written out as none. -/
def XrayConfig.rulesWritten (config : XrayConfig) : XrayConfig :=
  { config with
    routing := some { config.routing.getD ⟨none, none, ""⟩ with
      rules := some ((config.routing.bind Routing.rules).getD []) } }

/-- Without the routes the config is the original one, up to an empty list of rules. -/
def Undone (config config' : XrayConfig) : Prop :=
  ∃ back, applyCascadeRoutes config' [] = .ok back ∧ back.rulesWritten = config.rulesWritten

/-- Nothing in the config is of a cascade. -/
structure CascadeFree (config : XrayConfig) : Prop where
  outbounds : ∀ o ∈ config.outbounds.getD [], isManaged o.tag = false
  rules : ∀ r ∈ (config.routing.bind Routing.rules).getD [], isManaged r.balancerTag = false
  balancers : ∀ b ∈ (config.routing.bind Routing.balancers).getD [], isManaged b.tag = false

/-- The sections that the routes overwrite are not in use. -/
structure Unshared (config : XrayConfig) : Prop where
  outbounds : config.outbounds ≠ none
  balancers : config.routing.bind Routing.balancers = none
  observatory : config.observatory = none

def observatoryOf (routes : List DesiredCascadeRoute) : Observatory where
  subjectSelector := (partsOf routes).subjects
  probeUrl := (routes.head?.bind fun r => truthy r.healthPolicy.probeUrl).getD
    "https://www.gstatic.com/generate_204"
  probeInterval := (routes.head?.bind fun r => truthy r.healthPolicy.probeInterval).getD "10s"
  foreign := ""

theorem stripManaged_observatory (config : XrayConfig) :
    (stripManaged config).observatory =
      if hadManaged config then none else config.observatory := rfl

theorem stripManaged_outbounds (config : XrayConfig) :
    (stripManaged config).outbounds.getD [] = foreignOutbounds config := by
  rw [foreignOutbounds, stripManaged]
  cases config.outbounds <;> rfl

theorem stripRouting_parts (routing : Routing) :
    (stripRouting routing).rules.getD [] =
        (routing.rules.getD []).filter (fun r => !isManaged r.balancerTag) ∧
      (stripRouting routing).balancers.getD [] =
        (routing.balancers.getD []).filter (fun b => !isManaged b.tag) ∧
      (stripRouting routing).foreign = routing.foreign := by
  rw [stripRouting]
  split
  · rename_i hempty
    rw [hempty]
    exact ⟨rfl, rfl, rfl⟩
  · exact ⟨rfl, getD_of_isEmpty _, rfl⟩

theorem stripManaged_rules (config : XrayConfig) :
    (((stripManaged config).routing.bind Routing.rules).getD []) = foreignRules config := by
  rw [foreignRules, stripManaged]
  cases config.routing with
  | none => rfl
  | some routing => exact (stripRouting_parts routing).1

theorem stripManaged_balancers (config : XrayConfig) :
    (((stripManaged config).routing.bind Routing.balancers).getD []) =
      foreignBalancers config := by
  rw [foreignBalancers, stripManaged]
  cases config.routing with
  | none => rfl
  | some routing => exact (stripRouting_parts routing).2.1

theorem foreignOutbounds_strip (config : XrayConfig) :
    foreignOutbounds (stripManaged config) = foreignOutbounds config := by
  rw [foreignOutbounds, stripManaged_outbounds]
  exact filter_again _

theorem foreignRules_strip (config : XrayConfig) :
    foreignRules (stripManaged config) = foreignRules config := by
  rw [foreignRules, stripManaged_rules]
  exact filter_again _

theorem foreignBalancers_strip (config : XrayConfig) :
    foreignBalancers (stripManaged config) = foreignBalancers config := by
  rw [foreignBalancers, stripManaged_balancers]
  exact filter_again _

/-- To remove the routes touches nothing foreign. -/
theorem strip_foreignKept (config : XrayConfig) : ForeignKept config (stripManaged config) where
  outbounds := foreignOutbounds_strip config
  rules := foreignRules_strip config
  balancers := foreignBalancers_strip config
  observatory o ho hm := by
    rw [stripManaged_observatory, hm]
    exact ho

/-! ## Routes in and out again -/

theorem filter_eq_self_iff {tag : α → Option String} (l : List α) :
    (l.filter fun a => !isManaged (tag a)) = l ↔ ∀ a ∈ l, isManaged (tag a) = false := by
  rw [List.filter_eq_self]
  simp only [Bool.not_eq_true']

theorem hadManaged_eq_false : hadManaged config = false ↔
    (∀ o ∈ config.outbounds.getD [], isManaged o.tag = false) ∧
      ∀ b ∈ (config.routing.bind Routing.balancers).getD [], isManaged b.tag = false := by
  rw [hadManaged, Bool.or_eq_false_iff, List.any_eq_false, List.any_eq_false]
  simp only [Bool.not_eq_true]

theorem getD_bind_rules (routing : Option Routing) :
    (routing.getD ⟨none, none, ""⟩).rules.getD [] = (routing.bind Routing.rules).getD [] := by
  cases routing <;> rfl

theorem getD_bind_balancers (routing : Option Routing) :
    (routing.getD ⟨none, none, ""⟩).balancers = routing.bind Routing.balancers := by
  cases routing <;> rfl

section Cascaded
variable {config : XrayConfig} {first : DesiredCascadeRoute} {parts : CascadeParts}

theorem cascaded_outbounds (hparts : parts.Managed) :
    foreignOutbounds (cascadedConfig (stripManaged config) first parts) =
      foreignOutbounds config :=
  (outbounds_stripped hparts config).trans (stripManaged_outbounds config)

theorem cascaded_rules (hparts : parts.Managed) :
    foreignRules (cascadedConfig (stripManaged config) first parts) = foreignRules config := by
  have hkept : ∀ r ∈ foreignRules config, isManaged r.balancerTag = false := by
    intro r hr
    simpa using (List.mem_filter.1 hr).2
  have hlist : parts.rules ++
      ((stripManaged config).routing.getD ⟨none, none, ""⟩).rules.getD [] =
        parts.rules ++ foreignRules config := by rw [getD_bind_rules, stripManaged_rules]
  exact (congrArg (List.filter fun r => !isManaged r.balancerTag) hlist).trans
    (filter_unmanaged hkept hparts.rules).1

theorem cascaded_balancers (hparts : parts.Managed) :
    foreignBalancers (cascadedConfig (stripManaged config) first parts) = [] :=
  List.filter_eq_nil_iff.2 fun b hb => by simp [hparts.balancers b hb]

theorem strip_cascaded (hparts : parts.Managed) (hne : parts.balancers ≠ []) :
    stripManaged (cascadedConfig (stripManaged config) first parts) =
      { stripManaged config with
        outbounds := some (foreignOutbounds config)
        routing := some { (stripManaged config).routing.getD ⟨none, none, ""⟩ with
          rules := some (foreignRules config)
          balancers := none }
        observatory := none } := by
  have hmanaged : hadManaged (cascadedConfig (stripManaged config) first parts) = true := by
    obtain ⟨b, hb⟩ := List.exists_mem_of_ne_nil _ hne
    rw [hadManaged, Bool.or_eq_true]
    exact .inr (List.any_eq_true.2 ⟨b, hb, hparts.balancers b hb⟩)
  have hobservatory := stripManaged_observatory (cascadedConfig (stripManaged config) first parts)
  rw [hmanaged, if_pos rfl] at hobservatory
  have houtbounds : (stripManaged (cascadedConfig (stripManaged config) first parts)).outbounds =
      some (foreignOutbounds config) :=
    congrArg some (@cascaded_outbounds config first parts hparts)
  have hrouting : (stripManaged (cascadedConfig (stripManaged config) first parts)).routing =
      some { (stripManaged config).routing.getD ⟨none, none, ""⟩ with
        rules := some (foreignRules config)
        balancers := none } := by
    rw [← stripManaged_rules, ← getD_bind_rules]
    exact congrArg some (routing_stripped hparts config)
  rw [← houtbounds, ← hrouting, ← hobservatory]
  rfl

theorem cascaded_foreignKept_iff (hparts : parts.Managed) :
    ForeignKept config (cascadedConfig (stripManaged config) first parts) ↔
      foreignBalancers config = [] ∧ ∀ o, config.observatory = some o →
        hadManaged config = false →
          (cascadedConfig (stripManaged config) first parts).observatory = some o := by
  constructor
  · intro h
    exact ⟨by rw [← h.balancers, cascaded_balancers hparts], h.observatory⟩
  · rintro ⟨hbalancers, hobservatory⟩
    refine ⟨cascaded_outbounds hparts, cascaded_rules hparts, ?_, hobservatory⟩
    rw [hbalancers, cascaded_balancers hparts]

end Cascaded

theorem undone_iff (config config' : XrayConfig) : Undone config config' ↔
    (stripManaged config').rulesWritten = config.rulesWritten := by
  rw [Undone, applyCascadeRoutes]
  simp only [Except.ok.injEq, exists_eq_left']

/-- Two configs that agree once the rules are written out. -/
theorem rulesWritten_eq_iff (c c' : XrayConfig) : c.rulesWritten = c'.rulesWritten ↔
    c.inbounds = c'.inbounds ∧ c.outbounds = c'.outbounds ∧ c.observatory = c'.observatory ∧
      (c.routing.bind Routing.rules).getD [] = (c'.routing.bind Routing.rules).getD [] ∧
      c.routing.bind Routing.balancers = c'.routing.bind Routing.balancers ∧
      (c.routing.getD ⟨none, none, ""⟩).foreign = (c'.routing.getD ⟨none, none, ""⟩).foreign := by
  simp only [XrayConfig.rulesWritten, XrayConfig.mk.injEq, Option.some.injEq, Routing.mk.injEq,
    getD_bind_balancers]
  constructor
  · rintro ⟨hi, ho, ⟨hr, hb, hf⟩, hobs⟩
    exact ⟨hi, ho, hobs, hr, hb, hf⟩
  · rintro ⟨hi, ho, hobs, hr, hb, hf⟩
    exact ⟨hi, ho, ⟨hr, hb, hf⟩, hobs⟩

theorem strip_foreign (config : XrayConfig) :
    ((stripManaged config).routing.getD ⟨none, none, ""⟩).foreign =
      (config.routing.getD ⟨none, none, ""⟩).foreign := by
  rw [stripManaged]
  cases config.routing with
  | none => rfl
  | some routing => exact (stripRouting_parts routing).2.2

theorem some_foreignOutbounds (config : XrayConfig) :
    some (foreignOutbounds config) = config.outbounds ↔
      config.outbounds ≠ none ∧ ∀ o ∈ config.outbounds.getD [], isManaged o.tag = false := by
  rw [foreignOutbounds, ← filter_eq_self_iff]
  cases config.outbounds with
  | none => simp
  | some os => simp

theorem strip_outbounds_eq (config : XrayConfig) :
    (stripManaged config).outbounds = config.outbounds ↔
      ∀ o ∈ config.outbounds.getD [], isManaged o.tag = false := by
  rw [stripManaged, ← filter_eq_self_iff]
  cases config.outbounds with
  | none => simp
  | some os => simp

theorem strip_balancers_eq (config : XrayConfig) :
    (stripManaged config).routing.bind Routing.balancers =
        config.routing.bind Routing.balancers ↔
      (∀ b ∈ (config.routing.bind Routing.balancers).getD [], isManaged b.tag = false) ∧
        config.routing.bind Routing.balancers ≠ some [] := by
  rw [stripManaged, ← filter_eq_self_iff]
  cases config.routing with
  | none => simp
  | some routing =>
    simp only [Option.map_some, Option.bind_some, stripRouting]
    split
    · rename_i hempty
      simp [hempty]
    · cases hb : routing.balancers with
      | none => simp
      | some bs =>
        simp only [Option.getD_some, ne_eq, Option.some.injEq]
        cases hf : bs.filter (fun b => !isManaged b.tag) with
        | nil =>
          constructor
          · intro h
            cases h
          · rintro ⟨rfl, hne⟩
            exact absurd rfl hne
        | cons b rest =>
          constructor
          · intro h
            obtain rfl := Option.some.inj h
            exact ⟨rfl, List.cons_ne_nil b rest⟩
          · exact fun h => congrArg some h.1

/-- Routes that apply leave foreign content alone exactly where the config has no balancer of its
own and no observatory of its own. They are undone by an empty list exactly if nothing was of a
cascade before, nor in a section that the routes overwrite. -/
theorem cascade_undone_iff (config config' : XrayConfig) (routes : List DesiredCascadeRoute)
    (h : applyCascadeRoutes config routes = .ok config') :
    (ForeignKept config config' ↔ routes = [] ∨ foreignBalancers config = [] ∧
      ∀ o, config.observatory = some o → hadManaged config = false → observatoryOf routes = o) ∧
    (Undone config config' ↔ CascadeFree config ∧
      (if routes = [] then config.routing.bind Routing.balancers ≠ some []
        else Unshared config)) := by
  cases routes with
  | nil =>
    obtain rfl : stripManaged config = config' := Except.ok.inj h
    refine ⟨iff_of_true (strip_foreignKept config) (.inl rfl), ?_⟩
    rw [undone_iff, stripManaged_again, rulesWritten_eq_iff, strip_outbounds_eq,
      stripManaged_rules, strip_balancers_eq, if_pos rfl, foreignRules, filter_eq_self_iff,
      stripManaged_observatory]
    constructor
    · rintro ⟨_, houtbounds, _, hrules, ⟨hbalancers, hne⟩, _⟩
      exact ⟨⟨houtbounds, hrules, hbalancers⟩, hne⟩
    · rintro ⟨⟨houtbounds, hrules, hbalancers⟩, hne⟩
      have hnone := hadManaged_eq_false.2 ⟨houtbounds, hbalancers⟩
      exact ⟨rfl, houtbounds, by rw [hnone]; rfl, hrules, ⟨hbalancers, hne⟩,
        strip_foreign config⟩
  | cons first rest =>
    obtain ⟨hparts, rfl⟩ := applyCascadeRoutes_parts h
    have hne : (partsOf (first :: rest)).balancers ≠ [] := by
      have hlength : (partsOf (first :: rest)).balancers.length = (first :: rest).length := by
        simp [partsOf, CascadeParts.adding, sortedRoutes, -List.insertionSort_cons]
      exact List.ne_nil_of_length_pos (by rw [hlength]; exact Nat.succ_pos _)
    constructor
    · rw [cascaded_foreignKept_iff hparts]
      simp only [reduceCtorEq, false_or]
      refine and_congr_right fun _ => forall_congr' fun o => forall₂_congr fun _ _ => ?_
      exact Option.some_inj
    · rw [undone_iff, strip_cascaded hparts hne, rulesWritten_eq_iff, if_neg (List.cons_ne_nil _ _)]
      have hrules : foreignRules config = (config.routing.bind Routing.rules).getD [] ↔
          ∀ r ∈ (config.routing.bind Routing.rules).getD [], isManaged r.balancerTag = false := by
        rw [foreignRules, filter_eq_self_iff]
      simp only [Option.bind_some, Option.getD_some, some_foreignOutbounds, hrules, strip_foreign,
        stripManaged_inbounds, true_and, and_true]
      constructor
      · rintro ⟨⟨houtbounds, hfree⟩, hobservatory, hrulesFree, hbalancers⟩
        refine ⟨⟨hfree, hrulesFree, ?_⟩, houtbounds, hbalancers.symm, hobservatory.symm⟩
        rw [← hbalancers]
        exact fun b hb => by cases hb
      · rintro ⟨⟨hfree, hrulesFree, _⟩, houtbounds, hbalancers, hobservatory⟩
        exact ⟨⟨houtbounds, hfree⟩, hobservatory.symm, hrulesFree, hbalancers.symm⟩

/-- A node as it is installed, with one VLESS inbound, and a route for it. -/
def installedConfig : XrayConfig :=
  ⟨[⟨some "vless-in", some 443, "vless", some "tcp", []⟩],
    some [⟨some "direct", .foreign "freedom"⟩, ⟨some "block", .foreign "blackhole"⟩],
    some ⟨some [⟨["api"], none, "api"⟩, ⟨[], none, "direct"⟩], none, ""⟩, none⟩

def exitAbroad : DesiredCascadeExit :=
  ⟨0, "198.51.100.11", 443, "u9", "pk", "sid", "www.cloudflare.com", "/cascade"⟩

def abroadRoute : DesiredCascadeRoute :=
  ⟨4, 2, "", "", ["vless-in"], [], [exitAbroad], ⟨[]⟩⟩

theorem abroadRoute_applies (config : XrayConfig) :
    ∃ config', applyCascadeRoutes config [abroadRoute] = .ok config' := by
  refine (applyCascadeRoutes_ok_iff config [abroadRoute]).2 ⟨fun r hr => ?_, ?_⟩
  · obtain rfl := List.mem_singleton.1 hr
    exact ⟨by decide +kernel, by decide +kernel⟩
  · exact List.pairwise_singleton _ _

/-- The node balances over proxies of its own and observes them. -/
def sharedConfig : XrayConfig :=
  { installedConfig with
    routing := some ⟨some [⟨["api"], none, "api"⟩, ⟨[], some "own", ""⟩],
      some [⟨some "own", ["proxy-"], "leastPing", ""⟩], ""⟩
    observatory := some ⟨["proxy-"], "https://probe", "30s", ""⟩ }

theorem cascade_undone_iff_installed : ∃ config',
    applyCascadeRoutes installedConfig [abroadRoute] = .ok config' ∧
      ForeignKept installedConfig config' ∧ Undone installedConfig config' := by
  obtain ⟨config', h⟩ := abroadRoute_applies installedConfig
  obtain ⟨hkept, hundone⟩ := cascade_undone_iff installedConfig config' [abroadRoute] h
  refine ⟨config', h, hkept.2 (.inr ⟨by decide, fun o ho => by cases ho⟩), hundone.2 ?_⟩
  rw [if_neg (List.cons_ne_nil _ _)]
  exact ⟨⟨by decide, by decide, by decide⟩,
    ⟨by decide, by decide, rfl⟩⟩

/-- The balancers and the observatory of the node are gone after it has been in a cascade. -/
theorem own_balancers_lost : ∃ config',
    applyCascadeRoutes sharedConfig [abroadRoute] = .ok config' ∧
      ¬ ForeignKept sharedConfig config' ∧ ¬ Undone sharedConfig config' := by
  obtain ⟨config', h⟩ := abroadRoute_applies sharedConfig
  obtain ⟨hparts, hconfig⟩ := applyCascadeRoutes_parts h
  refine ⟨config', h, fun hkept => ?_, fun hundone => ?_⟩
  · have hbalancers := hkept.balancers
    rw [hconfig, cascaded_balancers hparts] at hbalancers
    exact absurd hbalancers (by decide)
  · rw [undone_iff, hconfig, strip_cascaded hparts (by decide),
      rulesWritten_eq_iff] at hundone
    cases hundone.2.2.1

end AegisVPN
