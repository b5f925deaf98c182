import AegisVPN.Agent.CascadeRouting
import AegisVPN.Agent.Entrypoint
import AegisVPN.Library.Runs

namespace AegisVPN
open Library
set_option autoImplicit true

/-! ## Boots and reconciles from the template -/

def apiRule : NodeRule where
  inboundTag := some ["api"]
  outboundTag := some "api"

/-- The rules of the template after those of the private network. -/
def templateTail : List NodeRule :=
  [{ protocol := some ["bittorrent"], outboundTag := some "block" },
    { port := some "25", outboundTag := some "block" },
    { domain := some ["geosite:category-ads-all"], outboundTag := some "block" }]

def templateOutbounds : List Outbound :=
  [⟨some "direct", .foreign (Json.obj [("protocol", .str "freedom"),
      ("settings", .obj [("domainStrategy", .str "UseIPv4")])]).canonical⟩,
    ⟨some "block", .foreign (Json.obj [("protocol", .str "blackhole")]).canonical⟩]

def templateConfig (port : Nat) : NodeConfig where
  inbounds := [⟨some "vless-in", some port, "vless", some "tcp", []⟩,
    ⟨some "api", some 10085, "dokodemo-door", none, []⟩]
  outbounds := templateOutbounds
  rules := apiRule :: privateRules ++ templateTail
  balancers := none
  domainStrategy := some "IPOnDemand"
  observatory := none

/-- The file, the environment of the last boot and the routes that were put in last. -/
structure BootState where
  config : NodeConfig
  env : Option BootEnv
  routes : List DesiredCascadeRoute

inductive BootStep
  | boot (env : BootEnv)
  | reconcile (items : List DesiredItem) (nowMs : Nat)

/-- A reconcile that fails on the routes leaves the file alone. -/
def bootStep (s : BootState) : BootStep → BootState
  | .boot env => { s with config := bootRewrite env s.config, env := some env }
  | .reconcile items nowMs =>
    match reconcileFile items nowMs s.config with
    | .ok config => { s with config := config, routes := desiredRoutes items }
    | .error _ => s

def bootStart (port : Nat) : BootState := ⟨templateConfig port, none, []⟩

def bootRun (port : Nat) (steps : List BootStep) : BootState :=
  steps.foldl bootStep (bootStart port)

/-- Routes as the agent parses them have an inbound each. -/
def BootStep.Parsed : BootStep → Prop
  | .boot _ => True
  | .reconcile items _ => ∀ r ∈ desiredRoutes items, r.inboundTags ≠ []

/-! ## The rules after a boot -/

/-- The rules that no boot replaces. -/
def NodeRule.lasting (r : NodeRule) : Bool :=
  !(r.ofWarp || r.ofGames || r.ofPrivate || r.ofProbe || r.catchAll)

def warpRules (active : Bool) : List NodeRule := if active then [gamesRule, warpRule] else []

def probeRules (env : BootEnv) : List NodeRule := if env.probes then [probeRule env] else []

/-- What a boot inserts after the rule of the API. -/
def newRules (env : BootEnv) (active : Bool) : List NodeRule :=
  probeRules env ++ (privateRules ++ warpRules active)

theorem full_ne {host s : String} (h : s.toList.head? ≠ some 'f') : s!"full:{host}" ≠ s := by
  rintro rfl
  apply h
  simp [toString]

theorem probeRule_kind (env : BootEnv) : (probeRule env).ofWarp = false ∧
    (probeRule env).ofGames = false ∧ (probeRule env).ofPrivate = false ∧
      (probeRule env).ofProbe = true ∧ (probeRule env).catchAll = false ∧
      (probeRule env).ofApi = false := by
  have hgames : s!"full:{env.lbProbeHost}" ≠ "geosite:category-games" := full_ne (by decide)
  have hprivate : s!"full:{env.lbProbeHost}" ≠ "geosite:private" := full_ne (by decide)
  refine ⟨rfl, ?_, ?_, rfl, rfl, rfl⟩
  · simpa [NodeRule.ofGames, probeRule] using hgames.symm
  · simpa [NodeRule.ofPrivate, probeRule] using hprivate.symm

theorem mem_probeRules {env : BootEnv} {r : NodeRule} (h : r ∈ probeRules env) :
    env.probes = true ∧ r = probeRule env := by
  rw [probeRules] at h
  split at h
  · rename_i hprobes
    exact ⟨hprobes, List.mem_singleton.1 h⟩
  · cases h

theorem mem_warpRules {active : Bool} {r : NodeRule} (h : r ∈ warpRules active) :
    active = true ∧ (r = gamesRule ∨ r = warpRule) := by
  cases active with
  | false => cases h
  | true => exact ⟨rfl, by simpa [warpRules] using h⟩

/-- No rule that a boot inserts lasts, and none looks like the rule of the API. -/
theorem newRules_kind {env : BootEnv} {active : Bool} {r : NodeRule} (h : r ∈ newRules env active) :
    r.lasting = false ∧ r.ofApi = false := by
  rcases List.mem_append.1 h with h | h
  · obtain ⟨_, rfl⟩ := mem_probeRules h
    obtain ⟨_, _, _, hprobe, _, hapi⟩ := probeRule_kind env
    exact ⟨by simp [NodeRule.lasting, hprobe], hapi⟩
  rcases List.mem_append.1 h with h | h
  · have hall : ∀ r ∈ privateRules, r.lasting = false ∧ r.ofApi = false := by decide
    exact hall r h
  · obtain ⟨_, rfl | rfl⟩ := mem_warpRules h <;> decide

theorem NodeRule.lasting_eq_true {r : NodeRule} : r.lasting = true ↔ r.ofWarp = false ∧
    r.ofGames = false ∧ r.ofPrivate = false ∧ r.ofProbe = false ∧ r.catchAll = false := by
  simp only [NodeRule.lasting, Bool.not_eq_true', Bool.or_eq_false_iff, and_assoc]

section Rules
variable {env : BootEnv} {config : NodeConfig}

theorem ensureWarp_rules (h : warpSource env config = none → ∀ r ∈ config.rules,
    r.ofWarp = false ∧ r.ofGames = false) :
    (ensureWarp env config).rules = insertAfterFirst NodeRule.ofApi
      (warpRules (warpSource env config).isSome)
      (config.rules.filter fun r => !(r.ofWarp || r.ofGames)) := by
  rw [ensureWarp]
  cases hsource : warpSource env config with
  | none =>
    have hall : (config.rules.filter fun r => !(r.ofWarp || r.ofGames)) = config.rules := by
      refine List.filter_eq_self.2 fun r hr => ?_
      simp [h hsource r hr]
    simp only [Option.isSome_none, warpRules, Bool.false_eq_true, ↓reduceIte, hall,
      insertAfterFirst_nil]
  | some warp =>
    simp only [Option.isSome_some, warpRules, ↓reduceIte, List.filter_filter, Bool.not_or,
      Bool.and_comm]

theorem ensureLbProbe_rules (env : BootEnv) (config : NodeConfig) :
    (ensureLbProbe env config).rules = insertAfterFirst NodeRule.ofApi (probeRules env)
      (config.rules.filter fun r => !r.ofProbe) := by
  rw [ensureLbProbe, probeRules]
  split
  · rfl
  · rw [insertAfterFirst_nil]

/-- A boot takes the rules that it owns out and puts them back after the rule of the API. -/
theorem bootRewrite_rules (hwarp : warpSource env config = none → ∀ r ∈ config.rules,
    r.ofWarp = false ∧ r.ofGames = false)
    (hapi : ∀ r ∈ config.rules, r.ofApi = true → r.lasting = true) :
    (bootRewrite env config).rules = insertAfterFirst NodeRule.ofApi
      (newRules env (warpSource env config).isSome) (config.rules.filter NodeRule.lasting) := by
  have hkept : ∀ r ∈ config.rules, r.ofApi = true → r.ofWarp = false ∧ r.ofGames = false ∧
      r.ofPrivate = false ∧ r.ofProbe = false ∧ r.catchAll = false :=
    fun r hr h => NodeRule.lasting_eq_true.1 (hapi r hr h)
  have hmem : ∀ {q : NodeRule → Bool} {l : List NodeRule}, (∀ r ∈ l, r ∈ config.rules) →
      ∀ r ∈ l.filter q, r ∈ config.rules := fun hl r hr => hl r (List.mem_filter.1 hr).1
  have hwarpKind : ∀ r ∈ warpRules (warpSource env config).isSome, r.ofApi = false ∧
      r.ofPrivate = false ∧ r.ofProbe = false ∧ r.catchAll = false := by
    intro r hr
    obtain ⟨_, rfl | rfl⟩ := mem_warpRules hr <;> decide
  have hprivateKind : ∀ r ∈ privateRules, r.ofApi = false ∧ r.ofProbe = false ∧
      r.catchAll = false := by decide
  have hprobeKind : ∀ r ∈ probeRules env, r.ofApi = false ∧ r.catchAll = false := by
    intro r hr
    obtain ⟨_, rfl⟩ := mem_probeRules hr
    exact ⟨rfl, rfl⟩
  have hwarped := @ensureWarp_rules env (rebuildInbounds env config) hwarp
  have hfirst : ∀ r ∈ (rebuildInbounds env config).rules.filter
      (fun r => !(r.ofWarp || r.ofGames)), r ∈ config.rules := hmem fun r hr => hr
  have hblocked : (ensurePrivateBlocked (ensureWarp env (rebuildInbounds env config))).rules =
      insertAfterFirst NodeRule.ofApi (privateRules ++ warpRules (warpSource env config).isSome)
        ((config.rules.filter fun r => !(r.ofWarp || r.ofGames)).filter fun r => !r.ofPrivate) := by
    simp only [ensurePrivateBlocked, hwarped]
    refine insertAfterFirst_filter_again (fun r hr h => ?_) fun r hr => ?_
    · simp [(hkept r (hfirst r hr) h).2.2.1]
    · simp [hwarpKind r hr]
  have hprobed : (ensureLbProbe env (ensurePrivateBlocked (ensureWarp env
      (rebuildInbounds env config)))).rules =
      insertAfterFirst NodeRule.ofApi (newRules env (warpSource env config).isSome)
        (((config.rules.filter fun r => !(r.ofWarp || r.ofGames)).filter fun r =>
          !r.ofPrivate).filter fun r => !r.ofProbe) := by
    rw [ensureLbProbe_rules, hblocked]
    refine insertAfterFirst_filter_again (fun r hr h => ?_) fun r hr => ?_
    · simp [(hkept r (hmem hfirst r hr) h).2.2.2.1]
    · rcases List.mem_append.1 hr with hr | hr
      · simp [hprivateKind r hr]
      · simp [hwarpKind r hr]
  have hnew : (newRules env (warpSource env config).isSome).filter (fun r => !r.catchAll) =
      newRules env (warpSource env config).isSome := by
    refine List.filter_eq_self.2 fun r hr => ?_
    rcases List.mem_append.1 hr with hr | hr
    · simp [hprobeKind r hr]
    rcases List.mem_append.1 hr with hr | hr
    · simp [hprivateKind r hr]
    · simp [hwarpKind r hr]
  rw [bootRewrite, ensureConnLimitReachable, hprobed, filter_insertAfterFirst, hnew]
  · simp only [List.filter_filter]
    refine congrArg _ (List.filter_congr fun r _ => ?_)
    simp only [NodeRule.lasting, Bool.not_or]
    cases r.ofWarp <;> cases r.ofGames <;> cases r.ofPrivate <;> cases r.ofProbe <;>
      cases r.catchAll <;> rfl
  · intro r hr h
    simp [(hkept r (hmem (hmem hfirst) r hr) h).2.2.2.2]

/-- Outbounds that neither a boot nor a reconcile puts in. -/
def ownOutbound (o : Outbound) : Bool :=
  !(isManaged o.tag || tagged "warp" o || tagged "lb-probe" o)

theorem warpSource_tagged {warp : Outbound} (h : warpSource env config = some warp) :
    tagged "warp" warp = true := by
  rw [warpSource] at h
  cases hwarp : env.warp with
  | none =>
    rw [hwarp] at h
    exact List.find?_some h
  | some credentials =>
    rw [hwarp] at h
    cases h
    rfl

def probeOutbounds (env : BootEnv) : List Outbound := if env.probes then [probeOutbound env] else []

theorem mem_probeOutbounds {o : Outbound} (h : o ∈ probeOutbounds env) : o = probeOutbound env := by
  rw [probeOutbounds] at h
  split at h
  · exact List.mem_singleton.1 h
  · cases h

theorem ensureLbProbe_outbounds (env : BootEnv) (config : NodeConfig) :
    (ensureLbProbe env config).outbounds =
      (config.outbounds.filter fun o => !tagged "lb-probe" o) ++ probeOutbounds env := by
  rw [ensureLbProbe, probeOutbounds]
  split
  · rfl
  · rw [List.append_nil]

/-- The WARP outbound goes in front of the last one, the one of the load probe to the end, and the
direct one to the front. -/
theorem bootRewrite_outbounds (env : BootEnv) (config : NodeConfig) :
    (bootRewrite env config).outbounds = moveToFront (tagged "direct")
      (((ensureWarp env config).outbounds.filter fun o => !tagged "lb-probe" o) ++
        probeOutbounds env) := by
  have hwarped : (ensureWarp env (rebuildInbounds env config)).outbounds =
      (ensureWarp env config).outbounds := by
    simp only [ensureWarp, warpSource, rebuildInbounds]
    split <;> rfl
  simp only [bootRewrite, ensureConnLimitReachable, ensureLbProbe_outbounds, ensurePrivateBlocked,
    hwarped]

theorem filter_own_kept {tag : String} (l : List Outbound)
    (h : ∀ o, ownOutbound o = true → tagged tag o = false) :
    (l.filter fun o => !tagged tag o).filter ownOutbound = l.filter ownOutbound := by
  rw [List.filter_filter]
  refine List.filter_congr fun o _ => ?_
  cases ho : ownOutbound o with
  | false => rfl
  | true => simp [h o ho]

theorem ownOutbound_eq_true {o : Outbound} : ownOutbound o = true ↔
    isManaged o.tag = false ∧ tagged "warp" o = false ∧ tagged "lb-probe" o = false := by
  simp only [ownOutbound, Bool.not_eq_true', Bool.or_eq_false_iff, and_assoc]

theorem ensureWarp_own (env : BootEnv) (config : NodeConfig) :
    (ensureWarp env config).outbounds.filter ownOutbound =
      config.outbounds.filter ownOutbound := by
  rw [ensureWarp]
  cases hsource : warpSource env config with
  | none => rfl
  | some warp =>
    have hwarp : ownOutbound warp = false := by
      simp [ownOutbound, warpSource_tagged hsource]
    exact (filter_insertBeforeLast hwarp _).trans
      (filter_own_kept _ fun o ho => (ownOutbound_eq_true.1 ho).2.1)

theorem bootRewrite_own (env : BootEnv) (config : NodeConfig) :
    (bootRewrite env config).outbounds.filter ownOutbound =
      moveToFront (tagged "direct") (config.outbounds.filter ownOutbound) := by
  have hprobe : (probeOutbounds env).filter ownOutbound = [] := by
    refine List.filter_eq_nil_iff.2 fun o ho => ?_
    rw [mem_probeOutbounds ho]
    simp [ownOutbound, tagged, probeOutbound]
  rw [bootRewrite_outbounds, filter_moveToFront, List.filter_append, hprobe, List.append_nil,
    filter_own_kept _ fun o ho => (ownOutbound_eq_true.1 ho).2.2, ensureWarp_own]

theorem bootRewrite_warp (h : (warpSource env config).isSome = true) :
    ∃ o ∈ (bootRewrite env config).outbounds, tagged "warp" o = true := by
  obtain ⟨warp, hsource⟩ := Option.isSome_iff_exists.1 h
  have hwarp := warpSource_tagged hsource
  refine ⟨warp, ?_, hwarp⟩
  have hprobe : tagged "lb-probe" warp = false := by
    simp only [tagged, beq_iff_eq] at hwarp
    simp [tagged, hwarp]
  rw [bootRewrite_outbounds, (moveToFront_perm _ _).mem_iff, List.mem_append, List.mem_filter]
  left
  refine ⟨?_, by simp [hprobe]⟩
  rw [ensureWarp, hsource]
  exact mem_insertBeforeLast.2 (.inl rfl)

theorem warpSource_isSome (h : ∃ o ∈ config.outbounds, tagged "warp" o = true) :
    (warpSource env config).isSome = true := by
  rw [warpSource]
  cases env.warp with
  | none => exact List.find?_isSome.2 h
  | some credentials => rfl

end Rules

/-! ## Reconciles -/

/-- The rules of the routes, as they stand in the file. -/
def managedRules (routes : List DesiredCascadeRoute) : List NodeRule :=
  (sortedRoutes routes).map fun r => NodeRule.ofManaged (routeRule r)

theorem mem_managedRules {routes : List DesiredCascadeRoute} {rule : NodeRule} :
    rule ∈ managedRules routes ↔ ∃ r ∈ routes, rule = NodeRule.ofManaged (routeRule r) := by
  simp only [managedRules, List.mem_map, mem_sortedRoutes, eq_comm]

theorem managedRules_kind {routes : List DesiredCascadeRoute} {rule : NodeRule}
    (h : rule ∈ managedRules routes) :
    isManaged rule.balancerTag = true ∧ rule.lasting = true := by
  obtain ⟨r, _, rfl⟩ := mem_managedRules.1 h
  have hbalancer : isManaged (NodeRule.ofManaged (routeRule r)).balancerTag = true :=
    isManaged_prefix (toString r.routeId ++ "-balancer")
  refine ⟨hbalancer, ?_⟩
  rw [NodeRule.lasting_eq_true]
  exact ⟨rfl, rfl, rfl, rfl, by simp [NodeRule.catchAll, NodeRule.ofManaged]⟩

/-- What a reconcile does to the sections of the file. -/
structure Reconciled (items : List DesiredItem) (nowMs : Nat) (config config' : NodeConfig) :
    Prop where
  inbounds : config'.inbounds = (setClients (desiredClients items nowMs) config).inbounds
  outbounds : config'.outbounds = config.outbounds.filter (fun o => !isManaged o.tag) ++
    (sortedRoutes (desiredRoutes items)).flatMap routeOutbounds
  rules : config'.rules = managedRules (desiredRoutes items) ++
    config.rules.filter fun r => !isManaged r.balancerTag
  strategy : config'.domainStrategy = config.domainStrategy
  disjoint : (desiredRoutes items).Pairwise fun a b => a.inboundTags.Disjoint b.inboundTags

theorem reconcileFile_spec {config config' : NodeConfig}
    (h : reconcileFile items nowMs config = .ok config') :
    Reconciled items nowMs config config' := by
  rw [reconcileFile] at h
  cases happly : applyRoutes config (desiredRoutes items) with
  | error e =>
    rw [happly] at h
    cases h
  | ok applied =>
    rw [happly] at h
    cases h
    have hdisjoint : (desiredRoutes items).Pairwise
        fun a b => a.inboundTags.Disjoint b.inboundTags := by
      have hok := applyRoutes_toXray config (desiredRoutes items)
      rw [happly] at hok
      exact ((applyCascadeRoutes_ok_iff _ _).1 ⟨_, hok.symm⟩).2
    cases hroutes : desiredRoutes items with
    | nil =>
      rw [hroutes] at happly hdisjoint
      cases happly
      refine ⟨rfl, ?_, ?_, rfl, by rw [hroutes]; exact hdisjoint⟩
      · rw [hroutes]
        exact (List.append_nil _).symm
      · rw [hroutes]
        rfl
    | cons first rest =>
      rw [hroutes, applyRoutes] at happly
      simp only [bind] at happly
      cases hparts : (sortedRoutes (first :: rest)).foldlM addCascadeRoute
          ⟨[], [], [], [], []⟩ with
      | error e =>
        rw [hparts] at happly
        cases happly
      | ok parts =>
        rw [hparts] at happly
        cases happly
        obtain rfl := addCascadeRoutes_adding hparts
        refine ⟨rfl, by rw [hroutes]; rfl, ?_, rfl, hdisjoint⟩
        rw [hroutes]
        simp only [setClients, putRoutes, stripRoutes, managedRules, CascadeParts.adding,
          List.nil_append, List.map_map, Function.comp_def]

/-! ## What every run keeps -/

/-- The shape of a file that comes from the template. -/
structure Shaped (s : BootState) : Prop where
  lasting : s.config.rules.filter NodeRule.lasting =
    managedRules s.routes ++ apiRule :: templateTail
  api : ∀ r ∈ s.config.rules, r.ofApi = true → r.lasting = true
  warp : ∀ r ∈ s.config.rules, r.ofWarp = true ∨ r.ofGames = true →
    ∃ o ∈ s.config.outbounds, tagged "warp" o = true
  own : s.config.outbounds.filter ownOutbound = templateOutbounds
  strategy : s.config.domainStrategy = some "IPOnDemand"
  disjoint : s.routes.Pairwise fun a b => a.inboundTags.Disjoint b.inboundTags

theorem Shaped.start (port : Nat) : Shaped (bootStart port) where
  lasting := by
    have hrules : (apiRule :: privateRules ++ templateTail).filter NodeRule.lasting =
        apiRule :: templateTail := by decide
    exact hrules
  api := by
    have hrules : ∀ r ∈ apiRule :: privateRules ++ templateTail,
        r.ofApi = true → r.lasting = true := by decide
    exact hrules
  warp := by
    have hno : ∀ r ∈ apiRule :: privateRules ++ templateTail,
        ¬ (r.ofWarp = true ∨ r.ofGames = true) := by decide
    exact fun r hr h => absurd h (hno r hr)
  own := by
    have houtbounds : templateOutbounds.filter ownOutbound = templateOutbounds := by
      decide
    exact houtbounds
  strategy := rfl
  disjoint := .nil

theorem Shaped.claimed_once (h : Shaped s) {r r' : DesiredCascadeRoute} (hr : r ∈ s.routes)
    (hr' : r' ∈ s.routes) (ht : t ∈ r.inboundTags) (ht' : t ∈ r'.inboundTags) : r = r' := by
  by_contra hne
  have : Std.Symm fun a b : DesiredCascadeRoute => a.inboundTags.Disjoint b.inboundTags :=
    ⟨fun _ _ hab => hab.symm⟩
  exact h.disjoint.forall hr hr' hne ht ht'

theorem Shaped.no_warp (h : Shaped s) (env : BootEnv)
    (hnone : warpSource env s.config = none) :
    ∀ r ∈ s.config.rules, r.ofWarp = false ∧ r.ofGames = false := by
  intro r hr
  by_contra hne
  have hwarp : r.ofWarp = true ∨ r.ofGames = true := by
    cases hw : r.ofWarp with
    | true => exact .inl rfl
    | false =>
      right
      by_contra hg
      exact hne ⟨hw, by simpa using hg⟩
  have hsome := @warpSource_isSome env s.config (h.warp r hr hwarp)
  rw [hnone] at hsome
  cases hsome

theorem Shaped.boot_rules (h : Shaped s) (env : BootEnv) :
    (bootRewrite env s.config).rules = insertAfterFirst NodeRule.ofApi
      (newRules env (warpSource env s.config).isSome)
      (managedRules s.routes ++ apiRule :: templateTail) := by
  rw [bootRewrite_rules (h.no_warp env) h.api, h.lasting]

theorem lasting_shape (routes : List DesiredCascadeRoute) :
    ∀ r ∈ managedRules routes ++ apiRule :: templateTail, r.lasting = true := by
  have htemplate : ∀ r ∈ apiRule :: templateTail, r.lasting = true := by decide
  intro r hr
  rcases List.mem_append.1 hr with hr | hr
  · exact (managedRules_kind hr).2
  · exact htemplate r hr

/-- Where a boot puts its rules: after the API's, or after the rule of a route that claims just the
API's inbound. -/
theorem Shaped.boot_split (h : Shaped s) (env : BootEnv) :
    ((∀ r ∈ managedRules s.routes, r.ofApi = false) ∧
      (bootRewrite env s.config).rules = managedRules s.routes ++ apiRule ::
        (newRules env (warpSource env s.config).isSome ++ templateTail)) ∨
    ∃ a m b, managedRules s.routes = a ++ m :: b ∧ (∀ r ∈ a, r.ofApi = false) ∧
      m.ofApi = true ∧ (bootRewrite env s.config).rules = a ++ m ::
        (newRules env (warpSource env s.config).isSome ++ (b ++ apiRule :: templateTail)) := by
  rw [h.boot_rules env]
  rcases split_first NodeRule.ofApi (managedRules s.routes) with hnone | ⟨a, m, b, hsplit, ha, hm⟩
  · exact .inl ⟨hnone, insertAfterFirst_split hnone rfl⟩
  · refine .inr ⟨a, m, b, hsplit, ha, hm, ?_⟩
    rw [hsplit, List.append_assoc, List.cons_append, insertAfterFirst_split ha hm]

/-- No route but the last claims just the inbound of the API, so that no boot takes its rule for
the rule of the API and inserts in front of the others. -/
def RoutesPlain (routes : List DesiredCascadeRoute) : Prop :=
  ∀ r ∈ (sortedRoutes routes).dropLast, r.inboundTags ≠ ["api"]

instance : Decidable (RoutesPlain routes) := by unfold RoutesPlain; infer_instance

theorem ofApi_managed (r : DesiredCascadeRoute) :
    (NodeRule.ofManaged (routeRule r)).ofApi = decide (r.inboundTags = ["api"]) := by
  rw [NodeRule.ofApi, Bool.beq_eq_decide_eq]
  simp [NodeRule.ofManaged, routeRule]

theorem RoutesPlain.last_claims_api (h : RoutesPlain routes)
    (hsplit : managedRules routes = a ++ m :: b) (hm : m.ofApi = true) : b = [] := by
  obtain ⟨before, after, hroutes, _, hafter⟩ := List.map_eq_append_iff.1 hsplit
  obtain ⟨r, rest, rfl, rfl, rfl⟩ := List.map_eq_cons_iff.1 hafter
  rw [ofApi_managed, decide_eq_true_eq] at hm
  by_contra hne
  have hrest : rest ≠ [] := fun hnil => hne (by rw [hnil]; rfl)
  refine h r ?_ hm
  rw [hroutes, List.dropLast_append_of_ne_nil (List.cons_ne_nil _ _), List.dropLast_cons_of_ne_nil
    hrest]
  exact List.mem_append_right _ List.mem_cons_self

theorem moveToFront_template :
    moveToFront (tagged "direct") templateOutbounds = templateOutbounds := by decide

theorem Shaped.boot (h : Shaped s) (env : BootEnv) : Shaped (bootStep s (.boot env)) where
  lasting := by
    have hnew : (newRules env (warpSource env s.config).isSome).filter NodeRule.lasting = [] :=
      List.filter_eq_nil_iff.2 fun r hr => by simp [newRules_kind hr]
    have hold : (managedRules s.routes ++ apiRule :: templateTail).filter NodeRule.lasting =
        managedRules s.routes ++ apiRule :: templateTail :=
      List.filter_eq_self.2 (lasting_shape s.routes)
    have hrules := h.boot_rules env
    simp only [bootStep, hrules]
    rw [filter_insertAfterFirst fun r hr _ => lasting_shape _ r hr, hnew, hold,
      insertAfterFirst_nil]
  api := by
    simp only [bootStep, h.boot_rules env]
    intro r hr hapi
    rcases mem_insertAfterFirst.1 hr with hr | hr
    · rw [(newRules_kind hr).2] at hapi
      cases hapi
    · exact lasting_shape _ r hr
  warp := by
    simp only [bootStep, h.boot_rules env]
    intro r hr hwarp
    apply bootRewrite_warp
    by_contra hnone
    have hinactive : (warpSource env s.config).isSome = false := by simpa using hnone
    rw [hinactive] at hr
    rcases mem_insertAfterFirst.1 hr with hr | hr
    · -- what is inserted without WARP is of the load probe or of the private network
      rcases List.mem_append.1 hr with hr | hr
      · obtain ⟨_, rfl⟩ := mem_probeRules hr
        obtain ⟨hw, hg, _⟩ := probeRule_kind env
        rw [hw, hg] at hwarp
        simp at hwarp
      · have hno : ∀ r ∈ privateRules ++ warpRules false,
            ¬ (r.ofWarp = true ∨ r.ofGames = true) := by decide
        exact hno r hr hwarp
    · obtain ⟨hw, hg, _⟩ := NodeRule.lasting_eq_true.1 (lasting_shape _ r hr)
      rw [hw, hg] at hwarp
      simp at hwarp
  own := by
    simp only [bootStep]
    rw [bootRewrite_own, h.own, moveToFront_template]
  strategy := by
    simp only [bootStep, bootRewrite, ensureConnLimitReachable, ensureLbProbe]
    split <;> rfl
  disjoint := h.disjoint

theorem filter_unmanaged_template :
    (apiRule :: templateTail).filter (fun r => !isManaged r.balancerTag) =
      apiRule :: templateTail := by decide

theorem managedRules_filter (routes : List DesiredCascadeRoute) :
    (managedRules routes).filter (fun r => !isManaged r.balancerTag) = [] :=
  List.filter_eq_nil_iff.2 fun r hr => by simp [(managedRules_kind hr).1]

theorem Reconciled.shaped (hr : Reconciled items nowMs s.config config') (h : Shaped s) :
    Shaped ⟨config', env, desiredRoutes items⟩ where
  lasting := by
    have hmanaged : (managedRules (desiredRoutes items)).filter NodeRule.lasting =
        managedRules (desiredRoutes items) :=
      List.filter_eq_self.2 fun r hmem => (managedRules_kind hmem).2
    have hold : (s.config.rules.filter fun r => !isManaged r.balancerTag).filter
        NodeRule.lasting = apiRule :: templateTail := by
      have hswap : (s.config.rules.filter fun r => !isManaged r.balancerTag).filter
          NodeRule.lasting = (s.config.rules.filter NodeRule.lasting).filter
            fun r => !isManaged r.balancerTag := by
        simp only [List.filter_filter, Bool.and_comm]
      rw [hswap, h.lasting, List.filter_append, managedRules_filter, List.nil_append,
        filter_unmanaged_template]
    rw [hr.rules, List.filter_append, hmanaged, hold]
  api := by
    rw [hr.rules]
    intro r hmem hapi
    rcases List.mem_append.1 hmem with hmem | hmem
    · exact (managedRules_kind hmem).2
    · exact h.api r (List.mem_filter.1 hmem).1 hapi
  warp := by
    rw [hr.rules, hr.outbounds]
    intro r hmem hwarp
    rcases List.mem_append.1 hmem with hmem | hmem
    · obtain ⟨hw, hg, _⟩ := NodeRule.lasting_eq_true.1 (managedRules_kind hmem).2
      rw [hw, hg] at hwarp
      simp at hwarp
    · obtain ⟨o, ho, htag⟩ := h.warp r (List.mem_filter.1 hmem).1 hwarp
      refine ⟨o, List.mem_append_left _ (List.mem_filter.2 ⟨ho, ?_⟩), htag⟩
      simp only [tagged, beq_iff_eq] at htag
      rw [htag]
      decide
  own := by
    have hmanaged : ((sortedRoutes (desiredRoutes items)).flatMap routeOutbounds).filter
        ownOutbound = [] := by
      refine List.filter_eq_nil_iff.2 fun o ho => ?_
      obtain ⟨r, _, ho⟩ := List.mem_flatMap.1 ho
      obtain ⟨e, _, rfl⟩ := List.mem_map.1 ho
      have htag : isManaged (cascadeOutbound r e).tag = true :=
        isManaged_prefix (toString r.routeId ++ "-exit-" ++ toString e.position)
      simp [ownOutbound, htag]
    have hold : (s.config.outbounds.filter fun o => !isManaged o.tag).filter ownOutbound =
        s.config.outbounds.filter ownOutbound := by
      rw [List.filter_filter]
      refine List.filter_congr fun o _ => ?_
      cases ho : ownOutbound o with
      | false => rfl
      | true => simp [(ownOutbound_eq_true.1 ho).1]
    rw [hr.outbounds, List.filter_append, hmanaged, List.append_nil, hold, h.own]
  strategy := hr.strategy.trans h.strategy
  disjoint := hr.disjoint

theorem Shaped.step (h : Shaped s) (e : BootStep) : Shaped (bootStep s e) := by
  cases e with
  | boot env => exact h.boot env
  | reconcile items nowMs =>
    rw [bootStep]
    cases hfile : reconcileFile items nowMs s.config with
    | error e => exact h
    | ok config => exact (reconcileFile_spec hfile).shaped h

theorem Shaped.run (port : Nat) (steps : List BootStep) : Shaped (bootRun port steps) :=
  List.foldlRecOn (motive := Shaped) steps bootStep (.start port) fun _ h e _ => h.step e

end AegisVPN
