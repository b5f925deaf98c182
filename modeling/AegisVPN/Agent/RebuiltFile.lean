import AegisVPN.Agent.BootRuns
import AegisVPN.Agent.LiveDelta
import AegisVPN.Library.TextLines

namespace AegisVPN
open Library
set_option autoImplicit true

/-! ## The inbounds of a boot -/

def bareInbound (p : Nat × String × String) : Inbound := buildInbound [] p.1 p.2.1 p.2.2

/-- The inbound with the clients that a reconcile gives it. -/
def servedInbound (clients : List DesiredClient) (p : Nat × String × String) : Inbound :=
  { bareInbound p with clients := desiredRecords clients (bareInbound p) }

/-- The VLESS inbounds of the config are those of the environment, in front of the others. -/
structure Framed (env : BootEnv) (config : NodeConfig) : Prop where
  vless : (config.inbounds.filter Inbound.isVless).map (fun i => { i with clients := [] }) =
    env.inbounds.map bareInbound
  first : moveToFront Inbound.isVless config.inbounds = config.inbounds

theorem inbounds_cons (env : BootEnv) :
    ∃ rest, env.inbounds = (env.port, env.transport, "vless-in") :: rest :=
  ⟨_, by rw [BootEnv.inbounds, List.append_assoc, List.singleton_append]⟩

theorem bootRewrite_inbounds (env : BootEnv) (config : NodeConfig) :
    (bootRewrite env config).inbounds = (rebuildInbounds env config).inbounds := by
  have hwarp : ∀ c, (ensureWarp env c).inbounds = c.inbounds := by
    intro c
    rw [ensureWarp]
    split <;> rfl
  have hprobe : ∀ c, (ensureLbProbe env c).inbounds = c.inbounds := by
    intro c
    rw [ensureLbProbe]
    split <;> rfl
  simp only [bootRewrite, ensureConnLimitReachable, hprobe, ensurePrivateBlocked, hwarp]

theorem filter_built (env : BootEnv) (clients : List (String × ClientRecord)) :
    (env.inbounds.map fun p => buildInbound clients p.1 p.2.1 p.2.2).filter Inbound.isVless =
      env.inbounds.map fun p => buildInbound clients p.1 p.2.1 p.2.2 := by
  refine List.filter_eq_self.2 fun i hi => ?_
  obtain ⟨p, _, rfl⟩ := List.mem_map.1 hi
  rfl

theorem Framed.boot (env : BootEnv) (config : NodeConfig) :
    Framed env (bootRewrite env config) := by
  have hbuilt := filter_built env (clientMap config.inbounds)
  have hvless : (bootRewrite env config).inbounds.filter Inbound.isVless =
      env.inbounds.map fun p => buildInbound (clientMap config.inbounds) p.1 p.2.1 p.2.2 := by
    rw [bootRewrite_inbounds, rebuildInbounds, List.filter_append, hbuilt]
    have hnone : (config.inbounds.filter fun i => !i.isVless).filter Inbound.isVless = [] :=
      List.filter_eq_nil_iff.2 fun i hi => by simpa using (List.mem_filter.1 hi).2
    rw [hnone, List.append_nil]
  constructor
  · rw [hvless, List.map_map]
    rfl
  · rw [bootRewrite_inbounds, rebuildInbounds, moveToFront_eq_self_iff, List.pairwise_append]
    refine ⟨?_, ?_, ?_⟩
    · refine List.pairwise_of_forall_mem_list fun i hi _ _ _ => ?_
      obtain ⟨p, _, rfl⟩ := List.mem_map.1 hi
      rfl
    · refine List.pairwise_of_forall_mem_list fun i _ j hj hv => ?_
      simp [hv] at hj
    · intro i hi _ _ _
      obtain ⟨p, _, rfl⟩ := List.mem_map.1 hi
      rfl

theorem Framed.served (h : Framed env config) (clients : List DesiredClient) :
    (setClients clients config).inbounds.filter Inbound.isVless =
      env.inbounds.map (servedInbound clients) := by
  have hfilter : (setClients clients config).inbounds.filter Inbound.isVless =
      (config.inbounds.filter Inbound.isVless).map fun i =>
        { i with clients := desiredRecords clients i } := by
    have hvless := listVlessInbounds_mapVless (desiredRecords clients) config.toXray
    exact hvless
  have hbare : (fun i : Inbound => { i with clients := desiredRecords clients i }) =
      (fun i => { i with clients := desiredRecords clients i }) ∘
        fun i : Inbound => { i with clients := [] } := rfl
  rw [hfilter, hbare, ← List.map_map, h.vless, List.map_map]
  rfl

theorem Framed.setClients (h : Framed env config) (clients : List DesiredClient) :
    Framed env (setClients clients config) := by
  constructor
  · rw [h.served, List.map_map]
    rfl
  · rw [moveToFront_eq_self_iff]
    refine List.pairwise_map.2 ((moveToFront_eq_self_iff.1 h.first).imp fun {i j} hij => ?_)
    have hsame : ∀ i : Inbound, (if i.isVless then { i with
        clients := desiredRecords clients i } else i).isVless = i.isVless := by
      intro i
      split <;> rfl
    rw [hsame, hsame]
    exact hij

theorem Framed.congr (h : Framed env config) (hi : config'.inbounds = config.inbounds) :
    Framed env config' := by
  constructor
  · rw [hi, h.vless]
  · rw [hi, h.first]

theorem Framed.run (port : Nat) (steps : List BootStep) :
    ∀ env, (bootRun port steps).env = some env → Framed env (bootRun port steps).config := by
  have hstart : ∀ env, (bootStart port).env = some env → Framed env (bootStart port).config := by
    intro env henv
    cases henv
  refine List.foldlRecOn (motive := fun s => ∀ env, s.env = some env → Framed env s.config) steps
    bootStep hstart fun s hs e _ => ?_
  cases e with
  | boot env =>
    intro env' henv
    cases henv
    exact .boot env s.config
  | reconcile items nowMs =>
    rw [bootStep]
    cases hfile : reconcileFile items nowMs s.config with
    | error e => exact hs
    | ok config =>
      intro env henv
      exact ((hs env henv).setClients (desiredClients items nowMs)).congr
        (reconcileFile_spec hfile).inbounds

/-! ## The clients of a boot -/

/-- What a boot knows of the clients that it finds, in one inbound as in all. -/
def knownClients (clients : List DesiredClient) : List (String × ClientRecord) :=
  clients.filterMap fun c =>
    (truthy (some c.uuid)).map fun id => (id, ⟨some c.uuid, some c.email, none, []⟩)

/-- The boot and the agent agree on which inbounds carry the vision flow. -/
def FlowsAgree (env : BootEnv) : Prop :=
  ∀ p ∈ env.inbounds, p.2.1 = "tcp" ↔ getTransportType (bareInbound p) = .tcp

theorem transport_lower (env : BootEnv) : env.transport.toLower = env.transport := by
  rw [BootEnv.transport]
  split
  · decide +kernel
  · exact toLower_again env.network

theorem mem_inbounds_transport {env : BootEnv} {p : Nat × String × String} (h : p ∈ env.inbounds) :
    p.2.1 = env.transport ∨ p.2.1 = "tcp" ∨ p.2.1 = "grpc" := by
  rw [BootEnv.inbounds, List.mem_append, List.mem_append] at h
  rcases h with (h | h) | h
  · obtain rfl := List.mem_singleton.1 h
    exact .inl rfl
  · obtain ⟨_, _, rfl⟩ := List.mem_map.1 h
    exact .inr (.inl rfl)
  · obtain ⟨_, _, rfl⟩ := List.mem_map.1 h
    exact .inr (.inr rfl)

theorem bare_transport (p : Nat × String × String) :
    getTransportType (bareInbound p) = .tcp ↔
      p.2.1.toLower ≠ "grpc" ∧ p.2.1.toLower ≠ "xhttp" := by
  rw [getTransportType, bareInbound, buildInbound, truthy]
  by_cases hempty : p.2.1 = ""
  · rw [if_pos hempty, hempty]
    decide +kernel
  · rw [if_neg hempty, Option.map_some]
    split <;> simp_all

/-- The agent takes a transport that it does not know for tcp, the boot does not. -/
theorem flowsAgree_iff {env : BootEnv} :
    FlowsAgree env ↔ env.transport ∈ ["tcp", "xhttp", "grpc"] := by
  constructor
  · intro h
    obtain ⟨rest, hrest⟩ := inbounds_cons env
    have hfirst := h (env.port, env.transport, "vless-in") (by
      rw [hrest]
      exact List.mem_cons_self)
    rw [bare_transport] at hfirst
    simp only [transport_lower] at hfirst
    simp only [List.mem_cons, List.not_mem_nil, or_false]
    tauto
  · intro h p hp
    have htransport : p.2.1 ∈ ["tcp", "xhttp", "grpc"] := by
      rcases mem_inbounds_transport hp with heq | heq | heq
      · rw [heq]
        exact h
      · simp [heq]
      · simp [heq]
    rw [bare_transport]
    simp only [List.mem_cons, List.not_mem_nil, or_false] at htransport
    rcases htransport with heq | heq | heq <;> rw [heq] <;> decide +kernel

structure UsableUuids (clients : List DesiredClient) : Prop where
  distinct : DistinctUuids clients
  nonempty : ∀ c ∈ clients, c.uuid ≠ ""

theorem clientMap_served (env : BootEnv) (clients : List DesiredClient)
    {inbounds : List Inbound}
    (h : inbounds.filter Inbound.isVless = env.inbounds.map (servedInbound clients)) :
    clientMap inbounds = dictOf (env.inbounds.flatMap fun _ => knownClients clients) := by
  rw [clientMap, h, List.flatMap_map]
  refine congrArg dictOf (List.flatMap_congr fun p _ => ?_)
  simp only [servedInbound, desiredRecords, List.filterMap_map, knownClients]
  rfl

theorem knownClients_eq (h : UsableUuids clients) : knownClients clients =
    clients.map fun c => (c.uuid, ⟨some c.uuid, some c.email, none, []⟩) := by
  rw [knownClients, ← List.filterMap_eq_map]
  refine List.filterMap_congr fun c hc => ?_
  simp [truthy, h.nonempty c hc]

theorem clientMap_usable (h : UsableUuids clients) (env : BootEnv) :
    dictOf (env.inbounds.flatMap fun _ => knownClients clients) = knownClients clients := by
  have hkeys : ((knownClients clients).map Prod.fst).Nodup := by
    rw [knownClients_eq h, List.map_map]
    exact h.distinct
  obtain ⟨rest, hrest⟩ := inbounds_cons env
  rw [hrest, List.flatMap_cons, dictOf, List.foldl_append]
  have hfirst : (knownClients clients).foldl dictSet [] = knownClients clients := dictOf_eq hkeys
  rw [hfirst]
  refine foldl_dictSet_self hkeys fun p hp => ?_
  obtain ⟨_, _, hp⟩ := List.mem_flatMap.1 hp
  exact hp

theorem mem_known_dict {env : BootEnv} {q : String × ClientRecord}
    (h : q ∈ dictOf (env.inbounds.flatMap fun _ => knownClients clients)) :
    q.2.id = some q.1 ∧ q.1 ≠ "" := by
  obtain ⟨k, v⟩ := q
  have hlookup := mem_of_lookup (mem_dictOf.1 h)
  obtain ⟨_, _, hmem⟩ := List.mem_flatMap.1 (List.mem_reverse.1 hlookup)
  obtain ⟨c, _, hc⟩ := List.mem_filterMap.1 hmem
  obtain ⟨id, hid, heq⟩ := Option.map_eq_some_iff.1 hc
  cases heq
  exact truthy_some.1 hid

theorem built_eq_desired (env : BootEnv) (clients : List DesiredClient) :
    (∀ p ∈ env.inbounds, (dictOf (env.inbounds.flatMap fun _ => knownClients clients)).map
        (fun q => { q.2 with flow := if p.2.1 = "tcp" then some "xtls-rprx-vision" else none }) =
      desiredRecords clients (bareInbound p)) ↔
    UsableUuids clients ∧ (clients = [] ∨ FlowsAgree env) := by
  constructor
  · intro h
    have husable : UsableUuids clients := by
      obtain ⟨rest, hrest⟩ := inbounds_cons env
      have hfirst := h (env.port, env.transport, "vless-in") (by
        rw [hrest]
        exact List.mem_cons_self)
      have hkeys : ∀ q ∈ dictOf (env.inbounds.flatMap fun _ => knownClients clients),
          q.2.id = some q.1 ∧ q.1 ≠ "" := fun q hq => mem_known_dict hq
      have hnodup := dictOf_keys (env.inbounds.flatMap fun _ => knownClients clients)
      generalize dictOf (env.inbounds.flatMap fun _ => knownClients clients) = known
        at hfirst hkeys hnodup
      have hids : known.map Prod.fst = clients.map DesiredClient.uuid := by
        have hsome := congrArg (List.map ClientRecord.id) hfirst
        rw [desiredRecords_ids, List.map_map] at hsome
        refine (List.map_injective_iff.2 (Option.some_injective _)) ?_
        rw [← hsome, List.map_map]
        exact List.map_congr_left fun q hq => (hkeys q hq).1.symm
      constructor
      · rw [hids] at hnodup
        exact hnodup
      · intro c hc
        have hmem : c.uuid ∈ known.map Prod.fst := by
          rw [hids]
          exact List.mem_map_of_mem hc
        obtain ⟨q, hq, heq⟩ := List.mem_map.1 hmem
        rw [← heq]
        exact (hkeys q hq).2
    refine ⟨husable, ?_⟩
    cases clients with
    | nil => exact .inl rfl
    | cons c clients =>
      right
      intro p hp
      have hflow := h p hp
      rw [clientMap_usable husable, knownClients_eq husable, desiredRecords, List.map_cons,
        List.map_cons, List.map_cons] at hflow
      have hhead := congrArg ClientRecord.flow (List.cons.inj hflow).1
      simp only [buildClientRecord] at hhead
      by_cases htcp : p.2.1 = "tcp" <;> by_cases htype : getTransportType (bareInbound p) = .tcp <;>
        simp_all
  · rintro ⟨husable, hflows⟩ p hp
    rw [clientMap_usable husable, knownClients_eq husable, desiredRecords, List.map_map]
    refine List.map_congr_left fun c hc => ?_
    have hagree : p.2.1 = "tcp" ↔ getTransportType (bareInbound p) = .tcp := by
      rcases hflows with rfl | hflows
      · cases hc
      · exact hflows p hp
    simp only [Function.comp_apply, buildClientRecord, hagree]

theorem boot_inbounds_kept {config file : NodeConfig} (h : Framed env config)
    (hfile : file.inbounds = (setClients clients config).inbounds) :
    (bootRewrite env file).inbounds = file.inbounds ↔
      UsableUuids clients ∧ (clients = [] ∨ FlowsAgree env) := by
  have hvless : file.inbounds.filter Inbound.isVless =
      env.inbounds.map (servedInbound clients) := by
    rw [hfile, h.served]
  have hfirst : env.inbounds.map (servedInbound clients) ++
      file.inbounds.filter (fun i => !i.isVless) = file.inbounds := by
    rw [← hvless]
    exact ((h.setClients clients).congr hfile).first
  have hsame : (bootRewrite env file).inbounds = file.inbounds ↔
      (env.inbounds.map fun p => buildInbound (dictOf (env.inbounds.flatMap fun _ =>
        knownClients clients)) p.1 p.2.1 p.2.2) = env.inbounds.map (servedInbound clients) := by
    rw [bootRewrite_inbounds, rebuildInbounds, clientMap_served env clients hvless]
    nth_rewrite 2 [← hfirst]
    exact List.append_cancel_right_eq _ _ _ |>.to_iff
  rw [hsame, ← built_eq_desired, List.map_inj_left]
  refine forall₂_congr fun p _ => ?_
  rw [buildInbound, servedInbound, bareInbound, buildInbound, Inbound.mk.injEq]
  simp only [true_and]
/-! ## The routes of a boot -/

/-- The config with exactly these routes, when the rest of it has kept their balancers. -/
def withRoutes (routes : List DesiredCascadeRoute) (config : NodeConfig) : NodeConfig :=
  { config with
    outbounds := config.outbounds.filter (fun o => !isManaged o.tag) ++
      (sortedRoutes routes).flatMap routeOutbounds
    rules := managedRules routes ++ config.rules.filter fun r => !isManaged r.balancerTag }

theorem applyRoutes_rewritten {config applied rewritten : NodeConfig}
    (h : applyRoutes config routes = .ok applied)
    (hbalancers : rewritten.balancers = applied.balancers)
    (hobservatory : rewritten.observatory = applied.observatory)
    (hnone : routes = [] → ∀ o ∈ rewritten.outbounds, isManaged o.tag = false) :
    applyRoutes rewritten routes = .ok (withRoutes routes rewritten) := by
  cases routes with
  | nil =>
    cases h
    have hkept : (rewritten.balancers.getD []).filter (fun b => !isManaged b.tag) =
        rewritten.balancers.getD [] := by
      rw [hbalancers, stripRoutes, getD_of_isEmpty, filter_again]
    have hsame : (if (rewritten.balancers.getD []).isEmpty then none
        else some (rewritten.balancers.getD [])) = rewritten.balancers := by
      rw [hbalancers, stripRoutes, getD_of_isEmpty]
    have hmanaged : rewritten.hadManaged = false := by
      rw [NodeConfig.hadManaged, Bool.or_eq_false_iff, List.any_eq_false, List.any_eq_false]
      constructor
      · intro o ho
        simp [hnone rfl o ho]
      · intro b hb
        rw [← hkept] at hb
        simpa using (List.mem_filter.1 hb).2
    refine congrArg Except.ok ?_
    simp only [stripRoutes, hkept, hsame, hmanaged, Bool.false_eq_true, ↓reduceIte]
    rw [withRoutes]
    exact congrArg (fun os => ({ rewritten with
      outbounds := os
      rules := rewritten.rules.filter fun r => !isManaged r.balancerTag } : NodeConfig))
      (List.append_nil _).symm
  | cons first rest =>
    rw [applyRoutes] at h ⊢
    simp only [bind] at h ⊢
    cases hparts : (sortedRoutes (first :: rest)).foldlM addCascadeRoute ⟨[], [], [], [], []⟩ with
    | error e =>
      rw [hparts] at h
      cases h
    | ok parts =>
      rw [hparts] at h
      cases h
      obtain rfl := addCascadeRoutes_adding hparts
      simp only [Except.bind, withRoutes, hbalancers, hobservatory, putRoutes, stripRoutes,
        managedRules, CascadeParts.adding, List.nil_append, List.map_map, Function.comp_def]

theorem bootRewrite_balancers (env : BootEnv) (config : NodeConfig) :
    (bootRewrite env config).balancers = config.balancers ∧
      (bootRewrite env config).observatory = config.observatory := by
  have hwarp : (ensureWarp env (rebuildInbounds env config)).balancers = config.balancers ∧
      (ensureWarp env (rebuildInbounds env config)).observatory = config.observatory := by
    rw [ensureWarp]
    split <;> exact ⟨rfl, rfl⟩
  simp only [bootRewrite, ensureConnLimitReachable, ensureLbProbe]
  split <;> exact hwarp

theorem newRules_foreign {env : BootEnv} {active : Bool} {r : NodeRule}
    (h : r ∈ newRules env active) : isManaged r.balancerTag = false := by
  have hnone : isManaged none = false := by decide
  rcases List.mem_append.1 h with h | h
  · obtain ⟨_, rfl⟩ := mem_probeRules h
    exact hnone
  rcases List.mem_append.1 h with h | h
  · have hall : ∀ r ∈ privateRules, r.balancerTag = none := by decide
    rw [hall r h]
    exact hnone
  · obtain ⟨_, rfl | rfl⟩ := mem_warpRules h <;> exact hnone

theorem newRules_ne_nil (env : BootEnv) (active : Bool) :
    ∃ r rest, newRules env active = r :: rest := by
  cases hnew : newRules env active with
  | nil =>
    have hprivate : privateRules = [] := by
      rw [newRules, List.append_eq_nil_iff, List.append_eq_nil_iff] at hnew
      exact hnew.2.1
    cases hprivate
  | cons r rest => exact ⟨r, rest, rfl⟩

theorem RoutesPlain.of_last (hsplit : managedRules routes = a ++ [m])
    (ha : ∀ r ∈ a, r.ofApi = false) : RoutesPlain routes := by
  obtain ⟨before, after, hroutes, hbefore, hafter⟩ := List.map_eq_append_iff.1 hsplit
  obtain ⟨r, rfl, _⟩ := List.map_eq_singleton_iff.1 hafter
  intro r' hr' hclaims
  rw [hroutes, List.dropLast_concat] at hr'
  have hplain := ha (NodeRule.ofManaged (routeRule r')) (by
    rw [← hbefore]
    exact List.mem_map_of_mem hr')
  rw [ofApi_managed, decide_eq_false_iff_not] at hplain
  exact hplain hclaims

theorem newRules_filter (env : BootEnv) (active : Bool) :
    (newRules env active).filter (fun r => !isManaged r.balancerTag) = newRules env active :=
  List.filter_eq_self.2 fun r hr => by simp [newRules_foreign hr]

section Kept
variable {routes : List DesiredCascadeRoute} {rewritten : NodeConfig} {env : BootEnv}
  {active : Bool}

theorem rules_kept_plain (hnone : ∀ r ∈ managedRules routes, r.ofApi = false)
    (hrules : rewritten.rules =
      managedRules routes ++ apiRule :: (newRules env active ++ templateTail)) :
    (withRoutes routes rewritten).rules = rewritten.rules ∧ RoutesPlain routes := by
  constructor
  · have happ : ∀ l : List NodeRule, apiRule :: (newRules env active ++ l) =
        [apiRule] ++ newRules env active ++ l := fun _ => rfl
    have hapi : [apiRule].filter (fun r => !isManaged r.balancerTag) = [apiRule] := by
      decide
    have htail : templateTail.filter (fun r => !isManaged r.balancerTag) = templateTail := by
      decide
    rw [withRoutes, hrules, List.filter_append, managedRules_filter, List.nil_append, happ,
      List.filter_append, List.filter_append, hapi, newRules_filter, htail]
  · intro r hr hclaims
    have hplain := hnone _ (mem_managedRules.2
      ⟨r, mem_sortedRoutes.1 (List.mem_of_mem_dropLast hr), rfl⟩)
    rw [ofApi_managed, decide_eq_false_iff_not] at hplain
    exact hplain hclaims

/-- A boot that has taken the rule of a route for the API's puts its own in front of the rules of
the next routes. -/
theorem rules_kept_claimed {a b : List NodeRule} {m : NodeRule}
    (hsplit : managedRules routes = a ++ m :: b) (ha : ∀ r ∈ a, r.ofApi = false)
    (hm : m.ofApi = true)
    (hrules : rewritten.rules =
      a ++ m :: (newRules env active ++ (b ++ apiRule :: templateTail))) :
    (withRoutes routes rewritten).rules.map NodeRule.toRule =
      rewritten.rules.map NodeRule.toRule ↔ RoutesPlain routes := by
  have hmanaged : ∀ r ∈ a ++ m :: b, isManaged r.balancerTag = true := by
    intro r hr
    rw [← hsplit] at hr
    exact (managedRules_kind hr).1
  have hgone : ∀ l : List NodeRule, (∀ r ∈ l, r ∈ a ++ m :: b) →
      l.filter (fun r => !isManaged r.balancerTag) = [] := fun l hl =>
    List.filter_eq_nil_iff.2 fun r hr => by simp [hmanaged r (hl r hr)]
  have hfilter : rewritten.rules.filter (fun r => !isManaged r.balancerTag) =
      newRules env active ++ apiRule :: templateTail := by
    rw [hrules, List.filter_append, hgone a fun r hr => List.mem_append_left _ hr,
      List.nil_append, List.filter_cons_of_neg (by simp [hmanaged m (by simp)]),
      List.filter_append, newRules_filter, List.filter_append, hgone b fun r hr => by simp [hr],
      filter_unmanaged_template, List.nil_append]
  have hput : (withRoutes routes rewritten).rules =
      a ++ m :: (b ++ (newRules env active ++ apiRule :: templateTail)) := by
    rw [withRoutes, hfilter, hsplit, List.append_assoc, List.cons_append]
  rw [hput, hrules]
  constructor
  · intro heq
    simp only [List.map_append, List.map_cons] at heq
    have hrest := List.cons.inj (List.append_cancel_left heq)
    cases b with
    | nil => exact .of_last hsplit ha
    | cons x b =>
      obtain ⟨y, rest, hy⟩ := newRules_ne_nil env active
      rw [hy] at hrest
      have hhead : x.balancerTag = y.balancerTag :=
        congrArg RoutingRule.balancerTag (List.cons.inj hrest.2).1
      have hx := hmanaged x (by simp)
      have hforeign := @newRules_foreign env active y (by rw [hy]; exact List.mem_cons_self)
      rw [hhead, hforeign] at hx
      cases hx
  · intro hplain
    obtain rfl := hplain.last_claims_api hsplit hm
    rfl

end Kept

/-- The rules of the routes stay in front exactly when no boot finds one of them to be the rule of
the API. -/
theorem Shaped.rules_kept (h : Shaped s) (env : BootEnv) :
    (withRoutes s.routes (bootRewrite env s.config)).rules.map NodeRule.toRule =
      (bootRewrite env s.config).rules.map NodeRule.toRule ↔ RoutesPlain s.routes := by
  rcases h.boot_split env with ⟨hnone, hrules⟩ | ⟨a, m, b, hsplit, ha, hm, hrules⟩
  · obtain ⟨hsame, hplain⟩ := rules_kept_plain hnone hrules
    rw [hsame]
    exact iff_of_true rfl hplain
  · exact rules_kept_claimed hsplit ha hm hrules

/-- No WARP outbound is put in: there are no credentials and none of an earlier boot. -/
def WarpIdle (env : BootEnv) (config : NodeConfig) : Prop :=
  env.warp = none ∧ ∀ o ∈ config.outbounds, tagged "warp" o = false

instance (env : BootEnv) (config : NodeConfig) : Decidable (WarpIdle env config) := by
  unfold WarpIdle; infer_instance

theorem warpSource_eq_none : warpSource env config = none ↔ WarpIdle env config := by
  rw [warpSource, WarpIdle]
  cases env.warp with
  | none => simp
  | some credentials => simp

theorem ensureWarp_some {env : BootEnv} {config : NodeConfig}
    (h : warpSource env config = some warp) : (ensureWarp env config).outbounds =
      insertBeforeLast warp (config.outbounds.filter fun o => !tagged "warp" o) := by
  rw [ensureWarp, h]

theorem warp_not_probe {warp : Outbound} (h : tagged "warp" warp = true) :
    tagged "lb-probe" warp = false ∧ tagged "direct" warp = false := by
  rw [tagged, beq_iff_eq] at h
  simp [tagged, h]

theorem boot_outbounds_perm (env : BootEnv) (config : NodeConfig) :
    (bootRewrite env config).outbounds.Perm ((warpSource env config).toList ++
      (config.outbounds.filter fun o => !tagged "warp" o && !tagged "lb-probe" o) ++
        probeOutbounds env) := by
  rw [bootRewrite_outbounds]
  refine (moveToFront_perm _ _).trans (List.Perm.append_right _ ?_)
  cases hwarp : warpSource env config with
  | none =>
    have hsame : ensureWarp env config = config := by rw [ensureWarp, hwarp]
    rw [hsame, Option.toList_none, List.nil_append]
    refine List.Perm.of_eq (List.filter_congr fun o ho => ?_)
    rw [(warpSource_eq_none.1 hwarp).2 o ho, Bool.not_false, Bool.true_and]
  | some warp =>
    rw [ensureWarp_some hwarp, Option.toList_some, List.singleton_append]
    refine ((insertBeforeLast_perm warp _).filter _).trans (List.Perm.of_eq ?_)
    have hprobe := (warp_not_probe (warpSource_tagged hwarp)).1
    rw [List.filter_cons_of_pos (by simp [hprobe]), List.filter_filter]
    simp only [Bool.and_comm]

theorem managed_tagged {o : Outbound} (h : isManaged o.tag = true) :
    tagged "direct" o = false ∧ tagged "warp" o = false ∧ tagged "lb-probe" o = false := by
  have hno : ∀ tag ∈ ["direct", "warp", "lb-probe"], isManaged (some tag) = false := by
    decide +kernel
  have hother : ∀ tag ∈ ["direct", "warp", "lb-probe"], tagged tag o = false := by
    intro tag htag
    by_contra hne
    have heq : o.tag = some tag := by simpa [tagged] using hne
    rw [heq, hno tag htag] at h
    cases h
  exact ⟨hother _ (by simp), hother _ (by simp), hother _ (by simp)⟩

theorem filter_tagged_managed {l : List Outbound} (h : ∀ o ∈ l, isManaged o.tag = true)
    {tag : String} (htag : tag = "warp" ∨ tag = "lb-probe") :
    (l.filter fun o => !tagged tag o) = l := by
  refine List.filter_eq_self.2 fun o ho => ?_
  obtain ⟨_, hwarp, hprobe⟩ := managed_tagged (h o ho)
  rcases htag with rfl | rfl
  · simp [hwarp]
  · simp [hprobe]

theorem warp_foreign {o : Outbound} (h : tagged "warp" o = true) : isManaged o.tag = false := by
  rw [Bool.eq_false_iff]
  intro hmanaged
  rw [(managed_tagged hmanaged).2.1] at h
  cases h

theorem probe_foreign (env : BootEnv) : isManaged (probeOutbound env).tag = false := by
  have htag : isManaged (some "lb-probe") = false := by decide +kernel
  exact htag

theorem boot_foreign {config : NodeConfig} (h : ∀ o ∈ config.outbounds, isManaged o.tag = false)
    (env : BootEnv) : ∀ o ∈ (bootRewrite env config).outbounds, isManaged o.tag = false := by
  intro o ho
  rw [(boot_outbounds_perm env config).mem_iff, List.mem_append, List.mem_append] at ho
  rcases ho with (ho | ho) | ho
  · exact warp_foreign (warpSource_tagged (Option.mem_toList.1 ho))
  · exact h o (List.mem_filter.1 ho).1
  · rw [mem_probeOutbounds ho]
    exact probe_foreign env

theorem boot_last {env : BootEnv} (hprobes : env.probes = true) (config : NodeConfig) :
    (bootRewrite env config).outbounds.getLast? = some (probeOutbound env) := by
  have hmove := @moveToFront_append _ (tagged "direct")
    ((ensureWarp env config).outbounds.filter fun o => !tagged "lb-probe" o)
    [probeOutbound env] (List.forall_mem_singleton.2 rfl)
  rw [bootRewrite_outbounds, probeOutbounds, hprobes]
  simp only [↓reduceIte]
  rw [hmove, List.getLast?_concat]

theorem before_last_exit {front others : List Outbound} {warp e : Outbound}
    (hfront : ∀ o ∈ front, isManaged o.tag = false)
    (hexits : ∀ o ∈ others ++ [e], isManaged o.tag = true) (hwarp : isManaged warp.tag = false) :
    (front ++ (others ++ [warp, e])).filter (fun o => !isManaged o.tag) ++ (others ++ [e]) =
      front ++ (others ++ [warp, e]) ↔ others = [] := by
  have hothers : ∀ o ∈ others, isManaged o.tag = true :=
    fun o ho => hexits o (List.mem_append_left _ ho)
  have hfilter : (front ++ (others ++ [warp, e])).filter (fun o => !isManaged o.tag) =
      front ++ [warp] := by
    have he := hexits e (by simp)
    rw [← List.append_assoc, List.filter_append, (filter_unmanaged hfront hothers).2]
    simp [hwarp, he]
  rw [hfilter, List.append_assoc, List.append_cancel_left_eq]
  cases others with
  | nil => simp
  | cons o others =>
    refine iff_of_false (fun heq => ?_) (List.cons_ne_nil _ _)
    have ho := hothers o List.mem_cons_self
    rw [← (List.cons.inj heq).1, hwarp] at ho
    cases ho

section Exits
variable {env : BootEnv} {config : NodeConfig} {own exits : List Outbound}
  (hconfig : config.outbounds = own ++ exits) (hown : ∀ o ∈ own, isManaged o.tag = false)
  (hexits : ∀ o ∈ exits, isManaged o.tag = true)
include hconfig hexits

theorem boot_outbounds_plain (hprobes : env.probes = false) (hwarp : WarpIdle env config) :
    (bootRewrite env config).outbounds =
      moveToFront (tagged "direct") (own.filter fun o => !tagged "lb-probe" o) ++ exits := by
  have hsame : ensureWarp env config = config := by
    rw [ensureWarp, warpSource_eq_none.2 hwarp]
  have hprobe : probeOutbounds env = [] := by
    rw [probeOutbounds, hprobes]
    rfl
  rw [bootRewrite_outbounds, hsame, hprobe, List.append_nil, hconfig, List.filter_append,
    filter_tagged_managed hexits (.inr rfl)]
  exact moveToFront_append fun o ho => (managed_tagged (hexits o ho)).1

theorem boot_outbounds_warp {e : Outbound} {others : List Outbound} (hsplit : exits = others ++ [e])
    (hprobes : env.probes = false) (hwarp : warpSource env config = some warp) :
    (bootRewrite env config).outbounds = moveToFront (tagged "direct")
      ((own.filter fun o => !tagged "warp" o).filter fun o => !tagged "lb-probe" o) ++
        (others ++ [warp, e]) := by
  have hprobe : probeOutbounds env = [] := by
    rw [probeOutbounds, hprobes]
    rfl
  have hnotProbe := warp_not_probe (warpSource_tagged hwarp)
  have hkept : (others ++ [warp, e]).filter (fun o => !tagged "lb-probe" o) =
      others ++ [warp, e] := by
    refine List.filter_eq_self.2 fun o ho => ?_
    rcases List.mem_append.1 ho with ho | ho
    · simp [managed_tagged (hexits o (by simp [hsplit, ho]))]
    · rcases List.mem_cons.1 ho with rfl | ho
      · simp [hnotProbe]
      · obtain rfl := List.mem_singleton.1 ho
        simp [managed_tagged (hexits o (by simp [hsplit]))]
  rw [bootRewrite_outbounds, ensureWarp_some hwarp, hprobe, List.append_nil, hconfig,
    List.filter_append, filter_tagged_managed hexits (.inl rfl), hsplit, ← List.append_assoc,
    insertBeforeLast_append_singleton, List.append_assoc, List.filter_append, hkept]
  refine moveToFront_append fun o ho => ?_
  rcases List.mem_append.1 ho with ho | ho
  · exact (managed_tagged (hexits o (by simp [hsplit, ho]))).1
  · rcases List.mem_cons.1 ho with rfl | ho
    · exact hnotProbe.2
    · obtain rfl := List.mem_singleton.1 ho
      exact (managed_tagged (hexits o (by simp [hsplit]))).1

include hown

/-- When the exits are at the end after a boot, where a reconcile puts them. -/
theorem exits_kept : (bootRewrite env config).outbounds.filter (fun o => !isManaged o.tag) ++
      exits = (bootRewrite env config).outbounds ↔
    exits = [] ∨ env.probes = false ∧ (WarpIdle env config ∨ exits.length = 1) := by
  have hmoved : ∀ {l : List Outbound} {q : Outbound → Bool}, (∀ o ∈ l, o ∈ own) →
      ∀ o ∈ moveToFront (tagged "direct") (l.filter q), isManaged o.tag = false :=
    fun hl o ho => hown o (hl o (List.mem_filter.1 ((moveToFront_perm _ _).mem_iff.1 ho)).1)
  rcases List.eq_nil_or_concat exits with hnil | ⟨others, e, hsplit⟩
  · refine iff_of_true ?_ (.inl hnil)
    have hforeign := @boot_foreign config (by rwa [hconfig, hnil, List.append_nil]) env
    rw [hnil, List.append_nil, List.filter_eq_self]
    intro o ho
    rw [hforeign o ho]
    rfl
  rw [List.concat_eq_append] at hsplit
  have hne : exits ≠ [] := by simp [hsplit]
  cases hprobes : env.probes with
  | true =>
    refine iff_of_false (fun heq => ?_) (by simp [hne])
    have hlast := boot_last hprobes config
    rw [← heq, hsplit, ← List.append_assoc, List.getLast?_concat] at hlast
    have he := hexits e (by simp [hsplit])
    rw [Option.some.inj hlast, probe_foreign] at he
    cases he
  | false =>
    cases hwarp : warpSource env config with
    | none =>
      rw [warpSource_eq_none] at hwarp
      refine iff_of_true ?_ (.inr ⟨rfl, .inl hwarp⟩)
      rw [boot_outbounds_plain hconfig hexits hprobes hwarp]
      rw [(filter_unmanaged (hmoved fun o ho => ho) hexits).2]
    | some warp =>
      have hactive : ¬ WarpIdle env config := by
        rw [← warpSource_eq_none, hwarp]
        exact Option.some_ne_none _
      have hforeign := warp_foreign (warpSource_tagged hwarp)
      rw [boot_outbounds_warp hconfig hexits hsplit hprobes hwarp, hsplit,
        before_last_exit (hmoved fun o ho => (List.mem_filter.1 ho).1) (hsplit ▸ hexits) hforeign]
      simp [hactive]

end Exits

end AegisVPN
