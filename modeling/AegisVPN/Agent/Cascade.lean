import Mathlib.Data.List.Sort
import AegisVPN.Agent.Xray

namespace AegisVPN
set_option autoImplicit true

def tagPrefix : String := "cascade-"

def isManaged (tag : Option String) : Bool := (tag.getD "").startsWith tagPrefix

inductive CascadeConfigError
  | inboundClaimed (overlap : List String)
  | unsupportedStrategy (strategy : String)
  | pathWithoutSlash
  deriving DecidableEq

def cascadeOutbound (route : DesiredCascadeRoute) (exitNode : DesiredCascadeExit) : Outbound where
  tag := some s!"{tagPrefix}{route.routeId}-exit-{exitNode.position}"
  body := .cascadeExit exitNode.host exitNode.port exitNode.uuid exitNode.publicKey
    exitNode.shortId exitNode.serverName
    (if exitNode.xhttpPath = "" then "/" else exitNode.xhttpPath)

/-- An empty routing object is falsy, so the code edits a copy of it and keeps nothing. -/
def stripRouting (routing : Routing) : Routing :=
  if routing = ⟨none, none, ""⟩ then routing else
    let balancers := (routing.balancers.getD []).filter fun b => !isManaged b.tag
    { routing with
      rules := some ((routing.rules.getD []).filter fun r => !isManaged r.balancerTag)
      balancers := if balancers.isEmpty then none else some balancers }

def stripManaged (config : XrayConfig) : XrayConfig :=
  let hadManaged := (config.outbounds.getD []).any (fun o => isManaged o.tag) ||
    ((config.routing.bind Routing.balancers).getD []).any fun b => isManaged b.tag
  { config with
    outbounds := config.outbounds.map fun os => os.filter fun o => !isManaged o.tag
    routing := config.routing.map stripRouting
    observatory := if hadManaged then none else config.observatory }

/-- What the loop over the routes has collected so far. -/
structure CascadeParts where
  claimed : List String
  outbounds : List Outbound
  subjects : List String
  rules : List RoutingRule
  balancers : List Balancer

def routeStrategy (route : DesiredCascadeRoute) : String :=
  (truthy route.healthPolicy.strategy).getD "leastPing"

def addCascadeRoute (parts : CascadeParts) (route : DesiredCascadeRoute) :
    Except CascadeConfigError CascadeParts :=
  let overlap := parts.claimed.filter (· ∈ route.inboundTags)
  if overlap ≠ [] then .error (.inboundClaimed overlap)
  else if routeStrategy route ≠ "leastPing" then
    .error (.unsupportedStrategy (routeStrategy route))
  else if route.exits.any fun e => !e.xhttpPath.startsWith "/" then .error .pathWithoutSlash
  else
    let outbounds := route.exits.map (cascadeOutbound route)
    let tags := outbounds.filterMap Outbound.tag
    let balancerTag := s!"{tagPrefix}{route.routeId}-balancer"
    .ok {
      claimed := parts.claimed ++ route.inboundTags
      outbounds := parts.outbounds ++ outbounds
      subjects := parts.subjects ++ tags
      rules := parts.rules ++ [⟨route.inboundTags, some balancerTag, ""⟩]
      balancers := parts.balancers ++ [⟨some balancerTag, tags, routeStrategy route, ""⟩] }

/-- The config with exactly these routes. The managed rules come before the catch-all rule. -/
def applyCascadeRoutes (config : XrayConfig) (routes : List DesiredCascadeRoute) :
    Except CascadeConfigError XrayConfig :=
  match routes with
  | [] => .ok (stripManaged config)
  | first :: _ => do
    let stripped := stripManaged config
    let sorted := routes.insertionSort fun a b => a.routeId ≤ b.routeId
    let parts ← sorted.foldlM addCascadeRoute ⟨[], [], [], [], []⟩
    let routing := stripped.routing.getD ⟨none, none, ""⟩
    .ok { stripped with
      outbounds := some (stripped.outbounds.getD [] ++ parts.outbounds)
      routing := some { routing with
        rules := some (parts.rules ++ routing.rules.getD [])
        balancers := some parts.balancers }
      observatory := some {
        subjectSelector := parts.subjects
        probeUrl := (truthy first.healthPolicy.probeUrl).getD
          "https://www.gstatic.com/generate_204"
        probeInterval := (truthy first.healthPolicy.probeInterval).getD "10s"
        foreign := "" } }

@[simp] theorem stripManaged_inbounds (config : XrayConfig) :
    (stripManaged config).inbounds = config.inbounds := rfl

theorem applyCascadeRoutes_inbounds {config config' : XrayConfig}
    (h : applyCascadeRoutes config routes = .ok config') :
    config'.inbounds = config.inbounds := by
  cases routes with
  | nil =>
    simp only [applyCascadeRoutes, Except.ok.injEq] at h
    rw [← h, stripManaged_inbounds]
  | cons first rest =>
    simp only [applyCascadeRoutes, bind, Except.bind] at h
    split at h
    · cases h
    · simp only [Except.ok.injEq] at h
      rw [← h, stripManaged_inbounds]

/-! ## Routes that apply -/

/-- A route that the node can serve by itself. -/
def RouteSupported (route : DesiredCascadeRoute) : Prop :=
  routeStrategy route = "leastPing" ∧ ∀ e ∈ route.exits, e.xhttpPath.startsWith "/" = true

theorem addCascadeRoute_spec {parts parts' : CascadeParts}
    (h : addCascadeRoute parts route = .ok parts') :
    (∀ t ∈ parts.claimed, t ∉ route.inboundTags) ∧ RouteSupported route ∧
      parts'.claimed = parts.claimed ++ route.inboundTags := by
  simp only [addCascadeRoute] at h
  split at h
  · cases h
  · rename_i hfree
    split at h
    · cases h
    · rename_i hstrategy
      split at h
      · cases h
      · rename_i hpath
        cases h
        refine ⟨fun t ht hr => ?_, ⟨not_not.1 hstrategy, fun e he => ?_⟩, rfl⟩
        · exact hfree (List.ne_nil_of_mem (List.mem_filter.2 ⟨ht, decide_eq_true hr⟩))
        · by_contra hslash
          exact hpath (List.any_eq_true.2 ⟨e, he, by simpa using hslash⟩)

theorem addCascadeRoute_exists {parts : CascadeParts}
    (hfree : ∀ t ∈ parts.claimed, t ∉ route.inboundTags) (h : RouteSupported route) :
    ∃ parts', addCascadeRoute parts route = .ok parts' := by
  have hoverlap : parts.claimed.filter (· ∈ route.inboundTags) = [] :=
    List.filter_eq_nil_iff.2 fun t ht => by simpa using hfree t ht
  have hpaths : (route.exits.any fun e => !e.xhttpPath.startsWith "/") = false := by
    rw [List.any_eq_false]
    intro e he
    simp [h.2 e he]
  simp only [addCascadeRoute, hoverlap, h.1, hpaths, ne_eq, not_true_eq_false, ↓reduceIte,
    Bool.false_eq_true]
  exact ⟨_, rfl⟩

theorem addCascadeRoutes_ok_iff {routes : List DesiredCascadeRoute} {parts : CascadeParts} :
    (∃ parts', routes.foldlM addCascadeRoute parts = .ok parts') ↔
      (∀ r ∈ routes, RouteSupported r ∧ ∀ t ∈ parts.claimed, t ∉ r.inboundTags) ∧
        routes.Pairwise fun a b => a.inboundTags.Disjoint b.inboundTags := by
  induction routes generalizing parts with
  | nil => exact iff_of_true ⟨parts, rfl⟩ ⟨by simp, .nil⟩
  | cons route routes ih =>
    rw [List.pairwise_cons, List.forall_mem_cons]
    constructor
    · rintro ⟨parts', h⟩
      rw [List.foldlM_cons] at h
      cases hadd : addCascadeRoute parts route with
      | error e =>
        rw [hadd] at h
        cases h
      | ok next =>
        rw [hadd] at h
        obtain ⟨hfree, hsupported, hclaimed⟩ := addCascadeRoute_spec hadd
        obtain ⟨hrest, hpairs⟩ := ih.1 ⟨parts', h⟩
        rw [hclaimed] at hrest
        refine ⟨⟨⟨hsupported, hfree⟩, fun r hr => ⟨(hrest r hr).1, fun t ht => ?_⟩⟩,
          fun r hr t ht => ?_, hpairs⟩
        · exact (hrest r hr).2 t (List.mem_append_left _ ht)
        · exact (hrest r hr).2 t (List.mem_append_right _ ht)
    · rintro ⟨⟨⟨hsupported, hfree⟩, hrest⟩, hdisjoint, hpairs⟩
      obtain ⟨next, hadd⟩ := addCascadeRoute_exists hfree hsupported
      obtain ⟨_, _, hclaimed⟩ := addCascadeRoute_spec hadd
      have hfree' : ∀ r ∈ routes, ∀ t ∈ next.claimed, t ∉ r.inboundTags := by
        intro r hr t ht
        rw [hclaimed, List.mem_append] at ht
        rcases ht with ht | ht
        · exact (hrest r hr).2 t ht
        · exact hdisjoint r hr ht
      obtain ⟨parts', h⟩ := ih.2 ⟨fun r hr => ⟨(hrest r hr).1, hfree' r hr⟩, hpairs⟩
      refine ⟨parts', ?_⟩
      rw [List.foldlM_cons, hadd]
      exact h

/-- A config takes a list of routes exactly if the node can serve each of them and no two claim
one inbound. -/
theorem applyCascadeRoutes_ok_iff (config : XrayConfig) (routes : List DesiredCascadeRoute) :
    (∃ config', applyCascadeRoutes config routes = .ok config') ↔
      (∀ r ∈ routes, RouteSupported r) ∧
        routes.Pairwise fun a b => a.inboundTags.Disjoint b.inboundTags := by
  cases routes with
  | nil => exact iff_of_true ⟨_, rfl⟩ ⟨by simp, .nil⟩
  | cons first rest =>
    have hperm := List.perm_insertionSort (fun a b : DesiredCascadeRoute => a.routeId ≤ b.routeId)
      (first :: rest)
    have hsymm : ∀ {a b : DesiredCascadeRoute}, a.inboundTags.Disjoint b.inboundTags →
        b.inboundTags.Disjoint a.inboundTags := by
      intro a b h t hb ha
      exact h ha hb
    have hsorted : (∃ parts, ((first :: rest).insertionSort fun a b =>
        a.routeId ≤ b.routeId).foldlM addCascadeRoute ⟨[], [], [], [], []⟩ = .ok parts) ↔
        (∀ r ∈ first :: rest, RouteSupported r) ∧
          (first :: rest).Pairwise fun a b => a.inboundTags.Disjoint b.inboundTags := by
      rw [addCascadeRoutes_ok_iff, hperm.pairwise_iff hsymm]
      simp only [hperm.mem_iff, List.not_mem_nil, false_implies, implies_true, and_true]
    rw [← hsorted]
    simp only [applyCascadeRoutes, bind]
    cases ((first :: rest).insertionSort fun a b => a.routeId ≤ b.routeId).foldlM
        addCascadeRoute ⟨[], [], [], [], []⟩ with
    | error e => simp [Except.bind]
    | ok parts => simp [Except.bind]

/-! ## Routes that are applied again -/

theorem isManaged_prefix (s : String) : isManaged (some (tagPrefix ++ s)) = true := by
  simp [isManaged, String.startsWith_string_iff]

/-- Everything that the loop has collected is managed. -/
structure CascadeParts.Managed (parts : CascadeParts) : Prop where
  outbounds : ∀ o ∈ parts.outbounds, isManaged o.tag = true
  rules : ∀ r ∈ parts.rules, isManaged r.balancerTag = true
  balancers : ∀ b ∈ parts.balancers, isManaged b.tag = true

theorem addCascadeRoute_managed {parts parts' : CascadeParts} (hp : parts.Managed)
    (h : addCascadeRoute parts route = .ok parts') : parts'.Managed := by
  simp only [addCascadeRoute] at h
  split at h
  · cases h
  split at h
  · cases h
  split at h
  · cases h
  cases h
  have hbalancer : isManaged (some s!"{tagPrefix}{route.routeId}-balancer") = true :=
    isManaged_prefix (toString route.routeId ++ "-balancer")
  constructor
  · intro o ho
    rcases List.mem_append.1 ho with ho | ho
    · exact hp.outbounds o ho
    · obtain ⟨e, -, rfl⟩ := List.mem_map.1 ho
      exact isManaged_prefix (toString route.routeId ++ "-exit-" ++ toString e.position)
  · intro r hr
    rcases List.mem_append.1 hr with hr | hr
    · exact hp.rules r hr
    · obtain rfl := List.mem_singleton.1 hr
      exact hbalancer
  · intro b hb
    rcases List.mem_append.1 hb with hb | hb
    · exact hp.balancers b hb
    · obtain rfl := List.mem_singleton.1 hb
      exact hbalancer

theorem addCascadeRoutes_managed {routes : List DesiredCascadeRoute} {parts parts' : CascadeParts}
    (hp : parts.Managed) (h : routes.foldlM addCascadeRoute parts = .ok parts') :
    parts'.Managed := by
  induction routes generalizing parts with
  | nil =>
    cases h
    exact hp
  | cons route routes ih =>
    rw [List.foldlM_cons] at h
    cases hadd : addCascadeRoute parts route with
    | error e =>
      rw [hadd] at h
      cases h
    | ok next =>
      rw [hadd] at h
      exact ih (addCascadeRoute_managed hp hadd) h

theorem filter_unmanaged {tag : α → Option String} {kept managed : List α}
    (hkept : ∀ a ∈ kept, isManaged (tag a) = false)
    (hmanaged : ∀ a ∈ managed, isManaged (tag a) = true) :
    (managed ++ kept).filter (fun a => !isManaged (tag a)) = kept ∧
      (kept ++ managed).filter (fun a => !isManaged (tag a)) = kept := by
  have hnone : managed.filter (fun a => !isManaged (tag a)) = [] :=
    List.filter_eq_nil_iff.2 fun a ha => by simp [hmanaged a ha]
  have hall : kept.filter (fun a => !isManaged (tag a)) = kept :=
    List.filter_eq_self.2 fun a ha => by simp [hkept a ha]
  rw [List.filter_append, List.filter_append, hnone, hall]
  exact ⟨List.nil_append kept, List.append_nil kept⟩

theorem filter_again {tag : α → Option String} (l : List α) :
    (l.filter fun a => !isManaged (tag a)).filter (fun a => !isManaged (tag a)) =
      l.filter fun a => !isManaged (tag a) := by
  rw [List.filter_filter]
  simp only [Bool.and_self]

/-- A routing object that has rules is not empty. -/
theorem stripRouting_of_rules {routing : Routing} {rules : List RoutingRule}
    (h : routing.rules = some rules) : stripRouting routing =
      let balancers := (routing.balancers.getD []).filter fun b => !isManaged b.tag
      { routing with
        rules := some (rules.filter fun r => !isManaged r.balancerTag)
        balancers := if balancers.isEmpty then none else some balancers } := by
  have hne : routing ≠ ⟨none, none, ""⟩ := by
    intro heq
    rw [heq] at h
    cases h
  rw [stripRouting, if_neg hne, h]
  rfl

theorem getD_of_isEmpty (l : List α) : (if l.isEmpty then none else some l).getD [] = l := by
  cases l <;> rfl

theorem stripRouting_again (routing : Routing) :
    stripRouting (stripRouting routing) = stripRouting routing := by
  by_cases hempty : routing = ⟨none, none, ""⟩
  · rw [hempty]
    rfl
  · have hstripped : stripRouting routing =
        let balancers := (routing.balancers.getD []).filter fun b => !isManaged b.tag
        { routing with
          rules := some ((routing.rules.getD []).filter fun r => !isManaged r.balancerTag)
          balancers := if balancers.isEmpty then none else some balancers } := by
      rw [stripRouting, if_neg hempty]
    have hrules : (stripRouting routing).rules =
        some ((routing.rules.getD []).filter fun r => !isManaged r.balancerTag) := by
      rw [hstripped]
    rw [stripRouting_of_rules hrules, hstripped]
    simp only [getD_of_isEmpty, filter_again]

theorem stripRouting_managed {routing : Routing} {rules managed : List RoutingRule}
    {balancers : List Balancer} (hrules : ∀ r ∈ rules, isManaged r.balancerTag = false)
    (hmanaged : ∀ r ∈ managed, isManaged r.balancerTag = true)
    (hbalancers : ∀ b ∈ balancers, isManaged b.tag = true) :
    stripRouting { routing with
      rules := some (managed ++ rules)
      balancers := some balancers } = { routing with
        rules := some rules
        balancers := none } := by
  have hnone : balancers.filter (fun b => !isManaged b.tag) = [] :=
    List.filter_eq_nil_iff.2 fun b hb => by simp [hbalancers b hb]
  rw [stripRouting_of_rules rfl]
  simp only [Option.getD_some, hnone, (filter_unmanaged hrules hmanaged).1, List.isEmpty_nil,
    ↓reduceIte]

theorem stripRouting_rules (routing : Routing) :
    ∀ r ∈ (stripRouting routing).rules.getD [], isManaged r.balancerTag = false := by
  intro r hr
  unfold stripRouting at hr
  split at hr
  · rename_i hempty
    rw [hempty] at hr
    cases hr
  · simpa using (List.mem_filter.1 hr).2

theorem any_managed_filter {tag : α → Option String} (l : List α) :
    ((l.filter fun a => !isManaged (tag a)).any fun a => isManaged (tag a)) = false := by
  rw [List.any_eq_false]
  intro a ha
  simpa using (List.mem_filter.1 ha).2

theorem any_managed_stripRouting (routing : Option Routing) :
    ((((routing.map stripRouting).bind Routing.balancers).getD []).any fun b =>
      isManaged b.tag) = false := by
  cases routing with
  | none => rfl
  | some routing =>
    rw [Option.map_some, Option.bind_some, stripRouting]
    split
    · rename_i hempty
      rw [hempty]
      rfl
    · simp only [getD_of_isEmpty]
      exact any_managed_filter _

theorem stripManaged_again (config : XrayConfig) :
    stripManaged (stripManaged config) = stripManaged config := by
  have houtbounds : ((((config.outbounds.map fun os =>
      os.filter fun o => !isManaged o.tag)).getD []).any fun o => isManaged o.tag) = false := by
    cases config.outbounds with
    | none => rfl
    | some os => exact any_managed_filter os
  have hfilter : ((config.outbounds.map fun os => os.filter fun o => !isManaged o.tag).map
      fun os => os.filter fun o => !isManaged o.tag) =
        config.outbounds.map fun os => os.filter fun o => !isManaged o.tag := by
    cases config.outbounds with
    | none => rfl
    | some os => exact congrArg some (filter_again os)
  have hrouting : (config.routing.map stripRouting).map stripRouting =
      config.routing.map stripRouting := by
    cases config.routing with
    | none => rfl
    | some routing => exact congrArg some (stripRouting_again routing)
  conv_lhs => rw [stripManaged]
  simp only [stripManaged, houtbounds, any_managed_stripRouting, hfilter, hrouting, Bool.or_self,
    Bool.false_eq_true, ↓reduceIte]

/-- The config that the parts of the routes are put into. -/
def cascadedConfig (stripped : XrayConfig) (first : DesiredCascadeRoute) (parts : CascadeParts) :
    XrayConfig :=
  let routing := stripped.routing.getD ⟨none, none, ""⟩
  { stripped with
    outbounds := some (stripped.outbounds.getD [] ++ parts.outbounds)
    routing := some { routing with
      rules := some (parts.rules ++ routing.rules.getD [])
      balancers := some parts.balancers }
    observatory := some {
      subjectSelector := parts.subjects
      probeUrl := (truthy first.healthPolicy.probeUrl).getD
        "https://www.gstatic.com/generate_204"
      probeInterval := (truthy first.healthPolicy.probeInterval).getD "10s"
      foreign := "" } }

theorem applyCascadeRoutes_cons {config config' : XrayConfig} {first : DesiredCascadeRoute}
    {rest : List DesiredCascadeRoute} :
    applyCascadeRoutes config (first :: rest) = .ok config' ↔
      ∃ parts, ((first :: rest).insertionSort fun a b => a.routeId ≤ b.routeId).foldlM
        addCascadeRoute ⟨[], [], [], [], []⟩ = .ok parts ∧
          config' = cascadedConfig (stripManaged config) first parts := by
  simp only [applyCascadeRoutes, bind]
  cases ((first :: rest).insertionSort fun a b => a.routeId ≤ b.routeId).foldlM
      addCascadeRoute ⟨[], [], [], [], []⟩ with
  | error e => simp [Except.bind]
  | ok parts =>
    simp only [Except.bind, Except.ok.injEq, exists_eq_left']
    exact eq_comm

theorem outbounds_stripped {parts : CascadeParts} (hparts : parts.Managed) (config : XrayConfig) :
    ((stripManaged config).outbounds.getD [] ++ parts.outbounds).filter
      (fun o => !isManaged o.tag) = (stripManaged config).outbounds.getD [] := by
  refine (filter_unmanaged (fun o ho => ?_) hparts.outbounds).2
  simp only [stripManaged] at ho
  cases hos : config.outbounds with
  | none =>
    rw [hos] at ho
    cases ho
  | some os =>
    rw [hos] at ho
    simpa using (List.mem_filter.1 ho).2

theorem routing_stripped {parts : CascadeParts} (hparts : parts.Managed) (config : XrayConfig) :
    stripRouting { (stripManaged config).routing.getD ⟨none, none, ""⟩ with
      rules := some (parts.rules ++
        ((stripManaged config).routing.getD ⟨none, none, ""⟩).rules.getD [])
      balancers := some parts.balancers } =
        { (stripManaged config).routing.getD ⟨none, none, ""⟩ with
          rules := some (((stripManaged config).routing.getD ⟨none, none, ""⟩).rules.getD [])
          balancers := none } := by
  refine stripRouting_managed (fun r hr => ?_) hparts.rules hparts.balancers
  simp only [stripManaged] at hr
  cases hro : config.routing with
  | none =>
    rw [hro] at hr
    cases hr
  | some routing =>
    rw [hro] at hr
    exact stripRouting_rules routing r hr

/-- Routes that are in the config already leave it as it is. -/
theorem cascadedConfig_again {config : XrayConfig} {first : DesiredCascadeRoute}
    {parts : CascadeParts} (hparts : parts.Managed) (inbounds : List Inbound) :
    cascadedConfig (stripManaged { cascadedConfig (stripManaged config) first parts with inbounds })
      first parts = { cascadedConfig (stripManaged config) first parts with inbounds } := by
  have houtbounds := outbounds_stripped hparts config
  have hrouting := routing_stripped hparts config
  generalize stripManaged config = stripped at houtbounds hrouting
  simp only [cascadedConfig, stripManaged, Option.map_some, Option.getD_some, houtbounds, hrouting]

theorem applyCascadeRoutes_again {config config' : XrayConfig}
    (h : applyCascadeRoutes config routes = .ok config') (inbounds : List Inbound) :
    applyCascadeRoutes { config' with inbounds } routes = .ok { config' with inbounds } := by
  cases routes with
  | nil =>
    cases h
    exact congrArg (fun c : XrayConfig => Except.ok { c with inbounds }) (stripManaged_again config)
  | cons first rest =>
    obtain ⟨parts, hparts, rfl⟩ := applyCascadeRoutes_cons.1 h
    refine applyCascadeRoutes_cons.2 ⟨parts, hparts, ?_⟩
    refine (cascadedConfig_again (addCascadeRoutes_managed ?_ hparts) inbounds).symm
    constructor <;> simp

end AegisVPN
