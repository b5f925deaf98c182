import AegisVPN.Library.Digits
import AegisVPN.Agent.CascadeUndo

namespace AegisVPN
open Library
set_option autoImplicit true

/-! ## How Xray routes -/

/-- What Xray reads in the connections of a type and in the parts of a rule that the model keeps as
text: its further conditions, and the outbound that it names. A rule without that part has
neither. A balancer picks one of the outbounds that it selects, if there are any. -/
structure XrayRouter (κ : Type) where
  inbound : κ → String
  holds : String → κ → Bool
  outboundTag : String → Option String
  pick : Balancer → List Outbound → κ → Option Outbound
  holds_nothing : ∀ c, holds "" c = true
  outboundTag_nothing : outboundTag "" = none
  pick_selected : ∀ b selected c o, pick b selected c = some o → o ∈ selected
  pick_some : ∀ b selected c, selected ≠ [] → pick b selected c ≠ none

section Router
variable (x : XrayRouter κ) (config : XrayConfig)

def RoutingRule.admits (rule : RoutingRule) (c : κ) : Bool :=
  (rule.inboundTag.isEmpty || rule.inboundTag.contains (x.inbound c)) && x.holds rule.foreign c

/-- The first rule that a connection matches decides. -/
def firstRule (c : κ) : Option RoutingRule :=
  ((config.routing.bind Routing.rules).getD []).find? fun r => r.admits x c

/-- A selector matches the outbound tags that begin with it. -/
def selectedOutbounds (selector : List String) : List Outbound :=
  (config.outbounds.getD []).filter fun o => selector.any fun s => (o.tag.getD "").startsWith s

def balancerTagged (tag : String) : Option Balancer :=
  ((config.routing.bind Routing.balancers).getD []).find? fun b => decide (b.tag = some tag)

/-- The outbounds that a connection may leave by. Where a balancer picks nothing, it is the first
one, as for a connection that no rule matches. -/
inductive MayLeaveBy (c : κ) : Outbound → Prop
  | balancer (hrule : firstRule x config c = some rule)
      (hnone : x.outboundTag rule.foreign = none) (htag : rule.balancerTag = some tag)
      (hbalancer : balancerTagged config tag = some b)
      (hpicked : x.pick b (selectedOutbounds config b.selector) c = some o) : MayLeaveBy c o
  | unpicked (hrule : firstRule x config c = some rule)
      (hnone : x.outboundTag rule.foreign = none) (htag : rule.balancerTag = some tag)
      (hbalancer : balancerTagged config tag = some b)
      (hpicked : x.pick b (selectedOutbounds config b.selector) c = none)
      (hfirst : (config.outbounds.getD []).head? = some o) : MayLeaveBy c o
  | outbound (hrule : firstRule x config c = some rule)
      (hnamed : x.outboundTag rule.foreign = some tag) (htag : o.tag = some tag)
      (hmem : o ∈ config.outbounds.getD []) : MayLeaveBy c o
  | unmatched (hrule : firstRule x config c = none)
      (hfirst : (config.outbounds.getD []).head? = some o) : MayLeaveBy c o

end Router

/-! ## Tags -/

/-- A tag of a route begins with the tag of another only if they have one id. -/
theorem routeId_of_startsWith {m n : Nat} {s t : List Char}
    (h : tagPrefix.toList ++ (Nat.toDigits 10 m ++ '-' :: s) <+:
      tagPrefix.toList ++ (Nat.toDigits 10 n ++ '-' :: t)) : m = n := by
  rw [List.prefix_append_right_inj] at h
  exact toDigits_inj (eq_of_prefix_separated (dash_not_digit m) (dash_not_digit n) h)

theorem exitTag_toList (routeId : Nat) (position : Int) :
    (s!"{tagPrefix}{routeId}-exit-{position}").toList = tagPrefix.toList ++
      (Nat.toDigits 10 routeId ++ '-' :: ("exit-".toList ++ (toString position).toList)) := by
  generalize toString position = text
  simp [toString]

theorem balancerTag_toList (routeId : Nat) :
    (s!"{tagPrefix}{routeId}-balancer").toList = tagPrefix.toList ++
      (Nat.toDigits 10 routeId ++ '-' :: "balancer".toList) := by
  simp [toString]

/-! ## The routes of a config -/

section Routes
variable {config config' : XrayConfig} {routes : List DesiredCascadeRoute}
  {r : DesiredCascadeRoute}

theorem mem_sortedRoutes : r ∈ sortedRoutes routes ↔ r ∈ routes :=
  (List.perm_insertionSort _ routes).mem_iff

theorem mem_routeTags {tag : String} : tag ∈ routeTags r ↔
    ∃ e ∈ r.exits, s!"{tagPrefix}{r.routeId}-exit-{e.position}" = tag := by
  simp only [routeTags, routeOutbounds, List.filterMap_map, List.mem_filterMap,
    Function.comp_apply, cascadeOutbound, Option.some.injEq]

/-- A config that has taken routes: their outbounds come last, their rules first, and all its
balancers are theirs. -/
structure Routed (config' : XrayConfig) (routes : List DesiredCascadeRoute)
    (foreign : List Outbound) (rules : List RoutingRule) : Prop where
  outbounds : config'.outbounds.getD [] = foreign ++ (sortedRoutes routes).flatMap routeOutbounds
  rules : (config'.routing.bind Routing.rules).getD [] =
    (sortedRoutes routes).map routeRule ++ rules
  balancers : (config'.routing.bind Routing.balancers).getD [] =
    (sortedRoutes routes).map routeBalancer

theorem applyCascadeRoutes_routed (h : applyCascadeRoutes config routes = .ok config')
    (hne : routes ≠ []) :
    Routed config' routes (foreignOutbounds config) (foreignRules config) := by
  cases routes with
  | nil => exact absurd rfl hne
  | cons first rest =>
    obtain ⟨_, rfl⟩ := applyCascadeRoutes_parts h
    have hrules := getD_bind_rules (stripManaged config).routing
    rw [stripManaged_rules] at hrules
    constructor
    · rw [← stripManaged_outbounds]
      rfl
    · rw [← hrules]
      rfl
    · rfl

variable {foreign : List Outbound} {rules : List RoutingRule}

/-- The balancer of a route selects all exits of the route, and nothing but exits of routes with
its id. -/
theorem Routed.selected (h : Routed config' routes foreign rules)
    (hforeign : ∀ o ∈ foreign, isManaged o.tag = false) (hr : r ∈ routes) :
    (∀ o ∈ routeOutbounds r, o ∈ selectedOutbounds config' (routeTags r)) ∧
      ∀ o ∈ selectedOutbounds config' (routeTags r),
        ∃ r' ∈ routes, r'.routeId = r.routeId ∧ o ∈ routeOutbounds r' := by
  constructor
  · intro o ho
    obtain ⟨e, he, rfl⟩ := List.mem_map.1 ho
    refine List.mem_filter.2 ⟨?_, List.any_eq_true.2 ⟨_, mem_routeTags.2 ⟨e, he, rfl⟩, ?_⟩⟩
    · rw [h.outbounds]
      exact List.mem_append_right _ (List.mem_flatMap.2 ⟨r, mem_sortedRoutes.2 hr, ho⟩)
    · rw [String.startsWith_string_iff]
      exact List.prefix_rfl
  · intro o ho
    obtain ⟨hmem, hany⟩ := List.mem_filter.1 ho
    obtain ⟨tag, htag, hprefix⟩ := List.any_eq_true.1 hany
    obtain ⟨e, _, rfl⟩ := mem_routeTags.1 htag
    rw [String.startsWith_string_iff, exitTag_toList] at hprefix
    rw [h.outbounds, List.mem_append] at hmem
    rcases hmem with hforeign' | hmanaged
    · -- a foreign tag does not even begin as a managed one
      have hmanaged : isManaged o.tag = true := by
        rw [isManaged, String.startsWith_string_iff]
        exact (List.prefix_append _ _).trans hprefix
      rw [hforeign o hforeign'] at hmanaged
      cases hmanaged
    · obtain ⟨r', hr', ho'⟩ := List.mem_flatMap.1 hmanaged
      refine ⟨r', mem_sortedRoutes.1 hr', ?_, ho'⟩
      obtain ⟨e', _, rfl⟩ := List.mem_map.1 ho'
      rw [cascadeOutbound, Option.getD_some, exitTag_toList] at hprefix
      exact (routeId_of_startsWith hprefix).symm

theorem Routed.firstRule (h : Routed config' routes foreign rules) (x : XrayRouter κ)
    (hdisjoint : routes.Pairwise fun a b => a.inboundTags.Disjoint b.inboundTags)
    (hentry : ∀ r ∈ routes, r.inboundTags ≠ []) (hr : r ∈ routes) {c : κ}
    (hc : x.inbound c ∈ r.inboundTags) : firstRule x config' c = some (routeRule r) := by
  have hsymm : ∀ {a b : DesiredCascadeRoute}, a.inboundTags.Disjoint b.inboundTags →
      b.inboundTags.Disjoint a.inboundTags := fun hab _ hb ha => hab ha hb
  have hsorted : (sortedRoutes routes).Pairwise fun a b => a.inboundTags.Disjoint b.inboundTags :=
    ((List.perm_insertionSort _ routes).pairwise_iff hsymm).2 hdisjoint
  have hadmits : ∀ r' ∈ sortedRoutes routes,
      (routeRule r').admits x c = true ↔ x.inbound c ∈ r'.inboundTags := by
    intro r' hr'
    have hempty : r'.inboundTags.isEmpty = false :=
      List.isEmpty_eq_false_iff.2 (hentry r' (mem_sortedRoutes.1 hr'))
    simp [RoutingRule.admits, routeRule, x.holds_nothing, hempty]
  have hfind : ∀ l : List DesiredCascadeRoute,
      l.Pairwise (fun a b => a.inboundTags.Disjoint b.inboundTags) →
      (∀ r' ∈ l, (routeRule r').admits x c = true ↔ x.inbound c ∈ r'.inboundTags) → r ∈ l →
      (l.map routeRule ++ rules).find? (fun rule => rule.admits x c) = some (routeRule r) := by
    intro l
    induction l with
    | nil => exact fun _ _ hr => by cases hr
    | cons r' l ih =>
      intro hpairs hall hr
      rw [List.pairwise_cons] at hpairs
      rw [List.map_cons, List.cons_append]
      rcases List.mem_cons.1 hr with rfl | hr
      · exact List.find?_cons_of_pos ((hall r List.mem_cons_self).2 hc)
      · rw [List.find?_cons_of_neg]
        · exact ih hpairs.2 (fun r'' h'' => hall r'' (List.mem_cons_of_mem _ h'')) hr
        · intro hadmit
          exact hpairs.1 r hr ((hall r' List.mem_cons_self).1 hadmit) hc
  rw [AegisVPN.firstRule, h.rules]
  exact hfind _ hsorted hadmits (mem_sortedRoutes.2 hr)

theorem Routed.balancerTagged (h : Routed config' routes foreign rules) {b : Balancer}
    (hb : balancerTagged config' (routeBalancerTag r) = some b) :
    ∃ r' ∈ routes, r'.routeId = r.routeId ∧ b = routeBalancer r' := by
  rw [AegisVPN.balancerTagged, h.balancers] at hb
  have htag : b.tag = some (routeBalancerTag r) := by simpa using List.find?_some hb
  obtain ⟨r', hr', rfl⟩ := List.mem_map.1 (List.mem_of_find?_eq_some hb)
  refine ⟨r', mem_sortedRoutes.1 hr', ?_, rfl⟩
  have hlists : (routeBalancerTag r').toList = (routeBalancerTag r).toList :=
    congrArg String.toList (Option.some.inj htag)
  rw [routeBalancerTag, routeBalancerTag, balancerTag_toList, balancerTag_toList] at hlists
  have hprefix : tagPrefix.toList ++ (Nat.toDigits 10 r'.routeId ++ '-' :: "balancer".toList) <+:
      tagPrefix.toList ++ (Nat.toDigits 10 r.routeId ++ '-' :: "balancer".toList) :=
    ⟨[], (List.append_nil _).trans hlists⟩
  exact routeId_of_startsWith hprefix

theorem Routed.balancerTagged_isSome (h : Routed config' routes foreign rules) (hr : r ∈ routes) :
    (AegisVPN.balancerTagged config' (routeBalancerTag r)).isSome = true := by
  rw [AegisVPN.balancerTagged, h.balancers, List.find?_isSome]
  exact ⟨routeBalancer r, List.mem_map_of_mem (mem_sortedRoutes.2 hr), decide_eq_true rfl⟩

end Routes

/-- A router whose connections are inbound tags, and whose rules have no conditions but name an
outbound. -/
def plainRouter : XrayRouter String where
  inbound := id
  holds _ _ := true
  outboundTag text := if text = "" then none else some text
  pick _ selected _ := selected.head?
  holds_nothing _ := rfl
  outboundTag_nothing := rfl
  pick_selected _ _ _ _ h := List.mem_of_mem_head? h
  pick_some _ _ _ h := by rwa [ne_eq, List.head?_eq_none_iff]

/-- A second route for another inbound of the node. -/
def secondRoute (routeId : Nat) : DesiredCascadeRoute :=
  ⟨routeId, 1, "", "", ["grpc-in"], [], [{ exitAbroad with host := "203.0.113.5" }], ⟨[]⟩⟩

theorem routes_apply (config : XrayConfig) (routeId : Nat) :
    ∃ config', applyCascadeRoutes config [abroadRoute, secondRoute routeId] = .ok config' := by
  refine (applyCascadeRoutes_ok_iff config _).2 ⟨fun r hr => ?_, ?_⟩
  · rcases List.mem_cons.1 hr with rfl | hr
    · exact ⟨by decide +kernel, by decide +kernel⟩
    · obtain rfl := List.mem_singleton.1 hr
      refine ⟨rfl, fun e he => ?_⟩
      obtain rfl := List.mem_singleton.1 he
      decide +kernel
  · refine List.pairwise_cons.2 ⟨fun r hr => ?_, List.pairwise_singleton _ _⟩
    obtain rfl := List.mem_singleton.1 hr
    intro t ht ht'
    rw [List.mem_singleton.1 ht] at ht'
    exact absurd (List.mem_singleton.1 ht') (by decide)

end AegisVPN
