import Mathlib.Data.List.Pairwise
import AegisVPN.Agent.BootRuns

namespace AegisVPN
open Library
set_option autoImplicit true

/-! ## First-match routing of the file -/

inductive Target (α : Type)
  | address (a : α)
  | name (host : String)
  deriving DecidableEq

/-- A connection as the router sees it; `sniffed` is the protocol it was recognised as. -/
structure Connection (α : Type) where
  inbound : String
  target : Target α
  port : Nat
  network : String
  sniffed : Option String

/-- Xray's lists, its DNS and its matching of single conditions. -/
structure XrayMatcher (α : Type) where
  ip : String → α → Bool
  domain : String → String → Bool
  port : String → Nat → Bool
  network : String → String → Bool
  extra : String × Json → Connection α → Bool
  resolve : String → List α
  full : ∀ host name, domain s!"full:{host}" name = decide (name = host)
  http : ∀ p, port "80" p = decide (p = 80)

section Routing
variable (x : XrayMatcher α)

/-- A condition that lists nothing is none. -/
def holdsAny (values : Option (List β)) (p : β → Bool) : Bool :=
  (values.getD []).isEmpty || (values.getD []).any p

/-- The addresses that the conditions on addresses are about. -/
def targetAddresses (onDemand : Bool) : Target α → List α
  | .address a => [a]
  | .name host => if onDemand then x.resolve host else []

def NodeRule.admits (onDemand : Bool) (r : NodeRule) (c : Connection α) : Bool :=
  holdsAny r.inboundTag (fun t => t == c.inbound) &&
    holdsAny r.domain (fun d => match c.target with
      | .name host => x.domain d host
      | .address _ => false) &&
    holdsAny r.ip (fun i => (targetAddresses x onDemand c.target).any (x.ip i)) &&
    r.port.all (fun p => x.port p c.port) && r.network.all (fun n => x.network n c.network) &&
    holdsAny r.protocol (fun p => c.sniffed == some p) && r.extra.all fun e => x.extra e c

inductive RoutedTo
  | outbound (tag : String)
  | balancer (tag : String)
  | default
  deriving DecidableEq

/-- The first rule that admits the connection decides; the first outbound is the default. -/
def routedTo (config : NodeConfig) (c : Connection α) : RoutedTo :=
  match config.rules.find? fun r =>
      r.admits x (config.domainStrategy == some "IPOnDemand") c with
  | none => .default
  | some r =>
    match r.outboundTag, r.balancerTag with
    | some tag, _ => .outbound tag
    | none, some tag => .balancer tag
    | none, none => .default

/-- A private address, a private name, or a name that resolves to a private address. -/
def PrivateTarget : Target α → Prop
  | .address a => x.ip "geoip:private" a = true
  | .name host => x.domain "geosite:private" host = true ∨
    ∃ a ∈ x.resolve host, x.ip "geoip:private" a = true

/-- The host of the load probe on port 80, where the last boot set one up. -/
def ToProbe (s : BootState) (c : Connection α) : Prop :=
  ∃ env, s.env = some env ∧ env.probes = true ∧ c.target = .name env.lbProbeHost ∧ c.port = 80

end Routing

/-! ## The order of the rules -/

/-- A rule of the API or of the load probe. -/
def OfNode (s : BootState) (r : NodeRule) : Prop :=
  r = apiRule ∨ ∃ env, s.env = some env ∧ env.probes = true ∧ r = probeRule env

/-- Before the rules of the private network there are only rules of the routes, of the API and of
the load probe. -/
def Placed (s : BootState) : Prop :=
  ∃ pre post, s.config.rules = pre ++ (privateRules ++ post) ∧
    (∀ r ∈ pre, r ∈ managedRules s.routes ∨ OfNode s r) ∧
    ∀ env, s.env = some env → env.probes = true → probeRule env ∈ pre

/-- Besides, the rules of the routes come first of all. -/
def RoutesFirst (s : BootState) : Prop :=
  ∃ pre post, s.config.rules = managedRules s.routes ++ (pre ++ (privateRules ++ post)) ∧
    (∀ r ∈ pre, OfNode s r) ∧ ∀ env, s.env = some env → env.probes = true → probeRule env ∈ pre

theorem RoutesFirst.placed (h : RoutesFirst s) : Placed s := by
  obtain ⟨pre, post, hrules, hpre, hprobe⟩ := h
  refine ⟨managedRules s.routes ++ pre, post, ?_, fun r hr => ?_, fun env henv hp => ?_⟩
  · rw [hrules, List.append_assoc]
  · exact (List.mem_append.1 hr).imp id (hpre r)
  · exact List.mem_append_right _ (hprobe env henv hp)

theorem RoutesFirst.start (port : Nat) : RoutesFirst (bootStart port) := by
  refine ⟨[apiRule], templateTail, rfl, fun r hr => ?_, fun env henv => ?_⟩
  · exact .inl (List.mem_singleton.1 hr)
  · cases henv

theorem probeRules_boot (s : BootState) (env : BootEnv) :
    (∀ r ∈ probeRules env, OfNode (bootStep s (.boot env)) r) ∧
      ∀ env', (bootStep s (.boot env)).env = some env' → env'.probes = true →
        probeRule env' ∈ probeRules env := by
  refine ⟨fun r hr => ?_, fun env' henv hp => ?_⟩
  · obtain ⟨hp, rfl⟩ := mem_probeRules hr
    exact .inr ⟨env, rfl, hp, rfl⟩
  · cases henv
    rw [probeRules, hp]
    exact List.mem_singleton_self _

theorem Shaped.boot_placed (h : Shaped s) (env : BootEnv) : Placed (bootStep s (.boot env)) := by
  obtain ⟨hnode, hprobe⟩ := probeRules_boot s env
  rcases h.boot_split env with ⟨_, hrules⟩ | ⟨a, m, b, hsplit, _, _, hrules⟩
  · refine ⟨managedRules s.routes ++ apiRule :: probeRules env,
      warpRules (warpSource env s.config).isSome ++ templateTail, ?_, ?_, ?_⟩
    · simp only [bootStep, hrules, newRules, List.append_assoc, List.cons_append]
    · intro r hr
      rcases List.mem_append.1 hr with hr | hr
      · exact .inl hr
      · rcases List.mem_cons.1 hr with rfl | hr
        · exact .inr (.inl rfl)
        · exact .inr (hnode r hr)
    · intro env' henv hp
      exact List.mem_append_right _ (List.mem_cons_of_mem _ (hprobe env' henv hp))
  · refine ⟨a ++ m :: probeRules env,
      warpRules (warpSource env s.config).isSome ++ (b ++ apiRule :: templateTail), ?_, ?_, ?_⟩
    · simp only [bootStep, hrules, newRules, List.append_assoc, List.cons_append]
    · intro r hr
      rcases List.mem_append.1 hr with hr | hr
      · exact .inl (hsplit ▸ List.mem_append_left _ hr)
      · rcases List.mem_cons.1 hr with rfl | hr
        · exact .inl (hsplit ▸ List.mem_append_right _ List.mem_cons_self)
        · exact .inr (hnode r hr)
    · intro env' henv hp
      exact List.mem_append_right _ (List.mem_cons_of_mem _ (hprobe env' henv hp))

theorem Shaped.boot_leading (h : Shaped s) (env : BootEnv) (hplain : RoutesPlain s.routes) :
    RoutesFirst (bootStep s (.boot env)) := by
  obtain ⟨hnode, hprobe⟩ := probeRules_boot s env
  rcases h.boot_split env with ⟨_, hrules⟩ | ⟨a, m, b, hsplit, _, hm, hrules⟩
  · refine ⟨apiRule :: probeRules env, warpRules (warpSource env s.config).isSome ++ templateTail,
      ?_, fun r hr => ?_, fun env' henv hp => ?_⟩
    · simp only [bootStep, hrules, newRules, List.append_assoc, List.cons_append]
    · rcases List.mem_cons.1 hr with rfl | hr
      · exact .inl rfl
      · exact hnode r hr
    · exact List.mem_cons_of_mem _ (hprobe env' henv hp)
  · obtain rfl := hplain.last_claims_api hsplit hm
    refine ⟨probeRules env, warpRules (warpSource env s.config).isSome ++ apiRule :: templateTail,
      ?_, hnode, hprobe⟩
    simp only [bootStep, hrules, newRules, hsplit, List.append_assoc, List.cons_append,
      List.nil_append]

theorem Reconciled.leading (hr : Reconciled items nowMs s.config config') (h : Placed s) :
    RoutesFirst ⟨config', s.env, desiredRoutes items⟩ := by
  obtain ⟨pre, post, hrules, hpre, hprobe⟩ := h
  have hprivate : privateRules.filter (fun r => !isManaged r.balancerTag) = privateRules := by
    decide
  refine ⟨pre.filter fun r => !isManaged r.balancerTag,
    post.filter fun r => !isManaged r.balancerTag, ?_, fun r hmem => ?_, fun env henv hp => ?_⟩
  · rw [hr.rules, hrules, List.filter_append, List.filter_append, hprivate]
  · obtain ⟨hmem, hun⟩ := List.mem_filter.1 hmem
    refine (hpre r hmem).resolve_left fun hmanaged => ?_
    rw [(managedRules_kind hmanaged).1] at hun
    cases hun
  · exact List.mem_filter.2 ⟨hprobe env henv hp, rfl⟩

theorem Placed.step (hs : Shaped s) (h : Placed s) (e : BootStep) : Placed (bootStep s e) := by
  cases e with
  | boot env => exact hs.boot_placed env
  | reconcile items nowMs =>
    rw [bootStep]
    cases hfile : reconcileFile items nowMs s.config with
    | error e => exact h
    | ok config => exact ((reconcileFile_spec hfile).leading h).placed

/-- The boots that leave the rules of the routes in front. -/
def BootsPlainly (s : BootState) : BootStep → Prop
  | .boot _ => RoutesPlain s.routes
  | .reconcile _ _ => True

instance : ∀ e, Decidable (BootsPlainly s e)
  | .boot _ => inferInstanceAs (Decidable (RoutesPlain s.routes))
  | .reconcile _ _ => inferInstanceAs (Decidable True)

theorem RoutesFirst.step (hs : Shaped s) (h : RoutesFirst s) (e : BootStep)
    (hplain : BootsPlainly s e) : RoutesFirst (bootStep s e) := by
  cases e with
  | boot env => exact hs.boot_leading env hplain
  | reconcile items nowMs =>
    rw [bootStep]
    cases hfile : reconcileFile items nowMs s.config with
    | error e => exact h
    | ok config => exact (reconcileFile_spec hfile).leading h.placed

theorem Placed.run (port : Nat) (steps : List BootStep) : Placed (bootRun port steps) :=
  (List.foldlRecOn (motive := fun s => Shaped s ∧ Placed s) steps bootStep
    ⟨.start port, (RoutesFirst.start port).placed⟩ fun _ h e _ => ⟨h.1.step e, h.2.step h.1 e⟩).2

theorem RoutesFirst.run (port : Nat) (steps : List BootStep)
    (h : Along bootStep BootsPlainly (bootStart port) steps) : RoutesFirst (bootRun port steps) :=
  (run_invariant (I := fun s => Shaped s ∧ RoutesFirst s) ⟨.start port, .start port⟩
    (fun _ e h hplain => ⟨h.1.step e, h.2.step h.1 e hplain⟩) h).2

/-! ## Private targets -/

theorem holdsAny_some {values : List β} {p : β → Bool} (hne : values ≠ []) :
    holdsAny (some values) p = true ↔ ∃ v ∈ values, p v = true := by
  rw [holdsAny, Option.getD_some, List.isEmpty_eq_false_iff.2 hne, Bool.false_or, List.any_eq_true]

section Private
variable (x : XrayMatcher α) {c : Connection α} {b : Bool}

theorem admits_managed {r : DesiredCascadeRoute} (hne : r.inboundTags ≠ []) :
    (NodeRule.ofManaged (routeRule r)).admits x b c = true ↔ c.inbound ∈ r.inboundTags := by
  have hin : holdsAny (some r.inboundTags) (fun t => t == c.inbound) = true ↔
      c.inbound ∈ r.inboundTags := by
    rw [holdsAny_some hne]
    simp
  rw [← hin]
  simp [NodeRule.admits, NodeRule.ofManaged, routeRule, holdsAny]

theorem admits_api : apiRule.admits x b c = true ↔ c.inbound = "api" := by
  rw [@eq_comm _ c.inbound]
  simp [NodeRule.admits, apiRule, holdsAny]

theorem admits_probe {env : BootEnv} : (probeRule env).admits x b c = true ↔
    c.target = .name env.lbProbeHost ∧ c.port = 80 := by
  have hport : (some "80").all (fun p => x.port p c.port) = decide (c.port = 80) := by
    rw [Option.all_some, x.http]
  cases htarget : c.target with
  | address a => simp [NodeRule.admits, probeRule, holdsAny, htarget]
  | name host => simp [NodeRule.admits, probeRule, holdsAny, htarget, x.full, hport]

/-- One of the two rules of the private network admits every private target, names included as
they are resolved on demand. -/
theorem admits_private (h : PrivateTarget x c.target) :
    ∃ r ∈ privateRules, r.admits x true c = true := by
  cases htarget : c.target with
  | address a =>
    rw [htarget] at h
    refine ⟨_, List.mem_cons_self, ?_⟩
    have hip : x.ip "geoip:private" a = true := h
    simp [NodeRule.admits, holdsAny, htarget, targetAddresses, hip]
  | name host =>
    rw [htarget] at h
    rcases h with h | ⟨a, ha, hip⟩
    · refine ⟨_, List.mem_cons_of_mem _ List.mem_cons_self, ?_⟩
      simp [NodeRule.admits, holdsAny, htarget, h]
    · refine ⟨_, List.mem_cons_self, ?_⟩
      have hany : (x.resolve host).any (x.ip "geoip:private") = true :=
        List.any_eq_true.2 ⟨a, ha, hip⟩
      simp [NodeRule.admits, holdsAny, htarget, targetAddresses, hany]

/-- A connection to a private target meets the rule of its route, of the API or of the load probe
if it is about them, and else one of the rules of the private network. -/
theorem find_private {pre post : List NodeRule} (h : PrivateTarget x c.target) :
    ∃ r, (pre ++ (privateRules ++ post)).find? (fun r => r.admits x true c) = some r ∧
      (r ∈ pre ∧ r.admits x true c = true ∨
        (∀ r ∈ pre, r.admits x true c = false) ∧ r ∈ privateRules) := by
  rw [List.find?_append]
  cases hpre : pre.find? fun r => r.admits x true c with
  | some r =>
    exact ⟨r, rfl, .inl ⟨List.mem_of_find?_eq_some hpre,
      List.find?_some (p := fun r : NodeRule => r.admits x true c) hpre⟩⟩
  | none =>
    obtain ⟨r', hr', hadmits⟩ := admits_private x h
    have hsome : (privateRules.find? fun r => r.admits x true c).isSome = true :=
      List.find?_isSome.2 ⟨r', hr', hadmits⟩
    obtain ⟨r, hr⟩ := Option.isSome_iff_exists.1 hsome
    refine ⟨r, ?_, .inr ⟨fun q hq => ?_, List.mem_of_find?_eq_some hr⟩⟩
    · rw [List.find?_append, hr]
      rfl
    · simpa using List.find?_eq_none.1 hpre q hq

/-- The outcomes that a connection to a private target may have in a state: it is blocked, or it is
the load probe, or its inbound is claimed by a route. -/
def Contained (s : BootState) (c : Connection α) : Prop :=
  routedTo x s.config c = .outbound "block" ∨
    (ToProbe s c ∧ routedTo x s.config c = .outbound "lb-probe") ∨
    ∃ r ∈ s.routes, c.inbound ∈ r.inboundTags ∧
      routedTo x s.config c = .balancer (routeBalancerTag r)

/-- The outcome that it has: the balancer of the route that claims the inbound, else the load probe
for the host of the probe, else it is blocked. -/
structure Confined (s : BootState) (c : Connection α) : Prop where
  claimed : ∀ r ∈ s.routes, c.inbound ∈ r.inboundTags →
    routedTo x s.config c = .balancer (routeBalancerTag r)
  probe : (∀ r ∈ s.routes, c.inbound ∉ r.inboundTags) → ToProbe s c →
    routedTo x s.config c = .outbound "lb-probe"
  blocked : (∀ r ∈ s.routes, c.inbound ∉ r.inboundTags) → ¬ ToProbe s c →
    routedTo x s.config c = .outbound "block"

variable {x}

theorem routedTo_eq {s : BootState} (hs : Shaped s) (hrules : s.config.rules = rules)
    (hfind : rules.find? (fun r => r.admits x true c) = some r) :
    routedTo x s.config c = match r.outboundTag, r.balancerTag with
      | some tag, _ => .outbound tag
      | none, some tag => .balancer tag
      | none, none => .default := by
  rw [routedTo, hs.strategy, hrules]
  simp only [BEq.rfl, hfind]

theorem routedTo_block {s : BootState} (hs : Shaped s) (hrules : s.config.rules = rules)
    (hfind : rules.find? (fun r => r.admits x true c) = some r) (hr : r ∈ privateRules) :
    routedTo x s.config c = .outbound "block" := by
  rw [routedTo_eq hs hrules hfind]
  rcases List.mem_cons.1 hr with rfl | hr
  · rfl
  · obtain rfl := List.mem_singleton.1 hr
    rfl

theorem OfNode.probe {s : BootState} (h : OfNode s r) (hclient : c.inbound ≠ "api")
    (hadmits : r.admits x true c = true) : ToProbe s c ∧ r.outboundTag = some "lb-probe" := by
  rcases h with rfl | ⟨env, henv, hp, rfl⟩
  · exact (hclient ((admits_api x).1 hadmits)).elim
  · obtain ⟨htarget, hport⟩ := (admits_probe x).1 hadmits
    exact ⟨⟨env, henv, hp, htarget, hport⟩, rfl⟩

theorem Placed.contained {s : BootState} (hs : Shaped s) (h : Placed s)
    (htags : ∀ r ∈ s.routes, r.inboundTags ≠ []) (hclient : c.inbound ≠ "api")
    (hprivate : PrivateTarget x c.target) : Contained x s c := by
  obtain ⟨pre, post, hrules, hpre, _⟩ := h
  obtain ⟨rule, hfind, ⟨hmem, hadmits⟩ | ⟨_, hmem⟩⟩ := @find_private _ x c pre post hprivate
  · rcases hpre rule hmem with hmanaged | hnode
    · obtain ⟨r, hr, rfl⟩ := mem_managedRules.1 hmanaged
      refine .inr (.inr ⟨r, hr, (admits_managed x (htags r hr)).1 hadmits, ?_⟩)
      exact routedTo_eq hs hrules hfind
    · obtain ⟨hprobe, htag⟩ := hnode.probe hclient hadmits
      refine .inr (.inl ⟨hprobe, ?_⟩)
      rw [routedTo_eq hs hrules hfind, htag]
  · exact .inl (routedTo_block hs hrules hfind hmem)

theorem find_claimed {s : BootState} (hs : Shaped s)
    (htags : ∀ r ∈ s.routes, r.inboundTags ≠ []) {rest : List NodeRule}
    {r : DesiredCascadeRoute} (hr : r ∈ s.routes) (hc : c.inbound ∈ r.inboundTags) :
    (managedRules s.routes ++ rest).find? (fun r => r.admits x true c) =
      some (NodeRule.ofManaged (routeRule r)) := by
  have hown : (NodeRule.ofManaged (routeRule r)).admits x true c = true :=
    (admits_managed x (htags r hr)).2 hc
  have hsome : ((managedRules s.routes).find? fun r => r.admits x true c).isSome = true :=
    List.find?_isSome.2 ⟨_, mem_managedRules.2 ⟨r, hr, rfl⟩, hown⟩
  obtain ⟨rule, hrule⟩ := Option.isSome_iff_exists.1 hsome
  obtain ⟨r', hr', rfl⟩ := mem_managedRules.1 (List.mem_of_find?_eq_some hrule)
  have hadmits := @List.find?_some _ (fun r : NodeRule => r.admits x true c) _ _ hrule
  have hc' : c.inbound ∈ r'.inboundTags := (admits_managed x (htags r' hr')).1 hadmits
  rw [List.find?_append, hrule, hs.claimed_once hr' hr hc' hc]
  rfl

theorem find_unclaimed {s : BootState} (htags : ∀ r ∈ s.routes, r.inboundTags ≠ [])
    {rest : List NodeRule} (hc : ∀ r ∈ s.routes, c.inbound ∉ r.inboundTags) :
    (managedRules s.routes ++ rest).find? (fun r => r.admits x true c) =
      rest.find? fun r => r.admits x true c := by
  have hnone : (managedRules s.routes).find? (fun r => r.admits x true c) = none := by
    refine List.find?_eq_none.2 fun rule hrule hadmits => ?_
    obtain ⟨r, hr, rfl⟩ := mem_managedRules.1 hrule
    exact hc r hr ((admits_managed x (htags r hr)).1 hadmits)
  rw [List.find?_append, hnone]
  rfl

theorem RoutesFirst.confined {s : BootState} (hs : Shaped s) (h : RoutesFirst s)
    (htags : ∀ r ∈ s.routes, r.inboundTags ≠ []) (hclient : c.inbound ≠ "api")
    (hprivate : PrivateTarget x c.target) : Confined x s c := by
  obtain ⟨pre, post, hrules, hpre, hprobe⟩ := h
  have hrest : (∀ r ∈ s.routes, c.inbound ∉ r.inboundTags) →
      ToProbe s c ∧ routedTo x s.config c = .outbound "lb-probe" ∨
        ¬ ToProbe s c ∧ routedTo x s.config c = .outbound "block" := by
    intro hc
    obtain ⟨rule, hfind, ⟨hmem, hadmits⟩ | ⟨hno, hmem⟩⟩ := @find_private _ x c pre post hprivate
    · obtain ⟨hto, htag⟩ := (hpre rule hmem).probe hclient hadmits
      refine .inl ⟨hto, ?_⟩
      rw [routedTo_eq hs hrules ((find_unclaimed htags hc).trans hfind), htag]
    · refine .inr ⟨?_, routedTo_block hs hrules ((find_unclaimed htags hc).trans hfind) hmem⟩
      rintro ⟨env, henv, hp, htarget, hport⟩
      have hfalse := hno _ (hprobe env henv hp)
      rw [(admits_probe x).2 ⟨htarget, hport⟩] at hfalse
      cases hfalse
  constructor
  · intro r hr hc
    exact routedTo_eq hs hrules (find_claimed hs htags hr hc)
  · intro hc hto
    exact ((hrest hc).resolve_right fun h => h.1 hto).2
  · intro hc hto
    exact ((hrest hc).resolve_left fun h => hto h.1).2

end Private

theorem bootRun_tags {steps : List BootStep} (h : ∀ e ∈ steps, e.Parsed) (port : Nat) :
    ∀ r ∈ (bootRun port steps).routes, r.inboundTags ≠ [] := by
  have hstart : ∀ r ∈ (bootStart port).routes, r.inboundTags ≠ [] := by
    intro r hr
    cases hr
  refine List.foldlRecOn (motive := fun s => ∀ r ∈ s.routes, r.inboundTags ≠ []) steps bootStep
    hstart fun s hs e he => ?_
  cases e with
  | boot env => exact hs
  | reconcile items nowMs =>
    rw [bootStep]
    cases reconcileFile items nowMs s.config with
    | error e => exact hs
    | ok config => exact h _ he

/-- Whatever the boots and reconciles, a client never reaches the private network of the node; and
as long as no boot finds a route but the last that claims just the inbound of the API, an inbound
that a route claims is served by the balancer of the route alone. -/
theorem private_network_closed (x : XrayMatcher α) (port : Nat) (steps : List BootStep)
    (hparsed : ∀ e ∈ steps, e.Parsed) (c : Connection α) (hclient : c.inbound ≠ "api")
    (hprivate : PrivateTarget x c.target) :
    Contained x (bootRun port steps) c ∧
      (Along bootStep BootsPlainly (bootStart port) steps →
        Confined x (bootRun port steps) c) := by
  have htags := bootRun_tags hparsed port
  refine ⟨(Placed.run port steps).contained (.run port steps) htags hclient hprivate, ?_⟩
  intro hplain
  exact (RoutesFirst.run port steps hplain).confined (.run port steps) htags hclient hprivate

/-! ## A node with IPv4 addresses -/

def privateAddress : Nat × Nat × Nat × Nat → Bool
  | (a, b, _, _) => a == 10 || a == 127 || (a == 172 && 16 ≤ b && b < 32) ||
    (a == 192 && b == 168) || (a == 169 && b == 254)

/-- One name resolves to the loopback address. -/
def plainMatcher : XrayMatcher (Nat × Nat × Nat × Nat) where
  ip list a := list == "geoip:private" && privateAddress a
  domain pattern host := pattern == s!"full:{host}" ||
    (pattern == "geosite:private" && host == "localhost")
  port text p := text == toString p
  network text n := (text.toList.splitOn ',').contains n.toList
  extra _ _ := false
  resolve host := if host = "lo.example.org" then [(127, 0, 0, 1)] else [(203, 0, 113, 9)]
  full host name := by
    have hno : s!"full:{host}" ≠ "geosite:private" := full_ne (by decide)
    have hiff : s!"full:{host}" = s!"full:{name}" ↔ name = host := by
      constructor
      · intro h
        have hlist := congrArg String.toList h
        simp only [toString, String.toList_append] at hlist
        exact (String.toList_injective (List.append_cancel_left hlist)).symm
      · rintro rfl
        rfl
    rw [Bool.eq_iff_iff]
    simp [hno, hiff]
  http p := by
    have hiff : "80" = toString p ↔ p = 80 := by
      constructor
      · intro h
        have hdigits : Nat.toDigits 10 80 = ['8', '0'] := by decide
        have hlist : ['8', '0'] = Nat.toDigits 10 p := by
          simpa [toString] using congrArg String.toList h
        exact (toDigits_inj (hdigits.trans hlist)).symm
      · rintro rfl
        rfl
    rw [Bool.eq_iff_iff, beq_iff_eq, decide_eq_true_eq]
    exact hiff

def nodeEnv : BootEnv where
  network := "tcp"
  port := 443
  tcpPort := some 2053
  grpcPort := none
  warp := some ⟨"secret", ["172.16.0.2/32"], "peer", "", 1280, []⟩
  lbProbePort := 10086
  lbProbeHost := "lb.aegisvpn.org"

/-- The node is booted, put into a cascade and booted again. -/
def cascadeBoots : List BootStep :=
  [.boot nodeEnv, .reconcile [.cascadeRoute abroadRoute] 0, .boot nodeEnv]

theorem cascadeBoots_parsed : ∀ e ∈ cascadeBoots, e.Parsed := by
  intro e he
  simp only [cascadeBoots, List.mem_cons, List.not_mem_nil, or_false] at he
  rcases he with rfl | rfl | rfl
  · trivial
  · have htags : ∀ r ∈ desiredRoutes [.cascadeRoute abroadRoute], r.inboundTags ≠ [] := by
      decide
    exact htags
  · trivial

theorem private_network_closed_tcp :
    routedTo plainMatcher (bootRun 443 cascadeBoots).config
      ⟨"vless-in-tcp", .name "lo.example.org", 10085, "tcp", none⟩ = .outbound "block" := by
  have hconfined := (private_network_closed plainMatcher 443 cascadeBoots cascadeBoots_parsed
    ⟨"vless-in-tcp", .name "lo.example.org", 10085, "tcp", none⟩ (by decide)
    (.inr ⟨(127, 0, 0, 1), by decide +kernel, by decide +kernel⟩)).2 (by decide +kernel)
  refine hconfined.blocked ?_ ?_
  · have hroutes : (bootRun 443 cascadeBoots).routes = [abroadRoute] := by decide +kernel
    rw [hroutes]
    decide
  · rintro ⟨env, henv, _, htarget, _⟩
    cases henv
    exact absurd htarget (by decide)

/-- A route that claims just the inbound of the API, and another after it. -/
def apiClaimed : List DesiredItem :=
  [.cascadeRoute { abroadRoute with routeId := 1, inboundTags := ["api"] },
    .cascadeRoute abroadRoute]

/-- The boot takes the rule of the first route for the API's and puts its rules before the rule of
the second route. -/
theorem api_route_first :
    ¬ ∀ (x : XrayMatcher (Nat × Nat × Nat × Nat)) (port : Nat) (steps : List BootStep),
      (∀ e ∈ steps, e.Parsed) → ∀ c : Connection (Nat × Nat × Nat × Nat), c.inbound ≠ "api" →
        PrivateTarget x c.target → Confined x (bootRun port steps) c := by
  intro h
  have hparsed : ∀ e ∈ [BootStep.reconcile apiClaimed 0, .boot nodeEnv], e.Parsed := by
    intro e he
    simp only [List.mem_cons, List.not_mem_nil, or_false] at he
    rcases he with rfl | rfl
    · have htags : ∀ r ∈ desiredRoutes apiClaimed, r.inboundTags ≠ [] := by decide
      exact htags
    · trivial
  have hclaimed := (h plainMatcher 443 _ hparsed
    ⟨"vless-in", .address (127, 0, 0, 1), 10085, "tcp", none⟩ (by decide)
    (by decide : plainMatcher.ip "geoip:private" (127, 0, 0, 1) = true)).claimed abroadRoute
  have hmem : abroadRoute ∈ (bootRun 443 [.reconcile apiClaimed 0, .boot nodeEnv]).routes := by
    decide +kernel
  have hrouted : routedTo plainMatcher (bootRun 443 [.reconcile apiClaimed 0,
      .boot nodeEnv]).config ⟨"vless-in", .address (127, 0, 0, 1), 10085, "tcp", none⟩ =
        .outbound "block" := by
    decide +kernel
  rw [hrouted] at hclaimed
  cases hclaimed hmem (by decide)

end AegisVPN
