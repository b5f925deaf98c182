import AegisVPN.Agent.PrivateBlocked

namespace AegisVPN
open Library
set_option autoImplicit true

/-! ## The rules of the running Xray -/

/-- A rule of the file, or the rule that `xray api sib` puts in for the addresses over their
limit. -/
inductive LiveRule (σ : Type)
  | ofFile (r : NodeRule)
  | connLimit (sources : List σ)
  deriving DecidableEq

/-- The rule of the blocked addresses comes last. -/
def liveRules (config : NodeConfig) (blocked : List σ) : List (LiveRule σ) :=
  config.rules.map .ofFile ++ [.connLimit blocked]

section Live
variable [DecidableEq σ] (x : XrayMatcher α)

def LiveRule.admits (onDemand : Bool) (source : σ) (c : Connection α) : LiveRule σ → Bool
  | .ofFile r => r.admits x onDemand c
  | .connLimit sources => decide (source ∈ sources)

/-- The rule that decides about a connection from a source. -/
def decidingRule (config : NodeConfig) (blocked : List σ) (source : σ) (c : Connection α) :
    Option (LiveRule σ) :=
  (liveRules config blocked).find? fun r =>
    r.admits x (config.domainStrategy == some "IPOnDemand") source c

end Live

/-! ## Rules about destinations -/

/-- The rule has a condition on where a connection goes to or on what it carries. -/
def NodeRule.aboutDestination (r : NodeRule) : Bool :=
  r.domain.isSome || r.ip.isSome || r.port.isSome || r.protocol.isSome

/-- A rule that no boot and no reconcile touches, and that says nothing of destinations. -/
def NodeRule.own (r : NodeRule) : Bool :=
  r.lasting && !isManaged r.balancerTag && !r.aboutDestination

/-- A rule of the file is about where the connection goes to. -/
def SpeciallyRouted (x : XrayMatcher α) (config : NodeConfig) (c : Connection α) : Prop :=
  ∃ r ∈ config.rules, r.aboutDestination = true ∧
    r.admits x (config.domainStrategy == some "IPOnDemand") c = true

instance (x : XrayMatcher α) (config : NodeConfig) (c : Connection α) :
    Decidable (SpeciallyRouted x config c) := by unfold SpeciallyRouted; infer_instance

/-- A file that a node has from earlier: what is marked as a route's is of its routes, and what goes
to WARP is chosen by destination. It may end with a rule that lets everything out. -/
structure Deployed (s : BootState) : Prop where
  routes : ∀ r ∈ managedRules s.routes, r ∈ s.config.rules
  managed : ∀ r ∈ s.config.rules, isManaged r.balancerTag = true → r ∈ managedRules s.routes
  warp : ∀ r ∈ s.config.rules, r.ofWarp = true → r.aboutDestination = true
  disjoint : s.routes.Pairwise fun a b => a.inboundTags.Disjoint b.inboundTags
  tags : ∀ r ∈ s.routes, r.inboundTags ≠ []

/-- The node starts from the file, which its first boot rewrites. -/
def deployedRun (s : BootState) (env : BootEnv) (steps : List BootStep) : BootState :=
  steps.foldl bootStep (bootStep s (.boot env))

/-- Of the rules of the file only the own ones are left beside those of the routes and those about
destinations. -/
structure Sorted (file : List NodeRule) (s : BootState) : Prop where
  sorts : ∀ r ∈ s.config.rules, r ∈ managedRules s.routes ∨ r.aboutDestination = true ∨
    r ∈ file ∧ r.own = true
  routes : ∀ r ∈ managedRules s.routes, r ∈ s.config.rules
  kept : ∀ r ∈ file, r.own = true → r ∈ s.config.rules
  strategy : s.config.domainStrategy = some "IPOnDemand"
  disjoint : s.routes.Pairwise fun a b => a.inboundTags.Disjoint b.inboundTags
  tags : ∀ r ∈ s.routes, r.inboundTags ≠ []

theorem NodeRule.own_eq_true {r : NodeRule} : r.own = true ↔
    r.lasting = true ∧ isManaged r.balancerTag = false ∧ r.aboutDestination = false := by
  simp only [NodeRule.own, Bool.and_eq_true, Bool.not_eq_true', and_assoc]

theorem newRules_aboutDestination {env : BootEnv} {active : Bool} {r : NodeRule}
    (h : r ∈ newRules env active) : r.aboutDestination = true := by
  have hprivate : ∀ r ∈ privateRules, r.aboutDestination = true := by decide
  rcases List.mem_append.1 h with h | h
  · obtain ⟨_, rfl⟩ := mem_probeRules h
    rfl
  rcases List.mem_append.1 h with h | h
  · exact hprivate r h
  · obtain ⟨_, rfl | rfl⟩ := mem_warpRules h <;> rfl

/-! ### What a boot does to any file -/

section Boot
variable {env : BootEnv} {config : NodeConfig} {r : NodeRule}

theorem mem_ensureWarp (h : r ∈ (ensureWarp env config).rules) :
    r ∈ newRules env true ∨ r ∈ config.rules := by
  rw [ensureWarp] at h
  split at h
  · exact .inr h
  · rcases mem_insertAfterFirst.1 h with h | h
    · exact .inl (List.mem_append_right _ (List.mem_append_right _ h))
    · exact .inr (List.mem_filter.1 (List.mem_filter.1 h).1).1

theorem mem_bootRewrite (h : r ∈ (bootRewrite env config).rules) : r ∈ newRules env true ∨
    r ∈ config.rules ∧ r.catchAll = false ∧ r.ofProbe = false ∧ r.ofPrivate = false := by
  obtain ⟨h, hcatch⟩ := List.mem_filter.1 h
  rw [ensureLbProbe_rules] at h
  rcases mem_insertAfterFirst.1 h with h | h
  · exact .inl (List.mem_append_left _ h)
  obtain ⟨h, hprobe⟩ := List.mem_filter.1 h
  rcases mem_insertAfterFirst.1 h with h | h
  · exact .inl (List.mem_append_right _ (List.mem_append_left _ h))
  obtain ⟨h, hprivate⟩ := List.mem_filter.1 h
  refine (mem_ensureWarp h).imp_right fun h => ⟨h, ?_, ?_, ?_⟩
  · simpa using hcatch
  · simpa using hprobe
  · simpa using hprivate

theorem bootRewrite_keeps (h : r ∈ config.rules) (hlasting : r.lasting = true) :
    r ∈ (bootRewrite env config).rules := by
  obtain ⟨hwarp, hgames, hprivate, hprobe, hcatch⟩ := NodeRule.lasting_eq_true.1 hlasting
  have hwarped : r ∈ (ensureWarp env (rebuildInbounds env config)).rules := by
    rw [ensureWarp]
    split
    · exact h
    · exact mem_insertAfterFirst.2 (.inr (List.mem_filter.2
        ⟨List.mem_filter.2 ⟨h, by simp [hwarp]⟩, by simp [hgames]⟩))
  refine List.mem_filter.2 ⟨?_, by simp [hcatch]⟩
  rw [ensureLbProbe_rules]
  refine mem_insertAfterFirst.2 (.inr (List.mem_filter.2 ⟨?_, by simp [hprobe]⟩))
  exact mem_insertAfterFirst.2 (.inr (List.mem_filter.2 ⟨hwarped, by simp [hprivate]⟩))

theorem bootRewrite_strategy : (bootRewrite env config).domainStrategy = some "IPOnDemand" := by
  simp only [bootRewrite, ensureConnLimitReachable, ensureLbProbe]
  split <;> rfl

end Boot

/-- The first boot takes out the catch-all and what it puts in again. -/
theorem Deployed.sorted (h : Deployed s) (env : BootEnv) :
    Sorted s.config.rules (bootStep s (.boot env)) where
  sorts := by
    intro r hr
    rcases mem_bootRewrite hr with hnew | ⟨hold, hcatch, hprobe, hprivate⟩
    · exact .inr (.inl (newRules_aboutDestination hnew))
    · cases habout : r.aboutDestination with
      | true => exact .inr (.inl rfl)
      | false =>
        cases hmanaged : isManaged r.balancerTag with
        | true => exact .inl (h.managed r hold hmanaged)
        | false =>
          have hwarp : r.ofWarp = false := Bool.eq_false_iff.2 fun hwarp => by
            rw [h.warp r hold hwarp] at habout
            cases habout
          have hdomain : r.domain = none := by
            simpa [NodeRule.aboutDestination] using (Bool.or_eq_false_iff.1 (Bool.or_eq_false_iff.1
              (Bool.or_eq_false_iff.1 habout).1).1).1
          have hgames : r.ofGames = false := by
            rw [NodeRule.ofGames, hdomain]
            rfl
          exact .inr (.inr ⟨hold, NodeRule.own_eq_true.2
            ⟨NodeRule.lasting_eq_true.2 ⟨hwarp, hgames, hprivate, hprobe, hcatch⟩, hmanaged,
              habout⟩⟩)
  routes r hr := bootRewrite_keeps (h.routes r hr) (managedRules_kind hr).2
  kept r hr hown := bootRewrite_keeps hr (NodeRule.own_eq_true.1 hown).1
  strategy := bootRewrite_strategy
  disjoint := h.disjoint
  tags := h.tags

theorem Sorted.step (h : Sorted file s) (e : BootStep) (hparsed : e.Parsed) :
    Sorted file (bootStep s e) := by
  cases e with
  | boot env =>
    refine ⟨fun r hr => ?_, fun r hr => ?_, fun r hr hown => ?_, bootRewrite_strategy, h.disjoint,
      h.tags⟩
    · rcases mem_bootRewrite hr with hnew | ⟨hold, _⟩
      · exact .inr (.inl (newRules_aboutDestination hnew))
      · exact h.sorts r hold
    · exact bootRewrite_keeps (h.routes r hr) (managedRules_kind hr).2
    · exact bootRewrite_keeps (h.kept r hr hown) (NodeRule.own_eq_true.1 hown).1
  | reconcile items nowMs =>
    rw [bootStep]
    cases hfile : reconcileFile items nowMs s.config with
    | error e => exact h
    | ok config =>
      have hspec := reconcileFile_spec hfile
      have hmem : ∀ r, r ∈ config.rules ↔ r ∈ managedRules (desiredRoutes items) ∨
          r ∈ s.config.rules ∧ isManaged r.balancerTag = false := by
        intro r
        rw [hspec.rules, List.mem_append, List.mem_filter, Bool.not_eq_true']
      refine ⟨fun r hr => ?_, fun r hr => (hmem r).2 (.inl hr), fun r hr hown => ?_,
        hspec.strategy.trans h.strategy, hspec.disjoint, hparsed⟩
      · rcases (hmem r).1 hr with hnew | ⟨hold, hforeign⟩
        · exact .inl hnew
        · -- the rules of the former routes are gone
          rcases h.sorts r hold with hmanaged | hother
          · rw [(managedRules_kind hmanaged).1] at hforeign
            cases hforeign
          · exact .inr hother
      · exact (hmem r).2 (.inr ⟨h.kept r hr hown, (NodeRule.own_eq_true.1 hown).2.1⟩)

theorem Deployed.run (h : Deployed s) (env : BootEnv) {steps : List BootStep}
    (hparsed : ∀ e ∈ steps, e.Parsed) : Sorted s.config.rules (deployedRun s env steps) :=
  List.foldlRecOn (motive := Sorted s.config.rules) steps bootStep (h.sorted env)
    fun _ h e he => h.step e (hparsed e he)

theorem Deployed.start (port : Nat) : Deployed (bootStart port) where
  routes r hr := by cases hr
  managed := by
    have hrules : ∀ r ∈ apiRule :: privateRules ++ templateTail,
        isManaged r.balancerTag = true → r ∈ managedRules [] := by decide
    exact hrules
  warp := by
    have hrules : ∀ r ∈ apiRule :: privateRules ++ templateTail,
        r.ofWarp = true → r.aboutDestination = true := by decide
    exact hrules
  disjoint := .nil
  tags r hr := by cases hr

/-! ## Where a blocked address is stopped -/

section Reach
variable [DecidableEq σ] {x : XrayMatcher α} {s : BootState} {c : Connection α}
  {blocked : List σ} {source : σ}

theorem decidingRule_of_find {config : NodeConfig} {r : NodeRule}
    (h : config.rules.find? (fun r =>
      r.admits x (config.domainStrategy == some "IPOnDemand") c) = some r) :
    decidingRule x config blocked source c = some (.ofFile r) := by
  rw [decidingRule, liveRules, List.find?_append, List.find?_map]
  have hfile : config.rules.find? ((fun r : LiveRule σ =>
      r.admits x (config.domainStrategy == some "IPOnDemand") source c) ∘ LiveRule.ofFile) =
        some r := h
  rw [hfile]
  rfl

theorem decidingRule_of_none {config : NodeConfig} (hblocked : source ∈ blocked)
    (h : ∀ r ∈ config.rules,
      r.admits x (config.domainStrategy == some "IPOnDemand") c = false) :
    decidingRule x config blocked source c = some (.connLimit blocked) := by
  have hnone : config.rules.find? ((fun r : LiveRule σ =>
      r.admits x (config.domainStrategy == some "IPOnDemand") source c) ∘ LiveRule.ofFile) =
        none := by
    rw [List.find?_eq_none]
    intro r hr
    exact Bool.eq_false_iff.1 (h r hr)
  rw [decidingRule, liveRules, List.find?_append, List.find?_map, hnone]
  have hadmits : (LiveRule.connLimit blocked).admits x
      (config.domainStrategy == some "IPOnDemand") source c = true := decide_eq_true hblocked
  rw [Option.map_none, Option.none_or, List.find?_cons_of_pos hadmits]

variable (blocked source) in
theorem decidingRule_of_admits {config : NodeConfig} {r : NodeRule} (hr : r ∈ config.rules)
    (hadmits : r.admits x (config.domainStrategy == some "IPOnDemand") c = true) :
    ∃ rule ∈ config.rules, rule.admits x (config.domainStrategy == some "IPOnDemand") c = true ∧
      decidingRule x config blocked source c = some (.ofFile rule) := by
  have hsome : (config.rules.find? fun r => r.admits x
      (config.domainStrategy == some "IPOnDemand") c).isSome = true :=
    List.find?_isSome.2 ⟨r, hr, hadmits⟩
  obtain ⟨rule, hfind⟩ := Option.isSome_iff_exists.1 hsome
  exact ⟨rule, List.mem_of_find?_eq_some hfind, @List.find?_some _ (fun r : NodeRule =>
    r.admits x (config.domainStrategy == some "IPOnDemand") c) _ _ hfind,
    decidingRule_of_find hfind⟩

/-- What meets no rule about destinations meets the rule of a route that claims its inbound, or an
own rule of the file, or none. -/
theorem Sorted.admitting (h : Sorted file s) (hplain : ¬ SpeciallyRouted x s.config c)
    {rule : NodeRule} (hrule : rule ∈ s.config.rules)
    (hadmits : rule.admits x (s.config.domainStrategy == some "IPOnDemand") c = true) :
    (∃ r ∈ s.routes, c.inbound ∈ r.inboundTags ∧ rule = NodeRule.ofManaged (routeRule r)) ∨
      rule ∈ file ∧ rule.own = true := by
  rcases h.sorts rule hrule with hmanaged | habout | hown
  · obtain ⟨r, hr, rfl⟩ := mem_managedRules.1 hmanaged
    exact .inl ⟨r, hr, (admits_managed x (h.tags r hr)).1 hadmits, rfl⟩
  · exact absurd ⟨rule, hrule, habout, hadmits⟩ hplain
  · exact .inr hown

theorem Sorted.claimed_once (h : Sorted file s) {r r' : DesiredCascadeRoute} (hr : r ∈ s.routes)
    (hr' : r' ∈ s.routes) (ht : t ∈ r.inboundTags) (ht' : t ∈ r'.inboundTags) : r = r' := by
  by_contra hne
  have : Std.Symm fun a b : DesiredCascadeRoute => a.inboundTags.Disjoint b.inboundTags :=
    ⟨fun _ _ hab => hab.symm⟩
  exact h.disjoint.forall hr hr' hne ht ht'

end Reach

/-- Whatever file the node has from earlier, a blocked address is stopped after a boot on exactly
the inbounds that no route and no own rule of the file claims; what a route alone claims its
balancer lets through. -/
theorem conn_limit_reached [DecidableEq σ] (x : XrayMatcher α) (s : BootState) (hs : Deployed s)
    (env : BootEnv) (steps : List BootStep) (hparsed : ∀ e ∈ steps, e.Parsed) (blocked : List σ)
    (source : σ) (hblocked : source ∈ blocked) (c : Connection α)
    (hplain : ¬ SpeciallyRouted x (deployedRun s env steps).config c) :
    (decidingRule x (deployedRun s env steps).config blocked source c =
        some (.connLimit blocked) ↔
      (∀ r ∈ (deployedRun s env steps).routes, c.inbound ∉ r.inboundTags) ∧
      ∀ r ∈ s.config.rules, r.own = true → r.admits x true c = false) ∧
    ∀ r ∈ (deployedRun s env steps).routes, c.inbound ∈ r.inboundTags →
      (∀ rule ∈ s.config.rules, rule.own = true → rule.admits x true c = false) →
      decidingRule x (deployedRun s env steps).config blocked source c =
        some (.ofFile (NodeRule.ofManaged (routeRule r))) := by
  have hsorted := hs.run env hparsed
  generalize hrun : deployedRun s env steps = t at hsorted hplain
  have hdemand : (t.config.domainStrategy == some "IPOnDemand") = true := by
    rw [hsorted.strategy]
    rfl
  have hflag : ∀ {r : NodeRule}, r.admits x (t.config.domainStrategy == some "IPOnDemand") c =
      r.admits x true c := by
    rw [hdemand]
    exact rfl
  -- a rule that admits the connection keeps it from the rule of the blocked addresses
  have hmissed : ∀ r ∈ t.config.rules, r.admits x true c = true →
      decidingRule x t.config blocked source c ≠ some (.connLimit blocked) := by
    intro r hr hadmits hstopped
    obtain ⟨rule, _, _, hdecides⟩ := decidingRule_of_admits blocked source hr
      (hflag.trans hadmits)
    rw [hdecides] at hstopped
    cases hstopped
  refine ⟨⟨fun hstopped => ⟨fun r hr hc => ?_, fun r hr hown => ?_⟩, fun ⟨hfree, hown⟩ => ?_⟩,
    fun r hr hc hown => ?_⟩
  · exact hmissed _ (hsorted.routes _ (mem_managedRules.2 ⟨r, hr, rfl⟩))
      ((admits_managed x (hsorted.tags r hr)).2 hc) hstopped
  · rw [Bool.eq_false_iff]
    exact fun hadmits => hmissed r (hsorted.kept r hr hown) hadmits hstopped
  · apply decidingRule_of_none hblocked
    intro rule hrule
    rw [Bool.eq_false_iff]
    intro hadmits
    rcases hsorted.admitting hplain hrule hadmits with ⟨r, hr, hc, _⟩ | ⟨hold, hkept⟩
    · exact hfree r hr hc
    · rw [hflag, hown rule hold hkept] at hadmits
      cases hadmits
  · have hclaims := (admits_managed x (b := true) (hsorted.tags r hr)).2 hc
    obtain ⟨rule, hrule, hadmits, hdecides⟩ := decidingRule_of_admits blocked source
      (hsorted.routes _ (mem_managedRules.2 ⟨r, hr, rfl⟩)) (hflag.trans hclaims)
    rcases hsorted.admitting hplain hrule hadmits with ⟨r', hr', hc', rfl⟩ | ⟨hold, hkept⟩
    · rw [hdecides, hsorted.claimed_once hr' hr hc' hc]
    · rw [hflag, hown rule hold hkept] at hadmits
      cases hadmits

/-! ## A node with a config of earlier days -/

/-- Everything that no other rule has decided leaves directly. -/
def catchAllRule : NodeRule where
  network := some "tcp,udp"
  outboundTag := some "direct"

def legacyConfig : NodeConfig :=
  { templateConfig 443 with
    rules := [apiRule,
      { domain := some ["geosite:category-games"], outboundTag := some "direct" },
      { ip := some ["geoip:private"], outboundTag := some "direct" },
      { domain := some ["geosite:private"], outboundTag := some "direct" }, catchAllRule]
    domainStrategy := some "AsIs" }

def legacyStart : BootState := ⟨legacyConfig, none, []⟩

theorem legacyStart_deployed : Deployed legacyStart where
  routes r hr := by cases hr
  managed := by decide
  warp := by decide
  disjoint := .nil
  tags r hr := by cases hr

/-- After the boot the node is put into a cascade and booted again. -/
def cascadeAfter : List BootStep := [.reconcile [.cascadeRoute abroadRoute] 0, .boot nodeEnv]

theorem cascadeAfter_parsed : ∀ e ∈ cascadeAfter, e.Parsed :=
  fun e he => cascadeBoots_parsed e (List.mem_cons_of_mem _ he)

/-- The catch-all of the earlier config lets a blocked address out; after the boots it is stopped on
the inbound that no route claims. -/
theorem conn_limit_reached_tcp :
    decidingRule plainMatcher legacyConfig [7] 7
        ⟨"vless-in-tcp", .address (203, 0, 113, 9), 443, "tcp", none⟩ =
      some (.ofFile catchAllRule) ∧
    decidingRule plainMatcher (deployedRun legacyStart nodeEnv cascadeAfter).config [7] 7
        ⟨"vless-in-tcp", .address (203, 0, 113, 9), 443, "tcp", none⟩ =
      some (.connLimit [7]) := by
  refine ⟨by decide, ?_⟩
  have hreached := conn_limit_reached plainMatcher legacyStart legacyStart_deployed nodeEnv
    cascadeAfter cascadeAfter_parsed [7] 7 (by decide)
    ⟨"vless-in-tcp", .address (203, 0, 113, 9), 443, "tcp", none⟩ (by decide +kernel)
  refine hreached.1.2 ⟨?_, by decide⟩
  have hroutes : (deployedRun legacyStart nodeEnv cascadeAfter).routes = [abroadRoute] := by
    decide +kernel
  rw [hroutes]
  decide

/-- On the inbound of the route it goes on through the balancer. -/
theorem conn_limit_bypassed :
    ¬ ∀ (x : XrayMatcher (Nat × Nat × Nat × Nat)) (s : BootState) (env : BootEnv)
      (steps : List BootStep), Deployed s → (∀ e ∈ steps, e.Parsed) →
      ∀ (blocked : List Nat) (source : Nat), source ∈ blocked →
        ∀ c : Connection (Nat × Nat × Nat × Nat), c.inbound ≠ "api" →
          ¬ SpeciallyRouted x (deployedRun s env steps).config c →
          decidingRule x (deployedRun s env steps).config blocked source c =
            some (.connLimit blocked) := by
  intro h
  have hstopped := h plainMatcher (bootStart 443) nodeEnv cascadeAfter (.start 443)
    cascadeAfter_parsed [7] 7 (by decide)
    ⟨"vless-in", .address (203, 0, 113, 9), 443, "tcp", none⟩ (by decide) (by decide +kernel)
  have hrule : decidingRule plainMatcher (deployedRun (bootStart 443) nodeEnv cascadeAfter).config
      [7] 7 ⟨"vless-in", .address (203, 0, 113, 9), 443, "tcp", none⟩ =
        some (.ofFile (NodeRule.ofManaged (routeRule abroadRoute))) := by
    decide +kernel
  rw [hrule] at hstopped
  cases hstopped

end AegisVPN
