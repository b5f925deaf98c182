import AegisVPN.Agent.RebuiltFile
import AegisVPN.Agent.ReconcileExact

namespace AegisVPN
open Library
set_option autoImplicit true

/-! ## A boot after a boot -/

/-- Traffic takes the same way: the rules, the balancers and the outbound for what no rule matches
are the same, and so are the outbounds up to their order. -/
structure SameRouting (a b : NodeConfig) : Prop where
  rules : a.rules = b.rules
  balancers : a.balancers = b.balancers
  observatory : a.observatory = b.observatory
  strategy : a.domainStrategy = b.domainStrategy
  outbounds : a.outbounds.Perm b.outbounds
  unmatched : a.outbounds.head? = b.outbounds.head?

theorem warp_after_boot {env : BootEnv} {config : NodeConfig} {o : Outbound}
    (ho : o ∈ (bootRewrite env config).outbounds) (htag : tagged "warp" o = true) :
    warpSource env config = some o := by
  rw [(boot_outbounds_perm env config).mem_iff, List.mem_append, List.mem_append] at ho
  rcases ho with (ho | ho) | ho
  · exact Option.mem_toList.1 ho
  · have hkept := (List.mem_filter.1 ho).2
    rw [htag] at hkept
    cases hkept
  · rw [mem_probeOutbounds ho] at htag
    cases htag

/-- The next boot finds the WARP outbound that this one has put in. -/
theorem warpSource_again (env : BootEnv) (config : NodeConfig) :
    warpSource env (bootRewrite env config) = warpSource env config := by
  cases hwarp : env.warp with
  | some credentials => simp only [warpSource, hwarp]
  | none =>
    have hfind : warpSource env (bootRewrite env config) =
        (bootRewrite env config).outbounds.find? (tagged "warp") := by
      rw [warpSource, hwarp]
    rw [hfind]
    cases hfound : (bootRewrite env config).outbounds.find? (tagged "warp") with
    | some o =>
      exact (warp_after_boot (List.mem_of_find?_eq_some hfound) (List.find?_some hfound)).symm
    | none =>
      cases hsource : warpSource env config with
      | none => rfl
      | some warp =>
        obtain ⟨o, ho, htag⟩ := @bootRewrite_warp env config (by rw [hsource]; rfl)
        exact absurd htag (List.find?_eq_none.1 hfound o ho)

theorem Shaped.boot_head (h : Shaped s) (env : BootEnv) :
    (bootRewrite env s.config).outbounds.head? = templateOutbounds.head? := by
  have hown : (bootRewrite env s.config).outbounds.filter ownOutbound = templateOutbounds :=
    (h.boot env).own
  have hdirect : (bootRewrite env s.config).outbounds.filter (tagged "direct") =
      templateOutbounds.filter (tagged "direct") := by
    rw [← hown, List.filter_filter]
    refine List.filter_congr fun o _ => ?_
    cases htag : tagged "direct" o with
    | false => rfl
    | true =>
      have heq : o.tag = some "direct" := by simpa [tagged] using htag
      have hforeign : isManaged (some "direct") = false := by decide
      simp [ownOutbound, tagged, heq, hforeign]
  rw [bootRewrite_outbounds] at hdirect ⊢
  have htwice : ∀ l : List Outbound,
      (moveToFront (tagged "direct") l).filter (tagged "direct") = l.filter (tagged "direct") := by
    intro l
    rw [moveToFront, List.filter_append, List.filter_filter, List.filter_filter]
    simp
  rw [htwice] at hdirect
  rw [moveToFront, hdirect]
  rfl

theorem Shaped.boot_again (h : Shaped s) (env : BootEnv) :
    SameRouting (bootRewrite env (bootRewrite env s.config)) (bootRewrite env s.config) where
  rules := by
    have hsecond := (h.boot env).boot_rules env
    simp only [bootStep] at hsecond
    rw [hsecond, warpSource_again, h.boot_rules env]
  balancers := (bootRewrite_balancers env _).1
  observatory := (bootRewrite_balancers env _).2
  strategy := ((h.boot env).boot env).strategy.trans (h.boot env).strategy.symm
  outbounds := by
    have hfirst := boot_outbounds_perm env s.config
    refine (boot_outbounds_perm env (bootRewrite env s.config)).trans (.trans ?_ hfirst.symm)
    rw [warpSource_again]
    refine (List.Perm.append_left _ ((hfirst.filter _).trans ?_)).append_right _
    have hwarp : ((warpSource env s.config).toList.filter fun o =>
        !tagged "warp" o && !tagged "lb-probe" o) = [] := by
      refine List.filter_eq_nil_iff.2 fun o ho => ?_
      simp [warpSource_tagged (Option.mem_toList.1 ho)]
    have hprobe : ((probeOutbounds env).filter fun o =>
        !tagged "warp" o && !tagged "lb-probe" o) = [] := by
      refine List.filter_eq_nil_iff.2 fun o ho => ?_
      rw [mem_probeOutbounds ho]
      simp [tagged, probeOutbound]
    rw [List.filter_append, List.filter_append, hwarp, hprobe, List.nil_append, List.append_nil,
      List.filter_filter]
    simp only [Bool.and_self]
    exact .refl _
  unmatched := ((h.boot env).boot_head env).trans (h.boot_head env).symm

/-! ## A reconcile after a boot -/

/-- The agent finds nothing to do when it reconciles the same items after a restart. -/
structure RestartQuiet (env : BootEnv) (items : List DesiredItem) (laterMs : Nat)
    (file : NodeConfig) : Prop where
  clients : (bootRewrite env file).inbounds = file.inbounds
  cascade : applyCascadeRoutes (bootRewrite env file).toXray (desiredRoutes items) =
    .ok (bootRewrite env file).toXray
  config : desiredConfig (desiredClients items laterMs) (bootRewrite env file).toXray =
    (bootRewrite env file).toXray
  delta : (configDelta (desiredClients items laterMs) (bootRewrite env file).toXray).size = 0
  again : SameRouting (bootRewrite env (bootRewrite env file)) (bootRewrite env file)

def routesExits (items : List DesiredItem) : List Outbound :=
  (sortedRoutes (desiredRoutes items)).flatMap routeOutbounds

/-- When a boot and a reconcile agree about the file: no client has expired since, each has a UUID
of its own, the transports are those that both know, the boot appends no outbound behind the exits
of the routes or among them, and no route takes the place of the API. -/
structure StableAtBoot (env : BootEnv) (items : List DesiredItem) (nowMs laterMs : Nat)
    (file : NodeConfig) : Prop where
  time : desiredClients items laterMs = desiredClients items nowMs
  uuids : UsableUuids (desiredClients items nowMs)
  flows : desiredClients items nowMs = [] ∨ env.transport ∈ ["tcp", "xhttp", "grpc"]
  exits : routesExits items = [] ∨
    env.probes = false ∧ (WarpIdle env file ∨ (routesExits items).length = 1)
  plain : RoutesPlain (desiredRoutes items)

theorem desiredClients_sublist (items : List DesiredItem) {nowMs laterMs : Nat}
    (h : nowMs ≤ laterMs) :
    (desiredClients items laterMs).Sublist (desiredClients items nowMs) := by
  induction items with
  | nil => exact .slnil
  | cons item items ih =>
    cases item with
    | client c =>
      simp only [desiredClients, List.filterMap_cons]
      by_cases hlater : c.expireMs > laterMs
      · have hnow : c.expireMs > nowMs := lt_of_le_of_lt h hlater
        simp only [hlater, hnow, ↓reduceIte]
        exact ih.cons_cons c
      · simp only [hlater, ↓reduceIte]
        split
        · rename_i heq
          exact ih
        · exact ih.cons _
    | cascadeService s => exact ih.cons_cons _
    | _ => exact ih

theorem desiredClients_eq_of_length (items : List DesiredItem) {a b : Nat}
    (h : (desiredClients items a).length = (desiredClients items b).length) :
    desiredClients items a = desiredClients items b := by
  rcases Nat.le_total a b with hle | hle
  · exact ((desiredClients_sublist items hle).eq_of_length h.symm).symm
  · exact (desiredClients_sublist items hle).eq_of_length h

theorem desiredConfig_eq_self (h : ∀ i ∈ listVlessInbounds config,
    i.clients = desiredRecords clients i) : desiredConfig clients config = config := by
  have hinbounds : (config.inbounds.map fun i =>
      if i.isVless then { i with clients := desiredRecords clients i } else i) =
        config.inbounds := by
    refine (List.map_congr_left fun i hi => ?_).trans (List.map_id _)
    split
    · rename_i hvless
      rw [← h i (List.mem_filter.2 ⟨hi, hvless⟩)]
      rfl
    · rfl
  rw [desiredConfig, mapVless, hinbounds]

/-- Records that are the desired ones already need no call. -/
theorem configDelta_size_zero (husable : UsableUuids clients)
    (h : ∀ i ∈ listVlessInbounds config, i.clients = desiredRecords clients i) :
    (configDelta clients config).size = 0 := by
  have hid : ∀ i ∈ listVlessInbounds config, ∀ r ∈ i.clients, ∃ u, truthy r.id = some u := by
    intro i hi r hr
    rw [h i hi] at hr
    obtain ⟨c, hc, rfl⟩ := List.mem_map.1 hr
    exact ⟨c.uuid, truthy_some.2 ⟨rfl, husable.nonempty c hc⟩⟩
  have hnodup : ∀ i ∈ listVlessInbounds config, (i.clients.map ClientRecord.id).Nodup := by
    intro i hi
    rw [h i hi]
    exact husable.distinct.ids_nodup i
  have hremovals : (configDelta clients config).removals = [] := by
    refine List.flatMap_eq_nil_iff.2 fun i hi => List.eq_nil_iff_forall_not_mem.2 fun e he => ?_
    obtain ⟨r, hr, hno, _⟩ :=
      (mem_inboundRemovals husable.distinct (hid i hi) (hnodup i hi)).1 he
    rw [h i hi] at hr
    obtain ⟨c, _, rfl⟩ := List.mem_map.1 hr
    rw [recordProjection_build] at hno
    exact hno hr
  have hadditions : (configDelta clients config).additions = [] := by
    refine List.flatMap_eq_nil_iff.2 fun i hi => ?_
    rw [inboundAdditions_eq husable.distinct (hid i hi) (hnodup i hi), List.map_eq_nil_iff,
      List.filter_eq_nil_iff]
    intro r hr
    rw [h i hi, desiredRecords_projection]
    simpa using hr
  rw [Delta.size, hremovals, hadditions]
  rfl

section Restart
variable {port : Nat} {steps : List BootStep} {env : BootEnv} {items : List DesiredItem}
  {nowMs : Nat} {file : NodeConfig}
  (henv : (bootRun port steps).env = some env)
  (hfile : reconcileFile items nowMs (bootRun port steps).config = .ok file)
include hfile

/-- What the reconcile does to the rebuilt config, as far as the routes go. -/
theorem restart_cascade : applyCascadeRoutes (bootRewrite env file).toXray (desiredRoutes items) =
      .ok (bootRewrite env file).toXray ↔
    (routesExits items = [] ∨
      env.probes = false ∧ (WarpIdle env file ∨ (routesExits items).length = 1)) ∧
      RoutesPlain (desiredRoutes items) := by
  have hspec := reconcileFile_spec hfile
  have hshape : Shaped ⟨file, some env, desiredRoutes items⟩ :=
    hspec.shaped (Shaped.run port steps)
  have hown : ∀ o ∈ (bootRun port steps).config.outbounds.filter (fun o => !isManaged o.tag),
      isManaged o.tag = false := fun o ho => by simpa using (List.mem_filter.1 ho).2
  have hexits : ∀ o ∈ routesExits items, isManaged o.tag = true := by
    intro o ho
    obtain ⟨r, _, ho⟩ := List.mem_flatMap.1 ho
    obtain ⟨e, _, rfl⟩ := List.mem_map.1 ho
    exact isManaged_prefix (toString r.routeId ++ "-exit-" ++ toString e.position)
  have hkept := @exits_kept env file _ _ hspec.outbounds hown hexits
  have happly : applyRoutes (bootRewrite env file) (desiredRoutes items) =
      .ok (withRoutes (desiredRoutes items) (bootRewrite env file)) := by
    rw [reconcileFile] at hfile
    cases happlied : applyRoutes (bootRun port steps).config (desiredRoutes items) with
    | error e =>
      rw [happlied] at hfile
      cases hfile
    | ok applied =>
      rw [happlied] at hfile
      cases hfile
      refine applyRoutes_rewritten happlied (bootRewrite_balancers env _).1
        (bootRewrite_balancers env _).2 fun hnil => ?_
      have hnone : routesExits items = [] := by
        rw [routesExits, hnil]
        rfl
      have hsame := hkept.2 (.inl hnone)
      have hsame' : (bootRewrite env (setClients (desiredClients items nowMs)
          applied)).outbounds.filter (fun o => !isManaged o.tag) =
            (bootRewrite env (setClients (desiredClients items nowMs) applied)).outbounds := by
        rw [routesExits] at hnone
        rw [hnone, List.append_nil] at hsame
        exact hsame
      intro o ho
      rw [← hsame'] at ho
      simpa using (List.mem_filter.1 ho).2
  have hcascade := applyRoutes_toXray (bootRewrite env file) (desiredRoutes items)
  rw [happly] at hcascade
  rw [← hcascade, Except.map, Except.ok.injEq]
  have hrules := hshape.rules_kept env
  constructor
  · intro heq
    refine ⟨hkept.1 ?_, hrules.1 ?_⟩
    · exact Option.some.inj (congrArg XrayConfig.outbounds heq)
    · have hrouting := Option.some.inj (congrArg XrayConfig.routing heq)
      exact Option.some.inj (congrArg Routing.rules hrouting)
  · rintro ⟨hstay, hplain⟩
    have ho : (withRoutes (desiredRoutes items) (bootRewrite env file)).outbounds =
        (bootRewrite env file).outbounds := hkept.2 hstay
    have hr := hrules.2 hplain
    simp only at hr
    simp only [NodeConfig.toXray, ho, hr]
    rfl

include henv

theorem restart_clients : (bootRewrite env file).inbounds = file.inbounds ↔
    UsableUuids (desiredClients items nowMs) ∧
      (desiredClients items nowMs = [] ∨ env.transport ∈ ["tcp", "xhttp", "grpc"]) := by
  rw [← flowsAgree_iff]
  exact boot_inbounds_kept (Framed.run port steps env henv) (reconcileFile_spec hfile).inbounds

theorem file_served : file.inbounds.filter Inbound.isVless =
    env.inbounds.map (servedInbound (desiredClients items nowMs)) := by
  rw [(reconcileFile_spec hfile).inbounds]
  exact (Framed.run port steps env henv).served _

theorem restart_quiet_iff (laterMs : Nat) :
    RestartQuiet env items laterMs file ↔ StableAtBoot env items nowMs laterMs file := by
  have hshape : Shaped ⟨file, some env, desiredRoutes items⟩ :=
    (reconcileFile_spec hfile).shaped (Shaped.run port steps)
  have hserved := file_served henv hfile
  constructor
  · intro h
    obtain ⟨huuids, hflows⟩ := (restart_clients henv hfile).1 h.clients
    obtain ⟨hexits, hplain⟩ := (restart_cascade hfile).1 h.cascade
    refine ⟨desiredClients_eq_of_length items ?_, huuids, hflows, hexits, hplain⟩
    obtain ⟨rest, hrest⟩ := inbounds_cons env
    have hvless : listVlessInbounds (bootRewrite env file).toXray =
        env.inbounds.map (servedInbound (desiredClients items nowMs)) := by
      rw [← hserved, ← h.clients]
      rfl
    have hboth := congrArg listVlessInbounds h.config
    rw [desiredConfig, listVlessInbounds_mapVless, hvless, hrest, List.map_cons, List.map_cons]
      at hboth
    have hrecords := congrArg Inbound.clients (List.cons.inj hboth).1
    have hlength := congrArg List.length hrecords
    simpa [servedInbound, desiredRecords] using hlength
  · intro h
    have hclients := (restart_clients henv hfile).2 ⟨h.uuids, h.flows⟩
    have hsame : ∀ i ∈ listVlessInbounds (bootRewrite env file).toXray,
        i.clients = desiredRecords (desiredClients items nowMs) i := by
      intro i hi
      have hmem : i ∈ file.inbounds.filter Inbound.isVless := by
        rw [← hclients]
        exact hi
      rw [hserved] at hmem
      obtain ⟨p, _, rfl⟩ := List.mem_map.1 hmem
      rfl
    constructor
    · exact hclients
    · exact (restart_cascade hfile).2 ⟨h.exits, h.plain⟩
    · rw [h.time]
      exact desiredConfig_eq_self hsame
    · rw [h.time]
      exact configDelta_size_zero h.uuids hsame
    · exact hshape.boot_again env

end Restart

/-- A boot leaves nothing for the next reconcile to do exactly when the two agree about the file.
Then the agent that comes up again only reads. -/
theorem restart_fixed_point (port : Nat) (steps : List BootStep) (env : BootEnv)
    (items : List DesiredItem) (nowMs laterMs : Nat) (file : NodeConfig)
    (henv : (bootRun port steps).env = some env)
    (hfile : reconcileFile items nowMs (bootRun port steps).config = .ok file) :
    (RestartQuiet env items laterMs file ↔ StableAtBoot env items nowMs laterMs file) ∧
      (RestartQuiet env items laterMs file → ∀ (D : Type) [DecidableEq D]
        (settings : AgentSettings) (snapshot : DesiredSnapshot D) (w : Agent D),
        snapshot.items = items → w.config = (bootRewrite env file).toXray →
        w.journal.read = .ok ∅ → Applied snapshot w →
        ∃ r, r.changed = false ∧ (reconcileSnapshot settings snapshot false laterMs).Quiet
          (fun s w => s .ok w) ReadOnly w r) := by
  refine ⟨restart_quiet_iff henv hfile laterMs, ?_⟩
  intro hquiet D _ settings snapshot w hitems hconfig hjournal happlied
  subst hitems
  apply reconcile_in_place
  · rw [hconfig]
    exact hquiet.cascade
  · rw [hconfig]
    exact hquiet.config
  · exact hjournal
  · exact happlied

def warpedEnv (lbProbePort : Int) : BootEnv where
  network := "tcp"
  port := 443
  tcpPort := none
  grpcPort := some 8443
  warp := some ⟨"secret", ["172.16.0.2/32"], "peer", "", 1280, []⟩
  lbProbePort := lbProbePort
  lbProbeHost := "lb.aegisvpn.org"

def abroadItems : List DesiredItem :=
  [.client ⟨"u1", "user_1", 1000⟩, .client ⟨"u2", "user_2", 1000⟩, .cascadeRoute abroadRoute]

/-- The file after the first boot and a reconcile. -/
def abroadFile (lbProbePort : Int) : NodeConfig :=
  (bootRun 443 [.boot (warpedEnv lbProbePort), .reconcile abroadItems 0]).config

/-- The agent after a restart. -/
def restartedNode (lbProbePort : Int) : Agent (List DesiredItem) where
  config := (bootRewrite (warpedEnv lbProbePort) (abroadFile lbProbePort)).toXray
  installed := 2
  applied := some ⟨1, 2, some abroadItems, abroadItems⟩
  journal := .missing
  overridesFile := []
  overrides := []
  hy2Clients := hy2Mapping (bootRewrite (warpedEnv lbProbePort) (abroadFile lbProbePort)).toXray
  live := bootTable (bootRewrite (warpedEnv lbProbePort) (abroadFile lbProbePort)).toXray
  hy2Sessions := []
  telemetrySequence := none
  signals := []

/-- Without the load probe a restart of a node with WARP and one exit is quiet. -/
theorem restart_fixed_point_single_exit :
    RestartQuiet (warpedEnv 0) abroadItems 500 (abroadFile 0) ∧
      ∃ r, r.changed = false ∧ (reconcileSnapshot liveSettings
        (⟨1, 2, abroadItems, abroadItems⟩ : DesiredSnapshot (List DesiredItem)) false 500).Quiet
          (fun s w => s .ok w) ReadOnly (restartedNode 0) r := by
  have hrestart := restart_fixed_point 443 [.boot (warpedEnv 0)] (warpedEnv 0) abroadItems 0 500
    (abroadFile 0) rfl (by decide +kernel)
  have hdistinct : ((desiredClients abroadItems 0).map DesiredClient.uuid).Nodup := by
    decide
  have hquiet := hrestart.1.2
    { time := by decide
      uuids := ⟨hdistinct, by decide⟩
      flows := .inr (by decide +kernel)
      exits := .inr ⟨by decide, .inr (by decide)⟩
      plain := by decide }
  refine ⟨hquiet, hrestart.2 hquiet _ _ _ _ rfl rfl rfl ⟨rfl, by decide, ?_⟩⟩
  exact ⟨_, rfl, rfl, rfl, rfl⟩

/-- With the load probe its outbound comes behind the exit, and the next reconcile puts the exit
behind it again. -/
theorem probe_behind_exit :
    ¬ ∀ (port : Nat) (steps : List BootStep) (env : BootEnv) (items : List DesiredItem)
      (nowMs laterMs : Nat) (file : NodeConfig), (bootRun port steps).env = some env →
      reconcileFile items nowMs (bootRun port steps).config = .ok file →
      desiredClients items laterMs = desiredClients items nowMs →
      RestartQuiet env items laterMs file := by
  intro h
  have hquiet := h 443 [.boot (warpedEnv 10086)] (warpedEnv 10086) abroadItems 0 0
    (abroadFile 10086) rfl (by decide +kernel) rfl
  have hmoved : applyCascadeRoutes (bootRewrite (warpedEnv 10086) (abroadFile 10086)).toXray
      (desiredRoutes abroadItems) ≠
        .ok (bootRewrite (warpedEnv 10086) (abroadFile 10086)).toXray := by
    decide +kernel
  exact hmoved hquiet.cascade

end AegisVPN
