import AegisVPN.Agent.Revocations

namespace AegisVPN
open Library
set_option autoImplicit true

def configuredIds (config : XrayConfig) : List String :=
  (listVlessInbounds config).flatMap fun i => i.clients.filterMap ClientRecord.id

/-- No client of the applied state that has expired is left in the file or among the Hy2
users. -/
def Enforced (w : Agent D) (nowMs : Nat) : Prop :=
  ∀ state, w.applied = some state → ∀ c, .client c ∈ state.items → c.expireMs ≤ nowMs →
    c.uuid ∉ configuredIds w.config ∧ c.uuid ∉ w.hy2Clients.map Prod.fst

/-- The applied state is there to be replayed, no revocation is pending, the routes apply, and
the file is not yet what the state asks for at this time. -/
def Replays (w : Agent D) (nowMs : Nat) : Prop :=
  w.journal.read = .ok ∅ ∧ ∃ state digest cascaded, w.applied = some state ∧
    state.digest = some digest ∧ 1 ≤ state.generation ∧
    applyCascadeRoutes w.config (desiredRoutes state.items) = .ok cascaded ∧
    desiredConfig (desiredClients state.items nowMs) cascaded ≠ w.config

/-! ## The UUIDs of the desired file -/

theorem expired_not_desired (h : ClientsDistinct items) (hc : .client c ∈ items)
    (he : c.expireMs ≤ nowMs) : c.uuid ∉ desiredUuids items nowMs := by
  intro hmem
  obtain ⟨d, hd, hu⟩ := List.mem_map.1 hmem
  obtain ⟨item, hitem, hd⟩ := List.mem_filterMap.1 hd
  have hsame : item.clientUuid? = some c.uuid → item = .client c := fun hid =>
    eq_of_filterMap_nodup h hitem hc hid rfl
  cases item with
  | client d' =>
    simp only at hd
    split at hd
    · rename_i hlive
      cases hd
      cases hsame (congrArg some hu)
      omega
    · cases hd
  | connLimit l => cases hd
  | cascadeService s =>
    cases hd
    cases hsame (congrArg some hu)
  | cascadeRoute r => cases hd

theorem configuredIds_desired (hmem : u ∈ configuredIds
    (desiredConfig (desiredClients items nowMs) config)) : u ∈ desiredUuids items nowMs := by
  obtain ⟨i, hi, hu⟩ := List.mem_flatMap.1 hmem
  rw [desiredConfig_clients hi] at hu
  obtain ⟨r, hr, hid⟩ := List.mem_filterMap.1 hu
  obtain ⟨c, hc, rfl⟩ := List.mem_map.1 hr
  cases hid
  exact List.mem_map_of_mem hc

theorem hy2Mapping_ids (hmem : u ∈ (hy2Mapping config).map Prod.fst) :
    u ∈ configuredIds config := by
  obtain ⟨p, hp, rfl⟩ := List.mem_map.1 hmem
  obtain ⟨i, hi, hp⟩ := List.mem_flatMap.1 hp
  obtain ⟨c, hc, hp⟩ := List.mem_filterMap.1 hp
  refine List.mem_flatMap.2 ⟨i, hi, List.mem_filterMap.2 ⟨c, hc, ?_⟩⟩
  split at hp
  · rename_i uuid email hid _
    cases hp
    exact (truthy_some.1 hid).1
  · cases hp

/-! ## Applied states of a run -/

section Runs
variable [DecidableEq D] {canonical : Canonical D} {limits : ControlLimits}
  {settings : AgentSettings} {mode : ControlMode}

/-- No two clients of the applied state share a UUID. -/
def AppliedDistinct (w : Agent D) : Prop :=
  ∀ state, w.applied = some state → ClientsDistinct state.items

def WritesApplied (items : List DesiredItem) (s : AgentAct D β) : Prop := ∀ f w,
  (s f w).2.applied = w.applied ∨ ∃ state, (s f w).2.applied = some state ∧ state.items = items

theorem reconcile_writesApplied (c : ReconcileCall D) :
    (c.run settings).Uses (WritesApplied c.snapshot.items) := by
  have hsave : ∀ state : AppliedState D,
      WritesApplied state.items (saveAppliedState state) := by
    intro state f w
    cases f with
    | ok => exact .inr ⟨_, rfl, rfl⟩
    | fail => exact .inl rfl
    | lost => exact .inr ⟨_, rfl, rfl⟩
  have hconfig : ∀ config g, WritesApplied c.snapshot.items (saveXrayConfig config g (D := D)) := by
    intro config g f w
    cases f <;> exact .inl rfl
  have h : ReconcileUses c.snapshot (WritesApplied c.snapshot.items (D := D)) :=
    { keeps := fun h f w => .inl (h f w).applied
      saveConfig := fun config => hconfig config _
      remove := fun tag email f w => .inl (keepsFiles_xrayApiRemove tag email f w).applied
      add := fun inbound record f w => .inl (keepsFiles_xrayApiAdd inbound record f w).applied
      reload := fun f w => .inl (keepsFiles_hardReload f w).applied
      saveApplied := hsave _ }
  exact reconcileSnapshot_uses h settings c.observe c.nowMs

def distinctRule (canonical : Canonical D) (limits : ControlLimits) (settings : AgentSettings) :
    ReconcileRule canonical limits settings (fun _ _ => True) (fun _ _ => True) where
  Inv := AppliedDistinct
  Accepts snapshot := ClientsDistinct snapshot.items
  inv_same h hw state hs := hw state (h.applied ▸ hs)
  guarantee_same _ := trivial
  accepts_sync h := syncSnapshot_nodup _ _ h
  accepts_cached hw ha _ := hw _ ha
  reconcile hw hd _ := by
    refine Prog.wp_of_uses (reconcile_writesApplied _) ?_ hw
    intro β s hs f a b w' ha hsem
    obtain ⟨rfl, rfl⟩ := agentSem_some.1 hsem
    have hkeeps : AppliedDistinct a → AppliedDistinct (s f a).2 := by
      intro ha state hstate
      rcases hs f a with hsame | ⟨state', hnew, hitems⟩
      · exact ha state (hsame ▸ hstate)
      · rw [hnew, Option.some.injEq] at hstate
        exact hstate ▸ hitems ▸ hd
    exact ⟨⟨trivial, hkeeps⟩, hkeeps ha⟩

theorem run_appliedDistinct (h₀ : AppliedDistinct w₀)
    (h : AgentRun canonical limits settings mode (fun _ _ => True) w₀ s) :
    AppliedDistinct s.2 := by
  obtain ⟨polls, h⟩ := h
  have hrun : AgentRun canonical limits settings mode (Entered settings fun _ _ => True) w₀ s := by
    refine ⟨polls, Relation.ReflTransGen.mono (fun a b hab => ?_) _ _ h⟩
    cases hab with
    | step f _ => exact .step f fun _ _ => trivial
    | crash polls => exact .crash polls
  exact ((distinctRule canonical limits settings).run h₀ hrun).1

end Runs

/-! ## One iteration without the control plane -/

section Offline
variable [DecidableEq D] {canonical : Canonical D} {limits : ControlLimits}
  {settings : AgentSettings} {poll : Poll D} {w : Agent D}

omit [DecidableEq D] in
theorem Enforced.congr {w' : Agent D} (h : Enforced w nowMs) (hc : w'.config = w.config)
    (ha : w'.applied = w.applied) (hh : w'.hy2Clients = w.hy2Clients) : Enforced w' nowMs := by
  intro state hs
  rw [hc, hh]
  exact h state (ha ▸ hs)

omit [DecidableEq D] in
/-- What a replay of the applied state enforces. -/
theorem enforced_of_installed {w' : Agent D} {state : AppliedState D} {digest : D}
    (hdistinct : ClientsDistinct state.items) (ha : w.applied = some state)
    (hd : state.digest = some digest)
    (x : Readable ⟨state.schemaVersion, state.generation, digest, state.items⟩ w)
    (hp : x.pending = ∅)
    (h : Installed ⟨state.schemaVersion, state.generation, digest, state.items⟩ (x.desired nowMs)
      (x.revoked nowMs) w w') :
    Enforced w' nowMs ↔ Enforced w nowMs ∨ x.desired nowMs ≠ w.config := by
  have ha' : w'.applied = w.applied := by
    rcases h.applied with hsame | hnew
    · exact hsame
    · rw [hnew, ha, ← hd]
  by_cases hsame : x.desired nowMs = w.config
  · have hconfig := h.config.trans hsame
    have hhy2 := h.kept hsame (x.revoked_unchanged hsame hp)
    simp only [hsame, ne_eq, not_true_eq_false, or_false]
    exact ⟨fun he => he.congr hconfig.symm ha'.symm hhy2.symm, fun he => he.congr hconfig ha' hhy2⟩
  · refine iff_of_true ?_ (.inr hsame)
    intro state' hs c hc he
    rw [ha', ha, Option.some.injEq] at hs
    subst hs
    have hexpired := expired_not_desired hdistinct hc he
    rw [h.config, h.refreshed hsame]
    exact ⟨fun hmem => hexpired (configuredIds_desired hmem),
      fun hmem => hexpired (configuredIds_desired (hy2Mapping_ids hmem))⟩

/-- The cached state is there to be replayed, and no revocation is pending. -/
structure Replayable (w : Agent D) (state : AppliedState D) (digest : D) : Prop where
  journal : w.journal.read = .ok ∅
  applied : w.applied = some state
  digest : state.digest = some digest
  generation : 1 ≤ state.generation

theorem cached_replay {state : AppliedState D} {digest : D} (h : Replayable w state digest)
    (nowMs : Nat) : runOk (reconcileCachedState settings .apply nowMs) w =
      runOk ((reconcileSnapshot settings
        ⟨state.schemaVersion, state.generation, digest, state.items⟩ false nowMs).bind
          fun result => .ret (some result)) w := by
  have hload : runOk (.performOrRaise loadPendingRevocations) w = (.ok ∅, w) := by
    rw [runOk_performOrRaise, loadPendingRevocations, if_pos rfl, h.journal]
  have happlied : runOk (.perform loadAppliedState) w = (.ok state, w) := by
    rw [runOk_perform, loadAppliedState, if_pos rfl, h.applied, Option.getD_some]
  rw [reconcileCachedState, if_neg (not_not.2 rfl), Prog.bind_eq, runOk_bind_ok _ hload,
    if_neg (not_not.2 rfl), Prog.bind_eq, runOk_bind_ok _ happlied]
  simp only [h.digest, Nat.not_lt.2 h.generation, ↓reduceIte, Prog.bind_eq]

theorem cached_idle (h : ∀ state digest, ¬ Replayable w state digest) (nowMs : Nat) :
    (runOk (reconcileCachedState settings .apply nowMs) w).2 = w := by
  have happlied : runOk (.perform loadAppliedState) w = (.ok (w.applied.getD .initial), w) := rfl
  cases hj : w.journal.read with
  | error e =>
    have hload : runOk (.performOrRaise loadPendingRevocations) w = (.error e, w) := by
      rw [runOk_performOrRaise, loadPendingRevocations, if_pos rfl, hj]
    rw [reconcileCachedState, if_neg (not_not.2 rfl), Prog.bind_eq, runOk_bind_error _ hload]
  | ok pending =>
    by_cases hp : pending = ∅
    · subst hp
      have hload : runOk (.performOrRaise loadPendingRevocations) w = (.ok ∅, w) := by
        rw [runOk_performOrRaise, loadPendingRevocations, if_pos rfl, hj]
      rw [reconcileCachedState, if_neg (not_not.2 rfl), Prog.bind_eq, runOk_bind_ok _ hload,
        if_neg (not_not.2 rfl), Prog.bind_eq, runOk_bind_ok _ happlied]
      cases ha : w.applied with
      | none => rfl
      | some state =>
        rw [Option.getD_some]
        cases hd : state.digest with
        | none => rfl
        | some digest =>
          have hg : state.generation < 1 := Nat.not_le.1 fun hg => h state digest ⟨hj, ha, hd, hg⟩
          simp only [hg, ↓reduceIte, runOk_ret]
    · rw [runOk_cached_pending hj hp]

omit [DecidableEq D] in
theorem Replayable.replays_iff {state : AppliedState D} {digest : D}
    (h : Replayable w state digest)
    (x : Readable ⟨state.schemaVersion, state.generation, digest, state.items⟩ w) :
    Replays w nowMs ↔ x.desired nowMs ≠ w.config := by
  refine ⟨?_, fun hne => ⟨h.journal, state, digest, x.cascaded, h.applied, h.digest,
    h.generation, x.routes, hne⟩⟩
  rintro ⟨_, state', _, cascaded, ha, _, _, hc, hne⟩
  obtain rfl : state = state' := Option.some.inj (h.applied.symm.trans ha)
  obtain rfl : x.cascaded = cascaded := Except.ok.inj (x.routes.symm.trans hc)
  exact hne

theorem cached_enforced (hdistinct : AppliedDistinct w) (nowMs : Nat) :
    Enforced (runOk (reconcileCachedState settings .apply nowMs) w).2 nowMs ↔
      Enforced w nowMs ∨ Replays w nowMs := by
  by_cases h : ∃ state digest, Replayable w state digest
  · obtain ⟨state, digest, h⟩ := h
    have hstate := hdistinct state h.applied
    have hpending : ∀ x : Readable ⟨state.schemaVersion, state.generation, digest, state.items⟩ w,
        x.pending = ∅ := fun x => Except.ok.inj (x.journal.symm.trans h.journal)
    rw [cached_replay h]
    rcases runOk_of_in (reconcileSnapshot_in settings
        ⟨state.schemaVersion, state.generation, digest, state.items⟩ nowMs w) with
      ⟨r, w', hrun, _, x, hx, _, _⟩ | ⟨e, w', hrun, hfault | ⟨rfl, hx⟩ | ⟨x, hx, _⟩⟩
    · rw [runOk_bind_ok _ hrun, runOk_ret, h.replays_iff x]
      exact enforced_of_installed hstate h.applied h.digest x (hpending x) hx
    · exact absurd hfault not_faulty_ok
    · rw [runOk_bind_error _ hrun]
      refine (or_iff_left ?_).symm
      rintro ⟨_, state', _, cascaded, ha, _, _, hc, _⟩
      obtain rfl : state = state' := Option.some.inj (h.applied.symm.trans ha)
      exact hx.false ⟨∅, cascaded, h.journal, hc⟩
    · rw [runOk_bind_error _ hrun, h.replays_iff x]
      exact enforced_of_installed hstate h.applied h.digest x (hpending x) hx
  · rw [cached_idle fun state digest hr => h ⟨state, digest, hr⟩]
    refine (or_iff_left fun hr => h ?_).symm
    obtain ⟨hj, state, digest, _, ha, hd, hg, _⟩ := hr
    exact ⟨state, digest, hj, ha, hd, hg⟩

/-- In any run, an iteration without the control plane leaves no expired client behind, exactly
if none was there before or the applied state is replayed with a change of the file. -/
theorem offline_expiry_iff (h₀ : AppliedDistinct w₀)
    (h : AgentRun canonical limits settings .apply (fun _ _ => True) w₀ s) (vars : LoopVars)
    (hpoll : poll.answer canonical limits = .error e) :
    Enforced (s.2.afterIteration canonical limits settings poll vars) poll.clock.retry ↔
      Enforced s.2 poll.clock.retry ∨ Replays s.2 poll.clock.retry := by
  rw [afterIteration_failed vars (pollControl_error hpoll)]
  exact cached_enforced (run_appliedDistinct h₀ h) _

end Offline

/-- No control endpoint answers. -/
def pollOffline (nowMs : Nat) : Poll (List DesiredItem) where
  clock := ⟨nowMs, nowMs, nowMs⟩
  answers := [none]
  pageAnswers _ := []
  ackAnswers := [none]
  telemetryAnswers := [none]

def twoClients : List DesiredItem := oneClient ++ [.client ⟨"u2", "user_2", 3000⟩]

def twoClientNode : Agent (List DesiredItem) :=
  { nodeAt 1 (desiredConfig (desiredClients twoClients 0) freshConfig) twoClients with
    hy2Sessions := [("u1", "user_1")] }

theorem twoClientNode_distinct : AppliedDistinct twoClientNode := by
  intro state hs
  cases hs
  decide

def offlineProcess : AgentProg (List DesiredItem) LoopVars :=
  agentProcess itemsCanonical roomyLimits liveSettings .apply [pollOffline 2000]

/-- The first client expires while the control plane is away. -/
theorem offline_expiry_iff_first :
    "u1" ∈ configuredIds twoClientNode.restart.config ∧
    Enforced (twoClientNode.restart.afterIteration itemsCanonical roomyLimits liveSettings
      (pollOffline 2000) ⟨0, 0⟩) 2000 := by
  have hrun : AgentRun itemsCanonical roomyLimits liveSettings .apply (fun _ _ => True)
      twoClientNode (offlineProcess, twoClientNode.restart) := ⟨_, .refl⟩
  have hanswer : (pollOffline 2000).answer itemsCanonical roomyLimits =
      .error (.request "all control endpoints are unavailable") := rfl
  refine ⟨by decide,
    (offline_expiry_iff twoClientNode_distinct hrun ⟨0, 0⟩ hanswer).2 (.inr ?_)⟩
  exact ⟨rfl, _, _, _, rfl, rfl, by decide, rfl, by decide⟩

/-- The first client has expired, and the kick of its session has failed. -/
def unkickedOfflineNode : Agent (List DesiredItem) :=
  (offlineProcess.advance (agentSem _)
    (List.replicate 18 .ok ++ .fail :: List.replicate 10 .ok) twoClientNode.restart).2

/-- The journal that this leaves keeps the second client in the file after it has expired. -/
theorem pending_journal_stops_expiry :
    (∃ p, AgentRun itemsCanonical roomyLimits liveSettings .apply (fun _ _ => True) twoClientNode
      (p, unkickedOfflineNode)) ∧
    (pollOffline 4000).answer itemsCanonical roomyLimits =
      .error (.request "all control endpoints are unavailable") ∧
    ¬ Enforced (unkickedOfflineNode.afterIteration itemsCanonical roomyLimits liveSettings
      (pollOffline 4000) ⟨0, 0⟩) 4000 := by
  refine ⟨⟨_, _, advance_steps _ _ _ _ offlineProcess twoClientNode.restart _ fun _ _ => trivial⟩,
    rfl, fun h => ?_⟩
  have happlied : (unkickedOfflineNode.afterIteration itemsCanonical roomyLimits liveSettings
      (pollOffline 4000) ⟨0, 0⟩).applied = some ⟨1, 1, some twoClients, twoClients⟩ := by
    decide +kernel
  have hleft : "u2" ∈ configuredIds (unkickedOfflineNode.afterIteration itemsCanonical roomyLimits
      liveSettings (pollOffline 4000) ⟨0, 0⟩).config := by decide +kernel
  exact (h _ happlied ⟨"u2", "user_2", 3000⟩ (by decide) (by decide)).1 hleft

end AegisVPN
