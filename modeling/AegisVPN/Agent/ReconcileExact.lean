import AegisVPN.Agent.Revocations

namespace AegisVPN
open Library
set_option autoImplicit true

/-! ## What a reconcile that succeeds leaves -/

/-- The config of a node, the Hy2 users that are in it, and the overrides in memory. -/
structure Agent.Serves (w : Agent D) (file : XrayConfig) (limits : List (Int × Nat)) : Prop where
  config : w.config = file
  hy2Clients : w.hy2Clients = hy2Mapping file
  overrides : w.overrides = limits

/-- The statement leaves that as it is. -/
def KeepsServing (file : XrayConfig) (limits : List (Int × Nat)) (s : AgentAct D β) : Prop :=
  ∀ f w, w.Serves file limits → (s f w).2.Serves file limits

section Keeps
variable {file : XrayConfig} {limits : List (Int × Nat)}

theorem ReadOnly.keepsServing {s : AgentAct D β} (hs : ReadOnly s) :
    KeepsServing file limits s := by
  intro f w h
  rw [hs f w]
  exact h

theorem keepsServing_refresh : KeepsServing file limits (refreshFromConfig file (D := D)) :=
  fun _ _ h => ⟨h.config, rfl, h.overrides⟩

theorem keepsServing_kick (settings : AgentSettings) (ids : Finset String) :
    KeepsServing file limits (kick settings ids (D := D)) := by
  intro f w h
  unfold kick
  split
  · exact h
  · cases f <;> exact ⟨h.config, h.hy2Clients, h.overrides⟩

theorem keepsServing_savePending (values : Finset String) :
    KeepsServing file limits (savePendingRevocations values (D := D)) := by
  intro f w h
  cases f <;> exact ⟨h.config, h.hy2Clients, h.overrides⟩

theorem keepsServing_remove (tag email : String) :
    KeepsServing file limits (xrayApiRemove tag email (D := D)) := by
  intro f w h
  cases f <;> exact ⟨h.config, h.hy2Clients, h.overrides⟩

theorem keepsServing_add (inbound : Inbound) (record : ClientRecord) :
    KeepsServing file limits (xrayApiAdd inbound record (D := D)) := by
  intro f w h
  unfold xrayApiAdd
  split
  · split
    · cases f <;> exact ⟨h.config, h.hy2Clients, h.overrides⟩
    · exact h
  · exact h

theorem keepsServing_reload : KeepsServing file limits (hardReload (D := D)) := by
  intro f w h
  rw [hardReload_changes]
  exact ⟨h.config, h.hy2Clients, h.overrides⟩

theorem retryPendingRevocations_serves (settings : AgentSettings) :
    (retryPendingRevocations settings (some file) (D := D)).Uses (KeepsServing file limits) := by
  refine Prog.uses_bind
    (Prog.uses_performOrRaise readOnly_loadPendingRevocations.keepsServing) ?_
  intro pending
  split
  · trivial
  · change ((Prog.perform (refreshFromConfig file)).bind _).Uses (KeepsServing file limits)
    refine Prog.uses_bind (Prog.uses_perform keepsServing_refresh) fun _ => ?_
    refine Prog.uses_bind ?_ fun kicked => ?_
    · split
      · trivial
      · exact Prog.uses_perform (keepsServing_kick _ _)
    split
    · exact Prog.uses_bind (Prog.uses_performOrRaise (keepsServing_savePending _))
        fun _ => trivial
    · trivial

theorem livePhase_serves (settings : AgentSettings) (cascadeChanged : Bool) (delta : Delta) :
    (livePhase settings cascadeChanged delta (D := D)).Uses (KeepsServing file limits) :=
  livePhase_uses_of keepsServing_remove keepsServing_add keepsServing_reload settings
    cascadeChanged delta

end Keeps

theorem dictEq_refl [DecidableEq κ] [DecidableEq ν] (a : List (κ × ν)) : dictEq a a = true := by
  simp [dictEq]

/-- The node has applied the snapshot as of a time. -/
structure Applied (snapshot : DesiredSnapshot D) (w : Agent D) : Prop where
  hy2Clients : w.hy2Clients = hy2Mapping w.config
  overrides : dictEq w.overrides (desiredOverrides snapshot.items) = true
  applied : ∃ state, w.applied = some state ∧ state.generation = snapshot.generation ∧
    state.digest = some snapshot.digest ∧ state.items = snapshot.items

section Success
variable {F : Fate → Prop} [DecidablePred F] {settings : AgentSettings}
  {snapshot : DesiredSnapshot D} {w : Agent D}

theorem applyReconcile_applied (hhy2 : w.hy2Clients = hy2Mapping w.config) (nowMs : Nat)
    (cascaded : XrayConfig) (pending : Finset String) {overrideChanged : Bool}
    (hoverrides : overrideChanged = false →
      dictEq w.overrides (desiredOverrides snapshot.items) = true) :
    (applyReconcile settings snapshot nowMs w.config cascaded pending overrideChanged).wp
      (agentSemIn D F) Eq anyChange (fun _ w' => Applied snapshot w') (fun _ _ => True) w := by
  simp only [applyReconcile]
  generalize desiredConfig (desiredClients snapshot.items nowMs) cascaded = desired
  generalize ((pending \ ((desiredClients snapshot.items nowMs).map
      DesiredClient.email).toFinset) ∪ (((configDelta (desiredClients snapshot.items nowMs)
        cascaded).removals.map Prod.snd).toFinset \ ((desiredClients snapshot.items nowMs).map
          DesiredClient.email).toFinset)) = revoked
  rw [Prog.bind_eq, Prog.wp_bind]
  refine performOrRaise_in reports_loadPendingRevocations (fun _ _ _ => trivial) ?_
    fun _ _ => trivial
  intro journaled _
  -- the journal is written before the config is
  rw [Prog.bind_eq, Prog.wp_bind]
  refine Prog.wp_post (Q := fun _ w₁ => w₁.Serves w.config w.overrides) (X := fun _ _ => True) ?_ ?_
    (fun _ _ h => h)
  · refine Prog.wp_whenever (fun _ => ?_) fun _ => ⟨rfl, hhy2, rfl⟩
    refine performOrRaise_in (reports_replaceFile _ _) (fun _ _ _ => trivial) ?_ fun _ _ => trivial
    exact fun _ _ => ⟨rfl, hhy2, rfl⟩
  intro _ w₁ h₁
  rw [Prog.bind_eq, Prog.wp_bind]
  refine Prog.wp_post (Q := fun _ w₂ => w₂.Serves desired w.overrides) (X := fun _ _ => True) ?_ ?_
    (fun _ _ h => h)
  · refine Prog.wp_whenever (fun hd => ?_) fun hd => ?_
    · rw [Prog.bind_eq, Prog.wp_bind]
      refine performOrRaise_in (reports_replaceFile _ _) (fun _ _ _ => trivial) ?_
        fun _ _ => trivial
      exact fun _ _ => perform_in fun _ _ => ⟨rfl, rfl, h₁.overrides⟩
    · rw [not_not.1 hd]
      exact h₁
  intro _ w₂ h₂
  rw [Prog.bind_eq, Prog.wp_bind]
  refine Prog.wp_post (uses_in (livePhase_serves settings _ _) (fun s hs f w => hs f w) h₂) ?_
    (fun _ _ _ => trivial)
  intro _ w₃ h₃
  rw [Prog.bind_eq, Prog.wp_bind]
  refine Prog.wp_post (Q := fun _ w₄ => w₄.Serves desired w.overrides) (X := fun _ _ => True) ?_ ?_
    (fun _ _ h => h)
  · refine Prog.wp_whenever (fun _ => ?_) fun _ => h₃
    rw [Prog.bind_eq, Prog.wp_bind]
    refine Prog.wp_post (uses_in (retryPendingRevocations_serves settings)
      (fun s hs f w => hs f w) h₃) ?_ (fun _ _ _ => trivial)
    intro clean w₄ h₄
    exact Prog.wp_whenever (fun _ => trivial) fun _ => h₄
  intro _ w₄ h₄
  -- the overrides and the applied state come last
  rw [Prog.bind_eq, Prog.wp_bind]
  refine Prog.wp_post (Q := fun _ w₅ => w₅.hy2Clients = hy2Mapping w₅.config ∧
    dictEq w₅.overrides (desiredOverrides snapshot.items) = true) (X := fun _ _ => True) ?_ ?_
    (fun _ _ h => h)
  · have hhy2₄ : w₄.hy2Clients = hy2Mapping w₄.config := by rw [h₄.hy2Clients, h₄.config]
    refine Prog.wp_whenever (fun _ => ?_) fun hsame => ⟨hhy2₄, ?_⟩
    · refine performOrRaise_in (reports_replaceOverrides _) (fun _ _ _ => trivial) ?_
        fun _ _ => trivial
      exact fun _ _ => ⟨hhy2₄, dictEq_refl _⟩
    · rw [h₄.overrides]
      exact hoverrides (Bool.eq_false_iff.2 hsame)
  rintro _ w₅ ⟨hhy2₅, hoverrides₅⟩
  refine performOrRaise_in (reports_replaceFile _ _) (fun _ _ _ => trivial) ?_ fun _ _ => trivial
  exact fun _ _ => ⟨hhy2₅, hoverrides₅, _, rfl, rfl, rfl, rfl⟩

theorem reconcileSnapshot_applied [DecidableEq D] (observe : Bool) (nowMs : Nat)
    (hhy2 : w.hy2Clients = hy2Mapping w.config) :
    (reconcileSnapshot settings snapshot observe nowMs).wp (agentSemIn D F) Eq anyChange
      (fun r w' => r.success = true ∧
        r.added = (configDelta (desiredClients snapshot.items nowMs) w.config).additions.length ∧
        r.removed = (configDelta (desiredClients snapshot.items nowMs) w.config).removals.length ∧
        (observe = false → Applied snapshot w')) (fun _ _ => True) w := by
  rw [reconcileSnapshot, Prog.bind_eq, Prog.wp_bind]
  refine performOrRaise_in reports_getXrayConfig (fun _ _ _ => trivial) ?_ fun _ _ => trivial
  intro config hconfig
  obtain rfl : w.config = config := by simpa [getXrayConfig] using hconfig
  rw [Prog.bind_eq, Prog.wp_bind]
  refine performOrRaise_in reports_loadPendingRevocations (fun _ _ _ => trivial) ?_
    fun _ _ => trivial
  intro pending _
  have hw : (loadPendingRevocations .ok (getXrayConfig .ok w).2).2 = w := rfl
  rw [hw, Prog.bind_eq, Prog.wp_bind]
  cases hr : applyCascadeRoutes w.config (desiredRoutes snapshot.items) with
  | error e => trivial
  | ok cascaded =>
    have hdelta := configDelta_congr (applyCascadeRoutes_inbounds hr)
      (desiredClients snapshot.items nowMs)
    simp only [Except.mapError, Prog.ofExcept, Prog.bind_eq, Prog.wp_ret, Prog.wp_bind]
    refine perform_in fun _ _ => ?_
    rw [Prog.wp_bind]
    refine perform_in fun f _ => ?_
    have hw' : (loadAppliedState f w).2 = w := by
      cases f <;> rfl
    simp only [readOverrides, hw', hdelta]
    refine Prog.wp_ite (fun hunchanged => ⟨rfl, rfl, rfl, fun hobserve => ?_⟩) fun _ => ?_
    · -- nothing has changed
      rw [hobserve] at hunchanged
      simp only [Bool.false_or, Bool.not_eq_true', Bool.or_eq_false_iff, decide_eq_false_iff_not,
        not_or, not_not, Bool.not_eq_false'] at hunchanged
      obtain ⟨⟨⟨_, hoverrides⟩, hstate⟩, _⟩ := hunchanged
      have hsame := of_decide_eq_false hstate
      rw [not_or, not_or, not_not, not_not, not_not] at hsame
      obtain ⟨hgeneration, hdigest, hitems⟩ := hsame
      refine ⟨hhy2, hoverrides, ?_⟩
      cases f with
      | ok =>
        cases happlied : w.applied with
        | none =>
          rw [loadAppliedState, if_pos rfl, happlied] at hdigest
          cases hdigest
        | some state =>
          rw [loadAppliedState, if_pos rfl, happlied] at hgeneration hdigest hitems
          exact ⟨state, rfl, hgeneration, hdigest, hitems⟩
      | fail => cases hdigest
      | lost => cases hdigest
    · rw [Prog.wp_bind]
      refine Prog.wp_post (applyReconcile_applied hhy2 nowMs cascaded pending fun hsame => ?_) ?_
        (fun _ _ h => h)
      · simpa using hsame
      · exact fun _ _ h => ⟨rfl, rfl, rfl, fun _ => h⟩

end Success

/-! ## Runs that change nothing -/

section Again
variable [DecidableEq D] {settings : AgentSettings} {snapshot : DesiredSnapshot D} {w : Agent D}

theorem observe_readOnly (settings : AgentSettings) (snapshot : DesiredSnapshot D) (nowMs : Nat) :
    (reconcileSnapshot settings snapshot true nowMs).Uses ReadOnly := by
  refine Prog.uses_bind (Prog.uses_performOrRaise readOnly_getXrayConfig) fun config => ?_
  refine Prog.uses_bind (Prog.uses_performOrRaise readOnly_loadPendingRevocations) fun pending => ?_
  refine Prog.uses_bind (Prog.uses_ofExcept _) fun cascaded => ?_
  refine Prog.uses_bind (Prog.uses_perform readOnly_readOverrides) fun _ => ?_
  exact Prog.uses_bind (Prog.uses_perform readOnly_loadAppliedState) fun _ => trivial

/-- A reconcile that finds everything in place only reads. -/
theorem reconcile_in_place (nowMs : Nat)
    (hcascade : applyCascadeRoutes w.config (desiredRoutes snapshot.items) = .ok w.config)
    (hconfig : desiredConfig (desiredClients snapshot.items nowMs) w.config = w.config)
    (hjournal : w.journal.read = .ok ∅) (happlied : Applied snapshot w) :
    ∃ r, r.changed = false ∧ (reconcileSnapshot settings snapshot false nowMs).Quiet
      (fun s w => s .ok w) ReadOnly w r := by
  obtain ⟨state, hstate, hgeneration, hdigest, hitems⟩ := happlied.applied
  refine ⟨⟨true, false, false,
    (configDelta (desiredClients snapshot.items nowMs) w.config).additions.length,
    (configDelta (desiredClients snapshot.items nowMs) w.config).removals.length⟩, rfl, ?_⟩
  refine Prog.Quiet.bind (Prog.Quiet.performOrRaise readOnly_getXrayConfig rfl) ?_
  have hpending : loadPendingRevocations .ok w = (.ok ∅, w) := by
    rw [loadPendingRevocations, if_pos rfl, hjournal]
  refine Prog.Quiet.bind (Prog.Quiet.performOrRaise readOnly_loadPendingRevocations hpending) ?_
  rw [hcascade]
  refine Prog.Quiet.bind (Prog.Quiet.ret _ w) ?_
  refine Prog.Quiet.bind (Prog.Quiet.perform readOnly_readOverrides rfl) ?_
  have hprevious : loadAppliedState .ok w = (state, w) := by
    rw [loadAppliedState, if_pos rfl, hstate]
    rfl
  refine Prog.Quiet.bind (Prog.Quiet.perform readOnly_loadAppliedState hprevious) ?_
  simp only [hconfig, hgeneration, hdigest, hitems, happlied.overrides, Finset.empty_sdiff, ne_eq,
    not_true_eq_false, or_self, decide_false, Bool.not_true, Bool.or_self, Bool.not_false,
    Bool.false_or, ↓reduceIte]
  exact Prog.Quiet.ret _ w

end Again

/-! ## The outcome of a reconcile -/

/-- The node is exactly as the snapshot wants it at a time. Hysteria takes no user without a UUID or
an email, and none where the config has no VLESS inbound. -/
structure ExactlyAs (snapshot : DesiredSnapshot D) (nowMs : Nat) (before : XrayConfig)
    (w : Agent D) : Prop where
  clients : ∀ i ∈ listVlessInbounds w.config,
    i.clients = desiredRecords (desiredClients snapshot.items nowMs) i
  cascade : ∃ cascaded, applyCascadeRoutes before (desiredRoutes snapshot.items) = .ok cascaded ∧
    w.config = { cascaded with inbounds := w.config.inbounds }
  hy2Clients : ∀ uuid email, w.hy2Clients.reverse.lookup uuid = some email ↔
    listVlessInbounds w.config ≠ [] ∧ uuid ≠ "" ∧ email ≠ "" ∧
      ∃ c ∈ desiredClients snapshot.items nowMs, c.uuid = uuid ∧ c.email = email
  overrides : dictEq w.overrides (desiredOverrides snapshot.items) = true
  applied : ∃ state, w.applied = some state ∧ state.generation = snapshot.generation ∧
    state.digest = some snapshot.digest ∧ state.items = snapshot.items
  journal : w.journal.read = .ok ∅

theorem mem_hy2Mapping {config : XrayConfig} {clients : List DesiredClient}
    (h : ∀ i ∈ listVlessInbounds config, i.clients = desiredRecords clients i) :
    (uuid, email) ∈ hy2Mapping config ↔ listVlessInbounds config ≠ [] ∧ uuid ≠ "" ∧ email ≠ "" ∧
      ∃ c ∈ clients, c.uuid = uuid ∧ c.email = email := by
  rw [hy2Mapping, List.mem_flatMap]
  constructor
  · rintro ⟨i, hi, hmem⟩
    rw [h i hi, desiredRecords, List.filterMap_map, List.mem_filterMap] at hmem
    obtain ⟨c, hc, hmap⟩ := hmem
    simp only [Function.comp_apply, buildClientRecord] at hmap
    split at hmap
    · rename_i u e hu he
      cases hmap
      obtain ⟨hid, hu⟩ := truthy_some.1 hu
      obtain ⟨hemail, he⟩ := truthy_some.1 he
      exact ⟨List.ne_nil_of_mem hi, hu, he, c, hc, Option.some.inj hid, Option.some.inj hemail⟩
    · cases hmap
  · rintro ⟨hne, hu, he, c, hc, rfl, rfl⟩
    obtain ⟨i, hi⟩ := List.exists_mem_of_ne_nil _ hne
    refine ⟨i, hi, ?_⟩
    rw [h i hi, desiredRecords, List.filterMap_map, List.mem_filterMap]
    refine ⟨c, hc, ?_⟩
    simp only [Function.comp_apply, buildClientRecord, truthy_some.2 ⟨rfl, hu⟩,
      truthy_some.2 ⟨rfl, he⟩]

theorem mapVless_again (clients : List DesiredClient) (config : XrayConfig) :
    desiredConfig clients (desiredConfig clients config) = desiredConfig clients config := by
  simp only [desiredConfig, mapVless, List.map_map, XrayConfig.mk.injEq, and_self, and_true]
  refine List.map_congr_left fun i _ => ?_
  by_cases hi : i.isVless
  · have hi' : ({ i with clients := desiredRecords clients i } : Inbound).isVless = true := hi
    simp only [Function.comp_apply, hi, hi', ↓reduceIte, desiredRecords_clients]
  · simp only [Function.comp_apply, hi, Bool.false_eq_true, ↓reduceIte]

/-- A reconcile that returns has made the node exactly as the snapshot wants it, and the same
reconcile, made again where every operation works, reports no change and only reads. To observe is
only to read as well, and counts the same. -/
theorem reconcile_exact [DecidableEq D] (settings : AgentSettings) (snapshot : DesiredSnapshot D)
    (nowMs : Nat) (hdistinct : ClientsDistinct snapshot.items) (w : Agent D)
    (hhy2 : w.hy2Clients = hy2Mapping w.config) (fates : List Fate) (r : ReconcileResult)
    (w' : Agent D)
    (h : (reconcileSnapshot settings snapshot false nowMs).advance (agentSem D) fates w =
      (.ret r, w')) :
    ExactlyAs snapshot nowMs w.config w' ∧
    (∃ again, again.changed = false ∧ (reconcileSnapshot settings snapshot false nowMs).Quiet
      (fun s w => s .ok w) ReadOnly w' again) ∧
    (reconcileSnapshot settings snapshot true nowMs).Uses ReadOnly ∧
    ∀ fates observed w₁, (reconcileSnapshot settings snapshot true nowMs).advance (agentSem D)
      fates w = (.ret observed, w₁) → observed.added = r.added ∧ observed.removed = r.removed := by
  obtain ⟨-, hadded, hremoved, happlied⟩ :=
    returned_of_in (reconcileSnapshot_applied false nowMs hhy2) h
  obtain ⟨-, x, hinstalled, hjournal, -⟩ :=
    returned_of_in (reconcileSnapshot_in settings snapshot nowMs w) h
  have happlied := happlied rfl
  have hconfig : w'.config = desiredConfig (desiredClients snapshot.items nowMs) x.cascaded :=
    hinstalled.config
  have hinbounds : w'.config = { x.cascaded with inbounds := w'.config.inbounds } := by
    rw [hconfig]
    rfl
  have hclients : ∀ i ∈ listVlessInbounds w'.config,
      i.clients = desiredRecords (desiredClients snapshot.items nowMs) i := by
    intro i hi
    rw [hconfig] at hi
    exact desiredConfig_clients hi
  refine ⟨⟨hclients, ⟨x.cascaded, x.routes, hinbounds⟩, fun uuid email => ?_, happlied.overrides,
    happlied.applied, hjournal⟩, ?_, observe_readOnly settings snapshot nowMs,
    fun fates observed w₁ h₁ => ?_⟩
  · -- a UUID has one email only
    have huuids := hdistinct.uuids nowMs
    rw [happlied.hy2Clients, lookup_iff_mem, List.mem_reverse, mem_hy2Mapping hclients]
    intro v v' hv hv'
    rw [List.mem_reverse, mem_hy2Mapping hclients] at hv hv'
    obtain ⟨-, -, -, c, hc, huuid, rfl⟩ := hv
    obtain ⟨-, -, -, c', hc', huuid', rfl⟩ := hv'
    rw [List.inj_on_of_nodup_map huuids hc hc' (huuid.trans huuid'.symm)]
  · refine reconcile_in_place nowMs ?_ ?_ hjournal happlied
    · rw [hinbounds]
      exact applyCascadeRoutes_again x.routes w'.config.inbounds
    · rw [hconfig]
      exact mapVless_again _ _
  · obtain ⟨-, hadded₁, hremoved₁, -⟩ :=
      returned_of_in (reconcileSnapshot_applied true nowMs hhy2) h₁
    exact ⟨hadded₁.trans hadded.symm, hremoved₁.trans hremoved.symm⟩

/-- The only client is replaced by another one. -/
theorem reconcile_exact_replaced :
    let items := [.client ⟨"u2", "user_2", 1000⟩]
    ExactlyAs ⟨1, 2, items, items⟩ 0 sessionNode.config (sessionNodeAfter items).2 ∧
      ∃ again, again.changed = false ∧
        (reconcileSnapshot liveSettings ⟨1, 2, items, items⟩ false 0).Quiet (fun s w => s .ok w)
          ReadOnly (sessionNodeAfter items).2 again := by
  intro items
  have hret : (sessionNodeAfter items).1 = .ret ⟨true, true, false, 1, 1⟩ :=
    Prog.eq_ret_of_returned (by decide +kernel)
  obtain ⟨hexact, hagain, -⟩ := reconcile_exact liveSettings ⟨1, 2, items, items⟩ 0 (by decide)
    sessionNode rfl (List.replicate 20 .ok) ⟨true, true, false, 1, 1⟩ (sessionNodeAfter items).2
    (Prod.ext hret rfl)
  exact ⟨hexact, hagain⟩

/-- A client without an email is written to the config, and Hysteria does not get to know it. -/
theorem hy2_skips_empty_email :
    let items := [.client ⟨"u1", "", 1000⟩]
    let after := (reconcileSnapshot liveSettings ⟨1, 2, items, items⟩ false 0).advance
      (agentSem (List DesiredItem)) (List.replicate 20 .ok) (nodeAt 1 freshConfig [])
    ClientsDistinct items ∧
    (nodeAt 1 freshConfig []).hy2Clients = hy2Mapping (nodeAt 1 freshConfig []).config ∧
    after.1.returned = some ⟨true, true, false, 1, 0⟩ ∧
    (listVlessInbounds after.2.config).map Inbound.clients = [[⟨some "u1", some "", none, []⟩]] ∧
    after.2.hy2Clients = [] := by
  decide +kernel

end AegisVPN
