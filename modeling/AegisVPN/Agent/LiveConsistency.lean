import AegisVPN.Agent.ControlRuns
import AegisVPN.Agent.Generations
import AegisVPN.Agent.LiveDelta

namespace AegisVPN
open Library
set_option autoImplicit true

theorem perform_wp {s : AgentAct D β} {Q : β → Agent D → Prop}
    (h : ∀ f, G w (s f w).2 ∧ Q (s f w).1 (s f w).2) :
    (Prog.perform s).wp (agentSem D) Eq G Q X w := by
  refine Prog.wp_stmt.2 fun f b w' hs => ?_
  obtain ⟨rfl, rfl⟩ := agentSem_some.1 hs
  exact h f

theorem performOrRaise_wp {s : AgentAct D (Except AgentError β)} {Q : β → Agent D → Prop}
    (hG : ∀ f, G w (s f w).2) (hQ : ∀ f b, (s f w).1 = .ok b → Q b (s f w).2)
    (hX : ∀ f e, (s f w).1 = .error e → X e (s f w).2) :
    (Prog.performOrRaise s).wp (agentSem D) Eq G Q X w := by
  refine Prog.wp_stmt.2 fun f b w' hs => ?_
  obtain ⟨hb, rfl⟩ := agentSem_some.1 hs
  refine ⟨hG f, ?_⟩
  cases b with
  | ok b => exact hQ f b hb
  | error e => exact hX f e hb

theorem keeps_wp {p : AgentProg D α} {Q : α → Agent D → Prop} (h : p.Uses KeepsControl)
    (hG : ∀ a b, SameControl a b → G a b) (hQ : ∀ a w', SameControl w w' → Q a w')
    (hX : ∀ e w', SameControl w w' → X e w') : p.wp (agentSem D) Eq G Q X w := by
  have hall : p.wp (agentSem D) Eq G (fun _ => SameControl w) (fun _ => SameControl w) w := by
    refine Prog.wp_of_uses h ?_ (.refl w)
    intro β s hs f a b w' ha hsem
    obtain ⟨rfl, rfl⟩ := agentSem_some.1 hsem
    exact ⟨hG _ _ (hs f a), ha.trans (hs f a)⟩
  exact Prog.wp_post hall hQ hX

theorem keeps_bind_wp {p : AgentProg D α} {f : α → AgentProg D β} {Q : β → Agent D → Prop}
    (h : p.Uses KeepsControl) (hG : ∀ a b, SameControl a b → G a b)
    (hQ : ∀ a w', SameControl w w' → (f a).wp (agentSem D) Eq G Q X w')
    (hX : ∀ e w', SameControl w w' → X e w') : (p.bind f).wp (agentSem D) Eq G Q X w := by
  rw [Prog.wp_bind]
  exact keeps_wp h hG hQ hX

/-! ## The live phase -/

/-- Only the running Xray changed, and it still has one user for each email. -/
structure OnlyLive (w w' : Agent D) : Prop where
  config : w'.config = w.config
  applied : w'.applied = w.applied
  unique : UniqueEmails w.live → UniqueEmails w'.live

theorem OnlyLive.refl (w : Agent D) : OnlyLive w w := ⟨rfl, rfl, id⟩

theorem OnlyLive.trans (h : OnlyLive w₁ w₂) (h' : OnlyLive w₂ w₃) : OnlyLive w₁ w₃ :=
  ⟨h'.config.trans h.config, h'.applied.trans h.applied, fun hu => h'.unique (h.unique hu)⟩

/-- The calls of the live API send no signal. -/
structure OnlyUsers (w w' : Agent D) : Prop extends OnlyLive w w' where
  signals : w'.signals = w.signals

theorem OnlyUsers.refl (w : Agent D) : OnlyUsers w w := ⟨.refl w, rfl⟩

theorem OnlyUsers.trans (h : OnlyUsers w₁ w₂) (h' : OnlyUsers w₂ w₃) : OnlyUsers w₁ w₃ :=
  ⟨h.toOnlyLive.trans h'.toOnlyLive, h'.signals.trans h.signals⟩

theorem UniqueEmails.remove (h : UniqueEmails live) (tag email : String) :
    UniqueEmails (live.map (LiveInbound.remove tag email)) := by
  intro l' hl'
  obtain ⟨l, hl, rfl⟩ := List.mem_map.1 hl'
  rw [remove_eq]
  exact (h l hl).sublist (List.filter_sublist.filterMap _)

theorem UniqueEmails.add (h : UniqueEmails live) (ha : acceptsUser tag record live = true) :
    UniqueEmails (live.map (LiveInbound.add tag record)) := by
  intro l' hl'
  obtain ⟨l, hl, rfl⟩ := List.mem_map.1 hl'
  by_cases ht : l.tag = some tag
  · simp only [LiveInbound.add, ht, ↓reduceIte, List.filterMap_append]
    cases he : truthy record.email with
    | none => simpa [he] using h l hl
    | some e =>
      simp only [acceptsUser, Bool.and_eq_true, List.all_eq_true] at ha
      have hfree := ha.2 l hl
      simp only [ht, ne_eq, not_true_eq_false, decide_false, Bool.false_or, he, Option.isNone_some,
        List.all_eq_true, decide_eq_true_eq] at hfree
      have hlast : [record].filterMap (fun u => truthy u.email) = [e] := by simp [he]
      rw [hlast, ← List.concat_eq_append]
      refine (h l hl).concat fun hmem => ?_
      obtain ⟨u, hu, hue⟩ := List.mem_filterMap.1 hmem
      exact hfree u hu ((truthy_some.1 hue).1.trans (truthy_some.1 he).1.symm)
  · simpa [LiveInbound.add, ht] using h l hl

theorem UniqueEmails.boot (h : Loadable config) : UniqueEmails (bootTable config) := by
  intro l hl
  obtain ⟨i, hi, rfl⟩ := List.mem_map.1 hl
  simpa [List.filterMap_map, Function.comp_def, recordProjection] using h.2 i hi

theorem xrayApiRemove_spec (tag email : String) (f : Fate) (w : Agent D) :
    OnlyUsers w (xrayApiRemove tag email f w).2 ∧ ((xrayApiRemove tag email f w).1 = true →
      (xrayApiRemove tag email f w).2.live = w.live.map (LiveInbound.remove tag email)) := by
  cases f with
  | ok => exact ⟨⟨⟨rfl, rfl, fun h => h.remove _ _⟩, rfl⟩, fun _ => rfl⟩
  | fail => exact ⟨.refl w, fun h => by cases h⟩
  | lost => exact ⟨⟨⟨rfl, rfl, fun h => h.remove _ _⟩, rfl⟩, fun h => by cases h⟩

theorem xrayApiAdd_spec (inbound : Inbound) (record : ClientRecord) (f : Fate) (w : Agent D) :
    OnlyUsers w (xrayApiAdd inbound record f w).2 ∧ ((xrayApiAdd inbound record f w).1 = true →
      (xrayApiAdd inbound record f w).2.live =
        w.live.map (LiveInbound.addTo (inbound, record))) := by
  have hnone : OnlyUsers w w ∧ (false = true → w.live =
      w.live.map (LiveInbound.addTo (inbound, record))) := ⟨.refl w, fun h => by cases h⟩
  unfold xrayApiAdd
  split
  · rename_i tag port htag hport
    split
    · rename_i haccept
      have hto : LiveInbound.addTo (inbound, record) = LiveInbound.add tag record := by
        funext l
        simp only [LiveInbound.addTo, htag]
      cases f with
      | ok => exact ⟨⟨⟨rfl, rfl, fun h => h.add haccept⟩, rfl⟩, fun _ => by rw [hto]⟩
      | fail => exact hnone
      | lost => exact ⟨⟨⟨rfl, rfl, fun h => h.add haccept⟩, rfl⟩, fun h => by cases h⟩
    · exact hnone
  · exact hnone

/-- Where the signal is not lost, the process that is ready serves the file. -/
theorem hardReload_spec (f : Fate) (w : Agent D) :
    OnlyLive w (hardReload f w).2 ∧ (w.signals.head? ≠ some false → (hardReload f w).1 = true →
      (hardReload f w).2.live = bootTable w.config) := by
  have hunique : UniqueEmails (if decide (Loadable w.config) = true then bootTable w.config
      else []) := by
    split
    · rename_i hl
      exact .boot (of_decide_eq_true hl)
    · intro l hl
      cases hl
  rw [hardReload]
  split
  · rename_i hlost
    exact ⟨⟨rfl, rfl, id⟩, fun hreaches => absurd hlost.1 hreaches⟩
  · cases f with
    | ok =>
      refine ⟨⟨rfl, rfl, fun _ => hunique⟩, fun _ hup => ?_⟩
      dsimp only at hup ⊢
      rw [hup, if_pos rfl]
    | fail => exact ⟨⟨rfl, rfl, id⟩, fun _ hup => by cases hup⟩
    | lost => exact ⟨⟨rfl, rfl, fun _ => hunique⟩, fun _ hup => by cases hup⟩

theorem liveRemovals_wp (removals : List (String × String)) (w : Agent D) :
    (liveRemovals removals true).wp (agentSem D) Eq OnlyLive
      (fun ok w' => OnlyUsers w w' ∧ (ok = true → w'.live = removeAll removals w.live))
      (fun _ _ => False) w := by
  refine Prog.wp_post (Prog.wp_foldlM (fun rest ok w' => OnlyUsers w w' ∧
    (ok = true → removeAll rest w'.live = removeAll removals w.live)) ?_
    ⟨.refl w, fun _ => rfl⟩) (fun _ _ h => h) (fun _ _ h => h)
  intro r rest ok w' ⟨hw, hok⟩
  rw [Prog.bind_eq, Prog.wp_bind]
  refine perform_wp fun f => ?_
  obtain ⟨hlive, hdone⟩ := xrayApiRemove_spec r.1 r.2 f w'
  refine ⟨hlive.toOnlyLive, hw.trans hlive, fun hand => ?_⟩
  obtain ⟨h₁, h₂⟩ := (Bool.and_eq_true _ _).mp hand
  rw [hdone h₂]
  exact hok h₁

theorem liveAdditions_wp (additions : List (Inbound × ClientRecord)) (ok : Bool) (w : Agent D) :
    (liveAdditions additions ok).wp (agentSem D) Eq OnlyLive
      (fun ok' w' => OnlyUsers w w' ∧
        (ok' = true → ok = true ∧ w'.live = addAll additions w.live))
      (fun _ _ => False) w := by
  refine Prog.wp_post (Prog.wp_foldlM (fun rest ok' w' => OnlyUsers w w' ∧
    (ok' = true → ok = true ∧ addAll rest w'.live = addAll additions w.live)) ?_
    ⟨.refl w, fun h => ⟨h, rfl⟩⟩) (fun _ _ h => h) (fun _ _ h => h)
  intro a rest ok' w' ⟨hw, hok⟩
  rw [Prog.bind_eq, Prog.wp_bind]
  refine perform_wp fun f => ?_
  obtain ⟨hlive, hdone⟩ := xrayApiAdd_spec a.1 a.2 f w'
  refine ⟨hlive.toOnlyLive, hw.trans hlive, fun hand => ?_⟩
  obtain ⟨h₁, h₂⟩ := (Bool.and_eq_true _ _).mp hand
  rw [hdone h₂]
  exact hok h₁

/-- When the live phase returns, the running Xray serves the new file: through the delta if it
served the old file before, and otherwise through a reload whose signal is not lost. -/
theorem livePhase_wp {w : Agent D} (hconfig : w.config = desiredConfig clients old)
    (hunique : UniqueEmails w.live) (hclients : DistinctUuids clients)
    (hreaches : w.signals.head? ≠ some false)
    (hlive : usesLiveApi settings cascadeChanged (configDelta clients old) = true →
      Addressable old ∧ InStep w.live old) :
    (livePhase settings cascadeChanged (configDelta clients old)).wp (agentSem D) Eq OnlyLive
      (fun _ w' => OnlyLive w w' ∧ InStep w'.live w'.config) (fun _ w' => OnlyLive w w') w := by
  rw [livePhase, Prog.bind_eq, Prog.wp_bind]
  -- what is known once the API calls are through, whether they were made or not
  refine Prog.wp_post (Q := fun ok w' => OnlyUsers w w' ∧ (ok = true → InStep w'.live w'.config))
    (X := fun _ _ => False) ?_ ?_ (fun _ _ h => h.elim)
  · split
    · rename_i huse
      rw [Prog.bind_eq, Prog.wp_bind]
      refine Prog.wp_post (liveRemovals_wp _ w) ?_ (fun _ _ h => h)
      intro ok w₁ ⟨h₁, hremoved⟩
      refine Prog.wp_post (liveAdditions_wp _ ok w₁) ?_ (fun _ _ h => h)
      intro ok' w₂ ⟨h₂, hadded⟩
      refine ⟨h₁.trans h₂, fun hok' => ?_⟩
      obtain ⟨hok, hlive₂⟩ := hadded hok'
      rw [hlive₂, hremoved hok, (h₁.trans h₂).config, hconfig]
      exact delta_inStep (hlive huse).2 (hlive huse).1 hunique hclients
    · exact ⟨.refl w, fun h => by cases h⟩
  · intro ok w₁ ⟨h₁, hok⟩
    refine Prog.wp_whenever (fun hfalse => ?_) fun htrue =>
      ⟨h₁.toOnlyLive, hok (by simpa using htrue)⟩
    rw [Prog.bind_eq, Prog.wp_bind]
    refine perform_wp fun f => ?_
    obtain ⟨h₂, hready⟩ := hardReload_spec f w₁
    have h₂' := h₁.toOnlyLive.trans h₂
    refine ⟨h₂, Prog.wp_whenever (fun _ => h₂') fun hup => ⟨h₂', ?_⟩⟩
    rw [hready (h₁.signals ▸ hreaches) (by simpa using hup), h₂.config]
    exact List.forall₂_same.2 fun l _ => ⟨rfl, .refl _⟩

/-! ## A reconcile -/

/-- The node has acknowledged one of the calls of `T`: file and running Xray hold the clients
of its snapshot that were unexpired when it read the clock, and no others. -/
def Acknowledged (T : ReconcileCall D → Prop) (w : Agent D) : Prop :=
  ∃ c, T c ∧ w.applied = some ⟨c.snapshot.schemaVersion, c.snapshot.generation,
      some c.snapshot.digest, c.snapshot.items⟩ ∧
    InStep w.live w.config ∧ ∀ i ∈ listVlessInbounds w.config,
      i.clients = desiredRecords (desiredClients c.snapshot.items c.nowMs) i

/-- The applied state stands, or it advances to an acknowledged one. -/
def AdvancesLive (T : ReconcileCall D → Prop) (w w' : Agent D) : Prop :=
  w'.applied = w.applied ∨ Acknowledged T w'

def ClientsDistinct (items : List DesiredItem) : Prop :=
  (items.filterMap DesiredItem.clientUuid?).Nodup

instance : Decidable (ClientsDistinct items) := by unfold ClientsDistinct; infer_instance

structure LiveInv (w : Agent D) : Prop where
  unique : UniqueEmails w.live
  applied : ∀ state, w.applied = some state → ClientsDistinct state.items

/-- The running Xray serves the file, and the file can be addressed. -/
def LiveReady (w : Agent D) : Prop := Addressable w.config ∧ InStep w.live w.config

/-- A call of `T` whose reload, if it comes to one, reaches Xray, and which may only go through the
live API where the node is ready for it. -/
def EntersReady (settings : AgentSettings) (T : ReconcileCall D → Prop) (c : ReconcileCall D)
    (w : Agent D) : Prop :=
  T c ∧ w.signals.head? ≠ some false ∧ ∀ cascaded,
    applyCascadeRoutes w.config (desiredRoutes c.snapshot.items) = .ok cascaded →
    usesLiveApi settings (decide (cascaded ≠ w.config))
      (configDelta (desiredClients c.snapshot.items c.nowMs) cascaded) = true → LiveReady w

theorem desiredClients_uuids (items : List DesiredItem) (nowMs : Nat) :
    ((desiredClients items nowMs).map DesiredClient.uuid).Sublist
      (items.filterMap DesiredItem.clientUuid?) := by
  induction items with
  | nil => exact .slnil
  | cons item items ih =>
    cases item with
    | client c =>
      by_cases hc : c.expireMs > nowMs
      · simpa [desiredClients, DesiredItem.clientUuid?, hc] using ih
      · simpa [desiredClients, DesiredItem.clientUuid?, hc] using ih.cons c.uuid
    | connLimit l => exact ih
    | cascadeService s => simpa [desiredClients, DesiredItem.clientUuid?] using ih
    | cascadeRoute r => exact ih

theorem ClientsDistinct.uuids (h : ClientsDistinct items) (nowMs : Nat) :
    DistinctUuids (desiredClients items nowMs) :=
  h.sublist (desiredClients_uuids items nowMs)

theorem listVlessInbounds_congr {c c' : XrayConfig} (h : c'.inbounds = c.inbounds) :
    listVlessInbounds c' = listVlessInbounds c := by
  rw [listVlessInbounds, h, ← listVlessInbounds]

theorem Addressable.congr {c c' : XrayConfig} (h : Addressable c)
    (hc : c'.inbounds = c.inbounds) : Addressable c' := by
  obtain ⟨h₁, h₂, h₃, h₄, h₅⟩ := h
  rw [← listVlessInbounds_congr hc] at h₁ h₂ h₃ h₄ h₅
  exact ⟨h₁, h₂, h₃, h₄, h₅⟩

theorem InStep.congr {c c' : XrayConfig} (h : InStep live c) (hc : c'.inbounds = c.inbounds) :
    InStep live c' := by
  rw [InStep, bootTable, listVlessInbounds_congr hc]
  exact h

theorem desiredConfig_clients (hi : i ∈ listVlessInbounds (desiredConfig clients config)) :
    i.clients = desiredRecords clients i := by
  rw [desiredConfig, listVlessInbounds_mapVless] at hi
  obtain ⟨j, _, rfl⟩ := List.mem_map.1 hi
  rfl

theorem LiveInv.of_same (h : SameControl w w') (hw : LiveInv w) : LiveInv w' where
  unique := h.live ▸ hw.unique
  applied := h.applied ▸ hw.applied

theorem LiveInv.of_onlyLive (h : OnlyLive w w') (hw : LiveInv w) : LiveInv w' where
  unique := h.unique hw.unique
  applied := h.applied ▸ hw.applied

def LiveGuarantee (T : ReconcileCall D → Prop) (a b : Agent D) : Prop :=
  AdvancesLive T a b ∧ (LiveInv a → LiveInv b)

theorem LiveGuarantee.of_same (h : SameControl a b) : LiveGuarantee T a b :=
  ⟨.inl h.applied, fun hi => hi.of_same h⟩

theorem LiveGuarantee.of_onlyLive (h : OnlyLive a b) : LiveGuarantee T a b :=
  ⟨.inl h.applied, fun hi => hi.of_onlyLive h⟩

section Reconcile
variable [DecidableEq D] {T : ReconcileCall D → Prop}

omit [DecidableEq D] in
theorem finishReconcile_wp {c : ReconcileCall D} (hT : T c)
    (hdistinct : ClientsDistinct c.snapshot.items) {w : Agent D} (hinv : LiveInv w)
    (hstep : InStep w.live w.config) (hclients : ∀ i ∈ listVlessInbounds w.config,
      i.clients = desiredRecords (desiredClients c.snapshot.items c.nowMs) i) :
    (Prog.performOrRaise (saveAppliedState ⟨c.snapshot.schemaVersion, c.snapshot.generation,
      some c.snapshot.digest, c.snapshot.items⟩)).wp (agentSem D) Eq (LiveGuarantee T)
      (fun _ => LiveInv) (fun _ => LiveInv) w := by
  have hsaved : LiveGuarantee T w { w with applied := some ⟨c.snapshot.schemaVersion,
      c.snapshot.generation, some c.snapshot.digest, c.snapshot.items⟩ } := by
    refine ⟨.inr ⟨c, hT, rfl, hstep, hclients⟩, fun hi => ⟨hi.unique, ?_⟩⟩
    intro state hstate
    cases hstate
    exact hdistinct
  have hkept : LiveGuarantee T w w := .of_same (.refl w)
  refine performOrRaise_wp (fun f => ?_) (fun f _ _ => ?_) (fun f _ _ => ?_) <;> cases f
  · exact hsaved
  · exact hkept
  · exact hsaved
  · exact hsaved.2 hinv
  · exact hinv
  · exact hsaved.2 hinv
  · exact hsaved.2 hinv
  · exact hinv
  · exact hsaved.2 hinv

omit [DecidableEq D] in
theorem applyReconcile_wp {settings : AgentSettings} {c : ReconcileCall D} {w : Agent D}
    {cascaded : XrayConfig} (hT : T c) (hdistinct : ClientsDistinct c.snapshot.items)
    (hinv : LiveInv w) (hreaches : w.signals.head? ≠ some false)
    (hcascade : cascaded.inbounds = w.config.inbounds)
    (hlive : usesLiveApi settings (decide (cascaded ≠ w.config))
      (configDelta (desiredClients c.snapshot.items c.nowMs) cascaded) = true → LiveReady w)
    (pending : Finset String) (overrideChanged : Bool) :
    (applyReconcile settings c.snapshot c.nowMs w.config cascaded pending overrideChanged).wp
      (agentSem D) Eq (LiveGuarantee T) (fun _ => LiveInv) (fun _ => LiveInv) w := by
  have hsame : ∀ a b : Agent D, SameControl a b → LiveGuarantee T a b := fun _ _ h => .of_same h
  rw [applyReconcile]
  -- the journal
  refine keeps_bind_wp
    (Prog.uses_performOrRaise readOnly_loadPendingRevocations.keepsControl) hsame ?_
    (fun _ _ h => hinv.of_same h)
  intro journaled w₁ h₁
  refine keeps_bind_wp (Prog.uses_whenever fun _ => Prog.uses_performOrRaise
    (keepsControl_savePendingRevocations _)) hsame ?_
    (fun _ _ h => (hinv.of_same h₁).of_same h)
  intro _ w₂ h₂
  -- the config
  have hinv₂ := (hinv.of_same h₁).of_same h₂
  have hwrites : ∀ f : Fate, ∀ w', (saveXrayConfig (desiredConfig (desiredClients
      c.snapshot.items c.nowMs) cascaded) c.snapshot.generation f w₂).2 = w' →
      LiveGuarantee T w₂ w' ∧ LiveInv w' := by
    intro f w' hw'
    subst hw'
    have hinv' : LiveInv { w₂ with
        config := desiredConfig (desiredClients c.snapshot.items c.nowMs) cascaded
        installed := c.snapshot.generation } := ⟨hinv₂.unique, hinv₂.applied⟩
    cases f with
    | ok => exact ⟨⟨.inl rfl, fun _ => hinv'⟩, hinv'⟩
    | fail => exact ⟨.of_same (.refl _), hinv₂⟩
    | lost => exact ⟨⟨.inl rfl, fun _ => hinv'⟩, hinv'⟩
  rw [Prog.bind_eq, Prog.wp_bind]
  refine Prog.wp_post (Q := fun _ w₃ => LiveInv w₃ ∧ w₃.live = w.live ∧ w₃.signals = w.signals ∧
    w₃.config = desiredConfig (desiredClients c.snapshot.items c.nowMs) cascaded) ?_ ?_
    (fun _ _ h => h)
  · refine Prog.wp_whenever (fun _ => ?_) fun heq =>
      ⟨hinv₂, h₂.live.trans h₁.live, h₂.signals.trans h₁.signals, ?_⟩
    · rw [Prog.bind_eq, Prog.wp_bind]
      refine performOrRaise_wp (fun f => (hwrites f _ rfl).1) ?_
        (fun f _ _ => (hwrites f _ rfl).2)
      intro f u hu
      refine perform_wp fun f' => ?_
      have hrefresh := keepsControl_refreshFromConfig
        (desiredConfig (desiredClients c.snapshot.items c.nowMs) cascaded) f' (saveXrayConfig
          (desiredConfig (desiredClients c.snapshot.items c.nowMs) cascaded)
          c.snapshot.generation f w₂).2
      refine ⟨.of_same hrefresh, (hwrites f _ rfl).2.of_same hrefresh, ?_⟩
      rw [hrefresh.live, hrefresh.config, hrefresh.signals]
      cases f with
      | ok => exact ⟨h₂.live.trans h₁.live, h₂.signals.trans h₁.signals, rfl⟩
      | fail => cases hu
      | lost => cases hu
    · rw [h₂.config, h₁.config]
      exact (not_not.1 heq).symm
  intro _ w₃ ⟨hinv₃, hlive₃, hsignals₃, hconfig₃⟩
  -- the running Xray
  rw [Prog.bind_eq, Prog.wp_bind]
  refine Prog.wp_mono (livePhase_wp hconfig₃ hinv₃.unique (hdistinct.uuids c.nowMs)
    (hsignals₃ ▸ hreaches) fun huse =>
      ⟨(hlive huse).1.congr hcascade, hlive₃ ▸ (hlive huse).2.congr hcascade⟩)
    (fun _ _ h => h) (fun _ _ h => .of_onlyLive h) ?_ (fun _ _ h => hinv₃.of_onlyLive h)
  intro _ w₄ ⟨h₄, hstep⟩
  have hinv₄ := hinv₃.of_onlyLive h₄
  -- sessions and overrides
  refine keeps_bind_wp (Prog.uses_whenever fun _ =>
    Prog.uses_bind (retryPendingRevocations_keeps _ _) fun _ =>
      Prog.uses_whenever fun _ => trivial) hsame ?_ (fun _ _ h => hinv₄.of_same h)
  intro _ w₅ h₅
  refine keeps_bind_wp (Prog.uses_whenever fun _ => Prog.uses_performOrRaise
    (keepsControl_replaceOverrides _)) hsame ?_ (fun _ _ h => (hinv₄.of_same h₅).of_same h)
  intro _ w₆ h₆
  have h₆ := h₅.trans h₆
  refine finishReconcile_wp hT hdistinct (hinv₄.of_same h₆) ?_ ?_
  · rw [h₆.live, h₆.config]
    exact hstep
  · rw [h₆.config, h₄.config, hconfig₃]
    exact fun i hi => desiredConfig_clients hi

theorem reconcile_live {settings : AgentSettings} {c : ReconcileCall D} {w : Agent D}
    (hinv : LiveInv w) (hdistinct : ClientsDistinct c.snapshot.items)
    (hc : EntersReady settings T c w) : (c.run settings).wp (agentSem D) Eq (LiveGuarantee T)
      (fun _ => LiveInv) (fun _ => LiveInv) w := by
  obtain ⟨hT, hreaches, hready⟩ := hc
  have hsame : ∀ a b : Agent D, SameControl a b → LiveGuarantee T a b := fun _ _ h => .of_same h
  rw [ReconcileCall.run, reconcileSnapshot]
  rw [Prog.bind_eq, Prog.wp_bind]
  have hread : ∀ f, SameControl w (getXrayConfig f w).2 := by
    intro f
    exact readOnly_getXrayConfig.keepsControl f w
  refine performOrRaise_wp (fun f => hsame _ _ (hread f)) ?_
    (fun f _ _ => hinv.of_same (hread f))
  intro f config hconfig
  have hw₁ := hread f
  obtain rfl : config = (getXrayConfig f w).2.config := by
    cases f with
    | ok => cases hconfig; rfl
    | fail => cases hconfig
    | lost => cases hconfig
  generalize (getXrayConfig f w).2 = w₁ at hw₁
  refine keeps_bind_wp
    (Prog.uses_performOrRaise readOnly_loadPendingRevocations.keepsControl) hsame ?_
    (fun _ _ h => hinv.of_same (hw₁.trans h))
  intro pending w₂ hw₂
  cases hcascade : applyCascadeRoutes w₁.config (desiredRoutes c.snapshot.items) with
  | error e => exact hinv.of_same (hw₁.trans hw₂)
  | ok cascaded =>
    rw [Prog.bind_eq, Prog.wp_bind]
    simp only [Except.mapError, Prog.ofExcept, Prog.wp_ret]
    refine keeps_bind_wp (Prog.uses_perform readOnly_readOverrides.keepsControl) hsame ?_
      (fun _ _ h => hinv.of_same ((hw₁.trans hw₂).trans h))
    intro overrides w₃ hw₃
    refine keeps_bind_wp (Prog.uses_perform readOnly_loadAppliedState.keepsControl) hsame ?_
      (fun _ _ h => hinv.of_same (((hw₁.trans hw₂).trans hw₃).trans h))
    intro previous w₄ hw₄
    have hw := ((hw₁.trans hw₂).trans hw₃).trans hw₄
    have hconfig₄ : w₄.config = w₁.config := ((hw₂.trans hw₃).trans hw₄).config
    have hinv₄ := hinv.of_same hw
    split
    · exact hinv₄
    · rw [Prog.bind_eq, Prog.wp_bind, ← hconfig₄]
      rw [← hconfig₄] at hcascade
      refine applyReconcile_wp hT hdistinct hinv₄ (hw.signals ▸ hreaches)
        (applyCascadeRoutes_inbounds hcascade)
        (fun huse => ?_) _ _
      rw [hw.config] at hcascade huse
      rw [LiveReady, hw.live, hw.config]
      exact hready cascaded hcascade huse

def liveRule (canonical : Canonical D) (limits : ControlLimits) (settings : AgentSettings)
    (T : ReconcileCall D → Prop) :
    ReconcileRule canonical limits settings (EntersReady settings T) (AdvancesLive T) where
  Inv := LiveInv
  Accepts snapshot := ClientsDistinct snapshot.items
  inv_same h hw := hw.of_same h
  guarantee_same h := .inl h.applied
  accepts_sync h := syncSnapshot_nodup canonical limits h
  accepts_cached hw happlied _ := hw.applied _ happlied
  reconcile hw hdistinct hc := reconcile_live hw hdistinct hc

end Reconcile

/-! ## One client -/

def servedConfig : XrayConfig := desiredConfig (desiredClients oneClient 0) freshConfig

def limitOnly : List DesiredItem := [.connLimit ⟨1, 2⟩]

theorem nodeAt_liveInv (generation : Nat) {config : XrayConfig} (h : Loadable config)
    (hitems : ClientsDistinct items) : LiveInv (nodeAt generation config items) where
  unique := .boot h
  applied state hstate := by
    cases hstate
    exact hitems

theorem booted_ready {config : XrayConfig} {uuid email : String}
    (hvless : listVlessInbounds config =
      [⟨some "in", some 443, "vless", some "xhttp", [⟨some uuid, some email, none, []⟩]⟩])
    (huuid : uuid ≠ "") (hemail : email ≠ "") {w : Agent D} (hc : w.config = config)
    (hl : w.live = bootTable config) : LiveReady w := by
  refine ⟨?_, ?_⟩
  · rw [hc]
    constructor <;> rw [hvless]
    · simp only [List.forall_mem_singleton]
      exact ⟨"in", rfl⟩
    · exact List.nodup_singleton _
    · simp only [List.forall_mem_singleton]
      exact ⟨uuid, truthy_some.2 ⟨rfl, huuid⟩⟩
    · simp only [List.forall_mem_singleton]
      exact List.nodup_singleton _
    · simp only [List.forall_mem_singleton]
      exact ⟨email, truthy_some.2 ⟨rfl, hemail⟩⟩
  · rw [hc, hl]
    exact List.forall₂_same.2 fun l _ => ⟨rfl, .refl _⟩

theorem oneClient_vless (uuid email : String) :
    listVlessInbounds (desiredConfig [⟨uuid, email, 1000⟩] freshConfig) =
      [⟨some "in", some 443, "vless", some "xhttp", [⟨some uuid, some email, none, []⟩]⟩] := by
  have htransport : getTransportType ⟨some "in", some 443, "vless", some "xhttp", []⟩ =
      .xhttp := by decide +kernel
  rw [desiredConfig, listVlessInbounds_mapVless]
  simp [listVlessInbounds, freshConfig, Inbound.isVless, desiredRecords, buildClientRecord,
    htransport]

theorem InStep.user_counts (h : InStep live config) :
    live.map (fun l => l.users.length) = (bootTable config).map fun l => l.users.length := by
  unfold InStep at h
  generalize bootTable config = table at h
  induction h with
  | nil => rfl
  | cons hl _ ih => rw [List.map_cons, List.map_cons, hl.2.length_eq, ih]

def limitsNode : Agent (List DesiredItem) := nodeAt 1 servedConfig oneClient

/-- The second generation has another client in the place of the first. -/
def otherClient : List DesiredItem := [.client ⟨"u2", "user_2", 1000⟩]

def otherConfig : XrayConfig := desiredConfig (desiredClients otherClient 0) freshConfig

def exchangingProcess : AgentProg (List DesiredItem) LoopVars :=
  servedProcess ⟨1, 2, otherClient, otherClient⟩

/-- The node after so many steps in which everything works. -/
def exchanging (n : Nat) : Configuration (List DesiredItem) :=
  exchangingProcess.advance (agentSem _) (List.replicate n .ok) limitsNode.restart

/-- A step that writes is not the first of a reconcile. -/
theorem entered_of_writes [DecidableEq D] {C : ReconcileCall D → Agent D → Prop}
    {p : AgentProg D LoopVars} {w : Agent D} (h : (p.step (agentSem D) Fate.ok w).2 ≠ w) :
    Entered settings C p w := fun _ hstarts => absurd (hstarts.step_state rfl Fate.ok w) h

/-- The second generation keeps the connection limit and drops the client. -/
def revokingProcess : AgentProg (List DesiredItem) LoopVars :=
  servedProcess ⟨1, 2, limitOnly, limitOnly⟩

/-- The agent dies once it has written the file without the client. -/
def crashedNode : Agent (List DesiredItem) :=
  (revokingProcess.advance (agentSem _) (List.replicate 12 .ok) limitsNode.restart).2

end AegisVPN
