import AegisVPN.Agent.ControlLoop

namespace AegisVPN
open Library
set_option autoImplicit true

/-- Nothing changed that a generation is about. -/
structure SameControl (w w' : Agent D) : Prop where
  config : w'.config = w.config
  installed : w'.installed = w.installed
  applied : w'.applied = w.applied
  live : w'.live = w.live
  signals : w'.signals = w.signals

theorem SameControl.refl (w : Agent D) : SameControl w w := ⟨rfl, rfl, rfl, rfl, rfl⟩

theorem SameControl.trans (h : SameControl w₁ w₂) (h' : SameControl w₂ w₃) :
    SameControl w₁ w₃ :=
  ⟨h'.config.trans h.config, h'.installed.trans h.installed, h'.applied.trans h.applied,
    h'.live.trans h.live, h'.signals.trans h.signals⟩

theorem SameControl.restart (w : Agent D) : SameControl w w.restart := ⟨rfl, rfl, rfl, rfl, rfl⟩

/-- The statement touches neither config, applied state nor the running Xray. -/
def KeepsControl (s : AgentAct D β) : Prop := ∀ f w, SameControl w (s f w).2

theorem ReadOnly.keepsControl {s : AgentAct D β} (hs : ReadOnly s) : KeepsControl s := by
  intro f w
  rw [hs f w]
  exact .refl w

theorem keepsControl_replaceFile {write : Agent D → Agent D} {e : AgentError}
    (h : ∀ w, SameControl w (write w)) : KeepsControl (replaceFile e write) := by
  intro f w
  cases f with
  | ok => exact h w
  | fail => exact .refl w
  | lost => exact h w

theorem keepsControl_savePendingRevocations (values : Finset String) :
    KeepsControl (savePendingRevocations values (D := D)) :=
  keepsControl_replaceFile fun _ => ⟨rfl, rfl, rfl, rfl, rfl⟩

theorem keepsControl_replaceOverrides (overrides : List (Int × Nat)) :
    KeepsControl (replaceOverrides overrides (D := D)) := by
  intro f w
  cases f <;> exact ⟨rfl, rfl, rfl, rfl, rfl⟩

theorem keepsControl_refreshFromConfig (config : XrayConfig) :
    KeepsControl (refreshFromConfig config (D := D)) := fun _ _ => ⟨rfl, rfl, rfl, rfl, rfl⟩

theorem keepsControl_kick (settings : AgentSettings) (ids : Finset String) :
    KeepsControl (kick settings ids (D := D)) := by
  intro f w
  simp only [kick]
  split
  · exact .refl w
  · cases f <;> exact ⟨rfl, rfl, rfl, rfl, rfl⟩

theorem readOnly_loadTelemetrySequence : ReadOnly (loadTelemetrySequence (D := D)) := by
  intro f w
  cases f <;> rfl

theorem keepsControl_saveTelemetrySequence (sequence : Nat) :
    KeepsControl (saveTelemetrySequence sequence (D := D)) :=
  keepsControl_replaceFile fun _ => ⟨rfl, rfl, rfl, rfl, rfl⟩

theorem retryPendingRevocations_keeps (settings : AgentSettings) (config : Option XrayConfig) :
    (retryPendingRevocations settings config (D := D)).Uses KeepsControl := by
  refine Prog.uses_bind (Prog.uses_performOrRaise readOnly_loadPendingRevocations.keepsControl) ?_
  intro pending
  split
  · trivial
  · refine Prog.uses_bind ?_ fun current => ?_
    · cases config with
      | none => exact Prog.uses_performOrRaise readOnly_getXrayConfig.keepsControl
      | some config => trivial
    refine Prog.uses_bind (Prog.uses_perform (keepsControl_refreshFromConfig _)) fun _ => ?_
    refine Prog.uses_bind ?_ fun kicked => ?_
    · split
      · trivial
      · exact Prog.uses_perform (keepsControl_kick _ _)
    split
    · exact Prog.uses_bind (Prog.uses_performOrRaise (keepsControl_savePendingRevocations _))
        fun _ => trivial
    · trivial

theorem buildTelemetry_keeps (result : Option ReconcileResult) :
    (buildTelemetry result (D := D)).Uses KeepsControl :=
  Prog.uses_bind (Prog.uses_perform readOnly_loadAppliedState.keepsControl) fun _ =>
    Prog.uses_bind (Prog.uses_performOrRaise readOnly_getXrayConfig.keepsControl) fun _ => trivial

/-! ## The statements of a reconcile -/

theorem livePhase_uses_of {P : ∀ {β : Type}, AgentAct D β → Prop}
    (hremove : ∀ tag email, P (xrayApiRemove tag email (D := D)))
    (hadd : ∀ inbound record, P (xrayApiAdd inbound record (D := D)))
    (hreload : P (hardReload (D := D))) (settings : AgentSettings) (cascadeChanged : Bool)
    (delta : Delta) : (livePhase settings cascadeChanged delta (D := D)).Uses P := by
  refine Prog.uses_bind ?_ fun apiOk => Prog.uses_whenever fun _ => ?_
  · split
    · refine Prog.uses_bind ?_ fun ok => ?_
      · exact Prog.uses_foldlM true fun r _ _ =>
          Prog.uses_bind (Prog.uses_perform (hremove _ _)) fun _ => trivial
      · exact Prog.uses_foldlM ok fun a _ _ =>
          Prog.uses_bind (Prog.uses_perform (hadd _ _)) fun _ => trivial
    · trivial
  · exact Prog.uses_bind (Prog.uses_perform hreload) fun _ => Prog.uses_whenever fun _ => trivial

/-- What has to be known of each statement that a reconcile may run. -/
structure ReconcileUses (snapshot : DesiredSnapshot D)
    (P : ∀ {β : Type}, AgentAct D β → Prop) : Prop where
  keeps : ∀ {β : Type} {s : AgentAct D β}, KeepsControl s → P s
  saveConfig : ∀ config, P (saveXrayConfig config snapshot.generation)
  remove : ∀ tag email, P (xrayApiRemove tag email)
  add : ∀ inbound record, P (xrayApiAdd inbound record)
  reload : P hardReload
  saveApplied : P (saveAppliedState
    ⟨snapshot.schemaVersion, snapshot.generation, some snapshot.digest, snapshot.items⟩)

section Uses
variable {snapshot : DesiredSnapshot D} {P : ∀ {β : Type}, AgentAct D β → Prop}
  (h : ReconcileUses snapshot P)
include h

theorem livePhase_uses (settings : AgentSettings) (cascadeChanged : Bool) (delta : Delta) :
    (livePhase settings cascadeChanged delta (D := D)).Uses P :=
  livePhase_uses_of h.remove h.add h.reload settings cascadeChanged delta

theorem applyReconcile_uses (settings : AgentSettings) (nowMs : Nat)
    (config cascaded : XrayConfig) (pending : Finset String) (overrideChanged : Bool) :
    (applyReconcile settings snapshot nowMs config cascaded pending overrideChanged).Uses P := by
  refine Prog.uses_bind
    (Prog.uses_performOrRaise (h.keeps readOnly_loadPendingRevocations.keepsControl)) ?_
  intro journaled
  refine Prog.uses_bind (Prog.uses_whenever fun _ =>
    Prog.uses_performOrRaise (h.keeps (keepsControl_savePendingRevocations _))) fun _ => ?_
  refine Prog.uses_bind (Prog.uses_whenever fun _ => ?_) fun _ => ?_
  · exact Prog.uses_bind (Prog.uses_performOrRaise (h.saveConfig _))
      fun _ => Prog.uses_perform (h.keeps (keepsControl_refreshFromConfig _))
  refine Prog.uses_bind (livePhase_uses h _ _ _) fun _ => ?_
  refine Prog.uses_bind (Prog.uses_whenever fun _ => ?_) fun _ => ?_
  · exact Prog.uses_bind (Prog.uses_mono (retryPendingRevocations_keeps _ _) h.keeps)
      fun _ => Prog.uses_whenever fun _ => trivial
  refine Prog.uses_bind (Prog.uses_whenever fun _ =>
    Prog.uses_performOrRaise (h.keeps (keepsControl_replaceOverrides _))) fun _ => ?_
  exact Prog.uses_performOrRaise h.saveApplied

/-- What holds of each of these statements holds of all that a reconcile runs. -/
theorem reconcileSnapshot_uses [DecidableEq D] (settings : AgentSettings) (observe : Bool)
    (nowMs : Nat) : (reconcileSnapshot settings snapshot observe nowMs).Uses P := by
  refine Prog.uses_bind (Prog.uses_performOrRaise (h.keeps readOnly_getXrayConfig.keepsControl)) ?_
  intro config
  refine Prog.uses_bind
    (Prog.uses_performOrRaise (h.keeps readOnly_loadPendingRevocations.keepsControl)) ?_
  intro pending
  refine Prog.uses_bind (Prog.uses_ofExcept _) fun cascaded => ?_
  refine Prog.uses_bind (Prog.uses_perform (h.keeps readOnly_readOverrides.keepsControl)) ?_
  intro _
  refine Prog.uses_bind (Prog.uses_perform (h.keeps readOnly_loadAppliedState.keepsControl)) ?_
  intro _
  dsimp only
  split
  · trivial
  · exact Prog.uses_bind (applyReconcile_uses h settings nowMs _ _ _ _) fun _ => trivial

end Uses

/-! ## A rule for runs -/

section Rule
variable [DecidableEq D] (canonical : Canonical D) (limits : ControlLimits)
  (settings : AgentSettings) (mode : ControlMode)

/-- The arguments of a reconcile. -/
structure ReconcileCall (D : Type) where
  snapshot : DesiredSnapshot D
  observe : Bool
  nowMs : Nat

def ReconcileCall.run (c : ReconcileCall D) : AgentProg D ReconcileResult :=
  reconcileSnapshot settings c.snapshot c.observe c.nowMs

/-- The condition of a run: every reconcile is entered where `C` holds. -/
abbrev Entered (settings : AgentSettings) (C : ReconcileCall D → Agent D → Prop)
    (p : AgentProg D LoopVars) (w : Agent D) : Prop :=
  Prog.Checked (ReconcileCall.run settings) C p w

/-- What one has to know of a node to follow a run of it: an invariant, what the conditions at
the entry of each reconcile give, and that a reconcile keeps the invariant then. -/
structure ReconcileRule (C : ReconcileCall D → Agent D → Prop) (G : Agent D → Agent D → Prop) where
  Inv : Agent D → Prop
  Accepts : DesiredSnapshot D → Prop
  inv_same : ∀ {w w'}, SameControl w w' → Inv w → Inv w'
  guarantee_same : ∀ {w w'}, SameControl w w' → G w w'
  accepts_sync : ∀ {answers pageAnswers snapshot},
    syncSnapshot canonical limits answers pageAnswers = .ok (some snapshot) → Accepts snapshot
  accepts_cached : ∀ {w} {state : AppliedState D} {digest}, Inv w → w.applied = some state →
    state.digest = some digest →
    Accepts ⟨state.schemaVersion, state.generation, digest, state.items⟩
  reconcile : ∀ {c w}, Inv w → Accepts c.snapshot → C c w →
    (c.run settings).wp (agentSem D) Eq (fun a b => G a b ∧ (Inv a → Inv b))
      (fun _ => Inv) (fun _ => Inv) w

variable {canonical limits settings mode} {C : ReconcileCall D → Agent D → Prop}
  {G : Agent D → Agent D → Prop} (rule : ReconcileRule canonical limits settings C G)

def ReconcileRule.Guarantee (w w' : Agent D) : Prop := G w w' ∧ (rule.Inv w → rule.Inv w')

/-- What remains of a run that has kept the invariant so far. -/
def ReconcileRule.SafeAt (p : AgentProg D α) (w : Agent D) : Prop :=
  p.wpChecked (agentSem D) (ReconcileCall.run settings) C rule.Guarantee (fun _ => rule.Inv)
    (fun _ => rule.Inv) w

/-- A program of a node that keeps the invariant, run where the conditions hold. -/
def ReconcileRule.Safe (p : AgentProg D α) : Prop := ∀ w, rule.Inv w → rule.SafeAt p w

namespace ReconcileRule

theorem guarantee_of_same (h : SameControl w w') : rule.Guarantee w w' :=
  ⟨rule.guarantee_same h, rule.inv_same h⟩

theorem safe_keeps {p : AgentProg D α} (h : p.Uses KeepsControl) : rule.Safe p := by
  intro w hw
  refine Prog.wpChecked_of_wp (Prog.wp_of_uses h ?_ hw)
  intro β s hs f w b w' hi hsem
  obtain ⟨rfl, rfl⟩ := agentSem_some.1 hsem
  exact ⟨rule.guarantee_of_same (hs f w), rule.inv_same (hs f w) hi⟩

theorem safe_bind {p : AgentProg D α} {f : α → AgentProg D β} (hp : rule.Safe p)
    (hf : ∀ a, rule.Safe (f a)) : rule.Safe (p.bind f) := fun w hw =>
  Prog.wpChecked_bind (Prog.wpChecked_post (hp w hw) (fun a w' hw' => hf a w' hw') fun _ _ h => h)

theorem safe_attempt {p : AgentProg D α} (hp : rule.Safe p) : rule.Safe p.attempt :=
  fun w hw => Prog.wpChecked_attempt (hp w hw)

theorem safe_ret (a : α) : rule.Safe (.ret a) := fun _ hw => hw

theorem safe_reconcile {c : ReconcileCall D} (h : rule.Accepts c.snapshot) :
    rule.Safe (c.run settings) := fun _ hw =>
  Prog.wpChecked_enter c rfl fun hc => Prog.wpChecked_of_wp (rule.reconcile hw h hc)

theorem safe_cached (nowMs : Nat) : rule.Safe (reconcileCachedState settings mode nowMs) := by
  unfold reconcileCachedState
  split
  · exact rule.safe_ret _
  refine rule.safe_bind
    (rule.safe_keeps (Prog.uses_performOrRaise readOnly_loadPendingRevocations.keepsControl)) ?_
  intro pending
  split
  · exact rule.safe_ret _
  -- what is replayed is the applied state or nothing
  intro w hw _ f b w' hs
  obtain ⟨rfl, rfl⟩ := agentSem_some.1 hs
  refine ⟨rule.guarantee_of_same (readOnly_loadAppliedState.keepsControl f w), ?_⟩
  have hw' := rule.inv_same (readOnly_loadAppliedState.keepsControl f w) hw
  simp only [Prog.bind]
  cases hd : (loadAppliedState f w).1.digest with
  | none => exact hw'
  | some digest =>
    simp only
    split
    · exact hw'
    · have happlied : w.applied = some (loadAppliedState f w).1 := by
        cases f with
        | ok =>
          cases ha : w.applied with
          | none => simp [loadAppliedState, ha, AppliedState.initial] at hd
          | some state => simp [loadAppliedState, ha]
        | fail => simp [loadAppliedState, AppliedState.initial] at hd
        | lost => simp [loadAppliedState, AppliedState.initial] at hd
      have haccept := rule.accepts_cached hw happlied hd
      exact rule.safe_bind (rule.safe_reconcile (c := ⟨_, false, nowMs⟩) haccept)
        (fun _ => rule.safe_ret _) _ hw'

theorem safe_ofExcept (x : Except AgentError α) : rule.Safe (.ofExcept x) := by
  intro w hw
  cases x with
  | ok a => exact hw
  | error e => exact hw

theorem safe_whenever {c : Prop} [Decidable c] {p : AgentProg D Unit} (hp : rule.Safe p) :
    rule.Safe (Prog.whenever c p) := by
  unfold Prog.whenever
  split
  · exact hp
  · exact rule.safe_ret ()

theorem safe_poll (poll : Poll D) :
    rule.Safe (pollControl settings (scriptedApi canonical limits poll) mode poll.clock) := by
  unfold pollControl
  refine rule.safe_bind
    (rule.safe_keeps (Prog.uses_perform readOnly_loadAppliedState.keepsControl)) ?_
  intro applied
  simp only [scriptedApi, Prog.hoist_self]
  cases hs : syncSnapshot canonical limits poll.answers poll.pageAnswers with
  | error e => exact fun w hw => hw
  | ok answer =>
    refine rule.safe_bind (f := fun result => buildTelemetry result) ?_ fun result =>
      rule.safe_keeps (buildTelemetry_keeps result)
    cases answer with
    | none => exact rule.safe_cached _
    | some snapshot =>
      refine rule.safe_bind (rule.safe_reconcile
        (c := ⟨snapshot, decide (mode = .observe), poll.clock.snapshot⟩)
        (rule.accepts_sync hs)) fun result => ?_
      exact rule.safe_bind (rule.safe_whenever (rule.safe_ofExcept _)) fun _ => rule.safe_ret _

theorem safe_report (poll : Poll D) (vars : LoopVars) (payload : Telemetry D) :
    rule.Safe (reportTelemetry (scriptedApi canonical limits poll) vars payload) := by
  refine rule.safe_bind (rule.safe_whenever (rule.safe_keeps ?_)) fun _ => rule.safe_ofExcept _
  exact Prog.uses_performOrRaise (keepsControl_saveTelemetrySequence _)

theorem safe_iteration (poll : Poll D) (vars : LoopVars) :
    rule.Safe (controlIteration settings (scriptedApi canonical limits poll) mode poll.clock
      vars) := by
  refine rule.safe_bind (rule.safe_attempt (rule.safe_poll poll)) fun polled => ?_
  refine rule.safe_bind ?_ fun sent => ?_
  · cases polled with
    | error e => exact rule.safe_ret _
    | ok payload =>
      exact rule.safe_bind (rule.safe_attempt (rule.safe_report poll vars payload))
        fun _ => rule.safe_ret _
  · obtain ⟨vars, sent⟩ := sent
    cases sent with
    | ok _ => exact rule.safe_ret _
    | error e =>
      simp only [scriptedApi, Prog.hoist_self]
      exact rule.safe_bind (rule.safe_attempt (rule.safe_cached _)) fun _ => rule.safe_ret _

theorem safe_loop (polls : List (Poll D)) (vars : LoopVars) :
    rule.Safe (polls.foldlM (fun vars poll => controlIteration settings
      (scriptedApi canonical limits poll) mode poll.clock vars) vars) := by
  induction polls generalizing vars with
  | nil => exact rule.safe_ret _
  | cons poll polls ih =>
    rw [List.foldlM_cons]
    exact rule.safe_bind (rule.safe_iteration poll vars) ih

theorem safe_process (polls : List (Poll D)) :
    rule.Safe (agentProcess canonical limits settings mode polls) := by
  refine rule.safe_bind
    (rule.safe_keeps (Prog.uses_performOrRaise readOnly_getXrayConfig.keepsControl)) ?_
  intro config
  refine rule.safe_bind
    (rule.safe_keeps (Prog.uses_perform (keepsControl_refreshFromConfig _))) fun _ => ?_
  refine rule.safe_bind (rule.safe_keeps (retryPendingRevocations_keeps _ _)) fun _ => ?_
  unfold controlLoop
  split
  · exact rule.safe_ret _
  · exact rule.safe_bind
      (rule.safe_keeps (Prog.uses_perform readOnly_loadTelemetrySequence.keepsControl))
      fun sequence => rule.safe_loop polls _

theorem step (hi : rule.Inv s.2) (h : rule.SafeAt s.1 s.2)
    (hs : AgentStep canonical limits settings mode (Entered settings C) s s') :
    G s.2 s'.2 ∧ rule.Inv s'.2 ∧ rule.SafeAt s'.1 s'.2 := by
  cases hs with
  | step f hc =>
    obtain ⟨hg, h'⟩ := Prog.wpChecked_step h hc (fun w => rule.guarantee_of_same (.refl w)) f
    exact ⟨hg.1, hg.2 hi, h'⟩
  | crash polls =>
    have hi' := rule.inv_same (.restart _) hi
    exact ⟨rule.guarantee_same (.restart _), hi', rule.safe_process polls _ hi'⟩

theorem run (h₀ : rule.Inv w₀)
    (h : AgentRun canonical limits settings mode (Entered settings C) w₀ s) :
    rule.Inv s.2 ∧ rule.SafeAt s.1 s.2 := by
  obtain ⟨polls, h⟩ := h
  induction h with
  | refl =>
    have hi := rule.inv_same (.restart _) h₀
    exact ⟨hi, rule.safe_process polls _ hi⟩
  | tail _ hs ih => exact (rule.step ih.1 ih.2 hs).2

/-- A guarantee that composes holds between any two states of such a run. -/
theorem run_between (hrefl : ∀ w, G w w) (htrans : ∀ a b c, G a b → G b c → G a c)
    (h₀ : rule.Inv w₀) (h : AgentRun canonical limits settings mode (Entered settings C) w₀ s)
    (hs : Relation.ReflTransGen (AgentStep canonical limits settings mode (Entered settings C))
      s s') : G s.2 s'.2 := by
  obtain ⟨hi, hsafe⟩ := rule.run h₀ h
  have hall : G s.2 s'.2 ∧ rule.Inv s'.2 ∧ rule.SafeAt s'.1 s'.2 := by
    induction hs with
    | refl => exact ⟨hrefl _, hi, hsafe⟩
    | tail _ hstep ih =>
      obtain ⟨hg, h'⟩ := rule.step ih.2.1 ih.2.2 hstep
      exact ⟨htrans _ _ _ ih.1 hg, h'⟩
  exact hall.1

end ReconcileRule

end Rule

end AegisVPN
