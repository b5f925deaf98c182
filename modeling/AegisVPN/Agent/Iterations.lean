import AegisVPN.Agent.ReconcileExact

namespace AegisVPN
open Library
set_option autoImplicit true

/-! ## The applied state over one iteration -/

/-- The applied state, as the agent loads it. -/
def Agent.appliedState (w : Agent D) : AppliedState D := w.applied.getD .initial

/-- The state is that of a snapshot. -/
def AppliedState.Of (snapshot : DesiredSnapshot D) (state : AppliedState D) : Prop :=
  state.generation = snapshot.generation ∧ state.digest = some snapshot.digest

/-- The applied state is the same, or that of a snapshot. -/
def AppliedOr (snapshot : DesiredSnapshot D) (w w' : Agent D) : Prop :=
  w'.applied = w.applied ∨ w'.appliedState.Of snapshot

/-- What the control plane is told about the applied state is the same. -/
def SameReport (w w' : Agent D) : Prop :=
  w'.appliedState.generation = w.appliedState.generation ∧
    w'.appliedState.digest = w.appliedState.digest

theorem SameReport.refl (w : Agent D) : SameReport w w := ⟨rfl, rfl⟩

theorem SameReport.trans (h : SameReport w₁ w₂) (h' : SameReport w₂ w₃) : SameReport w₁ w₃ :=
  ⟨h'.1.trans h.1, h'.2.trans h.2⟩

theorem SameReport.of_applied {w w' : Agent D} (h : w'.applied = w.applied) : SameReport w w' := by
  rw [SameReport, Agent.appliedState, Agent.appliedState, h]
  exact ⟨rfl, rfl⟩

section Reconcile
variable [DecidableEq D] {settings : AgentSettings} {snapshot : DesiredSnapshot D}
  {w w' : Agent D} {nowMs : Nat}

omit [DecidableEq D] in
theorem AppliedOr.trans (h : AppliedOr snapshot w₁ w₂) (h' : AppliedOr snapshot w₂ w₃) :
    AppliedOr snapshot w₁ w₃ := by
  rcases h' with hsame | hof
  · rcases h with hsame' | hof
    · exact .inl (hsame.trans hsame')
    · rw [AppliedOr, Agent.appliedState, hsame]
      exact .inr hof
  · exact .inr hof

theorem reconcileSnapshot_appliedOr (observe : Bool) :
    AppliedOr snapshot w (runOk (reconcileSnapshot settings snapshot observe nowMs) w).2 := by
  refine Prog.run_of_uses (P := fun s => ∀ f w, AppliedOr snapshot w (s f w).2)
    (reconcileSnapshot_uses ?_ settings observe nowMs) (fun w => .inl rfl)
    (fun _ _ _ h h' => h.trans h') fun s hs w => hs .ok w
  refine ⟨fun h f w => .inl (h f w).applied, fun config f w => ?_, fun tag email f w => ?_,
    fun inbound record f w => ?_, fun f w => ?_, fun f w => ?_⟩
  · cases f <;> exact .inl rfl
  · cases f <;> exact .inl rfl
  · unfold xrayApiAdd
    split
    · split
      · cases f <;> exact .inl rfl
      · exact .inl rfl
    · exact .inl rfl
  · exact .inl (by rw [hardReload_changes])
  · cases f with
    | ok => exact .inr ⟨rfl, rfl⟩
    | fail => exact .inl rfl
    | lost => exact .inr ⟨rfl, rfl⟩

omit [DecidableEq D] in
theorem applyReconcile_saved {cascaded : XrayConfig} {pending : Finset String}
    {overrideChanged : Bool}
    (h : runOk (applyReconcile settings snapshot nowMs config cascaded pending overrideChanged) w =
      (.ok u, w')) : w'.appliedState.Of snapshot := by
  simp only [applyReconcile, Prog.bind_eq] at h
  obtain ⟨_, _, _, h⟩ := runOk_bind_inv h
  obtain ⟨_, _, _, h⟩ := runOk_bind_inv h
  obtain ⟨_, _, _, h⟩ := runOk_bind_inv h
  obtain ⟨_, _, _, h⟩ := runOk_bind_inv h
  obtain ⟨_, _, _, h⟩ := runOk_bind_inv h
  obtain ⟨_, w₁, _, h⟩ := runOk_bind_inv h
  rw [runOk_performOrRaise, saveAppliedState, replaceFile] at h
  obtain rfl := congrArg Prod.snd h
  exact ⟨rfl, rfl⟩

theorem reconcileSnapshot_saved
    (h : runOk (reconcileSnapshot settings snapshot false nowMs) w = (.ok r, w')) :
    w'.appliedState.Of snapshot := by
  simp only [reconcileSnapshot, Prog.bind_eq] at h
  obtain ⟨config, w₁, _, h⟩ := runOk_bind_inv h
  obtain ⟨pending, w₂, _, h⟩ := runOk_bind_inv h
  obtain ⟨cascaded, w₃, _, h⟩ := runOk_bind_inv h
  obtain ⟨overrides, w₄, _, h⟩ := runOk_bind_inv h
  obtain ⟨previous, w₅, hprevious, h⟩ := runOk_bind_inv h
  rw [runOk_perform] at hprevious
  cases hprevious
  split at h
  · -- what has been found in place includes the applied state
    rename_i hunchanged
    cases h
    simp only [Bool.false_or, Bool.not_eq_true', Bool.or_eq_false_iff, decide_eq_false_iff_not,
      not_or, not_not] at hunchanged
    obtain ⟨⟨_, hstate⟩, _⟩ := hunchanged
    exact ⟨hstate.1, hstate.2.1⟩
  · obtain ⟨_, w₆, happly, h⟩ := runOk_bind_inv h
    cases h
    exact applyReconcile_saved happly

omit [DecidableEq D] in
theorem runOk_bind_ret (p : AgentProg D α) (g : α → β) (w : Agent D) :
    (runOk (p.bind fun a => .ret (g a)) w).2 = (runOk p w).2 := by
  cases hp : runOk p w with
  | mk r w₁ =>
    cases r with
    | ok a => rw [runOk_bind_ok _ hp, runOk_ret]
    | error e => rw [runOk_bind_error _ hp]

/-- Replaying the applied state keeps what is told about it. -/
theorem reconcileCachedState_sameReport (mode : ControlMode) (nowMs : Nat) (w : Agent D) :
    SameReport w (runOk (reconcileCachedState settings mode nowMs) w).2 := by
  unfold reconcileCachedState
  split
  · exact .refl w
  rw [Prog.bind_eq]
  have hload : (runOk (.performOrRaise loadPendingRevocations) w).2 = w := by
    rw [runOk_performOrRaise]
    exact readOnly_loadPendingRevocations .ok w
  cases hpending : runOk (.performOrRaise loadPendingRevocations) w with
  | mk r w₁ =>
    rw [hpending] at hload
    obtain rfl : w₁ = w := hload
    cases r with
    | error e =>
      rw [runOk_bind_error _ hpending]
      exact .refl w₁
    | ok pending =>
      rw [runOk_bind_ok _ hpending]
      split
      · exact .refl w₁
      rw [Prog.bind_eq, runOk_bind_ok _ (runOk_perform _ _)]
      have happlied : loadAppliedState .ok w₁ = (w₁.appliedState, w₁) := rfl
      simp only [happlied]
      cases hdigest : w₁.appliedState.digest with
      | none => exact .refl w₁
      | some digest =>
        simp only
        split
        · exact .refl w₁
        rw [Prog.bind_eq, runOk_bind_ret]
        -- what is replayed is the applied state
        have hwritten : AppliedOr ⟨w₁.appliedState.schemaVersion, w₁.appliedState.generation,
            digest, w₁.appliedState.items⟩ w₁ (runOk (reconcileSnapshot settings
              ⟨w₁.appliedState.schemaVersion, w₁.appliedState.generation, digest,
                w₁.appliedState.items⟩ false nowMs) w₁).2 := reconcileSnapshot_appliedOr false
        rcases hwritten with hsame | ⟨hgeneration, hdigest'⟩
        · exact .of_applied hsame
        · exact ⟨hgeneration, hdigest'.trans hdigest.symm⟩

end Reconcile

section Iteration
variable [DecidableEq D] {canonical : Canonical D} {limits : ControlLimits}
  {settings : AgentSettings} {poll : Poll D} {w w' : Agent D} {vars vars' : LoopVars}

omit [DecidableEq D] in
theorem reserve_sequence (vars : LoopVars) : vars.reserve.sequence = vars.sequence := by
  rw [LoopVars.reserve]
  split <;> rfl

theorem iteration_sameReport (ha : poll.answer canonical limits = .ok none)
    (htelemetry : requestOk "control telemetry" poll.telemetryAnswers = .ok ())
    (h : runOk (controlIteration settings (scriptedApi canonical limits poll) .apply poll.clock
      vars) w = (.ok vars', w')) : SameReport w w' := by
  have hcached : SameReport w
      (runOk (reconcileCachedState settings .apply poll.clock.cached) w).2 :=
    reconcileCachedState_sameReport .apply poll.clock.cached w
  cases hrun : runOk (reconcileCachedState settings .apply poll.clock.cached) w with
  | mk r w₁ =>
    rw [hrun] at hcached
    cases r with
    | error e =>
      have hpolled : runOk (pollControl settings (scriptedApi canonical limits poll) .apply
          poll.clock) w = (.error e, w₁) := by
        rw [pollControl_none ha, runOk_bind_error _ hrun]
      rw [iteration_failed vars hpolled] at h
      cases h
      exact hcached.trans (reconcileCachedState_sameReport .apply poll.clock.retry w₁)
    | ok result =>
      obtain ⟨payload, hpayload⟩ := runOk_buildTelemetry result w₁
      have hpolled : runOk (pollControl settings (scriptedApi canonical limits poll) .apply
          poll.clock) w = (.ok payload, w₁) := by
        rw [pollControl_none ha, runOk_bind_ok _ hrun, hpayload]
      obtain ⟨n, hn⟩ := iteration_reported vars htelemetry hpolled
      rw [hn] at h
      cases h
      exact hcached.trans (.of_applied rfl)

theorem iteration_polled
    (h : runOk (controlIteration settings (scriptedApi canonical limits poll) .apply poll.clock
      vars) w = (.ok vars', w')) (hsuccess : vars'.sequence = vars.sequence + 1) :
    ∃ payload w₁, runOk (pollControl settings (scriptedApi canonical limits poll) .apply
      poll.clock) w = (.ok payload, w₁) := by
  cases hrun : runOk (pollControl settings (scriptedApi canonical limits poll) .apply
      poll.clock) w with
  | mk r w₁ =>
    cases r with
    | ok payload => exact ⟨payload, w₁, rfl⟩
    | error e =>
      rw [iteration_failed vars hrun] at h
      cases h
      omega

theorem iteration_saved (ha : poll.answer canonical limits = .ok (some snapshot))
    (htelemetry : requestOk "control telemetry" poll.telemetryAnswers = .ok ())
    (h : runOk (controlIteration settings (scriptedApi canonical limits poll) .apply poll.clock
      vars) w = (.ok vars', w')) (hsuccess : vars'.sequence = vars.sequence + 1) :
    w'.appliedState.Of snapshot := by
  obtain ⟨payload, w₁, hpolled⟩ := iteration_polled h hsuccess
  obtain ⟨n, hn⟩ := iteration_reported vars htelemetry hpolled
  rw [hn] at h
  cases h
  rw [pollControl_some ha] at hpolled
  obtain ⟨result, w₂, hresult, hbuild⟩ := runOk_bind_inv hpolled
  obtain ⟨_, hbuilt⟩ := runOk_buildTelemetry result w₂
  obtain rfl : w₂ = w₁ := congrArg Prod.snd (hbuilt.symm.trans hbuild)
  obtain ⟨r, w₃, hreconcile, hack⟩ := runOk_bind_inv hresult
  obtain ⟨_, w₄, hacked, hret⟩ := runOk_bind_inv hack
  cases hret
  rw [runOk_whenever, runOk_ofExcept] at hacked
  have hsame : w₂ = w₃ := by
    split at hacked
    · exact (congrArg Prod.snd hacked).symm
    · exact (congrArg Prod.snd hacked).symm
  have hsaved := reconcileSnapshot_saved hreconcile
  rw [← hsame] at hsaved
  exact hsaved

omit [DecidableEq D] in
theorem Readable.eq_of (x y : Readable snapshot w) : x = y := by
  obtain ⟨p, c, hp, hc⟩ := x
  obtain ⟨p', c', hp', hc'⟩ := y
  rw [hp] at hp'
  rw [hc] at hc'
  cases hp'
  cases hc'
  rfl

/-- An iteration with a snapshot that the node can reconcile succeeds. -/
theorem iteration_reconciles (ha : poll.answer canonical limits = .ok (some snapshot))
    (hpoll : poll.Accepted) (x : Readable snapshot w)
    (hload : Loadable (x.desired poll.clock.snapshot))
    (h : runOk (controlIteration settings (scriptedApi canonical limits poll) .apply poll.clock
      vars) w = (.ok vars', w')) : vars'.sequence = vars.sequence + 1 := by
  rcases runOk_of_in (reconcileSnapshot_in settings snapshot poll.clock.snapshot w) with
    ⟨r, w₁, hrun, _⟩ | ⟨e, w₁, _, hfault | ⟨_, hx⟩ | ⟨y, _, hl⟩⟩
  · obtain ⟨payload, hpayload⟩ := pollControl_reconciled ha hpoll hrun
    obtain ⟨n, hn⟩ := iteration_reported vars hpoll.telemetry hpayload
    rw [hn] at h
    cases h
    exact congrArg (· + 1) (reserve_sequence vars)
  · exact absurd hfault not_faulty_ok
  · exact hx.elim x
  · rw [y.eq_of x] at hl
    exact absurd hload hl

theorem observe_iteration_uses (vars : LoopVars) :
    (controlIteration settings (scriptedApi canonical limits poll) .observe poll.clock vars).Uses
      KeepsControl := by
  have hcached : ∀ nowMs, (reconcileCachedState settings .observe nowMs (D := D)).Uses
      KeepsControl := fun nowMs => by
    rw [reconcileCachedState, if_pos (by decide)]
    trivial
  have hreads : ∀ {β : Type} {s : AgentAct D β}, ReadOnly s → KeepsControl s := by
    intro β s hs f w
    rw [hs f w]
    exact .refl w
  refine Prog.uses_bind (Prog.uses_attempt ?_) fun polled => Prog.uses_bind ?_ fun sent => ?_
  · refine Prog.uses_bind (Prog.uses_perform readOnly_loadAppliedState.keepsControl) ?_
    intro applied
    refine Prog.uses_bind (Prog.uses_ofExcept _) fun answer => ?_
    refine Prog.uses_bind ?_ fun result => ?_
    · cases answer with
      | none => exact (Prog.hoist_self _).symm ▸ hcached _
      | some snapshot =>
        refine Prog.uses_bind ?_ fun _ => Prog.uses_bind (Prog.uses_whenever fun _ =>
          Prog.uses_ofExcept _) fun _ => trivial
        exact (Prog.hoist_self _).symm ▸
          Prog.uses_mono (observe_readOnly settings snapshot _) hreads
    · exact (Prog.hoist_self _).symm ▸ buildTelemetry_keeps result
  · cases polled with
    | error e => trivial
    | ok payload =>
      refine Prog.uses_bind (Prog.uses_attempt ?_) fun _ => trivial
      refine Prog.uses_bind (Prog.uses_whenever fun _ => ?_) fun _ => Prog.uses_ofExcept _
      exact Prog.uses_performOrRaise (keepsControl_saveTelemetrySequence _)
  · obtain ⟨vars, sent⟩ := sent
    cases sent with
    | ok _ => trivial
    | error _ =>
      refine Prog.uses_bind (Prog.uses_attempt ?_) fun _ => trivial
      exact (Prog.hoist_self _).symm ▸ hcached _

theorem observe_iteration_sameReport
    (h : runOk (controlIteration settings (scriptedApi canonical limits poll) .observe poll.clock
      vars) w = (.ok vars', w')) : SameReport w w' := by
  have hsame : SameControl w (runOk (controlIteration settings
      (scriptedApi canonical limits poll) .observe poll.clock vars) w).2 :=
    Prog.run_of_uses (observe_iteration_uses vars) .refl (fun _ _ _ h h' => h.trans h')
      fun s hs w => hs .ok w
  rw [h] at hsame
  exact .of_applied hsame.applied

end Iteration

end AegisVPN
