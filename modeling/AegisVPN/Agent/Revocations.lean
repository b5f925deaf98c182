import AegisVPN.Agent.ReconcileSpec

namespace AegisVPN
open Library
set_option autoImplicit true

def JournalFile.Holds (j : JournalFile) (email : String) : Prop :=
  ∃ es, j = .emails es ∧ email ∈ es

theorem JournalFile.mem_read {j : JournalFile} (h : j.read = .ok es) :
    email ∈ es ↔ j.Holds email := by
  cases j with
  | missing =>
    cases h
    simp [Holds]
  | invalid => cases h
  | emails es' =>
    cases h
    simp [Holds]

/-! ## Sessions -/

def desiredUuids (items : List DesiredItem) (nowMs : Nat) : List String :=
  (desiredClients items nowMs).map DesiredClient.uuid

theorem mem_revocations : email ∈ revocations items nowMs config pending ↔
    email ∉ desiredEmails items nowMs ∧ (email ∈ pending ∨ FileNames config email) := by
  simp only [revocations, Finset.mem_union, Finset.mem_sdiff]
  constructor
  · rintro (⟨hp, hd⟩ | ⟨hr, hd⟩)
    · exact ⟨hd, .inl hp⟩
    · rw [List.mem_toFinset] at hr
      rw [desiredEmails, List.mem_toFinset] at hd
      exact ⟨by rwa [desiredEmails, List.mem_toFinset], .inr ((mem_removedEmails hd).1 hr)⟩
  · rintro ⟨hd, hp | hf⟩
    · exact .inl ⟨hp, hd⟩
    · refine .inr ⟨?_, hd⟩
      rw [desiredEmails, List.mem_toFinset] at hd
      exact List.mem_toFinset.2 ((mem_removedEmails hd).2 hf)

section Sessions
variable [DecidableEq D] {settings : AgentSettings} {snapshot : DesiredSnapshot D} {nowMs : Nat}
  {w w' : Agent D} {r : ReconcileResult}

omit [DecidableEq D] in
/-- What a triple that allows every fate says about a run that has returned. -/
theorem returned_of_in {p : AgentProg D α} {Q : α → Agent D → Prop}
    {X : AgentError → Agent D → Prop} {fates : List Fate}
    (hwp : p.wp (agentSemIn D fun _ => True) Eq anyChange Q X w)
    (h : p.advance (agentSem D) fates w = (.ret a, w')) : Q a w' := by
  have hany : ∀ {β : Type} (s : AgentAct D β) (f : Fate) w r, agentSem D s f w = some r →
      ∃ f', agentSemIn D (fun _ => True) s f' w = some r := fun s f w r hs =>
    ⟨f, by simpa [agentSemIn] using hs⟩
  exact Prog.wp_returned (Prog.wp_choices hwp hany) h

theorem reconcile_returned {fates : List Fate}
    (h : (reconcileSnapshot settings snapshot false nowMs).advance (agentSem D) fates w =
      (.ret r, w')) : ∃ x : Readable snapshot w,
        w'.hy2Sessions = sessionsAfter settings (x.revoked nowMs) w.hy2Sessions := by
  obtain ⟨_, x, _, _, hsessions⟩ :=
    returned_of_in (reconcileSnapshot_in settings snapshot nowMs w) h
  exact ⟨x, hsessions⟩

/-- What makes a reconcile close the sessions of an email: it is authorized no more, and either
the journal or a record of the file names it. -/
def SessionEnds (settings : AgentSettings) (snapshot : DesiredSnapshot D) (nowMs : Nat)
    (w : Agent D) (email : String) : Prop :=
  settings.hy2Enabled = true ∧ email ∉ desiredEmails snapshot.items nowMs ∧
    (w.journal.Holds email ∨ FileNames w.config email)

/-- After a reconcile every live session has a desired UUID, exactly if each session that had
another one is ended by its email. -/
theorem revoked_sessions_end {fates : List Fate}
    (h : (reconcileSnapshot settings snapshot false nowMs).advance (agentSem D) fates w =
      (.ret r, w')) :
    (∀ s ∈ w'.hy2Sessions, s.1 ∈ desiredUuids snapshot.items nowMs) ↔
      ∀ s ∈ w.hy2Sessions, s.1 ∉ desiredUuids snapshot.items nowMs →
        SessionEnds settings snapshot nowMs w s.2 := by
  obtain ⟨x, hsessions⟩ := reconcile_returned h
  have hmem : ∀ s, s ∈ w'.hy2Sessions ↔ s ∈ w.hy2Sessions ∧
      ¬ SessionEnds settings snapshot nowMs w s.2 := by
    intro s
    rw [hsessions, sessionsAfter, SessionEnds, ← JournalFile.mem_read x.journal,
      ← mem_revocations]
    by_cases hon : settings.hy2Enabled = true
    · simp only [hon, ↓reduceIte, List.mem_filter, true_and, Readable.revoked]
      exact and_congr_right fun _ => decide_eq_true_iff
    · simp [hon]
  constructor
  · intro hall s hs hu
    by_contra hend
    exact hu (hall s ((hmem s).2 ⟨hs, hend⟩))
  · intro hall s hs
    obtain ⟨hs, hend⟩ := (hmem s).1 hs
    by_contra hu
    exact hend (hall s hs hu)

end Sessions

/-- A node that serves one client, with a session of that client. -/
def sessionNode : Agent (List DesiredItem) :=
  { nodeAt 1 servedConfig oneClient with
    hy2Clients := hy2Mapping servedConfig
    hy2Sessions := [("u1", "user_1")] }

/-- The node after a reconcile in which everything works. -/
def sessionNodeAfter (items : List DesiredItem) :
    AgentProg (List DesiredItem) ReconcileResult × Agent (List DesiredItem) :=
  (reconcileSnapshot liveSettings ⟨1, 2, items, items⟩ false 0).advance (agentSem _)
    (List.replicate 20 .ok) sessionNode

/-- The session of a client that is gone is closed. -/
theorem revoked_sessions_end_removed :
    sessionNode.hy2Sessions ≠ [] ∧ ∀ s ∈ (sessionNodeAfter limitOnly).2.hy2Sessions,
      s.1 ∈ desiredUuids limitOnly 0 := by
  have hret : (sessionNodeAfter limitOnly).1 = .ret ⟨true, true, false, 0, 1⟩ :=
    Prog.eq_ret_of_returned (by decide +kernel)
  refine ⟨by decide, (revoked_sessions_end (Prod.ext hret rfl)).2 fun s hs _ => ?_⟩
  obtain rfl := List.mem_singleton.1 hs
  refine ⟨rfl, by decide, .inr ?_⟩
  unfold FileNames
  decide

/-- The UUID of a client is rotated, and the session it had under the old one lives on. -/
theorem rotated_session_survives :
    (sessionNodeAfter [.client ⟨"u2", "user_1", 1000⟩]).1.returned =
        some ⟨true, true, false, 1, 1⟩ ∧
      ∃ s ∈ (sessionNodeAfter [.client ⟨"u2", "user_1", 1000⟩]).2.hy2Sessions,
        s.1 ∉ desiredUuids [.client ⟨"u2", "user_1", 1000⟩] 0 := by
  decide +kernel

/-! ## Iterations in which everything works -/

/-- Run a program of the node where every operation works. -/
def runOk (p : AgentProg D α) (w : Agent D) : Except AgentError α × Agent D :=
  p.run (fun s w => s .ok w) w

theorem runOk_bind_ok {p : AgentProg D α} (f : α → AgentProg D β) (h : runOk p w = (.ok a, w')) :
    runOk (p.bind f) w = runOk (f a) w' := Prog.run_bind_ok _ f h

theorem runOk_bind_inv {p : AgentProg D α} {f : α → AgentProg D β}
    (h : runOk (p.bind f) w = (.ok b, w')) :
    ∃ a w₁, runOk p w = (.ok a, w₁) ∧ runOk (f a) w₁ = (.ok b, w') := by
  cases hp : runOk p w with
  | mk r w₁ =>
    cases r with
    | ok a =>
      rw [runOk_bind_ok f hp] at h
      exact ⟨a, w₁, rfl, h⟩
    | error e =>
      have herror : runOk (p.bind f) w = (.error e, w₁) := Prog.run_bind_error _ f hp
      rw [herror] at h
      cases h

theorem runOk_bind_error {p : AgentProg D α} (f : α → AgentProg D β)
    (h : runOk p w = (.error e, w')) : runOk (p.bind f) w = (.error e, w') :=
  Prog.run_bind_error _ f h

@[simp] theorem runOk_perform (s : AgentAct D α) (w : Agent D) :
    runOk (.perform s) w = (.ok (s .ok w).1, (s .ok w).2) := Prog.run_perform _ s w

@[simp] theorem runOk_performOrRaise (s : AgentAct D (Except AgentError α)) (w : Agent D) :
    runOk (.performOrRaise s) w = s .ok w := Prog.run_performOrRaise _ s w

@[simp] theorem runOk_ofExcept (x : Except AgentError α) (w : Agent D) :
    runOk (.ofExcept x) w = (x, w) := Prog.run_ofExcept _ x w

@[simp] theorem runOk_attempt (p : AgentProg D α) (w : Agent D) :
    runOk p.attempt w = (.ok (runOk p w).1, (runOk p w).2) := Prog.run_attempt _ p w

@[simp] theorem runOk_ret (a : α) (w : Agent D) : runOk (.ret a) w = (.ok a, w) := rfl

theorem runOk_whenever (c : Prop) [Decidable c] (p : AgentProg D Unit) (w : Agent D) :
    runOk (.whenever c p) w = if c then runOk p w else (.ok (), w) := by
  by_cases hc : c <;> simp [Prog.whenever, hc]

/-- Such a run is one of those in which every fate is the good one. -/
theorem exists_advance_runOk (p : AgentProg D α) (w : Agent D) : ∃ n,
    p.advance (agentSem D) (List.replicate n .ok) w =
      (.ofExcept (runOk p w).1, (runOk p w).2) :=
  Prog.exists_advance (fun _ _ => rfl) p w

section Iteration
variable [DecidableEq D] (canonical : Canonical D) (limits : ControlLimits)
  (settings : AgentSettings)

/-- What the control plane answers to a poll. -/
def Poll.answer (poll : Poll D) : Except ControlError (Option (DesiredSnapshot D)) :=
  syncSnapshot canonical limits poll.answers poll.pageAnswers

/-- The node after one iteration of the loop in which every local operation works. -/
def Agent.afterIteration (poll : Poll D) (vars : LoopVars) (w : Agent D) : Agent D :=
  (runOk (controlIteration settings (scriptedApi canonical limits poll) .apply poll.clock vars)
    w).2

variable {canonical limits settings} {poll : Poll D} {w : Agent D}

omit [DecidableEq D] in
theorem runOk_buildTelemetry (result : Option ReconcileResult) (w : Agent D) :
    ∃ payload, runOk (buildTelemetry result) w = (.ok payload, w) := ⟨_, rfl⟩

theorem iteration_failed {mode : ControlMode} (vars : LoopVars)
    (h : runOk (pollControl settings (scriptedApi canonical limits poll) mode poll.clock) w =
      (.error e, w₁)) :
    runOk (controlIteration settings (scriptedApi canonical limits poll) mode poll.clock vars) w =
      (.ok vars, (runOk (reconcileCachedState settings mode poll.clock.retry) w₁).2) := by
  have hpolled : runOk (pollControl settings (scriptedApi canonical limits poll) mode
      poll.clock).attempt w = (.ok (.error e), w₁) := by rw [runOk_attempt, h]
  rw [controlIteration, Prog.bind_eq, runOk_bind_ok _ hpolled]
  simp only [scriptedApi, Prog.hoist_self, Prog.bind_eq]
  rw [runOk_bind_ok _ (runOk_ret _ _), runOk_bind_ok _ (runOk_attempt _ _), runOk_ret]

theorem afterIteration_failed (vars : LoopVars)
    (h : runOk (pollControl settings (scriptedApi canonical limits poll) .apply poll.clock) w =
      (.error e, w₁)) : w.afterIteration canonical limits settings poll vars =
        (runOk (reconcileCachedState settings .apply poll.clock.retry) w₁).2 := by
  rw [Agent.afterIteration, iteration_failed vars h]

/-- The acknowledgement and the telemetry of the poll are accepted. -/
structure Poll.Accepted (poll : Poll D) : Prop where
  ack : requestOk "control acknowledgement" poll.ackAnswers = .ok ()
  telemetry : requestOk "control telemetry" poll.telemetryAnswers = .ok ()

theorem iteration_reported {mode : ControlMode} (vars : LoopVars)
    (htelemetry : requestOk "control telemetry" poll.telemetryAnswers = .ok ())
    (h : runOk (pollControl settings (scriptedApi canonical limits poll) mode poll.clock) w =
      (.ok payload, w₁)) : ∃ n,
    runOk (controlIteration settings (scriptedApi canonical limits poll) mode poll.clock vars) w =
      (.ok { vars.reserve with sequence := vars.reserve.sequence + 1 },
        { w₁ with telemetrySequence := n }) := by
  have hpolled : runOk (pollControl settings (scriptedApi canonical limits poll) mode
      poll.clock).attempt w = (.ok (.ok payload), w₁) := by rw [runOk_attempt, h]
  have hreport : ∃ n, runOk (reportTelemetry (scriptedApi canonical limits poll) vars payload)
      w₁ = (.ok (), { w₁ with telemetrySequence := n }) := by
    simp only [reportTelemetry, scriptedApi, htelemetry, Prog.bind_eq]
    by_cases hreserve : vars.sequence + 1 > vars.reservedSequence
    · refine ⟨some vars.reserve.reservedSequence, ?_⟩
      rw [Prog.whenever, if_pos hreserve, runOk_bind_ok _ (runOk_performOrRaise _ _)]
      rfl
    · refine ⟨w₁.telemetrySequence, ?_⟩
      rw [Prog.whenever, if_neg hreserve, runOk_bind_ok _ (runOk_ret _ _)]
      rfl
  obtain ⟨n, hn⟩ := hreport
  have hsent : runOk (reportTelemetry (scriptedApi canonical limits poll) vars payload).attempt
      w₁ = (.ok (.ok ()), { w₁ with telemetrySequence := n }) := by rw [runOk_attempt, hn]
  refine ⟨n, ?_⟩
  rw [controlIteration, Prog.bind_eq, runOk_bind_ok _ hpolled]
  simp only [Prog.bind_eq, Prog.bind_assoc]
  rw [runOk_bind_ok _ hsent]
  rfl

theorem afterIteration_reported (vars : LoopVars) (hpoll : poll.Accepted)
    (h : runOk (pollControl settings (scriptedApi canonical limits poll) .apply poll.clock) w =
      (.ok payload, w₁)) : ∃ n, w.afterIteration canonical limits settings poll vars =
        { w₁ with telemetrySequence := n } := by
  obtain ⟨n, hn⟩ := iteration_reported vars hpoll.telemetry h
  exact ⟨n, congrArg Prod.snd hn⟩

theorem pollControl_error (h : poll.answer canonical limits = .error e) :
    runOk (pollControl settings (scriptedApi canonical limits poll) .apply poll.clock) w =
      (.error (.control e), w) := by
  rw [Poll.answer] at h
  simp only [pollControl, scriptedApi, h, Except.mapError, Prog.bind_eq]
  rw [runOk_bind_ok _ (runOk_perform _ _)]
  exact runOk_bind_error _ (runOk_ofExcept _ _)

theorem pollControl_none (h : poll.answer canonical limits = .ok none) :
    runOk (pollControl settings (scriptedApi canonical limits poll) .apply poll.clock) w =
      runOk ((reconcileCachedState settings .apply poll.clock.cached).bind
        fun result => buildTelemetry result) w := by
  rw [Poll.answer] at h
  simp only [pollControl, scriptedApi, h, Except.mapError, Prog.bind_eq, Prog.hoist_self]
  rw [runOk_bind_ok _ (runOk_perform _ _), runOk_bind_ok _ (runOk_ofExcept _ _)]
  rfl

theorem pollControl_some (h : poll.answer canonical limits = .ok (some snapshot)) :
    runOk (pollControl settings (scriptedApi canonical limits poll) .apply poll.clock) w =
      runOk (((reconcileSnapshot settings snapshot false poll.clock.snapshot).bind fun result =>
        (Prog.whenever (result.success = true) (.ofExcept
          ((requestOk "control acknowledgement" poll.ackAnswers).mapError .control))).bind
            fun _ => .ret (some result)).bind fun result => buildTelemetry result) w := by
  rw [Poll.answer] at h
  have hsync : (Except.ok (some snapshot)).mapError AgentError.control = .ok (some snapshot) := rfl
  simp only [pollControl, scriptedApi, h, hsync, Prog.bind_eq, Prog.hoist_self, true_and]
  rw [runOk_bind_ok _ (runOk_perform _ _), runOk_bind_ok _ (runOk_ofExcept _ _)]
  rfl

theorem pollControl_reconciled (h : poll.answer canonical limits = .ok (some snapshot))
    (hpoll : poll.Accepted)
    (hrun : runOk (reconcileSnapshot settings snapshot false poll.clock.snapshot) w =
      (.ok result, w₁)) : ∃ payload,
    runOk (pollControl settings (scriptedApi canonical limits poll) .apply poll.clock) w =
      (.ok payload, w₁) := by
  have hack : runOk (Prog.whenever (result.success = true) (.ofExcept
      ((requestOk "control acknowledgement" poll.ackAnswers).mapError .control))) w₁ =
        (.ok (), w₁) := by
    rw [hpoll.ack, runOk_whenever, runOk_ofExcept]
    exact ite_self _
  rw [pollControl_some h, Prog.bind_assoc, runOk_bind_ok _ hrun, Prog.bind_assoc,
    runOk_bind_ok _ hack, runOk_bind_ok _ (runOk_ret _ _)]
  exact runOk_buildTelemetry _ _

theorem runOk_cached_pending (hj : w.journal.read = .ok pending) (hp : pending ≠ ∅)
    (nowMs : Nat) : runOk (reconcileCachedState settings .apply nowMs) w = (.ok none, w) := by
  have hload : runOk (.performOrRaise loadPendingRevocations) w = (.ok pending, w) := by
    rw [runOk_performOrRaise, loadPendingRevocations, if_pos rfl, hj]
  simp only [reconcileCachedState, ne_eq, not_true_eq_false, ↓reduceIte, Prog.bind_eq]
  rw [runOk_bind_ok _ hload, if_pos hp, runOk_ret]

omit [DecidableEq D] in
theorem runOk_of_in {p : AgentProg D α} {Q : α → Agent D → Prop} {X : AgentError → Agent D → Prop}
    (h : p.wp (agentSemIn D (· = .ok)) Eq anyChange Q X w) :
    (∃ a w', runOk p w = (.ok a, w') ∧ Q a w') ∨ ∃ e w', runOk p w = (.error e, w') ∧ X e w' := by
  have hrun : (∀ a, (runOk p w).1 = .ok a → Q a (runOk p w).2) ∧
      ∀ e, (runOk p w).1 = .error e → X e (runOk p w).2 :=
    Prog.wp_run h (fun _ => rfl) fun _ _ => ⟨Fate.ok, if_pos rfl⟩
  obtain ⟨hQ, hX⟩ := hrun
  cases hr : (runOk p w).1 with
  | ok a => exact .inl ⟨a, _, Prod.ext hr rfl, hQ a hr⟩
  | error e => exact .inr ⟨e, _, Prod.ext hr rfl, hX e hr⟩

theorem not_faulty_ok : ¬ Faulty (· = .ok) := by
  rintro ⟨f, rfl, hf⟩
  exact hf rfl

/-! ## The journal over one iteration -/

/-- The emails that the desired state authorizes: that of the answer, or else the applied one. -/
def Poll.authorized (canonical : Canonical D) (limits : ControlLimits) (poll : Poll D)
    (w : Agent D) : Finset String :=
  match poll.answer canonical limits with
  | .ok (some snapshot) => desiredEmails snapshot.items poll.clock.snapshot
  | _ => desiredEmails (w.applied.getD .initial).items poll.clock.cached

/-- The journal is empty again, and no unauthorized email that it held has a session left. -/
def Drained (settings : AgentSettings) (authorized : Finset String) (w w' : Agent D) : Prop :=
  w'.journal.read = .ok ∅ ∧ (settings.hy2Enabled = true →
    ∀ s ∈ w'.hy2Sessions, w.journal.Holds s.2 → s.2 ∈ authorized)

/-- Xray comes up on the config that the answer asks for. -/
def XrayAccepts (canonical : Canonical D) (limits : ControlLimits) (poll : Poll D)
    (w : Agent D) : Prop :=
  ∀ snapshot, poll.answer canonical limits = .ok (some snapshot) →
    ∀ x : Readable snapshot w, Loadable (x.desired poll.clock.snapshot)

/-- An iteration in which everything works drains the journal exactly if the control plane
answers with a snapshot whose routes apply. -/
theorem journal_drained_iff (vars : LoopVars) (hj : w.journal.read = .ok pending)
    (hp : pending ≠ ∅) (hpoll : poll.Accepted) (hxray : XrayAccepts canonical limits poll w) :
    Drained settings (poll.authorized canonical limits w) w
        (w.afterIteration canonical limits settings poll vars) ↔
      ∃ snapshot, poll.answer canonical limits = .ok (some snapshot) ∧
        ∃ cascaded, applyCascadeRoutes w.config (desiredRoutes snapshot.items) = .ok cascaded := by
  -- an iteration that leaves the journal as it is drains nothing
  have hkept : ∀ w', w'.journal = w.journal →
      ¬ Drained settings (poll.authorized canonical limits w) w w' := by
    rintro w' hw' ⟨hempty, _⟩
    rw [hw', hj, Except.ok.injEq] at hempty
    exact hp hempty
  have hcached : ∀ nowMs, runOk (reconcileCachedState settings .apply nowMs) w = (.ok none, w) :=
    runOk_cached_pending hj hp
  cases ha : poll.answer canonical limits with
  | error e =>
    refine iff_of_false (hkept _ ?_) ?_
    · rw [afterIteration_failed vars (pollControl_error ha), hcached]
    · rintro ⟨_, h, _⟩
      cases h
  | ok answer =>
    cases answer with
    | none =>
      refine iff_of_false (hkept _ ?_) ?_
      · obtain ⟨payload, hpayload⟩ := runOk_buildTelemetry (none : Option ReconcileResult) w
        have hpolled : runOk (pollControl settings (scriptedApi canonical limits poll) .apply
            poll.clock) w = (.ok payload, w) := by
          rw [pollControl_none ha, runOk_bind_ok _ (hcached _), hpayload]
        obtain ⟨n, hn⟩ := afterIteration_reported vars hpoll hpolled
        rw [hn]
      · rintro ⟨_, h, _⟩
        cases h
    | some snapshot =>
      rcases runOk_of_in (reconcileSnapshot_in settings snapshot poll.clock.snapshot w) with
        ⟨r, w', hrun, _, x, _, hjournal, hsessions⟩ | ⟨e, w', hrun, hfault | ⟨rfl, hx⟩ | ⟨x, _, hl⟩⟩
      · refine iff_of_true ?_ ⟨snapshot, rfl, x.cascaded, x.routes⟩
        obtain ⟨payload, hpayload⟩ := pollControl_reconciled ha hpoll hrun
        obtain ⟨n, hn⟩ := afterIteration_reported vars hpoll hpayload
        rw [hn]
        refine ⟨hjournal, fun hon s hs hheld => ?_⟩
        -- a session that is left is not of a revoked email
        simp only [hsessions, sessionsAfter, hon, ↓reduceIte, List.mem_filter] at hs
        have hrevoked : s.2 ∉ x.revoked poll.clock.snapshot := of_decide_eq_true hs.2
        rw [Poll.authorized, ha]
        by_contra hd
        exact hrevoked (mem_revocations.2 ⟨hd, .inl ((JournalFile.mem_read x.journal).2 hheld)⟩)
      · exact absurd hfault not_faulty_ok
      · refine iff_of_false (hkept _ ?_) ?_
        · have hfailed : runOk (pollControl settings (scriptedApi canonical limits poll) .apply
              poll.clock) w' = (.error e, w') := by
            rw [pollControl_some ha, Prog.bind_assoc, runOk_bind_error _ hrun]
          rw [afterIteration_failed vars hfailed, hcached]
        · rintro ⟨s, hs, cascaded, hc⟩
          cases hs
          exact hx.false ⟨pending, cascaded, hj, hc⟩
      · exact absurd (hxray snapshot ha x) hl

end Iteration

/-- The endpoints report no change and accept everything else. -/
def pollUnchanged (nowMs : Nat) : Poll (List DesiredItem) where
  clock := ⟨nowMs, nowMs, nowMs⟩
  answers := [some ⟨204, 0, .notJson⟩]
  pageAnswers _ := []
  ackAnswers := [some ⟨200, 0, .notJson⟩]
  telemetryAnswers := [some ⟨200, 0, .notJson⟩]

def expiringProcess : AgentProg (List DesiredItem) LoopVars :=
  agentProcess itemsCanonical roomyLimits liveSettings .apply [pollUnchanged 2000]

/-- The only client has expired, and the kick of its session has failed. -/
def unkickedNode : Agent (List DesiredItem) :=
  (expiringProcess.advance (agentSem _)
    (List.replicate 18 .ok ++ .fail :: List.replicate 10 .ok) sessionNode.restart).2

theorem Loadable.desired_congr {c c' : XrayConfig} (h : Loadable (desiredConfig clients c))
    (hc : c'.inbounds = c.inbounds) : Loadable (desiredConfig clients c') := by
  simp only [Loadable, desiredConfig, listVlessInbounds_mapVless] at h ⊢
  rwa [listVlessInbounds_congr hc]

/-- The next generation drains the journal. -/
theorem journal_drained_iff_served : Drained liveSettings
    ((pollServing ⟨1, 2, limitOnly, limitOnly⟩).authorized itemsCanonical roomyLimits unkickedNode)
    unkickedNode (unkickedNode.afterIteration itemsCanonical roomyLimits liveSettings
      (pollServing ⟨1, 2, limitOnly, limitOnly⟩) ⟨0, 0⟩) := by
  have ha : (pollServing ⟨1, 2, limitOnly, limitOnly⟩).answer itemsCanonical roomyLimits =
      .ok (some ⟨1, 2, limitOnly, limitOnly⟩) := by
    rfl
  have hj : unkickedNode.journal = .emails {"user_1"} := by decide +kernel
  refine (journal_drained_iff ⟨0, 0⟩ (congrArg JournalFile.read hj) (by decide) ⟨rfl, rfl⟩ ?_).2
    ⟨_, ha, _, rfl⟩
  intro snapshot hs x
  rw [ha] at hs
  cases hs
  refine Loadable.desired_congr ?_ (applyCascadeRoutes_inbounds x.routes)
  decide +kernel

/-- While the control plane reports no change the journal stays as it is, and so does the
session of the expired client. -/
theorem unkicked_expiry_stays_journaled :
    (∃ p, AgentRun itemsCanonical roomyLimits liveSettings .apply (fun _ _ => True) sessionNode
      (p, unkickedNode)) ∧
    unkickedNode.journal = .emails {"user_1"} ∧ (pollUnchanged 3000).Accepted ∧
    XrayAccepts itemsCanonical roomyLimits (pollUnchanged 3000) unkickedNode ∧
    "user_1" ∉ (pollUnchanged 3000).authorized itemsCanonical roomyLimits unkickedNode ∧
    ("u1", "user_1") ∈ (unkickedNode.afterIteration itemsCanonical roomyLimits liveSettings
      (pollUnchanged 3000) ⟨0, 0⟩).hy2Sessions ∧
    ¬ Drained liveSettings
      ((pollUnchanged 3000).authorized itemsCanonical roomyLimits unkickedNode) unkickedNode
      (unkickedNode.afterIteration itemsCanonical roomyLimits liveSettings (pollUnchanged 3000)
        ⟨0, 0⟩) := by
  have hjournal : (unkickedNode.afterIteration itemsCanonical roomyLimits liveSettings
      (pollUnchanged 3000) ⟨0, 0⟩).journal = .emails {"user_1"} := by decide +kernel
  refine ⟨⟨_, _, advance_steps _ _ _ _ expiringProcess sessionNode.restart _ fun _ _ => trivial⟩,
    by decide +kernel, ⟨rfl, rfl⟩, ?_, by decide +kernel, by decide +kernel, ?_⟩
  · intro snapshot hs
    cases hs
  · rintro ⟨hempty, _⟩
    rw [hjournal, JournalFile.read, Except.ok.injEq] at hempty
    exact Finset.singleton_ne_empty _ hempty

end AegisVPN
