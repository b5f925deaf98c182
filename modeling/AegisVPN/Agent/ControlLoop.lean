import AegisVPN.Agent.Reconcile

namespace AegisVPN
open Library
set_option autoImplicit true

inductive ControlMode
  | off
  | observe
  | apply
  deriving DecidableEq

structure Telemetry (D : Type) where
  appliedGeneration : Nat
  appliedDigest : Option D
  reconciliation : Option ReconcileResult

/-- The requests of the control client, over statements that include those of the node. -/
structure ControlApi (S : Type → Type u) (D : Type) where
  node : ∀ {β}, AgentAct D β → S β
  sync : AppliedState D → Prog S AgentError (Option (DesiredSnapshot D))
  ack : Nat → D → Prog S AgentError Unit
  sendTelemetry : Nat → Telemetry D → Prog S AgentError Unit

/-- The clock readings of one iteration: for a new snapshot, for the cached state, and for the
cached state after an error. -/
structure IterationClock where
  snapshot : Nat
  cached : Nat
  retry : Nat

structure LoopVars where
  sequence : Nat
  reservedSequence : Nat
  deriving DecidableEq

def telemetrySequenceBlock : Nat := 1024

def loadTelemetrySequence : AgentAct D Nat := fun f w =>
  if f = .ok then (w.telemetrySequence.getD 0, w) else (0, w)

def saveTelemetrySequence (sequence : Nat) : AgentAct D (Except AgentError Unit) :=
  replaceFile .os fun w => { w with telemetrySequence := some sequence }

section Loop
variable [DecidableEq D] (settings : AgentSettings)

/-- Replay the applied state, so that expiries count while no snapshot arrives. -/
def reconcileCachedState (mode : ControlMode) (nowMs : Nat) :
    AgentProg D (Option ReconcileResult) :=
  if mode ≠ .apply then .ret none
  else do
    let pending ← Prog.performOrRaise loadPendingRevocations
    if pending ≠ ∅ then .ret none
    else do
      let applied ← Prog.perform loadAppliedState
      match applied.digest with
      | none => .ret none
      | some digest =>
        if applied.generation < 1 then .ret none
        else do
          let result ← reconcileSnapshot settings
            ⟨applied.schemaVersion, applied.generation, digest, applied.items⟩ false nowMs
          .ret (some result)

/-- The templates are read from the config again, which may fail. -/
def buildTelemetry (result : Option ReconcileResult) : AgentProg D (Telemetry D) := do
  let state ← Prog.perform loadAppliedState
  let _ ← Prog.performOrRaise getXrayConfig
  .ret ⟨state.generation, state.digest, result⟩

variable {S : Type → Type u} (api : ControlApi S D)

/-- The iteration up to the payload of its telemetry. -/
def pollControl (mode : ControlMode) (clock : IterationClock) :
    Prog S AgentError (Telemetry D) := do
  let applied ← Prog.perform (api.node loadAppliedState)
  let snapshot ← api.sync applied
  let result ← (match snapshot with
    | some snapshot => do
      let result ← (reconcileSnapshot settings snapshot (decide (mode = .observe))
        clock.snapshot).hoist api.node
      Prog.whenever (mode = .apply ∧ result.success = true)
        (api.ack snapshot.generation snapshot.digest)
      .ret (some result)
    | none => (reconcileCachedState settings mode clock.cached).hoist api.node)
  (buildTelemetry result).hoist api.node

/-- The reservation is noted in memory before the file is written. -/
def LoopVars.reserve (vars : LoopVars) : LoopVars :=
  if vars.sequence + 1 > vars.reservedSequence then
    { vars with reservedSequence := vars.sequence + telemetrySequenceBlock }
  else vars

def reportTelemetry (vars : LoopVars) (payload : Telemetry D) : Prog S AgentError Unit := do
  Prog.whenever (vars.sequence + 1 > vars.reservedSequence) (Prog.performOrRaise
    (api.node (saveTelemetrySequence vars.reserve.reservedSequence)))
  api.sendTelemetry (vars.sequence + 1) payload

/-- One turn of the loop: whatever it raises is followed by a replay of the applied state. -/
def controlIteration (mode : ControlMode) (clock : IterationClock) (vars : LoopVars) :
    Prog S AgentError LoopVars := do
  let polled ← (pollControl settings api mode clock).attempt
  let sent ← (match polled with
    | .error e => .ret (vars, Except.error e)
    | .ok payload => do
      let sent ← (reportTelemetry api vars payload).attempt
      .ret (vars.reserve, sent))
  match sent with
  | (vars, .ok ()) => .ret { vars with sequence := vars.sequence + 1 }
  | (vars, .error _) => do
    let _ ← ((reconcileCachedState settings mode clock.retry).hoist api.node).attempt
    .ret vars

end Loop

/-! ## Processes and runs -/

/-- What the control endpoints answer during one iteration. -/
structure Poll (D : Type) where
  clock : IterationClock
  answers : List (Option (RawControlResponse (SnapshotManifest D)))
  pageAnswers : Nat → List (Option (RawControlResponse (SnapshotPage D)))
  ackAnswers : List (Option (RawControlResponse Unit))
  telemetryAnswers : List (Option (RawControlResponse Unit))

/-- A request that must be answered with 200. -/
def requestOk (what : String) (answers : List (Option (RawControlResponse Unit))) :
    Except ControlError Unit := do
  let response ← requestWithFailover (64 * 1024) answers
  require (response.status = 200) (.request s!"{what} rejected with status {response.status}")

variable [DecidableEq D] (canonical : Canonical D) (limits : ControlLimits)
  (settings : AgentSettings) (mode : ControlMode)

/-- The client of a node whose endpoints answer as the poll says. -/
def scriptedApi (poll : Poll D) : ControlApi (AgentAct D) D where
  node s := s
  sync _ := .ofExcept
    ((syncSnapshot canonical limits poll.answers poll.pageAnswers).mapError .control)
  ack _ _ := .ofExcept
    ((requestOk "control acknowledgement" poll.ackAnswers).mapError .control)
  sendTelemetry _ _ := .ofExcept
    ((requestOk "control telemetry" poll.telemetryAnswers).mapError .control)

def controlLoop (polls : List (Poll D)) : AgentProg D LoopVars :=
  if mode = .off then .ret ⟨0, 0⟩
  else do
    let sequence ← Prog.perform loadTelemetrySequence
    polls.foldlM (fun vars poll =>
      controlIteration settings (scriptedApi canonical limits poll) mode poll.clock vars)
      ⟨sequence, sequence⟩

/-- An agent process from its start: the Hy2 users, the journal, then the loop. -/
def agentProcess (polls : List (Poll D)) : AgentProg D LoopVars := do
  let config ← Prog.performOrRaise getXrayConfig
  Prog.perform (refreshFromConfig config)
  let _ ← retryPendingRevocations settings none
  controlLoop canonical limits settings mode polls

/-- A new process keeps the files and the data plane, and reads the overrides again. -/
def Agent.restart (w : Agent D) : Agent D :=
  { w with overrides := w.overridesFile, hy2Clients := [] }

/-- A process with what it has left to do, and its node. -/
abbrev Configuration (D : Type) := AgentProg D LoopVars × Agent D

/-- The process takes a step where `C` holds, or it dies and a new one starts. -/
inductive AgentStep (C : AgentProg D LoopVars → Agent D → Prop) :
    Configuration D → Configuration D → Prop
  | step (f : Fate) (h : C p w) : AgentStep C (p, w) (p.step (agentSem D) f w)
  | crash (polls : List (Poll D)) :
    AgentStep C (p, w) (agentProcess canonical limits settings mode polls, w.restart)

/-- The runs from a process that starts on a node. -/
def AgentRun (C : AgentProg D LoopVars → Agent D → Prop) (w₀ : Agent D) (s : Configuration D) :
    Prop :=
  ∃ polls, Relation.ReflTransGen (AgentStep canonical limits settings mode C)
    (agentProcess canonical limits settings mode polls, w₀.restart) s

/-- A process runs for as many steps as there are fates, as long as the condition is met. -/
theorem advance_steps {C : AgentProg D LoopVars → Agent D → Prop} (p : AgentProg D LoopVars)
    (w : Agent D) (fs : List Fate) (h : ∀ n < fs.length,
      C (p.advance (agentSem D) (fs.take n) w).1 (p.advance (agentSem D) (fs.take n) w).2) :
    Relation.ReflTransGen (AgentStep canonical limits settings mode C) (p, w)
      (p.advance (agentSem D) fs w) := by
  induction fs generalizing p w with
  | nil => exact .refl
  | cons f fs ih =>
    refine .head (.step f (h 0 (Nat.succ_pos _))) (ih _ _ fun n hn => ?_)
    exact h (n + 1) (Nat.succ_lt_succ hn)

end AegisVPN
