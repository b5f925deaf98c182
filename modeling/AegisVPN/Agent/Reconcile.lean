import Mathlib.Data.Finset.SDiff
import AegisVPN.Agent.Cascade
import AegisVPN.Agent.ControlClient
import AegisVPN.Library.Dicts
import AegisVPN.Library.Program

namespace AegisVPN
open Library
set_option autoImplicit true

inductive JournalFile
  | missing
  | invalid
  | emails (es : Finset String)
  deriving DecidableEq

/-- A node: files of the agent, memory of the agent, and the two data-plane processes. -/
structure Agent (D : Type) where
  config : XrayConfig
  /-- The generation whose reconcile wrote the config last. No file holds it. -/
  installed : Nat
  applied : Option (AppliedState D)
  journal : JournalFile
  overridesFile : List (Int × Nat)
  overrides : List (Int × Nat)
  hy2Clients : List (String × String)
  live : List LiveInbound
  hy2Sessions : List (String × String)
  telemetrySequence : Option Nat
  /-- Whether each of the next signals reaches the running Xray. Those after them do. -/
  signals : List Bool
  deriving DecidableEq

inductive AgentError
  | http (detail : String)
  | reconcile (text : String)
  | cascade (e : CascadeConfigError)
  | control (e : ControlError)
  | os
  deriving DecidableEq

/-- What becomes of one operation: it works, it does nothing, or it takes effect and still
reports a failure. -/
inductive Fate
  | ok
  | fail
  | lost
  deriving DecidableEq

abbrev AgentAct (D β : Type) := Fate → Agent D → β × Agent D

abbrev AgentProg (D : Type) := Prog (AgentAct D) AgentError

abbrev agentSem (D : Type) : Semantics (AgentAct D) Fate (Agent D) := fun a f w => some (a f w)

theorem agentSem_some {s : AgentAct D β} {b : β} :
    agentSem D s f w = some (b, w') ↔ (s f w).1 = b ∧ (s f w).2 = w' := by
  simp only [agentSem, Option.some.injEq, Prod.ext_iff]

structure AgentSettings where
  xrayLiveDeltaLimit : Int
  hy2Enabled : Bool

/-! ## Files -/

/-- An atomic replacement of one file: a late failure leaves the new content in place. -/
def replaceFile (e : AgentError) (write : Agent D → Agent D) :
    AgentAct D (Except AgentError Unit) :=
  fun f w =>
    match f with
    | .ok => (.ok (), write w)
    | .lost => (.error e, write w)
    | .fail => (.error e, w)

def getXrayConfig : AgentAct D (Except AgentError XrayConfig) := fun f w =>
  if f = .ok then (.ok w.config, w) else (.error (.http "Failed to read config"), w)

def saveXrayConfig (config : XrayConfig) (generation : Nat) :
    AgentAct D (Except AgentError Unit) :=
  replaceFile (.http "Failed to write config") fun w =>
    { w with config := config, installed := generation }

def JournalFile.read : JournalFile → Except AgentError (Finset String)
  | .missing => .ok ∅
  | .invalid => .error (.reconcile "invalid pending revocations journal")
  | .emails es => .ok es

def loadPendingRevocations : AgentAct D (Except AgentError (Finset String)) := fun f w =>
  if f = .ok then (w.journal.read, w)
  else (.error (.reconcile "invalid pending revocations journal"), w)

def savePendingRevocations (values : Finset String) : AgentAct D (Except AgentError Unit) :=
  replaceFile .os fun w => { w with journal := .emails values }

def loadAppliedState : AgentAct D (AppliedState D) := fun f w =>
  if f = .ok then (w.applied.getD .initial, w) else (.initial, w)

def saveAppliedState (state : AppliedState D) : AgentAct D (Except AgentError Unit) :=
  replaceFile (.reconcile "failed to persist applied control state") fun w =>
    { w with applied := some state }

/-- The file is replaced first: a failed write leaves the map in memory alone. -/
def replaceOverrides (overrides : List (Int × Nat)) : AgentAct D (Except AgentError Unit) :=
  fun f w =>
    let error := AgentError.reconcile "failed to persist applied control state"
    match f with
    | .ok => (.ok (), { w with overridesFile := overrides, overrides := overrides })
    | .lost => (.error error, { w with overridesFile := overrides })
    | .fail => (.error error, w)

def readOverrides : AgentAct D (List (Int × Nat)) := fun _ w => (w.overrides, w)

/-! ## Hysteria -/

/-- The valid Hy2 users of a config; a UUID that occurs again keeps its last email. -/
def hy2Mapping (config : XrayConfig) : List (String × String) :=
  (listVlessInbounds config).flatMap fun i => i.clients.filterMap fun c =>
    match truthy c.id, truthy c.email with
    | some uuid, some email => some (uuid, email)
    | _, _ => none

def refreshFromConfig (config : XrayConfig) : AgentAct D Unit := fun _ w =>
  ((), { w with hy2Clients := hy2Mapping config })

/-- Close the live sessions of these emails. -/
def kick (settings : AgentSettings) (ids : Finset String) : AgentAct D Bool := fun f w =>
  if settings.hy2Enabled = false ∨ ids = ∅ then (true, w) else
    let kicked := { w with hy2Sessions := w.hy2Sessions.filter fun s => s.2 ∉ ids }
    match f with
    | .ok => (true, kicked)
    | .lost => (false, kicked)
    | .fail => (false, w)

/-! ## The live Xray -/

def xrayApiRemove (tag email : String) : AgentAct D Bool := fun f w =>
  let removed := { w with live := w.live.map (LiveInbound.remove tag email) }
  match f with
  | .ok => (true, removed)
  | .lost => (false, removed)
  | .fail => (false, w)

def xrayApiAdd (inbound : Inbound) (record : ClientRecord) : AgentAct D Bool := fun f w =>
  match truthy inbound.tag, inbound.port with
  | some tag, some (_ + 1) =>
    if acceptsUser tag record w.live then
      let added := { w with live := w.live.map (LiveInbound.add tag record) }
      match f with
      | .ok => (true, added)
      | .lost => (false, added)
      | .fail => (false, w)
    else (false, w)
  | _, _ => (false, w)

/-- `reload_xray` and `wait_for_xray_ready` together. The process that answers has parsed the
config on disk, and one that refuses it answers nobody; but nothing reports a signal that did not
reach Xray, and then the old process answers, with the users it had. -/
def hardReload : AgentAct D Bool := fun f w =>
  let signalled := { w with signals := w.signals.tail }
  if w.signals.head? = some false ∧ w.live ≠ [] then (decide (f = .ok), signalled)
  else
    let up := decide (Loadable w.config)
    let reloaded := { signalled with live := if up then bootTable w.config else [] }
    match f with
    | .ok => (up, reloaded)
    | .lost => (false, reloaded)
    | .fail => (false, signalled)

/-! ## Reconciliation -/

structure ReconcileResult where
  success : Bool
  changed : Bool
  observed : Bool
  added : Nat
  removed : Nat
  deriving DecidableEq

def configuredEmails (config : XrayConfig) : Finset String :=
  ((listVlessInbounds config).flatMap fun i =>
    i.clients.filterMap fun c => truthy c.email).toFinset

/-- Kick the journaled emails that the config no longer authorizes; true when none is left. -/
def retryPendingRevocations (settings : AgentSettings) (config : Option XrayConfig) :
    AgentProg D Bool := do
  let pending ← Prog.performOrRaise loadPendingRevocations
  if pending = ∅ then .ret true
  else do
    let current ← (match config with
      | some config => .ret config
      | none => Prog.performOrRaise getXrayConfig)
    Prog.perform (refreshFromConfig current)
    let safeToKick := pending \ configuredEmails current
    let kicked ← (if safeToKick = ∅ then .ret true else Prog.perform (kick settings safeToKick))
    if kicked then do
      let remaining := pending \ safeToKick
      Prog.performOrRaise (savePendingRevocations remaining)
      .ret (decide (remaining = ∅))
    else .ret false

def serviceExpireMs : Nat := 4102444800000

/-- The clients that the snapshot authorizes at a time; services never expire. -/
def desiredClients (items : List DesiredItem) (nowMs : Nat) : List DesiredClient :=
  items.filterMap fun
    | .client c => if c.expireMs > nowMs then some c else none
    | .cascadeService s => some ⟨s.uuid, s.email, serviceExpireMs⟩
    | _ => none

def desiredRoutes (items : List DesiredItem) : List DesiredCascadeRoute :=
  items.filterMap fun
    | .cascadeRoute r => some r
    | _ => none

def desiredOverrides (items : List DesiredItem) : List (Int × Nat) :=
  items.filterMap fun
    | .connLimit l => some (l.userId, l.limit)
    | _ => none

/-- Equality of two dicts written out with possibly repeated keys, where the last one counts. -/
def dictEq [DecidableEq κ] [DecidableEq ν] (a b : List (κ × ν)) : Bool :=
  (a ++ b).all fun p => a.reverse.lookup p.1 == b.reverse.lookup p.1

def desiredRecords (clients : List DesiredClient) (inbound : Inbound) : List ClientRecord :=
  clients.map fun c => buildClientRecord c.uuid c.email inbound

def recordsByUuid (records : List ClientRecord) : List (String × ClientRecord) :=
  dictOf (records.filterMap fun r => (truthy r.id).map fun uuid => (uuid, r))

def desiredByUuid (clients : List DesiredClient) (inbound : Inbound) :
    List (String × ClientRecord) :=
  dictOf (clients.map fun c => (c.uuid, buildClientRecord c.uuid c.email inbound))

/-- The records of an inbound to delete live, by tag and email. A record that lacks either is
dropped from the file only. -/
def inboundRemovals (clients : List DesiredClient) (inbound : Inbound) : List (String × String) :=
  (recordsByUuid inbound.clients).filterMap fun (uuid, record) =>
    if (desiredByUuid clients inbound).lookup uuid = some (recordProjection record) then none
    else match truthy inbound.tag, truthy record.email with
      | some tag, some email => some (tag, email)
      | _, _ => none

def inboundAdditions (clients : List DesiredClient) (inbound : Inbound) :
    List (Inbound × ClientRecord) :=
  (desiredByUuid clients inbound).filterMap fun (uuid, record) =>
    if ((recordsByUuid inbound.clients).lookup uuid).map recordProjection = some record then none
    else some (inbound, record)

structure Delta where
  removals : List (String × String)
  additions : List (Inbound × ClientRecord)

def configDelta (clients : List DesiredClient) (config : XrayConfig) : Delta where
  removals := (listVlessInbounds config).flatMap (inboundRemovals clients)
  additions := (listVlessInbounds config).flatMap (inboundAdditions clients)

def Delta.size (d : Delta) : Nat := d.removals.length + d.additions.length

/-- The config with exactly the desired clients in every VLESS inbound. -/
def desiredConfig (clients : List DesiredClient) (config : XrayConfig) : XrayConfig :=
  mapVless (desiredRecords clients) config

/-- Whether a reconcile may go through the live API instead of a hard reload. -/
def usesLiveApi (settings : AgentSettings) (cascadeChanged : Bool) (delta : Delta) : Bool :=
  !cascadeChanged && delta.size ≤ settings.xrayLiveDeltaLimit.toNat

def liveRemovals (removals : List (String × String)) (ok : Bool) : AgentProg D Bool :=
  removals.foldlM (fun ok r => do
    let done ← Prog.perform (xrayApiRemove r.1 r.2)
    .ret (ok && done)) ok

def liveAdditions (additions : List (Inbound × ClientRecord)) (ok : Bool) : AgentProg D Bool :=
  additions.foldlM (fun ok a => do
    let done ← Prog.perform (xrayApiAdd a.1 a.2)
    .ret (ok && done)) ok

def livePhase (settings : AgentSettings) (cascadeChanged : Bool) (delta : Delta) :
    AgentProg D Unit := do
  let apiOk ← (if usesLiveApi settings cascadeChanged delta then do
      let ok ← liveRemovals delta.removals true
      liveAdditions delta.additions ok
    else .ret false)
  Prog.whenever (apiOk = false) do
    let ready ← Prog.perform hardReload
    Prog.whenever (ready = false) (.raise (.reconcile "live Xray reconciliation failed"))

/-- Everything after the decision to act. -/
def applyReconcile (settings : AgentSettings) (snapshot : DesiredSnapshot D) (nowMs : Nat)
    (config : XrayConfig) (cascaded : XrayConfig) (pending : Finset String)
    (overrideChanged : Bool) : AgentProg D Unit := do
  let clients := desiredClients snapshot.items nowMs
  let desired := desiredConfig clients cascaded
  let desiredEmails := (clients.map DesiredClient.email).toFinset
  let delta := configDelta clients cascaded
  let removedEmails := (delta.removals.map Prod.snd).toFinset
  let pendingRevocations := (pending \ desiredEmails) ∪ (removedEmails \ desiredEmails)
  let journaled ← Prog.performOrRaise loadPendingRevocations
  Prog.whenever (pendingRevocations ≠ journaled)
    (Prog.performOrRaise (savePendingRevocations pendingRevocations))
  Prog.whenever (desired ≠ config) do
    Prog.performOrRaise (saveXrayConfig desired snapshot.generation)
    Prog.perform (refreshFromConfig desired)
  livePhase settings (decide (cascaded ≠ config)) delta
  Prog.whenever (pendingRevocations ≠ ∅) do
    let clean ← retryPendingRevocations settings (some desired)
    Prog.whenever (clean = false) (.raise (.reconcile "Hysteria session removal failed"))
  Prog.whenever (overrideChanged = true)
    (Prog.performOrRaise (replaceOverrides (desiredOverrides snapshot.items)))
  Prog.performOrRaise (saveAppliedState
    ⟨snapshot.schemaVersion, snapshot.generation, some snapshot.digest, snapshot.items⟩)

def reconcileSnapshot [DecidableEq D] (settings : AgentSettings) (snapshot : DesiredSnapshot D)
    (observe : Bool) (nowMs : Nat) : AgentProg D ReconcileResult := do
  let clients := desiredClients snapshot.items nowMs
  let desiredEmails := (clients.map DesiredClient.email).toFinset
  let config ← Prog.performOrRaise getXrayConfig
  let pending ← Prog.performOrRaise loadPendingRevocations
  let cascaded ← Prog.ofExcept
    ((applyCascadeRoutes config (desiredRoutes snapshot.items)).mapError .cascade)
  let delta := configDelta clients cascaded
  let effectivePending := pending \ desiredEmails
  let overrides ← Prog.perform readOverrides
  let overrideChanged := !dictEq overrides (desiredOverrides snapshot.items)
  let previous ← Prog.perform loadAppliedState
  let stateChanged := decide (previous.generation ≠ snapshot.generation ∨
    previous.digest ≠ some snapshot.digest ∨ previous.items ≠ snapshot.items)
  let changed := decide (desiredConfig clients cascaded ≠ config) || overrideChanged ||
    stateChanged || decide (effectivePending ≠ ∅ ∨ effectivePending ≠ pending)
  let result : ReconcileResult :=
    ⟨true, changed, observe, delta.additions.length, delta.removals.length⟩
  if observe || !changed then .ret result
  else do
    applyReconcile settings snapshot nowMs config cascaded pending overrideChanged
    .ret result

theorem hardReload_changes (f : Fate) (w : Agent D) : (hardReload f w).2 =
    { w with live := (hardReload f w).2.live, signals := w.signals.tail } := by
  rw [hardReload]
  split
  · rfl
  · cases f <;> rfl

/-! ## Statements that only read -/

/-- The statement changes nothing, whatever becomes of it. -/
def ReadOnly (s : AgentAct D β) : Prop := ∀ f w, (s f w).2 = w

theorem readOnly_getXrayConfig : ReadOnly (getXrayConfig (D := D)) := by
  intro f w
  cases f <;> rfl

theorem readOnly_loadPendingRevocations : ReadOnly (loadPendingRevocations (D := D)) := by
  intro f w
  cases f <;> rfl

theorem readOnly_readOverrides : ReadOnly (readOverrides (D := D)) := fun _ _ => rfl

theorem readOnly_loadAppliedState : ReadOnly (loadAppliedState (D := D)) := by
  intro f w
  cases f <;> rfl

end AegisVPN
