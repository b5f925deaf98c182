import AegisVPN.Bot.Orphans
import AegisVPN.Bot.SubscriptionResponse
import AegisVPN.Bot.SyncRuns

namespace AegisVPN
open Library
set_option autoImplicit true

/-! ## What is written -/

/-- Whether the device may connect. -/
def Device.isOn (device : Device) : Bool := device.isActive && !device.isSuspended

def Device.patch (old new row : Device) : Device :=
  { row with
    isActive := AegisVPN.patch old.isActive new.isActive row.isActive
    isSuspended := AegisVPN.patch old.isSuspended new.isSuspended row.isSuspended }

def updateDevice (old new : Device) : DbAct D Unit := fun db =>
  if db.devices.any fun d => d.id == old.id then
    (.ok (), { db with devices := db.devices.map fun d => if d.id = old.id then old.patch new d
      else d })
  else (.error .staleData, db)

def dirtyDevice (old new : Device) : Pending D := if old = new then [] else [updateDevice old new]

/-- The servers to which a new or resumed device is sent. -/
def Db.deviceServers (db : Db D) (sub : Subscription) : List (Server D) :=
  db.servers.filter fun s => s.isActive &&
    db.links.any fun l => l.subscriptionId == sub.id && l.serverId == s.id &&
      (l.isSynced || publishesFor s)

/-- A link to be tried again. -/
structure UnsyncedJob where
  subscriptionId : Nat
  serverId : Nat
  clientUuid : String
  userId : Nat
  agent : String
  deriving DecidableEq

def UnsyncedJob.call (job : UnsyncedJob) : AgentCall :=
  .addClient job.agent job.clientUuid s!"user_{job.userId}_sub_{job.subscriptionId}"

/-- The jobs for nodes that are pushed to. -/
def Db.unsyncedJobs (db : Db D) : List UnsyncedJob :=
  db.links.filterMap fun l =>
    match db.subscriptions.find? fun s => s.id == l.subscriptionId, db.server l.serverId with
    | some sub, some server =>
      if !l.isSynced && sub.isActive && server.isActive && pushesTo server then
        some ⟨sub.id, server.id, sub.clientUuid, sub.userId, server.agent⟩
      else none
    | _, _ => none

/-- The link is marked, if it is there and not marked yet. -/
def markSynced (subId serverId : Nat) : DbAct D Unit := fun db =>
  (.ok (), { db with links := db.links.map fun l =>
    if l.subscriptionId = subId ∧ l.serverId = serverId ∧ l.isSynced = false then
      { l with isSynced := true } else l })

/-! ## Operations in progress -/

/-- What an operation has read. A reissue strips the subscription of its clients before it
synchronises it, and the expiry job revokes them after it has ended the subscriptions. -/
inductive PushOp (D : Type)
  | strip (sub : Subscription) (removals : List AgentCall)
  | sync (old new : Subscription) (devices : List Device) (servers : List (Server D))
    (loaded : Option (List SubscriptionServer))
  | register (sub : Subscription) (device : Device) (servers : List (Server D))
  | switch (sub : Subscription) (old new : Device) (servers : List (Server D))
  | expire (ended : List Subscription) (revocations : List AgentCall) (serverIds : List Nat)
  | revoke (revocations : List AgentCall)
  | retry (jobs : List UnsyncedJob)

def addDevice (sub : Subscription) (device : Device) (servers : List (Server D)) :
    List (Nat × AgentCall) :=
  (servers.filter fun s => pushesTo s).map fun s =>
    (s.id, .addClient s.agent device.uuid (deviceEmail sub device))

/-- The requests that add clients, with the servers that they go to. -/
def PushOp.additions : PushOp D → List (Nat × AgentCall)
  | .sync _ new devices servers _ => (servers.filter fun s => pushesTo s).map fun s =>
      (s.id, .bulkAdd s.agent (syncClients new devices))
  | .register sub device servers => addDevice sub device servers
  | .switch sub _ new servers => if new.isOn then addDevice sub new servers else []
  | .retry jobs => jobs.map fun j => (j.serverId, j.call)
  | _ => []

/-- The removals before the commit. -/
def PushOp.removals : PushOp D → List AgentCall
  | .strip _ removals => removals
  | .switch _ old new servers => if new.isOn then [] else removalCalls [old.uuid] none servers
  | _ => []

/-- The removals after it. -/
def PushOp.revocations : PushOp D → List AgentCall
  | .revoke revocations => revocations
  | _ => []

/-- An operation, the additions that were answered and the removals that were sent. -/
structure PushTask (D : Type) where
  op : PushOp D
  answered : List (Nat × AgentCall)
  removed : List AgentCall

def PushTask.start (op : PushOp D) : PushTask D := ⟨op, [], []⟩

/-- The outcome of a synchronisation at each server. -/
def PushTask.results (task : PushTask D) (servers : List (Server D)) : List (Nat × Bool) :=
  servers.map fun s => (s.id, pushesTo s && task.answered.any fun a => a.1 == s.id)

/-- Whether the request of a job was answered. -/
def PushTask.retried (task : PushTask D) (job : UnsyncedJob) : Bool :=
  task.answered.any fun a => a.1 == job.serverId && decide (a.2 = job.call)

theorem sameRow (old new : Subscription) : { new with id := old.id }.id = old.id := rfl

/-- What is flushed before the commit, and the servers that are published. -/
def PushTask.writes (task : PushTask D) : Option (Pending D × List Nat) :=
  match task.op with
  | .sync old new _ servers (some loaded) =>
    some (LoadedSync.writes ⟨old, { new with id := old.id }, sameRow old new, loaded,
      task.results servers⟩,
      servers.map Server.id)
  | .register _ device servers =>
    some ([(insertDevice device).andThen fun db => (.ok (), db)], servers.map Server.id)
  | .switch _ old new servers => some (dirtyDevice old new, servers.map Server.id)
  | .expire ended _ serverIds =>
    some (ended.flatMap fun sub => dirtySubscription sub { sub with isActive := false }, serverIds)
  | .retry jobs =>
    some ((jobs.filter task.retried).map fun j => markSynced j.subscriptionId j.serverId, [])
  | _ => none

/-- What goes on after the commit. -/
def PushOp.next : PushOp D → Option (PushTask D)
  | .expire _ revocations _ => some (.start (.revoke revocations))
  | _ => none

/-! ## The bot and its agents -/

structure PushWorld (D : Type) where
  db : Db D
  agents : Agents
  tasks : List (PushTask D)

/-- A request that is lost on the way changes nothing; one whose answer is lost has its effect. A
new subscription is inserted before it is synchronised. -/
inductive PushEvent (D : Type)
  | strip (sub : Subscription)
  | resync (i : Nat) (new : Subscription) (servers : List (Server D))
  | sync (old new : Subscription) (servers : List (Server D))
  | load (i : Nat)
  | register (sub : Subscription) (uuid uaFingerprint : String)
  | switch (sub : Subscription) (old new : Device)
  | expire (now : Int)
  | retry
  | add (i k : Nat) (answered : Bool)
  | remove (i k : Nat)
  | revoke (i k : Nat)
  | commit (i : Nat) (now : Int)
  | finish (i : Nat)
  | other (next : Db D)

/-- The UUIDs that a subscription is to be served with. -/
def Db.servedUuids (db : Db D) (sub : Subscription) : List String :=
  sub.clientUuid :: (db.activeDevices sub).map Device.uuid

/-- The agent that clients of a server are pushed to. -/
def Db.pushAgent (db : Db D) (serverId : Nat) : Option String :=
  ((db.server serverId).filter pushesTo).map Server.agent

/-- The flags of the links of a subscription promise that an agent has a UUID. -/
def Db.Needs (db : Db D) (sub : Subscription) (p : String × String) : Prop :=
  sub.isActive = true ∧ p.2 ∈ db.servedUuids sub ∧ ∃ l ∈ db.links,
    l.subscriptionId = sub.id ∧ l.isSynced = true ∧ db.pushAgent l.serverId = some p.1

instance decidableNeeds (db : Db D) (sub : Subscription) (p : String × String) :
    Decidable (db.Needs sub p) := inferInstanceAs (Decidable (_ ∧ _ ∧ _))

def Db.Needed (db : Db D) (p : String × String) : Prop := ∃ sub ∈ db.subscriptions, db.Needs sub p

instance decidableNeeded (db : Db D) (p : String × String) : Decidable (db.Needed p) :=
  inferInstanceAs (Decidable (∃ sub ∈ db.subscriptions, db.Needs sub p))

/-- All that the flags promise. -/
def Db.needed (db : Db D) : List (String × String) :=
  db.subscriptions.flatMap fun sub => (db.servedUuids sub).flatMap fun uuid =>
    db.links.filterMap fun l =>
      ((db.pushAgent l.serverId).map fun agent => (agent, uuid)).filter fun p =>
        decide (db.Needs sub p)

section World
variable [DecidableEq D] (settings : ControlSettings D)

def pushTransaction (writes : Pending D) (serverIds : List Nat) (now : Int) : DbAct D Unit :=
  writes.write.andThen (publishAll settings now (sortedIds serverIds))

/-- The operation commits, or fails and is over. -/
def PushWorld.commit (w : PushWorld D) (i : Nat) (task : PushTask D) (now : Int) : PushWorld D :=
  match task.writes with
  | none => w
  | some (writes, serverIds) =>
    match pushTransaction settings writes serverIds now w.db with
    | (.error _, _) => { w with tasks := w.tasks.eraseIdx i }
    | (.ok _, db) => { w with
        db, tasks := w.tasks.eraseIdx i ++ task.op.next.toList }

def PushWorld.begin (w : PushWorld D) (op : PushOp D) : PushWorld D :=
  { w with tasks := w.tasks ++ [.start op] }

def PushWorld.put (w : PushWorld D) (i : Nat) (task : PushTask D) : PushWorld D :=
  { w with tasks := w.tasks.set i task }

def PushWorld.step (w : PushWorld D) : PushEvent D → PushWorld D
  | .strip sub => w.begin (.strip sub (removalCalls (sub.clientUuid :: w.db.deviceUuids sub) none
      (w.db.linkedServers sub)))
  | .resync i new servers =>
    match w.tasks[i]? with
    | some ⟨.strip sub _, _, removed⟩ =>
      w.put i
        ⟨.sync sub { new with id := sub.id } (w.db.activeDevices sub) servers none, [], removed⟩
    | _ => w
  | .sync old new servers =>
    w.begin (.sync old { new with id := old.id } (w.db.activeDevices old) servers none)
  | .load i =>
    match w.tasks[i]? with
    | some ⟨.sync old new devices servers none, answered, removed⟩ =>
      let loaded := w.db.links.filter fun l =>
        l.subscriptionId == old.id && (servers.map Server.id).contains l.serverId
      w.put i ⟨.sync old new devices servers (some loaded), answered, removed⟩
    | _ => w
  | .register sub uuid uaFingerprint => w.begin (.register sub
      ⟨nextId (w.db.devices.map Device.id), sub.id, uuid, uaFingerprint, true, false⟩
      (w.db.deviceServers sub))
  | .switch sub old new => w.begin (.switch sub old
      { old with isActive := new.isActive, isSuspended := new.isSuspended }
      (if new.isOn then w.db.deviceServers sub else w.db.linkedServers sub))
  | .expire now =>
    let ended := w.db.subscriptions.filter fun s => decide (s.expiresAt ≤ now) && s.isActive
    let devices := w.db.devices.map fun d => (d.subscriptionId, d.uuid)
    let servers := ended.flatMap fun sub =>
      (w.db.linkedServers sub).map fun server => (sub.id, server)
    w.begin (.expire ended (ended.flatMap (expiredCalls now devices servers))
      (servers.map fun s => s.2.id))
  | .retry => w.begin (.retry w.db.unsyncedJobs)
  | .add i k answered =>
    match w.tasks[i]? with
    | none => w
    | some task =>
      match task.op.additions[k]? with
      | none => w
      | some a =>
        let w' : PushWorld D := { w with agents := w.agents.handle a.2 }
        if answered then w'.put i { task with answered := task.answered ++ [a] } else w'
  | .remove i k =>
    match w.tasks[i]? with
    | none => w
    | some task =>
      match task.op.removals[k]? with
      | none => w
      | some c =>
        let w' : PushWorld D := { w with agents := w.agents.handle c }
        w'.put i { task with removed := task.removed ++ [c] }
  | .revoke i k =>
    match w.tasks[i]? with
    | none => w
    | some task =>
      match task.op.revocations[k]? with
      | none => w
      | some c => { w with agents := w.agents.handle c }
  | .commit i now =>
    match w.tasks[i]? with
    | none => w
    | some task => w.commit settings i task now
  | .finish i =>
    match w.tasks[i]? with
    | some ⟨.revoke _, _, _⟩ => { w with tasks := w.tasks.eraseIdx i }
    | _ => w
  | .other next =>
    -- anything else that is done to the database promises nothing new
    if ∀ p ∈ next.needed, w.db.Needed p then { w with db := next } else w

def PushWorld.fresh : PushWorld D := ⟨Db.empty, fun _ => [], []⟩

end World

end AegisVPN
