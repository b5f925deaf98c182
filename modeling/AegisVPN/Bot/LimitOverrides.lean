import AegisVPN.Agent.ConnLimit
import AegisVPN.Library.Runs

namespace AegisVPN
open Library
set_option autoImplicit true

/-! # The connection limits of users on the nodes -/

/-- The rows that limits depend on, the limits in the latest snapshot of each server, and the
overrides of each agent, in memory and on disk. A link is a server's id and a subscription's. -/
structure LimitWorld where
  users : List User
  subscriptions : List Subscription
  servers : List (Server Unit)
  links : List (Nat × Nat)
  published : Nat → Option (List (Nat × Int))
  overrides : String → List (Nat × Int)
  overridesFile : String → List (Nat × Int)

def LimitWorld.start : LimitWorld :=
  ⟨[], [], [], [], fun _ => none, fun _ => [], fun _ => []⟩

namespace LimitWorld

/-! ## Snapshots -/

/-- The limits of the users whose subscriptions the server serves. -/
def snapshotLimits (w : LimitWorld) (server : Server Unit) : List (Nat × Int) :=
  if server.isActive then
    (w.subscriptions.filter fun sub => decide ((server.id, sub.id) ∈ w.links)).filterMap fun sub =>
      ((w.users.find? fun user => user.id == sub.userId).bind User.connLimit).map fun limit =>
        (sub.userId, max 0 limit)
  else []

def publishForServers (w : LimitWorld) (serverIds : List Nat) : LimitWorld :=
  { w with published := fun id =>
      match w.servers.find? fun server => server.id == id with
      | none => w.published id
      | some server =>
        if id ∈ serverIds ∧ publishesFor server = true then some (w.snapshotLimits server)
        else w.published id }

/-! ## Single overrides -/

/-- Set, or clear, the override of a user. -/
def setOverride (overrides : List (Nat × Int)) (userId : Nat) (limit : Option Int) :
    List (Nat × Int) :=
  match limit with
  | none => overrides.filter fun o => o.1 != userId
  | some limit => (userId, max 0 limit) :: overrides.filter fun o => o.1 != userId

def activeServers (w : LimitWorld) : List (Server Unit) := w.servers.filter Server.isActive

/-- The agents of the active servers that take single changes. -/
def pushAgents (w : LimitWorld) : List String := (w.activeServers.filter pushesTo).map Server.agent

def withLimit (w : LimitWorld) (userId : Nat) (limit : Option Int) : LimitWorld :=
  { w with users := w.users.map fun user =>
      if user.id = userId then { user with connLimit := limit } else user }

/-- The change goes to each of these agents. An agent that fails to save it goes on with it. -/
def pushLimit (w : LimitWorld) (userId : Nat) (limit : Option Int) (saves : String → Bool) :
    LimitWorld :=
  { w with
    overrides := fun agent =>
      if agent ∈ w.pushAgents then setOverride (w.overrides agent) userId limit
      else w.overrides agent
    overridesFile := fun agent =>
      if agent ∈ w.pushAgents ∧ saves agent = true then
        setOverride (w.overrides agent) userId limit
      else w.overridesFile agent }

def setUserConnLimit (w : LimitWorld) (tgId : Int) (limit : Option Int) (saves : String → Bool) :
    LimitWorld :=
  match w.users.find? fun user => user.tgId == tgId with
  | none => w
  | some user =>
    ((w.withLimit user.id limit).publishForServers (w.activeServers.map Server.id)).pushLimit
      user.id limit saves

/-! ## Servers -/

/-- A row that is there keeps its agent. -/
def registered (w : LimitWorld) (row : Server Unit) : Server Unit :=
  match w.servers.find? fun server => server.id == row.id with
  | none => row
  | some old => { row with agent := old.agent }

/-- The script writes the row and links every subscription to it. -/
def register (w : LimitWorld) (row : Server Unit) : LimitWorld :=
  { w with
    servers := (w.servers.filter fun server => server.id != row.id) ++ [w.registered row]
    links := w.links ++ w.subscriptions.map fun sub => (row.id, sub.id) }

def withLinks (w : LimitWorld) (links : List (Nat × Nat)) : LimitWorld := { w with links }

def withSubscription (w : LimitWorld) (sub : Subscription) : LimitWorld :=
  { w with subscriptions := w.subscriptions ++ [sub] }

section Access
variable (granted : Nat → Nat → Bool)

def accessible (server : Server Unit) (userId : Nat) : Bool :=
  server.isActive && (server.isPublic || granted server.id userId)

/-- The links of one server as they should be. -/
def allowedLinks (w : LimitWorld) (server : Server Unit) : List (Nat × Nat) :=
  (w.subscriptions.filter fun sub => accessible granted server sub.userId).map fun sub =>
    (server.id, sub.id)

/-- Some subscription is to be linked to the server or unlinked from it. -/
def relinks (w : LimitWorld) (server : Server Unit) : Bool :=
  w.subscriptions.any fun sub =>
    accessible granted server sub.userId != decide ((server.id, sub.id) ∈ w.links)

def reconcileServer (w : LimitWorld) (server : Server Unit) : LimitWorld :=
  if w.relinks granted server then
    (w.withLinks ((w.links.filter fun l => l.1 != server.id) ++
      w.allowedLinks granted server)).publishForServers [server.id]
  else w

def withActive (w : LimitWorld) (server : Server Unit) (isActive : Bool) : LimitWorld :=
  { w with servers := w.servers.map fun s =>
      if s.id = server.id then { s with isActive } else s }

def setServerActive (w : LimitWorld) (serverId : Nat) (isActive : Bool) : LimitWorld :=
  match w.servers.find? fun server => server.id == serverId with
  | none => w
  | some server =>
    (w.withActive server isActive).reconcileServer granted { server with isActive }

/-! ## Accounts and subscriptions -/

/-- A new account takes an id that is free. -/
def registerUser (w : LimitWorld) (user : User) : LimitWorld :=
  if w.users.all fun u => u.id != user.id && u.tgId != user.tgId then
    { w with users := w.users ++ [{ user with connLimit := none }] }
  else w

/-- The nodes are told before the rows go. -/
def deleteAccount (w : LimitWorld) (tgId : Int) : LimitWorld :=
  match w.users.find? fun user => user.tgId == tgId with
  | none => w
  | some user =>
    let subs := w.subscriptions.filter fun sub => sub.userId == user.id
    let w' := w.publishForServers ((w.links.filter fun l => subs.any fun s => s.id == l.2).map
      Prod.fst)
    { w' with
      users := w.users.filter fun u => u.id != user.id
      subscriptions := w.subscriptions.filter fun sub => sub.userId != user.id
      links := w.links.filter fun l => !subs.any fun s => s.id == l.2 }

def deliver (w : LimitWorld) (sub : Subscription) : LimitWorld :=
  let servers := w.servers.filter fun server => accessible granted server sub.userId
  (w.withLinks (w.links ++ servers.map fun server => (server.id, sub.id))).publishForServers
    (servers.map Server.id)

/-- The subscription of the user goes to the servers, and is created if there is none. -/
def grantSubscription (w : LimitWorld) (tgId : Int) (sub : Subscription) : LimitWorld :=
  match w.users.find? fun user => user.tgId == tgId with
  | none => w
  | some user =>
    match w.subscriptions.find? fun s => s.userId == user.id with
    | some old => w.deliver granted old
    | none =>
      if w.subscriptions.all fun s => s.id != sub.id then
        (w.withSubscription { sub with userId := user.id, isActive := true }).deliver granted
          { sub with userId := user.id, isActive := true }
      else w

end Access

/-! ## Agents -/

def restart (w : LimitWorld) (agent : String) : LimitWorld :=
  { w with overrides := Function.update w.overrides agent (w.overridesFile agent) }

/-- The agent of a server that pulls replaces all its overrides. -/
def replaceOverrides (w : LimitWorld) (server : Server Unit) : LimitWorld :=
  match server.controlMode, w.published server.id with
  | .pull, some limits =>
    { w with
      overrides := Function.update w.overrides server.agent limits
      overridesFile := Function.update w.overridesFile server.agent limits }
  | _, _ => w

/-- A request of a node, which may announce other capabilities than before. -/
def sync (w : LimitWorld) (serverId : Nat) (capabilitiesChanged : Bool) : LimitWorld :=
  match w.servers.find? fun server => server.id == serverId with
  | none => w
  | some server =>
    (if w.published serverId = none ∨ capabilitiesChanged = true then
      w.publishForServers [serverId] else w).replaceOverrides server

end LimitWorld

inductive LimitEvent
  | setUserConnLimit (tgId : Int) (limit : Option Int) (saves : String → Bool)
  | register (row : Server Unit)
  | setServerActive (serverId : Nat) (isActive : Bool)
  | registerUser (user : User)
  | deleteAccount (tgId : Int)
  | grantSubscription (tgId : Int) (sub : Subscription)
  | restart (agent : String)
  | sync (serverId : Nat) (capabilitiesChanged : Bool)

namespace LimitWorld

def step (granted : Nat → Nat → Bool) (w : LimitWorld) : LimitEvent → LimitWorld
  | .setUserConnLimit tgId limit saves => w.setUserConnLimit tgId limit saves
  | .register row => w.register row
  | .setServerActive serverId isActive => w.setServerActive granted serverId isActive
  | .registerUser user => w.registerUser user
  | .deleteAccount tgId => w.deleteAccount tgId
  | .grantSubscription tgId sub => w.grantSubscription granted tgId sub
  | .restart agent => w.restart agent
  | .sync serverId capabilitiesChanged => w.sync serverId capabilitiesChanged

def run (granted : Nat → Nat → Bool) (events : List LimitEvent) : LimitWorld :=
  events.foldl (step granted) start

end LimitWorld

end AegisVPN
