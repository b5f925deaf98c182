import AegisVPN.Bot.SubscriptionService

namespace AegisVPN
open Library
set_option autoImplicit true

def setServerIsActive (serverId : Nat) (isActive : Bool) : DbAct D Unit := fun db =>
  if (db.server serverId).isSome then
    (.ok (), { db with servers := db.servers.map fun s =>
      if s.id = serverId then { s with isActive } else s })
  else (.error .staleData, db)

def setServerIsPublic (serverId : Nat) (isPublic : Bool) : DbAct D Unit := fun db =>
  if (db.server serverId).isSome then
    (.ok (), { db with servers := db.servers.map fun s =>
      if s.id = serverId then { s with isPublic } else s })
  else (.error .staleData, db)

def insertGrant (serverId userId : Nat) : DbAct D Unit := fun db =>
  if (db.grants.any fun g => g.serverId == serverId && g.userId == userId) ||
      (db.server serverId).isNone || !(db.users.any fun u => u.id == userId) then
    (.error .integrity, db)
  else (.ok (), { db with grants := db.grants ++ [⟨serverId, userId⟩] })

def deleteGrant (serverId userId : Nat) : DbAct D Unit := fun db =>
  (.ok (), { db with grants := db.grants.filter fun g =>
    !(g.serverId == serverId && g.userId == userId) })

def deleteLink (subId serverId : Nat) : DbAct D Unit := fun db =>
  (.ok (), { db with links := db.links.filter fun l =>
    !(l.subscriptionId == subId && l.serverId == serverId) })

/-- The links of a subscription, each with its server. -/
def Db.linksOf (db : Db D) (sub : Subscription) : List (SubscriptionServer × Server D) :=
  (db.links.filter fun l => l.subscriptionId == sub.id).filterMap fun l =>
    (db.server l.serverId).map fun s => (l, s)

/-- The subscriptions of a user that are active. -/
def activeSubscriptionsOf (userId : Nat) : BotProg D (List Subscription) :=
  query .subscriptions fun db => db.activeOf userId

def activeSubscriptions : BotProg D (List Subscription) :=
  query .subscriptions fun db => db.subscriptions.filter fun s =>
    s.isActive && db.users.any fun u => u.id == s.userId

/-- What the reconciliation of several subscriptions collects: clients to take from agents, and
servers to publish for. -/
structure Collected where
  removals : List (String × String)
  publications : List Nat
  deriving DecidableEq

section Services
variable [DecidableEq D] (settings : ControlSettings D)

/-- Whether a server that stays takes requests at the agent. -/
def sharedAgent (allowed : List (Server D)) (agent : String) : Bool :=
  allowed.any fun s => pushesTo s && s.agent == agent

/-- One link whose server the subscription may not use any more. -/
def dropLink (sub : Subscription) (allowed : List (Server D)) (collected : Collected)
    (link : SubscriptionServer × Server D) : BotProg D Collected := do
  let removals ← (if link.1.isSynced && pushesTo link.2 &&
      !sharedAgent allowed link.2.agent then do
    let deviceUuids ← query .devices fun db => db.deviceUuids sub
    .ret (collected.removals ++ (sub.clientUuid :: deviceUuids).map fun u => (link.2.agent, u))
  else .ret collected.removals)
  execute (deleteLink sub.id link.1.serverId)
  .ret ⟨removals, if publishesFor link.2 then collected.publications ++ [link.1.serverId]
    else collected.publications⟩

/-- `target` restricts the links and the servers to one server. -/
def reconcileSubscriptionServers (target : Option Nat) (collected : Collected)
    (sub : Subscription) : BotProg D Collected := do
  let accessible ← accessibleServersForUser sub.userId
  let allowed := accessible.filter fun s => target.all fun serverId => s.id == serverId
  let links ← query .servers fun db => db.linksOf sub
  let current := links.filter fun l => target.all fun serverId => l.1.serverId == serverId
  let toAdd := allowed.filter fun s => !(current.map fun l => l.1.serverId).contains s.id
  syncSubscriptionToServers settings sub toAdd
  (current.filter fun l => !(allowed.map Server.id).contains l.1.serverId).foldlM
    (dropLink sub allowed) collected

/-- One request for each client, none of them repeated. -/
def flushRemovals (removals : List (String × String)) : BotProg D Unit :=
  removals.dedup.foldlM (fun _ r => do
    let _ ← Prog.perform (.call (.removeClient r.1 r.2 none))
    .ret ()) ()

def reconcileAll (target : Option Nat) (subs : List Subscription) : BotProg D Unit := do
  let collected ← subs.foldlM (reconcileSubscriptionServers settings target) ⟨[], []⟩
  publishForServers settings [] collected.publications
  flushRemovals collected.removals

def reconcileUserSubscriptions (userId : Nat) : BotProg D Unit := do
  let subs ← activeSubscriptionsOf userId
  reconcileAll settings none subs

def reconcileServerSubscriptions (serverId : Nat) : BotProg D Unit := do
  let subs ← activeSubscriptions
  reconcileAll settings (some serverId) subs

def setServerAccessMode (serverId : Nat) (isPublic : Bool) : BotProg D Unit := do
  execute (setServerIsPublic serverId isPublic)
  reconcileServerSubscriptions settings serverId

/-- The flag is committed before anything that the node could delay. -/
def setServerActive (serverId : Nat) (isActive : Bool) : BotProg D Unit := do
  execute (setServerIsActive serverId isActive)
  commit []
  reconcileServerSubscriptions settings serverId

def grantUserAccess (serverId userId : Nat) : BotProg D Bool := do
  let existing ← query .servers fun db =>
    db.grants.any fun g => g.serverId == serverId && g.userId == userId
  if existing then do
    reconcileUserSubscriptions settings userId
    .ret false
  else do
    execute (insertGrant serverId userId)
    reconcileUserSubscriptions settings userId
    .ret true

def revokeUserAccess (serverId userId : Nat) : BotProg D Bool := do
  let existing ← query .servers fun db =>
    db.grants.any fun g => g.serverId == serverId && g.userId == userId
  if existing then do
    execute (deleteGrant serverId userId)
    reconcileUserSubscriptions settings userId
    .ret true
  else do
    reconcileUserSubscriptions settings userId
    .ret false

end Services

end AegisVPN
