import AegisVPN.Control.State

namespace AegisVPN
open Library
set_option autoImplicit true

def microsPerDay : Int := 86400000000

def maxDatetime : Int := 253402300799999999

/-- A date that many days later; the calendar ends with the year 9999. -/
def addDays (t : Int) (days : Int) : Except BotError Int :=
  if t + days * microsPerDay ≤ maxDatetime then .ok (t + days * microsPerDay)
  else .error .overflow

/-- 2099-12-31 23:59:59. -/
def lifetimeExpiresAt : Int := 4102444799000000

def lifetimePlanDays : Int := 0

def isLifetimeSubscription (sub : Subscription) : Bool :=
  sub.planDays == lifetimePlanDays || decide (lifetimeExpiresAt ≤ sub.expiresAt)

/-! ## Queries -/

def Db.userByTg (db : Db D) (tgId : Int) : Except BotError (Option User) :=
  scalarOneOrNone (db.users.filter fun u => u.tgId == tgId)

theorem userByTg_knows {db : Db D} (h : db.userByTg tgId = .ok (some user)) :
    user ∈ db.users ∧ user.tgId = tgId := by
  have hmem : user ∈ db.users.filter fun u => u.tgId == tgId :=
    scalarOneOrNone_eq h ▸ List.mem_singleton_self user
  obtain ⟨hmem, htg⟩ := List.mem_filter.1 hmem
  exact ⟨hmem, beq_iff_eq.1 htg⟩

def Db.subscriptionsOf (db : Db D) (userId : Nat) : List Subscription :=
  db.subscriptions.filter fun s => s.userId == userId

def Db.activeOf (db : Db D) (userId : Nat) : List Subscription :=
  (db.subscriptionsOf userId).filter Subscription.isActive

/-- The lookup of the active subscription. -/
def findActive (userId : Nat) : BotProg D (Option Subscription) :=
  queryOne .subscriptions fun db => scalarOneOrNone (db.activeOf userId)

/-- The lookup of the active subscription that has not expired. -/
def findUnexpired (userId : Nat) (now : Int) : BotProg D (Option Subscription) :=
  queryOne .subscriptions fun db =>
    scalarOneOrNone ((db.activeOf userId).filter fun s => decide (now < s.expiresAt))

def findLatestSubscription (userId : Nat) : BotProg D (Option Subscription) :=
  query .subscriptions fun db => (db.subscriptionsOf userId).argmax Subscription.id

/-- The servers that a user may use. -/
def Db.accessibleServers (db : Db D) (userId : Nat) : List (Server D) :=
  db.servers.filter fun s => s.isActive &&
    (s.isPublic || db.grants.any fun g => g.serverId == s.id && g.userId == userId)

def accessibleServersForUser (userId : Nat) : BotProg D (List (Server D)) :=
  query .servers fun db => db.accessibleServers userId

def Db.linkedServers (db : Db D) (sub : Subscription) : List (Server D) :=
  db.servers.filter fun s => db.linked s.id sub

def Db.deviceUuids (db : Db D) (sub : Subscription) : List String :=
  (db.devices.filter fun d => d.subscriptionId == sub.id).map Device.uuid

/-- A token that no subscription has. The loop ends by itself unless random tokens keep
colliding; it is cut off after that many collisions. -/
def generateSubToken : Nat → BotProg D String
  | 0 => .raise .integrity
  | tries + 1 => do
    let token ← ask
    let taken ← queryOne .subscriptions fun db =>
      scalarOneOrNone ((db.subscriptions.filter fun s => s.subToken == token).map Subscription.id)
    if taken.isNone then .ret token else generateSubToken tries

def tokenTries : Nat := 8

/-! ## Bringing a subscription to its servers -/

def setLink (subId serverId : Nat) (isSynced : Bool) : DbAct D Unit := fun db =>
  if db.links.any fun l => l.subscriptionId == subId && l.serverId == serverId then
    (.ok (), { db with links := db.links.map fun l =>
      if l.subscriptionId = subId ∧ l.serverId = serverId then { l with isSynced } else l })
  else (.error .staleData, db)

def insertLink (subId serverId : Nat) (isSynced : Bool) : DbAct D Unit := fun db =>
  if (db.links.any fun l => l.subscriptionId == subId && l.serverId == serverId) ||
      !(db.subscriptions.any fun s => s.id == subId) || (db.server serverId).isNone then
    (.error .integrity, db)
  else (.ok (), { db with links := db.links ++ [⟨subId, serverId, isSynced⟩] })

/-- What is to be written for one server: the flag of the link that was loaded, or a new link. -/
def dirtyLink (subId : Nat) (loaded : List SubscriptionServer) (result : Nat × Bool) :
    Pending D :=
  match loaded.find? fun l => l.serverId == result.1 with
  | some link => if link.isSynced = result.2 then [] else [setLink subId result.1 result.2]
  | none => [insertLink subId result.1 result.2]

section Services
variable [DecidableEq D] (settings : ControlSettings D)

/-- The base client and every device that may connect, for all servers at once. -/
def syncClients (sub : Subscription) (devices : List Device) : List (String × String) :=
  (sub.clientUuid, subscriptionEmail sub) :: devices.map fun d => (d.uuid, deviceEmail sub d)

def syncToServer (clients : List (String × String)) (server : Server D) :
    BotProg D (Nat × Bool) := do
  if pushesTo server then do
    let success ← request (.bulkAdd server.agent clients)
    .ret (server.id, success)
  else .ret (server.id, false)

def syncToServers (clients : List (String × String)) (servers : List (Server D)) :
    BotProg D (List (Nat × Bool)) :=
  servers.foldlM (fun results server => do
    let result ← syncToServer clients server
    .ret (results ++ [result])) []

def syncSubscriptionToServers (sub : Subscription) (servers : List (Server D)) :
    BotProg D Unit :=
  Prog.whenever (servers ≠ []) do
    let devices ← query .devices fun db => db.activeDevices sub
    let results ← syncToServers (syncClients sub devices) servers
    let loaded ← query .servers fun db => db.links.filter fun l =>
      l.subscriptionId == sub.id && (results.map Prod.fst).contains l.serverId
    flush (results.flatMap (dirtyLink sub.id loaded))
    publishForServers settings [] (results.map Prod.fst)

/-- The removals that are sent out for a subscription that is to lose its servers. -/
def removalCalls (uuids : List String) (expired : Option (Nat × Int))
    (servers : List (Server D)) : List AgentCall :=
  (servers.filter fun s => pushesTo s).flatMap fun s =>
    uuids.map fun uuid => .removeClient s.agent uuid expired

/-- `pending` is what the caller has changed and not flushed yet. -/
def removeSubscriptionFromServers (pending : Pending D) (sub : Subscription)
    (expired : Option (Nat × Int)) : BotProg D Unit := do
  let servers ← query .servers fun db => db.linkedServers sub
  let deviceUuids ← query .devices fun db => db.deviceUuids sub
  requestAll (removalCalls (sub.clientUuid :: deviceUuids) expired servers)
  flush pending
  publishForServers settings [] (servers.map Server.id)

/-- The part of a subscription fetch that ends an expired subscription; `false` if there is
nothing to fetch any more. -/
def collectLinks (subToken : String) : BotProg D Bool := do
  let sub ← queryOne .subscriptions fun db =>
    scalarOneOrNone (db.subscriptions.filter fun s =>
      (s.subToken == subToken || s.legacySubToken == some subToken) && s.isActive)
  match sub with
  | none => .ret false
  | some sub => do
    let now ← clock
    if sub.expiresAt ≤ now then do
      removeSubscriptionFromServers settings
        (dirtySubscription sub { sub with isActive := false }) sub (some (sub.id, now))
      commit []
      .ret false
    else .ret true

end Services

end AegisVPN
