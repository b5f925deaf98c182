import AegisVPN.Bot.AdminService

namespace AegisVPN
open Library
set_option autoImplicit true

def trialDays : Int := 3

/-- Delete a user and what belongs to the account. -/
def deleteUser (userId : Nat) : DbAct D Unit := fun db =>
  if db.users.any fun u => u.id == userId then
    let owned := (db.subscriptionsOf userId).map Subscription.id
    (.ok (), { db with
      users := db.users.filter fun u => u.id != userId
      subscriptions := db.subscriptions.filter fun s => s.userId != userId
      links := db.links.filter fun l => !owned.contains l.subscriptionId
      devices := db.devices.filter fun d => !owned.contains d.subscriptionId
      grants := db.grants.filter fun g => g.userId != userId
      payments := db.payments.filter fun p => p.userId != userId })
  else (.error .staleData, db)

/-- The user is created on the first start; a later one refreshes the name alone. -/
def registerOrUpdateOnStart (tgId : Int) : BotProg D Unit := do
  let user ← queryOne .users fun db => db.userByTg tgId
  match user with
  | none => do
    let _ ← execute (insertUser ⟨0, tgId, false, false, none⟩)
    commit []
  | some _ => commit []

section Services
variable [DecidableEq D] (settings : ControlSettings D)

/-- The subscriptions are published for the last time before they are deleted. -/
def deleteAccount (tgId : Int) : BotProg D Unit := do
  let user ← queryOne .users fun db => db.userByTg tgId
  match user with
  | none => .ret ()
  | some user => do
    let subs ← query .subscriptions fun db => db.subscriptionsOf user.id
    subs.foldlM (fun _ sub => removeSubscriptionFromServers settings [] sub none) ()
    flush [deleteUser user.id]
    commit []

/-- Rotate token and UUID of a subscription and bring it to the servers again. -/
def rotateSubscription (sub : Subscription) : BotProg D Unit := do
  removeSubscriptionFromServers settings [] sub none
  let subToken ← generateSubToken tokenTries
  let clientUuid ← ask
  let new := { sub with subToken, clientUuid }
  flush (dirtySubscription sub new)
  let servers ← accessibleServersForUser sub.userId
  syncSubscriptionToServers settings new servers
  commit []

/-- What fails is rolled back and reported. -/
def orRollback (p : BotProg D Unit) : BotProg D Unit := do
  let done ← p.attempt
  match done with
  | .ok _ => .ret ()
  | .error _ => rollback

def reissueSubscription (tgId : Int) : BotProg D Unit := do
  let user ← queryOne .users fun db => db.userByTg tgId
  match user with
  | none => .ret ()
  | some user =>
    Prog.whenever (user.isBanned = false) do
      let now ← clock
      let sub ← findUnexpired user.id now
      match sub with
      | none => .ret ()
      | some sub => orRollback (rotateSubscription settings sub)

/-- Start the latest row of the user again for the trial, or create one. -/
def trialDraft (userId : Nat) (now : Int) : BotProg D Draft := do
  let latest ← findLatestSubscription userId
  let expiresAt ← Prog.ofExcept (addDays now trialDays)
  match latest with
  | some sub => do
    let new ← withIdentity
      { sub with isActive := true, startedAt := now, expiresAt, planDays := trialDays }
    .ret (.update sub new)
  | none => newSubscription userId trialDays now expiresAt

/-- The user of a trial, who is registered on the way. -/
def trialUser (tgId : Int) : BotProg D User := do
  let user ← queryOne .users fun db => db.userByTg tgId
  match user with
  | some user => .ret user
  | none => execute (insertUser ⟨0, tgId, false, false, none⟩)

def activateTrial (tgId : Int) : BotProg D Unit := do
  let user ← trialUser tgId
  Prog.whenever (user.isBanned = false ∧ user.trialUsed = false) do
    let now ← clock
    let active ← findUnexpired user.id now
    match active with
    | some _ => .ret ()
    | none => do
      let draft ← trialDraft user.id now
      orRollback do
        deliver settings (dirtyUser user { user with trialUsed := true }) draft
        commit []

end Services

end AegisVPN
