import AegisVPN.Bot.PaymentService

namespace AegisVPN
open Library
set_option autoImplicit true

section Services
variable [DecidableEq D] (settings : ControlSettings D)

/-- Push every active subscription that is not for a lifetime by some days. -/
def extendedSubscription (now days : Int) (sub : Subscription) : Except BotError Subscription := do
  if isLifetimeSubscription sub then .ok sub
  else do
    let expiresAt ← addDays (max sub.expiresAt now) days
    .ok { sub with expiresAt, planDays := days }

/-- Nothing is published here. -/
def extendActiveNonLifetimeSubscriptions (days : Int) : BotProg D Unit :=
  Prog.whenever (0 < days) do
    let now ← clock
    let subs ← query .subscriptions fun db =>
      db.subscriptions.filter fun s => s.isActive && decide (now < s.expiresAt)
    let extended ← Prog.ofExcept (subs.mapM (extendedSubscription now days))
    flush ((subs.zip extended).flatMap fun (old, new) => dirtySubscription old new)
    commit []

/-- A row keeps its token and its UUID if it has them. -/
def withIdentity (sub : Subscription) : BotProg D Subscription := do
  let subToken ← (if sub.subToken = "" then generateSubToken tokenTries else .ret sub.subToken)
  let clientUuid ← (if sub.clientUuid = "" then ask else .ret sub.clientUuid)
  .ret { sub with subToken, clientUuid }

/-- Renew the latest row of the user, start it again, or create a new one. -/
def grantDraft (userId : Nat) (days now : Int) : BotProg D Draft := do
  let latest ← findLatestSubscription userId
  match latest with
  | some sub =>
    if sub.isActive = true ∧ now < sub.expiresAt then do
      let expiresAt ← Prog.ofExcept (addDays (max sub.expiresAt now) days)
      .ret (.update sub { sub with expiresAt, planDays := days })
    else do
      let expiresAt ← Prog.ofExcept (addDays now days)
      let new ← withIdentity
        { sub with isActive := true, startedAt := now, expiresAt, planDays := days }
      .ret (.update sub new)
  | none => do
    let expiresAt ← Prog.ofExcept (addDays now days)
    newSubscription userId days now expiresAt

def grantSubscription (tgId : Int) (days : Int) : BotProg D Unit := do
  let user ← queryOne .users fun db => db.userByTg tgId
  match user with
  | none => .ret ()
  | some user => Prog.whenever (0 < days) do
    let now ← clock
    let draft ← grantDraft user.id days now
    deliver settings [] draft
    commit []

def lifetimeDraft (userId : Nat) (now : Int) : BotProg D Draft := do
  let latest ← findLatestSubscription userId
  match latest with
  | some sub => do
    let new ← withIdentity { sub with
      isActive := true
      startedAt := if sub.expiresAt ≤ now then now else sub.startedAt
      expiresAt := lifetimeExpiresAt
      planDays := lifetimePlanDays }
    .ret (.update sub new)
  | none => newSubscription userId lifetimePlanDays now lifetimeExpiresAt

def grantLifetimeSubscription (tgId : Int) : BotProg D Unit := do
  let user ← queryOne .users fun db => db.userByTg tgId
  match user with
  | none => .ret ()
  | some user => do
    let now ← clock
    let draft ← lifetimeDraft user.id now
    deliver settings [] draft
    commit []

/-- End the active subscription of a user now, with whatever else waits in the session. -/
def endSubscription (pending : Pending D) (sub : Subscription) : BotProg D Unit := do
  let now ← clock
  removeSubscriptionFromServers settings
    (pending ++ dirtySubscription sub { sub with isActive := false, expiresAt := now }) sub none

def revokeSubscription (tgId : Int) : BotProg D Unit := do
  let user ← queryOne .users fun db => db.userByTg tgId
  match user with
  | none => .ret ()
  | some user => do
    let sub ← findActive user.id
    match sub with
    | none => .ret ()
    | some sub => do
      endSubscription settings [] sub
      commit []

def setUserBanStatus (tgId : Int) (isBanned : Bool) : BotProg D Unit := do
  let user ← queryOne .users fun db => db.userByTg tgId
  match user with
  | none => .ret ()
  | some user => do
    let banned := dirtyUser user { user with isBanned }
    let sub ← (if isBanned then findActive user.id else .ret none)
    let _ ← (match sub with
      | some sub => endSubscription settings banned sub
      | none => flush banned)
    commit []

end Services

end AegisVPN
