import AegisVPN.Bot.UserService

namespace AegisVPN
open Library
set_option autoImplicit true

section Tasks
variable [DecidableEq D] (settings : ControlSettings D)

/-- The removals of one expired subscription. -/
def expiredCalls (now : Int) (devices : List (Nat × String)) (servers : List (Nat × Server D))
    (sub : Subscription) : List AgentCall :=
  removalCalls
    (sub.clientUuid :: (devices.filter fun d => d.1 == sub.id).map Prod.snd) (some (sub.id, now))
    ((servers.filter fun s => s.1 == sub.id).map Prod.snd)

/-- Expired subscriptions are ended in one transaction, and their clients removed after it. -/
def checkExpiredSubscriptions : BotProg D Unit := do
  let now ← clock
  let subs ← query .subscriptions fun db =>
    db.subscriptions.filter fun s => decide (s.expiresAt ≤ now) && s.isActive
  Prog.whenever (subs ≠ []) do
    let ids := subs.map Subscription.id
    let devices ← query .devices fun db =>
      (db.devices.filter fun d => ids.contains d.subscriptionId).map fun d =>
        (d.subscriptionId, d.uuid)
    let servers ← query .servers fun db => subs.flatMap fun sub =>
      (db.linkedServers sub).map fun server => (sub.id, server)
    let ended := subs.flatMap fun sub => dirtySubscription sub { sub with isActive := false }
    publishForServers settings ended (servers.map fun s => s.2.id)
    flush ended
    let calls := subs.flatMap (expiredCalls now devices servers)
    commit calls
    requestAll calls

end Tasks

/-! ## Operations -/

/-- What is done to users and their subscriptions. -/
inductive BotOp
  | registerOrUpdateOnStart (tgId : Int)
  | plategaCallback (txId : String) (status : PlategaStatus)
  | reconcilePendingPlatega
  | processSuccessfulPayment (tgId : Int) (planId : Nat) (chargeId : String)
  | extendActiveNonLifetimeSubscriptions (days : Int)
  | grantSubscription (tgId : Int) (days : Int)
  | grantLifetimeSubscription (tgId : Int)
  | revokeSubscription (tgId : Int)
  | setUserBanStatus (tgId : Int) (isBanned : Bool)
  | deleteAccount (tgId : Int)
  | reissueSubscription (tgId : Int)
  | activateTrial (tgId : Int)
  | checkExpiredSubscriptions
  | collectLinks (subToken : String)
  deriving DecidableEq

def BotOp.program [DecidableEq D] (settings : ControlSettings D) : BotOp → BotProg D Unit
  | .registerOrUpdateOnStart tgId => AegisVPN.registerOrUpdateOnStart tgId
  | .plategaCallback txId status => AegisVPN.plategaCallback settings txId status
  | .reconcilePendingPlatega => AegisVPN.reconcilePendingPlatega settings
  | .processSuccessfulPayment tgId planId chargeId =>
    AegisVPN.processSuccessfulPayment settings tgId planId chargeId
  | .extendActiveNonLifetimeSubscriptions days =>
    AegisVPN.extendActiveNonLifetimeSubscriptions days
  | .grantSubscription tgId days => AegisVPN.grantSubscription settings tgId days
  | .grantLifetimeSubscription tgId => AegisVPN.grantLifetimeSubscription settings tgId
  | .revokeSubscription tgId => AegisVPN.revokeSubscription settings tgId
  | .setUserBanStatus tgId isBanned => AegisVPN.setUserBanStatus settings tgId isBanned
  | .deleteAccount tgId => AegisVPN.deleteAccount settings tgId
  | .reissueSubscription tgId => AegisVPN.reissueSubscription settings tgId
  | .activateTrial tgId => AegisVPN.activateTrial settings tgId
  | .checkExpiredSubscriptions => AegisVPN.checkExpiredSubscriptions settings
  | .collectLinks subToken => do
    let _ ← AegisVPN.collectLinks settings subToken
    .ret ()

/-- The bot with its database, and nodes that do what they like. -/
abbrev Bot (D τ : Type) := Pool (Db D) Source Nat AgentCall τ BotOp BotError

end AegisVPN
