import AegisVPN.Bot.SubscriptionService

namespace AegisVPN
open Library
set_option autoImplicit true

/-! ## Payments -/

/-- Whether the claim takes the row; a missing status is not unequal to anything. -/
def Payment.claimable (p : Payment) : Bool := p.status.any fun s => s != .confirmed

/-- The conditional update that only one caller gets through. -/
def claimPayment (id : Nat) : DbAct D Bool := fun db =>
  (.ok (db.payments.any fun p => p.id == id && p.claimable), { db with
    payments := db.payments.map fun p =>
      if p.id == id && p.claimable then { p with status := some .confirmed } else p })

def setPaymentStatus (id : Nat) (status : PaymentStatus) : DbAct D Unit := fun db =>
  if db.payments.any fun p => p.id == id then
    (.ok (), { db with payments := db.payments.map fun p =>
      if p.id = id then { p with status := some status } else p })
  else (.error .staleData, db)

def insertPayment (payment : Payment) : DbAct D Unit := fun db =>
  if (db.payments.any fun p => p.tgPaymentId == payment.tgPaymentId) ||
      !(db.users.any fun u => u.id == payment.userId) then (.error .integrity, db)
  else (.ok (), { db with payments := db.payments ++
    [{ payment with id := nextId (db.payments.map Payment.id) }] })

/-- Note that the days of a payment are added in this flush. -/
def recordGrant (payment : PaymentProvider × String) : DbAct D Unit := fun db =>
  (.ok (), { db with granted := db.granted ++ [payment] })

def Db.paymentByTg (db : Db D) (tgPaymentId : String) : Except BotError (Option Payment) :=
  scalarOneOrNone (db.payments.filter fun p => p.tgPaymentId == tgPaymentId)

theorem paymentByTg_mem {db : Db D} (h : db.paymentByTg key = .ok (some row)) :
    row ∈ db.payments := by
  have hmem : row ∈ db.payments.filter fun p => p.tgPaymentId == key :=
    scalarOneOrNone_eq h ▸ List.mem_singleton_self row
  exact (List.mem_filter.1 hmem).1

section Services
variable [DecidableEq D] (settings : ControlSettings D)

/-- A subscription as it will be written: a row that is there already, or a new one. -/
inductive Draft
  | update (old new : Subscription)
  | insert (new : Subscription)

/-- Write the draft, after what else is pending, and return the row as the session holds it. -/
def Draft.flush (pending : Pending D) : Draft → BotProg D Subscription
  | .update old new => do
    AegisVPN.flush (pending ++ dirtySubscription old new)
    .ret new
  | .insert new => execute (pending.write.andThen (insertSubscription new))

/-- What the flush of a draft does to the database. -/
def Draft.write (pending : Pending D) : Draft → DbAct D Subscription
  | .update old new =>
    Pending.write (pending ++ dirtySubscription old new) |>.andThen fun db => (.ok new, db)
  | .insert new => pending.write.andThen (insertSubscription new)

/-- A new active subscription of a user. -/
def newSubscription (userId : Nat) (planDays now expiresAt : Int) : BotProg D Draft := do
  let token ← generateSubToken tokenTries
  let uuid ← ask
  .ret (.insert ⟨0, userId, token, none, uuid, planDays, now, expiresAt, true⟩)

/-- Renew the live subscription, restore the most recent expired one, or create a new one. -/
def paidDraft (userId : Nat) (planDays now : Int) : BotProg D Draft := do
  let active ← findActive userId
  match active with
  | some sub => do
    let expiresAt ← Prog.ofExcept (addDays (max sub.expiresAt now) planDays)
    .ret (.update sub { sub with expiresAt })
  | none => do
    let expired ← query .subscriptions fun db =>
      largest Subscription.expiresAt (db.subscriptionsOf userId)
    let expiresAt ← Prog.ofExcept (addDays now planDays)
    match expired with
    | some sub =>
      if sub.expiresAt < now then
        .ret (.update sub { sub with isActive := true, planDays, expiresAt })
      else newSubscription userId planDays now expiresAt
    | none => newSubscription userId planDays now expiresAt

/-- Everything that follows the choice of the row. -/
def deliver (pending : Pending D) (draft : Draft) : BotProg D Unit := do
  let sub ← draft.flush pending
  let servers ← accessibleServersForUser sub.userId
  syncSubscriptionToServers settings sub servers

/-- `payment` is what it is called for. -/
def applyPaidSubscription (pending : Pending D) (userId : Nat) (planDays : Int)
    (payment : PaymentProvider × String) : BotProg D Unit := do
  let now ← clock
  let draft ← paidDraft userId planDays now
  deliver settings (pending ++ [recordGrant payment]) draft

def confirmPlategaPayment (payment : Payment) : BotProg D Bool := do
  let claimed ← execute (claimPayment payment.id)
  if claimed then do
    let user ← query .users fun db => db.users.any fun u => u.id == payment.userId
    if user then do
      withLock payment.userId do
        applyPaidSubscription settings [] payment.userId payment.planDays
          (payment.provider, payment.tgPaymentId)
        commit []
      .ret true
    else do
      commit []
      .ret false
  else do
    rollback
    .ret false

/-! ## Platega callbacks -/

inductive PlategaStatus
  | confirmed
  | chargebacked
  | canceled
  | other
  deriving DecidableEq

/-- A status that is neither `CONFIRMED` nor pending any more, as it is stored. -/
def PlategaStatus.stored? : PlategaStatus → Option PaymentStatus
  | .chargebacked => some .chargeback
  | .canceled => some .canceled
  | _ => none

/-- What the confirmation uses of the row that the handler loaded: not its status. -/
def Payment.unread (p : Payment) : Payment := { p with status := none }

/-- Alerts go out between the read and the write of the status. -/
def plategaCallback (txId : String) (status : PlategaStatus) : BotProg D Unit :=
  let tgPaymentId := "platega_" ++ txId
  match status with
  | .confirmed => do
    let payment ← queryOne .payments fun db =>
      (db.paymentByTg tgPaymentId).map fun p => p.map Payment.unread
    match payment with
    | none => .ret ()
    | some payment => do
      let _ ← confirmPlategaPayment settings payment
      .ret ()
  | status =>
    match status.stored? with
    | none => .ret ()
    | some stored => do
      let payment ← queryOne .payments fun db => db.paymentByTg tgPaymentId
      match payment with
      | none => .ret ()
      | some payment =>
        Prog.whenever (payment.status ≠ some .confirmed) do
          flush (if payment.status = some stored then [] else
            [setPaymentStatus payment.id stored])
          commit []

def plategaStatus (text : String) : PlategaStatus :=
  if text = "CONFIRMED" then .confirmed
  else if text = "CHARGEBACKED" then .chargebacked
  else if text = "CANCELED" then .canceled
  else .other

/-- One payment of a sweep, in a session of its own. -/
def reconcileRow (row : Payment) : BotProg D Unit := do
  let status ← ask
  match plategaStatus status with
  | .other => .ret ()
  | status => do
    let payment ← query .payments fun db => db.payments.find? fun p => p.id == row.id
    match payment with
    | none => rollback
    | some payment =>
      if payment.status = some .pending then
        match status.stored? with
        | none => do
          let _ ← confirmPlategaPayment settings payment.unread
          .ret ()
        | some stored => do
          flush [setPaymentStatus payment.id stored]
          commit []
      else rollback

def sixHours : Int := 21600000000

def reconcilePendingPlatega : BotProg D Unit := do
  let now ← clock
  let pending ← query .payments fun db => db.payments.filter fun p =>
    p.provider == .platega && p.status == some .pending && decide (now - sixHours ≤ p.createdAt)
  rollback
  pending.foldlM (fun _ row => reconcileRow settings row) ()

/-! ## Telegram Stars -/

def processSuccessfulPayment (tgId : Int) (planId : Nat) (chargeId : String) :
    BotProg D Unit := do
  let user ← queryOne .users fun db => db.userByTg tgId
  let plan ← query .plans fun db => db.plans.find? fun p => p.id == planId
  match user, plan with
  | some user, some plan => do
    let createdAt ← clock
    withLock user.id do
      applyPaidSubscription settings
        [insertPayment ⟨0, user.id, chargeId, plan.days, .stars, none, createdAt⟩] user.id
        plan.days (.stars, chargeId)
      commit []
  | _, _ => .ret ()

end Services

end AegisVPN
