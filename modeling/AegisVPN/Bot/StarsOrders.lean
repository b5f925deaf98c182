import Mathlib.Data.List.Induction
import AegisVPN.Library.PyInts

namespace AegisVPN
open Library
set_option autoImplicit true

/-! # Orders that are paid in Stars -/

/-! ## Payloads -/

/-- The payload of an invoice, in the bot as on the site. -/
def invoicePayload (renewing : Bool) (planId tgId : Int) : List Char :=
  ['_'].intercalate [if renewing then "renew".toList else "buy".toList, "plan".toList,
    pyStr planId, pyStr tgId]

def ordersPlan (payload : List Char) : Bool :=
  "buy_plan_".toList.isPrefixOf payload || "renew_plan_".toList.isPrefixOf payload

theorem underscore_not_mem_pyStr (n : Int) : '_' ∉ pyStr n :=
  not_mem_pyStr (by decide) (by decide)

theorem splitOn_invoicePayload (renewing : Bool) (planId tgId : Int) :
    (invoicePayload renewing planId tgId).splitOn '_' =
      [if renewing then "renew".toList else "buy".toList, "plan".toList, pyStr planId,
        pyStr tgId] := by
  refine List.splitOn_intercalate '_' ?_ (List.cons_ne_nil _ _)
  simp only [List.mem_cons, List.not_mem_nil, or_false, forall_eq_or_imp, forall_eq]
  refine ⟨?_, by decide, underscore_not_mem_pyStr planId, underscore_not_mem_pyStr tgId⟩
  cases renewing <;> decide

theorem ordersPlan_invoicePayload (renewing : Bool) (planId tgId : Int) :
    ordersPlan (invoicePayload renewing planId tgId) = true := by
  cases renewing <;> simp [ordersPlan, invoicePayload, List.intercalate, List.intersperse]

/-! ## The bot and the site -/

structure SalePlan where
  id : Int
  days : Int
  starsPrice : Int
  isActive : Bool
  deriving DecidableEq

structure Buyer where
  id : Nat
  tgId : Int
  isBanned : Bool
  termsAccepted : Bool
  deriving DecidableEq

structure SoldSubscription where
  userId : Nat
  isActive : Bool
  deriving DecidableEq

structure StarsInvoice where
  payload : List Char
  amount : Int
  deriving DecidableEq

structure StarsPayment where
  userId : Nat
  chargeId : String
  starsAmount : Int
  planDays : Int
  deriving DecidableEq

/-- What Telegram tells about a payment. -/
structure StarsCharge where
  invoice : StarsInvoice
  chargeId : String
  deriving DecidableEq

/-- The rows, the invoices that Telegram knows, those whose pre-checkout was answered with yes and
that are not paid yet, what was charged, and the payments. -/
structure StarsWorld where
  plans : List SalePlan
  users : List Buyer
  subscriptions : List SoldSubscription
  invoices : List StarsInvoice
  approved : List StarsInvoice
  charged : List StarsCharge
  payments : List StarsPayment

def StarsWorld.start : StarsWorld := ⟨[], [], [], [], [], [], []⟩

def StarsWorld.plan (w : StarsWorld) (planId : Int) : Option SalePlan :=
  w.plans.find? fun plan => plan.id == planId

def StarsWorld.userByTg (w : StarsWorld) (tgId : Int) : Option Buyer :=
  w.users.find? fun user => user.tgId == tgId

def StarsWorld.activeSubscriptions (w : StarsWorld) (userId : Nat) : List SoldSubscription :=
  w.subscriptions.filter fun sub => sub.userId = userId ∧ sub.isActive = true

/-- The row of a user is there before and after. -/
def StarsWorld.keepsUser (w : StarsWorld) (users : List Buyer) (userId : Nat) : Bool :=
  w.users.any fun old => old.id == userId &&
    users.any fun user => user.id == userId && user.tgId == old.tgId

/-- Subscriptions and payments go with their users. -/
def StarsWorld.withUsers (w : StarsWorld) (users : List Buyer) : StarsWorld :=
  { w with
    users := users
    subscriptions := w.subscriptions.filter fun sub => w.keepsUser users sub.userId
    payments := w.payments.filter fun payment => w.keepsUser users payment.userId }

/-- The invoice of a plan that is sold for Stars. -/
def SalePlan.invoice (plan : SalePlan) (renewing : Bool) (tgId : Int) : StarsInvoice :=
  ⟨invoicePayload renewing plan.id tgId, plan.starsPrice⟩

def createInvoice (w : StarsWorld) (tgId planId : Int) (renewing : Bool) : Option StarsInvoice :=
  match w.plan planId with
  | none => none
  | some plan =>
    if plan.isActive = false ∨ plan.starsPrice = 0 then none
    else some (plan.invoice renewing tgId)

inductive CheckoutError
  | authRequired
  | termsRequired
  | planUnavailable
  deriving DecidableEq

def CheckoutError.status : CheckoutError → Nat
  | .authRequired => 401
  | .termsRequired => 409
  | .planUnavailable => 404

def CheckoutError.text : CheckoutError → String
  | .authRequired => "auth_required"
  | .termsRequired => "terms_required"
  | .planUnavailable => "plan_unavailable"

/-- A checkout on the site that is to be paid in Stars. -/
def checkoutStars (w : StarsWorld) (userId : Nat) (planId : Int) (renewing : Bool) :
    Except CheckoutError StarsInvoice :=
  match w.users.find? fun user => user.id == userId with
  | none => .error .authRequired
  | some user =>
    if user.isBanned then .error .authRequired
    else if user.termsAccepted = false then .error .termsRequired
    else
      match w.plan planId with
      | none => .error .planUnavailable
      | some plan =>
        if plan.isActive = false ∨ plan.starsPrice = 0 then .error .planUnavailable
        else .ok (plan.invoice renewing user.tgId)

/-- `int(parts[i])`, with its `IndexError` and `ValueError`. -/
def intPart (parts : List (List Char)) (i : Nat) : Option Int := parts[i]?.bind pyInt

def preCheckout (w : StarsWorld) (payload : List Char) (totalAmount : Int) : Except String Unit :=
  if ordersPlan payload = false then .error "Invalid order"
  else
    match intPart (payload.splitOn '_') 2 with
    | none => .error "Invalid order"
    | some planId =>
      match w.plan planId with
      | none => .error "Plan no longer available"
      | some plan =>
        if plan.isActive = false then .error "Plan no longer available"
        else if plan.starsPrice ≠ totalAmount then .error "Price mismatch, please retry"
        else .ok ()

/-- The payment of a paid invoice. `none` is an exception, after which nothing is recorded: a
payload that is no order, several active subscriptions of the user, or a second row with one
charge. -/
def processSuccessful (w : StarsWorld) (payload : List Char) (totalAmount : Int)
    (chargeId : String) : Option (Option StarsPayment) :=
  if ordersPlan payload = false then some none
  else
    match intPart (payload.splitOn '_') 2, intPart (payload.splitOn '_') 3 with
    | some planId, some tgId =>
      match w.userByTg tgId, w.plan planId with
      | some user, some plan =>
        if 1 < (w.activeSubscriptions user.id).length then none
        else if w.payments.any fun payment => payment.chargeId == chargeId then none
        else some (some ⟨user.id, chargeId, totalAmount, plan.days⟩)
      | _, _ => some none
    | _, _ => none

/-! ## Runs -/

/-- Rows may change in any way, as subscriptions do when they are granted. Telegram asks about
invoices that it knows, charges once for each yes, and may tell of a charge more than once. A
payment may fail to be stored for other reasons. -/
inductive StarsEvent
  | editPlans (plans : List SalePlan)
  | editUsers (users : List Buyer)
  | editSubscriptions (subscriptions : List SoldSubscription)
  | order (tgId planId : Int) (renewing : Bool)
  | checkout (userId : Nat) (planId : Int) (renewing : Bool)
  | preCheckout (invoice : StarsInvoice)
  | charge (charge : StarsCharge)
  | paid (charge : StarsCharge) (stored : Bool)

/-- The invoice that an event makes, and for whom. -/
def StarsEvent.invoice? (w : StarsWorld) : StarsEvent → Option StarsInvoice
  | .order tgId planId renewing => createInvoice w tgId planId renewing
  | .checkout userId planId renewing => (checkoutStars w userId planId renewing).toOption
  | _ => none

def ordersStep (w : StarsWorld) : StarsEvent → StarsWorld
  | .editPlans plans => { w with plans := plans }
  | .editUsers users => w.withUsers users
  | .editSubscriptions subscriptions => { w with subscriptions := subscriptions }
  | .order tgId planId renewing =>
    { w with invoices := (createInvoice w tgId planId renewing).toList ++ w.invoices }
  | .checkout userId planId renewing =>
    { w with invoices := (checkoutStars w userId planId renewing).toOption.toList ++ w.invoices }
  | .preCheckout invoice =>
    if invoice ∈ w.invoices ∧
        (AegisVPN.preCheckout w invoice.payload invoice.amount).isOk = true then
      { w with approved := invoice :: w.approved }
    else w
  | .charge charge =>
    if charge.invoice ∈ w.approved ∧ ∀ known ∈ w.charged, known.chargeId ≠ charge.chargeId then
      { w with
        approved := w.approved.erase charge.invoice
        charged := charge :: w.charged }
    else w
  | .paid charge stored =>
    if charge ∈ w.charged ∧ stored = true then
      { w with
        payments := w.payments ++ ((processSuccessful w charge.invoice.payload
          charge.invoice.amount charge.chargeId).bind id).toList }
    else w

def ordersRun (events : List StarsEvent) : StarsWorld := events.foldl ordersStep .start

/-! ## Where invoices come from -/

/-- The event makes the invoice for a plan and a Telegram account. -/
def Orders (w : StarsWorld) (event : StarsEvent) (invoice : StarsInvoice) (planId tgId : Int) :
    Prop :=
  event.invoice? w = some invoice ∧ ∃ renewing,
    invoice.payload = invoicePayload renewing planId tgId ∧
    (event = .order tgId planId renewing ∨
      ∃ user ∈ w.users, user.tgId = tgId ∧ user.isBanned = false ∧ user.termsAccepted = true ∧
        event = .checkout user.id planId renewing)

theorem plan_spec {w : StarsWorld} (h : w.plan planId = some plan) :
    plan ∈ w.plans ∧ plan.id = planId :=
  ⟨List.mem_of_find?_eq_some h, by simpa using List.find?_some h⟩

theorem createInvoice_spec {w : StarsWorld}
    (h : createInvoice w tgId planId renewing = some invoice) :
    invoice.payload = invoicePayload renewing planId tgId := by
  unfold createInvoice at h
  split at h
  · cases h
  · rename_i plan hplan
    split at h
    · cases h
    · cases h
      rw [SalePlan.invoice, (plan_spec hplan).2]

theorem checkoutStars_spec {w : StarsWorld}
    (h : checkoutStars w userId planId renewing = .ok invoice) :
    ∃ user ∈ w.users, user.id = userId ∧ user.isBanned = false ∧ user.termsAccepted = true ∧
      invoice.payload = invoicePayload renewing planId user.tgId := by
  unfold checkoutStars at h
  split at h
  · cases h
  · rename_i user huser
    split at h
    · cases h
    · rename_i hbanned
      split at h
      · cases h
      · rename_i hterms
        split at h
        · cases h
        · rename_i plan hplan
          split at h
          · cases h
          · cases h
            refine ⟨user, List.mem_of_find?_eq_some huser, by simpa using List.find?_some huser,
              by simpa using hbanned, by simpa using hterms, ?_⟩
            rw [SalePlan.invoice, (plan_spec hplan).2]

theorem invoice?_spec {w : StarsWorld} {event : StarsEvent}
    (h : event.invoice? w = some invoice) :
    ∃ planId tgId, Orders w event invoice planId tgId := by
  cases event with
  | order tgId planId renewing =>
    exact ⟨planId, tgId, h, renewing, createInvoice_spec h, .inl rfl⟩
  | checkout userId planId renewing =>
    have hcheckout : checkoutStars w userId planId renewing = .ok invoice := by
      cases hmade : checkoutStars w userId planId renewing with
      | error e =>
        rw [StarsEvent.invoice?, hmade] at h
        cases h
      | ok made =>
        rw [StarsEvent.invoice?, hmade] at h
        cases h
        rfl
    obtain ⟨user, huser, rfl, hbanned, hterms, hpayload⟩ := checkoutStars_spec hcheckout
    exact ⟨planId, user.tgId, h, renewing, hpayload, .inr ⟨user, huser, rfl, hbanned, hterms, rfl⟩⟩
  | editPlans plans => cases h
  | editUsers users => cases h
  | editSubscriptions subscriptions => cases h
  | preCheckout invoice => cases h
  | charge charge => cases h
  | paid charge stored => cases h

/-- The invoice was made for the plan and the account before. -/
def Ordered (events : List StarsEvent) (invoice : StarsInvoice) (planId tgId : Int) : Prop :=
  ∃ before event after, events = before ++ event :: after ∧
    Orders (ordersRun before) event invoice planId tgId

/-- The plan was sold at the price of the invoice when its pre-checkout was answered. -/
def Confirmed (events : List StarsEvent) (invoice : StarsInvoice) (planId : Int) : Prop :=
  ∃ before after plan, events = before ++ .preCheckout invoice :: after ∧
    (ordersRun before).plan planId = some plan ∧ plan.isActive = true ∧
    plan.starsPrice = invoice.amount

theorem Ordered.append (h : Ordered events invoice planId tgId) (later : List StarsEvent) :
    Ordered (events ++ later) invoice planId tgId := by
  obtain ⟨before, event, after, rfl, hmade⟩ := h
  exact ⟨before, event, after ++ later, by rw [List.append_assoc, List.cons_append], hmade⟩

theorem Confirmed.append (h : Confirmed events invoice planId) (later : List StarsEvent) :
    Confirmed (events ++ later) invoice planId := by
  obtain ⟨before, after, plan, rfl, hsold⟩ := h
  exact ⟨before, after ++ later, plan, by rw [List.append_assoc, List.cons_append], hsold⟩

/-! ## What the handlers read of a payload -/

theorem intPart_plan (renewing : Bool) (planId tgId : Int) :
    intPart ((invoicePayload renewing planId tgId).splitOn '_') 2 = some planId := by
  rw [splitOn_invoicePayload]
  exact pyInt_pyStr planId

theorem intPart_account (renewing : Bool) (planId tgId : Int) :
    intPart ((invoicePayload renewing planId tgId).splitOn '_') 3 = some tgId := by
  rw [splitOn_invoicePayload]
  exact pyInt_pyStr tgId

theorem preCheckout_invoice {w : StarsWorld} {renewing : Bool} {planId tgId amount : Int}
    (h : (preCheckout w (invoicePayload renewing planId tgId) amount).isOk = true) :
    ∃ plan, w.plan planId = some plan ∧ plan.isActive = true ∧ plan.starsPrice = amount := by
  rw [preCheckout, ordersPlan_invoicePayload, if_neg Bool.noConfusion, intPart_plan] at h
  dsimp only at h
  split at h
  · cases h
  · rename_i plan hplan
    split at h
    · cases h
    · rename_i hactive
      split at h
      · cases h
      · rename_i hprice
        exact ⟨plan, hplan, by simpa using hactive, not_not.1 hprice⟩

theorem processSuccessful_invoice {w : StarsWorld} (renewing : Bool) {planId tgId : Int}
    (amount : Int) (huser : w.userByTg tgId = some user) (hplan : w.plan planId = some plan)
    (hone : (w.activeSubscriptions user.id).length ≤ 1)
    (hnew : ∀ payment ∈ w.payments, payment.chargeId ≠ chargeId) :
    processSuccessful w (invoicePayload renewing planId tgId) amount chargeId =
      some (some ⟨user.id, chargeId, amount, plan.days⟩) := by
  have hany : (w.payments.any fun payment => payment.chargeId == chargeId) = false := by
    simpa using hnew
  rw [processSuccessful, ordersPlan_invoicePayload, if_neg Bool.noConfusion, intPart_plan,
    intPart_account]
  simp only [huser, hplan, hany, Bool.false_eq_true, if_false, Nat.not_lt.2 hone]

/-- A payment that is made is new, and for the plan and the account of its invoice. -/
theorem processSuccessful_spec {w : StarsWorld} {renewing : Bool} {planId tgId amount : Int}
    (h : processSuccessful w (invoicePayload renewing planId tgId) amount chargeId =
      some (some payment)) :
    ∃ user plan, w.userByTg tgId = some user ∧ w.plan planId = some plan ∧
      (∀ known ∈ w.payments, known.chargeId ≠ chargeId) ∧
      payment = ⟨user.id, chargeId, amount, plan.days⟩ := by
  rw [processSuccessful, ordersPlan_invoicePayload, if_neg Bool.noConfusion, intPart_plan,
    intPart_account] at h
  dsimp only at h
  split at h
  · rename_i user plan huser hplan
    split at h
    · cases h
    · split at h
      · cases h
      · rename_i hnew
        cases h
        exact ⟨user, plan, huser, hplan, by simpa using hnew, rfl⟩
  · cases h

/-! ## Runs -/

theorem ordersRun_append (events : List StarsEvent) (event : StarsEvent) :
    ordersRun (events ++ [event]) = ordersStep (ordersRun events) event := by
  rw [ordersRun, List.foldl_append]
  rfl

theorem Ordered.payload (h : Ordered events invoice planId tgId) :
    ∃ renewing, invoice.payload = invoicePayload renewing planId tgId := by
  obtain ⟨_, _, _, -, -, renewing, hpayload, -⟩ := h
  exact ⟨renewing, hpayload⟩

theorem mem_invoices_step {w : StarsWorld} {event : StarsEvent}
    (h : invoice ∈ (ordersStep w event).invoices) :
    event.invoice? w = some invoice ∨ invoice ∈ w.invoices := by
  cases event with
  | order tgId planId renewing =>
    rcases List.mem_append.1 h with h | h
    · exact .inl (Option.mem_toList.1 h)
    · exact .inr h
  | checkout userId planId renewing =>
    rcases List.mem_append.1 h with h | h
    · exact .inl (Option.mem_toList.1 h)
    · exact .inr h
  | preCheckout asked =>
    rw [ordersStep] at h
    split at h <;> exact .inr h
  | charge charge =>
    rw [ordersStep] at h
    split at h <;> exact .inr h
  | paid charge stored =>
    rw [ordersStep] at h
    split at h <;> exact .inr h
  | editPlans plans => exact .inr h
  | editUsers users => exact .inr h
  | editSubscriptions subscriptions => exact .inr h

theorem mem_approved_step {w : StarsWorld} {event : StarsEvent}
    (h : invoice ∈ (ordersStep w event).approved) :
    (event = .preCheckout invoice ∧ invoice ∈ w.invoices ∧
      (preCheckout w invoice.payload invoice.amount).isOk = true) ∨ invoice ∈ w.approved := by
  cases event with
  | preCheckout asked =>
    rw [ordersStep] at h
    split at h
    · rename_i hasked
      rcases List.mem_cons.1 h with rfl | h
      · exact .inl ⟨rfl, hasked⟩
      · exact .inr h
    · exact .inr h
  | charge charge =>
    rw [ordersStep] at h
    split at h
    · exact .inr (List.mem_of_mem_erase h)
    · exact .inr h
  | paid charge stored =>
    rw [ordersStep] at h
    split at h <;> exact .inr h
  | order tgId planId renewing => exact .inr h
  | checkout userId planId renewing => exact .inr h
  | editPlans plans => exact .inr h
  | editUsers users => exact .inr h
  | editSubscriptions subscriptions => exact .inr h

theorem mem_charged_step {w : StarsWorld} {event : StarsEvent}
    (h : charge ∈ (ordersStep w event).charged) :
    charge.invoice ∈ w.approved ∨ charge ∈ w.charged := by
  cases event with
  | charge made =>
    rw [ordersStep] at h
    split at h
    · rename_i hmade
      rcases List.mem_cons.1 h with rfl | h
      · exact .inl hmade.1
      · exact .inr h
    · exact .inr h
  | preCheckout asked =>
    rw [ordersStep] at h
    split at h <;> exact .inr h
  | paid told stored =>
    rw [ordersStep] at h
    split at h <;> exact .inr h
  | order tgId planId renewing => exact .inr h
  | checkout userId planId renewing => exact .inr h
  | editPlans plans => exact .inr h
  | editUsers users => exact .inr h
  | editSubscriptions subscriptions => exact .inr h

theorem payments_step (w : StarsWorld) (event : StarsEvent) :
    List.Sublist (ordersStep w event).payments w.payments ∨ ∃ charge ∈ w.charged, ∃ payment,
      processSuccessful w charge.invoice.payload charge.invoice.amount charge.chargeId =
        some (some payment) ∧ (ordersStep w event).payments = w.payments ++ [payment] := by
  cases event with
  | paid charge stored =>
    rw [ordersStep]
    split
    · rename_i hcharge
      cases hmade : processSuccessful w charge.invoice.payload charge.invoice.amount
          charge.chargeId with
      | none => exact .inl (List.append_nil _ ▸ List.Sublist.refl _)
      | some made =>
        cases made with
        | none => exact .inl (List.append_nil _ ▸ List.Sublist.refl _)
        | some payment => exact .inr ⟨charge, hcharge.1, payment, hmade, rfl⟩
    · exact .inl (List.Sublist.refl _)
  | editUsers users => exact .inl List.filter_sublist
  | preCheckout asked =>
    rw [ordersStep]
    split <;> exact .inl (List.Sublist.refl _)
  | charge made =>
    rw [ordersStep]
    split <;> exact .inl (List.Sublist.refl _)
  | order tgId planId renewing => exact .inl (List.Sublist.refl _)
  | checkout userId planId renewing => exact .inl (List.Sublist.refl _)
  | editPlans plans => exact .inl (List.Sublist.refl _)
  | editSubscriptions subscriptions => exact .inl (List.Sublist.refl _)

/-- Everything that Telegram knows, has confirmed or has charged comes from an order. -/
structure Traced (events : List StarsEvent) : Prop where
  invoices : ∀ invoice ∈ (ordersRun events).invoices,
    ∃ planId tgId, Ordered events invoice planId tgId
  approved : ∀ invoice ∈ (ordersRun events).approved,
    ∃ planId tgId, Ordered events invoice planId tgId ∧ Confirmed events invoice planId
  charged : ∀ charge ∈ (ordersRun events).charged,
    ∃ planId tgId, Ordered events charge.invoice planId tgId ∧
      Confirmed events charge.invoice planId

theorem traced (events : List StarsEvent) : Traced events := by
  induction events using List.reverseRecOn with
  | nil =>
    exact ⟨fun _ h => absurd h List.not_mem_nil, fun _ h => absurd h List.not_mem_nil,
      fun _ h => absurd h List.not_mem_nil⟩
  | append_singleton events event ih =>
    refine ⟨fun invoice h => ?_, fun invoice h => ?_, fun charge h => ?_⟩
    · rw [ordersRun_append] at h
      rcases mem_invoices_step h with hmade | h
      · obtain ⟨planId, tgId, horders⟩ := invoice?_spec hmade
        exact ⟨planId, tgId, events, event, [], rfl, horders⟩
      · obtain ⟨planId, tgId, hordered⟩ := ih.invoices invoice h
        exact ⟨planId, tgId, hordered.append _⟩
    · rw [ordersRun_append] at h
      rcases mem_approved_step h with ⟨rfl, hknown, hok⟩ | h
      · obtain ⟨planId, tgId, hordered⟩ := ih.invoices invoice hknown
        obtain ⟨renewing, hpayload⟩ := hordered.payload
        rw [hpayload] at hok
        obtain ⟨plan, hplan, hactive, hprice⟩ := preCheckout_invoice hok
        exact ⟨planId, tgId, hordered.append _, events, [], plan, rfl, hplan, hactive, hprice⟩
      · obtain ⟨planId, tgId, hordered, hconfirmed⟩ := ih.approved invoice h
        exact ⟨planId, tgId, hordered.append _, hconfirmed.append _⟩
    · rw [ordersRun_append] at h
      rcases mem_charged_step h with h | h
      · obtain ⟨planId, tgId, hordered, hconfirmed⟩ := ih.approved _ h
        exact ⟨planId, tgId, hordered.append _, hconfirmed.append _⟩
      · obtain ⟨planId, tgId, hordered, hconfirmed⟩ := ih.charged charge h
        exact ⟨planId, tgId, hordered.append _, hconfirmed.append _⟩

/-- The payment of a charge, with the rows that were there when it was made. -/
def PaidFor (events : List StarsEvent) (payment : StarsPayment) : Prop :=
  ∃ before charge planId tgId user plan, before <+: events ∧ charge ∈ (ordersRun before).charged ∧
    Ordered before charge.invoice planId tgId ∧ Confirmed before charge.invoice planId ∧
    (ordersRun before).userByTg tgId = some user ∧ (ordersRun before).plan planId = some plan ∧
    payment = ⟨user.id, charge.chargeId, charge.invoice.amount, plan.days⟩

theorem PaidFor.append (h : PaidFor events payment) (later : List StarsEvent) :
    PaidFor (events ++ later) payment := by
  obtain ⟨before, charge, planId, tgId, user, plan, hbefore, hpaid⟩ := h
  exact ⟨before, charge, planId, tgId, user, plan, hbefore.trans (List.prefix_append _ _), hpaid⟩

/-- Each payment is that of a charge, and a charge has one at most. -/
theorem payments_run (events : List StarsEvent) :
    ((ordersRun events).payments.map StarsPayment.chargeId).Nodup ∧
      ∀ payment ∈ (ordersRun events).payments, PaidFor events payment := by
  induction events using List.reverseRecOn with
  | nil => exact ⟨List.nodup_nil, fun _ h => absurd h List.not_mem_nil⟩
  | append_singleton events event ih =>
    rw [ordersRun_append]
    rcases payments_step (ordersRun events) event with
      hkept | ⟨charge, hcharge, made, hmade, hadded⟩
    · exact ⟨ih.1.sublist (hkept.map _), fun payment h => (ih.2 payment (hkept.subset h)).append _⟩
    · obtain ⟨planId, tgId, hordered, hconfirmed⟩ := (traced events).charged charge hcharge
      obtain ⟨renewing, hpayload⟩ := hordered.payload
      rw [hpayload] at hmade
      obtain ⟨user, plan, huser, hplan, hnew, rfl⟩ := processSuccessful_spec hmade
      rw [hadded, List.map_append]
      constructor
      · refine List.nodup_append.2 ⟨ih.1, List.pairwise_singleton _ _,
          fun chargeId hold last hlast => ?_⟩
        obtain ⟨known, hknown, rfl⟩ := List.mem_map.1 hold
        rw [List.mem_singleton.1 hlast]
        exact hnew known hknown
      · intro payment h
        rcases List.mem_append.1 h with h | h
        · exact (ih.2 payment h).append _
        · rw [List.mem_singleton.1 h]
          exact ⟨events, charge, planId, tgId, user, plan, List.prefix_append _ _, hcharge,
            hordered, hconfirmed, huser, hplan, rfl⟩

/-- However rows change meanwhile: what Telegram charges was ordered for a plan and an account,
and confirmed at the price that the plan had then. As long as no payment of it is recorded, a
message about it pays the account the days that the plan has now, if both rows are there and the
account has one active subscription at most. There are no other payments, and no two for one
charge. -/
theorem stars_orders (events : List StarsEvent) :
    (∀ charge ∈ (ordersRun events).charged, ∃ planId tgId,
      Ordered events charge.invoice planId tgId ∧ Confirmed events charge.invoice planId ∧
      ∀ user plan, (ordersRun events).userByTg tgId = some user →
        (ordersRun events).plan planId = some plan →
        ((ordersRun events).activeSubscriptions user.id).length ≤ 1 →
        (∀ payment ∈ (ordersRun events).payments, payment.chargeId ≠ charge.chargeId) →
        (ordersRun (events ++ [.paid charge true])).payments = (ordersRun events).payments ++
          [⟨user.id, charge.chargeId, charge.invoice.amount, plan.days⟩]) ∧
    ((ordersRun events).payments.map StarsPayment.chargeId).Nodup ∧
    ∀ payment ∈ (ordersRun events).payments, PaidFor events payment := by
  refine ⟨fun charge hcharge => ?_, payments_run events⟩
  obtain ⟨planId, tgId, hordered, hconfirmed⟩ := (traced events).charged charge hcharge
  obtain ⟨renewing, hpayload⟩ := hordered.payload
  refine ⟨planId, tgId, hordered, hconfirmed, fun user plan huser hplan hone hnew => ?_⟩
  rw [ordersRun_append, ordersStep, if_pos ⟨hcharge, rfl⟩, hpayload,
    processSuccessful_invoice renewing charge.invoice.amount huser hplan hone hnew]
  rfl

end AegisVPN
