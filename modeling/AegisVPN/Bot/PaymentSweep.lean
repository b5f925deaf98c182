import AegisVPN.Bot.UserService
import AegisVPN.Library.Runs

namespace AegisVPN
open Library
set_option autoImplicit true

/-! ## The provider beside the bot. A transaction is named by the `tgPaymentId` of its row. -/

/-- What the sweep is about to do with its first row. -/
inductive SweepPhase
  | asking
  | answered (status : PlategaStatus)
  | confirming (id : Nat)
  | marking (id : Nat) (stored : PaymentStatus)
  deriving DecidableEq

/-- A run of `reconcile_pending_platega`. `due` are the transactions that the provider had confirmed
when it began. -/
structure Sweep where
  due : List String
  rows : List Payment
  phase : SweepPhase
  allAnswered : Bool

/-- A callback between its read and its write. -/
structure Callback where
  loaded : Payment
  status : PlategaStatus

structure PayWorld (D : Type) where
  db : Db D
  provider : String → Option PlategaStatus
  now : Int
  sweep : Option Sweep
  callbacks : List Callback
  /-- What was due and is not confirmed after a sweep in which every status was answered. -/
  missed : List String

/-- Callbacks come at any time with any status, or not at all; a crash ends all that is under way.
Only one sweep runs at a time. -/
inductive PayEvent
  | create (userId : Nat) (tgPaymentId : String) (planDays : Int)
  | deleteAccount (userId : Nat)
  | provider (tgPaymentId : String) (status : PlategaStatus)
  | callback (tgPaymentId : String) (status : PlategaStatus)
  | commitCallback (i : Nat)
  | failCallback (i : Nat)
  | beginSweep
  | askStatus (answered : Bool)
  | readRow
  | writeRow
  | failSweep
  | endSweep
  | crash
  | wait (d : Nat)

/-- On to the next row. -/
def Sweep.next (s : Sweep) : Sweep := { s with rows := s.rows.tail, phase := .asking }

def Payment.confirmed (p : Payment) : Bool := p.status == some .confirmed

def Payment.confirm (p : Payment) : Payment := { p with status := some .confirmed }

/-- What a callback marks its row with, by the status that its session has loaded. -/
def Callback.marks (c : Callback) : Option PaymentStatus :=
  c.status.stored?.filter fun stored =>
    c.loaded.status != some .confirmed && c.loaded.status != some stored

def Callback.write (c : Callback) : DbAct D Unit := fun db =>
  match c.status, c.marks with
  | .confirmed, _ => (.ok (), (claimPayment c.loaded.id db).2)
  | _, some stored => setPaymentStatus c.loaded.id stored db
  | _, none => (.ok (), db)

namespace PayWorld
variable (w : PayWorld D)

def put (s : Sweep) : PayWorld D := { w with sweep := some s }

/-- The rows that a sweep looks at. -/
def pendingPlatega : List Payment := w.db.payments.filter fun p =>
  p.provider == .platega && p.status == some .pending && decide (w.now - sixHours ≤ p.createdAt)

/-- What the provider has confirmed by now. -/
def confirmedByProvider : List String :=
  (w.db.payments.filter fun p =>
    p.provider == .platega && w.provider p.tgPaymentId == some .confirmed).map Payment.tgPaymentId

/-- The provider takes a new transaction, and its row is written. -/
def create (userId : Nat) (tgPaymentId : String) (planDays : Int) : PayWorld D :=
  if w.provider tgPaymentId = none then
    { w with
      db := (insertPayment
        ⟨0, userId, tgPaymentId, planDays, .platega, some .pending, w.now⟩ w.db).2
      provider := Function.update w.provider tgPaymentId (some .other) }
  else w

def changeStatus (tgPaymentId : String) (status : PlategaStatus) : PayWorld D :=
  if w.provider tgPaymentId = none then w
  else { w with provider := Function.update w.provider tgPaymentId (some status) }

def callback (tgPaymentId : String) (status : PlategaStatus) : PayWorld D :=
  match w.db.paymentByTg tgPaymentId with
  | .ok (some payment) => { w with callbacks := w.callbacks ++ [⟨payment, status⟩] }
  | _ => w

def commitCallback (i : Nat) : PayWorld D :=
  match w.callbacks[i]? with
  | some c => { w with db := (c.write w.db).2, callbacks := w.callbacks.eraseIdx i }
  | none => w

def beginSweep : PayWorld D :=
  if w.sweep.isSome then w
  else w.put ⟨w.confirmedByProvider, w.pendingPlatega, .asking, true⟩

/-- What is neither confirmed, canceled nor charged back is left for the next sweep. -/
def askStatus (answered : Bool) : PayWorld D :=
  match w.sweep with
  | some s =>
    match s.phase, s.rows with
    | .asking, row :: _ =>
      if answered then
        match w.provider row.tgPaymentId with
        | some .other | none => w.put s.next
        | some status => w.put { s with phase := .answered status }
      else w.put { s.next with allAnswered := false }
    | _, _ => w
  | none => w

/-- The row is read again, and must still be pending. -/
def readRow : PayWorld D :=
  match w.sweep with
  | some s =>
    match s.phase, s.rows with
    | .answered status, row :: _ =>
      match w.db.payments.find? fun p => p.id == row.id with
      | some payment =>
        if payment.status = some .pending then
          match status.stored? with
          | none => w.put { s with phase := .confirming payment.id }
          | some stored => w.put { s with phase := .marking payment.id stored }
        else w.put s.next
      | none => w.put s.next
    | _, _ => w
  | none => w

/-- What fails ends the sweep. -/
def writeRow : PayWorld D :=
  match w.sweep with
  | some s =>
    match s.phase with
    | .confirming id => { w.put s.next with db := (claimPayment id w.db).2 }
    | .marking id stored =>
      match (setPaymentStatus id stored w.db).1 with
      | .ok _ => { w.put s.next with db := (setPaymentStatus id stored w.db).2 }
      | .error _ => { w with sweep := none }
    | _ => w
  | none => w

def endSweep : PayWorld D :=
  match w.sweep with
  | some s =>
    if s.rows = [] then
      { w with
        sweep := none
        missed := w.missed ++ if s.allAnswered then s.due.filter fun tg =>
          w.db.payments.any fun p =>
            p.provider == .platega && p.tgPaymentId == tg && !p.confirmed else [] }
    else w
  | none => w

def step : PayEvent → PayWorld D
  | .create userId tgPaymentId planDays => w.create userId tgPaymentId planDays
  | .deleteAccount userId => { w with db := (deleteUser userId w.db).2 }
  | .provider tgPaymentId status => w.changeStatus tgPaymentId status
  | .callback tgPaymentId status => w.callback tgPaymentId status
  | .commitCallback i => w.commitCallback i
  | .failCallback i => { w with callbacks := w.callbacks.eraseIdx i }
  | .beginSweep => w.beginSweep
  | .askStatus answered => w.askStatus answered
  | .readRow => w.readRow
  | .writeRow => w.writeRow
  | .failSweep => { w with sweep := none }
  | .endSweep => w.endSweep
  | .crash => { w with sweep := none, callbacks := [] }
  | .wait d => { w with now := w.now + d }

/-! ## When nothing is missed -/

/-- The sweep can still see the row, or has no need to. -/
def Seen (p : Payment) : Prop :=
  p.status = some .confirmed ∨ p.status = some .pending ∧ w.now - sixHours ≤ p.createdAt

instance (p : Payment) : Decidable (w.Seen p) := inferInstanceAs (Decidable (_ ∨ _ ∧ _))

/-- A sweep begins with every row that the provider has confirmed in sight. While it is under way
the provider takes back no confirmation of a row that is yet to be confirmed, and no callback marks
a row that is due. -/
def Careful : PayEvent → Prop
  | .beginSweep => w.sweep = none → ∀ p ∈ w.db.payments, p.provider = .platega →
      w.provider p.tgPaymentId = some .confirmed → w.Seen p
  | .provider tg status => ∀ s ∈ w.sweep, tg ∈ s.due → status ≠ .confirmed →
      ∀ p ∈ w.db.payments, p.tgPaymentId = tg → p.status = some .confirmed
  | .commitCallback i => ∀ s ∈ w.sweep, ∀ c ∈ w.callbacks[i]?, c.marks ≠ none →
      ∀ p ∈ w.db.payments, p.id = c.loaded.id → p.tgPaymentId ∉ s.due
  | _ => True

instance : ∀ e, Decidable (w.Careful e)
  | .beginSweep => inferInstanceAs (Decidable (_ → ∀ p ∈ w.db.payments, _ → _ → _))
  | .provider _ _ => inferInstanceAs (Decidable (∀ s ∈ w.sweep, _ → _ → ∀ p ∈ w.db.payments, _))
  | .commitCallback i =>
    inferInstanceAs (Decidable (∀ s ∈ w.sweep, ∀ c ∈ w.callbacks[i]?, _ → _))
  | .create _ _ _ | .deleteAccount _ | .callback _ _ | .failCallback _ | .askStatus _ | .readRow
  | .writeRow | .failSweep | .endSweep | .crash | .wait _ => inferInstanceAs (Decidable True)

end PayWorld

def PayWorld.initial (db : Db D) (provider : String → Option PlategaStatus) (now : Int) :
    PayWorld D := ⟨db, provider, now, none, [], []⟩

/-! ## What the writes do to payments -/

theorem claimPayment_rows {db : Db D} {id : Nat} (h : p' ∈ (claimPayment id db).2.payments) :
    ∃ p ∈ db.payments, p' = p ∧ (p.id = id → p.claimable = false) ∨ p' = p.confirm := by
  obtain ⟨p, hp, rfl⟩ := List.mem_map.1 h
  refine ⟨p, hp, ?_⟩
  split
  · exact .inr rfl
  · rename_i hnot
    refine .inl ⟨rfl, fun hid => ?_⟩
    simpa [hid] using hnot

theorem setPaymentStatus_mem {db : Db D} {id : Nat}
    (h : p' ∈ (setPaymentStatus id status db).2.payments) :
    p' ∈ db.payments ∨ ∃ p ∈ db.payments, p.id = id ∧ p' = { p with status := some status } := by
  unfold setPaymentStatus at h
  split at h
  · obtain ⟨p, hp, rfl⟩ := List.mem_map.1 h
    split
    · rename_i hid
      exact .inr ⟨p, hp, hid, rfl⟩
    · exact .inl hp
  · exact .inl h

theorem claimPayment_ids (id : Nat) (db : Db D) :
    (claimPayment id db).2.payments.map Payment.id = db.payments.map Payment.id := by
  change (db.payments.map _).map Payment.id = _
  rw [List.map_map]
  refine List.map_congr_left fun p _ => ?_
  rw [Function.comp_apply]
  split <;> rfl

theorem setPaymentStatus_ids (id : Nat) (status : PaymentStatus) (db : Db D) :
    (setPaymentStatus id status db).2.payments.map Payment.id = db.payments.map Payment.id := by
  unfold setPaymentStatus
  split
  · rw [List.map_map]
    refine List.map_congr_left fun p _ => ?_
    rw [Function.comp_apply]
    split <;> rfl
  · rfl

theorem deleteUser_payments (userId : Nat) (db : Db D) :
    (deleteUser userId db).2.payments.Sublist db.payments := by
  unfold deleteUser
  split
  · exact List.filter_sublist
  · exact .refl _

theorem insertPayment_rows (payment : Payment) (db : Db D) :
    (insertPayment payment db).2.payments = db.payments ∨
      (insertPayment payment db).2.payments =
        db.payments ++ [{ payment with id := nextId (db.payments.map Payment.id) }] := by
  unfold insertPayment
  split
  · exact .inl rfl
  · exact .inr rfl

/-! ## What a sweep keeps -/

/-- The first row is dealt with in a way that leaves the payment alone, if it is the payment's. -/
def Sweep.Spares (s : Sweep) (p : Payment) : Prop :=
  match s.phase with
  | .answered status =>
    ∀ row ∈ s.rows.head?, row.id = p.id → p.status = some .confirmed ∨ status = .confirmed
  | .marking id _ => p.id ≠ id
  | _ => True

/-- A payment that is due is confirmed, or pending with its row still to come. -/
structure Sweep.Holds (s : Sweep) (provider : String → Option PlategaStatus) (p : Payment) :
    Prop where
  row : p.status = some .confirmed ∨ p.status = some .pending ∧
    provider p.tgPaymentId = some .confirmed ∧
    ∃ row ∈ s.rows, row.id = p.id ∧ row.tgPaymentId = p.tgPaymentId
  spares : s.Spares p

/-- What is about to be written is written to the first row. -/
structure Sweep.Formed (s : Sweep) : Prop where
  ids : (s.rows.map Payment.id).Nodup
  confirming : ∀ id, s.phase = .confirming id → s.rows.head?.map Payment.id = some id
  marking : ∀ id stored, s.phase = .marking id stored → s.rows.head?.map Payment.id = some id

theorem Sweep.Formed.reading {s : Sweep} (hids : (s.rows.map Payment.id).Nodup)
    (hphase : s.phase = .asking ∨ ∃ status, s.phase = .answered status) : s.Formed where
  ids := hids
  confirming id hconfirming := by
    rw [hconfirming] at hphase
    rcases hphase with hphase | ⟨status, hphase⟩ <;> cases hphase
  marking id stored hmarking := by
    rw [hmarking] at hphase
    rcases hphase with hphase | ⟨status, hphase⟩ <;> cases hphase

theorem Sweep.Formed.next {s : Sweep} (h : s.Formed) : s.next.Formed :=
  .reading (h.ids.sublist ((List.tail_sublist s.rows).map _)) (.inl rfl)

theorem Sweep.Holds.next {s : Sweep} (h : s.Holds provider p)
    (hhead : p.status = some .pending → provider p.tgPaymentId = some .confirmed →
      ∀ row ∈ s.rows.head?, row.id ≠ p.id ∨ row.tgPaymentId ≠ p.tgPaymentId) :
    s.next.Holds provider p where
  row := by
    apply h.row.imp_right
    rintro ⟨hpending, hprovider, row, hrow, hid, htg⟩
    refine ⟨hpending, hprovider, row, ?_, hid, htg⟩
    have hfirst := hhead hpending hprovider
    change row ∈ s.rows.tail
    cases hrows : s.rows with
    | nil =>
      rw [hrows] at hrow
      cases hrow
    | cons first rest =>
      rw [hrows] at hrow hfirst
      rcases List.mem_cons.1 hrow with rfl | hrow
      · rcases hfirst row rfl with hne | hne
        · exact absurd hid hne
        · exact absurd htg hne
      · exact hrow
  spares := trivial

theorem Sweep.Holds.confirm {s : Sweep} (h : s.Holds provider p) :
    s.Holds provider p.confirm where
  row := .inl rfl
  spares := by
    have hspares := h.spares
    unfold Sweep.Spares at hspares ⊢
    split
    · exact fun _ _ _ => .inl rfl
    · rename_i id stored hphase
      rw [hphase] at hspares
      exact hspares
    · trivial

namespace PayWorld
variable {w : PayWorld D}

structure Tracked (w : PayWorld D) : Prop where
  ids : (w.db.payments.map Payment.id).Nodup
  missed : w.missed = []
  known : ∀ s ∈ w.sweep, ∀ tg ∈ s.due, w.provider tg ≠ none
  formed : ∀ s ∈ w.sweep, s.Formed
  due : ∀ s ∈ w.sweep, s.allAnswered = true → ∀ p ∈ w.db.payments, p.provider = .platega →
    p.tgPaymentId ∈ s.due → s.Holds w.provider p

/-- Rows that are due may change in nothing but that they are confirmed. -/
theorem Tracked.payments (h : w.Tracked) {db : Db D} (hids : (db.payments.map Payment.id).Nodup)
    (hrows : ∀ s ∈ w.sweep, ∀ p' ∈ db.payments, p'.tgPaymentId ∈ s.due →
      p' ∈ w.db.payments ∨ ∃ p ∈ w.db.payments, p' = p.confirm) :
    ({ w with db } : PayWorld D).Tracked where
  ids := hids
  missed := h.missed
  known := h.known
  formed := h.formed
  due s hs hall p' hp' hplatega hdue := by
    rcases hrows s hs p' hp' hdue with hp | ⟨p, hp, rfl⟩
    · exact h.due s hs hall p' hp hplatega hdue
    · exact (h.due s hs hall p hp hplatega hdue).confirm

theorem Tracked.create (h : w.Tracked) (userId : Nat) (tg : String) (planDays : Int) :
    (w.create userId tg planDays).Tracked := by
  unfold PayWorld.create
  split
  · rename_i hnew
    have hfresh : ∀ s ∈ w.sweep, tg ∉ s.due := fun s hs hdue => h.known s hs tg hdue hnew
    have hprovider : ∀ s ∈ w.sweep, ∀ tg' ∈ s.due,
        Function.update w.provider tg (some .other) tg' = w.provider tg' := by
      intro s hs tg' hdue
      refine Function.update_of_ne (fun heq => ?_) _ _
      exact hfresh s hs (heq ▸ hdue)
    have hdb : ({ w with db := (insertPayment
        ⟨0, userId, tg, planDays, .platega, some .pending, w.now⟩ w.db).2 } :
        PayWorld D).Tracked := by
      rcases insertPayment_rows
          ⟨0, userId, tg, planDays, .platega, some .pending, w.now⟩ w.db with
        hsame | hnew
      · refine h.payments (by rw [hsame]; exact h.ids) fun s hs p hp hdue => ?_
        exact .inl (hsame ▸ hp)
      · refine h.payments ?_ fun s hs p hp hdue => ?_
        · rw [hnew, List.map_append]
          refine List.nodup_append.2 ⟨h.ids, List.nodup_singleton _, fun i hi j hj => ?_⟩
          rw [List.mem_singleton.1 hj]
          exact (lt_nextId hi).ne
        · rw [hnew] at hp
          rcases List.mem_append.1 hp with hp | hp
          · exact .inl hp
          · cases List.mem_singleton.1 hp
            exact absurd hdue (hfresh s hs)
    exact {
      ids := hdb.ids
      missed := hdb.missed
      known := fun s hs tg' hdue hnone =>
        h.known s hs tg' hdue ((hprovider s hs tg' hdue).symm.trans hnone)
      formed := hdb.formed
      due := fun s hs hall p hp hplatega hdue => by
        obtain ⟨hrow, hspares⟩ := hdb.due s hs hall p hp hplatega hdue
        refine ⟨hrow.imp_right fun hnext => ?_, hspares⟩
        obtain ⟨hpending, hprov, hmem⟩ := hnext
        exact ⟨hpending, (hprovider s hs _ hdue).trans hprov, hmem⟩ }
  · exact h

theorem Tracked.changeStatus (h : w.Tracked) (tg : String) (status : PlategaStatus)
    (hc : w.Careful (.provider tg status)) : (w.changeStatus tg status).Tracked := by
  unfold PayWorld.changeStatus
  split
  · exact h
  · refine ⟨h.ids, h.missed, fun s hs tg' hdue => ?_, h.formed,
      fun s hs hall p hp hplatega hdue => ?_⟩
    · by_cases heq : tg' = tg
      · rw [heq]
        simp only [Function.update_self]
        exact Option.some_ne_none _
      · simp only [Function.update_of_ne heq]
        exact h.known s hs tg' hdue
    · obtain ⟨hrow, hspares⟩ := h.due s hs hall p hp hplatega hdue
      refine ⟨?_, hspares⟩
      by_cases heq : p.tgPaymentId = tg
      · by_cases hstatus : status = .confirmed
        · apply hrow.imp_right
          rintro ⟨hpending, -, hmem⟩
          refine ⟨hpending, ?_, hmem⟩
          rw [heq, hstatus]
          exact Function.update_self ..
        · exact .inl (hc s hs (heq ▸ hdue) hstatus p hp heq)
      · apply hrow.imp_right
        rintro ⟨hpending, hprov, hmem⟩
        exact ⟨hpending, (Function.update_of_ne heq _ _).trans hprov, hmem⟩

theorem Tracked.commitCallback (h : w.Tracked) (i : Nat) (hc : w.Careful (.commitCallback i)) :
    (w.commitCallback i).Tracked := by
  unfold PayWorld.commitCallback
  split
  · rename_i c hi
    have hwrite : ({ w with db := (c.write w.db).2 } : PayWorld D).Tracked := by
      unfold Callback.write
      split
      · refine h.payments (by rw [claimPayment_ids]; exact h.ids) fun s hs p' hp' hdue => ?_
        obtain ⟨p, hp, ⟨rfl, -⟩ | hconfirm⟩ := claimPayment_rows hp'
        · exact .inl hp
        · exact .inr ⟨p, hp, hconfirm⟩
      · rename_i stored hmarks _
        refine h.payments (by rw [setPaymentStatus_ids]; exact h.ids) fun s hs p' hp' hdue => ?_
        have hmarks : c.marks ≠ none := by
          rw [hmarks]
          exact Option.some_ne_none _
        rcases setPaymentStatus_mem hp' with hp | ⟨p, hp, hid, rfl⟩
        · exact .inl hp
        · exact absurd hdue (hc s hs c hi hmarks p hp hid)
      · exact h
    exact { ids := hwrite.ids, missed := hwrite.missed, known := hwrite.known,
            formed := hwrite.formed, due := hwrite.due }
  · exact h

theorem Tracked.put (h : w.Tracked) {s : Sweep} (hknown : ∀ tg ∈ s.due, w.provider tg ≠ none)
    (hformed : s.Formed) (hdue : s.allAnswered = true → ∀ p ∈ w.db.payments,
      p.provider = .platega → p.tgPaymentId ∈ s.due → s.Holds w.provider p) :
    (w.put s).Tracked where
  ids := h.ids
  missed := h.missed
  known s' hs' := by
    cases hs'
    exact hknown
  formed s' hs' := by
    cases hs'
    exact hformed
  due s' hs' := by
    cases hs'
    exact hdue

theorem Tracked.stop (h : w.Tracked) : ({ w with sweep := none } : PayWorld D).Tracked where
  ids := h.ids
  missed := h.missed
  known _ hs := by cases hs
  formed _ hs := by cases hs
  due _ hs := by cases hs

theorem Tracked.beginSweep (h : w.Tracked) (hc : w.Careful .beginSweep) : w.beginSweep.Tracked := by
  unfold PayWorld.beginSweep
  split
  · exact h
  · rename_i hnone
    have hconfirmed : ∀ tg ∈ w.confirmedByProvider, w.provider tg = some .confirmed := by
      intro tg htg
      obtain ⟨q, hq, rfl⟩ := List.mem_map.1 htg
      have hboth := (List.mem_filter.1 hq).2
      rw [Bool.and_eq_true, beq_iff_eq, beq_iff_eq] at hboth
      exact hboth.2
    have hrows : (w.pendingPlatega.map Payment.id).Nodup :=
      h.ids.sublist (List.filter_sublist.map _)
    refine h.put (fun tg htg => ?_) (.reading hrows (.inl rfl))
      fun _ p hp hplatega hdue => ⟨?_, trivial⟩
    · rw [hconfirmed tg htg]
      exact Option.some_ne_none _
    · have hprovider := hconfirmed p.tgPaymentId hdue
      have hnone : w.sweep = none := Option.not_isSome_iff_eq_none.1 hnone
      apply (hc hnone p hp hplatega hprovider).imp_right
      rintro ⟨hpending, hage⟩
      refine ⟨hpending, hprovider, p, List.mem_filter.2 ⟨hp, ?_⟩, rfl, rfl⟩
      simp [hplatega, hpending, hage]

theorem Tracked.skip (h : w.Tracked) (hs : w.sweep = some s)
    (hhead : ∀ p ∈ w.db.payments, p.status = some .pending →
      w.provider p.tgPaymentId = some .confirmed → ∀ row ∈ s.rows.head?,
        row.id ≠ p.id ∨ row.tgPaymentId ≠ p.tgPaymentId) : (w.put s.next).Tracked := by
  refine h.put (h.known s hs) (h.formed s hs).next fun hall p hp hplatega hdue => ?_
  exact (h.due s hs hall p hp hplatega hdue).next (hhead p hp)

theorem Tracked.askStatus (h : w.Tracked) (answered : Bool) : (w.askStatus answered).Tracked := by
  unfold PayWorld.askStatus
  split
  · rename_i s hs
    split
    · rename_i row rest hphase hrows
      have hskip : w.provider row.tgPaymentId ≠ some .confirmed → (w.put s.next).Tracked := by
        intro hnot
        refine h.skip hs fun p _ _ hprovider first hfirst => ?_
        rw [hrows] at hfirst
        cases hfirst
        exact .inr fun htg => hnot (htg ▸ hprovider)
      split
      · split
        · rename_i hanswer
          exact hskip (by rw [hanswer]; decide)
        · rename_i hanswer
          exact hskip (by rw [hanswer]; decide)
        · rename_i status _ hanswer
          have hids := (h.formed s hs).ids
          refine h.put (h.known s hs) (.reading hids (.inr ⟨status, rfl⟩))
            fun hall p hp hplatega hdue => ?_
          obtain ⟨hrow, -⟩ := h.due s hs hall p hp hplatega hdue
          refine ⟨hrow, fun first hfirst hid => ?_⟩
          change first ∈ s.rows.head? at hfirst
          rw [hrows] at hfirst
          cases hfirst
          apply hrow.imp_right
          rintro ⟨-, hprovider, row', hrow', hid', htg'⟩
          have hsame : row = row' := List.inj_on_of_nodup_map hids
            (hrows ▸ List.mem_cons_self) hrow' (hid.trans hid'.symm)
          rw [hsame, htg', hprovider] at hanswer
          exact (Option.some.inj hanswer).symm
      · have hnext := (h.formed s hs).next
        refine h.put (h.known s hs) (.reading hnext.ids (.inl rfl)) fun hall => ?_
        cases hall
    · exact h
  · exact h

theorem Tracked.readRow (h : w.Tracked) : w.readRow.Tracked := by
  unfold PayWorld.readRow
  split
  · rename_i s hs
    split
    · rename_i status row rest hphase hrows
      have hids := (h.formed s hs).ids
      have hhead : s.rows.head?.map Payment.id = some row.id := by rw [hrows]; rfl
      split
      · rename_i payment hfind
        have hpayment : payment ∈ w.db.payments := List.mem_of_find?_eq_some hfind
        have hid : payment.id = row.id := by simpa using List.find?_some hfind
        split
        · rename_i hpending
          split
          · rename_i hstored
            refine h.put (h.known s hs) ⟨hids, fun i hi => ?_, fun i stored hi => ?_⟩
              fun hall p hp hplatega hdue => ⟨(h.due s hs hall p hp hplatega hdue).row, trivial⟩
            · cases hi
              rw [hid]
              exact hhead
            · cases hi
          · rename_i stored hstored
            refine h.put (h.known s hs) ⟨hids, fun i hi => ?_, fun i stored hi => ?_⟩
              fun hall p hp hplatega hdue => ?_
            · cases hi
            · cases hi
              rw [hid]
              exact hhead
            · obtain ⟨hrow, hspares⟩ := h.due s hs hall p hp hplatega hdue
              refine ⟨hrow, fun heq => ?_⟩
              have hsame : p = payment := List.inj_on_of_nodup_map h.ids hp hpayment heq
              unfold Sweep.Spares at hspares
              rw [hphase, hrows] at hspares
              rcases hspares row rfl (hid.symm.trans (congrArg Payment.id hsame.symm)) with
                hconfirmed | hconfirmed
              · rw [hsame, hpending] at hconfirmed
                cases hconfirmed
              · rw [hconfirmed] at hstored
                cases hstored
        · rename_i hpending
          refine h.skip hs fun p hp hp' _ first hfirst => .inl fun heq => hpending ?_
          rw [hrows] at hfirst
          cases hfirst
          rw [← List.inj_on_of_nodup_map h.ids hp hpayment (heq.symm.trans hid.symm)]
          exact hp'
      · rename_i hfind
        refine h.skip hs fun p hp _ _ first hfirst => .inl fun heq => ?_
        rw [hrows] at hfirst
        cases hfirst
        have hnone := List.find?_eq_none.1 hfind p hp
        exact hnone (beq_iff_eq.2 heq.symm)
    · exact h
  · exact h

theorem Tracked.writeRow (h : w.Tracked) : w.writeRow.Tracked := by
  unfold PayWorld.writeRow
  split
  · rename_i s hs
    have hformed := h.formed s hs
    split
    · rename_i i hphase
      have hhead : ∀ row ∈ s.rows.head?, row.id = i := by
        intro row hrow
        have hfirst := hformed.confirming i hphase
        rw [hrow] at hfirst
        exact Option.some.inj hfirst
      refine ⟨by rw [claimPayment_ids]; exact h.ids, h.missed, fun s' hs' => ?_, fun s' hs' => ?_,
        fun s' hs' hall p' hp' hplatega hdue => ?_⟩
      · cases hs'
        exact h.known s hs
      · cases hs'
        exact hformed.next
      · cases hs'
        obtain ⟨p, hp, ⟨rfl, hnot⟩ | rfl⟩ := claimPayment_rows hp'
        · refine (h.due s hs hall p' hp hplatega hdue).next fun hpending _ row hrow => .inl ?_
          intro heq
          have hclaimable := hnot (heq.symm.trans (hhead row hrow))
          rw [Payment.claimable, hpending] at hclaimable
          cases hclaimable
        · refine (h.due s hs hall p hp hplatega hdue).confirm.next fun hpending => ?_
          cases hpending
    · rename_i i stored hphase
      split
      · refine ⟨by rw [setPaymentStatus_ids]; exact h.ids, h.missed, fun s' hs' => ?_,
          fun s' hs' => ?_, fun s' hs' hall p' hp' hplatega hdue => ?_⟩
        · cases hs'
          exact h.known s hs
        · cases hs'
          exact hformed.next
        · cases hs'
          -- the row that is marked is none that is due
          have hspared : ∀ p ∈ w.db.payments, p.provider = .platega → p.tgPaymentId ∈ s.due →
              p.id ≠ i := by
            intro p hp hplatega hdue
            have hspares := (h.due s hs hall p hp hplatega hdue).spares
            unfold Sweep.Spares at hspares
            rw [hphase] at hspares
            exact hspares
          rcases setPaymentStatus_mem hp' with hp | ⟨p, hp, hid, rfl⟩
          · refine (h.due s hs hall p' hp hplatega hdue).next fun _ _ row hrow => .inl fun heq => ?_
            have hfirst := hformed.marking i stored hphase
            rw [hrow] at hfirst
            exact hspared p' hp hplatega hdue (heq.symm.trans (Option.some.inj hfirst))
          · exact absurd hid (hspared p hp hplatega hdue)
      · exact h.stop
    · exact h
  · exact h

/-- A sweep whose statuses were all answered leaves nothing unconfirmed that was due. -/
theorem Tracked.endSweep (h : w.Tracked) : w.endSweep.Tracked := by
  unfold PayWorld.endSweep
  split
  · rename_i s hs
    split
    · rename_i hrows
      refine { h.stop with missed := ?_ }
      simp only [h.missed, List.nil_append]
      split
      · rename_i hall
        refine List.filter_eq_nil_iff.2 fun tg htg hmissed => ?_
        obtain ⟨p, hp, hflags⟩ := List.any_eq_true.1 hmissed
        simp only [Bool.and_eq_true, beq_iff_eq, Bool.not_eq_true'] at hflags
        obtain ⟨⟨hplatega, rfl⟩, hnot⟩ := hflags
        rcases (h.due s hs hall p hp hplatega htg).row with hconfirmed | ⟨-, -, row, hrow, -⟩
        · rw [Payment.confirmed, hconfirmed] at hnot
          cases hnot
        · rw [hrows] at hrow
          cases hrow
      · rfl
    · exact h
  · exact h

theorem Tracked.step (h : w.Tracked) (e : PayEvent) (hc : w.Careful e) : (w.step e).Tracked := by
  cases e with
  | create userId tg planDays => exact h.create userId tg planDays
  | deleteAccount userId =>
    have hsub := deleteUser_payments userId w.db
    exact h.payments (h.ids.sublist (hsub.map _)) fun s hs p hp _ => .inl (hsub.subset hp)
  | provider tg status => exact h.changeStatus tg status hc
  | callback tg status =>
    simp only [PayWorld.step, PayWorld.callback]
    split
    · exact ⟨h.ids, h.missed, h.known, h.formed, h.due⟩
    · exact h
  | commitCallback i => exact h.commitCallback i hc
  | failCallback i => exact ⟨h.ids, h.missed, h.known, h.formed, h.due⟩
  | beginSweep => exact h.beginSweep hc
  | askStatus answered => exact h.askStatus answered
  | readRow => exact h.readRow
  | writeRow => exact h.writeRow
  | failSweep => exact h.stop
  | endSweep => exact h.endSweep
  | crash =>
    have hstop := h.stop
    exact ⟨hstop.ids, hstop.missed, hstop.known, hstop.formed, hstop.due⟩
  | wait d => exact ⟨h.ids, h.missed, h.known, h.formed, h.due⟩

end PayWorld

/-- In a run in which every sweep begins with all that the provider has confirmed either confirmed
or pending for six hours at most, and in which neither the provider nor a callback takes back what
a sweep under way is about to confirm, no completed sweep misses a payment. -/
theorem sweep_misses_nothing {db : Db D} {provider : String → Option PlategaStatus} {now : Int}
    {events : List PayEvent} (hids : (db.payments.map Payment.id).Nodup)
    (hs : Along PayWorld.step PayWorld.Careful (.initial db provider now) events) :
    (events.foldl PayWorld.step (.initial db provider now)).missed = [] := by
  have hinitial : (PayWorld.initial db provider now).Tracked :=
    ⟨hids, rfl, fun _ hs => (Option.not_mem_none _ hs).elim,
      fun _ hs => (Option.not_mem_none _ hs).elim, fun _ hs => (Option.not_mem_none _ hs).elim⟩
  have hrun := run_invariant hinitial (fun _ e h hc => h.step e hc) hs
  exact hrun.missed

/-! ## Runs -/

def oneBuyer : Db Unit := { Db.empty with users := [⟨1, 11, false, false, none⟩] }

/-- A callback that is lost, and a sweep that finds the payment. -/
theorem sweep_misses_nothing_lost :
    (([.create 1 "platega_7d" 30, .provider "platega_7d" .confirmed, .wait 600000000, .beginSweep,
      .askStatus true, .readRow, .writeRow, .endSweep] : List PayEvent).foldl PayWorld.step
        (.initial oneBuyer (fun _ => none) 0)).missed = [] :=
  sweep_misses_nothing (by decide) (by decide)

/-- The bot is down for seven hours after the payment; and a payment is canceled before the
provider confirms it after all. Both sweeps complete with every status answered. -/
theorem sweep_misses_confirmed :
    (([.create 1 "platega_7d" 30, .provider "platega_7d" .confirmed, .crash, .wait 25200000000,
      .beginSweep, .endSweep] : List PayEvent).foldl PayWorld.step
        (.initial oneBuyer (fun _ => none) 0)).missed = ["platega_7d"] ∧
    (([.create 1 "platega_7d" 30, .provider "platega_7d" .canceled,
      .callback "platega_7d" .canceled, .commitCallback 0, .provider "platega_7d" .confirmed,
      .beginSweep, .endSweep] : List PayEvent).foldl PayWorld.step
        (.initial oneBuyer (fun _ => none) 0)).missed = ["platega_7d"] := by
  constructor <;> decide

end AegisVPN
