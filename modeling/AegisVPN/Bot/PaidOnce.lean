import AegisVPN.Bot.Procedures
import AegisVPN.Library.Schedules

namespace AegisVPN
open Library Library.Contract
set_option autoImplicit true

/-- No Platega payment has been granted twice, and those that have been granted are confirmed,
so that the claim does not take them again. -/
structure PaidOnce (db : Db D) : Prop where
  ids : (db.payments.map Payment.id).Nodup
  keys : (db.payments.map Payment.tgPaymentId).Nodup
  once : (db.granted.filter fun g => g.1 = .platega).Nodup
  settled : ∀ p ∈ db.payments, p.provider = .platega → (.platega, p.tgPaymentId) ∈ db.granted →
    p.status = some .confirmed

namespace PaidOnce

theorem of_sublist {a b : Db D} (h : PaidOnce a) (hp : b.payments.Sublist a.payments)
    (hg : b.granted = a.granted) : PaidOnce b where
  ids := h.ids.sublist (hp.map _)
  keys := h.keys.sublist (hp.map _)
  once := hg.symm ▸ h.once
  settled p hm hpl hgr := h.settled p (hp.subset hm) hpl (hg ▸ hgr)

theorem of_same {a b : Db D} (h : PaidOnce a) (hp : b.payments = a.payments)
    (hg : b.granted = a.granted) : PaidOnce b := h.of_sublist (hp ▸ .refl _) hg

theorem of_statuses {a b : Db D} (h : PaidOnce a) (f : Payment → Option PaymentStatus)
    (hp : b.payments = a.payments.map fun p => { p with status := f p })
    (hg : b.granted = a.granted)
    (hf : ∀ p ∈ a.payments, p.provider = .platega → (.platega, p.tgPaymentId) ∈ a.granted →
      f p = some .confirmed) : PaidOnce b where
  ids := by
    rw [hp, List.map_map]
    exact h.ids
  keys := by
    rw [hp, List.map_map]
    exact h.keys
  once := hg.symm ▸ h.once
  settled p hm hpl hgr := by
    rw [hp] at hm
    obtain ⟨p', hm', rfl⟩ := List.mem_map.1 hm
    exact hf p' hm' hpl (hg ▸ hgr)

theorem eq_of_id {a : Db D} (h : PaidOnce a) (hp : p ∈ a.payments) (hq : q ∈ a.payments)
    (he : p.id = q.id) : p = q := List.inj_on_of_nodup_map h.ids hp hq he

theorem eq_of_key {a : Db D} (h : PaidOnce a) (hp : p ∈ a.payments) (hq : q ∈ a.payments)
    (he : p.tgPaymentId = q.tgPaymentId) : p = q := List.inj_on_of_nodup_map h.keys hp hq he

end PaidOnce

/-- The action grants no Platega payment twice. -/
abbrev KeepsPaid (a b : Db D) : Prop := PaidOnce a → PaidOnce b

theorem keepsPaid_trans (a b c : Db D) (h : KeepsPaid a b) (h' : KeepsPaid b c) : KeepsPaid a c :=
  fun ha => h' (h ha)

theorem keepsPaid_same {a b : Db D} (h : SameAccounts a b) : KeepsPaid a b :=
  fun ha => ha.of_same h.payments h.granted

theorem updateSubscription_paid (old new : Subscription) :
    Preserves KeepsPaid (updateSubscription old new (D := D)) := by
  intro db h
  rcases updateSubscription_cases old new db with ⟨hw, _⟩ | ⟨e, hw⟩
  · rw [hw]
    exact h.of_same rfl rfl
  · rw [hw]
    exact h

theorem dirtySubscription_paid {a : DbAct D Unit} (h : a ∈ dirtySubscription old new) :
    Preserves KeepsPaid a := by
  unfold dirtySubscription at h
  split at h
  · cases h
  · cases List.mem_singleton.1 h
    exact updateSubscription_paid old new

theorem insertSubscription_paid (sub : Subscription) :
    Preserves KeepsPaid (insertSubscription sub (D := D)) := by
  intro db h
  rcases insertSubscription_cases sub db with ⟨row, hw, _⟩ | hw
  · rw [hw]
    exact h.of_same rfl rfl
  · rw [hw]
    exact h

theorem dirtyUser_paid {a : DbAct D Unit} (h : a ∈ dirtyUser old new) :
    Preserves KeepsPaid a := by
  unfold dirtyUser at h
  split at h
  · cases h
  · cases List.mem_singleton.1 h
    intro db hdb
    unfold updateUser
    split
    · exact hdb.of_same rfl rfl
    · exact hdb

theorem insertUser_paid (user : User) : Preserves KeepsPaid (insertUser user (D := D)) := by
  intro db h
  simp only [insertUser]
  split
  · exact h
  · exact h.of_same rfl rfl

theorem deleteUser_paid (userId : Nat) : Preserves KeepsPaid (deleteUser userId (D := D)) := by
  intro db h
  simp only [deleteUser]
  split
  · exact h.of_sublist List.filter_sublist rfl
  · exact h

theorem claimPayment_paid (id : Nat) : Preserves KeepsPaid (claimPayment id (D := D)) := by
  intro db h
  refine h.of_statuses
    (fun p => if p.id == id && p.claimable then some .confirmed else p.status) ?_ rfl ?_
  · refine List.map_congr_left fun p _ => ?_
    split <;> rfl
  · intro p hp hpl hgr
    split
    · rfl
    · exact h.settled p hp hpl hgr

theorem insertPayment_paid {payment : Payment} (hstars : payment.provider = .stars) :
    Preserves KeepsPaid (insertPayment payment (D := D)) := by
  intro db h
  unfold insertPayment
  split
  · exact h
  · rename_i hfree
    simp only [Bool.or_eq_true, List.any_eq_true, not_or, not_exists, not_and] at hfree
    refine ⟨?_, ?_, h.once, fun p hm hpl hgr => ?_⟩
    · rw [List.map_append]
      refine List.nodup_append.2 ⟨h.ids, List.nodup_singleton _, fun i hi j hj => ?_⟩
      simp only [List.map_cons, List.map_nil, List.mem_singleton] at hj
      exact hj ▸ (lt_nextId hi).ne
    · rw [List.map_append]
      refine List.nodup_append.2 ⟨h.keys, List.nodup_singleton _, fun k hk j hj => ?_⟩
      simp only [List.map_cons, List.map_nil, List.mem_singleton] at hj
      obtain ⟨p, hp, rfl⟩ := List.mem_map.1 hk
      exact fun he => hfree.1 p hp (by simpa using he.trans hj)
    · rcases List.mem_append.1 hm with hm | hm
      · exact h.settled p hm hpl hgr
      · rw [List.mem_singleton.1 hm] at hpl
        exact absurd (hstars.symm.trans hpl) nofun

theorem recordGrant_stars_paid (key : String) :
    Preserves KeepsPaid (recordGrant (.stars, key) (D := D)) := by
  intro db h
  refine ⟨h.ids, h.keys, ?_, fun p hm hpl hgr => ?_⟩
  · simp only [recordGrant, List.filter_append]
    simpa using h.once
  · simp only [recordGrant, List.mem_append, List.mem_singleton, Prod.mk.injEq, reduceCtorEq,
      false_and, or_false] at hgr
    exact h.settled p hm hpl hgr

/-! ## Contract -/

/-- Payments have to be read as they are when a transaction commits. -/
def paymentContract (D : Type) : Contract (Db D) Source AgentCall BotOp where
  watches s := s == .payments
  inv _ db := PaidOnce db
  mono _ h := h
  may _ _ _ _ := True
  change _ _ _ := True
  guarded _ := False
  sends _ _ := True

section Operations

theorem drafts_paid {pending : Pending D} (h : ∀ a ∈ pending, Preserves KeepsPaid a) :
    Drafts ((paymentContract D).Quiet KeepsPaid) pending where
  update _ _ := Preserves.write (fun _ => id) keepsPaid_trans fun a ha =>
    (List.mem_append.1 ha).elim (h a) dirtySubscription_paid
  insert new := Preserves.andThen keepsPaid_trans
    (Preserves.write (fun _ => id) keepsPaid_trans h) (insertSubscription_paid new)

theorem write_paid {pending : Pending D} (h : ∀ a ∈ pending, Preserves KeepsPaid a) :
    (paymentContract D).Quiet KeepsPaid (.execute pending.write : BotStmt D _) :=
  Preserves.write (fun _ => id) keepsPaid_trans h

theorem ended_paid {subs : List Subscription} {f : Subscription → Subscription}
    {a : DbAct D Unit} (h : a ∈ subs.flatMap fun sub => dirtySubscription sub (f sub)) :
    Preserves KeepsPaid a := by
  obtain ⟨sub, _, ha⟩ := List.mem_flatMap.1 h
  exact dirtySubscription_paid ha

variable [DecidableEq D] {settings : ControlSettings D}

theorem publishes_paid {pending : Pending D} (h : ∀ a ∈ pending, Preserves KeepsPaid a) :
    Publishes ((paymentContract D).Quiet KeepsPaid) settings pending where
  lock serverId db := keepsPaid_same (lockServer_same serverId db)
  write serverId now := writeSnapshot_preserves (fun _ => id) keepsPaid_trans
    (fun _ _ => keepsPaid_same) (Preserves.write (fun _ => id) keepsPaid_trans h) serverId now

theorem delivers_paid : Delivers ((paymentContract D).Quiet KeepsPaid) settings where
  plain := plain_quiet _ _
  publishes := publishes_paid nofun
  bulkAdd _ _ := id
  links subId loaded results := Preserves.write (fun _ => id) keepsPaid_trans fun a ha => by
    obtain ⟨result, _, ha⟩ := List.mem_flatMap.1 ha
    exact fun db => keepsPaid_same (dirtyLink_same ha db)

theorem removes_paid : Removes ((paymentContract D).Quiet KeepsPaid) settings where
  plain := plain_quiet _ _
  publishes := publishes_paid nofun
  removeClient _ _ := id
  commit := trivial

theorem quiet_paid (op : BotOp) (hc : ∀ txId status, op ≠ .plategaCallback txId status)
    (hr : op ≠ .reconcilePendingPlatega) :
    (op.program settings).Uses ((paymentContract D).Quiet KeepsPaid) := by
  have hP : Plain (D := D) ((paymentContract D).Quiet KeepsPaid) := plain_quiet _ _
  cases op with
  | plategaCallback txId status => exact absurd rfl (hc txId status)
  | reconcilePendingPlatega => exact absurd rfl hr
  | registerOrUpdateOnStart tgId =>
    exact registerOnStart_uses hP quiet_commit (fun user _ => insertUser_paid user) _
  | processSuccessfulPayment tgId planId chargeId =>
    refine processSuccessfulPayment_uses delivers_paid quiet_commit (fun payment hstars =>
      drafts_paid fun a ha => ?_) _ _ _
    rcases List.mem_append.1 ha with ha | ha
    · exact List.mem_singleton.1 ha ▸ insertPayment_paid hstars
    · exact List.mem_singleton.1 ha ▸ recordGrant_stars_paid _
  | extendActiveNonLifetimeSubscriptions days =>
    refine extendActive_uses hP quiet_commit (fun subs _ => write_paid fun a ha => ?_) _
    obtain ⟨_, _, ha⟩ := List.mem_flatMap.1 ha
    exact dirtySubscription_paid ha
  | grantSubscription tgId days =>
    exact grantSubscription_uses delivers_paid quiet_commit (drafts_paid nofun) _ _
  | grantLifetimeSubscription tgId =>
    exact grantLifetimeSubscription_uses delivers_paid quiet_commit (drafts_paid nofun) _
  | revokeSubscription tgId =>
    exact revokeSubscription_uses removes_paid
      (fun sub now => write_paid fun a ha => dirtySubscription_paid ha) _
  | setUserBanStatus tgId isBanned =>
    exact setUserBanStatus_uses removes_paid
      (fun old new => write_paid fun a ha => dirtyUser_paid ha)
      (fun old new sub now => write_paid fun a ha =>
        (List.mem_append.1 ha).elim dirtyUser_paid dirtySubscription_paid) _ _
  | deleteAccount tgId =>
    exact deleteAccount_uses removes_paid (write_paid nofun)
      (fun userId => write_paid fun a ha => List.mem_singleton.1 ha ▸ deleteUser_paid userId) _
  | reissueSubscription tgId =>
    exact reissueSubscription_uses delivers_paid removes_paid quiet_rollback (write_paid nofun)
      (fun old new _ => write_paid fun a ha => dirtySubscription_paid ha) _
  | activateTrial tgId =>
    exact activateTrial_uses (delivers_paid (D := D)) quiet_commit quiet_rollback insertUser_paid
      (fun old new => drafts_paid fun a ha => dirtyUser_paid ha) _
  | checkExpiredSubscriptions =>
    exact checkExpired_uses hP (fun subs => publishes_paid fun a ha => ended_paid ha)
      (fun subs => write_paid fun a ha => ended_paid ha) (fun _ => quiet_commit) fun _ _ _ => id
  | collectLinks subToken =>
    exact Prog.uses_bind (collectLinks_uses hP (publishes_paid nofun)
      (fun sub => write_paid fun a ha => dirtySubscription_paid ha) quiet_commit
      (fun _ _ _ => id) _) fun _ => trivial

/-! ## Confirmation -/

/-- The session holds a row of the database. -/
def Holds (db : Db D) (payment : Payment) : Prop := ∃ row ∈ db.payments, row.unread = payment

/-- The payment has been claimed and may be granted. -/
structure Claimed (db : Db D) (payment : Payment) : Prop where
  paid : PaidOnce db
  fresh : payment.provider = .platega → (.platega, payment.tgPaymentId) ∉ db.granted
  settled : ∀ p ∈ db.payments, p.tgPaymentId = payment.tgPaymentId → p.status = some .confirmed

theorem claimPayment_claimed (h : PaidOnce db) (hrow : Holds db payment)
    (hc : (claimPayment payment.id db).1 = .ok true) :
    Claimed (claimPayment payment.id db).2 payment := by
  obtain ⟨row, hmem, rfl⟩ := hrow
  have hany : ∃ p ∈ db.payments, p.id = row.id ∧ p.claimable = true := by
    simpa [claimPayment, Payment.unread] using hc
  obtain ⟨p, hp, hid, hclaim⟩ := hany
  obtain rfl := h.eq_of_id hp hmem hid
  have hpaid := claimPayment_paid p.unread.id db h
  refine ⟨hpaid, fun hpl hgr => ?_, fun q hq hkey => ?_⟩
  · have hstatus := h.settled p hp hpl hgr
    simp [Payment.claimable, hstatus] at hclaim
  · obtain ⟨q', hq', rfl⟩ := List.mem_map.1 hq
    split at hkey
    · rename_i hyes
      simp only [hyes, ↓reduceIte]
    · rename_i hno
      obtain rfl := h.eq_of_key hq' hp hkey
      exact absurd (by simp [Payment.unread, hclaim]) hno

theorem recordGrant_paid (h : Claimed db payment) :
    PaidOnce (recordGrant (payment.provider, payment.tgPaymentId) db).2 where
  ids := h.paid.ids
  keys := h.paid.keys
  once := by
    simp only [recordGrant, List.filter_append]
    by_cases hpl : payment.provider = .platega
    · simp only [hpl, decide_true, List.filter_cons_of_pos, List.filter_nil]
      refine List.nodup_append.2 ⟨h.paid.once, List.nodup_singleton _, fun g hg j hj => ?_⟩
      rw [List.mem_singleton.1 hj]
      rintro rfl
      exact h.fresh hpl (List.mem_filter.1 hg).1
    · simpa [hpl] using h.paid.once
  settled p hm hpl hgr := by
    rcases List.mem_append.1 hgr with hgr | hgr
    · exact h.paid.settled p hm hpl hgr
    · simp only [List.mem_singleton, Prod.mk.injEq] at hgr
      exact h.settled p hm hgr.2

theorem draftWrite_paid (h : Claimed db payment) (draft : Draft) :
    PaidOnce (draft.write ([] ++ [recordGrant (payment.provider, payment.tgPaymentId)]) db).2 := by
  have hgrant := recordGrant_paid h
  cases draft with
  | insert new =>
    exact Preserves.andThen (a := fun db => (Except.ok (), db)) keepsPaid_trans
      (fun _ => id) (insertSubscription_paid new) _ hgrant
  | update old new =>
    exact Preserves.andThen keepsPaid_trans
      (Preserves.write (fun _ => id) keepsPaid_trans fun a ha => dirtySubscription_paid ha)
      (fun _ => id) _ hgrant

variable {op : BotOp}

theorem within_applyPaid (h : Claimed v payment) (userId : Nat) (planDays : Int) :
    (paymentContract D).Within op (applyPaidSubscription settings [] userId planDays
      (payment.provider, payment.tgPaymentId)) (fun _ v' _ => PaidOnce v') db v n := by
  refine within_bind (within_clock fun n₁ _ now _ => ?_)
  refine within_bind (within_mono (within_plain (paidDraft_uses (plain_frames _ _).toAsks _ _ _))
    fun draft v₁ n₂ ⟨hv, _⟩ => ?_)
  subst hv
  refine within_deliver (fun _ _ => id) fun sub v₂ n₃ _ _ hsame => ?_
  exact (draftWrite_paid h draft).of_same hsame.payments hsame.granted

theorem keepsOpen_confirm {k : Bool → BotProg D Unit} (h : PaidOnce v) (hrow : Holds v payment)
    (hk : ∀ b n, (paymentContract D).KeepsClosed op (k b) n) :
    (paymentContract D).KeepsOpen op ((confirmPlategaPayment settings payment).bind k) db v n := by
  simp only [confirmPlategaPayment, Prog.bind_eq, Prog.bind_assoc]
  refine keepsOpen_bind (within_execute fun n₁ _ claimed hok => ?_)
  cases claimed with
  | false => exact keepsOpen_rollback (hk false _)
  | true =>
    have hclaimed := claimPayment_claimed h hrow hok
    simp only [↓reduceIte, Prog.bind_assoc]
    refine keepsOpen_bind (within_query fun n₂ _ d _ => ?_)
    split
    · simp only [Prog.bind_assoc]
      refine keepsOpen_lockCommit (fun n₃ _ => ?_) (hk true)
      exact within_mono (within_applyPaid hclaimed _ _) fun _ v' n' hv _ _ _ _ => ⟨hv, trivial⟩
    · simp only [Prog.bind_assoc]
      exact keepsOpen_commit (fun _ _ _ _ => ⟨hclaimed.paid, trivial⟩) (hk false _)

/-! ## Callbacks and sweeps -/

theorem setPaymentStatus_paid (h : PaidOnce db) (hrow : row ∈ db.payments)
    (hopen : row.status ≠ some .confirmed) (status : PaymentStatus) :
    PaidOnce (setPaymentStatus row.id status db).2 := by
  unfold setPaymentStatus
  split
  · refine h.of_statuses (fun p => if p.id = row.id then some status else p.status) ?_ rfl ?_
    · refine List.map_congr_left fun p _ => ?_
      split <;> rfl
    · intro p hp hpl hgr
      have hset := h.settled p hp hpl hgr
      have hne : p.id ≠ row.id := fun he => hopen (h.eq_of_id hp hrow he ▸ hset)
      simp only [hne, ↓reduceIte, hset]
  · exact h

omit [DecidableEq D] in
/-- A status written to a payment that the transaction has read as not confirmed. -/
theorem keepsOpen_status {k : Unit → BotProg D Unit} {pending : Pending D} (h : PaidOnce v)
    (hrow : row ∈ v.payments) (hopen : row.status ≠ some .confirmed)
    (hpending : ∀ a ∈ pending, ∃ status, a = setPaymentStatus row.id status)
    (hone : pending.length ≤ 1) (hk : ∀ n, (paymentContract D).KeepsClosed op (k ()) n) :
    (paymentContract D).KeepsOpen op ((flush pending).bind fun _ => (commit []).bind k) db v n := by
  refine keepsOpen_bind (within_flush (fun _ => ?_) fun n₁ _ _ => ?_)
  · exact keepsOpen_commit (fun _ _ _ _ => ⟨h, trivial⟩) (hk _)
  · refine keepsOpen_commit (fun _ _ _ _ => ⟨?_, trivial⟩) (hk _)
    match pending, hone with
    | [], _ => exact h
    | [a], _ =>
      obtain ⟨status, rfl⟩ := hpending a List.mem_cons_self
      have hset := setPaymentStatus_paid h hrow hopen status
      simp only [Pending.write, DbAct.andThen]
      generalize setPaymentStatus row.id status v = r at hset
      obtain ⟨x, v'⟩ := r
      cases x <;> exact hset

theorem plategaCallback_keeps (txId : String) (status : PlategaStatus) :
    (paymentContract D).KeepsClosed op (plategaCallback settings txId status) n := by
  have hend : ∀ n, (paymentContract D).KeepsClosed op (.ret () : BotProg D Unit) n :=
    fun _ => keepsClosed_ret
  cases status with
  | other => exact keepsClosed_ret
  | confirmed =>
    refine keepsClosed_queryOne fun db n' _ hi d hd payment hq => ?_
    obtain rfl := hd rfl
    cases payment with
    | none => exact keepsOpen_ret
    | some payment =>
      refine keepsOpen_confirm hi ?_ fun _ => hend
      cases hrow : d.paymentByTg ("platega_" ++ txId) with
      | error e => simp [hrow, Except.map] at hq
      | ok found =>
        simp only [hrow, Except.map, Except.ok.injEq, Option.map_eq_some_iff] at hq
        obtain ⟨row, rfl, rfl⟩ := hq
        exact ⟨row, paymentByTg_mem hrow, rfl⟩
  -- a chargeback and a cancellation differ in the status they store
  | _ =>
    refine keepsClosed_queryOne fun db n' _ hi d hd payment hq => ?_
    obtain rfl := hd rfl
    cases payment with
    | none => exact keepsOpen_ret
    | some row =>
      by_cases hopen : row.status ≠ some .confirmed
      · simp only [Prog.whenever, hopen, ne_eq, not_false_eq_true, ↓reduceIte, Prog.bind_eq]
        refine keepsOpen_status (k := .ret) hi (paymentByTg_mem hq) hopen ?_ ?_ hend
        · intro a ha
          split at ha
          · cases ha
          · exact ⟨_, List.mem_singleton.1 ha⟩
        · split <;> simp
      · simp only [Prog.whenever, hopen, ↓reduceIte]
        exact keepsOpen_ret

theorem reconcileRow_keeps {k : Unit → BotProg D Unit}
    (hk : ∀ n, (paymentContract D).KeepsClosed op (k ()) n) (row : Payment) :
    (paymentContract D).KeepsClosed op ((reconcileRow settings row).bind k) n := by
  simp only [reconcileRow, Prog.bind_eq, Prog.bind_assoc]
  refine keepsClosed_ask fun text => ?_
  cases plategaStatus text with
  | other => exact hk _
  | _ =>
    simp only [Prog.bind_assoc]
    refine keepsClosed_query fun db n' _ hi d hd => ?_
    obtain rfl := hd rfl
    cases hfind : d.payments.find? fun p => p.id == row.id with
    | none => exact keepsOpen_rollback (hk _)
    | some found =>
      have hmem := List.mem_of_find?_eq_some hfind
      dsimp only
      split
      · rename_i hpending
        simp only [PlategaStatus.stored?, Prog.bind_assoc]
        first
        | exact keepsOpen_confirm hi ⟨found, hmem, rfl⟩ fun _ => hk
        | refine keepsOpen_status hi hmem (by simp [hpending]) (fun a ha => ?_) (by simp) hk
          exact ⟨_, List.mem_singleton.1 ha⟩
      · exact keepsOpen_rollback (hk _)

theorem reconcileRows_keeps (rows : List Payment) :
    ∀ n, (paymentContract D).KeepsClosed op
      (rows.foldlM (fun _ row => reconcileRow settings row) () : BotProg D Unit) n := by
  induction rows with
  | nil => exact fun _ => keepsClosed_ret
  | cons row rows ih =>
    intro n
    rw [List.foldlM_cons]
    exact reconcileRow_keeps ih row

theorem reconcilePending_keeps :
    (paymentContract D).KeepsClosed op (reconcilePendingPlatega settings) n := by
  refine keepsClosed_clock fun now => ?_
  refine keepsClosed_query fun db n' _ _ d _ => ?_
  exact keepsOpen_rollback (reconcileRows_keeps _ _)

/-! ## Runs -/

theorem program_paid (settings : ControlSettings D) (op : BotOp) :
    (paymentContract D).KeepsFrom op (op.program settings) ∧
      (op.program settings).AfterRollback ((paymentContract D).KeepsFrom op) := by
  by_cases hc : ∃ txId status, op = .plategaCallback txId status
  · obtain ⟨txId, status, rfl⟩ := hc
    exact ⟨KeepsClosed.from fun _ => plategaCallback_keeps txId status,
      plategaCallback_afterRollback (fun _ _ _ => trivial) txId status⟩
  by_cases hr : op = .reconcilePendingPlatega
  · subst hr
    exact ⟨KeepsClosed.from fun _ => reconcilePending_keeps,
      reconcilePending_afterRollback fun rows => KeepsClosed.from (reconcileRows_keeps rows)⟩
  · have hquiet : (op.program settings).Uses ((paymentContract D).Quiet KeepsPaid) :=
      quiet_paid op (fun txId status h => hc ⟨txId, status, h⟩) hr
    exact ⟨keepsFrom_of_quiet (fun _ => id) keepsPaid_trans (fun _ _ _ h hE => ⟨hE h, trivial⟩)
        hquiet,
      afterRollback_of_quiet (fun _ => id) keepsPaid_trans (fun _ _ _ h hE => ⟨hE h, trivial⟩)
        hquiet⟩

/-- In a run whose transactions commit only while the payments that they have read are still as
they were read, no Platega payment is granted twice, and one that has been granted is never again
in a status that can be claimed. -/
theorem payment_grants_once {act : AgentCall → τ → τ} {db : Db D} {now : Int} {nodes : τ}
    {P : Bot D τ} (hdb : PaidOnce db)
    (hs : Pool.Steps (BotOp.program settings) act (Pool.Careful (paymentContract D))
      (Pool.initial db now nodes) P) :
    (∀ key, P.db.granted.count (.platega, key) ≤ 1) ∧
      ∀ p ∈ P.db.payments, p.provider = .platega → (.platega, p.tgPaymentId) ∈ P.db.granted →
        p.claimable = false := by
  have hsafe := Pool.Safe.steps (fun op => (program_paid settings op).1)
    (fun op => (program_paid settings op).2)
    (Pool.Safe.initial (C := paymentContract D) (n := now) hdb nodes) hs
  have hpaid : PaidOnce P.db := hsafe.inv
  refine ⟨fun key => ?_, fun p hp hpl hgr => ?_⟩
  · have hcount := List.nodup_iff_count_le_one.1 hpaid.once (.platega, key)
    rwa [List.count_filter (by simp)] at hcount
  · simp [Payment.claimable, hpaid.settled p hp hpl hgr]

end Operations

/-! ## A payment of one user -/

def onePayment : Db (List DesiredItem) := { Db.empty with
  users := [⟨1, 11, false, false, none⟩]
  payments := [⟨1, 1, "platega_t", 30, .platega, some .pending, 0⟩] }

/-- A confirmation, its repetition, and a cancellation, one after another. -/
theorem payment_grants_once_serial : ∃ P : Bot (List DesiredItem) Unit,
    Pool.Steps (BotOp.program listSettings) (fun _ n => n)
      (Pool.Careful (paymentContract (List DesiredItem))) (Pool.initial onePayment 0 ()) P ∧
    (.platega, "platega_t") ∈ P.db.granted ∧ P.db.granted.count (.platega, "platega_t") ≤ 1 := by
  have hrun : (Pool.play (BotOp.program listSettings) (fun _ n => n) Pool.Alone
      ([.spawn (.plategaCallback "t" .confirmed), .spawn (.plategaCallback "t" .confirmed),
        .spawn (.plategaCallback "t" .canceled)] ++
        Event.runs 0 14 "f3a9" ++ Event.runs 1 3 "" ++ Event.runs 2 1 "")
      (Pool.initial onePayment 0 () : Bot (List DesiredItem) Unit)).any
        (fun P => decide ((.platega, "platega_t") ∈ P.db.granted)) = true := by decide +kernel
  obtain ⟨P, hs, hgrant⟩ := Pool.exists_of_play hrun
  have hcareful := Pool.careful_of_alone (C := paymentContract (List DesiredItem))
    (fun _ _ h => h) (fun _ _ _ _ _ _ _ _ => trivial) hs
  have hdb : PaidOnce onePayment := ⟨by decide, by decide, by decide, by decide⟩
  exact ⟨P, hcareful, of_decide_eq_true hgrant, (payment_grants_once hdb hcareful).1 "platega_t"⟩

/-- A cancellation reads the payment while it is pending, and writes its status after the
payment has been granted: the next confirmation grants it again. -/
theorem stale_cancellation_grants_twice : ∃ P : Bot (List DesiredItem) Unit,
    Pool.Steps (BotOp.program listSettings) (fun _ n => n) (fun _ _ => True)
      (Pool.initial onePayment 0 ()) P ∧
    P.db.granted.count (.platega, "platega_t") = 2 ∧
    P.db.subscriptions.map Subscription.expiresAt = [60 * 86400000000] := by
  have hrun : (Pool.play (BotOp.program listSettings) (fun _ n => n) (fun _ _ => True)
      ([.spawn (.plategaCallback "t" .canceled), .spawn (.plategaCallback "t" .confirmed),
        .spawn (.plategaCallback "t" .confirmed)] ++
        Event.runs 0 1 "" ++ Event.runs 1 14 "f3a9" ++ Event.runs 0 2 "" ++ Event.runs 2 9 "")
      (Pool.initial onePayment 0 () : Bot (List DesiredItem) Unit)).any
        (fun P => decide (P.db.granted.count (.platega, "platega_t") = 2 ∧
          P.db.subscriptions.map Subscription.expiresAt = [60 * 86400000000])) = true := by
    decide +kernel
  obtain ⟨P, hs, hgrant⟩ := Pool.exists_of_play hrun
  exact ⟨P, hs, of_decide_eq_true hgrant⟩

end AegisVPN
