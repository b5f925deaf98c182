import AegisVPN.Bot.Procedures

namespace AegisVPN
open Library Library.Contract
set_option autoImplicit true

/-! ## What a renewal writes -/

/-- What is so of a user's rows when a new one is begun: there are none, or one has ended no
earlier than the new one begins. -/
def NewRow (subs : List Subscription) (userId : Nat) (startedAt : Int) : Prop :=
  (∀ s ∈ subs, s.userId ≠ userId) ∨
    ∃ s ∈ subs, s.userId = userId ∧ s.isActive = false ∧ startedAt ≤ s.expiresAt

/-- One row of a user has been made active, or a new active one added. -/
inductive Renewed (subs : List Subscription) (userId : Nat) : List Subscription → Prop
  | update {old new : Subscription} (hold : old ∈ subs) (huser : old.userId = userId)
    (hactive : new.isActive = true) :
    Renewed subs userId (subs.map fun r => if r.id = old.id then old.patch new r else r)
  | insert {row : Subscription} (hid : ∀ r ∈ subs, r.id ≠ row.id) (huser : row.userId = userId)
    (hactive : row.isActive = true) (hnew : NewRow subs row.userId row.startedAt) :
    Renewed subs userId (subs ++ [row])

/-- The draft renews a subscription of a user. -/
inductive Draft.Renews (subs : List Subscription) (userId : Nat) : Draft → Prop
  | update {old new : Subscription} (hold : old ∈ subs) (huser : old.userId = userId)
    (hactive : new.isActive = true) : Renews subs userId (.update old new)
  | insert {new : Subscription} (huser : new.userId = userId) (hactive : new.isActive = true)
    (hnew : NewRow subs new.userId new.startedAt) : Renews subs userId (.insert new)

/-- Nothing was written to the subscriptions. -/
def SameRows (a b : Db D) : Prop := b.subscriptions = a.subscriptions

theorem sameRows_refl (db : Db D) : SameRows db db := rfl

theorem sameRows_trans (a b c : Db D) (h : SameRows a b) (h' : SameRows b c) : SameRows a c :=
  h'.trans h

theorem write_append {pending rest : Pending D}
    (h : (Pending.write (pending ++ rest) v).1 = .ok ()) :
    Pending.write (pending ++ rest) v = rest.write (pending.write v).2 := by
  have hwrite : Pending.write (pending ++ rest) v =
      (.ok (), (Pending.write (pending ++ rest) v).2) := Prod.ext h rfl
  obtain ⟨db₁, hfirst, hrest⟩ := write_split hwrite
  rw [hwrite, hfirst, hrest]

theorem dirtySubscription_rows
    (h : (Pending.write (dirtySubscription old new) v).1 = .ok ()) :
    (Pending.write (dirtySubscription old new) v).2.subscriptions =
      v.subscriptions.map fun r => if r.id = old.id then old.patch new r else r := by
  have hset : (Pending.write (dirtySubscription old new) v).2 = v.setSubscription old new :=
    dirtySubscription_patches (Prod.ext h rfl)
  rw [hset]
  rfl

theorem insertSubscription_rows (h : (insertSubscription new v).1 = .ok row) :
    row = { new with id := nextId (v.subscriptions.map Subscription.id) } ∧
      (insertSubscription new v).2.subscriptions = v.subscriptions ++ [row] := by
  rcases insertSubscription_cases new v with ⟨row', hi, hrow, _⟩ | hi
  · rw [hi] at h
    cases h
    rw [hi]
    exact ⟨hrow, rfl⟩
  · rw [hi] at h
    cases h

theorem Draft.Renews.write {draft : Draft} {pending : Pending D}
    (h : draft.Renews v.subscriptions userId) (hpending : ∀ a ∈ pending, Preserves SameRows a)
    (hok : (draft.write pending v).1 = .ok sub) :
    Renewed v.subscriptions userId (draft.write pending v).2.subscriptions := by
  have hrows : (pending.write v).2.subscriptions = v.subscriptions :=
    Preserves.write sameRows_refl sameRows_trans hpending v
  cases h with
  | @insert new huser hactive hnew =>
    obtain ⟨_, _, hinsert, hw⟩ := DbAct.andThen_ok hok
    change Renewed _ _ (pending.write.andThen (insertSubscription new) v).2.subscriptions
    obtain ⟨hrow, hi⟩ := insertSubscription_rows hinsert
    rw [hw, hi, hrows]
    rw [hrows] at hrow
    subst hrow
    exact .insert (fun r hr => (lt_nextId (List.mem_map_of_mem hr)).ne) huser hactive hnew
  | @update old new hold huser hactive =>
    obtain ⟨_, hwrite, _, hw⟩ := DbAct.andThen_ok hok
    change Renewed _ _ (DbAct.andThen (Pending.write (pending ++ dirtySubscription old new))
      (fun db => (Except.ok new, db)) v).2.subscriptions
    rw [hw]
    have happend := write_append hwrite
    rw [happend] at hwrite ⊢
    change Renewed _ _
      (Pending.write (dirtySubscription old new) (pending.write v).2).2.subscriptions
    rw [dirtySubscription_rows hwrite, hrows]
    exact .update hold huser hactive

/-- No user has been banned, and none has the id of another. -/
structure KeepsUsers (a b : Db D) : Prop where
  ids : (a.users.map User.id).Nodup → (b.users.map User.id).Nodup
  bans : ∀ u ∈ b.users, u.isBanned = true → ∃ u' ∈ a.users, u'.id = u.id ∧ u'.isBanned = true

/-- And no payment is gone. -/
structure Keeps (a b : Db D) : Prop extends KeepsUsers a b where
  payments : ∀ p ∈ a.payments, p ∈ b.payments

theorem KeepsUsers.of_same {a b : Db D} (h : b.users = a.users) : KeepsUsers a b where
  ids hids := h ▸ hids
  bans u hu hbanned := ⟨u, h ▸ hu, rfl, hbanned⟩

theorem KeepsUsers.trans {a b c : Db D} (h : KeepsUsers a b) (h' : KeepsUsers b c) :
    KeepsUsers a c where
  ids hids := h'.ids (h.ids hids)
  bans u hu hbanned := by
    obtain ⟨u', hu', hid', hbanned'⟩ := h'.bans u hu hbanned
    obtain ⟨u'', hu'', hid'', hbanned''⟩ := h.bans u' hu' hbanned'
    exact ⟨u'', hu'', hid''.trans hid', hbanned''⟩

theorem Keeps.of_same {a b : Db D} (h : b.users = a.users) (hp : b.payments = a.payments) :
    Keeps a b where
  toKeepsUsers := .of_same h
  payments _ hmem := hp ▸ hmem

theorem keeps_refl (db : Db D) : Keeps db db := .of_same rfl rfl

theorem keeps_trans (a b c : Db D) (h : Keeps a b) (h' : Keeps b c) : Keeps a c where
  toKeepsUsers := h.toKeepsUsers.trans h'.toKeepsUsers
  payments p hp := h'.payments p (h.payments p hp)

/-- Something that may be written along with a renewal. -/
structure Beside (a : DbAct D Unit) : Prop where
  rows : Preserves SameRows a
  keeps : Preserves Keeps a

theorem dirtySubscription_keeps {a : DbAct D Unit} (h : a ∈ dirtySubscription old new) :
    Preserves Keeps a := by
  unfold dirtySubscription at h
  split at h
  · cases h
  · cases List.mem_singleton.1 h
    intro db
    rcases updateSubscription_cases old new db with ⟨hw, -⟩ | ⟨e, hw⟩
    · rw [hw]
      exact .of_same rfl rfl
    · rw [hw]
      exact keeps_refl db

theorem insertSubscription_keeps (sub : Subscription) :
    Preserves Keeps (insertSubscription sub (D := D)) := by
  intro db
  rcases insertSubscription_cases sub db with ⟨row, hw, -⟩ | hw
  · rw [hw]
    exact .of_same rfl rfl
  · rw [hw]
    exact keeps_refl db

theorem Draft.write_keeps (draft : Draft) {pending : Pending D}
    (hpending : ∀ a ∈ pending, Beside a) : Preserves Keeps (draft.write pending) := by
  have hfirst : ∀ a ∈ pending, Preserves Keeps a := fun a ha => (hpending a ha).keeps
  cases draft with
  | insert new =>
    exact .andThen keeps_trans (.write keeps_refl keeps_trans hfirst) (insertSubscription_keeps new)
  | update old new =>
    refine .andThen keeps_trans (.write keeps_refl keeps_trans fun a ha => ?_) keeps_refl
    exact (List.mem_append.1 ha).elim (hfirst a) dirtySubscription_keeps

/-! ## Drafts -/

/-- The program drafts a renewal for a user, and has written nothing yet. -/
abbrev DraftsRenewal (C : Contract (Db D) Source AgentCall ω) (op : ω) (p : BotProg D Draft)
    (userId : Nat) (db v : Db D) (n : Int) : Prop :=
  C.Within op p (fun draft v' _ => v' = v ∧ draft.Renews v.subscriptions userId) db v n

section Drafts
variable {C : Contract (Db D) Source AgentCall ω} {op : ω}

theorem within_newSubscription (userId : Nat) (planDays now expiresAt : Int) :
    C.Within op (newSubscription userId planDays now expiresAt : BotProg D Draft)
      (fun draft v' _ => v' = v ∧ ∃ token uuid, draft =
        .insert ⟨0, userId, token, none, uuid, planDays, now, expiresAt, true⟩) db v n := by
  refine within_bind (within_mono (within_plain (generateSubToken_uses (plain_frames _ _).toAsks _))
    fun token v₁ n₁ ⟨hv, _⟩ => ?_)
  exact within_bind (within_ask fun n₂ _ uuid => within_ret ⟨hv, token, uuid, rfl⟩)

theorem within_newRow (h : NewRow v.subscriptions userId now) (planDays expiresAt : Int) :
    DraftsRenewal C op (newSubscription userId planDays now expiresAt) userId db v n :=
  within_mono (within_newSubscription _ _ _ _) fun _ _ _ ⟨hv, _, _, hdraft⟩ =>
    ⟨hv, hdraft ▸ .insert rfl rfl h⟩

theorem within_withIdentity (sub : Subscription) :
    C.Within op (withIdentity sub : BotProg D Subscription)
      (fun new v' _ => v' = v ∧ ∃ subToken clientUuid,
        new = { sub with subToken, clientUuid }) db v n := by
  have hP : Plain (D := D) (C.Frames Eq) := plain_frames _ _
  refine within_bind (within_mono (within_plain ?_) fun subToken v₁ n₁ ⟨hv₁, _⟩ => ?_)
  · split
    · exact generateSubToken_uses hP.toAsks _
    · trivial
  refine within_bind (within_mono (within_plain ?_) fun clientUuid v₂ n₂ ⟨hv₂, _⟩ => ?_)
  · split
    · exact Prog.uses_perform hP.ask
    · trivial
  exact within_ret ⟨hv₂.trans hv₁, subToken, clientUuid, rfl⟩

theorem within_rowAgain (hold : old ∈ v.subscriptions) (huser : old.userId = userId)
    (hactive : sub.isActive = true) : DraftsRenewal C op
      ((withIdentity sub).bind fun new => .ret (.update old new)) userId db v n := by
  refine within_bind (within_mono (within_withIdentity _) ?_)
  exact fun new v' n' ⟨hv, token, uuid, hnew⟩ =>
    within_ret ⟨hv, hnew ▸ .update hold huser hactive⟩

theorem within_findLatest (hwatch : C.watches .subscriptions = true)
    {Q : Option Subscription → Db D → Int → Prop}
    (hnone : ∀ n', (∀ s ∈ v.subscriptions, s.userId ≠ userId) → Q none v n')
    (hsome : ∀ n', ∀ sub ∈ v.subscriptions, sub.userId = userId → Q (some sub) v n') :
    C.Within op (findLatestSubscription userId) Q db v n := by
  refine within_query fun n' _ d hd => ?_
  obtain rfl := hd hwatch
  cases hmax : (d.subscriptionsOf userId).argmax Subscription.id with
  | none =>
    refine hnone n' fun s hs hu => ?_
    have hempty := List.argmax_eq_none.1 hmax
    have hmem : s ∈ d.subscriptionsOf userId := List.mem_filter.2 ⟨hs, by simpa using hu⟩
    rw [hempty] at hmem
    cases hmem
  | some sub =>
    obtain ⟨hmem, hu⟩ := List.mem_filter.1 (List.argmax_mem hmax)
    exact hsome n' sub hmem (beq_iff_eq.1 hu)

variable (hwatch : C.watches .subscriptions = true)
include hwatch

theorem within_paidDraft (userId : Nat) (planDays now : Int) :
    DraftsRenewal C op (paidDraft userId planDays now) userId db v n := by
  refine within_bind (within_queryOne fun n₁ _ d hd active hq => ?_)
  obtain rfl := hd hwatch
  cases active with
  | some sub =>
    have hmem : sub ∈ d.activeOf userId := scalarOneOrNone_eq hq ▸ List.mem_singleton_self sub
    simp only [Db.activeOf, Db.subscriptionsOf, List.mem_filter, beq_iff_eq] at hmem
    refine within_bind (within_ofExcept fun expiresAt _ => ?_)
    exact within_ret ⟨rfl, .update hmem.1.1 hmem.1.2 hmem.2⟩
  | none =>
    have hinactive : ∀ s ∈ d.subscriptions, s.userId = userId → s.isActive = false := by
      intro s hs hu
      by_contra hactive
      have hmem : s ∈ d.activeOf userId := by
        simpa [Db.activeOf, Db.subscriptionsOf, hs, hu] using hactive
      rw [scalarOneOrNone_none hq] at hmem
      cases hmem
    refine within_bind (within_query fun n₂ _ d' hd' => ?_)
    obtain rfl := hd' hwatch
    refine within_bind (within_ofExcept fun expiresAt _ => ?_)
    cases hmax : largest Subscription.expiresAt (d'.subscriptionsOf userId) with
    | none =>
      refine within_newRow (.inl fun s hs hu => ?_) _ _
      have hmem : s ∈ d'.subscriptionsOf userId := List.mem_filter.2 ⟨hs, by simpa using hu⟩
      rw [largest_none hmax] at hmem
      cases hmem
    | some sub =>
      obtain ⟨hmem, hu⟩ := List.mem_filter.1 (largest_mem hmax)
      have hu : sub.userId = userId := by simpa using hu
      dsimp only
      split
      · exact within_ret ⟨rfl, .update hmem hu rfl⟩
      · exact within_newRow (.inr ⟨sub, hmem, hu, hinactive sub hmem hu, by omega⟩) _ _

theorem within_grantDraft (userId : Nat) (days now : Int) :
    DraftsRenewal C op (grantDraft userId days now) userId db v n := by
  refine within_bind (within_findLatest hwatch (fun n₁ hnone => ?_)
    fun n₁ sub hmem hu => ?_)
  · refine within_bind (within_ofExcept fun expiresAt _ => ?_)
    exact within_newRow (.inl hnone) _ _
  · dsimp only
    split
    · rename_i hlive
      exact within_bind (within_ofExcept fun expiresAt _ =>
        within_ret ⟨rfl, .update hmem hu hlive.1⟩)
    · refine within_bind (within_ofExcept fun expiresAt _ => ?_)
      exact within_rowAgain hmem hu rfl

theorem within_lifetimeDraft (userId : Nat) (now : Int) :
    DraftsRenewal C op (lifetimeDraft userId now) userId db v n :=
  within_bind (within_findLatest hwatch
    (fun _ hnone => within_newRow (.inl hnone) _ _) fun _ _ hmem hu => within_rowAgain hmem hu rfl)

theorem within_trialDraft (userId : Nat) (now : Int) :
    DraftsRenewal C op (trialDraft userId now) userId db v n := by
  refine within_bind (within_findLatest hwatch (fun n₁ hnone => ?_)
    fun n₁ sub hmem hu => ?_)
  · refine within_bind (within_ofExcept fun expiresAt _ => ?_)
    exact within_newRow (.inl hnone) _ _
  · refine within_bind (within_ofExcept fun expiresAt _ => ?_)
    exact within_rowAgain hmem hu rfl

end Drafts

/-! ## Operations that renew -/

theorem noPending {E : Db D → Db D → Prop} : ∀ a ∈ ([] : Pending D), Preserves E a :=
  fun _ h => absurd h List.not_mem_nil

theorem noneBeside : ∀ a ∈ ([] : Pending D), Beside a :=
  fun _ h => absurd h List.not_mem_nil

theorem recordGrant_beside (payment : PaymentProvider × String) :
    Beside (recordGrant payment (D := D)) := ⟨fun _ => rfl, fun _ => .of_same rfl rfl⟩

theorem insertPayment_beside (payment : Payment) : Beside (insertPayment payment (D := D)) where
  rows db := by
    unfold insertPayment
    split <;> rfl
  keeps db := by
    unfold insertPayment
    split
    · exact keeps_refl db
    · exact ⟨.of_same rfl, fun p hp => List.mem_append_left _ hp⟩

theorem setPaymentStatus_rows (id : Nat) (status : PaymentStatus) :
    Preserves SameRows (setPaymentStatus id status (D := D)) := by
  intro db
  unfold setPaymentStatus
  split <;> rfl

theorem setPaymentStatus_users (id : Nat) (status : PaymentStatus) :
    Preserves KeepsUsers (setPaymentStatus id status (D := D)) := by
  intro db
  unfold setPaymentStatus
  split <;> exact .of_same rfl

theorem insertUser_rows (user : User) : Preserves SameRows (insertUser user (D := D)) := by
  intro db
  simp only [insertUser]
  split <;> rfl

theorem dirtyUser_rows {a : DbAct D Unit} (h : a ∈ dirtyUser old new) : Preserves SameRows a := by
  unfold dirtyUser at h
  split at h
  · cases h
  · cases List.mem_singleton.1 h
    intro db
    unfold updateUser
    split <;> rfl

theorem map_patch {f : Subscription → β} (hf : ∀ old new r : Subscription,
    f (old.patch new r) = f r) (subs : List Subscription) (old new : Subscription) :
    (subs.map fun r => if r.id = old.id then old.patch new r else r).map f = subs.map f := by
  rw [List.map_map]
  refine List.map_congr_left fun r _ => ?_
  rw [Function.comp_apply]
  split
  · exact hf old new r
  · rfl

theorem patch_cases [DecidableEq β] (old new current : β) :
    patch old new current = current ∨ old ≠ new ∧ patch old new current = new := by
  unfold patch
  split
  · exact .inl rfl
  · rename_i hne
    exact .inr ⟨hne, rfl⟩

theorem updateUser_ids (old new : User) (db : Db D) :
    (updateUser old new db).2.users.map User.id = db.users.map User.id := by
  unfold updateUser
  split
  · rw [List.map_map]
    refine List.map_congr_left fun u _ => ?_
    rw [Function.comp_apply]
    split <;> rfl
  · rfl

theorem dirtyUser_users {a : DbAct D Unit} (h : a ∈ dirtyUser old new)
    (hbanned : old.isBanned = true ∨ new.isBanned = false) : Preserves KeepsUsers a := by
  unfold dirtyUser at h
  split at h
  · cases h
  · cases List.mem_singleton.1 h
    intro db
    refine ⟨fun hids => (updateUser_ids old new db).symm ▸ hids, fun u hu hu' => ?_⟩
    unfold updateUser at hu
    split at hu
    · obtain ⟨u₀, hu₀, rfl⟩ := List.mem_map.1 hu
      refine ⟨u₀, hu₀, ?_, ?_⟩
      · split <;> rfl
      · split at hu'
        · rcases patch_cases old.isBanned new.isBanned u₀.isBanned with hpatch | ⟨hne, hpatch⟩
          · exact hpatch.symm.trans hu'
          · rw [hpatch.symm.trans hu'] at hne hbanned
            exact absurd (hbanned.resolve_right (by decide)) hne
        · exact hu'
    · exact ⟨u, hu, rfl, hu'⟩

theorem trialUsed_beside {a : DbAct D Unit}
    (h : a ∈ dirtyUser user { user with trialUsed := true }) : Beside a where
  rows := dirtyUser_rows h
  keeps db := by
    have hbanned : user.isBanned = true ∨ { user with trialUsed := true }.isBanned = false := by
      cases user.isBanned <;> simp
    refine ⟨dirtyUser_users h hbanned db, ?_⟩
    unfold dirtyUser at h
    split at h
    · cases h
    · cases List.mem_singleton.1 h
      unfold updateUser
      split <;> exact fun _ => id

theorem insertUser_users {user : User} (hfree : user.isBanned = false) :
    Preserves KeepsUsers (insertUser user (D := D)) := by
  intro db
  simp only [insertUser]
  split
  · exact .of_same rfl
  · refine ⟨fun hids => ?_, fun u hu hbanned => ?_⟩
    · rw [List.map_append]
      refine List.nodup_append.2 ⟨hids, List.nodup_singleton _, fun i hi j hj => ?_⟩
      rw [List.mem_singleton.1 hj]
      exact (lt_nextId hi).ne
    · rcases List.mem_append.1 hu with hu | hu
      · exact ⟨u, hu, rfl, hbanned⟩
      · rw [List.mem_singleton.1 hu, hfree] at hbanned
        cases hbanned

/-! ## For whom -/

/-- The transaction confirms the payment with that id. -/
def Db.Claims (db v : Db D) (id : Nat) : Prop :=
  (∃ p ∈ db.payments, p.id = id ∧ p.claimable = true) ∧
    ∃ p ∈ v.payments, p.id = id ∧ p.status = some .confirmed

def Db.Knows (db : Db D) (tgId : Int) (userId : Nat) : Prop :=
  ∃ u ∈ db.users, u.tgId = tgId ∧ u.id = userId

/-- The operation adds days for the user, in a transaction that takes `db` to `v`, without a look at
whether the user is banned. -/
def BotOp.Serves (op : BotOp) (db v : Db D) (userId : Nat) : Prop :=
  match op with
  | .plategaCallback _ _ => ∃ p ∈ db.payments, p.userId = userId ∧ db.Claims v p.id
  | .reconcilePendingPlatega => ∃ p ∈ db.payments, p.userId = userId ∧ db.Claims v p.id
  | .processSuccessfulPayment tgId _ _ => db.Knows tgId userId
  | .grantSubscription tgId _ => db.Knows tgId userId
  | .grantLifetimeSubscription tgId => db.Knows tgId userId
  | _ => False

/-- Nobody with that id is banned. -/
def Db.Spares (db : Db D) (userId : Nat) : Prop :=
  ∀ u ∈ db.users, u.id = userId → u.isBanned = false

/-- What a contract may rely on about the user, if it watches users and payments. -/
def Entitled (C : Contract (Db D) Source AgentCall BotOp) (op : BotOp) (db v : Db D)
    (userId : Nat) : Prop :=
  C.watches .users = true → C.watches .payments = true → (db.users.map User.id).Nodup →
    op.Serves db v userId ∨ db.Spares userId

/-- A contract under which renewals may be committed. -/
structure Renewals (C : Contract (Db D) Source AgentCall BotOp) (op : BotOp) : Prop where
  watches : C.watches .subscriptions = true
  calls : ∀ agent clients, ¬ C.guarded (.bulkAdd agent clients)
  same : ∀ {n db v}, C.inv n db → SameRows db v → KeepsUsers db v →
    C.inv n v ∧ C.change op db v
  renewed : ∀ {n db v userId}, C.inv n db → C.may op n db v → KeepsUsers db v →
    Entitled C op db v userId → Renewed db.subscriptions userId v.subscriptions →
    C.inv n v ∧ C.change op db v

section Operations
variable {C : Contract (Db D) Source AgentCall BotOp} {op : BotOp}

theorem keepsOpen_orRollback {p : BotProg D Unit}
    (h : C.Within op p (fun _ v' _ => ∀ n', C.inv n' db → C.may op n' db v' →
      C.inv n' v' ∧ C.change op db v') db v n) :
    C.KeepsOpen op (orRollback (p.bind fun _ => commit [])) db v n := by
  unfold orRollback
  simp only [Prog.bind_eq, Prog.attempt_bind, Prog.bind_assoc]
  refine keepsOpen_bind (within_attempt (within_mono h fun _ v' n₁ hq => ?_) fun e v' n₁ => ?_)
  · exact keepsOpen_commit (k := fun _ => .ret ()) (fun n' _ hi hmay => hq n' hi hmay)
      keepsClosed_ret
  · exact keepsOpen_rollback (k := .ret) keepsClosed_ret

variable [DecidableEq D] {settings : ControlSettings D}

theorem within_deliverRenewal (h : Renewals C op) (hv : SameRows db v)
    {pending : Pending D} (hpending : ∀ a ∈ pending, Beside a) {draft : Draft}
    (hdraft : draft.Renews v.subscriptions userId) :
    C.Within op (deliver settings pending draft)
      (fun _ v' _ => Renewed db.subscriptions userId v'.subscriptions ∧ Keeps v v') db v n := by
  refine within_deliver h.calls fun sub v' n' _ hok hsame => ?_
  have hrenewed := hdraft.write (fun a ha => (hpending a ha).rows) hok
  rw [← hsame.subscriptions] at hrenewed
  exact ⟨hv ▸ hrenewed, keeps_trans _ _ _ (draft.write_keeps hpending v)
    (.of_same hsame.users hsame.payments)⟩

theorem within_applyPaidRenewal (h : Renewals C op) (hv : SameRows db v)
    {pending : Pending D} (hpending : ∀ a ∈ pending, Beside a) (userId : Nat)
    (planDays : Int) (payment : PaymentProvider × String) :
    C.Within op (applyPaidSubscription settings pending userId planDays payment)
      (fun _ v' _ => Renewed db.subscriptions userId v'.subscriptions ∧ Keeps v v') db v n := by
  refine within_bind (within_clock fun n₁ _ now _ => ?_)
  refine within_bind (within_mono (within_paidDraft h.watches userId planDays now)
    fun draft v₁ n₂ hdraft => ?_)
  obtain ⟨hv₁, hdraft⟩ := hdraft
  subst hv₁
  refine within_deliverRenewal h hv (fun a ha => ?_) hdraft
  rcases List.mem_append.1 ha with ha | ha
  · exact hpending a ha
  · exact List.mem_singleton.1 ha ▸ recordGrant_beside payment

omit [DecidableEq D] in
theorem claimPayment_claims {db : Db D} {id : Nat} (h : (claimPayment id db).1 = .ok true) :
    db.Claims (claimPayment id db).2 id := by
  have hany : ∃ p ∈ db.payments, p.id = id ∧ p.claimable = true := by
    simpa [claimPayment] using h
  obtain ⟨p, hp, hid, hclaim⟩ := hany
  refine ⟨⟨p, hp, hid, hclaim⟩, { p with status := some .confirmed }, ?_, hid, rfl⟩
  refine List.mem_map.2 ⟨p, hp, ?_⟩
  rw [hid, hclaim, beq_self_eq_true, Bool.and_true, if_pos rfl]

theorem keepsOpen_confirmRenewal (h : Renewals C op)
    (hserves : ∀ v userId, (∃ p ∈ db.payments, p.userId = userId ∧ db.Claims v p.id) →
      op.Serves db v userId) {k : Bool → BotProg D Unit}
    (hk : ∀ b n, C.KeepsClosed op (k b) n) (payment : Payment)
    (hrow : C.watches .payments = true → ∃ row ∈ db.payments, row.unread = payment) :
    C.KeepsOpen op ((confirmPlategaPayment settings payment).bind k) db db n := by
  simp only [confirmPlategaPayment, Prog.bind_eq, Prog.bind_assoc]
  refine keepsOpen_bind (within_execute fun n₁ _ claimed hok => ?_)
  have hclaim : SameRows db (claimPayment payment.id db).2 := rfl
  have husers : KeepsUsers db (claimPayment payment.id db).2 := .of_same rfl
  cases claimed with
  | false => exact keepsOpen_rollback (hk false _)
  | true =>
    obtain ⟨hclaimable, p, hp, hid, hconfirmed⟩ := claimPayment_claims hok
    simp only [↓reduceIte, Prog.bind_assoc]
    refine keepsOpen_bind (within_query fun n₂ _ d _ => ?_)
    split
    · simp only [Prog.bind_assoc]
      refine keepsOpen_lockCommit (fun n₃ _ => ?_) (hk true)
      refine within_mono (within_applyPaidRenewal h hclaim noneBeside _ _ _)
        fun _ v' n' hafter n'' _ hi hmay => ?_
      obtain ⟨hrenewed, hkeeps⟩ := hafter
      refine h.renewed hi hmay (husers.trans hkeeps.toKeepsUsers) (fun _ hwatch _ => .inl ?_)
        hrenewed
      obtain ⟨row, hmem, rfl⟩ := hrow hwatch
      exact hserves v' _ ⟨row, hmem, rfl, hclaimable, p, hkeeps.payments p hp, hid, hconfirmed⟩
    · simp only [Prog.bind_assoc]
      exact keepsOpen_commit (fun _ _ hi _ => h.same hi hclaim husers) (hk false _)

/-! ## Each of them -/

/-- What a grant does for an entitled user once it knows how to draft the renewal. -/
theorem keepsOpen_grantDrafted (h : Renewals C op) {drafted : BotProg D Draft}
    (hdraft : DraftsRenewal C op drafted userId db db n) (hmay : ∀ v, Entitled C op db v userId) :
    C.KeepsOpen op (drafted.bind fun draft =>
      (deliver settings [] draft).bind fun _ => commit []) db db n := by
  refine keepsOpen_bind (within_mono hdraft fun draft v n₁ hdraft => ?_)
  obtain ⟨hv, hdraft⟩ := hdraft
  subst hv
  refine keepsOpen_bind (within_mono (within_deliverRenewal h (sameRows_refl v) noneBeside hdraft)
    fun _ v' n₂ hafter => ?_)
  obtain ⟨hrenewed, hkeeps⟩ := hafter
  refine keepsOpen_commit (k := .ret) (fun _ _ hi hallowed => ?_) keepsClosed_ret
  exact h.renewed hi hallowed hkeeps.toKeepsUsers (hmay v') hrenewed

theorem grantSubscription_renews (h : Renewals C (.grantSubscription tgId days)) :
    C.KeepsClosed (.grantSubscription tgId days) (grantSubscription settings tgId days) n := by
  refine keepsClosed_queryOne fun db n₁ _ _ d hd user hq => ?_
  cases user with
  | none => exact keepsOpen_ret
  | some user =>
    simp only [Prog.whenever]
    split
    · refine keepsOpen_bind (within_clock fun n₂ _ now _ => ?_)
      refine keepsOpen_grantDrafted h (within_grantDraft h.watches user.id days now)
        fun v hwatch _ _ => .inl ?_
      obtain ⟨hmem, htg⟩ := userByTg_knows hq
      exact ⟨user, hd hwatch ▸ hmem, htg, rfl⟩
    · exact keepsOpen_ret

theorem grantLifetime_renews (h : Renewals C (.grantLifetimeSubscription tgId)) :
    C.KeepsClosed (.grantLifetimeSubscription tgId) (grantLifetimeSubscription settings tgId)
      n := by
  refine keepsClosed_queryOne fun db n₁ _ _ d hd user hq => ?_
  cases user with
  | none => exact keepsOpen_ret
  | some user =>
    refine keepsOpen_bind (within_clock fun n₂ _ now _ => ?_)
    refine keepsOpen_grantDrafted h (within_lifetimeDraft h.watches user.id now)
      fun v hwatch _ _ => .inl ?_
    obtain ⟨hmem, htg⟩ := userByTg_knows hq
    exact ⟨user, hd hwatch ▸ hmem, htg, rfl⟩

omit [DecidableEq D] in
theorem within_trialUser (hd : C.watches .users = true → d = db)
    (hq : d.userByTg tgId = .ok found) :
    C.Within op (match found with
        | some user => .ret user
        | none => execute (insertUser ⟨0, tgId, false, false, none⟩))
      (fun user v' _ => SameRows db v' ∧ KeepsUsers db v' ∧ (C.watches .users = true →
        (db.users.map User.id).Nodup → user.isBanned = false → db.Spares user.id)) db db n := by
  cases found with
  | some user =>
    refine within_ret ⟨sameRows_refl db, .of_same rfl, fun hwatch hids hfree u hu hid => ?_⟩
    have hmem := (userByTg_knows hq).1
    rw [hd hwatch] at hmem
    rw [List.inj_on_of_nodup_map hids hu hmem hid]
    exact hfree
  | none =>
    refine within_execute fun n₁ _ user hok => ?_
    refine ⟨insertUser_rows _ db, insertUser_users rfl db, fun _ _ _ u hu hid => ?_⟩
    simp only [insertUser] at hok
    split at hok
    · cases hok
    · cases hok
      exact absurd hid (lt_nextId (List.mem_map_of_mem hu)).ne

theorem activateTrial_renews (h : Renewals C op) (tgId : Int) :
    C.KeepsClosed op (activateTrial settings tgId) n := by
  unfold activateTrial trialUser
  simp only [Prog.bind_eq, Prog.bind_assoc]
  refine keepsClosed_queryOne fun db n₁ _ _ d hd found hq => ?_
  refine keepsOpen_bind (within_mono (within_trialUser hd hq) fun user v n₂ hv => ?_)
  obtain ⟨hv, husers, hspares⟩ := hv
  simp only [Prog.whenever]
  split
  · rename_i hfree
    refine keepsOpen_bind (within_clock fun n₃ _ now _ => ?_)
    refine keepsOpen_bind (within_queryOne fun n₄ _ _ _ active _ => ?_)
    cases active with
    | some _ => exact keepsOpen_ret
    | none =>
      refine keepsOpen_bind (within_mono (within_trialDraft h.watches user.id now)
        fun draft v₁ n₅ hdraft => ?_)
      obtain ⟨hv₁, hdraft⟩ := hdraft
      subst hv₁
      refine keepsOpen_orRollback (within_mono (within_deliverRenewal h hv
        (fun a ha => trialUsed_beside ha) hdraft)
        fun _ v' n₆ hafter n' hi hmay => ?_)
      obtain ⟨hrenewed, hkeeps⟩ := hafter
      refine h.renewed hi hmay (husers.trans hkeeps.toKeepsUsers) (fun hwatch _ hids => ?_)
        hrenewed
      exact .inr (hspares hwatch hids hfree.1)
  · exact keepsOpen_ret

theorem processSuccessfulPayment_renews
    (h : Renewals C (.processSuccessfulPayment tgId planId chargeId)) :
    C.KeepsClosed (.processSuccessfulPayment tgId planId chargeId)
      (processSuccessfulPayment settings tgId planId chargeId) n := by
  refine keepsClosed_queryOne fun db n₁ _ _ d hd user hq => ?_
  refine keepsOpen_bind (within_query fun n₂ _ d' _ => ?_)
  cases user with
  | none => exact keepsOpen_ret
  | some user =>
    cases d'.plans.find? fun p => p.id == planId with
    | none => exact keepsOpen_ret
    | some plan =>
      refine keepsOpen_bind (within_clock fun n₃ _ createdAt _ => ?_)
      rw [← Prog.bind_ret (withLock user.id _)]
      refine keepsOpen_lockCommit (fun n₄ _ => ?_) fun _ => keepsClosed_ret
      refine within_mono (within_applyPaidRenewal h (sameRows_refl db) (fun a ha => ?_) _ _ _)
        fun _ v' n' hafter n'' _ hi hmay => ?_
      · exact List.mem_singleton.1 ha ▸ insertPayment_beside _
      · obtain ⟨hrenewed, hkeeps⟩ := hafter
        refine h.renewed hi hmay hkeeps.toKeepsUsers (fun hwatch _ _ => .inl ?_) hrenewed
        obtain ⟨hmem, htg⟩ := userByTg_knows hq
        exact ⟨user, hd hwatch ▸ hmem, htg, rfl⟩

omit [DecidableEq D] in
theorem keepsOpen_statusRenewal (h : Renewals C op) (id : Nat) {pending : Pending D}
    (hpending : ∀ a ∈ pending, ∃ status, a = setPaymentStatus id status)
    {k : Unit → BotProg D Unit} (hk : ∀ n, C.KeepsClosed op (k ()) n) :
    C.KeepsOpen op ((flush pending).bind fun _ => (commit []).bind k) db db n := by
  refine keepsOpen_bind (within_flush (fun _ => ?_) fun n₁ _ _ => ?_)
  · exact keepsOpen_commit (fun _ _ hi _ => h.same hi (sameRows_refl db) (.of_same rfl)) (hk _)
  · refine keepsOpen_commit (fun _ _ hi _ => h.same hi ?_ ?_) (hk _)
    · refine Preserves.write sameRows_refl sameRows_trans (fun a ha => ?_) db
      obtain ⟨status, rfl⟩ := hpending a ha
      exact setPaymentStatus_rows id status
    · refine Preserves.write (fun _ => .of_same rfl) (fun _ _ _ => .trans) (fun a ha => ?_) db
      obtain ⟨status, rfl⟩ := hpending a ha
      exact setPaymentStatus_users id status

theorem plategaCallback_renews (h : Renewals C (.plategaCallback txId status)) :
    C.KeepsClosed (.plategaCallback txId status) (plategaCallback settings txId status) n := by
  have hend : ∀ status n, C.KeepsClosed (.plategaCallback txId status)
      (.ret () : BotProg D Unit) n := fun _ _ => keepsClosed_ret
  cases status with
  | other => exact keepsClosed_ret
  | confirmed =>
    refine keepsClosed_queryOne fun db n' _ _ d hd payment hq => ?_
    cases payment with
    | none => exact keepsOpen_ret
    | some payment =>
      refine keepsOpen_confirmRenewal h (fun _ _ => id) (fun _ => hend _) payment fun hwatch => ?_
      rw [hd hwatch] at hq
      cases hrow : db.paymentByTg ("platega_" ++ txId) with
      | error e => simp [hrow, Except.map] at hq
      | ok found =>
        simp only [hrow, Except.map, Except.ok.injEq, Option.map_eq_some_iff] at hq
        obtain ⟨row, rfl, hrow'⟩ := hq
        exact ⟨row, paymentByTg_mem hrow, hrow'⟩
  | _ =>
    refine keepsClosed_queryOne fun db n' _ _ d _ payment _ => ?_
    cases payment with
    | none => exact keepsOpen_ret
    | some row =>
      simp only [Prog.whenever]
      split
      · refine keepsOpen_statusRenewal (k := .ret) h row.id (fun a ha => ?_) (hend _)
        split at ha
        · cases ha
        · exact ⟨_, List.mem_singleton.1 ha⟩
      · exact keepsOpen_ret

theorem reconcileRow_renews (h : Renewals C .reconcilePendingPlatega) {k : Unit → BotProg D Unit}
    (hk : ∀ n, C.KeepsClosed .reconcilePendingPlatega (k ()) n) (row : Payment) :
    C.KeepsClosed .reconcilePendingPlatega ((reconcileRow settings row).bind k) n := by
  simp only [reconcileRow, Prog.bind_eq, Prog.bind_assoc]
  refine keepsClosed_ask fun text => ?_
  cases plategaStatus text with
  | other => exact hk _
  | _ =>
    simp only [Prog.bind_assoc]
    refine keepsClosed_query fun db n' _ _ d hd => ?_
    cases hfind : d.payments.find? fun p => p.id == row.id with
    | none => exact keepsOpen_rollback (hk _)
    | some found =>
      have hmem := List.mem_of_find?_eq_some hfind
      dsimp only
      split
      · simp only [PlategaStatus.stored?, Prog.bind_assoc]
        first
        | exact keepsOpen_confirmRenewal h (fun _ _ => id) (fun _ => hk) _ fun hwatch =>
            ⟨found, hd hwatch ▸ hmem, rfl⟩
        | refine keepsOpen_statusRenewal h found.id (fun a ha => ?_) hk
          exact ⟨_, List.mem_singleton.1 ha⟩
      · exact keepsOpen_rollback (hk _)

theorem reconcileRows_renew (h : Renewals C .reconcilePendingPlatega) (rows : List Payment) :
    ∀ n, C.KeepsClosed .reconcilePendingPlatega
      (rows.foldlM (fun _ row => reconcileRow settings row) () : BotProg D Unit) n := by
  induction rows with
  | nil => exact fun _ => keepsClosed_ret
  | cons row rows ih =>
    intro n
    rw [List.foldlM_cons]
    exact reconcileRow_renews h ih row

theorem reconcilePending_renews (h : Renewals C .reconcilePendingPlatega) :
    C.KeepsClosed .reconcilePendingPlatega (reconcilePendingPlatega settings) n := by
  refine keepsClosed_clock fun now => ?_
  refine keepsClosed_query fun db n' _ _ d _ => ?_
  exact keepsOpen_rollback (reconcileRows_renew h _ _)

end Operations

/-- Whether an operation renews or begins subscriptions. -/
def BotOp.renews : BotOp → Bool
  | .plategaCallback _ _ => true
  | .reconcilePendingPlatega => true
  | .processSuccessfulPayment _ _ _ => true
  | .grantSubscription _ _ => true
  | .grantLifetimeSubscription _ => true
  | .activateTrial _ => true
  | _ => false

section Renewing
variable [DecidableEq D] {settings : ControlSettings D}
  {C : Contract (Db D) Source AgentCall BotOp} {op : BotOp}

theorem renewing_keepsFrom (h : Renewals C op) (hop : op.renews = true) :
    C.KeepsFrom op (op.program settings) := by
  cases op with
  | plategaCallback txId status => exact KeepsClosed.from fun _ => plategaCallback_renews h
  | reconcilePendingPlatega => exact KeepsClosed.from fun _ => reconcilePending_renews h
  | processSuccessfulPayment tgId planId chargeId =>
    exact KeepsClosed.from fun _ => processSuccessfulPayment_renews h
  | grantSubscription tgId days => exact KeepsClosed.from fun _ => grantSubscription_renews h
  | grantLifetimeSubscription tgId => exact KeepsClosed.from fun _ => grantLifetime_renews h
  | activateTrial tgId => exact KeepsClosed.from fun _ => activateTrial_renews h _
  | _ => cases hop

theorem renewing_afterRollback (h : Renewals C op) (hop : op.renews = true) :
    (op.program settings).AfterRollback (C.KeepsFrom op) := by
  have hplain : Plain (D := D) (NoRollback ·) := plain_noRollback
  have hend : C.KeepsFrom op (.ret () : BotProg D Unit) := fun _ _ _ => trivial
  cases op with
  | plategaCallback txId status => exact plategaCallback_afterRollback hend _ _
  | reconcilePendingPlatega =>
    exact reconcilePending_afterRollback fun rows => KeepsClosed.from (reconcileRows_renew h rows)
  | processSuccessfulPayment tgId planId chargeId =>
    exact Prog.afterRollback_of_uses
      (processSuccessfulPayment_uses delivers_noRollback noRollback_commit
        (fun _ _ => drafts_noRollback) _ _ _)
  | grantSubscription tgId days =>
    exact Prog.afterRollback_of_uses
      (grantSubscription_uses delivers_noRollback noRollback_commit drafts_noRollback _ _)
  | grantLifetimeSubscription tgId =>
    exact Prog.afterRollback_of_uses
      (grantLifetimeSubscription_uses delivers_noRollback noRollback_commit drafts_noRollback _)
  | activateTrial tgId => exact activateTrial_afterRollback hend _
  | _ => cases hop

end Renewing

end AegisVPN
