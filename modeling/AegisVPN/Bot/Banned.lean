import AegisVPN.Bot.PaidOnce
import AegisVPN.Bot.Reissue
import AegisVPN.Bot.Renewals

namespace AegisVPN
open Library Library.Contract
set_option autoImplicit true

/-- No banned user has an active subscription. -/
structure BannedOff (db : Db D) : Prop where
  users : (db.users.map User.id).Nodup
  subscriptions : (db.subscriptions.map Subscription.id).Nodup
  off : ∀ u ∈ db.users, u.isBanned = true → ∀ s ∈ db.subscriptions, s.userId = u.id →
    s.isActive = false

/-- What a commit has to respect: it adds days for no user who is banned. -/
def SparesBanned (op : BotOp) (db db' : Db D) : Prop :=
  ∀ u ∈ db.users, u.isBanned = true → ¬ op.Serves db db' u.id

instance (db v : Db D) (id : Nat) : Decidable (db.Claims v id) :=
  inferInstanceAs (Decidable (_ ∧ _))

instance (db : Db D) (tgId : Int) (userId : Nat) : Decidable (db.Knows tgId userId) :=
  inferInstanceAs (Decidable (∃ u ∈ db.users, u.tgId = tgId ∧ u.id = userId))

instance decidableServes (op : BotOp) (db v : Db D) (userId : Nat) :
    Decidable (op.Serves db v userId) :=
  match op with
  | .plategaCallback _ _ =>
    inferInstanceAs (Decidable (∃ p ∈ db.payments, p.userId = userId ∧ db.Claims v p.id))
  | .reconcilePendingPlatega =>
    inferInstanceAs (Decidable (∃ p ∈ db.payments, p.userId = userId ∧ db.Claims v p.id))
  | .processSuccessfulPayment tgId _ _ => inferInstanceAs (Decidable (db.Knows tgId userId))
  | .grantSubscription tgId _ => inferInstanceAs (Decidable (db.Knows tgId userId))
  | .grantLifetimeSubscription tgId => inferInstanceAs (Decidable (db.Knows tgId userId))
  | .registerOrUpdateOnStart _ => .isFalse id
  | .extendActiveNonLifetimeSubscriptions _ => .isFalse id
  | .revokeSubscription _ => .isFalse id
  | .setUserBanStatus _ _ => .isFalse id
  | .deleteAccount _ => .isFalse id
  | .reissueSubscription _ => .isFalse id
  | .activateTrial _ => .isFalse id
  | .checkExpiredSubscriptions => .isFalse id
  | .collectLinks _ => .isFalse id

instance (op : BotOp) (db db' : Db D) : Decidable (SparesBanned op db db') :=
  inferInstanceAs (Decidable (∀ u ∈ db.users, u.isBanned = true → ¬ op.Serves db db' u.id))

/-- Users, subscriptions and payments have to be read as they are when a transaction commits. -/
def banContract (D : Type) : Contract (Db D) Source AgentCall BotOp where
  watches s := s == .users || s == .subscriptions || s == .payments
  inv _ db := BannedOff db
  mono _ h := h
  may op _ db db' := SparesBanned op db db'
  change _ _ _ := True
  guarded _ := False
  sends _ _ := True

/-! ## Writes that begin nothing -/

/-- Nobody has been banned, and no subscription has become active. -/
structure Calm (a b : Db D) : Prop extends KeepsUsers a b where
  rows : (a.subscriptions.map Subscription.id).Nodup → (b.subscriptions.map Subscription.id).Nodup
  active : ∀ s ∈ b.subscriptions, s.isActive = true →
    ∃ r ∈ a.subscriptions, r.userId = s.userId ∧ r.isActive = true

theorem Calm.of_rows {a b : Db D} (hrows : SameRows a b) (husers : KeepsUsers a b) : Calm a b where
  toKeepsUsers := husers
  rows hids := hrows ▸ hids
  active s hs hactive := ⟨s, hrows ▸ hs, rfl, hactive⟩

theorem calm_refl (db : Db D) : Calm db db := .of_rows rfl (.of_same rfl)

theorem calm_same {a b : Db D} (h : SameAccounts a b) : Calm a b :=
  .of_rows h.subscriptions (.of_same h.users)

theorem calm_trans (a b c : Db D) (h : Calm a b) (h' : Calm b c) : Calm a c where
  toKeepsUsers := h.toKeepsUsers.trans h'.toKeepsUsers
  rows hids := h'.rows (h.rows hids)
  active s hs hactive := by
    obtain ⟨r, hr, huser, hr'⟩ := h'.active s hs hactive
    obtain ⟨r₀, hr₀, huser₀, hactive₀⟩ := h.active r hr hr'
    exact ⟨r₀, hr₀, huser₀.trans huser, hactive₀⟩

theorem Calm.bannedOff {a b : Db D} (h : Calm a b) (hi : BannedOff a) : BannedOff b where
  users := h.ids hi.users
  subscriptions := h.rows hi.subscriptions
  off u hu hbanned s hs huser := by
    by_contra hactive
    obtain ⟨r, hr, hruser, hr'⟩ := h.active s hs (Bool.not_eq_false _ ▸ hactive)
    obtain ⟨u', hu', hid, hbanned'⟩ := h.bans u hu hbanned
    have hoff := hi.off u' hu' hbanned' r hr (hruser.trans (huser.trans hid.symm))
    rw [hoff] at hr'
    cases hr'

theorem updateSubscription_calm {old new : Subscription}
    (h : new.isActive = old.isActive ∨ new.isActive = false) :
    Preserves Calm (updateSubscription old new (D := D)) := by
  intro db
  rcases updateSubscription_cases old new db with ⟨hw, -⟩ | ⟨e, hw⟩
  · rw [hw]
    refine ⟨.of_same rfl, fun hids => ?_, fun s hs hactive => ?_⟩
    · rw [Db.setSubscription, map_patch (f := Subscription.id) fun _ _ _ => rfl]
      exact hids
    · obtain ⟨r, hr, rfl⟩ := List.mem_map.1 hs
      refine ⟨r, hr, ?_, ?_⟩
      · split <;> rfl
      · split at hactive
        · rcases patch_cases old.isActive new.isActive r.isActive with hpatch | ⟨hne, hpatch⟩
          · exact hpatch.symm.trans hactive
          · have hnew := hpatch.symm.trans hactive
            rcases h with hsame | hoff
            · exact absurd hsame.symm hne
            · cases hnew.symm.trans hoff
        · exact hactive
  · rw [hw]
    exact calm_refl db

theorem dirtySubscription_calm {a : DbAct D Unit}
    (hnew : new.isActive = old.isActive ∨ new.isActive = false)
    (h : a ∈ dirtySubscription old new) : Preserves Calm a := by
  unfold dirtySubscription at h
  split at h
  · cases h
  · cases List.mem_singleton.1 h
    exact updateSubscription_calm hnew

theorem ended_calm {subs : List Subscription} {a : DbAct D Unit}
    (h : a ∈ subs.flatMap fun sub => dirtySubscription sub { sub with isActive := false }) :
    Preserves Calm a := by
  obtain ⟨sub, -, ha⟩ := List.mem_flatMap.1 h
  exact dirtySubscription_calm (.inr rfl) ha

theorem deleteUser_calm (userId : Nat) : Preserves Calm (deleteUser userId (D := D)) := by
  intro db
  simp only [deleteUser]
  split
  · refine ⟨⟨fun hids => ?_, fun u hu hbanned => ?_⟩, fun hids => ?_, fun s hs hactive => ?_⟩
    · exact hids.sublist (List.filter_sublist.map _)
    · exact ⟨u, List.mem_of_mem_filter hu, rfl, hbanned⟩
    · exact hids.sublist (List.filter_sublist.map _)
    · exact ⟨s, List.mem_of_mem_filter hs, rfl, hactive⟩
  · exact calm_refl db

theorem insertUser_calm {user : User} (hfree : user.isBanned = false) :
    Preserves Calm (insertUser user (D := D)) :=
  fun db => .of_rows (insertUser_rows user db) (insertUser_users hfree db)

theorem write_calm {pending : Pending D} (h : ∀ a ∈ pending, Preserves Calm a) :
    (banContract D).Quiet Calm (.execute pending.write : BotStmt D _) :=
  Preserves.write calm_refl calm_trans h

section Operations
variable [DecidableEq D] {settings : ControlSettings D}

theorem publishes_calm {pending : Pending D} (h : ∀ a ∈ pending, Preserves Calm a) :
    Publishes ((banContract D).Quiet Calm) settings pending where
  lock serverId := fun db => calm_same (lockServer_same serverId db)
  write serverId now := writeSnapshot_preserves calm_refl calm_trans (fun _ _ => calm_same)
    (Preserves.write calm_refl calm_trans h) serverId now

theorem removes_calm : Removes ((banContract D).Quiet Calm) settings where
  plain := plain_quiet _ _
  publishes := publishes_calm noPending
  removeClient _ _ := id
  commit := quiet_commit

theorem delivers_calm : Delivers ((banContract D).Quiet Calm) settings where
  plain := plain_quiet _ _
  publishes := publishes_calm noPending
  bulkAdd _ _ := id
  links subId loaded results := write_calm fun a ha => by
    obtain ⟨result, -, ha⟩ := List.mem_flatMap.1 ha
    exact fun db => calm_same (dirtyLink_same ha db)

theorem quiet_calm (op : BotOp) (hop : op.renews = false)
    (hban : ∀ tgId isBanned, op ≠ .setUserBanStatus tgId isBanned) :
    (op.program settings).Uses ((banContract D).Quiet Calm) := by
  have hP : Plain (D := D) ((banContract D).Quiet Calm) := plain_quiet _ _
  cases op with
  | registerOrUpdateOnStart tgId =>
    exact registerOnStart_uses hP quiet_commit (fun user hfree => insertUser_calm hfree) _
  | extendActiveNonLifetimeSubscriptions days =>
    refine extendActive_uses hP quiet_commit (fun subs hsame => write_calm fun a ha => ?_) _
    obtain ⟨s, hs, ha⟩ := List.mem_flatMap.1 ha
    exact dirtySubscription_calm (.inl (hsame s hs)) ha
  | revokeSubscription tgId =>
    exact revokeSubscription_uses removes_calm
      (fun sub now => write_calm fun a ha => dirtySubscription_calm (.inr rfl) ha) _
  | setUserBanStatus tgId isBanned => exact absurd rfl (hban tgId isBanned)
  | deleteAccount tgId =>
    exact deleteAccount_uses removes_calm (write_calm noPending)
      (fun userId => write_calm fun a ha => List.mem_singleton.1 ha ▸ deleteUser_calm userId) _
  | reissueSubscription tgId =>
    exact reissueSubscription_uses delivers_calm removes_calm quiet_rollback
      (write_calm noPending)
      (fun old new hsame => write_calm fun a ha => dirtySubscription_calm (.inl hsame) ha) _
  | checkExpiredSubscriptions =>
    exact checkExpired_uses hP (fun subs => publishes_calm fun a ha => ended_calm ha)
      (fun subs => write_calm fun a ha => ended_calm ha) (fun _ => quiet_commit) fun _ _ _ => id
  | collectLinks subToken =>
    exact Prog.uses_bind (collectLinks_uses hP (publishes_calm noPending)
      (fun sub => write_calm fun a ha => dirtySubscription_calm (.inr rfl) ha) quiet_commit
      (fun _ _ _ => id) _) fun _ => trivial
  | _ => cases hop

end Operations

/-! ## Renewals -/

theorem Renewed.bannedOff {db v : Db D} (h : Renewed db.subscriptions userId v.subscriptions)
    (hi : BannedOff db) (husers : KeepsUsers db v) (hspares : db.Spares userId) : BannedOff v := by
  have hother : ∀ u ∈ v.users, u.isBanned = true → u.id ≠ userId ∧
      ∀ s ∈ db.subscriptions, s.userId = u.id → s.isActive = false := by
    intro u hu hbanned
    obtain ⟨u', hu', hid, hbanned'⟩ := husers.bans u hu hbanned
    refine ⟨fun huser => ?_, fun s hs hs' => hi.off u' hu' hbanned' s hs (hs'.trans hid.symm)⟩
    rw [hspares u' hu' (hid.trans huser)] at hbanned'
    cases hbanned'
  generalize hrows : v.subscriptions = rows at h
  cases h with
  | @update old new hold huser hactive =>
    refine ⟨husers.ids hi.users, ?_, fun u hu hbanned s hs hsuser => ?_⟩
    · rw [hrows, map_patch (f := Subscription.id) fun _ _ _ => rfl]
      exact hi.subscriptions
    · rw [hrows] at hs
      obtain ⟨r, hr, rfl⟩ := List.mem_map.1 hs
      obtain ⟨hne, hoff⟩ := hother u hu hbanned
      split at hsuser
      · rename_i hid
        rw [List.inj_on_of_nodup_map hi.subscriptions hr hold hid] at hsuser
        exact absurd (hsuser.symm.trans huser) hne
      · rename_i hid
        rw [if_neg hid]
        exact hoff r hr hsuser
  | @insert row hid huser hactive hnew =>
    refine ⟨husers.ids hi.users, ?_, fun u hu hbanned s hs hsuser => ?_⟩
    · rw [hrows, List.map_append]
      refine List.nodup_append.2 ⟨hi.subscriptions, List.nodup_singleton _, fun i hi' j hj => ?_⟩
      obtain ⟨r, hr, rfl⟩ := List.mem_map.1 hi'
      rw [List.mem_singleton.1 hj]
      exact hid r hr
    · rw [hrows] at hs
      obtain ⟨hne, hoff⟩ := hother u hu hbanned
      rcases List.mem_append.1 hs with hs | hs
      · exact hoff s hs hsuser
      · rw [List.mem_singleton.1 hs] at hsuser
        exact absurd (hsuser.symm.trans huser) hne

theorem ban_renewals (op : BotOp) : Renewals (banContract D) op where
  watches := rfl
  calls _ _ := id
  same hi hrows husers := ⟨(Calm.of_rows hrows husers).bannedOff hi, trivial⟩
  renewed {n db v userId} hi hmay husers hentitled h := by
    refine ⟨h.bannedOff hi husers fun u hu hid => ?_, trivial⟩
    by_contra hbanned
    rcases hentitled rfl rfl hi.users with hserves | hspares
    · exact hmay u hu (Bool.not_eq_false _ ▸ hbanned) (hid ▸ hserves)
    · exact hbanned (hspares u hu hid)

/-! ## A ban -/

/-- Nobody else than that user has been banned. -/
structure BansOnly (userId : Nat) (a b : Db D) : Prop where
  ids : (a.users.map User.id).Nodup → (b.users.map User.id).Nodup
  bans : ∀ u ∈ b.users, u.isBanned = true →
    u.id = userId ∨ ∃ u' ∈ a.users, u'.id = u.id ∧ u'.isBanned = true

theorem BansOnly.of_users {a b : Db D} (h : KeepsUsers a b) : BansOnly userId a b where
  ids := h.ids
  bans u hu hbanned := .inr (h.bans u hu hbanned)

theorem bansOnly_trans (a b c : Db D) (h : BansOnly userId a b) (h' : BansOnly userId b c) :
    BansOnly userId a c where
  ids hids := h'.ids (h.ids hids)
  bans u hu hbanned := by
    rcases h'.bans u hu hbanned with hid | ⟨u', hu', hid, hbanned'⟩
    · exact .inl hid
    · rw [← hid]
      exact h.bans u' hu' hbanned'

theorem dirtyUser_bans {a : DbAct D Unit} (h : a ∈ dirtyUser old new) :
    Preserves (BansOnly old.id) a := by
  unfold dirtyUser at h
  split at h
  · cases h
  · cases List.mem_singleton.1 h
    intro db
    refine ⟨fun hids => (updateUser_ids old new db).symm ▸ hids, fun u hu hbanned => ?_⟩
    unfold updateUser at hu
    split at hu
    · obtain ⟨u₀, hu₀, rfl⟩ := List.mem_map.1 hu
      by_cases hid : u₀.id = old.id
      · rw [if_pos hid]
        exact .inl hid
      · rw [if_neg hid] at hbanned ⊢
        exact .inr ⟨u₀, hu₀, rfl, hbanned⟩
    · exact .inr ⟨u, hu, rfl, hbanned⟩

/-- A ban is complete when the user has no active row left. -/
theorem BansOnly.bannedOff {db v : Db D} (h : BansOnly userId db v) (hi : BannedOff db)
    (hids : v.subscriptions.map Subscription.id = db.subscriptions.map Subscription.id)
    (hactive : ∀ s ∈ v.subscriptions, s.isActive = true → s.userId ≠ userId ∧
      ∃ r ∈ db.subscriptions, r.userId = s.userId ∧ r.isActive = true) : BannedOff v where
  users := h.ids hi.users
  subscriptions := hids ▸ hi.subscriptions
  off u hu hbanned s hs huser := by
    by_contra hs'
    obtain ⟨hne, r, hr, hruser, hr'⟩ := hactive s hs (Bool.not_eq_false _ ▸ hs')
    rcases h.bans u hu hbanned with hid | ⟨u', hu', hid, hbanned'⟩
    · exact hne (huser.trans hid)
    · have hoff := hi.off u' hu' hbanned' r hr (hruser.trans (huser.trans hid.symm))
      rw [hoff] at hr'
      cases hr'

section Ban
variable [DecidableEq D] {settings : ControlSettings D}

theorem within_endSubscription {C : Contract (Db D) Source AgentCall ω} {op : ω}
    (hcall : ∀ agent uuid, ¬ C.guarded (.removeClient agent uuid none))
    {Q : Unit → Db D → Int → Prop} {pending : Pending D} {sub : Subscription}
    (h : ∀ now v' n', (Pending.write (pending ++
        dirtySubscription sub { sub with isActive := false, expiresAt := now }) v).1 = .ok () →
      SameAccounts (Pending.write (pending ++
        dirtySubscription sub { sub with isActive := false, expiresAt := now }) v).2 v' →
      Q () v' n') : C.Within op (endSubscription settings pending sub) Q db v n := by
  refine within_bind (within_clock fun n₁ _ now _ => ?_)
  refine within_bind (within_query fun n₂ _ servers _ => ?_)
  refine within_bind (within_query fun n₃ _ uuids _ => ?_)
  refine within_bind (within_mono (within_plain (requestAll_uses fun c hc => ?_))
    fun _ v₁ n₄ ⟨hv, _⟩ => ?_)
  · obtain ⟨agent, uuid, rfl⟩ := removalCalls_mem hc
    exact ⟨rfl, hcall agent uuid⟩
  · subst hv
    refine within_bind (within_flush (fun hnil => ?_) fun n₅ _ hok => ?_)
    · refine within_mono (within_publish _) fun _ v' n' ⟨hsame, _⟩ => h now v' n' ?_ ?_
      · rw [hnil]
        rfl
      · rw [hnil]
        exact hsame
    · exact within_mono (within_publish _) fun _ v' n' ⟨hsame, _⟩ => h now v' n' hok hsame

omit [DecidableEq D] in
theorem banned_write {db v : Db D} {user : User} {sub : Subscription} (hi : BannedOff db)
    (hactive : db.activeOf user.id = [sub])
    (hok : (Pending.write (dirtyUser user { user with isBanned := true } ++
      dirtySubscription sub { sub with isActive := false, expiresAt := now }) db).1 = .ok ())
    (hsame : SameAccounts (Pending.write (dirtyUser user { user with isBanned := true } ++
      dirtySubscription sub { sub with isActive := false, expiresAt := now }) db).2 v) :
    BannedOff v := by
  have hrefl : ∀ d : Db D, BansOnly user.id d d := fun d => .of_users (.of_same rfl)
  have hsub : ∀ s ∈ db.subscriptions, s.userId = user.id → s.isActive = true → s = sub := by
    intro s hs huser hs'
    have hmem : s ∈ db.activeOf user.id :=
      List.mem_filter.2 ⟨List.mem_filter.2 ⟨hs, beq_iff_eq.2 huser⟩, hs'⟩
    rw [hactive] at hmem
    exact List.mem_singleton.1 hmem
  have hfirst : SameRows db (Pending.write (dirtyUser user { user with isBanned := true }) db).2 :=
    Preserves.write sameRows_refl sameRows_trans (fun a ha => dirtyUser_rows ha) db
  have hbans : BansOnly user.id db v := by
    refine bansOnly_trans _ _ _ (Preserves.write hrefl bansOnly_trans (fun a ha => ?_) db)
      (.of_users (.of_same hsame.users))
    rcases List.mem_append.1 ha with ha | ha
    · exact dirtyUser_bans ha
    · exact fun d => .of_users (dirtySubscription_keeps ha d).toKeepsUsers
  have hrows := hsame.subscriptions
  have happend := write_append hok
  rw [happend] at hok hrows
  rw [dirtySubscription_rows hok, hfirst] at hrows
  refine hbans.bannedOff hi ?_ fun s hs hs' => ?_
  · rw [hrows, map_patch (f := Subscription.id) fun _ _ _ => rfl]
  · rw [hrows] at hs
    obtain ⟨r, hr, rfl⟩ := List.mem_map.1 hs
    have hmem : sub ∈ db.activeOf user.id := hactive ▸ List.mem_singleton_self sub
    have hlive : sub.isActive = true := (List.mem_filter.1 hmem).2
    split at hs'
    · -- the row that was ended
      simp [Subscription.patch, AegisVPN.patch, hlive] at hs'
    · rename_i hid
      rw [if_neg hid]
      exact ⟨fun huser => hid (congrArg Subscription.id (hsub r hr huser hs')), r, hr, rfl, hs'⟩

omit [DecidableEq D] in
/-- What is left if nothing but the user is written. -/
theorem keepsOpen_flushUser {op : BotOp} {pending : Pending D}
    (h : BannedOff (pending.write db).2) :
    (banContract D).KeepsOpen op ((flush pending).bind fun _ => commit []) db db n := by
  refine keepsOpen_bind (within_flush (fun hnil => ?_) fun n₁ _ _ => ?_)
  · rw [hnil] at h
    exact keepsOpen_commit (k := .ret) (fun _ _ _ _ => ⟨h, trivial⟩) keepsClosed_ret
  · exact keepsOpen_commit (k := .ret) (fun _ _ _ _ => ⟨h, trivial⟩) keepsClosed_ret

theorem setUserBanStatus_bans {op : BotOp} (tgId : Int) (isBanned : Bool) :
    (banContract D).KeepsClosed op (setUserBanStatus settings tgId isBanned) n := by
  refine keepsClosed_queryOne fun db n₁ _ hi d hd user hq => ?_
  cases user with
  | none => exact keepsOpen_ret
  | some user =>
    cases isBanned with
    | false =>
      refine keepsOpen_flushUser (Calm.bannedOff (.of_rows ?_ ?_) hi)
      · exact Preserves.write sameRows_refl sameRows_trans (fun a ha => dirtyUser_rows ha) db
      · exact Preserves.write (fun _ => .of_same rfl) (fun _ _ _ => .trans)
          (fun a ha => dirtyUser_users ha (.inr rfl)) db
    | true =>
      refine keepsOpen_bind (within_queryOne fun n₂ _ d' hd' sub hsub => ?_)
      obtain rfl := hd' rfl
      cases sub with
      | none =>
        have hrows : SameRows d'
            (Pending.write (dirtyUser user { user with isBanned := true }) d').2 :=
          Preserves.write sameRows_refl sameRows_trans (fun a ha => dirtyUser_rows ha) d'
        have hbans : BansOnly user.id d'
            (Pending.write (dirtyUser user { user with isBanned := true }) d').2 :=
          Preserves.write (fun _ => .of_users (.of_same rfl)) bansOnly_trans
            (fun a ha => dirtyUser_bans ha) d'
        refine keepsOpen_flushUser (hbans.bannedOff hi ?_ fun s hs hs' => ⟨fun huser => ?_, ?_⟩)
        · rw [hrows]
        · have hmem : s ∈ d'.activeOf user.id :=
            List.mem_filter.2 ⟨List.mem_filter.2 ⟨hrows ▸ hs, beq_iff_eq.2 huser⟩, hs'⟩
          rw [scalarOneOrNone_none hsub] at hmem
          cases hmem
        · exact ⟨s, hrows ▸ hs, rfl, hs'⟩
      | some sub =>
        refine keepsOpen_bind (within_endSubscription (fun _ _ => id) fun now v' n' hok hsame => ?_)
        refine keepsOpen_commit (k := .ret) (fun _ _ hi' _ => ⟨?_, trivial⟩) keepsClosed_ret
        exact banned_write hi (scalarOneOrNone_eq hsub) hok hsame

theorem removes_noRollback : Removes (NoRollback ·) settings where
  plain := plain_noRollback
  publishes := delivers_noRollback.publishes
  removeClient _ _ := rfl
  commit := rfl

end Ban

/-! ## Runs -/

section Runs
variable [DecidableEq D] {settings : ControlSettings D}

theorem program_off (settings : ControlSettings D) (op : BotOp) :
    (banContract D).KeepsFrom op (op.program settings) ∧
      (op.program settings).AfterRollback ((banContract D).KeepsFrom op) := by
  by_cases hban : ∃ tgId isBanned, op = .setUserBanStatus tgId isBanned
  · obtain ⟨tgId, isBanned, rfl⟩ := hban
    exact ⟨KeepsClosed.from fun _ => setUserBanStatus_bans tgId isBanned,
      Prog.afterRollback_of_uses (setUserBanStatus_uses removes_noRollback
        (fun _ _ => noRollback_execute) (fun _ _ _ _ => noRollback_execute) tgId isBanned)⟩
  cases hop : op.renews with
  | true => exact ⟨renewing_keepsFrom (ban_renewals op) hop,
      renewing_afterRollback (ban_renewals op) hop⟩
  | false =>
    have hquiet : (op.program settings).Uses ((banContract D).Quiet Calm) :=
      quiet_calm op hop fun tgId isBanned h => hban ⟨tgId, isBanned, h⟩
    have hkeeps : ∀ n a b, (banContract D).inv n a → Calm a b →
        (banContract D).inv n b ∧ (banContract D).change op a b :=
      fun _ _ _ hi h => ⟨h.bannedOff hi, trivial⟩
    exact ⟨keepsFrom_of_quiet calm_refl calm_trans hkeeps hquiet,
      afterRollback_of_quiet calm_refl calm_trans hkeeps hquiet⟩

/-- In a run whose transactions commit only while the users, subscriptions and payments that they
have read are still as they were read, and add days for no user who is banned, a banned user has
no active subscription, and every client of every node is one of somebody else. -/
theorem banned_user_is_off {act : AgentCall → τ → τ} {db : Db D} {now : Int} {nodes : τ}
    {P : Bot D τ} (hdb : BannedOff db)
    (hs : Pool.Steps (BotOp.program settings) act (Pool.Careful (banContract D))
      (Pool.initial db now nodes) P) :
    ∀ u ∈ P.db.users, u.isBanned = true → P.db.activeOf u.id = [] ∧
      ∀ server time c, .client c ∈ buildDesiredItems settings P.db server time →
        ∃ sub ∈ P.db.subscriptions, sub.userId ≠ u.id ∧ c ∈ P.db.clientsOf sub := by
  have hsafe := Pool.Safe.steps (fun op => (program_off settings op).1)
    (fun op => (program_off settings op).2)
    (Pool.Safe.initial (C := banContract D) (n := now) hdb nodes) hs
  have hoff : BannedOff P.db := hsafe.inv
  intro u hu hbanned
  refine ⟨List.eq_nil_iff_forall_not_mem.2 fun s hs => ?_, fun server time c hc => ?_⟩
  · obtain ⟨hs, hactive⟩ := List.mem_filter.1 hs
    obtain ⟨hs, huser⟩ := List.mem_filter.1 hs
    rw [hoff.off u hu hbanned s hs (beq_iff_eq.1 huser)] at hactive
    cases hactive
  · obtain ⟨-, sub, hsub, hclient⟩ := client_mem_buildDesiredItems.1 hc
    obtain ⟨hmem, hdesired⟩ := List.mem_filter.1 hsub
    simp only [Bool.and_eq_true] at hdesired
    refine ⟨sub, hmem, fun huser => ?_, hclient⟩
    rw [hoff.off u hu hbanned sub hmem huser] at hdesired
    cases hdesired.1.2

end Runs

/-- A user takes a trial, is banned, and asks for another one. -/
theorem banned_user_is_off_serial : ∃ P : Bot (List DesiredItem) Unit,
    Pool.Steps (BotOp.program listSettings) (fun _ n => n)
      (Pool.Careful (banContract (List DesiredItem))) (Pool.initial Db.empty 0 ()) P ∧
    P.db.subscriptions.length = 1 ∧ ∃ u ∈ P.db.users, u.isBanned = true ∧
      P.db.activeOf u.id = [] := by
  have hrun : (Pool.play (BotOp.program listSettings) (fun _ n => n)
      (fun P i => P.Alone i ∧ ∀ t ∈ P.tasks, SparesBanned t.op P.db (t.writes P.db))
      ([.spawn (.activateTrial 11), .spawn (.setUserBanStatus 11 true),
        .spawn (.activateTrial 11)] ++
        Event.runs 0 12 "f3a9" ++ Event.runs 1 9 "" ++ Event.runs 2 3 "07cd")
      (Pool.initial Db.empty 0 () : Bot (List DesiredItem) Unit)).any
        (fun P => decide (P.db.subscriptions.length = 1 ∧
          ∃ u ∈ P.db.users, u.isBanned = true)) = true := by decide +kernel
  obtain ⟨P, hs, hend⟩ := Pool.exists_of_play hrun
  obtain ⟨hone, u, hu, hbanned⟩ := of_decide_eq_true hend
  have hcareful := Pool.careful_of_alone (C := banContract (List DesiredItem))
    (fun _ _ h => h.1) (fun _ _ _ _ _ h ht _ => h.2 _ (List.mem_of_getElem? ht)) hs
  have hdb : BannedOff (Db.empty : Db (List DesiredItem)) :=
    ⟨List.nodup_nil, List.nodup_nil, fun u hu => by cases hu⟩
  exact ⟨P, hcareful, hone, u, hu, hbanned, (banned_user_is_off hdb hcareful u hu hbanned).1⟩

/-- A payment that was begun before its user was banned, and is confirmed after it. -/
theorem payment_serves_banned_user : ∃ P : Bot (List DesiredItem) Unit,
    Pool.Steps (BotOp.program listSettings) (fun _ n => n) (fun _ _ => True)
      (Pool.initial onePayment 0 ()) P ∧
    ∃ u ∈ P.db.users, u.isBanned = true ∧ P.db.activeOf u.id ≠ [] := by
  have hrun : (Pool.play (BotOp.program listSettings) (fun _ n => n) (fun _ _ => True)
      ([.spawn (.setUserBanStatus 11 true), .spawn (.plategaCallback "t" .confirmed)] ++
        Event.runs 0 5 "" ++ Event.runs 1 14 "f3a9")
      (Pool.initial onePayment 0 () : Bot (List DesiredItem) Unit)).any
        (fun P => decide (∃ u ∈ P.db.users, u.isBanned = true ∧ P.db.activeOf u.id ≠ [])) =
          true := by
    decide +kernel
  obtain ⟨P, hs, hactive⟩ := Pool.exists_of_play hrun
  exact ⟨P, hs, of_decide_eq_true hactive⟩

end AegisVPN
