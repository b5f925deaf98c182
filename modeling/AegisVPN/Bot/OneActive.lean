import AegisVPN.Bot.Renewals
import AegisVPN.Library.Schedules

namespace AegisVPN
open Library Library.Contract
set_option autoImplicit true

/-- Every user has one subscription row at most, which is renewed for ever. -/
def OneRow (db : Db D) : Prop := (db.subscriptions.map Subscription.userId).Nodup

/-- What a commit has to respect: a row that it adds starts after the rows of its user that are
not active have expired. -/
def StartsLater (db db' : Db D) : Prop :=
  ∀ row ∈ db'.subscriptions, (∀ r ∈ db.subscriptions, r.id ≠ row.id) →
    ∀ s ∈ db.subscriptions, s.userId = row.userId → s.isActive = false →
      s.expiresAt < row.startedAt

instance (db db' : Db D) : Decidable (StartsLater db db') :=
  inferInstanceAs (Decidable (∀ row ∈ db'.subscriptions, (∀ r ∈ db.subscriptions, r.id ≠ row.id) →
    ∀ s ∈ db.subscriptions, s.userId = row.userId → s.isActive = false →
      s.expiresAt < row.startedAt))

/-- Subscriptions have to be read as they are when a transaction commits. -/
def activeContract (D : Type) : Contract (Db D) Source AgentCall BotOp where
  watches s := s == .subscriptions
  inv _ db := OneRow db
  mono _ h := h
  may _ _ db db' := StartsLater db db'
  change _ _ _ := True
  guarded _ := False
  sends _ _ := True

/-- The action gives no user a second row. -/
abbrev KeepsOne (a b : Db D) : Prop := OneRow a → OneRow b

theorem keepsOne_trans (a b c : Db D) (h : KeepsOne a b) (h' : KeepsOne b c) : KeepsOne a c :=
  fun ha => h' (h ha)

theorem OneRow.of_rows {a b : Db D} (h : OneRow a) (hrows : SameRows a b) : OneRow b := by
  unfold OneRow
  rw [hrows]
  exact h

theorem updateSubscription_one (old new : Subscription) :
    Preserves KeepsOne (updateSubscription old new (D := D)) := by
  intro db h
  rcases updateSubscription_cases old new db with ⟨hw, _⟩ | ⟨e, hw⟩
  · rw [hw]
    unfold OneRow Db.setSubscription
    rw [map_patch (f := Subscription.userId) fun _ _ _ => rfl]
    exact h
  · rw [hw]
    exact h

theorem dirtySubscription_one {a : DbAct D Unit} (h : a ∈ dirtySubscription old new) :
    Preserves KeepsOne a := by
  unfold dirtySubscription at h
  split at h
  · cases h
  · cases List.mem_singleton.1 h
    exact updateSubscription_one old new

theorem deleteUser_one (userId : Nat) : Preserves KeepsOne (deleteUser userId (D := D)) := by
  intro db h
  simp only [deleteUser]
  split
  · exact h.sublist (List.filter_sublist.map _)
  · exact h

theorem preserves_one {a : DbAct D α} (h : Preserves SameRows a) : Preserves KeepsOne a :=
  fun db hdb => hdb.of_rows (h db)

theorem write_one {pending : Pending D} (h : ∀ a ∈ pending, Preserves KeepsOne a) :
    (activeContract D).Quiet KeepsOne (.execute pending.write : BotStmt D _) :=
  Preserves.write (fun _ => id) keepsOne_trans h

theorem Renewed.oneRow {db v : Db D} (h : Renewed db.subscriptions userId v.subscriptions)
    (hone : OneRow db) (hmay : StartsLater db v) : OneRow v := by
  unfold OneRow
  generalize hrows : v.subscriptions = rows at h
  cases h with
  | update hold huser hactive =>
    rw [map_patch (f := Subscription.userId) fun _ _ _ => rfl]
    exact hone
  | @insert row hid huser hactive hnew =>
    have hrow : row ∈ v.subscriptions :=
      hrows ▸ List.mem_append_right _ (List.mem_singleton_self row)
    have hfree : ∀ s ∈ db.subscriptions, s.userId ≠ row.userId := by
      rcases hnew with hnone | ⟨s, hs, hu, hinactive, hlate⟩
      · exact hnone
      · exact absurd (hmay row hrow hid s hs hu hinactive) (by omega)
    rw [List.map_append]
    refine List.nodup_append.2 ⟨hone, List.nodup_singleton _, fun u hu j hj => ?_⟩
    obtain ⟨s, hs, rfl⟩ := List.mem_map.1 hu
    rw [List.mem_singleton.1 hj]
    exact hfree s hs

theorem active_renewals (op : BotOp) : Renewals (activeContract D) op where
  watches := rfl
  calls _ _ := id
  same hi hrows _ := ⟨hi.of_rows hrows, trivial⟩
  renewed hi hmay _ _ h := ⟨h.oneRow hi hmay, trivial⟩

theorem ended_one {subs : List Subscription} {f : Subscription → Subscription}
    {a : DbAct D Unit} (h : a ∈ subs.flatMap fun sub => dirtySubscription sub (f sub)) :
    Preserves KeepsOne a := by
  obtain ⟨sub, _, ha⟩ := List.mem_flatMap.1 h
  exact dirtySubscription_one ha

section Operations
variable [DecidableEq D] {settings : ControlSettings D}

theorem publishes_one {pending : Pending D} (h : ∀ a ∈ pending, Preserves KeepsOne a) :
    Publishes ((activeContract D).Quiet KeepsOne) settings pending where
  lock serverId := preserves_one fun db => (lockServer_same serverId db).subscriptions
  write serverId now := writeSnapshot_preserves (fun _ => id) keepsOne_trans
    (fun _ _ hsame hone => hone.of_rows hsame.subscriptions)
    (Preserves.write (fun _ => id) keepsOne_trans h) serverId now

theorem removes_one : Removes ((activeContract D).Quiet KeepsOne) settings where
  plain := plain_quiet _ _
  publishes := publishes_one noPending
  removeClient _ _ := id
  commit := quiet_commit

theorem delivers_one : Delivers ((activeContract D).Quiet KeepsOne) settings where
  plain := plain_quiet _ _
  publishes := publishes_one noPending
  bulkAdd _ _ := id
  links subId loaded results := write_one fun a ha => by
    obtain ⟨result, _, ha⟩ := List.mem_flatMap.1 ha
    exact preserves_one fun db => (dirtyLink_same ha db).subscriptions

theorem quiet_one (op : BotOp) (hop : op.renews = false) :
    (op.program settings).Uses ((activeContract D).Quiet KeepsOne) := by
  have hP : Plain (D := D) ((activeContract D).Quiet KeepsOne) := plain_quiet _ _
  cases op with
  | registerOrUpdateOnStart tgId =>
    exact registerOnStart_uses hP quiet_commit
      (fun user _ => preserves_one (insertUser_rows user)) _
  | extendActiveNonLifetimeSubscriptions days =>
    refine extendActive_uses hP quiet_commit (fun subs _ => write_one fun a ha => ?_) _
    obtain ⟨_, _, ha⟩ := List.mem_flatMap.1 ha
    exact dirtySubscription_one ha
  | revokeSubscription tgId =>
    exact revokeSubscription_uses removes_one
      (fun sub now => write_one fun a ha => dirtySubscription_one ha) _
  | setUserBanStatus tgId isBanned =>
    exact setUserBanStatus_uses removes_one
      (fun old new => write_one fun a ha => preserves_one (dirtyUser_rows ha))
      (fun old new sub now => write_one fun a ha => (List.mem_append.1 ha).elim
        (fun ha => preserves_one (dirtyUser_rows ha)) dirtySubscription_one) _ _
  | deleteAccount tgId =>
    exact deleteAccount_uses removes_one (write_one noPending)
      (fun userId => write_one fun a ha => List.mem_singleton.1 ha ▸ deleteUser_one userId) _
  | reissueSubscription tgId =>
    exact reissueSubscription_uses delivers_one removes_one quiet_rollback (write_one noPending)
      (fun old new _ => write_one fun a ha => dirtySubscription_one ha) _
  | checkExpiredSubscriptions =>
    exact checkExpired_uses hP (fun subs => publishes_one fun a ha => ended_one ha)
      (fun subs => write_one fun a ha => ended_one ha) (fun _ => quiet_commit) fun _ _ _ => id
  | collectLinks subToken =>
    exact Prog.uses_bind (collectLinks_uses hP (publishes_one noPending)
      (fun sub => write_one fun a ha => dirtySubscription_one ha) quiet_commit
      (fun _ _ _ => id) _) fun _ => trivial
  | _ => cases hop

theorem program_one (settings : ControlSettings D) (op : BotOp) :
    (activeContract D).KeepsFrom op (op.program settings) ∧
      (op.program settings).AfterRollback ((activeContract D).KeepsFrom op) := by
  cases hop : op.renews with
  | true => exact ⟨renewing_keepsFrom (active_renewals op) hop,
      renewing_afterRollback (active_renewals op) hop⟩
  | false =>
    have hquiet : (op.program settings).Uses ((activeContract D).Quiet KeepsOne) :=
      quiet_one op hop
    exact ⟨keepsFrom_of_quiet (fun _ => id) keepsOne_trans (fun _ _ _ h hE => ⟨hE h, trivial⟩)
        hquiet,
      afterRollback_of_quiet (fun _ => id) keepsOne_trans (fun _ _ _ h hE => ⟨hE h, trivial⟩)
        hquiet⟩

/-- In a run whose transactions commit only while the subscriptions that they have read are still
as they were read, and whose new rows start later than the old ones of their user have expired,
no user ever has two active subscriptions. -/
theorem one_active_subscription {act : AgentCall → τ → τ} {db : Db D} {now : Int} {nodes : τ}
    {P : Bot D τ} (hdb : OneRow db)
    (hs : Pool.Steps (BotOp.program settings) act (Pool.Careful (activeContract D))
      (Pool.initial db now nodes) P) (userId : Nat) : (P.db.activeOf userId).length ≤ 1 := by
  have hsafe := Pool.Safe.steps (fun op => (program_one settings op).1)
    (fun op => (program_one settings op).2)
    (Pool.Safe.initial (C := activeContract D) (n := now) hdb nodes) hs
  have hone : OneRow P.db := hsafe.inv
  have hcount : (P.db.subscriptions.map Subscription.userId).count userId ≤ 1 :=
    List.nodup_iff_count_le_one.1 hone userId
  rw [List.count_eq_countP, List.countP_map, List.countP_eq_length_filter] at hcount
  exact (List.length_filter_le _ _).trans hcount

end Operations

/-! ## From the empty database -/

/-- A user starts the bot, and takes a trial and a grant one after another. -/
theorem one_active_subscription_serial : ∃ P : Bot (List DesiredItem) Unit,
    Pool.Steps (BotOp.program listSettings) (fun _ n => n)
      (Pool.Careful (activeContract (List DesiredItem))) (Pool.initial Db.empty 0 ()) P ∧
    P.db.activeOf 1 ≠ [] ∧ (P.db.activeOf 1).length ≤ 1 := by
  have hrun : (Pool.play (BotOp.program listSettings) (fun _ n => n)
      (fun P i => P.Alone i ∧ ∀ t ∈ P.tasks, StartsLater P.db (t.writes P.db))
      ([.spawn (.registerOrUpdateOnStart 11), .spawn (.activateTrial 11),
        .spawn (.grantSubscription 11 30)] ++
        Event.runs 0 3 "" ++ Event.runs 1 12 "f3a9" ++ Event.runs 2 6 "")
      (Pool.initial Db.empty 0 () : Bot (List DesiredItem) Unit)).any
        (fun P => decide (P.db.activeOf 1 ≠ [])) = true := by decide +kernel
  obtain ⟨P, hs, hactive⟩ := Pool.exists_of_play hrun
  have hcareful := Pool.careful_of_alone (C := activeContract (List DesiredItem))
    (fun _ _ h => h.1) (fun _ _ _ _ _ h ht _ => h.2 _ (List.mem_of_getElem? ht)) hs
  have hdb : OneRow (Db.empty : Db (List DesiredItem)) := List.nodup_nil
  exact ⟨P, hcareful, of_decide_eq_true hactive, one_active_subscription hdb hcareful 1⟩

/-- Two grants to a user without a subscription: both look for one before either has written. -/
theorem two_grants_two_active : ∃ P : Bot (List DesiredItem) Unit,
    Pool.Steps (BotOp.program listSettings) (fun _ n => n) (fun _ _ => True)
      (Pool.initial Db.empty 0 ()) P ∧ (P.db.activeOf 1).length = 2 := by
  have hrun : (Pool.play (BotOp.program listSettings) (fun _ n => n) (fun _ _ => True)
      ([.spawn (.registerOrUpdateOnStart 11), .spawn (.grantSubscription 11 30),
        .spawn (.grantSubscription 11 30)] ++
        Event.runs 0 3 "" ++ Event.runs 1 6 "f3a9" ++ Event.runs 2 6 "07cd" ++
        Event.runs 1 3 "" ++ Event.runs 2 3 "")
      (Pool.initial Db.empty 0 () : Bot (List DesiredItem) Unit)).any
        (fun P => decide ((P.db.activeOf 1).length = 2)) = true := by decide +kernel
  obtain ⟨P, hs, hactive⟩ := Pool.exists_of_play hrun
  exact ⟨P, hs, of_decide_eq_true hactive⟩

end AegisVPN
