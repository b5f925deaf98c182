import AegisVPN.Bot.SiteSessions

namespace AegisVPN
open Library
set_option autoImplicit true

/-! ## What an activation of the trial reads and writes -/

/-- The row that an activation writes: the latest of the user started again, or a new one. -/
def trialDraftOf (db : Db D) (userId : Nat) (now : Int) (token uuid : String) :
    Except BotError Draft := do
  let expiresAt ← addDays now trialDays
  match (db.subscriptionsOf userId).argmax Subscription.id with
  | some sub => .ok (.update sub
      { sub with
        isActive := true
        startedAt := now
        expiresAt
        planDays := trialDays
        subToken := if sub.subToken = "" then token else sub.subToken
        clientUuid := if sub.clientUuid = "" then uuid else sub.clientUuid })
  | none => .ok (.insert ⟨0, userId, token, none, uuid, trialDays, now, expiresAt, true⟩)

/-- An activation that has passed its checks, with the user that it has loaded. A newcomer is
registered in the same transaction. -/
inductive TrialTask
  | existing (user : User) (draft : Draft)
  | newcomer (sub : Subscription)

def loadTrial (db : Db D) (user : User) (now : Int) (token uuid : String) :
    Except BotError (Option TrialTask) := do
  if user.isBanned = true ∨ user.trialUsed = true then .ok none
  else do
    let active ← scalarOneOrNone
      ((db.activeOf user.id).filter fun s => decide (now < s.expiresAt))
    match active with
    | some _ => .ok none
    | none => do
      let draft ← trialDraftOf db user.id now token uuid
      .ok (some (.existing user draft))

/-- The reads of `activate_trial`. -/
def readTrial (db : Db D) (tgId now : Int) (token uuid : String) :
    Except BotError (Option TrialTask) := do
  let user ← db.userByTg tgId
  match user with
  | some user => loadTrial db user now token uuid
  | none => do
    let expiresAt ← addDays now trialDays
    .ok (some (.newcomer ⟨0, 0, token, none, uuid, trialDays, now, expiresAt, true⟩))

/-- Register under an id that the database picks. It is never one that is in use. -/
def insertUserUnder (id : Nat) (user : User) : DbAct D User := fun db =>
  if db.users.any fun u => u.id == id then (.error .integrity, db) else insertUserAs id user db

/-- Its writes, where `id` is the id that a newcomer is given. -/
def TrialTask.write (tgId : Int) (id : Nat) : TrialTask → DbAct D Subscription
  | .existing user draft => draft.write (dirtyUser user { user with trialUsed := true })
  | .newcomer sub => (insertUserUnder id ⟨0, tgId, false, true, none⟩).andThen
      (insertSubscription { sub with userId := id })

/-- The row that the task writes still has its trial. -/
def TrialTask.Unspent (db : Db D) : TrialTask → Prop
  | .existing user _ => ∀ r ∈ db.users, r.id = user.id → r.trialUsed = false
  | .newcomer _ => True

instance (db : Db D) : ∀ task : TrialTask, Decidable (task.Unspent db)
  | .existing user _ =>
    inferInstanceAs (Decidable (∀ r ∈ db.users, r.id = user.id → r.trialUsed = false))
  | .newcomer _ => inferInstanceAs (Decidable True)

/-! ## The operations of one Telegram account -/

/-- What the account asks for and may be refused. -/
inductive Attempt
  | trial
  | checkout (userId : Nat)
  | botCheckout
  | reissue
  deriving DecidableEq

structure AccountWorld (D : Type) where
  tgId : Int
  db : Db D
  /-- The ids of the rows that have accepted the current terms. -/
  accepted : List Nat
  now : Int
  trials : List TrialTask
  /-- The days that trials have given so far. -/
  trialTime : Int
  /-- Whether the last word of an administrator is a ban. -/
  banned : Bool
  /-- What was not refused under a ban. -/
  passed : List Attempt

/-- Where a row is created, the event has the id that the database gives it. A deletion and a
change of the ban stand where they commit: both write by the id of a row that they have looked up
by `tgId`. The terms gate reads its row in a transaction of its own before a `trial` begins. -/
inductive AccountEvent
  | register (id : Nat)
  | acceptTerms (id : Nat)
  | trial (token uuid : String)
  | commitTrial (i id : Nat)
  | failTrial (i : Nat)
  | deleteAccount
  | setBan (isBanned : Bool)
  | checkout (userId : Nat)
  | botCheckout
  | reissue
  | wait (d : Nat)

namespace AccountWorld
variable (w : AccountWorld D)

/-- The account's row. -/
def row : Option User :=
  match w.db.userByTg w.tgId with
  | .ok user => user
  | .error _ => none

def register (id : Nat) : AccountWorld D :=
  { w with db := (insertUserUnder id ⟨0, w.tgId, false, false, none⟩ w.db).2 }

def acceptTerms (id : Nat) : AccountWorld D :=
  match (w.register id).row with
  | some user => { w.register id with accepted := user.id :: w.accepted }
  | none => w.register id

def note (attempt : Attempt) : AccountWorld D :=
  if w.banned = true then { w with passed := w.passed ++ [attempt] } else w

def trial (token uuid : String) : AccountWorld D :=
  match readTrial w.db w.tgId w.now token uuid with
  | .ok (some task) => { w.note .trial with trials := w.trials ++ [task] }
  | _ => w

def failTrial (i : Nat) : AccountWorld D := { w with trials := w.trials.eraseIdx i }

/-- What fails is rolled back. -/
def commitTrial (i id : Nat) : AccountWorld D :=
  match w.trials[i]? with
  | some task =>
    match (task.write w.tgId id w.db).1 with
    | .ok _ =>
      { w with
        db := (task.write w.tgId id w.db).2
        trials := w.trials.eraseIdx i
        trialTime := w.trialTime + trialDays }
    | .error _ => w.failTrial i
  | none => w

def deleteAccount : AccountWorld D :=
  match w.row with
  | some user =>
    { w with
      db := (deleteUser user.id w.db).2
      accepted := w.accepted.filter fun i => i != user.id }
  | none => w

def setBan (isBanned : Bool) : AccountWorld D :=
  match w.row with
  | some user =>
    { w with
      db := (Pending.write (dirtyUser user { user with isBanned }) w.db).2
      banned := isBanned }
  | none => w

/-- Whether the checkout of the site goes on for the row that a session opens. -/
def servesCheckout (userId : Nat) : Bool :=
  match w.db.users.find? fun u => u.id == userId with
  | some user => user.tgId == w.tgId && !user.isBanned && w.accepted.contains user.id
  | none => false

/-- Whether the bot lets the account pay. Nothing there looks at the ban. -/
def servesBotCheckout : Bool :=
  match w.row with
  | some user => w.accepted.contains user.id
  | none => false

def servesReissue : Bool :=
  match w.row with
  | some user =>
    match scalarOneOrNone
      ((w.db.activeOf user.id).filter fun s => decide (w.now < s.expiresAt)) with
    | .ok (some _) => !user.isBanned
    | _ => false
  | none => false

def step : AccountEvent → AccountWorld D
  | .register id => w.register id
  | .acceptTerms id => w.acceptTerms id
  | .trial token uuid => w.trial token uuid
  | .commitTrial i id => w.commitTrial i id
  | .failTrial i => w.failTrial i
  | .deleteAccount => w.deleteAccount
  | .setBan isBanned => w.setBan isBanned
  | .checkout userId => if w.servesCheckout userId then w.note (.checkout userId) else w
  | .botCheckout => if w.servesBotCheckout then w.note .botCheckout else w
  | .reissue => if w.servesReissue then w.note .reissue else w
  | .wait d => { w with now := w.now + d }

/-- At most one trial has been given, and no ban has been got around. -/
def Clean : Prop := w.trialTime ≤ trialDays ∧ w.passed = []

/-- The account is deleted only while it is neither banned nor out of its trial, a trial is
committed only while the row that it writes still has one, and nothing is bought through the bot
under a ban. -/
def Careful : AccountEvent → Prop
  | .deleteAccount => ∀ user ∈ w.row, user.isBanned = false ∧ user.trialUsed = false
  | .commitTrial i _ => ∀ task ∈ w.trials[i]?, task.Unspent w.db
  | .botCheckout => w.banned = true → w.servesBotCheckout = false
  | _ => True

instance : ∀ e, Decidable (w.Careful e)
  | .deleteAccount => inferInstanceAs (Decidable (∀ user ∈ w.row, _))
  | .commitTrial i _ => inferInstanceAs (Decidable (∀ task ∈ w.trials[i]?, _))
  | .botCheckout => inferInstanceAs (Decidable (_ → _))
  | .register _ | .acceptTerms _ | .trial _ _ | .failTrial _ | .setBan _ | .checkout _ | .reissue
  | .wait _ => inferInstanceAs (Decidable True)

end AccountWorld

def AccountWorld.initial (tgId : Int) (db : Db D) (now : Int) : AccountWorld D where
  tgId
  db
  accepted := []
  now
  trials := []
  trialTime := 0
  banned := db.users.any fun u => u.tgId == tgId && u.isBanned
  passed := []

/-! ## What the writes leave of users -/

theorem insertUserUnder_cases (id : Nat) (user : User) (db : Db D) :
    ((∃ e, (insertUserUnder id user db).1 = .error e) ∧ (insertUserUnder id user db).2 = db) ∨
    (∀ u ∈ db.users, u.id ≠ id ∧ u.tgId ≠ user.tgId) ∧
      (insertUserUnder id user db).2 = { db with users := db.users ++ [{ user with id }] } := by
  unfold insertUserUnder insertUserAs
  split
  · exact .inl ⟨⟨_, rfl⟩, rfl⟩
  · rename_i hid
    split
    · exact .inl ⟨⟨_, rfl⟩, rfl⟩
    · rename_i htg
      refine .inr ⟨fun u hu => ⟨fun heq => hid ?_, fun heq => htg ?_⟩, rfl⟩
      · exact List.any_eq_true.2 ⟨u, hu, beq_iff_eq.2 heq⟩
      · exact List.any_eq_true.2 ⟨u, hu, beq_iff_eq.2 heq⟩

theorem insertSubscription_users (sub : Subscription) (db : Db D) :
    (insertSubscription sub db).2.users = db.users := by
  rcases insertSubscription_cases sub db with ⟨row, hi, -⟩ | hi
  · rw [hi]
  · rw [hi]

theorem draftWrite_users {draft : Draft} {pending : Pending D}
    (h : (draft.write pending db).1 = .ok sub) : ∃ db₁, pending.write db = (.ok (), db₁) ∧
      (draft.write pending db).2.users = db₁.users := by
  cases draft with
  | update old new =>
    obtain ⟨x, hwrite, -, hw⟩ := DbAct.andThen_ok h
    have hpair : Pending.write (pending ++ dirtySubscription old new) db =
        (.ok (), (Pending.write (pending ++ dirtySubscription old new) db).2) := Prod.ext hwrite rfl
    obtain ⟨db₁, hfirst, hrest⟩ := write_split hpair
    refine ⟨db₁, hfirst, ?_⟩
    rw [Draft.write, hw, dirtySubscription_patches hrest]
    rfl
  | insert new =>
    obtain ⟨x, hwrite, -, hw⟩ := DbAct.andThen_ok h
    refine ⟨(pending.write db).2, Prod.ext hwrite rfl, ?_⟩
    rw [Draft.write, hw, insertSubscription_users]

theorem patch_same [DecidableEq β] (old current : β) : patch old old current = current := by
  rw [patch, if_pos rfl]

theorem patch_new [DecidableEq β] {old new : β} (h : old ≠ new) (current : β) :
    patch old new current = new := by
  rw [patch, if_neg h]

theorem updateUser_users {old new : User} (h : (updateUser old new db).1 = .ok ()) :
    (∃ u ∈ db.users, u.id = old.id) ∧
    (updateUser old new db).2.users = db.users.map fun u => if u.id = old.id then
      { u with
        isBanned := patch old.isBanned new.isBanned u.isBanned
        trialUsed := patch old.trialUsed new.trialUsed u.trialUsed } else u := by
  unfold updateUser at h ⊢
  split at h
  · rename_i hrow
    obtain ⟨u, hu, hid⟩ := List.any_eq_true.1 hrow
    rw [if_pos hrow]
    exact ⟨⟨u, hu, beq_iff_eq.1 hid⟩, rfl⟩
  · cases h

theorem dirtyUser_write {old new : User} {db₁ : Db D}
    (h : (dirtyUser old new).write db = (.ok (), db₁)) (hne : old ≠ new) :
    (∃ u ∈ db.users, u.id = old.id) ∧ db₁.users = db.users.map fun u => if u.id = old.id then
      { u with
        isBanned := patch old.isBanned new.isBanned u.isBanned
        trialUsed := patch old.trialUsed new.trialUsed u.trialUsed } else u := by
  rw [dirtyUser, if_neg hne] at h
  change (updateUser old new).andThen (Pending.write []) db = _ at h
  obtain ⟨_, hupdate, -, hw⟩ := DbAct.andThen_ok (congrArg Prod.fst h)
  obtain ⟨hrow, husers⟩ := updateUser_users hupdate
  rw [h] at hw
  exact ⟨hrow, (congrArg Db.users hw).trans husers⟩

theorem existing_write {id : Nat} {user : User} {draft : Draft} {db : Db D}
    (hfree : user.trialUsed = false)
    (h : ((TrialTask.existing user draft).write tgId id db).1 = .ok sub) :
    (∃ u ∈ db.users, u.id = user.id) ∧
      ((TrialTask.existing user draft).write tgId id db).2.users =
        db.users.map fun u => if u.id = user.id then { u with trialUsed := true } else u := by
  obtain ⟨db₁, hpending, husers⟩ := draftWrite_users h
  have hne : user ≠ { user with trialUsed := true } := by
    intro heq
    rw [heq] at hfree
    cases hfree
  obtain ⟨hrow, hmap⟩ := dirtyUser_write hpending hne
  refine ⟨hrow, husers.trans (hmap.trans ?_)⟩
  refine List.map_congr_left fun u _ => ?_
  rw [patch_same, hfree, patch_new Bool.false_ne_true]

theorem newcomer_write {id : Nat} {new : Subscription} {db : Db D}
    (h : ((TrialTask.newcomer new).write tgId id db).1 = .ok sub) :
    (∀ u ∈ db.users, u.id ≠ id ∧ u.tgId ≠ tgId) ∧
      ((TrialTask.newcomer new).write tgId id db).2.users =
        db.users ++ [⟨id, tgId, false, true, none⟩] := by
  obtain ⟨_, hinsert, -, hw⟩ := DbAct.andThen_ok h
  rcases insertUserUnder_cases id ⟨0, tgId, false, true, none⟩ db with ⟨⟨e, he⟩, -⟩ | ⟨hnew, hdb⟩
  · rw [he] at hinsert
    cases hinsert
  · refine ⟨hnew, ?_⟩
    rw [TrialTask.write, hw, insertSubscription_users, hdb]

theorem userByTg_of_mem {db : Db D} (hone : (db.users.map User.tgId).Nodup) (hu : u ∈ db.users) :
    db.userByTg u.tgId = .ok (some u) := by
  have hcount : (db.users.map User.tgId).count u.tgId ≤ 1 := List.nodup_iff_count_le_one.1 hone _
  rw [List.count_eq_countP, List.countP_map, List.countP_eq_length_filter] at hcount
  have hmem : u ∈ db.users.filter fun v => v.tgId == u.tgId :=
    List.mem_filter.2 ⟨hu, beq_self_eq_true _⟩
  unfold Db.userByTg
  change (db.users.filter fun v => v.tgId == u.tgId).length ≤ 1 at hcount
  generalize (db.users.filter fun v => v.tgId == u.tgId) = found at hcount hmem
  match found with
  | [v] =>
    cases List.mem_singleton.1 hmem
    rfl
  | [] => cases hmem
  | _ :: _ :: _ => simp at hcount

/-! ## What holds of the account's row -/

/-- A ban that is in force, and a trial that has been given, are on the account's one row. -/
structure Flags (tgId : Int) (users : List User) (banned : Bool) (trialTime : Int) : Prop where
  ids : (users.map User.id).Nodup
  tgIds : (users.map User.tgId).Nodup
  banned : banned = true → ∃ u ∈ users, u.tgId = tgId ∧ u.isBanned = true
  tried : 0 < trialTime → ∃ u ∈ users, u.tgId = tgId ∧ u.trialUsed = true

section Flags
variable {tgId : Int} {users users' : List User} {b b' : Bool} {t t' : Int} {id : Nat}
  {user u v : User}

theorem Flags.eq_of_tgId (h : Flags tgId users b t) (hu : u ∈ users) (hv : v ∈ users)
    (htg : u.tgId = v.tgId) : u = v := List.inj_on_of_nodup_map h.tgIds hu hv htg

/-- No row of the account, or one without the flag, means that there has been no trial. -/
theorem Flags.untried (h : Flags tgId users b t)
    (hnone : ∀ u ∈ users, u.tgId = tgId → u.trialUsed = false) : ¬0 < t := by
  intro ht
  obtain ⟨u, hu, htg, hused⟩ := h.tried ht
  rw [hnone u hu htg] at hused
  cases hused

theorem Flags.append (h : Flags tgId users b t)
    (hnew : ∀ u ∈ users, u.id ≠ id ∧ u.tgId ≠ tgId) {trialUsed : Bool}
    (ht : 0 < t' → 0 < t ∨ trialUsed = true) :
    Flags tgId (users ++ [⟨id, tgId, false, trialUsed, none⟩]) b t' where
  ids := by
    rw [List.map_append]
    refine List.nodup_append.2 ⟨h.ids, List.nodup_singleton _, fun i hi j hj => ?_⟩
    obtain ⟨u, hu, rfl⟩ := List.mem_map.1 hi
    rw [List.mem_singleton.1 hj]
    exact (hnew u hu).1
  tgIds := by
    rw [List.map_append]
    refine List.nodup_append.2 ⟨h.tgIds, List.nodup_singleton _, fun i hi j hj => ?_⟩
    obtain ⟨u, hu, rfl⟩ := List.mem_map.1 hi
    rw [List.mem_singleton.1 hj]
    exact (hnew u hu).2
  banned hb := by
    obtain ⟨u, hu, hflag⟩ := h.banned hb
    exact ⟨u, List.mem_append_left _ hu, hflag⟩
  tried hpos := by
    rcases ht hpos with hpos | hused
    · obtain ⟨u, hu, hflag⟩ := h.tried hpos
      exact ⟨u, List.mem_append_left _ hu, hflag⟩
    · exact ⟨_, List.mem_append_right _ (List.mem_singleton_self _), rfl, hused⟩

theorem Flags.map (h : Flags tgId users b t) {f : User → User}
    (hid : ∀ u, (f u).id = u.id) (htg : ∀ u, (f u).tgId = u.tgId)
    (hban : b' = true → ∃ u ∈ users, u.tgId = tgId ∧ (f u).isBanned = true)
    (htried : 0 < t' → ∃ u ∈ users, u.tgId = tgId ∧ (f u).trialUsed = true) :
    Flags tgId (users.map f) b' t' where
  ids := by
    have hids : (users.map f).map User.id = users.map User.id := by
      rw [List.map_map]
      exact List.map_congr_left fun u _ => hid u
    exact hids ▸ h.ids
  tgIds := by
    have htgs : (users.map f).map User.tgId = users.map User.tgId := by
      rw [List.map_map]
      exact List.map_congr_left fun u _ => htg u
    exact htgs ▸ h.tgIds
  banned hb := by
    obtain ⟨u, hu, hu', hflag⟩ := hban hb
    exact ⟨f u, List.mem_map_of_mem hu, (htg u).trans hu', hflag⟩
  tried ht := by
    obtain ⟨u, hu, hu', hflag⟩ := htried ht
    exact ⟨f u, List.mem_map_of_mem hu, (htg u).trans hu', hflag⟩

theorem Flags.erase (h : Flags tgId users b t) (huser : user ∈ users)
    (htg : user.tgId = tgId) (hban : user.isBanned = false) (ht : user.trialUsed = false)
    (hsub : users'.Sublist users) : Flags tgId users' b t where
  ids := h.ids.sublist (hsub.map _)
  tgIds := h.tgIds.sublist (hsub.map _)
  banned hb := by
    obtain ⟨u, hu, hutg, hflag⟩ := h.banned hb
    rw [h.eq_of_tgId hu huser (hutg.trans htg.symm), hban] at hflag
    cases hflag
  tried hpos := by
    obtain ⟨u, hu, hutg, hflag⟩ := h.tried hpos
    rw [h.eq_of_tgId hu huser (hutg.trans htg.symm), ht] at hflag
    cases hflag

end Flags

theorem readTrial_free {db : Db D}
    (h : readTrial db tgId now token uuid = .ok (some (.existing user draft))) :
    db.userByTg tgId = .ok (some user) ∧ user.isBanned = false ∧ user.trialUsed = false := by
  unfold readTrial at h
  cases hfound : db.userByTg tgId with
  | error e =>
    rw [hfound] at h
    cases h
  | ok found =>
    cases found with
    | none =>
      rw [hfound] at h
      change (addDays now trialDays >>= _) = _ at h
      cases hdays : addDays now trialDays <;> rw [hdays] at h <;> cases h
    | some u =>
      rw [hfound] at h
      change loadTrial db u now token uuid = _ at h
      unfold loadTrial at h
      split at h
      · cases h
      · rename_i hflags
        obtain ⟨hb, ht⟩ := not_or.1 hflags
        cases hactive : scalarOneOrNone
            ((db.activeOf u.id).filter fun s => decide (now < s.expiresAt)) with
        | error e =>
          rw [hactive] at h
          cases h
        | ok active =>
          rw [hactive] at h
          cases active with
          | some s => cases h
          | none =>
            change (trialDraftOf db u.id now token uuid >>= _) = _ at h
            cases hdraft : trialDraftOf db u.id now token uuid with
            | error e =>
              rw [hdraft] at h
              cases h
            | ok d =>
              rw [hdraft] at h
              cases h
              exact ⟨rfl, Bool.eq_false_iff.2 hb, Bool.eq_false_iff.2 ht⟩

namespace AccountWorld
variable {w : AccountWorld D}

/-- What holds in every state that a careful run reaches. -/
structure Kept (w : AccountWorld D) : Prop where
  flags : Flags w.tgId w.db.users w.banned w.trialTime
  time : w.trialTime = 0 ∨ w.trialTime = trialDays
  passed : w.passed = []
  tasks : ∀ user draft, .existing user draft ∈ w.trials →
    user.trialUsed = false ∧ ∀ r ∈ w.db.users, r.id = user.id → r.tgId = w.tgId

theorem Kept.clean (h : w.Kept) : w.Clean := by
  refine ⟨?_, h.passed⟩
  rcases h.time with ht | ht
  · rw [ht]
    decide
  · rw [ht]

theorem row_knows (h : w.row = some user) : user ∈ w.db.users ∧ user.tgId = w.tgId := by
  unfold row at h
  split at h
  · rename_i found hfound
    rw [h] at hfound
    exact userByTg_knows hfound
  · cases h

theorem Kept.userByTg_banned (h : w.Kept) (hb : w.banned = true) :
    ∃ user, w.db.userByTg w.tgId = .ok (some user) ∧ user.isBanned = true := by
  obtain ⟨user, huser, htg, hban⟩ := h.flags.banned hb
  exact ⟨user, htg ▸ userByTg_of_mem h.flags.tgIds huser, hban⟩

theorem Kept.row_banned (h : w.Kept) (hb : w.banned = true) :
    ∃ user, w.row = some user ∧ user.isBanned = true := by
  obtain ⟨user, huser, hban⟩ := h.userByTg_banned hb
  refine ⟨user, ?_, hban⟩
  rw [row, huser]

theorem note_free {attempt : Attempt} (hb : w.banned ≠ true) : w.note attempt = w := if_neg hb

theorem Kept.register (h : w.Kept) (id : Nat) : (w.register id).Kept := by
  unfold AccountWorld.register
  rcases insertUserUnder_cases id ⟨0, w.tgId, false, false, none⟩ w.db with ⟨-, hdb⟩ | ⟨hnew, hdb⟩
  · rw [hdb]
    exact h
  · rw [hdb]
    refine ⟨h.flags.append hnew .inl, h.time, h.passed, fun user draft htask => ?_⟩
    obtain ⟨hfree, hrows⟩ := h.tasks user draft htask
    refine ⟨hfree, fun r hr hid => ?_⟩
    rcases List.mem_append.1 hr with hr | hr
    · exact hrows r hr hid
    · cases List.mem_singleton.1 hr
      rfl

theorem Kept.acceptTerms (h : w.Kept) (id : Nat) : (w.acceptTerms id).Kept := by
  have hr := h.register id
  unfold AccountWorld.acceptTerms
  split
  · exact { flags := hr.flags, time := hr.time, passed := hr.passed, tasks := hr.tasks }
  · exact hr

/-- Under a ban no trial begins. -/
theorem Kept.readTrial_banned (h : w.Kept) (hb : w.banned = true) :
    readTrial w.db w.tgId w.now token uuid = .ok none := by
  obtain ⟨user, huser, hban⟩ := h.userByTg_banned hb
  unfold readTrial
  rw [huser]
  change loadTrial w.db user w.now token uuid = _
  rw [loadTrial, if_pos (.inl hban)]

theorem Kept.trial (h : w.Kept) (token uuid : String) : (w.trial token uuid).Kept := by
  unfold AccountWorld.trial
  split
  · rename_i task htask
    have hb : w.banned ≠ true := by
      intro hb
      rw [h.readTrial_banned hb] at htask
      cases htask
    rw [note_free hb]
    refine ⟨h.flags, h.time, h.passed, fun user draft hmem => ?_⟩
    rcases List.mem_append.1 hmem with hmem | hmem
    · exact h.tasks user draft hmem
    · cases List.mem_singleton.1 hmem
      obtain ⟨hfound, -, hfree⟩ := readTrial_free htask
      obtain ⟨huser, htg⟩ := userByTg_knows hfound
      refine ⟨hfree, fun r hr hid => ?_⟩
      exact (congrArg User.tgId (List.inj_on_of_nodup_map h.flags.ids hr huser hid)).trans htg
  · exact h

theorem Kept.failTrial (h : w.Kept) (i : Nat) : (w.failTrial i).Kept :=
  ⟨h.flags, h.time, h.passed, fun user draft hmem =>
    h.tasks user draft (List.mem_of_mem_eraseIdx hmem)⟩

theorem Kept.commitTrial (h : w.Kept) (i id : Nat)
    (hc : ∀ task ∈ w.trials[i]?, task.Unspent w.db) : (w.commitTrial i id).Kept := by
  unfold AccountWorld.commitTrial
  split
  · rename_i task hi
    have hmem : task ∈ w.trials := List.mem_of_getElem? hi
    have hunspent : task.Unspent w.db := hc task hi
    split
    · rename_i sub hok
      cases task with
      | existing user draft =>
        obtain ⟨hfree, hrows⟩ := h.tasks user draft hmem
        obtain ⟨⟨u, hu, hid⟩, husers⟩ := existing_write hfree hok
        have hzero : w.trialTime = 0 := by
          refine h.time.resolve_right fun ht => h.flags.untried (fun v hv htg => ?_) ?_
          · rw [h.flags.eq_of_tgId hv hu (htg.trans (hrows u hu hid).symm)]
            exact hunspent u hu hid
          · rw [ht]
            decide
        refine ⟨?_, .inr (by rw [hzero, Int.zero_add]), h.passed, fun user' draft' htask => ?_⟩
        · simp only [husers]
          refine h.flags.map (fun v => by split <;> rfl) (fun v => by split <;> rfl)
            (fun hb => ?_) (fun _ => ⟨u, hu, hrows u hu hid, by rw [if_pos hid]⟩)
          obtain ⟨v, hv, htg, hban⟩ := h.flags.banned hb
          refine ⟨v, hv, htg, ?_⟩
          split
          · exact hban
          · exact hban
        · obtain ⟨hfree', hrows'⟩ := h.tasks user' draft' (List.mem_of_mem_eraseIdx htask)
          refine ⟨hfree', fun r hr hid' => ?_⟩
          rw [husers] at hr
          obtain ⟨r₀, hr₀, rfl⟩ := List.mem_map.1 hr
          have hsame := hrows' r₀ hr₀
          split at hid' <;> split <;> exact hsame hid'
      | newcomer new =>
        obtain ⟨hnew, husers⟩ := newcomer_write hok
        have hzero : w.trialTime = 0 := by
          refine h.time.resolve_right fun ht => h.flags.untried (fun v hv htg => ?_) ?_
          · exact absurd htg (hnew v hv).2
          · rw [ht]
            decide
        refine ⟨?_, .inr (by rw [hzero, Int.zero_add]), h.passed, fun user' draft' htask => ?_⟩
        · simp only [husers]
          exact h.flags.append hnew fun _ => .inr rfl
        · obtain ⟨hfree', hrows'⟩ := h.tasks user' draft' (List.mem_of_mem_eraseIdx htask)
          refine ⟨hfree', fun r hr hid' => ?_⟩
          rw [husers] at hr
          rcases List.mem_append.1 hr with hr | hr
          · exact hrows' r hr hid'
          · cases List.mem_singleton.1 hr
            rfl
    · exact h.failTrial i
  · exact h

theorem Kept.deleteAccount (h : w.Kept)
    (hc : ∀ user ∈ w.row, user.isBanned = false ∧ user.trialUsed = false) :
    w.deleteAccount.Kept := by
  unfold AccountWorld.deleteAccount
  split
  · rename_i user hrow
    obtain ⟨huser, htg⟩ := row_knows hrow
    obtain ⟨hb, ht⟩ := hc user hrow
    have hsub := deleteUser_users user.id w.db
    refine ⟨h.flags.erase huser htg hb ht hsub, h.time, h.passed, fun user' draft htask => ?_⟩
    obtain ⟨hfree, hrows⟩ := h.tasks user' draft htask
    exact ⟨hfree, fun r hr => hrows r (hsub.subset hr)⟩
  · exact h

theorem Kept.setBan (h : w.Kept) (isBanned : Bool) : (w.setBan isBanned).Kept := by
  unfold AccountWorld.setBan
  split
  · rename_i user hrow
    obtain ⟨huser, htg⟩ := row_knows hrow
    by_cases hsame : user.isBanned = isBanned
    · have hnothing : dirtyUser user { user with isBanned } = ([] : Pending D) :=
        if_pos (by rw [← hsame])
      rw [hnothing]
      exact {
        flags := ⟨h.flags.ids, h.flags.tgIds, fun hb => ⟨user, huser, htg, hsame.trans hb⟩,
          h.flags.tried⟩
        time := h.time
        passed := h.passed
        tasks := h.tasks }
    · have hne : user ≠ { user with isBanned } := fun heq => hsame (congrArg User.isBanned heq)
      have hok : ((dirtyUser user { user with isBanned }).write w.db).1 = .ok () := by
        have hrow : (w.db.users.any fun u => u.id == user.id) = true :=
          List.any_eq_true.2 ⟨user, huser, beq_self_eq_true _⟩
        rw [dirtyUser, if_neg hne]
        simp only [Pending.write, DbAct.andThen, updateUser, hrow, ↓reduceIte]
      obtain ⟨-, husers⟩ := dirtyUser_write (Prod.ext hok rfl) hne
      refine ⟨?_, h.time, h.passed, fun user' draft htask => ?_⟩
      · simp only [husers]
        refine h.flags.map (fun v => by split <;> rfl) (fun v => by split <;> rfl)
          (fun hb => ⟨user, huser, htg, ?_⟩) (fun ht => ?_)
        · rw [if_pos rfl]
          exact (patch_new hsame _).trans hb
        · obtain ⟨v, hv, hvtg, hused⟩ := h.flags.tried ht
          refine ⟨v, hv, hvtg, ?_⟩
          split
          · exact (patch_same _ _).trans hused
          · exact hused
      · obtain ⟨hfree, hrows⟩ := h.tasks user' draft htask
        refine ⟨hfree, fun r hr hid => ?_⟩
        simp only [husers] at hr
        obtain ⟨r₀, hr₀, rfl⟩ := List.mem_map.1 hr
        have hsame := hrows r₀ hr₀
        split at hid <;> split <;> exact hsame hid
  · exact h

theorem Kept.checkout_free (h : w.Kept) (hserves : w.servesCheckout userId = true) :
    w.banned ≠ true := by
  intro hb
  obtain ⟨user, huser, htg, hban⟩ := h.flags.banned hb
  unfold servesCheckout at hserves
  split at hserves
  · rename_i u hfind
    simp only [Bool.and_eq_true, beq_iff_eq, Bool.not_eq_true'] at hserves
    obtain ⟨⟨hutg, hfree⟩, -⟩ := hserves
    have hu := List.mem_of_find?_eq_some hfind
    rw [h.flags.eq_of_tgId hu huser (hutg.trans htg.symm), hban] at hfree
    cases hfree
  · cases hserves

theorem Kept.reissue_free (h : w.Kept) (hserves : w.servesReissue = true) : w.banned ≠ true := by
  intro hb
  obtain ⟨user, hrow, hban⟩ := h.row_banned hb
  unfold servesReissue at hserves
  rw [hrow] at hserves
  simp only [hban, Bool.not_true] at hserves
  split at hserves <;> cases hserves

theorem Kept.step (h : w.Kept) (e : AccountEvent) (hc : w.Careful e) : (w.step e).Kept := by
  cases e with
  | register id => exact h.register id
  | acceptTerms id => exact h.acceptTerms id
  | trial token uuid => exact h.trial token uuid
  | commitTrial i id => exact h.commitTrial i id hc
  | failTrial i => exact h.failTrial i
  | deleteAccount => exact h.deleteAccount hc
  | setBan isBanned => exact h.setBan isBanned
  | checkout userId =>
    simp only [AccountWorld.step]
    split
    · rename_i hserves
      rw [note_free (h.checkout_free hserves)]
      exact h
    · exact h
  | botCheckout =>
    simp only [AccountWorld.step]
    split
    · rename_i hserves
      have hb : w.banned ≠ true := fun hb => by
        rw [hc hb] at hserves
        cases hserves
      rw [note_free hb]
      exact h
    · exact h
  | reissue =>
    simp only [AccountWorld.step]
    split
    · rename_i hserves
      rw [note_free (h.reissue_free hserves)]
      exact h
    · exact h
  | wait d => exact ⟨h.flags, h.time, h.passed, h.tasks⟩

end AccountWorld

theorem kept_initial {db : Db D} (tgId now : Int) (hids : (db.users.map User.id).Nodup)
    (htgIds : (db.users.map User.tgId).Nodup) : (AccountWorld.initial tgId db now).Kept where
  flags := {
    ids := hids
    tgIds := htgIds
    banned := fun hb => by
      obtain ⟨u, hu, hflags⟩ := List.any_eq_true.1 hb
      rw [Bool.and_eq_true, beq_iff_eq] at hflags
      exact ⟨u, hu, hflags⟩
    tried := fun ht => absurd ht (Int.lt_irrefl 0) }
  time := .inl rfl
  passed := rfl
  tasks _ _ htask := by cases htask

/-- A run in which the account is deleted only while it is neither banned nor out of its trial,
trials are committed one at a time, and nothing is bought through the bot under a ban, gives one
trial at most and refuses all that is asked for under a ban. -/
theorem deletion_launders_nothing {db : Db D} {tgId now : Int} {events : List AccountEvent}
    (hids : (db.users.map User.id).Nodup) (htgIds : (db.users.map User.tgId).Nodup)
    (hs : Along AccountWorld.step AccountWorld.Careful (.initial tgId db now) events) :
    (events.foldl AccountWorld.step (.initial tgId db now)).Clean := by
  have hrun := run_invariant (kept_initial tgId now hids htgIds) (fun _ e h hc => h.step e hc) hs
  exact hrun.clean

/-! ## Runs from the empty database -/

/-- An account is deleted before it has done anything, banned, refused, unbanned, and given its
trial. -/
theorem deletion_launders_nothing_once :
    (([.register 1, .deleteAccount, .register 1, .acceptTerms 2, .setBan true, .checkout 1,
      .trial "f3a9" "07cd", .reissue, .setBan false, .trial "f3a9" "07cd", .commitTrial 0 2,
      .trial "51b2" "9e40"] : List AccountEvent).foldl AccountWorld.step
        (.initial 11 (Db.empty : Db Unit) 0)).Clean :=
  deletion_launders_nothing List.nodup_nil List.nodup_nil (by decide)

/-- A trial, a deletion, a new start and another trial; and a ban, a deletion, a new start and a
trial under the ban. -/
theorem deletion_gives_trial_again :
    (¬ ∀ events : List AccountEvent, (events.foldl AccountWorld.step
      (.initial 11 (Db.empty : Db Unit) 0)).trialTime ≤ trialDays) ∧
    ¬ ∀ events : List AccountEvent, (events.foldl AccountWorld.step
      (.initial 11 (Db.empty : Db Unit) 0)).passed = [] := by
  constructor
  · intro h
    have htime := h [.register 1, .acceptTerms 2, .trial "f3a9" "07cd", .commitTrial 0 2,
      .deleteAccount, .register 1, .acceptTerms 2, .trial "51b2" "9e40", .commitTrial 0 2]
    exact absurd htime (by decide)
  · intro h
    have hpassed := h [.register 1, .setBan true, .deleteAccount, .register 1, .acceptTerms 2,
      .trial "f3a9" "07cd"]
    exact absurd hpassed (by decide)

end AegisVPN
