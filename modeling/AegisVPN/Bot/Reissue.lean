import AegisVPN.Bot.Procedures
import AegisVPN.Control.Applicable
import AegisVPN.Control.Publication
import AegisVPN.Library.Solo

namespace AegisVPN
open Library
set_option autoImplicit true

inductive ReissueStatus
  | noUser
  | noActive
  | failed
  | done
  deriving DecidableEq

section Status
variable [DecidableEq D] (settings : ControlSettings D)

/-- A reissue with the status that it returns. -/
def reissueStatus (tgId : Int) : BotProg D ReissueStatus := do
  let user ← queryOne .users fun db => db.userByTg tgId
  match user with
  | none => .ret .noUser
  | some user =>
    if user.isBanned = false then do
      let now ← clock
      let sub ← findUnexpired user.id now
      match sub with
      | none => .ret .noActive
      | some sub => do
        let done ← (rotateSubscription settings sub).attempt
        match done with
        | .ok _ => .ret .done
        | .error _ => do
          rollback
          .ret .failed
    else .ret .noActive

theorem reissueSubscription_eq (tgId : Int) : reissueSubscription settings tgId =
    (reissueStatus settings tgId).bind fun _ => .ret () := by
  simp only [reissueSubscription, reissueStatus, Prog.bind_eq, Prog.bind_assoc]
  congr 1
  funext user
  cases user with
  | none => rfl
  | some user =>
    simp only [Prog.whenever]
    split
    · simp only [Prog.bind_assoc]
      congr 1
      funext now
      congr 1
      funext sub
      cases sub with
      | none => rfl
      | some sub =>
        simp only [orRollback, Prog.bind_eq, Prog.bind_assoc]
        congr 1
        funext done
        cases done with
        | ok _ => rfl
        | error _ => rfl
    · rfl

end Status

/-! ## Access to a subscription -/

/-- Whether the token is the one of an active row, or its legacy one. -/
def Subscription.answersTo (sub : Subscription) (token : String) : Bool :=
  (sub.subToken == token || sub.legacySubToken == some token) && sub.isActive

def getSubscriptionByToken (db : Db D) (token : String) :
    Except BotError (Option Subscription) :=
  scalarOneOrNone (db.subscriptions.filter fun s => s.answersTo token)

def Db.resolves (db : Db D) (token : String) (subId : Nat) : Prop :=
  ∃ sub, getSubscriptionByToken db token = .ok (some sub) ∧ sub.id = subId

/-- Some node is to let the UUID in. -/
def Db.desires (settings : ControlSettings D) (db : Db D) (now : Int) (uuid : String) : Prop :=
  ∃ serverId, ∃ server ∈ db.server serverId, ∃ c,
    .client c ∈ buildDesiredItems settings db server now ∧ c.uuid = uuid

/-- Some node is to let the UUID in for the subscription. -/
def Db.authorises (db : Db D) (subId : Nat) (now : Int) (uuid : String) : Prop :=
  ∃ serverId, ∃ server ∈ db.server serverId, server.isActive = true ∧
    ∃ sub ∈ db.desiredSubscriptions serverId now, sub.id = subId ∧
      ∃ c ∈ db.clientsOf sub, c.uuid = uuid

/-- Nothing that gave access to the subscription does so any more. -/
structure Revoked (settings : ControlSettings D) (db db' : Db D) (subId : Nat) (now : Int) :
    Prop where
  tokens : ∀ token, db.resolves token subId → ¬ db'.resolves token subId
  uuids : ∀ uuid, db.authorises subId now uuid →
    ∀ later, now ≤ later → ¬ db'.desires settings later uuid

/-- No legacy token leads to the subscription, and it has no device on a node. -/
structure NothingElse (db : Db D) (sub : Subscription) : Prop where
  legacy : ∀ token ∈ sub.legacySubToken, ¬ db.resolves token sub.id
  devices : ∀ serverId, ∀ server ∈ db.server serverId, server.isActive = true →
    db.linked serverId sub = true → db.activeDevices sub = []

/-- The keys of rows are unique, and the UUIDs too. -/
structure Db.DistinctKeys (db : Db D) : Prop where
  ids : (db.subscriptions.map Subscription.id).Nodup
  uuids : (db.subscriptions.map Subscription.clientUuid ++ db.devices.map Device.uuid).Nodup

/-- Random texts are not among the UUIDs there are. -/
def Db.Fresh (db : Db D) (texts : Nat → String) : Prop :=
  ∀ n, texts n ∉ db.subscriptions.map Subscription.clientUuid ++ db.devices.map Device.uuid

theorem client_mem_buildDesiredItems {settings : ControlSettings D} {db : Db D}
    {server : Server D} {now : Int} {c : DesiredClient} :
    .client c ∈ buildDesiredItems settings db server now ↔ server.isActive = true ∧
      ∃ sub ∈ db.desiredSubscriptions server.id now, c ∈ db.clientsOf sub := by
  rw [mem_buildDesiredItems]
  refine and_congr_right fun _ => ⟨fun h => ?_, fun ⟨sub, hsub, hc⟩ => ?_⟩
  · rcases h with ⟨c', hc', h⟩ | ⟨l, -, h⟩ | h
    · cases h
      exact List.mem_flatMap.1 hc'
    · cases h
    · obtain ⟨-, route, -, -, hroute⟩ := (mem_buildCascadeItems _ _ _).1 h
      rcases ((mem_routeItems _ _ _).1 hroute).2 with ⟨-, h⟩ | ⟨_, -, h⟩ <;> cases h
  · exact .inl ⟨c, List.mem_flatMap.2 ⟨sub, hsub, hc⟩, rfl⟩

theorem desires_iff {settings : ControlSettings D} {db : Db D} {now : Int} {uuid : String} :
    db.desires settings now uuid ↔ ∃ subId, db.authorises subId now uuid := by
  constructor
  · rintro ⟨serverId, server, hserver, c, hc, huuid⟩
    obtain ⟨ha, sub, hsub, hc⟩ := client_mem_buildDesiredItems.1 hc
    rw [server_id hserver] at hsub
    exact ⟨sub.id, serverId, server, hserver, ha, sub, hsub, rfl, c, hc, huuid⟩
  · rintro ⟨subId, serverId, server, hserver, ha, sub, hsub, -, c, hc, huuid⟩
    rw [← server_id hserver] at hsub
    exact ⟨serverId, server, hserver, c,
      client_mem_buildDesiredItems.2 ⟨ha, sub, hsub, hc⟩, huuid⟩

/-! ## What a rotation leaves -/

/-- The same clients at the same nodes, and maybe at more. -/
structure KeepsClients (db db' : Db D) : Prop where
  subscriptions : db'.subscriptions = db.subscriptions
  devices : db'.devices = db.devices
  linked : ∀ serverId sub, db.linked serverId sub = true → db'.linked serverId sub = true
  servers : ∀ serverId,
    (db'.server serverId).map Server.isActive = (db.server serverId).map Server.isActive

theorem KeepsClients.refl (db : Db D) : KeepsClients db db :=
  ⟨rfl, rfl, fun _ _ h => h, fun _ => rfl⟩

theorem KeepsClients.trans (a b c : Db D) (h : KeepsClients a b) (h' : KeepsClients b c) :
    KeepsClients a c :=
  ⟨h'.subscriptions.trans h.subscriptions, h'.devices.trans h.devices,
    fun i sub hl => h'.linked i sub (h.linked i sub hl),
    fun i => (h'.servers i).trans (h.servers i)⟩

theorem dirtyLink_keeps {a : DbAct D Unit} (h : a ∈ dirtyLink subId loaded result) :
    Preserves KeepsClients a := by
  intro db
  unfold dirtyLink at h
  split at h
  · split at h
    · cases h
    · cases List.mem_singleton.1 h
      unfold setLink
      split
      · refine ⟨rfl, rfl, fun i sub hl => ?_, fun _ => rfl⟩
        rw [Db.linked, List.any_eq_true] at hl ⊢
        obtain ⟨l, hmem, hl⟩ := hl
        refine ⟨_, List.mem_map_of_mem hmem, ?_⟩
        split <;> exact hl
      · exact .refl db
  · cases List.mem_singleton.1 h
    unfold insertLink
    split
    · exact .refl db
    · refine ⟨rfl, rfl, fun i sub hl => ?_, fun _ => rfl⟩
      rw [Db.linked, List.any_append, ← Db.linked, hl, Bool.true_or]

theorem plain_moves (R : Db D → Db D → Prop) :
    Plain (D := D) (Solo.Moves R ·) :=
  ⟨⟨rfl, rfl, fun _ _ => rfl⟩, fun _ => rfl, fun _ => rfl⟩

theorem queryOne_run {q : Db D → Except BotError (Option α)} {w : Solo (Db D)}
    (h : (queryOne source q).run Solo.serve w = (.ok a, w')) : q w.view = .ok a ∧ w' = w := by
  rw [queryOne, Prog.run_performOrRaise] at h
  exact ⟨congrArg Prod.fst h, (congrArg Prod.snd h).symm⟩

theorem ask_run {w : Solo (Db D)}
    (h : (ask : BotProg D String).run Solo.serve w = (.ok text, w')) :
    text = w.outside.texts 0 ∧ w'.view = w.view := by
  cases h
  exact ⟨rfl, rfl⟩

theorem commit_run {w : Solo (Db D)}
    (h : (commit next : BotProg D Unit).run Solo.serve w = (.ok (), w')) :
    w'.committed = w.view ∧ w'.view = w.view := by
  cases h
  exact ⟨rfl, rfl⟩

theorem generateSubToken_unused {w : Solo (Db D)}
    (h : (generateSubToken tries).run Solo.serve w = (.ok token, w')) :
    ∀ sub ∈ w.view.subscriptions, sub.subToken ≠ token := by
  induction tries generalizing w with
  | zero => cases h
  | succ tries ih =>
    obtain ⟨text, w₁, hask, h₁⟩ := Prog.exists_run_bind h
    obtain ⟨taken, w₂, hquery, h₂⟩ := Prog.exists_run_bind h₁
    obtain ⟨-, hview⟩ := ask_run hask
    obtain ⟨hquery, rfl⟩ := queryOne_run hquery
    rw [← hview]
    split at h₂
    · rename_i hnone
      cases h₂
      rw [Option.isNone_iff_eq_none.1 hnone] at hquery
      have hnil := List.map_eq_nil_iff.1 (scalarOneOrNone_none hquery)
      intro sub hmem
      simpa using List.filter_eq_nil_iff.1 hnil sub hmem
    · exact ih h₂

theorem flush_run {pending : Pending D} {w : Solo (Db D)}
    (h : (flush pending).run Solo.serve w = (.ok (), w')) :
    Pending.write pending w.view = (.ok (), w'.view) := by
  rw [flush, Prog.whenever] at h
  split at h
  · rw [execute, Prog.run_performOrRaise] at h
    obtain ⟨hr, rfl⟩ := Prod.mk.inj h
    exact Prod.ext hr rfl
  · rename_i hempty
    cases h
    obtain rfl : pending = [] := by simpa using hempty
    rfl

section Rotation
variable [DecidableEq D] {settings : ControlSettings D}

theorem writeSnapshot_keeps (serverId : Nat) (now : Int) :
    Preserves KeepsClients (writeSnapshot settings [] serverId now) := by
  intro db
  unfold writeSnapshot
  split
  · exact .refl db
  split
  · exact .refl db
  · rename_i snapshot _
    refine ⟨rfl, rfl, fun _ _ h => h, fun i => ?_⟩
    change ((db.addSnapshot snapshot).server i).map Server.isActive = _
    rw [addSnapshot_server, Option.map_map]
    congr 1
    funext s
    simp only [Function.comp_apply]
    split <;> rfl

theorem publishes_moves : Publishes (Solo.Moves KeepsClients ·) settings [] where
  lock serverId db := by
    unfold lockServer
    split <;> exact .refl db
  write serverId now := writeSnapshot_keeps serverId now

theorem delivers_moves : Delivers (Solo.Moves KeepsClients ·) settings where
  plain := plain_moves _
  publishes := publishes_moves
  bulkAdd _ _ := rfl
  links subId loaded results := Preserves.write .refl .trans fun a ha => by
    obtain ⟨r, -, hr⟩ := List.mem_flatMap.1 ha
    exact dirtyLink_keeps hr

/-- The row of the subscription has a new token and a new UUID. -/
structure Rotated (db db' : Db D) (sub : Subscription) (token uuid : String) : Prop where
  subscriptions : db'.subscriptions = (db.setSubscription sub
    { sub with subToken := token, clientUuid := uuid }).subscriptions
  devices : db'.devices = db.devices
  linked : ∀ serverId s, db.linked serverId s = true → db'.linked serverId s = true
  servers : ∀ serverId,
    (db'.server serverId).map Server.isActive = (db.server serverId).map Server.isActive
  unused : ∀ s ∈ db.subscriptions, s.subToken ≠ token

theorem removal_run {w : Solo (Db D)}
    (h : (removeSubscriptionFromServers settings [] sub none).run Solo.serve w = (r, w')) :
    KeepsClients w.view w'.view := by
  have hcall : ∀ agent uuid, Solo.Moves KeepsClients
      (.call (.removeClient agent uuid none) : BotStmt D Bool) := fun _ _ => rfl
  have hclean : Solo.Moves KeepsClients
      (.execute (Pending.write []) : BotStmt D (Except BotError Unit)) := .refl
  have hkeeps := Solo.run_moves (removeSubscriptionFromServers_uses (plain_moves _)
    (publishes_moves : Publishes _ settings []) hcall hclean sub) .refl .trans w
  rwa [h] at hkeeps

theorem sync_run {w : Solo (Db D)}
    (h : (syncSubscriptionToServers settings sub servers).run Solo.serve w = (r, w')) :
    KeepsClients w.view w'.view := by
  have hdelivers : Delivers (Solo.Moves KeepsClients ·) settings := delivers_moves
  have hkeeps := Solo.run_moves (syncSubscriptionToServers_uses hdelivers.brings sub servers)
    .refl .trans w
  rwa [h] at hkeeps

theorem rotateSubscription_run {w w' : Solo (Db D)} {sub : Subscription}
    (h : (rotateSubscription settings sub).run Solo.serve w = (.ok (), w')) :
    ∃ token n, Rotated w.view w'.committed sub token (w.outside.texts n) := by
  obtain ⟨_, w₁, hremove, h₁⟩ := Prog.exists_run_bind h
  obtain ⟨token, w₂, htoken, h₂⟩ := Prog.exists_run_bind h₁
  obtain ⟨uuid, w₃, hask, h₃⟩ := Prog.exists_run_bind h₂
  obtain ⟨_, w₄, hflush, h₄⟩ := Prog.exists_run_bind h₃
  obtain ⟨servers, w₅, hquery, h₅⟩ := Prog.exists_run_bind h₄
  obtain ⟨_, w₆, hsync, hcommit⟩ := Prog.exists_run_bind h₅
  have hkeeps := removal_run hremove
  have hunused := generateSubToken_unused htoken
  rw [hkeeps.subscriptions] at hunused
  have hview₂ : w₂.view = w₁.view := by
    have hsame := Solo.run_moves (generateSubToken_uses (plain_moves Eq).toAsks tokenTries)
      (fun _ => rfl) (fun _ _ _ => Eq.trans) w₁
    rw [htoken] at hsame
    exact hsame.symm
  obtain ⟨huuid, hview₃⟩ := ask_run hask
  -- the UUID is one of the texts that were to come
  obtain ⟨n, hn⟩ : ∃ n, uuid = w.outside.texts n := by
    obtain ⟨m, hm⟩ := Solo.run_texts (removeSubscriptionFromServers settings [] sub none) w
    obtain ⟨n, hn⟩ := Solo.run_texts (generateSubToken tokenTries : BotProg D String) w₁
    rw [hremove] at hm
    rw [htoken] at hn
    exact ⟨0 + n + m, by rw [huuid, hn, hm]⟩
  have hset := dirtySubscription_patches (flush_run hflush)
  have hview₅ : w₅.view = w₄.view := by
    cases hquery
    rfl
  have hkeeps' := sync_run hsync
  rw [hview₅, hset, hview₃, hview₂] at hkeeps'
  obtain ⟨hcommitted, -⟩ := commit_run hcommit
  refine ⟨token, n, ?_⟩
  rw [← hn, hcommitted]
  exact {
    subscriptions := by
      rw [hkeeps'.subscriptions, Db.setSubscription, hkeeps.subscriptions]
      rfl
    devices := hkeeps'.devices.trans hkeeps.devices
    linked := fun i s hl => hkeeps'.linked i s (hkeeps.linked i s hl)
    servers := fun i => (hkeeps'.servers i).trans (hkeeps.servers i)
    unused := hunused }

theorem reissueStatus_run {db : Db D}
    (h : (reissueStatus settings tgId).run Solo.serve (.start db outside) = (.ok .done, w))
    (huser : db.userByTg tgId = .ok (some user))
    (hsub : scalarOneOrNone ((db.activeOf user.id).filter fun s =>
      decide (outside.times 0 < s.expiresAt)) = .ok (some sub)) :
    ∃ token n, Rotated db w.committed sub token (outside.texts n) := by
  obtain ⟨found, w₁, hfound, h₁⟩ := Prog.exists_run_bind h
  obtain ⟨hq, hw₁⟩ := queryOne_run hfound
  rw [Solo.start, huser] at hq
  cases hq
  simp only at h₁
  split at h₁
  · obtain ⟨now, w₂, hclock, h₂⟩ := Prog.exists_run_bind h₁
    cases hclock
    obtain ⟨row, w₃, hrow, h₃⟩ := Prog.exists_run_bind h₂
    obtain ⟨hq, hw₃⟩ := queryOne_run hrow
    rw [hw₁] at hq hw₃
    cases hsub.symm.trans hq
    obtain ⟨done, w₄, hdone, h₄⟩ := Prog.exists_run_bind h₃
    rw [Prog.run_attempt, hw₃] at hdone
    cases done with
    | error e =>
      obtain ⟨_, w₅, -, h₅⟩ := Prog.exists_run_bind h₄
      cases h₅
    | ok u =>
      cases h₄
      obtain ⟨hr, hw⟩ := Prod.mk.inj hdone
      have hrun := rotateSubscription_run (w := (Solo.serve .clock (.start db outside)).2)
        (Prod.ext (Except.ok.inj hr) hw)
      obtain ⟨token, n, hrotated⟩ := hrun
      exact ⟨token, n, hrotated⟩
  · cases h₁

end Rotation

/-! ## What gives access afterwards -/

section Access
variable {db db' : Db D} {sub : Subscription}

theorem Db.DistinctKeys.eq_of_id (h : db.DistinctKeys) (hr : r ∈ db.subscriptions)
    (hs : s ∈ db.subscriptions) (hid : r.id = s.id) : r = s :=
  List.inj_on_of_nodup_map h.ids hr hs hid

theorem Db.DistinctKeys.eq_of_uuid (h : db.DistinctKeys) (hr : r ∈ db.subscriptions)
    (hs : s ∈ db.subscriptions) (huuid : r.clientUuid = s.clientUuid) : r = s :=
  List.inj_on_of_nodup_map (List.nodup_append.1 h.uuids).1 hr hs huuid

theorem Db.DistinctKeys.ne_device (h : db.DistinctKeys) (hr : r ∈ db.subscriptions)
    (hd : d ∈ db.devices) : r.clientUuid ≠ d.uuid :=
  (List.nodup_append.1 h.uuids).2.2 _ (List.mem_map_of_mem hr) _ (List.mem_map_of_mem hd)

theorem resolves_iff {token : String} : db.resolves token subId ↔
    ∃ s, db.subscriptions.filter (fun r => r.answersTo token) = [s] ∧ s.id = subId := by
  refine exists_congr fun s => and_congr_left fun _ => ⟨scalarOneOrNone_eq, fun h => ?_⟩
  rw [getSubscriptionByToken, h]
  rfl

theorem mem_clientUuids {s : Subscription} : (∃ c ∈ db.clientsOf s, c.uuid = uuid) ↔
    s.clientUuid = uuid ∨ ∃ d ∈ db.activeDevices s, d.uuid = uuid := by
  simp [Db.clientsOf]

namespace Rotated
variable (h : Rotated db db' sub token uuid) (hkeys : db.DistinctKeys)
  (hsub : sub ∈ db.subscriptions)
include h hkeys hsub

theorem rows : db'.subscriptions = db.subscriptions.map fun r =>
    if r.id = sub.id then { sub with subToken := token, clientUuid := uuid } else r := by
  rw [h.subscriptions, Db.setSubscription]
  refine List.map_congr_left fun r hr => ?_
  by_cases hid : r.id = sub.id
  · rw [if_pos hid, if_pos hid, hkeys.eq_of_id hr hsub hid]
    have hpatch : ∀ old new : String, AegisVPN.patch old new old = new := by
      intro old new
      rw [AegisVPN.patch]
      split
      · assumption
      · rfl
    simp only [Subscription.patch, hpatch]
    simp [AegisVPN.patch]
  · rw [if_neg hid, if_neg hid]

theorem row_cases (hr : r ∈ db'.subscriptions) :
    r = { sub with subToken := token, clientUuid := uuid } ∨
      r ∈ db.subscriptions ∧ r.id ≠ sub.id := by
  rw [h.rows hkeys hsub] at hr
  obtain ⟨r', hr', rfl⟩ := List.mem_map.1 hr
  split
  · exact .inl rfl
  · rename_i hid
    exact .inr ⟨hr', hid⟩

theorem mem_row : { sub with subToken := token, clientUuid := uuid } ∈ db'.subscriptions := by
  rw [h.rows hkeys hsub]
  exact List.mem_map.2 ⟨sub, hsub, if_pos rfl⟩

/-- Only a legacy token can lead to the row before and after. -/
theorem legacy_of_resolves (hb : db.resolves t sub.id) (ha : db'.resolves t sub.id) :
    sub.legacySubToken = some t := by
  obtain ⟨s, hs, hid⟩ := resolves_iff.1 hb
  obtain ⟨s', hs', hid'⟩ := resolves_iff.1 ha
  obtain ⟨hmem, hans⟩ := List.mem_filter.1 (hs ▸ List.mem_singleton_self s)
  obtain ⟨hmem', hans'⟩ := List.mem_filter.1 (hs' ▸ List.mem_singleton_self s')
  rw [hkeys.eq_of_id hmem hsub hid] at hans
  rcases h.row_cases hkeys hsub hmem' with hrow | ⟨-, hne⟩
  · rw [hrow] at hans'
    simp only [Subscription.answersTo, Bool.and_eq_true, Bool.or_eq_true, beq_iff_eq] at hans hans'
    rcases hans'.1 with htoken | hlegacy
    · rcases hans.1 with hold | hlegacy
      · exact absurd (hold.trans htoken.symm) (h.unused sub hsub)
      · exact hlegacy
    · exact hlegacy
  · exact absurd hid' hne

theorem resolves_legacy (ht : sub.legacySubToken = some t) (hb : db.resolves t sub.id) :
    db'.resolves t sub.id := by
  obtain ⟨s, hs, hid⟩ := resolves_iff.1 hb
  refine resolves_iff.2 ⟨{ sub with subToken := token, clientUuid := uuid }, ?_, rfl⟩
  obtain ⟨hmem, -⟩ := List.mem_filter.1 (hs ▸ List.mem_singleton_self s)
  rw [h.rows hkeys hsub, List.filter_map]
  have hsame : db.subscriptions.filter ((fun r => r.answersTo t) ∘ fun r =>
      if r.id = sub.id then { sub with subToken := token, clientUuid := uuid } else r) =
      db.subscriptions.filter fun r => r.answersTo t := by
    refine List.filter_congr fun r hr => ?_
    simp only [Function.comp_apply]
    split
    · rename_i hrid
      rw [hkeys.eq_of_id hr hsub hrid]
      simp [Subscription.answersTo, ht]
    · rfl
  rw [hsame, hs, List.map_singleton, if_pos hid]

/-- Without a device the old base UUID is all that was let in, and nobody else has it. -/
theorem uuid_gone (huuid : uuid ∉ db.subscriptions.map Subscription.clientUuid ++
      db.devices.map Device.uuid)
    (hno : ∀ serverId, ∀ server ∈ db.server serverId, server.isActive = true →
      db.linked serverId sub = true → db.activeDevices sub = [])
    (hb : db.authorises sub.id now x) : ¬ db'.authorises subId later x := by
  obtain ⟨i, server, hserver, hactive, s, hs, hid, hc⟩ := hb
  obtain ⟨hmem, hs⟩ := List.mem_filter.1 hs
  obtain rfl := hkeys.eq_of_id hmem hsub hid
  simp only [Bool.and_eq_true] at hs
  have hx : s.clientUuid = x := by
    rcases mem_clientUuids.1 hc with hx | ⟨d, hd, -⟩
    · exact hx
    · rw [hno i server hserver hactive hs.1.1] at hd
      cases hd
  rintro ⟨i', server', -, -, r, hr, -, hc'⟩
  rcases mem_clientUuids.1 hc' with hbase | ⟨d, hd, hdx⟩
  · rcases h.row_cases hkeys hsub (List.mem_filter.1 hr).1 with hrow | ⟨hr', hne⟩
    · rw [hrow] at hbase
      rw [show uuid = s.clientUuid from hbase.trans hx.symm] at huuid
      exact huuid (List.mem_append_left _ (List.mem_map_of_mem hsub))
    · exact hne (congrArg _ (hkeys.eq_of_uuid hr' hsub (hbase.trans hx.symm)))
  · have hd' := (List.mem_filter.1 hd).1
    rw [h.devices] at hd'
    exact hkeys.ne_device hsub hd' (hx.trans hdx.symm)

theorem device_stays {d : Device} (hserver : db.server serverId = some server)
    (hactive : server.isActive = true) (hs : sub ∈ db.desiredSubscriptions serverId now)
    (hd : d ∈ db.activeDevices sub) : db'.authorises sub.id now d.uuid := by
  have hserver' := h.servers serverId
  rw [hserver, Option.map_some, Option.map_eq_some_iff] at hserver'
  obtain ⟨server', hserver', hactive'⟩ := hserver'
  refine ⟨serverId, server', hserver', hactive'.trans hactive,
    { sub with subToken := token, clientUuid := uuid }, ?_, rfl, ?_⟩
  · obtain ⟨-, hs⟩ := List.mem_filter.1 hs
    simp only [Bool.and_eq_true] at hs
    have hlinked : db'.linked serverId { sub with subToken := token, clientUuid := uuid } = true :=
      h.linked serverId _ hs.1.1
    exact List.mem_filter.2 ⟨h.mem_row hkeys hsub, by rw [hlinked, hs.1.2, hs.2]; rfl⟩
  · refine mem_clientUuids.2 (.inr ⟨d, ?_, rfl⟩)
    rw [Db.activeDevices, h.devices]
    exact hd

end Rotated

/-- What a reissue leaves behind is the legacy token and the devices. -/
theorem reissue_revokes_iff [DecidableEq D] {settings : ControlSettings D} {outside : Outside}
    (h : (reissueStatus settings tgId).run Solo.serve (.start db outside) = (.ok .done, w))
    (huser : db.userByTg tgId = .ok (some user))
    (hfound : scalarOneOrNone ((db.activeOf user.id).filter fun s =>
      decide (outside.times 0 < s.expiresAt)) = .ok (some sub))
    (hkeys : db.DistinctKeys) (hfresh : db.Fresh outside.texts) :
    Revoked settings db w.committed sub.id (outside.times 0) ↔ NothingElse db sub := by
  obtain ⟨token, n, hrotated⟩ := reissueStatus_run h huser hfound
  have hrow := List.mem_filter.1 (scalarOneOrNone_eq hfound ▸ List.mem_singleton_self sub)
  have hactive := List.mem_filter.1 hrow.1
  have hsub := List.mem_of_mem_filter hactive.1
  constructor
  · intro hrev
    refine ⟨fun t ht hb => hrev.tokens t hb (hrotated.resolves_legacy hkeys hsub ht hb), ?_⟩
    intro i server hserver ha hlinked
    refine List.eq_nil_iff_forall_not_mem.2 fun d hd => ?_
    have hdesired : sub ∈ db.desiredSubscriptions i (outside.times 0) :=
      List.mem_filter.2 ⟨hsub, by rw [hlinked, hactive.2, hrow.2]; rfl⟩
    have hb : db.authorises sub.id (outside.times 0) d.uuid :=
      ⟨i, server, hserver, ha, sub, hdesired, rfl, mem_clientUuids.2 (.inr ⟨d, hd, rfl⟩)⟩
    exact hrev.uuids d.uuid hb _ (Int.le_refl _)
      (desires_iff.2 ⟨sub.id, hrotated.device_stays hkeys hsub hserver ha hdesired hd⟩)
  · rintro ⟨hlegacy, hno⟩
    refine ⟨fun t hb ha => ?_, fun x hb later _ hdesired => ?_⟩
    · exact hlegacy t (hrotated.legacy_of_resolves hkeys hsub hb ha) hb
    · obtain ⟨subId, ha⟩ := desires_iff.1 hdesired
      exact hrotated.uuid_gone hkeys hsub (hfresh n) hno hb ha

end Access

/-! ## A reissue of one subscription -/

def oneRow (legacySubToken : Option String) : Subscription :=
  ⟨1, 1, "4be0", legacySubToken, "u1", 30, 0, 1000, true⟩

def oneSubscription (legacySubToken : Option String) (devices : List Device) :
    Db (List DesiredItem) := { Db.empty with
  users := [⟨1, 11, false, false, none⟩]
  subscriptions := [oneRow legacySubToken]
  links := [⟨1, 1, true⟩]
  devices := devices
  servers := [⟨1, "node", 443, "", "", "", .pull, 0, 0, none, none, .both, true, true⟩] }

/-- The clock stands still, and the texts are a token and a UUID. -/
def oneRotation : Outside := ⟨fun _ => 0, fun n => if n = 0 then "f3a9" else "u2", fun _ => true⟩

theorem oneRotation_fresh {legacy : Option String} (hd : ∀ d ∈ devices, d.uuid = "d1") :
    (oneSubscription legacy devices).Fresh oneRotation.texts := by
  intro n hn
  have htext : oneRotation.texts n = "f3a9" ∨ oneRotation.texts n = "u2" := by
    rw [oneRotation]
    by_cases hn : n = 0
    · exact .inl (if_pos hn)
    · exact .inr (if_neg hn)
  have huuid : oneRotation.texts n = "u1" ∨ oneRotation.texts n = "d1" := by
    rcases List.mem_append.1 hn with hn | hn
    · exact .inl (List.mem_singleton.1 hn)
    · obtain ⟨d, hmem, hd'⟩ := List.mem_map.1 hn
      exact .inr (hd' ▸ hd d hmem)
  rcases htext with h | h <;> rw [h] at huuid <;> revert huuid <;> decide

theorem reissue_revokes_plain : ∃ w,
    (reissueStatus listSettings 11).run Solo.serve (.start (oneSubscription none []) oneRotation) =
      (.ok .done, w) ∧ Revoked listSettings (oneSubscription none []) w.committed 1 0 := by
  have hdone : ((reissueStatus listSettings 11).run Solo.serve
      (.start (oneSubscription none []) oneRotation)).1 = .ok .done := by decide
  refine ⟨_, Prod.ext hdone rfl, (reissue_revokes_iff (Prod.ext hdone rfl) rfl rfl ⟨by decide,
    by decide⟩ (oneRotation_fresh (by decide))).2 ⟨fun t ht => ?_, fun _ _ _ _ _ => rfl⟩⟩
  cases ht

def oneDevice : Device := ⟨1, 1, "d1", "", true, false⟩

/-- A legacy token and the UUID of a device outlive the reissue. -/
theorem reissue_keeps_device : ∃ db w, db.DistinctKeys ∧ db.Fresh oneRotation.texts ∧
    (reissueStatus listSettings 11).run Solo.serve (.start db oneRotation) = (.ok .done, w) ∧
    (db.resolves "91c2" 1 ∧ w.committed.resolves "91c2" 1) ∧
    (db.authorises 1 0 "d1" ∧ w.committed.desires listSettings 0 "d1") ∧
    ¬ Revoked listSettings db w.committed 1 0 := by
  have hdone : ((reissueStatus listSettings 11).run Solo.serve
      (.start (oneSubscription (some "91c2") [oneDevice]) oneRotation)).1 = .ok .done := by
    decide
  have hkeys : (oneSubscription (some "91c2") [oneDevice]).DistinctKeys :=
    ⟨by decide, by decide⟩
  have hbefore : (oneSubscription (some "91c2") [oneDevice]).resolves "91c2" 1 := ⟨_, rfl, rfl⟩
  have hdesired : oneRow (some "91c2") ∈
      (oneSubscription (some "91c2") [oneDevice]).desiredSubscriptions 1 0 := by decide
  have hclient : ∃ c ∈ (oneSubscription (some "91c2") [oneDevice]).clientsOf
      (oneRow (some "91c2")), c.uuid = "d1" := mem_clientUuids.2 (.inr ⟨oneDevice, by decide, rfl⟩)
  obtain ⟨token, n, hrotated⟩ := reissueStatus_run (Prod.ext hdone rfl) rfl rfl
  have htoken := hrotated.resolves_legacy hkeys List.mem_cons_self rfl hbefore
  have hdevice := hrotated.device_stays hkeys List.mem_cons_self rfl rfl hdesired
    (by decide : oneDevice ∈ _)
  exact ⟨_, _, hkeys, oneRotation_fresh (by decide), Prod.ext hdone rfl, ⟨hbefore, htoken⟩,
    ⟨⟨1, _, rfl, rfl, _, hdesired, rfl, hclient⟩, desires_iff.2 ⟨1, hdevice⟩⟩,
    fun hrev => hrev.tokens "91c2" hbefore htoken⟩

end AegisVPN
