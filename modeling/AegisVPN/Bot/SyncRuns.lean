import AegisVPN.Bot.SubscriptionService
import AegisVPN.Control.Publication
import AegisVPN.Library.Runs

namespace AegisVPN
open Library
set_option autoImplicit true

/-! ## Subscriptions, publications and acknowledgements side by side -/

/-- A subscription that is being brought to its servers: the change of its row, the links as they
were loaded, and whether each push succeeded. -/
structure LoadedSync where
  old : Subscription
  new : Subscription
  same : new.id = old.id
  loaded : List SubscriptionServer
  results : List (Nat × Bool)

/-- The database, the snapshots that nodes acknowledged, and what has been loaded but not been
written yet. -/
structure SyncWorld (D : Type) where
  db : Db D
  acked : List (NodeSnapshot D)
  acks : List (Nat × NodeAckRequest D)
  syncs : List LoadedSync

inductive SyncEvent (D : Type)
  | loadSync (old new : Subscription) (serverIds pushed : List Nat)
  | commitSync (i : Nat) (now : Int)
  | publish (serverId : Nat) (now : Int)
  | receiveAck (serverId : Nat) (request : NodeAckRequest D)
  | commitAck (i : Nat)
  | addServer (server : Server D)
  | other (next : Db D)

def NodeSnapshot.serves (snapshot : NodeSnapshot D) (uuid : String) : Bool :=
  snapshot.items.any fun
    | .client c => c.uuid == uuid
    | _ => false

/-- Whether a row is, or belongs to, the server. -/
def Db.namesServer (db : Db D) (serverId : Nat) : Bool :=
  (db.server serverId).isSome || (db.links.any fun l => l.serverId == serverId) ||
    db.snapshots.any fun n => n.serverId == serverId

/-- The columns of a server that publications and acknowledgements work with. -/
def Server.control (server : Server D) : Nat × NodeMode × Nat × Nat × Option D :=
  (server.id, server.controlMode, server.desiredGeneration, server.appliedGeneration,
    server.appliedDigest)

/-- Changes elsewhere: they may delete links, but neither add one nor set a flag, and do not
rotate the UUID of a linked subscription. -/
def Db.Elsewhere (db next : Db D) : Prop :=
  (∀ l ∈ next.links, l ∈ db.links) ∧
  (∀ l ∈ next.links, ∀ sub' ∈ next.subscriptions, sub'.id = l.subscriptionId →
    ∃ sub ∈ db.subscriptions, sub.id = sub'.id ∧ sub.clientUuid = sub'.clientUuid) ∧
  next.snapshots = db.snapshots ∧ next.servers.map Server.control = db.servers.map Server.control

section World
variable [DecidableEq D] (settings : ControlSettings D)

instance decidableElsewhere (db next : Db D) : Decidable (db.Elsewhere next) :=
  inferInstanceAs (Decidable (_ ∧ _))

/-- A push to a pull node is not even tried. -/
def syncResults (db : Db D) (serverIds pushed : List Nat) : List (Nat × Bool) :=
  (serverIds.filterMap db.server).map fun server =>
    (server.id, pushesTo server && pushed.contains server.id)

def LoadedSync.writes (sync : LoadedSync) : Pending D :=
  dirtySubscription sync.old sync.new ++
    sync.results.flatMap (dirtyLink sync.old.id sync.loaded)

/-- The rest of a synchronisation, from its first write to its commit. -/
def syncTransaction (sync : LoadedSync) (now : Int) : DbAct D Unit :=
  (Pending.write sync.writes).andThen
    (publishAll settings now (sortedIds (sync.results.map Prod.fst)))

def SyncWorld.step (w : SyncWorld D) : SyncEvent D → SyncWorld D
  | .loadSync old new serverIds pushed =>
    let results := syncResults w.db serverIds pushed
    let loaded := w.db.links.filter fun l =>
      l.subscriptionId == old.id && (results.map Prod.fst).contains l.serverId
    { w with syncs := w.syncs ++ [⟨old, { new with id := old.id }, rfl, loaded, results⟩] }
  | .commitSync i now =>
    match w.syncs[i]? with
    | none => w
    | some sync => { w with
        db := transact (syncTransaction settings sync now) w.db, syncs := w.syncs.eraseIdx i }
  | .publish serverId now => { w with db := transact (publishNow settings serverId now) w.db }
  | .receiveAck serverId request =>
    match checkAck w.db serverId request with
    | .error _ => w
    | .ok status => { w with
        acked := w.acked ++
          if request.success then (w.db.snapshot serverId request.generation).toList else []
        acks := w.acks ++ if status = .ok then [(serverId, request)] else [] }
  | .commitAck i =>
    match w.acks[i]? with
    | none => w
    | some ack => { w with db := writeAck ack.1 ack.2 w.db, acks := w.acks.eraseIdx i }
  | .addServer server =>
    if w.db.namesServer server.id then w
    else { w with db := { w.db with servers := w.db.servers ++ [{ server with
        desiredGeneration := 0, appliedGeneration := 0, appliedDigest := none }] } }
  | .other next => if w.db.Elsewhere next then { w with db := next } else w

def SyncWorld.fresh : SyncWorld D := ⟨Db.empty, [], [], []⟩

end World

/-! ## What the writes of a synchronisation leave -/

section Writes
variable {db db' : Db D}

/-- The flags that a synchronisation sets are those of pushes that succeeded. -/
theorem dirtyLink_cases {subId : Nat} {loaded : List SubscriptionServer} {r : Nat × Bool}
    (h : Pending.write (dirtyLink subId loaded r) db = (.ok (), db')) :
    (∃ l, (loaded.find? fun l => l.serverId == r.1) = some l ∧ l.isSynced = r.2 ∧ db' = db) ∨
    (∃ l, (loaded.find? fun l => l.serverId == r.1) = some l ∧ l.isSynced ≠ r.2 ∧
      db' = { db with links := db.links.map fun l =>
        if l.subscriptionId = subId ∧ l.serverId = r.1 then { l with isSynced := r.2 } else l }) ∨
    ((loaded.find? fun l => l.serverId == r.1) = none ∧
      db' = { db with links := db.links ++ [⟨subId, r.1, r.2⟩] }) := by
  rw [dirtyLink] at h
  cases hfind : loaded.find? fun l => l.serverId == r.1 with
  | none =>
    rw [hfind] at h
    simp only [Pending.write, DbAct.andThen, insertLink] at h
    split at h
    · cases h
    · cases h
      rename_i hx
      split at hx <;> cases hx
      exact .inr (.inr ⟨rfl, rfl⟩)
  | some l =>
    rw [hfind] at h
    simp only at h
    by_cases hsame : l.isSynced = r.2
    · rw [if_pos hsame] at h
      cases h
      exact .inl ⟨l, rfl, hsame, rfl⟩
    · rw [if_neg hsame] at h
      simp only [Pending.write, DbAct.andThen, setLink] at h
      split at h
      · cases h
      · cases h
        rename_i hx
        split at hx <;> cases hx
        exact .inr (.inl ⟨l, rfl, hsame, rfl⟩)

theorem dirtySubscription_write {old new : Subscription}
    (h : Pending.write (dirtySubscription old new) db = (.ok (), db')) :
    db' = { db with subscriptions := db'.subscriptions } ∧
    ∀ r' ∈ db'.subscriptions, ∃ r ∈ db.subscriptions, r.id = r'.id ∧ r'.clientUuid =
      if r.id = old.id ∧ old.clientUuid ≠ new.clientUuid then new.clientUuid
      else r.clientUuid := by
  cases dirtySubscription_patches h
  refine ⟨rfl, fun r' hr' => ?_⟩
  obtain ⟨r, hr, rfl⟩ := List.mem_map.1 hr'
  refine ⟨r, hr, ?_⟩
  by_cases hid : r.id = old.id
  · rw [if_pos hid]
    refine ⟨rfl, ?_⟩
    by_cases huuid : old.clientUuid = new.clientUuid
    · rw [if_neg fun hne => hne.2 huuid]
      exact if_pos huuid
    · rw [if_pos ⟨hid, huuid⟩]
      exact if_neg huuid
  · rw [if_neg hid, if_neg fun hne => hid hne.1]
    exact ⟨rfl, rfl⟩

/-- Of the links that a server has after the flags were written, those that are synced were it
before, unless a push to it succeeded; a link that was loaded as synced is not among them. -/
theorem dirtyLinks_write {subId : Nat} {loaded : List SubscriptionServer}
    {results : List (Nat × Bool)}
    (h : Pending.write (results.flatMap (dirtyLink subId loaded)) db = (.ok (), db')) :
    db' = { db with links := db'.links } ∧
    ∀ link ∈ db'.links, link.isSynced = true →
      (∀ r ∈ results, r.1 = link.serverId → r.2 = false) →
      link ∈ db.links ∧ (link.subscriptionId = subId → ∀ r ∈ results, r.1 = link.serverId →
        ∀ l, (loaded.find? fun l => l.serverId == link.serverId) = some l →
          l.isSynced = false) := by
  induction results generalizing db with
  | nil =>
    cases h
    exact ⟨rfl, fun link hmem _ _ => ⟨hmem, fun _ r hr => by cases hr⟩⟩
  | cons r results ih =>
    rw [List.flatMap_cons] at h
    obtain ⟨db₁, hone, hrest⟩ := write_split h
    obtain ⟨hframe, hlinks⟩ := ih hrest
    have hframe₁ : db₁ = { db with links := db₁.links } := by
      rcases dirtyLink_cases hone with ⟨l, -, -, rfl⟩ | ⟨l, -, -, rfl⟩ | ⟨-, rfl⟩ <;> rfl
    refine ⟨by rw [hframe, hframe₁], fun link hmem hsynced hfalse => ?_⟩
    obtain ⟨hmem₁, hnot⟩ := hlinks link hmem hsynced fun r' hr' =>
      hfalse r' (List.mem_cons_of_mem _ hr')
    -- the head leaves the link alone, and it is not one that was loaded as synced
    have hhead : link ∈ db.links ∧ (link.subscriptionId = subId → r.1 = link.serverId →
        ∀ l, (loaded.find? fun l => l.serverId == link.serverId) = some l →
          l.isSynced = false) := by
      have hr : r.1 = link.serverId → r.2 = false := hfalse r List.mem_cons_self
      rcases dirtyLink_cases hone with ⟨l, hfind, hsame, rfl⟩ | ⟨l, hfind, hdiff, rfl⟩ |
        ⟨hfind, rfl⟩
      · refine ⟨hmem₁, fun _ hid l' hl' => ?_⟩
        rw [← hid, hfind] at hl'
        cases hl'
        exact hsame.trans (hr hid)
      · obtain ⟨link₀, hmem₀, hlink⟩ := List.mem_map.1 hmem₁
        split at hlink
        · rename_i hkey
          have hfalse' := hr (hlink ▸ hkey.2.symm)
          rw [← hlink, hfalse'] at hsynced
          cases hsynced
        · rename_i hkey
          rw [hlink] at hmem₀ hkey
          exact ⟨hmem₀, fun hsub hid => absurd ⟨hsub, hid.symm⟩ hkey⟩
      · rcases List.mem_append.1 hmem₁ with hmem₀ | hnew
        · refine ⟨hmem₀, fun _ hid l hl => ?_⟩
          rw [← hid, hfind] at hl
          cases hl
        · rw [List.mem_singleton.1 hnew] at hsynced hr
          rw [hr rfl] at hsynced
          cases hsynced
    refine ⟨hhead.1, fun hsub r' hr' hid => ?_⟩
    rcases List.mem_cons.1 hr' with rfl | hr'
    · exact hhead.2 hsub hid
    · exact hnot hsub r' hr' hid

theorem dirtyLinks_elsewhere {subId : Nat} {loaded : List SubscriptionServer}
    {results : List (Nat × Bool)}
    (h : Pending.write (results.flatMap (dirtyLink subId loaded)) db = (.ok (), db'))
    (hnot : ∀ r ∈ results, r.1 ≠ serverId) {link : SubscriptionServer}
    (hlink : link ∈ db'.links) (hid : link.serverId = serverId) : link ∈ db.links := by
  induction results generalizing db with
  | nil =>
    cases h
    exact hlink
  | cons r results ih =>
    rw [List.flatMap_cons] at h
    obtain ⟨db₁, hone, hrest⟩ := write_split h
    have hmem := ih hrest fun r' hr' => hnot r' (List.mem_cons_of_mem _ hr')
    have hne := hnot r List.mem_cons_self
    rcases dirtyLink_cases hone with ⟨l, -, -, rfl⟩ | ⟨l, -, -, rfl⟩ | ⟨-, rfl⟩
    · exact hmem
    · obtain ⟨link₀, hmem₀, hlink⟩ := List.mem_map.1 hmem
      split at hlink
      · rename_i hkey
        rw [← hlink] at hid
        exact absurd (hkey.2.symm.trans hid) hne
      · exact hlink ▸ hmem₀
    · rcases List.mem_append.1 hmem with hmem | hnew
      · exact hmem
      · rw [List.mem_singleton.1 hnew] at hid
        exact absurd hid hne

end Writes

theorem syncResults_pull {db : Db D} {serverIds pushed : List Nat} {r : Nat × Bool}
    (hr : r ∈ syncResults db serverIds pushed) (h : db.server r.1 = some server)
    (hpull : server.controlMode = .pull) : r.2 = false := by
  obtain ⟨s, hs, rfl⟩ := List.mem_map.1 hr
  obtain ⟨i, -, hi⟩ := List.mem_filterMap.1 hs
  rw [server_id hi, hi] at h
  cases h
  simp [pushesTo, hpull]

/-! ## Servers keep their mode -/

theorem server_of_control {db next : Db D}
    (h : next.servers.map Server.control = db.servers.map Server.control) (serverId : Nat) :
    (next.server serverId).map Server.control = (db.server serverId).map Server.control :=
  server_of_map (fun _ _ hc => congrArg Prod.fst hc) h serverId

end AegisVPN
