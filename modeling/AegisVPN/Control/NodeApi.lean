import AegisVPN.Control.AckRuns

namespace AegisVPN
open Library
set_option autoImplicit true

/-! ## The endpoints for nodes -/

structure NodeTelemetry where
  serverId : Nat
  sequence : Nat
  payload : List (String × Json)
  deriving DecidableEq

/-- The columns of a server's row that only tell of the contact with its node: no publication
reads them. -/
structure NodeContact where
  serverId : Nat
  lastSeenAt : Option Int
  lastReconciledAt : Option Int
  lastError : Option String
  agentVersion : Option String
  deriving DecidableEq

/-- What the endpoints work with. -/
structure ControlPlane (D : Type) where
  db : Db D
  telemetry : List NodeTelemetry
  contacts : List NodeContact

structure NodeSyncRequest (D : Type) where
  appliedGeneration : Nat
  appliedDigest : Option D
  capabilities : List String

inductive NodeRequest (D : Type)
  | sync (request : NodeSyncRequest D) (agentVersion : String)
  | page (generation pageIndex : Nat)
  | ack (request : NodeAckRequest D) (error : Option String)
  | telemetry (sequence : Nat) (payload : List (String × Json))

/-- `noChange` ends one round of a long poll, which then goes on, or is answered by 204. -/
inductive NodeResponse (D : Type)
  | inactiveNode
  | manifest (manifest : SnapshotManifest D)
  | noChange
  | page (page : SnapshotPage D)
  | pageNotFound
  | acknowledged (answer : Except AckError AckStatus)
  | payloadTooLarge
  | ok
  | duplicate
  | serverError

section Api
variable [DecidableEq D] (settings : ControlSettings D) (maxTelemetryBytes : Nat)

/-! ### Pages -/

def NodeSnapshot.pageCount (snapshot : NodeSnapshot D) : Nat :=
  (snapshot.items.length + snapshot.pageSize - 1) / snapshot.pageSize

def NodeSnapshot.pageItems (snapshot : NodeSnapshot D) (pageIndex : Nat) : List DesiredItem :=
  (snapshot.items.drop (pageIndex * snapshot.pageSize)).take snapshot.pageSize

def NodeSnapshot.manifest (snapshot : NodeSnapshot D) : SnapshotManifest D where
  schemaVersion := snapshot.schemaVersion
  generation := snapshot.generation
  digest := snapshot.digest
  itemCount := snapshot.items.length
  pageCount := snapshot.pageCount
  pageSize := snapshot.pageSize

def NodeSnapshot.page (snapshot : NodeSnapshot D) (pageIndex : Nat) : SnapshotPage D where
  schemaVersion := snapshot.schemaVersion
  generation := snapshot.generation
  pageIndex := pageIndex
  pageDigest := settings.digest (snapshot.pageItems pageIndex)
  items := snapshot.pageItems pageIndex

/-- The ranges of the item classes of a response, which are checked before it is sent. -/
def schemaAccepts : DesiredItem → Bool
  | .client _ => true
  | .connLimit _ => true
  | .cascadeService s => 1 ≤ s.routeId && 1 ≤ s.revision && s.configDigest.length == 64
  | .cascadeRoute r => 1 ≤ r.routeId && 1 ≤ r.revision && r.configDigest.length == 64 &&
      r.inboundTags ≠ [] && r.strayTags.isEmpty && r.exits ≠ [] &&
      r.exits.all fun e => 0 ≤ e.position && 1 ≤ e.port && e.port ≤ 65535

def getSnapshotPage (serverId generation pageIndex : Nat) (db : Db D) : NodeResponse D :=
  match db.snapshot serverId generation with
  | none => .pageNotFound
  | some snapshot =>
    if pageIndex < snapshot.pageCount then
      if (snapshot.pageItems pageIndex).all schemaAccepts then
        .page (snapshot.page settings pageIndex)
      else .serverError
    else .pageNotFound

/-! ### Synchronisation -/

def sortedSet (features : List String) : List String :=
  features.dedup.insertionSort fun a b => textBefore b a = false

def setFeatures (serverId : Nat) (features : List String) (db : Db D) : Db D :=
  { db with servers := db.servers.map fun s =>
      if s.id = serverId then { s with features := some features } else s }

/-- What a round commits: changed capabilities, and a snapshot if there is none yet or if the
capabilities have changed. -/
def syncTransactionOf (serverId : Nat) (capabilities : List String) (now : Int)
    (server : Server D) : DbAct D Unit := fun db =>
  if server.features = some (sortedSet capabilities) then
    if (db.latestSnapshot serverId).isNone then publishNow settings serverId now db
    else (.ok (), db)
  else publishNow settings serverId now (setFeatures serverId (sortedSet capabilities) db)

def answerSync (serverId : Nat) (request : NodeSyncRequest D) (db : Db D) : NodeResponse D :=
  match db.latestSnapshot serverId with
  | none => .serverError
  | some snapshot =>
    if request.appliedGeneration < snapshot.generation ∨
        request.appliedDigest ≠ some snapshot.digest then .manifest snapshot.manifest
    else .noChange

/-- One round of the loop. -/
def syncNode (serverId : Nat) (request : NodeSyncRequest D) (now : Int) (db : Db D) :
    NodeResponse D × Db D :=
  match db.server serverId with
  | none => (.inactiveNode, db)
  | some server =>
    if publishesFor server then
      match syncTransactionOf settings serverId request.capabilities now server db with
      | (.ok _, db') => (answerSync serverId request db', db')
      | (.error _, _) => (.serverError, db)
    else (.inactiveNode, db)

/-! ### Telemetry -/

def NodeTelemetry.renew (serverId sequence : Nat) (payload : List (String × Json))
    (row : NodeTelemetry) : NodeTelemetry :=
  if row.serverId = serverId then ⟨serverId, sequence, payload⟩ else row

def receiveTelemetry (serverId sequence : Nat) (payload : List (String × Json))
    (state : ControlPlane D) : NodeResponse D × ControlPlane D :=
  if maxTelemetryBytes < (Json.obj payload).canonical.utf8ByteSize then (.payloadTooLarge, state)
  else
    match state.db.server serverId with
    | none => (.inactiveNode, state)
    | some _ =>
      match state.telemetry.find? fun t => t.serverId == serverId with
      | none =>
        (.ok, { state with telemetry := state.telemetry ++ [⟨serverId, sequence, payload⟩] })
      | some telemetry =>
        if sequence ≤ telemetry.sequence then (.duplicate, state)
        else (.ok, { state with
          telemetry := state.telemetry.map fun t => t.renew serverId sequence payload })

/-! ### Requests -/

/-- A heartbeat is written when the last one is old enough. -/
def NodeContact.heartbeat (heartbeatSeconds now : Int) (row : NodeContact) : Option Int :=
  if row.lastSeenAt.all fun seen => max 1 heartbeatSeconds ≤ now - seen then some now
  else row.lastSeenAt

/-- What a request and its answer leave in the columns of the node. -/
def NodeContact.after (heartbeatSeconds now : Int) (row : NodeContact) :
    NodeRequest D → NodeResponse D → NodeContact
  | .sync _ agentVersion, .manifest _ | .sync _ agentVersion, .noChange =>
    { row with lastSeenAt := row.heartbeat heartbeatSeconds now, agentVersion := some agentVersion }
  | .ack _ error, .acknowledged (.ok .errorRecorded) =>
    { row with
      lastSeenAt := some now
      lastError := (error.filter (· ≠ "")).orElse fun _ => some "reconciliation failed" }
  | .ack _ _, .acknowledged (.ok .duplicate) => { row with lastSeenAt := some now }
  | .ack _ _, .acknowledged (.ok .ok) =>
    { row with lastSeenAt := some now, lastReconciledAt := some now, lastError := none }
  | .telemetry _ _, .ok | .telemetry _ _, .duplicate => { row with lastSeenAt := some now }
  | _, _ => row

def noteContact (heartbeatSeconds : Int) (serverId : Nat) (now : Int) (request : NodeRequest D)
    (response : NodeResponse D) (contacts : List NodeContact) : List NodeContact :=
  contacts.map fun row =>
    if row.serverId = serverId then row.after heartbeatSeconds now request response else row

/-- What the handlers do with the tables. -/
def dispatchNode (serverId : Nat) (now : Int) (state : ControlPlane D) :
    NodeRequest D → NodeResponse D × ControlPlane D
  | .sync request _ =>
    let r := syncNode settings serverId request now state.db
    (r.1, { state with db := r.2 })
  | .page generation pageIndex =>
    (getSnapshotPage settings serverId generation pageIndex state.db, state)
  | .ack request _ =>
    let r := acknowledgeSnapshot serverId request state.db
    (.acknowledged r.1, { state with db := r.2 })
  | .telemetry sequence payload =>
    receiveTelemetry maxTelemetryBytes serverId sequence payload state
/-- A request that was accepted as one of the server. -/
def handleNode (heartbeatSeconds : Int) (serverId : Nat) (now : Int) (state : ControlPlane D)
    (request : NodeRequest D) : NodeResponse D × ControlPlane D :=
  let r := dispatchNode settings maxTelemetryBytes serverId now state request
  (r.1, { r.2 with contacts := noteContact heartbeatSeconds serverId now request r.1 r.2.contacts })

end Api

/-! ## Rows of one server -/

/-- The databases differ at most in the snapshots and the acknowledgements of other servers. -/
structure SameNodeRows (serverId : Nat) (d e : Db D) : Prop where
  rest : e = { d with acks := e.acks, snapshots := e.snapshots }
  snapshots : (e.snapshots.filter fun n => n.serverId == serverId) =
    d.snapshots.filter fun n => n.serverId == serverId
  acks : (e.acks.filter fun a => a.serverId == serverId) =
    d.acks.filter fun a => a.serverId == serverId

/-- Other servers keep their rows, links, snapshots and acknowledgements, and no other table
changes. -/
structure SparesNodeRows (serverId : Nat) (d e : Db D) : Prop where
  rest : e = { d with
    servers := e.servers, links := e.links, acks := e.acks, snapshots := e.snapshots }
  servers : (e.servers.filter fun s => s.id != serverId) =
    d.servers.filter fun s => s.id != serverId
  links : (e.links.filter fun l => l.serverId != serverId) =
    d.links.filter fun l => l.serverId != serverId
  snapshots : (e.snapshots.filter fun n => n.serverId != serverId) =
    d.snapshots.filter fun n => n.serverId != serverId
  acks : (e.acks.filter fun a => a.serverId != serverId) =
    d.acks.filter fun a => a.serverId != serverId

/-- The states differ at most in the rows of other servers. -/
structure SameFor (serverId : Nat) (p q : ControlPlane D) : Prop where
  rows : SameNodeRows serverId p.db q.db
  telemetry : (q.telemetry.filter fun t => t.serverId == serverId) =
    p.telemetry.filter fun t => t.serverId == serverId
  contacts : (q.contacts.filter fun c => c.serverId == serverId) =
    p.contacts.filter fun c => c.serverId == serverId

/-- Nothing that belongs to another server has changed. -/
structure SparesOthers (serverId : Nat) (p q : ControlPlane D) : Prop where
  rows : SparesNodeRows serverId p.db q.db
  telemetry : (q.telemetry.filter fun t => t.serverId != serverId) =
    p.telemetry.filter fun t => t.serverId != serverId
  contacts : (q.contacts.filter fun c => c.serverId != serverId) =
    p.contacts.filter fun c => c.serverId != serverId

section Rows
variable {d e : Db D}

theorem SparesNodeRows.refl (serverId : Nat) (d : Db D) : SparesNodeRows serverId d d :=
  ⟨rfl, rfl, rfl, rfl, rfl⟩

theorem SparesNodeRows.trans (h : SparesNodeRows serverId d e) (h' : SparesNodeRows serverId e f) :
    SparesNodeRows serverId d f where
  rest := by
    rw [h'.rest, h.rest]
  servers := h'.servers.trans h.servers
  links := h'.links.trans h.links
  snapshots := h'.snapshots.trans h.snapshots
  acks := h'.acks.trans h.acks

theorem SameNodeRows.server (h : SameNodeRows serverId d e) (i : Nat) :
    e.server i = d.server i := by
  rw [h.rest]
  rfl

theorem SameNodeRows.snapshot (h : SameNodeRows serverId d e) (generation : Nat) :
    e.snapshot serverId generation = d.snapshot serverId generation := by
  have hfind : ∀ db : Db D, db.snapshot serverId generation =
      (db.snapshots.filter fun n => n.serverId == serverId).find? fun n =>
        n.generation == generation := by
    intro db
    rw [List.find?_filter]
    simp only [Db.snapshot, Bool.decide_and, Bool.decide_eq_true]
  rw [hfind, hfind, h.snapshots]

theorem SameNodeRows.latestSnapshot (h : SameNodeRows serverId d e) :
    e.latestSnapshot serverId = d.latestSnapshot serverId := by
  rw [Db.latestSnapshot, Db.latestSnapshot, h.snapshots]

theorem SameNodeRows.items (h : SameNodeRows serverId d e) (settings : ControlSettings D)
    (server : Server D) (now : Int) :
    buildDesiredItems settings e server now = buildDesiredItems settings d server now := by
  rw [h.rest]
  rfl

theorem SameNodeRows.addSnapshot (h : SameNodeRows serverId d e) (snapshot : NodeSnapshot D) :
    SameNodeRows serverId (d.addSnapshot snapshot) (e.addSnapshot snapshot) where
  rest := by
    rw [h.rest]
    rfl
  snapshots := by
    simp only [Db.addSnapshot, List.filter_append, h.snapshots]
  acks := h.acks

theorem SameNodeRows.setFeatures (h : SameNodeRows serverId d e) (i : Nat)
    (features : List String) :
    SameNodeRows serverId (setFeatures i features d) (setFeatures i features e) where
  rest := by
    rw [h.rest]
    rfl
  snapshots := h.snapshots
  acks := h.acks

theorem filter_own_others (f : α → Nat) (serverId : Nat) (l : List α) :
    ((l.filter fun a => f a != serverId).filter fun a => f a == serverId) = [] := by
  rw [List.filter_filter]
  refine List.filter_eq_nil_iff.2 fun a _ => ?_
  simp

theorem renew_serverId (serverId sequence : Nat) (payload : List (String × Json))
    (row : NodeTelemetry) : (row.renew serverId sequence payload).serverId = row.serverId := by
  rw [NodeTelemetry.renew]
  split
  · rename_i hid
    exact hid.symm
  · rfl

theorem filter_map_keyed (key : α → Nat) {f : α → α} (hkey : ∀ a, key (f a) = key a)
    (p : Nat → Bool) (l : List α) :
    ((l.map f).filter fun a => p (key a)) = (l.filter fun a => p (key a)).map f := by
  rw [List.filter_map]
  congr 1
  refine List.filter_congr fun a _ => ?_
  rw [Function.comp_apply, hkey]

theorem filter_map_others (key : α → Nat) {f : α → α} (hkey : ∀ a, key (f a) = key a)
    {serverId : Nat} (hother : ∀ a, key a ≠ serverId → f a = a) (l : List α) :
    ((l.map f).filter fun a => key a != serverId) = l.filter fun a => key a != serverId := by
  rw [filter_map_keyed key hkey (· != serverId)]
  refine (List.map_congr_left fun a ha => ?_).trans (List.map_id _)
  exact hother a (bne_iff_ne.1 (List.mem_filter.1 ha).2)

theorem after_serverId (heartbeatSeconds now : Int) (row : NodeContact) (request : NodeRequest D)
    (response : NodeResponse D) :
    (row.after heartbeatSeconds now request response).serverId = row.serverId := by
  rw [NodeContact.after.eq_def]
  split <;> rfl

theorem contact_serverId (heartbeatSeconds : Int) (serverId : Nat) (now : Int)
    (request : NodeRequest D) (response : NodeResponse D) (row : NodeContact) :
    (if row.serverId = serverId then row.after heartbeatSeconds now request response
      else row).serverId = row.serverId := by
  split
  · exact after_serverId heartbeatSeconds now row request response
  · rfl

theorem SameNodeRows.prune (h : SameNodeRows serverId d e) (generation : Nat) :
    ((pruneAcknowledgedSnapshots serverId generation e).snapshots.filter fun n =>
      n.serverId == serverId) =
    (pruneAcknowledgedSnapshots serverId generation d).snapshots.filter fun n =>
      n.serverId == serverId := by
  rw [pruneAcknowledgedSnapshots, pruneAcknowledgedSnapshots]
  split
  · exact h.snapshots
  · rw [List.filter_comm, h.snapshots, List.filter_comm]

theorem prune_others (serverId generation : Nat) (db : Db D) :
    ((pruneAcknowledgedSnapshots serverId generation db).snapshots.filter fun n =>
      n.serverId != serverId) = db.snapshots.filter fun n => n.serverId != serverId := by
  rw [pruneAcknowledgedSnapshots]
  split
  · rfl
  · rw [List.filter_filter]
    refine List.filter_congr fun n _ => ?_
    by_cases hid : n.serverId = serverId
    · simp [hid]
    · simp [hid]

theorem SameNodeRows.writeAck (h : SameNodeRows serverId d e) (request : NodeAckRequest D) :
    SameNodeRows serverId (writeAck serverId request d) (writeAck serverId request e) where
  rest := by
    rw [h.rest]
    simp only [AegisVPN.writeAck, pruneAcknowledgedSnapshots]
    split <;> rfl
  snapshots := by
    rw [(writeAck_spec serverId request e).2.2.2, (writeAck_spec serverId request d).2.2.2]
    exact h.prune request.generation
  acks := by
    rw [writeAck_acks, writeAck_acks, h.snapshot, List.filter_append, List.filter_append,
      filter_own_others, filter_own_others]

theorem writeAck_spares (serverId : Nat) (request : NodeAckRequest D) (db : Db D) :
    SparesNodeRows serverId db (writeAck serverId request db) where
  rest := by
    simp only [writeAck, pruneAcknowledgedSnapshots]
    split <;> rfl
  servers := by
    have hservers : (writeAck serverId request db).servers =
        (setApplied serverId request db).servers := by
      simp only [writeAck, pruneAcknowledgedSnapshots]
      split <;> rfl
    rw [hservers]
    refine filter_map_others Server.id (fun s => ?_) (fun s hs => if_neg hs) db.servers
    split <;> rfl
  links := by
    rw [(writeAck_spec serverId request db).1]
    refine filter_map_others SubscriptionServer.serverId (fun l => ?_) (fun l hl => if_neg hl)
      db.links
    split <;> rfl
  snapshots := by
    rw [(writeAck_spec serverId request db).2.2.2]
    exact prune_others serverId request.generation db
  acks := by
    rw [writeAck_acks, List.filter_append, List.filter_filter]
    have hnew : ∀ l : List (Nat × (Nat × String)), ((l.map fun r => (⟨r.1, serverId, r.2.1, r.2.2,
        request.generation⟩ : CascadeRouteAck)).filter fun a => a.serverId != serverId) = [] := by
      intro l
      refine List.filter_eq_nil_iff.2 fun a ha => ?_
      obtain ⟨r, -, rfl⟩ := List.mem_map.1 ha
      simp
    rw [hnew, List.append_nil]
    simp only [Bool.and_self]

theorem SameNodeRows.getSnapshotPage {settings : ControlSettings D}
    (h : SameNodeRows serverId d e) (generation pageIndex : Nat) :
    getSnapshotPage settings serverId generation pageIndex e =
      getSnapshotPage settings serverId generation pageIndex d := by
  rw [AegisVPN.getSnapshotPage, AegisVPN.getSnapshotPage, h.snapshot]

theorem SameFor.receiveTelemetry {p q : ControlPlane D} (h : SameFor serverId p q)
    (maxTelemetryBytes sequence : Nat) (payload : List (String × Json)) :
    (receiveTelemetry maxTelemetryBytes serverId sequence payload q).1 =
      (receiveTelemetry maxTelemetryBytes serverId sequence payload p).1 ∧
    SameFor serverId (receiveTelemetry maxTelemetryBytes serverId sequence payload p).2
      (receiveTelemetry maxTelemetryBytes serverId sequence payload q).2 := by
  have hfind : (q.telemetry.find? fun t => t.serverId == serverId) =
      p.telemetry.find? fun t => t.serverId == serverId := by
    rw [← List.head?_filter, ← List.head?_filter, h.telemetry]
  rw [AegisVPN.receiveTelemetry, AegisVPN.receiveTelemetry, h.rows.server, hfind]
  split
  · exact ⟨rfl, h⟩
  · cases p.db.server serverId with
    | none => exact ⟨rfl, h⟩
    | some server =>
      cases p.telemetry.find? fun t => t.serverId == serverId with
      | none =>
        refine ⟨rfl, h.rows, ?_, h.contacts⟩
        rw [List.filter_append, List.filter_append, h.telemetry]
      | some telemetry =>
        dsimp only
        split
        · exact ⟨rfl, h⟩
        · refine ⟨rfl, h.rows, ?_, h.contacts⟩
          have hown := filter_map_keyed NodeTelemetry.serverId
            (renew_serverId serverId sequence payload) (· == serverId)
          exact (hown q.telemetry).trans ((congrArg _ h.telemetry).trans (hown p.telemetry).symm)

theorem receiveTelemetry_spares (maxTelemetryBytes serverId sequence : Nat)
    (payload : List (String × Json)) (state : ControlPlane D) :
    SparesOthers serverId state
      (receiveTelemetry maxTelemetryBytes serverId sequence payload state).2 := by
  have hsame : SparesOthers serverId state state := ⟨.refl serverId state.db, rfl, rfl⟩
  rw [receiveTelemetry]
  split
  · exact hsame
  · cases state.db.server serverId with
    | none => exact hsame
    | some server =>
      cases state.telemetry.find? fun t => t.serverId == serverId with
      | none =>
        refine ⟨.refl serverId state.db, ?_, rfl⟩
        rw [List.filter_append]
        simp
      | some telemetry =>
        dsimp only
        split
        · exact hsame
        · exact ⟨.refl serverId state.db, filter_map_others NodeTelemetry.serverId
            (renew_serverId serverId sequence payload) (fun t ht => if_neg ht) state.telemetry, rfl⟩

end Rows

/-! ## What each endpoint reads and changes -/

section Endpoints
variable [DecidableEq D] {settings : ControlSettings D} {d e : Db D}

theorem SameNodeRows.nextSnapshot (h : SameNodeRows serverId d e) {server : Server D}
    (hid : server.id = serverId) (now : Int) :
    nextSnapshot settings e server now = nextSnapshot settings d server now := by
  have hl : e.latestSnapshot server.id = d.latestSnapshot server.id := by
    rw [hid]
    exact h.latestSnapshot
  rw [AegisVPN.nextSnapshot, AegisVPN.nextSnapshot, h.items, hl]

theorem publishNow_eq (serverId : Nat) (now : Int) (db : Db D) :
    publishNow settings serverId now db =
      if (db.server serverId).any publishesFor then
        if settings.pageSize < 1 then (.error .value, db)
        else (.ok (), (((db.server serverId).bind fun server =>
          nextSnapshot settings db server now).map db.addSnapshot).getD db)
      else (.ok (), db) := by
  rw [publishNow]
  cases hserver : db.server serverId with
  | none => rfl
  | some server =>
    split
    · split
      · rfl
      · simp only [DbAct.andThen, lockServer, hserver, Option.isSome_some, ↓reduceIte,
          writeSnapshot, Option.bind_some]
        cases nextSnapshot settings db server now with
        | none => rfl
        | some snapshot => rfl
    · rfl

theorem SameNodeRows.publishNow (h : SameNodeRows serverId d e) (now : Int) :
    (publishNow settings serverId now e).1 = (publishNow settings serverId now d).1 ∧
    SameNodeRows serverId (publishNow settings serverId now d).2
      (publishNow settings serverId now e).2 := by
  rw [publishNow_eq, publishNow_eq, h.server]
  cases hserver : d.server serverId with
  | none => exact ⟨rfl, h⟩
  | some server =>
    rw [Option.bind_some, Option.bind_some, h.nextSnapshot (server_id hserver)]
    split
    · split
      · exact ⟨rfl, h⟩
      · cases AegisVPN.nextSnapshot settings d server now with
        | none => exact ⟨rfl, h⟩
        | some snapshot => exact ⟨rfl, h.addSnapshot snapshot⟩
    · exact ⟨rfl, h⟩

theorem publishNow_spares (serverId : Nat) (now : Int) (db : Db D) :
    SparesNodeRows serverId db (publishNow settings serverId now db).2 := by
  rw [publishNow_eq]
  split
  · split
    · exact .refl serverId db
    · cases hserver : db.server serverId with
      | none => exact .refl serverId db
      | some server =>
        rw [Option.bind_some]
        cases hnext : nextSnapshot settings db server now with
        | none => exact .refl serverId db
        | some snapshot =>
          have hid : snapshot.serverId = serverId :=
            (nextSnapshot_spec hnext).1.trans (server_id hserver)
          rw [Option.map_some, Option.getD_some]
          refine ⟨rfl, ?_, rfl, ?_, rfl⟩
          · refine filter_map_others Server.id (fun s => ?_) (fun s hs => if_neg (hid ▸ hs))
              db.servers
            split <;> rfl
          · rw [Db.addSnapshot, List.filter_append]
            simp [hid]
  · exact .refl serverId db

variable (settings) in
theorem SameNodeRows.syncTransaction (h : SameNodeRows serverId d e) (capabilities : List String)
    (now : Int) (server : Server D) :
    (syncTransactionOf settings serverId capabilities now server e).1 =
      (syncTransactionOf settings serverId capabilities now server d).1 ∧
    SameNodeRows serverId (syncTransactionOf settings serverId capabilities now server d).2
      (syncTransactionOf settings serverId capabilities now server e).2 := by
  rw [syncTransactionOf, syncTransactionOf, h.latestSnapshot]
  split
  · split
    · exact h.publishNow now
    · exact ⟨rfl, h⟩
  · exact (h.setFeatures serverId (sortedSet capabilities)).publishNow now

variable (settings) in
theorem syncTransaction_spares (serverId : Nat) (capabilities : List String) (now : Int)
    (server : Server D) (db : Db D) :
    SparesNodeRows serverId db
      (syncTransactionOf settings serverId capabilities now server db).2 := by
  rw [syncTransactionOf]
  split
  · split
    · exact publishNow_spares serverId now db
    · exact .refl serverId db
  · have hfeatures : SparesNodeRows serverId db
        (setFeatures serverId (sortedSet capabilities) db) := by
      refine ⟨rfl, ?_, rfl, rfl, rfl⟩
      refine filter_map_others Server.id (fun s => ?_) (fun s hs => if_neg hs) db.servers
      split <;> rfl
    exact hfeatures.trans (publishNow_spares serverId now _)

variable (settings) in
theorem SameNodeRows.syncNode (h : SameNodeRows serverId d e) (request : NodeSyncRequest D)
    (now : Int) :
    (syncNode settings serverId request now e).1 = (syncNode settings serverId request now d).1 ∧
    SameNodeRows serverId (syncNode settings serverId request now d).2
      (syncNode settings serverId request now e).2 := by
  rw [AegisVPN.syncNode, AegisVPN.syncNode, h.server]
  cases d.server serverId with
  | none => exact ⟨rfl, h⟩
  | some server =>
    obtain ⟨hanswer, hrows⟩ := h.syncTransaction settings request.capabilities now
      server
    dsimp only
    split
    · revert hanswer hrows
      generalize syncTransactionOf settings serverId request.capabilities now server d = r
      generalize syncTransactionOf settings serverId request.capabilities now server e = r'
      obtain ⟨x, d'⟩ := r
      obtain ⟨x', e'⟩ := r'
      rintro rfl hrows
      cases x' with
      | error _ => exact ⟨rfl, h⟩
      | ok _ =>
        refine ⟨?_, hrows⟩
        dsimp only
        rw [answerSync, answerSync, hrows.latestSnapshot]
    · exact ⟨rfl, h⟩

theorem syncNode_spares (serverId : Nat) (request : NodeSyncRequest D) (now : Int) (db : Db D) :
    SparesNodeRows serverId db (syncNode settings serverId request now db).2 := by
  rw [syncNode]
  cases db.server serverId with
  | none => exact .refl serverId db
  | some server =>
    have hspares := syncTransaction_spares settings serverId request.capabilities now
      server db
    dsimp only
    split
    · revert hspares
      generalize syncTransactionOf settings serverId request.capabilities now server db = r
      obtain ⟨x, db'⟩ := r
      intro hspares
      cases x with
      | error _ => exact .refl serverId db
      | ok _ => exact hspares
    · exact .refl serverId db

theorem SameNodeRows.acknowledge (h : SameNodeRows serverId d e) (request : NodeAckRequest D) :
    (acknowledgeSnapshot serverId request e).1 = (acknowledgeSnapshot serverId request d).1 ∧
    SameNodeRows serverId (acknowledgeSnapshot serverId request d).2
      (acknowledgeSnapshot serverId request e).2 := by
  have hcheck : checkAck e serverId request = checkAck d serverId request := by
    rw [checkAck, checkAck, h.snapshot, h.server]
  rw [acknowledgeSnapshot, acknowledgeSnapshot, hcheck]
  split
  · exact ⟨rfl, h.writeAck request⟩
  · exact ⟨rfl, h⟩

theorem acknowledge_spares (serverId : Nat) (request : NodeAckRequest D) (db : Db D) :
    SparesNodeRows serverId db (acknowledgeSnapshot serverId request db).2 := by
  rw [acknowledgeSnapshot]
  split
  · exact writeAck_spares serverId request db
  · exact .refl serverId db

variable (settings) in
theorem SameFor.dispatchNode {p q : ControlPlane D} (h : SameFor serverId p q)
    (maxTelemetryBytes : Nat) (now : Int) (request : NodeRequest D) :
    (dispatchNode settings maxTelemetryBytes serverId now q request).1 =
      (dispatchNode settings maxTelemetryBytes serverId now p request).1 ∧
    SameFor serverId (dispatchNode settings maxTelemetryBytes serverId now p request).2
      (dispatchNode settings maxTelemetryBytes serverId now q request).2 := by
  cases request with
  | sync request agentVersion =>
    obtain ⟨hanswer, hrows⟩ := h.rows.syncNode settings request now
    exact ⟨hanswer, hrows, h.telemetry, h.contacts⟩
  | page generation pageIndex => exact ⟨h.rows.getSnapshotPage generation pageIndex, h⟩
  | ack request error =>
    obtain ⟨hanswer, hrows⟩ := h.rows.acknowledge request
    exact ⟨congrArg NodeResponse.acknowledged hanswer, hrows, h.telemetry, h.contacts⟩
  | telemetry sequence payload => exact h.receiveTelemetry maxTelemetryBytes sequence payload

variable (settings) in
theorem dispatchNode_spares (maxTelemetryBytes serverId : Nat) (now : Int)
    (state : ControlPlane D) (request : NodeRequest D) : SparesOthers serverId state
      (dispatchNode settings maxTelemetryBytes serverId now state request).2 := by
  cases request with
  | sync request agentVersion => exact ⟨syncNode_spares serverId request now state.db, rfl, rfl⟩
  | page generation pageIndex => exact ⟨.refl serverId state.db, rfl, rfl⟩
  | ack request error => exact ⟨acknowledge_spares serverId request state.db, rfl, rfl⟩
  | telemetry sequence payload =>
    exact receiveTelemetry_spares maxTelemetryBytes serverId sequence payload state

/-- A request of one node is answered from the rows of that node alone. -/
theorem SameFor.handleNode {p q : ControlPlane D} (h : SameFor serverId p q)
    (maxTelemetryBytes : Nat) (heartbeatSeconds now : Int) (request : NodeRequest D) :
    (handleNode settings maxTelemetryBytes heartbeatSeconds serverId now q request).1 =
      (handleNode settings maxTelemetryBytes heartbeatSeconds serverId now p request).1 ∧
    SameFor serverId
      (handleNode settings maxTelemetryBytes heartbeatSeconds serverId now p request).2
      (handleNode settings maxTelemetryBytes heartbeatSeconds serverId now q request).2 := by
  obtain ⟨hanswer, hrows⟩ := h.dispatchNode settings maxTelemetryBytes now request
  refine ⟨hanswer, hrows.rows, hrows.telemetry, ?_⟩
  have hown := filter_map_keyed NodeContact.serverId
    (contact_serverId heartbeatSeconds serverId now request
      (AegisVPN.dispatchNode settings maxTelemetryBytes serverId now p request).1) (· == serverId)
  dsimp only [AegisVPN.handleNode, noteContact]
  rw [hanswer]
  exact (hown _).trans ((congrArg _ hrows.contacts).trans (hown _).symm)

/-- It changes nothing that belongs to another node. -/
theorem handleNode_spares (maxTelemetryBytes : Nat) (heartbeatSeconds : Int) (serverId : Nat)
    (now : Int) (state : ControlPlane D) (request : NodeRequest D) :
    SparesOthers serverId state
      (handleNode settings maxTelemetryBytes heartbeatSeconds serverId now state request).2 := by
  have hspares := dispatchNode_spares settings maxTelemetryBytes serverId now state
    request
  exact ⟨hspares.rows, hspares.telemetry, (filter_map_others NodeContact.serverId
    (contact_serverId heartbeatSeconds serverId now request _) (fun row hrow => if_neg hrow)
    _).trans hspares.contacts⟩

end Endpoints

end AegisVPN
