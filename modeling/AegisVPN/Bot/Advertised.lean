import AegisVPN.Bot.SubscriptionResponse
import AegisVPN.Control.AckRuns
import AegisVPN.Control.Applicable

namespace AegisVPN
open Library
set_option autoImplicit true

/-! ## What a snapshot says of a route -/

/-- An item of the route in this revision and with this digest. -/
def DesiredItem.names (item : DesiredItem) (routeId revision : Nat) (digest : String) : Prop :=
  (∃ r, item = .cascadeRoute r ∧ r.routeId = routeId ∧ r.revision = revision ∧
    r.configDigest = digest) ∨
  ∃ s, item = .cascadeService s ∧ s.routeId = routeId ∧ s.revision = revision ∧
    s.configDigest = digest

theorem names_of_acked {snapshot : NodeSnapshot D}
    (h : (routeId, (revision, digest)) ∈ ackedRevisions snapshot) :
    ∃ item ∈ snapshot.items, item.names routeId revision digest := by
  rw [ackedRevisions] at h
  split at h
  · cases h
  · have hmem := List.mem_reverse.1 (mem_of_lookup (mem_dictOf.1 h))
    obtain ⟨item, hitem, hnames⟩ := List.mem_filterMap.1 hmem
    refine ⟨item, hitem, ?_⟩
    cases item with
    | client c => cases hnames
    | connLimit l => cases hnames
    | cascadeRoute r =>
      cases hnames
      exact .inl ⟨r, rfl, rfl, rfl, rfl⟩
    | cascadeService s =>
      cases hnames
      exact .inr ⟨s, rfl, rfl, rfl, rfl⟩

/-- The server of a route and its exits is part of what its digest is taken of. -/
def Db.payload (db : Db D) (route : CascadeRoute) : CascadeRoutePayload :=
  ⟨route.id, route.revision, route.label, route.entryServerId, route.healthPolicy,
    route.inboundTags, (db.routeExits route.id).map fun (e, s) =>
      ⟨e.exitServerId, e.position, e.serviceUuid, e.serverName, orSlash e.xhttpPath, s.host,
        s.port, s.publicKey, s.shortId⟩⟩

theorem currentRouteDigest_eq (settings : ControlSettings D) (db : Db D) (route : CascadeRoute) :
    currentRouteDigest settings db route = settings.routeDigest (db.payload route) := rfl

theorem routeExits_server {db : Db D} (h : p ∈ db.routeExits routeId) :
    p.2.id = p.1.exitServerId := by
  obtain ⟨e, -, he⟩ := List.mem_filterMap.1 h
  obtain ⟨s, hs, rfl⟩ := Option.map_eq_some_iff.1 he
  exact server_id hs

/-- What the entry of a route is sent. -/
def EntryItem (items : List DesiredItem) (route : CascadeRoute) (digest : String) : Prop :=
  ∃ r, .cascadeRoute r ∈ items ∧ r.routeId = route.id ∧ r.revision = route.revision ∧
    r.configDigest = digest

/-- What an exit of a route is sent. -/
def ExitItem (items : List DesiredItem) (route : CascadeRoute) (digest uuid : String) : Prop :=
  ∃ s, .cascadeService s ∈ items ∧ s.routeId = route.id ∧ s.revision = route.revision ∧
    s.configDigest = digest ∧ s.uuid = uuid

section Items
variable {settings : ControlSettings D} {db db₀ : Db D} {server : Server D} {route : CascadeRoute}

/-- If a snapshot has any item of a route as it is now, its server has been sent its whole part of
the route. -/
theorem items_of_digest (hfree : ∀ route₀ ∈ db₀.routes, currentRouteDigest settings db₀ route₀ =
      currentRouteDigest settings db route → db₀.payload route₀ = db.payload route)
    (hitem : item ∈ buildDesiredItems settings db₀ server now)
    (hnames : item.names route.id route.revision (currentRouteDigest settings db route)) :
    (server.id = route.entryServerId → EntryItem (buildDesiredItems settings db₀ server now) route
      (currentRouteDigest settings db route)) ∧
    ∀ p ∈ db.routeExits route.id, p.2.id = server.id →
      ExitItem (buildDesiredItems settings db₀ server now) route
        (currentRouteDigest settings db route) p.1.serviceUuid := by
  obtain ⟨hactive, hkind⟩ := (mem_buildDesiredItems settings db₀ server).1 hitem
  have hcascade : item ∈ buildCascadeItems settings db₀ server := by
    rcases hkind with ⟨c, -, rfl⟩ | ⟨l, -, rfl⟩ | hcascade
    · rcases hnames with ⟨r, hr, -⟩ | ⟨s, hs, -⟩
      · cases hr
      · cases hs
    · rcases hnames with ⟨r, hr, -⟩ | ⟨s, hs, -⟩
      · cases hr
      · cases hs
    · exact hcascade
  obtain ⟨hsupports, route₀, hroute₀, henabled, hroute⟩ :=
    (mem_buildCascadeItems settings db₀ server).1 hcascade
  obtain ⟨hpublishes, hpart⟩ := (mem_routeItems settings db₀ server).1 hroute
  -- the digest fixes the route, its entry and its exits
  have hdigest : currentRouteDigest settings db₀ route₀ = currentRouteDigest settings db route := by
    rcases hpart with ⟨-, rfl⟩ | ⟨p, -, rfl⟩
    · rcases hnames with ⟨r, hr, -, -, hd⟩ | ⟨s, hs, -⟩
      · cases hr
        exact hd
      · cases hs
    · rcases hnames with ⟨r, hr, -⟩ | ⟨s, hs, -, -, hd⟩
      · cases hr
      · cases hs
        exact hd
  have hpayload : db₀.payload route₀ = db.payload route := hfree route₀ hroute₀ hdigest
  have hid : route₀.id = route.id := congrArg CascadeRoutePayload.routeId hpayload
  have hrevision : route₀.revision = route.revision :=
    congrArg CascadeRoutePayload.revision hpayload
  have hentry : route₀.entryServerId = route.entryServerId :=
    congrArg CascadeRoutePayload.entryServerId hpayload
  have hexits := congrArg CascadeRoutePayload.exits hpayload
  have hall : ∀ item, item ∈ routeItems settings db₀ server route₀ →
      item ∈ buildDesiredItems settings db₀ server now := fun item h =>
    (mem_buildDesiredItems settings db₀ server).2 ⟨hactive, .inr (.inr
      ((mem_buildCascadeItems settings db₀ server).2 ⟨hsupports, route₀, hroute₀, henabled, h⟩))⟩
  refine ⟨fun hserver => ?_, fun p hp hserver => ?_⟩
  · exact ⟨publishedRoute settings db₀ route₀, hall _ ((mem_routeItems settings db₀ server).2
      ⟨hpublishes, .inl ⟨hserver.trans hentry.symm, rfl⟩⟩), hid, hrevision, hdigest⟩
  · obtain ⟨p₀, hp₀, hsame⟩ : ∃ p₀ ∈ db₀.routeExits route₀.id,
        p₀.1.exitServerId = p.1.exitServerId ∧ p₀.1.serviceUuid = p.1.serviceUuid := by
      have hmem := List.mem_map_of_mem (f := fun (e, s) => (⟨e.exitServerId, e.position,
        e.serviceUuid, e.serverName, orSlash e.xhttpPath, s.host, s.port, s.publicKey,
        s.shortId⟩ : CascadeExitPayload)) hp
      rw [Db.payload, Db.payload] at hexits
      dsimp only at hexits
      rw [← hexits] at hmem
      obtain ⟨p₀, hp₀, heq⟩ := List.mem_map.1 hmem
      exact ⟨p₀, hp₀, congrArg CascadeExitPayload.exitServerId heq,
        congrArg CascadeExitPayload.serviceUuid heq⟩
    have hat : p₀ ∈ db₀.exitsAt server route₀ := by
      have hid₀ : server.id = p₀.2.id := by
        rw [routeExits_server hp₀, hsame.1, ← routeExits_server hp, hserver]
      exact List.mem_filter.2 ⟨hp₀, beq_iff_eq.2 hid₀⟩
    exact ⟨publishedService settings db₀ route₀ p₀.1, hall _
      ((mem_routeItems settings db₀ server).2 ⟨hpublishes, .inr ⟨p₀, hat, rfl⟩⟩), hid, hrevision,
      hdigest, hsame.2⟩

end Items

/-! ## Readiness is acknowledged -/

/-- The generation that a node acknowledged last. -/
def Db.lastAcked (db : Db D) (serverId : Nat) : Option (NodeSnapshot D) :=
  (db.server serverId).bind fun s => db.snapshot serverId s.appliedGeneration

/-- What is recorded of a node and a route is in the generation that the node acknowledged last. -/
def Db.Ready (db : Db D) (a : CascadeRouteAck) : Prop :=
  ∃ server n, db.server a.serverId = some server ∧ n ∈ db.snapshots ∧ n.serverId = a.serverId ∧
    n.generation = server.appliedGeneration ∧
    (a.routeId, (a.revision, a.configDigest)) ∈ ackedRevisions n

/-- All snapshots were built from databases of the past, and all readiness is acknowledged. -/
structure Advertised (settings : ControlSettings D) (past : Db D → Prop) (db : Db D) : Prop where
  ledger : Ledger db
  built : ∀ n ∈ db.snapshots, ∃ db₀ server now, past db₀ ∧ n.serverId = server.id ∧
    n.items = buildDesiredItems settings db₀ server now
  ready : ∀ a ∈ db.acks, db.Ready a

theorem ready_writeAck {db : Db D} {request : NodeAckRequest D} (hn : db.snapshot serverId
    request.generation = some n) (hs : db.server serverId = some server)
    {r : Nat × (Nat × String)} (hr : r ∈ ackedRevisions n) :
    (writeAck serverId request db).Ready ⟨r.1, serverId, r.2.1, r.2.2, request.generation⟩ := by
  obtain ⟨hmem, hid, hg⟩ := snapshot_spec hn
  have hserver := (writeAck_spec serverId request db).2.2.1 serverId
  rw [setApplied_server, hs, Option.map_some, if_pos (server_id hs)] at hserver
  exact ⟨_, n, hserver, writeAck_keeps hmem fun _ => by omega, hid, hg, hr⟩

theorem Advertised.empty {settings : ControlSettings D} {past : Db D → Prop} :
    Advertised settings past Db.empty where
  ledger := Ledger.empty
  built n hn := by cases hn
  ready a ha := by cases ha

section Runs
variable [DecidableEq D] {settings : ControlSettings D} {past : Db D → Prop} {db : Db D}

theorem Db.Ready.step {a : CascadeRouteAck} (h : db.Ready a) (op : ControlOp D)
    (hsame : ∀ server', (controlStep settings db op).server a.serverId = some server' →
      ∀ server, db.server a.serverId = some server →
        server'.appliedGeneration = server.appliedGeneration) :
    (controlStep settings db op).Ready a := by
  obtain ⟨server, n, hs, hn, hid, hg, hmem⟩ := h
  obtain ⟨server', hs', -⟩ := applied_cases settings hs op
  have heq := hsame server' hs' server hs
  refine ⟨server', n, hs', snapshot_kept settings op hn fun server'' hs'' => ?_, hid,
    hg.trans heq.symm, hmem⟩
  rw [hid, hs'] at hs''
  cases hs''
  exact (hg.trans heq.symm).ge

theorem Advertised.step (h : Advertised settings past db) (hpast : past db) (op : ControlOp D) :
    Advertised settings past (controlStep settings db op) where
  ledger := h.ledger.step settings op
  built n hn := by
    rcases snapshots_step settings db op with hsame | ⟨server, snapshot, now, -, hnext, hadd⟩ |
      ⟨hsub, -⟩
    · exact h.built n (hsame ▸ hn)
    · rw [hadd] at hn
      rcases List.mem_append.1 hn with hn | hn
      · exact h.built n hn
      · obtain rfl := List.mem_singleton.1 hn
        obtain ⟨hid, -, -, hitems⟩ := nextSnapshot_spec hnext
        exact ⟨db, server, now, hpast, hid, hitems⟩
    · exact h.built n (hsub hn)
  ready a ha := by
    have hother : a ∈ db.acks → (∀ request, op = .acknowledge a.serverId request →
        ∀ server, db.server a.serverId = some server →
          request.generation ≤ server.appliedGeneration) →
        (controlStep settings db op).Ready a := by
      intro hold hidle
      refine (h.ready a hold).step op fun server' hs' server hs => ?_
      obtain ⟨server₁, hs₁, hsame | ⟨request, hop, hnewer, -⟩⟩ := applied_cases settings hs op
      · rw [hs₁] at hs'
        cases hs'
        exact hsame
      · exact absurd (hidle request hop server hs) (Nat.not_le_of_lt hnewer)
    cases op with
    | publish serverId now =>
      refine hother ?_ fun request hop => by cases hop
      rw [controlStep] at ha
      rcases transact_publishNow settings serverId now with hsame |
        ⟨_, snapshot, -, -, hadd⟩
      · rwa [hsame] at ha
      · rwa [hadd] at ha
    | acknowledge serverId request =>
      rw [controlStep] at ha
      rcases acknowledgeSnapshot_cases serverId request db with hsame |
        ⟨current, n, hcurrent, hn, hdigest, hsuccess, hnewer, hwrite⟩
      · rw [controlStep, hsame]
        exact h.ready a (hsame ▸ ha)
      · rw [hwrite, writeAck_acks, hn, Option.map_some, Option.getD_some] at ha
        rcases List.mem_append.1 ha with hold | hnew
        · obtain ⟨hold, hne⟩ := List.mem_filter.1 hold
          refine hother hold fun request' hop => ?_
          cases hop
          simp at hne
        · obtain ⟨r, hr, rfl⟩ := List.mem_map.1 hnew
          rw [controlStep, hwrite]
          exact ready_writeAck hn hcurrent hr
    | prune serverId generation =>
      refine hother ?_ fun request hop => by cases hop
      rw [controlStep] at ha
      split at ha
      · rw [pruneAcknowledgedSnapshots] at ha
        split at ha
        · exact ha
        · exact ha
      · exact ha
    | addServer server =>
      refine hother ?_ fun request hop => by cases hop
      rw [controlStep] at ha
      split at ha
      · exact ha
      · exact ha
    | edit next =>
      refine hother ?_ fun request hop => by cases hop
      rw [controlStep] at ha
      split at ha
      · rename_i he
        exact he.2.1 a ha
      · exact ha

theorem Advertised.run (h : Advertised settings past db) (ops : List (ControlOp D))
    (hpast : ∀ s ∈ controlStates settings db ops, past s) :
    Advertised settings past (controlRun settings db ops) ∧ past (controlRun settings db ops) := by
  induction ops generalizing db with
  | nil => exact ⟨h, hpast db List.mem_cons_self⟩
  | cons op ops ih =>
    exact ih (h.step (hpast db List.mem_cons_self) op) fun s hs =>
      hpast s (List.mem_cons_of_mem _ hs)

end Runs

/-! ## Advertised routes -/

section Advertise
variable {settings : ControlSettings D} {past : Db D → Prop} {db : Db D} {route : CascadeRoute}

/-- All parts of a route are acknowledged by those that have to serve them. -/
def Db.Acknowledged (db : Db D) (settings : ControlSettings D) (route : CascadeRoute) : Prop :=
  (∃ n, db.lastAcked route.entryServerId = some n ∧
    EntryItem n.items route (currentRouteDigest settings db route)) ∧
  ∀ p ∈ db.routeExits route.id, ∃ n, db.lastAcked p.2.id = some n ∧
    ExitItem n.items route (currentRouteDigest settings db route) p.1.serviceUuid

theorem routeReady_participant (h : db.routeReady settings route = true) :
    ∃ entry, db.server route.entryServerId = some entry ∧
      ∀ s ∈ entry :: (db.routeExits route.id).map Prod.snd, ∃ a ∈ db.acks,
        a.routeId = route.id ∧ a.serverId = s.id ∧ a.revision = route.revision ∧
          a.configDigest = currentRouteDigest settings db route := by
  rw [Db.routeReady] at h
  split at h
  · cases h
  · rename_i entry hentry
    refine ⟨entry, hentry, fun s hs => ?_⟩
    have hall := List.all_eq_true.1 (Bool.and_eq_true_iff.1 h).2 s hs
    obtain ⟨a, ha, hmatch⟩ := List.any_eq_true.1 (Bool.and_eq_true_iff.1 hall).2
    simp only [Bool.and_eq_true, beq_iff_eq] at hmatch
    exact ⟨a, ha, hmatch.1.1.1, hmatch.1.1.2, hmatch.1.2, hmatch.2⟩

/-- No route of another time has the digest that a route has now. -/
def Db.Unmistaken (db : Db D) (settings : ControlSettings D) (past : Db D → Prop)
    (route : CascadeRoute) : Prop :=
  ∀ db₀, past db₀ → ∀ route₀ ∈ db₀.routes, currentRouteDigest settings db₀ route₀ =
    currentRouteDigest settings db route → db₀.payload route₀ = db.payload route

/-- A server that is recorded as ready has acknowledged its whole part of the route. -/
theorem Advertised.acked (h : Advertised settings past db)
    (hfree : db.Unmistaken settings past route) {a : CascadeRouteAck} (ha : a ∈ db.acks)
    (hroute : a.routeId = route.id) (hrevision : a.revision = route.revision)
    (hdigest : a.configDigest = currentRouteDigest settings db route) :
    ∃ n, db.lastAcked a.serverId = some n ∧
      (a.serverId = route.entryServerId →
        EntryItem n.items route (currentRouteDigest settings db route)) ∧
      ∀ p ∈ db.routeExits route.id, p.2.id = a.serverId →
        ExitItem n.items route (currentRouteDigest settings db route) p.1.serviceUuid := by
  obtain ⟨server, n, hs, hn, hid, hg, hmem⟩ := h.ready a ha
  obtain ⟨item, hitem, hnames⟩ := names_of_acked hmem
  obtain ⟨db₀, server₀, now, hpast, hserver, hitems⟩ := h.built n hn
  rw [hitems] at hitem
  rw [hroute, hrevision, hdigest] at hnames
  obtain ⟨hentry, hexits⟩ := items_of_digest (hfree db₀ hpast) hitem hnames
  rw [← hitems] at hentry hexits
  have hsame : server₀.id = a.serverId := hserver.symm.trans hid
  refine ⟨n, ?_, fun he => hentry (hsame.trans he), fun p hp hps =>
    hexits p hp (hps.trans hsame.symm)⟩
  rw [Db.lastAcked, hs]
  exact h.ledger.snapshot_eq hn hid hg

theorem Advertised.routeReady (h : Advertised settings past db)
    (hfree : db.Unmistaken settings past route)
    (hready : db.routeReady settings route = true) : db.Acknowledged settings route := by
  obtain ⟨entry, hentry, hall⟩ := routeReady_participant hready
  constructor
  · obtain ⟨a, ha, hroute, hserver, hrevision, hdigest⟩ := hall entry List.mem_cons_self
    have hid : a.serverId = route.entryServerId := hserver.trans (server_id hentry)
    obtain ⟨n, hn, hitem, -⟩ := h.acked hfree ha hroute hrevision hdigest
    exact ⟨n, hid ▸ hn, hitem hid⟩
  · intro p hp
    obtain ⟨a, ha, hroute, hserver, hrevision, hdigest⟩ :=
      hall p.2 (List.mem_cons_of_mem _ (List.mem_map_of_mem hp))
    obtain ⟨n, hn, -, hitem⟩ := h.acked hfree ha hroute hrevision hdigest
    exact ⟨n, hserver ▸ hn, hitem p hp hserver.symm⟩

theorem mem_advertisableRoutes (h : route ∈ advertisableRoutes settings db ids) :
    route ∈ db.routes ∧ route.enabled = true ∧ db.routeReady settings route = true := by
  obtain ⟨hroute, hready⟩ := List.mem_filter.1 h
  obtain ⟨hmem, hselected⟩ := List.mem_filter.1 ((List.perm_insertionSort _ _).mem_iff.1 hroute)
  exact ⟨hmem, (Bool.and_eq_true_iff.1 hselected).1, (Bool.and_eq_true_iff.1 hready).2⟩

theorem linkPairs_entry {site : Site} {sub : Subscription}
    (h : p ∈ linkPairs settings site db sub profile deviceUuid)
    (hentry : p.1.nodeRole = .entry) : ∃ route ∈ advertisableRoutes settings db
      (((db.listedServers site sub profile).filter fun s => s.nodeRole == .entry).map Server.id),
      route.entryServerId = p.1.id := by
  obtain ⟨server, hserver, hlink⟩ := List.mem_filterMap.1 h
  obtain ⟨link, -, rfl⟩ := Option.map_eq_some_iff.1 hlink
  have hvisible := (List.perm_insertionSort _ _).mem_iff.1 hserver
  obtain ⟨-, hshown⟩ := List.mem_filter.1 hvisible
  dsimp only at hentry
  simp only [hentry, bne_self_eq_false, Bool.false_or, List.contains_iff_mem] at hshown
  obtain ⟨label, hlabel, hid⟩ := List.mem_map.1 hshown
  obtain ⟨route, hroute, rfl⟩ := List.mem_map.1 hlabel
  exact ⟨route, hroute, hid⟩

end Advertise

/-- No two routes that differ, at whatever times of a run, have the same digest. -/
def CollisionFree [DecidableEq D] (settings : ControlSettings D) (ops : List (ControlOp D)) :
    Prop :=
  ∀ db ∈ controlStates settings Db.empty ops, ∀ route ∈ db.routes,
    ∀ db₀ ∈ controlStates settings Db.empty ops, ∀ route₀ ∈ db₀.routes,
      currentRouteDigest settings db₀ route₀ = currentRouteDigest settings db route →
        db₀.payload route₀ = db.payload route

/-- Whatever was edited, published and acknowledged in whichever order: a route that is advertised
has been acknowledged, as it is now, by its entry and by all of its exits, and a link to an entry
server is a link to the entry of an advertised route. -/
theorem advertised_routes_acknowledged [DecidableEq D] (settings : ControlSettings D)
    (ops : List (ControlOp D)) (hfree : CollisionFree settings ops) (site : Site)
    (sub : Subscription) (profile : Profile) (deviceUuid : Option String) :
    (∀ entryServerIds, ∀ route ∈ advertisableRoutes settings
        (controlRun settings Db.empty ops) entryServerIds,
      (controlRun settings Db.empty ops).Acknowledged settings route) ∧
    ∀ p ∈ linkPairs settings site (controlRun settings Db.empty ops) sub profile deviceUuid,
      p.1.nodeRole = .entry → ∃ route ∈ advertisableRoutes settings
        (controlRun settings Db.empty ops) (((Db.listedServers site
          (controlRun settings Db.empty ops) sub profile).filter fun s =>
            s.nodeRole == .entry).map Server.id), route.entryServerId = p.1.id := by
  refine ⟨fun entryServerIds route hroute => ?_, fun p hp hentry => linkPairs_entry hp hentry⟩
  obtain ⟨hadvertised, hpast⟩ := Advertised.empty.run ops
    fun s (hs : s ∈ controlStates settings Db.empty ops) => hs
  obtain ⟨hmem, -, hready⟩ := mem_advertisableRoutes hroute
  exact hadvertised.routeReady (hfree _ hpast route hmem) hready

instance decidableCollisionFree [DecidableEq D] (settings : ControlSettings D)
    (ops : List (ControlOp D)) : Decidable (CollisionFree settings ops) :=
  inferInstanceAs (Decidable (∀ db ∈ controlStates settings Db.empty ops, ∀ route ∈ db.routes,
    ∀ db₀ ∈ controlStates settings Db.empty ops, ∀ route₀ ∈ db₀.routes, _ = _ → _ = _))

def revisionSettings : ControlSettings (List DesiredItem) := ⟨id, fun p => toString p.revision, 500⟩

/-- A route in its second revision, which both of its servers have acknowledged. -/
def revisedDb (revision : Nat) : Db (List DesiredItem) :=
  { oneRouteDb with
    routes := [⟨1, "first", 1, true, revision, ⟨[]⟩, []⟩] }

def advertisedRun : List (ControlOp (List DesiredItem)) :=
  [.addServer (cascadeServer 1), .addServer (cascadeServer 2), .edit (revisedDb 1),
    .edit (revisedDb 2), .publish 1 0, .publish 2 0,
    .acknowledge 1 ⟨1, buildDesiredItems revisionSettings (revisedDb 2) (cascadeServer 1) 0, true⟩,
    .acknowledge 2 ⟨1, buildDesiredItems revisionSettings (revisedDb 2) (cascadeServer 2) 0, true⟩]

def blankSite : Site where
  texts := ⟨id, id, id, id, id⟩
  catalog := ⟨fun _ => ⟨"", "", "", false, 0, none, false, none, none, none, none, none⟩,
    fun _ => none, []⟩
  fetch := fun _ _ _ => none
  loadProbe := none

theorem advertised_route_acknowledged :
    ∃ route ∈ advertisableRoutes revisionSettings
        (controlRun revisionSettings Db.empty advertisedRun) [1],
      (controlRun revisionSettings Db.empty advertisedRun).Acknowledged revisionSettings route := by
  have hfree : CollisionFree revisionSettings advertisedRun := by decide
  have hroute : (⟨1, "first", 1, true, 2, ⟨[]⟩, []⟩ : CascadeRoute) ∈ advertisableRoutes
      revisionSettings (controlRun revisionSettings Db.empty advertisedRun) [1] := by
    decide
  exact ⟨_, hroute, (advertised_routes_acknowledged revisionSettings advertisedRun hfree blankSite
    ⟨1, 1, "", none, "u1", 30, 0, 0, true⟩ .safe none).1 [1] _ hroute⟩

end AegisVPN
