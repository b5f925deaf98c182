import AegisVPN.Agent.ReconcileExact
import AegisVPN.Bot.Reissue
import AegisVPN.Control.DownloadRuns

namespace AegisVPN
open Library
set_option autoImplicit true

/-! # From the rows of the database to the clients of a node -/

/-- The answer to Hysteria's callback: the email of a valid user. -/
def authenticate (auth : String) (w : Agent D) : Option String := w.hy2Clients.reverse.lookup auth

/-- By the rows a UUID may connect through a server under this email: it is that of an active
subscription on the server, or of one of its devices that may connect, which has not expired, or
that of a service for the entry of a cascade route. -/
def Db.entitles (db : Db D) (server : Server D) (published : Int) (nowMs : Nat)
    (uuid email : String) : Prop :=
  server.isActive = true ∧
    ((∃ sub ∈ db.desiredSubscriptions server.id published, nowMs < expiryMs sub.expiresAt ∧
      (sub.clientUuid = uuid ∧ subscriptionEmail sub = email ∨
        ∃ device ∈ db.activeDevices sub, device.uuid = uuid ∧ deviceEmail sub device = email)) ∨
    supportsCascade server = true ∧ ∃ route ∈ db.routes, route.enabled = true ∧
      db.publishes route = true ∧ ∃ p ∈ db.exitsAt server route, p.1.serviceUuid = uuid ∧
        s!"cascade_route_{route.id}_entry_{route.entryServerId}" = email)

/-! ## The items -/

theorem mem_desiredClients {items : List DesiredItem} {c : DesiredClient} :
    c ∈ desiredClients items nowMs ↔ .client c ∈ items ∧ nowMs < c.expireMs ∨
      ∃ s, .cascadeService s ∈ items ∧ c = ⟨s.uuid, s.email, serviceExpireMs⟩ := by
  rw [desiredClients, List.mem_filterMap]
  constructor
  · rintro ⟨item, hitem, h⟩
    cases item with
    | client c' =>
      simp only [gt_iff_lt, Option.ite_none_right_eq_some, Option.some.injEq] at h
      obtain ⟨hlive, rfl⟩ := h
      exact .inl ⟨hitem, hlive⟩
    | connLimit l => cases h
    | cascadeService s =>
      cases h
      exact .inr ⟨s, hitem, rfl⟩
    | cascadeRoute r => cases h
  · rintro (⟨hitem, hlive⟩ | ⟨s, hitem, rfl⟩)
    · exact ⟨_, hitem, if_pos hlive⟩
    · exact ⟨_, hitem, rfl⟩

section Items
variable {settings : ControlSettings D} {db : Db D} {server : Server D}

theorem mem_clientsOf_iff {sub : Subscription} {c : DesiredClient} : c ∈ db.clientsOf sub ↔
    c.expireMs = expiryMs sub.expiresAt ∧
      (sub.clientUuid = c.uuid ∧ subscriptionEmail sub = c.email ∨
        ∃ device ∈ db.activeDevices sub, device.uuid = c.uuid ∧
          deviceEmail sub device = c.email) := by
  rw [Db.clientsOf, List.mem_cons, List.mem_map]
  constructor
  · rintro (rfl | ⟨device, hdevice, rfl⟩)
    · exact ⟨rfl, .inl ⟨rfl, rfl⟩⟩
    · exact ⟨rfl, .inr ⟨device, hdevice, rfl, rfl⟩⟩
  · obtain ⟨uuid, email, expireMs⟩ := c
    rintro ⟨rfl, ⟨rfl, rfl⟩ | ⟨device, hdevice, rfl, rfl⟩⟩
    · exact .inl rfl
    · exact .inr ⟨device, hdevice, rfl⟩

theorem mem_published_service {s : DesiredCascadeService} :
    .cascadeService s ∈ buildDesiredItems settings db server published ↔
      server.isActive = true ∧ supportsCascade server = true ∧ ∃ route ∈ db.routes,
        route.enabled = true ∧ db.publishes route = true ∧ ∃ p ∈ db.exitsAt server route,
          s = publishedService settings db route p.1 := by
  rw [mem_buildDesiredItems]
  refine and_congr_right fun _ => ⟨fun h => ?_, fun ⟨hs, route, hr, he, hp, p, hmem, h⟩ => ?_⟩
  · rcases h with ⟨c, -, h⟩ | ⟨l, -, h⟩ | h
    · cases h
    · cases h
    · obtain ⟨hs, route, hr, he, hroute⟩ := (mem_buildCascadeItems _ _ _).1 h
      obtain ⟨hp, ⟨-, h⟩ | ⟨p, hmem, h⟩⟩ := (mem_routeItems _ _ _).1 hroute
      · cases h
      · cases h
        exact ⟨hs, route, hr, he, hp, p, hmem, rfl⟩
  · exact .inr (.inr ((mem_buildCascadeItems _ _ _).2 ⟨hs, route, hr, he,
      (mem_routeItems _ _ _).2 ⟨hp, .inr ⟨p, hmem, h ▸ rfl⟩⟩⟩))

/-- The clients that a node takes from a published snapshot are those the rows entitle. -/
theorem desired_iff_entitled :
    (∃ c ∈ desiredClients (buildDesiredItems settings db server published) nowMs,
      c.uuid = uuid ∧ c.email = email) ↔
    db.entitles server published nowMs uuid email := by
  constructor
  · rintro ⟨c, hc, rfl, rfl⟩
    rcases mem_desiredClients.1 hc with ⟨hitem, hlive⟩ | ⟨s, hitem, rfl⟩
    · obtain ⟨ha, sub, hsub, hc⟩ := client_mem_buildDesiredItems.1 hitem
      obtain ⟨hexpire, hwho⟩ := mem_clientsOf_iff.1 hc
      exact ⟨ha, .inl ⟨sub, hsub, hexpire ▸ hlive, hwho⟩⟩
    · obtain ⟨ha, hs, route, hr, he, hp, p, hmem, rfl⟩ := mem_published_service.1 hitem
      exact ⟨ha, .inr ⟨hs, route, hr, he, hp, p, hmem, rfl, rfl⟩⟩
  · rintro ⟨ha, ⟨sub, hsub, hlive, hwho⟩ | ⟨hs, route, hr, he, hp, p, hmem, rfl, rfl⟩⟩
    · have hitem : .client ⟨uuid, email, expiryMs sub.expiresAt⟩ ∈
          buildDesiredItems settings db server published :=
        client_mem_buildDesiredItems.2 ⟨ha, sub, hsub, mem_clientsOf_iff.2 ⟨rfl, hwho⟩⟩
      exact ⟨⟨uuid, email, expiryMs sub.expiresAt⟩, mem_desiredClients.2 (.inl ⟨hitem, hlive⟩),
        rfl, rfl⟩
    · exact ⟨_, mem_desiredClients.2 (.inr ⟨publishedService settings db route p.1,
        mem_published_service.2 ⟨ha, hs, route, hr, he, hp, p, hmem, rfl⟩, rfl⟩), rfl, rfl⟩

end Items

theorem Db.entitles.email_ne {db : Db D} {server : Server D}
    (h : db.entitles server published nowMs uuid email) : email ≠ "" := by
  have hadded : ∀ a b : String, a ≠ "" → a ++ b ≠ "" := fun a b ha hempty =>
    ha (String.append_eq_empty_iff.1 hempty).1
  obtain ⟨-, ⟨sub, -, -, ⟨-, rfl⟩ | ⟨device, -, -, rfl⟩⟩ | ⟨-, route, -, -, -, p, -, -, rfl⟩⟩ := h
  · rw [subscriptionEmail]
    exact hadded _ _ (hadded _ _ (hadded _ _ (by decide)))
  · rw [deviceEmail, subscriptionEmail]
    exact hadded _ _ (hadded _ _ (hadded _ _ (hadded _ _ (hadded _ _ (by decide)))))
  · exact hadded _ _ (hadded _ _ (hadded _ _ (by decide)))

/-! ## The publication -/

section Publish
variable [DecidableEq D] {settings : ControlSettings D} {db : Db D} {server : Server D}

theorem publish_latest (hsize : 1 ≤ settings.pageSize)
    (hinjective : Function.Injective settings.digest)
    (hsealed : ∀ n ∈ db.snapshots, n.Sealed settings)
    (hserver : db.server serverId = some server) (hpublishes : publishesFor server = true)
    (now : Int) : ∃ n, (controlStep settings db (.publish serverId now)).latestSnapshot serverId =
      some n ∧ n.items = buildDesiredItems settings db server now := by
  have hrun : publishNow settings serverId now db =
      (nextSnapshot settings db server now).elim (.ok (), db)
        fun snapshot => (.ok (), db.addSnapshot snapshot) := by
    simp only [publishNow, hserver, Option.any_some, if_pos hpublishes,
      if_neg (Nat.not_lt.2 hsize), DbAct.andThen, lockServer, Option.isSome_some, ↓reduceIte,
      writeSnapshot]
    cases nextSnapshot settings db server now <;> rfl
  have hid := server_id hserver
  rw [controlStep, transact, hrun]
  cases hnext : nextSnapshot settings db server now with
  | none =>
    simp only [nextSnapshot, ite_eq_left_iff, reduceCtorEq, imp_false, not_not] at hnext
    cases hl : db.latestSnapshot server.id with
    | none =>
      rw [hl] at hnext
      cases hnext
    | some l =>
      rw [hl, Option.any_some, Bool.and_eq_true, decide_eq_true_iff] at hnext
      rw [hid] at hl
      refine ⟨l, hl, hinjective ?_⟩
      rw [← (hsealed l (latestSnapshot_spec hl).1).digest, hnext.1]
  | some snapshot =>
    obtain ⟨hsnapshot, -, hnewer, hitems⟩ := nextSnapshot_spec hnext
    refine ⟨snapshot, ?_, hitems⟩
    change (db.addSnapshot snapshot).latestSnapshot serverId = some snapshot
    rw [addSnapshot_latest (hsnapshot ▸ hnewer), hsnapshot, if_pos hid.symm]

theorem publish_server (hserver : db.server serverId = some server) (now : Int) :
    ∃ server', (controlStep settings db (.publish serverId now)).server serverId = some server' ∧
      server'.controlMode = server.controlMode ∧ server'.features = server.features := by
  rw [controlStep]
  rcases transact_publishNow settings serverId now with hsame | ⟨_, snapshot, -, -, hadd⟩
  · rw [hsame]
    exact ⟨server, hserver, rfl, rfl⟩
  · rw [hadd, addSnapshot_server, hserver]
    refine ⟨_, rfl, ?_⟩
    dsimp only
    split <;> exact ⟨rfl, rfl⟩

end Publish

/-! ## The node -/

section Node
variable [DecidableEq D] {settings : AgentSettings} {snapshot : DesiredSnapshot D} {w w' : Agent D}
  {fates : List Fate}

/-- After a reconcile that returns the records of an inbound have the UUIDs of the clients, and the
Hy2 users are the clients with a UUID and an email. -/
theorem reconciled_clients (hdistinct : ClientsDistinct snapshot.items)
    (hhy2 : w.hy2Clients = hy2Mapping w.config)
    (h : (reconcileSnapshot settings snapshot false nowMs).advance (agentSem D) fates w =
      (.ret r, w')) :
    (∀ i ∈ listVlessInbounds w'.config, ∀ uuid, (∃ record ∈ i.clients, record.id = some uuid) ↔
      ∃ c ∈ desiredClients snapshot.items nowMs, c.uuid = uuid) ∧
    ∀ uuid email, authenticate uuid w' = some email ↔ listVlessInbounds w'.config ≠ [] ∧
      uuid ≠ "" ∧ email ≠ "" ∧
        ∃ c ∈ desiredClients snapshot.items nowMs, c.uuid = uuid ∧ c.email = email := by
  obtain ⟨-, -, -, happlied⟩ := returned_of_in (reconcileSnapshot_applied false nowMs hhy2) h
  obtain ⟨-, x, hinstalled, -, -⟩ :=
    returned_of_in (reconcileSnapshot_in settings snapshot nowMs w) h
  have hclients : ∀ i ∈ listVlessInbounds w'.config,
      i.clients = desiredRecords (desiredClients snapshot.items nowMs) i := by
    intro i hi
    rw [hinstalled.config] at hi
    exact desiredConfig_clients hi
  constructor
  · intro i hi uuid
    rw [hclients i hi, desiredRecords]
    constructor
    · rintro ⟨record, hrecord, hid⟩
      obtain ⟨c, hc, rfl⟩ := List.mem_map.1 hrecord
      exact ⟨c, hc, Option.some.inj hid⟩
    · rintro ⟨c, hc, rfl⟩
      exact ⟨_, List.mem_map_of_mem hc, rfl⟩
  · intro uuid email
    have huuids := hdistinct.uuids nowMs
    rw [authenticate, (happlied rfl).hy2Clients, lookup_iff_mem, List.mem_reverse,
      mem_hy2Mapping hclients]
    intro v v' hv hv'
    rw [List.mem_reverse, mem_hy2Mapping hclients] at hv hv'
    obtain ⟨-, -, -, c, hc, huuid, rfl⟩ := hv
    obtain ⟨-, -, -, c', hc', huuid', rfl⟩ := hv'
    rw [List.inj_on_of_nodup_map huuids hc hc' (huuid.trans huuid'.symm)]

end Node

/-! ## All the way -/

/-- A node that downloads what was published, in whatever way the control plane goes on meanwhile,
and reconciles with success lets in exactly whom the rows entitled at the publication and who has
not expired since. -/
theorem access_delivered [DecidableEq D] (control : ControlSettings D) (canonical : Canonical D)
    (limits : ControlLimits) (wire : Wire D) (settings : AgentSettings)
    (hsize : 1 ≤ control.pageSize) (hcanonical : canonical.digest = control.digest)
    (hinjective : Function.Injective control.digest)
    -- a publication
    (before : List (ControlOp D)) (db : Db D) (hdb : controlRun control Db.empty before = db)
    (serverId : Nat) (server : Server D) (hserver : db.server serverId = some server)
    (hpublishes : publishesFor server = true) (published : Int)
    -- the requests of the node
    (request : NodeSyncRequest D)
    (hfeatures : server.features = some (sortedSet request.capabilities))
    (now : Int) (m : SnapshotManifest D) (hsync : (syncNode control serverId request now
      (controlStep control db (.publish serverId published))).1 = .manifest m)
    (answers : List (Option (RawControlResponse (SnapshotManifest D))))
    (hanswers : Served limits.maxPageBytes (wire.syncAnswer (.manifest m)) answers)
    (ops : Nat → List (ControlOp D)) (hops : ∀ i, ∀ op ∈ ops i, Spares serverId m.generation op)
    (pageAnswers : Nat → List (Option (RawControlResponse (SnapshotPage D))))
    (hpages : ∀ i < m.pageCount, Served limits.maxPageBytes (wire.pageAnswer
      (getSnapshotPage control serverId m.generation i (meanwhile control
        (controlStep control db (.publish serverId published)) ops i))) (pageAnswers i))
    (snapshot : DesiredSnapshot D)
    (hdownload : syncSnapshot canonical limits answers pageAnswers = .ok (some snapshot))
    -- its reconcile
    (nowMs : Nat) (w w' : Agent D) (hhy2 : w.hy2Clients = hy2Mapping w.config) (fates : List Fate)
    (r : ReconcileResult) (hreconcile : (reconcileSnapshot settings snapshot false nowMs).advance
      (agentSem D) fates w = (.ret r, w')) :
    (∀ i ∈ listVlessInbounds w'.config, ∀ uuid, (∃ record ∈ i.clients, record.id = some uuid) ↔
      ∃ email, db.entitles server published nowMs uuid email) ∧
    ∀ uuid email, authenticate uuid w' = some email ↔ listVlessInbounds w'.config ≠ [] ∧
      uuid ≠ "" ∧ db.entitles server published nowMs uuid email := by
  subst hdb
  have hsealed : ∀ n ∈ (controlRun control Db.empty before).snapshots, n.Sealed control :=
    sealed_run hsize before fun n hn => by cases hn
  have hledger := (Ledger.empty.run control before).step control (.publish serverId published)
  obtain ⟨n, hlatest, hitems⟩ :=
    publish_latest hsize hinjective hsealed hserver hpublishes published
  obtain ⟨server', hserver', hmode, hfeatures'⟩ := publish_server hserver published
  have hserving : Serving serverId request.capabilities
      (controlStep control (controlRun control Db.empty before)
        (.publish serverId published)) n := by
    refine ⟨⟨server', hserver', ?_, hfeatures'.trans hfeatures⟩, hlatest⟩
    rw [publishesFor, hmode]
    exact hpublishes
  have hround : syncNode control serverId request now (controlStep control
      (controlRun control Db.empty before) (.publish serverId published)) = (.manifest m,
        controlStep control (controlRun control Db.empty before)
          (.publish serverId published)) := by
    rw [syncNode_serving hserving now] at hsync ⊢
    exact Prod.ext hsync rfl
  obtain ⟨n', hlatest', rfl, rfl, hkept⟩ := syncNode_kept hround hledger
  obtain rfl : n = n' := Option.some.inj (hlatest.symm.trans hlatest')
  -- what is downloaded is what was published
  obtain ⟨hfits, rfl⟩ := (syncSnapshot_served (sealed_step hsize hsealed _ n hkept.mem) hcanonical
    hanswers (fun i => by
      obtain ⟨hkept, hledger⟩ := hkept.meanwhile hledger hops i
      exact hledger.snapshot_eq hkept.mem rfl rfl) hpages snapshot).1 hdownload
  have hdistinct : ClientsDistinct
      (DesiredSnapshot.mk n.schemaVersion n.generation n.digest n.items).items := hfits.uuids
  obtain ⟨hrecords, husers⟩ := reconciled_clients hdistinct hhy2 hreconcile
  rw [hitems] at hrecords husers
  constructor
  · intro i hi uuid
    rw [hrecords i hi]
    constructor
    · rintro ⟨c, hc, huuid⟩
      exact ⟨c.email, desired_iff_entitled.1 ⟨c, hc, huuid, rfl⟩⟩
    · rintro ⟨email, h⟩
      have hwanted : ∃ c ∈ desiredClients (buildDesiredItems control
          (controlRun control Db.empty before) server published) nowMs,
            c.uuid = uuid ∧ c.email = email := desired_iff_entitled.2 h
      obtain ⟨c, hc, huuid, -⟩ := hwanted
      exact ⟨c, hc, huuid⟩
  · intro uuid email
    rw [husers, desired_iff_entitled]
    constructor
    · rintro ⟨hne, huuid, -, h⟩
      exact ⟨hne, huuid, h⟩
    · rintro ⟨hne, huuid, h⟩
      exact ⟨hne, huuid, h.email_ne, h⟩

/-- The node after it has reconciled the three pages. -/
def pagedReconcile : AgentProg (List DesiredItem) ReconcileResult × Agent (List DesiredItem) :=
  (reconcileSnapshot liveSettings ⟨1, 1, pagedItems, pagedItems⟩ false 0).advance (agentSem _)
    (List.replicate 20 .ok) (nodeAt 0 freshConfig [])

theorem access_delivered_published :
    authenticate "uuid2" pagedReconcile.2 = some "user_2_sub_2" := by
  have hserving : Serving 1 [] pagedPublished pagedSnapshot :=
    ⟨⟨{ plainServer with desiredGeneration := 1 }, by decide, by decide,
      by decide⟩, by decide⟩
  have hsync : (syncNode onePerPage 1 ⟨0, none, []⟩ 0 pagedPublished).1 =
      .manifest pagedSnapshot.manifest := by
    rw [syncNode_serving hserving, answerSync, hserving.latest]
    rfl
  have hspared : ∀ i, ∀ op ∈ clientGone i, Spares 1 1 op := by
    intro i op hop request hack
    rw [hack, clientGone] at hop
    split at hop
    · simp at hop
    · cases hop
  have hret : pagedReconcile.1 = .ret ⟨true, true, false, 2, 0⟩ :=
    Prog.eq_ret_of_returned (by decide)
  obtain ⟨-, husers⟩ := access_delivered onePerPage itemsCanonical roomyLimits noBytes liveSettings
    (by decide) rfl Function.injective_id [.addServer plainServer, .edit pagedClients] _ rfl 1
    plainServer (by decide) (by decide) 0 ⟨0, none, []⟩ (by decide) 0
    pagedSnapshot.manifest hsync _ (served_second _) clientGone hspared _
    (fun _ _ => served_second _) ⟨1, 1, pagedItems, pagedItems⟩ (by decide) 0
    (nodeAt 0 freshConfig []) pagedReconcile.2 rfl (List.replicate 20 .ok) _ (Prod.ext hret rfl)
  refine (husers _ _).2 ⟨by decide, by decide, rfl, .inl
    ⟨{ soldSubscription 2 with clientUuid := "uuid2" }, by decide, by decide,
      .inl ⟨rfl, by decide⟩⟩⟩

end AegisVPN
