import AegisVPN.Bot.SyncRuns

namespace AegisVPN
open Library
set_option autoImplicit true

variable {D : Type}

/-- A generation that the node acknowledged and that has the UUID. -/
def SyncWorld.Acked (w : SyncWorld D) (serverId : Nat) (uuid : String) : Prop :=
  ∃ n ∈ w.acked, n.serverId = serverId ∧ n.serves uuid = true

def SyncWorld.AckedUpTo (w : SyncWorld D) (serverId bound : Nat) (uuid : String) : Prop :=
  ∃ n ∈ w.acked, n.serverId = serverId ∧ n.serves uuid = true ∧ n.generation ≤ bound

/-- Each link of a pull node that is synced has its UUID in an acknowledged snapshot. -/
def SyncWorld.Served (w : SyncWorld D) : Prop :=
  ∀ link ∈ w.db.links, link.isSynced = true → ∀ server ∈ w.db.server link.serverId,
    server.controlMode = .pull → ∀ sub ∈ w.db.subscriptions, sub.id = link.subscriptionId →
      w.Acked link.serverId sub.clientUuid

/-- The links that an acknowledgement is about to mark have their UUID in a snapshot acknowledged
so far, up to its generation. -/
def SyncWorld.Marks (w : SyncWorld D) (ack : Nat × NodeAckRequest D) : Prop :=
  ∀ server ∈ w.db.server ack.1, server.controlMode = .pull → ∀ link ∈ w.db.links,
    link.serverId = ack.1 → link.isSynced = false →
    ∀ sub ∈ w.db.subscriptions, sub.id = link.subscriptionId →
      w.AckedUpTo ack.1 ack.2.generation sub.clientUuid

/-- What is synced after the acknowledgement was so before, or has its UUID in a snapshot that is
acknowledged, up to the generation. -/
def SyncWorld.MarkedUpTo (w w' : SyncWorld D) (ack : Nat × NodeAckRequest D) : Prop :=
  ∀ link ∈ w'.db.links, link.isSynced = true → ∀ server ∈ w'.db.server link.serverId,
    server.controlMode = .pull → ∀ sub ∈ w'.db.subscriptions, sub.id = link.subscriptionId →
      link ∈ w.db.links ∨
        link.serverId = ack.1 ∧ w'.AckedUpTo ack.1 ack.2.generation sub.clientUuid

/-- A rotated UUID leaves no link of a pull node that is synced but was not loaded so. -/
def SyncWorld.Rotates (w : SyncWorld D) (sync : LoadedSync) : Prop :=
  sync.old.clientUuid ≠ sync.new.clientUuid → ∀ link ∈ w.db.links,
    link.subscriptionId = sync.old.id → link.isSynced = true →
    ∀ server ∈ w.db.server link.serverId, server.controlMode = .pull →
      ∃ l ∈ sync.loaded.find? fun l => l.serverId == link.serverId, l.isSynced = true

/-- Acknowledgements mark what they cover, and rotations clear what they rotate. -/
def SyncWorld.Covers (w : SyncWorld D) : SyncEvent D → Prop
  | .commitAck i => ∀ ack ∈ w.acks[i]?, w.Marks ack
  | .commitSync i _ => ∀ sync ∈ w.syncs[i]?, w.Rotates sync
  | _ => True

instance decidableServed (w : SyncWorld D) : Decidable w.Served :=
  inferInstanceAs (Decidable (∀ link ∈ w.db.links, link.isSynced = true →
    ∀ server ∈ w.db.server link.serverId, server.controlMode = .pull →
      ∀ sub ∈ w.db.subscriptions, sub.id = link.subscriptionId →
        ∃ n ∈ w.acked, n.serverId = link.serverId ∧ n.serves sub.clientUuid = true))

instance decidableMarks (w : SyncWorld D) (ack : Nat × NodeAckRequest D) :
    Decidable (w.Marks ack) :=
  inferInstanceAs (Decidable (∀ server ∈ w.db.server ack.1, server.controlMode = .pull →
    ∀ link ∈ w.db.links, link.serverId = ack.1 → link.isSynced = false →
      ∀ sub ∈ w.db.subscriptions, sub.id = link.subscriptionId →
        ∃ n ∈ w.acked, n.serverId = ack.1 ∧ n.serves sub.clientUuid = true ∧
          n.generation ≤ ack.2.generation))

instance decidableRotates (w : SyncWorld D) (sync : LoadedSync) : Decidable (w.Rotates sync) :=
  inferInstanceAs (Decidable (_ → _))

instance decidableCovers (w : SyncWorld D) : ∀ e, Decidable (w.Covers e)
  | .commitAck i => inferInstanceAs (Decidable (∀ ack ∈ w.acks[i]?, w.Marks ack))
  | .commitSync i _ => inferInstanceAs (Decidable (∀ sync ∈ w.syncs[i]?, w.Rotates sync))
  | .loadSync .. => .isTrue trivial
  | .publish .. => .isTrue trivial
  | .receiveAck .. => .isTrue trivial
  | .addServer .. => .isTrue trivial
  | .other .. => .isTrue trivial

/-- What was loaded for a synchronisation stays right about the modes of the servers. -/
structure LoadedSync.Fits (sync : LoadedSync) (db : Db D) : Prop where
  pull : ∀ r ∈ sync.results, ∀ server, db.server r.1 = some server →
    server.controlMode = .pull → r.2 = false
  known : ∀ r ∈ sync.results, (db.server r.1).isSome = true
  loaded : ∀ l ∈ sync.loaded, ∃ r ∈ sync.results, r.1 = l.serverId

/-- Each server keeps its mode. -/
def SameModes (db db' : Db D) : Prop :=
  ∀ serverId server, db.server serverId = some server →
    ∃ server', db'.server serverId = some server' ∧ server'.controlMode = server.controlMode

theorem SameModes.back {db db' : Db D} (h : SameModes db db')
    (hs : (db.server serverId).isSome = true) (h' : db'.server serverId = some server') :
    ∃ server, db.server serverId = some server ∧ server'.controlMode = server.controlMode := by
  obtain ⟨server, hserver⟩ := Option.isSome_iff_exists.1 hs
  obtain ⟨server'', hserver'', hmode⟩ := h serverId server hserver
  rw [h'] at hserver''
  cases hserver''
  exact ⟨server, hserver, hmode⟩

theorem LoadedSync.Fits.later {sync : LoadedSync} {db db' : Db D} (h : sync.Fits db)
    (hm : SameModes db db') : sync.Fits db' where
  pull r hr server' hs' hp := by
    obtain ⟨server, hs, hmode⟩ := hm.back (h.known r hr) hs'
    exact h.pull r hr server hs (hmode ▸ hp)
  known r hr := by
    obtain ⟨server, hs⟩ := Option.isSome_iff_exists.1 (h.known r hr)
    obtain ⟨server', hs', -⟩ := hm r.1 server hs
    rw [hs']
    rfl
  loaded := h.loaded

theorem SameModes.refl (db : Db D) : SameModes db db := fun _ server h => ⟨server, h, rfl⟩

theorem Published.sameModes {db db' : Db D} (h : Published db db') : SameModes db db' := by
  intro serverId server hs
  obtain ⟨g, hg⟩ := h.server
  have hserver := hg serverId
  rw [hs] at hserver
  exact ⟨_, hserver, rfl⟩

theorem sameModes_of_control {db db' : Db D}
    (h : db'.servers.map Server.control = db.servers.map Server.control) : SameModes db db' := by
  intro serverId server hs
  have hmap := server_of_control h serverId
  rw [hs] at hmap
  obtain ⟨server', hs', hcontrol⟩ := Option.map_eq_some_iff.1 hmap
  exact ⟨server', hs', congrArg (fun c => c.2.1) hcontrol⟩

theorem writeAck_sameModes (serverId : Nat) (request : NodeAckRequest D) (db : Db D) :
    SameModes db (writeAck serverId request db) := by
  intro i server hs
  obtain ⟨-, -, hserver, -⟩ := writeAck_spec serverId request db
  refine ⟨_, by rw [hserver, setApplied_server, hs]; rfl, ?_⟩
  dsimp only
  split <;> rfl

theorem transact_cases (act : DbAct D Unit) (db : Db D) :
    transact act db = db ∨ ∃ db', act db = (.ok (), db') ∧ transact act db = db' := by
  rw [transact]
  cases h : act db with
  | mk r db' =>
    cases r with
    | error e => exact .inl rfl
    | ok _ => exact .inr ⟨db', rfl, rfl⟩

section World
variable [DecidableEq D] {settings : ControlSettings D}

theorem syncTransaction_ok {sync : LoadedSync} {db db' : Db D}
    (h : syncTransaction settings sync now db = (.ok (), db')) :
    ∃ db₁ db₂, Pending.write sync.writes db = (.ok (), db₂) ∧
      Pending.write (dirtySubscription sync.old sync.new) db = (.ok (), db₁) ∧
      Pending.write (sync.results.flatMap (dirtyLink sync.old.id sync.loaded)) db₁ =
        (.ok (), db₂) ∧
      publishAll settings now (sortedIds (sync.results.map Prod.fst)) db₂ = (.ok (), db') := by
  rw [syncTransaction, DbAct.andThen] at h
  cases hwrite : Pending.write sync.writes db with
  | mk r db₂ =>
    rw [hwrite] at h
    cases r with
    | error e => cases h
    | ok _ =>
      obtain ⟨db₁, hsub, hlinks⟩ := write_split hwrite
      exact ⟨db₁, db₂, rfl, hsub, hlinks, h⟩

/-- What the invariant of the runs is made of. -/
structure SyncWorld.Sound (w : SyncWorld D) : Prop where
  served : w.Served
  fits : ∀ sync ∈ w.syncs, sync.Fits w.db

omit [DecidableEq D] in
theorem SyncWorld.Acked.mono {w w' : SyncWorld D} (h : w.Acked serverId uuid)
    (hsub : ∀ n ∈ w.acked, n ∈ w'.acked) : w'.Acked serverId uuid := by
  obtain ⟨n, hn, hserves⟩ := h
  exact ⟨n, hsub n hn, hserves⟩

omit [DecidableEq D] in
/-- Steps that set no flag and rotate no UUID. -/
theorem SyncWorld.Served.of_links {w w' : SyncWorld D} (h : w.Served)
    (hacked : ∀ n ∈ w.acked, n ∈ w'.acked)
    (hmodes : ∀ serverId server', w'.db.server serverId = some server' →
      server'.controlMode = .pull →
      ∃ server, w.db.server serverId = some server ∧ server.controlMode = .pull)
    (hlinks : ∀ link ∈ w'.db.links, link.isSynced = true → ∀ server',
      w'.db.server link.serverId = some server' → server'.controlMode = .pull →
      ∀ sub' ∈ w'.db.subscriptions, sub'.id = link.subscriptionId → link ∈ w.db.links ∧
        ∃ sub ∈ w.db.subscriptions, sub.id = sub'.id ∧ sub.clientUuid = sub'.clientUuid) :
    w'.Served := by
  intro link hlink hsynced server' hs' hp sub' hsub' hid
  obtain ⟨hmem, sub, hsub, hsubid, huuid⟩ := hlinks link hlink hsynced server' hs' hp sub' hsub' hid
  obtain ⟨server, hs, hpull⟩ := hmodes link.serverId server' hs' hp
  have hserved := h link hmem hsynced server hs hpull sub hsub (hsubid.trans hid)
  exact huuid ▸ hserved.mono hacked

theorem syncTransaction_served {w : SyncWorld D} (h : w.Sound) {sync : LoadedSync}
    (hi : w.syncs[i]? = some sync) (hc : w.Covers (.commitSync i now))
    (ho : syncTransaction settings sync now w.db = (.ok (), db'))
    (hfits : sync.Fits w.db) {syncs : List LoadedSync} :
    SyncWorld.Served { w with db := db', syncs := syncs } ∧ SameModes w.db db' := by
  obtain ⟨db₁, db₂, -, hsub, hlinks, hpublish⟩ := syncTransaction_ok ho
  obtain ⟨hframe₁, hsubs⟩ := dirtySubscription_write hsub
  obtain ⟨hframe₂, hsynced⟩ := dirtyLinks_write hlinks
  have hpublished := published_publishAll hpublish
  have hserver₂ : ∀ serverId, db₂.server serverId = w.db.server serverId := fun serverId => by
    rw [hframe₂, hframe₁]
    rfl
  have hmodes : SameModes w.db db' := fun serverId server hs =>
    hpublished.sameModes serverId server (hserver₂ serverId ▸ hs)
  have hback : ∀ serverId server', db'.server serverId = some server' →
      ∃ server, w.db.server serverId = some server ∧
        server'.controlMode = server.controlMode := by
    intro serverId server' hs'
    obtain ⟨g, hg⟩ := hpublished.server
    have hserver := hg serverId
    rw [hs', hserver₂] at hserver
    obtain ⟨server, hs, rfl⟩ := Option.map_eq_some_iff.1 hserver.symm
    exact ⟨server, hs, rfl⟩
  refine ⟨h.served.of_links (fun n hn => hn) (fun serverId server' hs' hp => ?_)
    (fun link hlink hflag server' hs' hp sub' hsub' hid => ?_), hmodes⟩
  · obtain ⟨server, hs, hmode⟩ := hback serverId server' hs'
    exact ⟨server, hs, hmode ▸ hp⟩
  · obtain ⟨server, hs, hmode⟩ := hback link.serverId server' hs'
    have hpull : server.controlMode = .pull := hmode ▸ hp
    have hlink₂ : link ∈ db₂.links := by
      have hl : db'.links = db₂.links := by rw [hpublished.rest]
      exact hl ▸ hlink
    have hsub₁ : sub' ∈ db₁.subscriptions := by
      have hl : db'.subscriptions = db₁.subscriptions := by rw [hpublished.rest, hframe₂]
      exact hl ▸ hsub'
    obtain ⟨hmem, hnot⟩ := hsynced link hlink₂ hflag fun r hr hrid =>
      hfits.pull r hr server (hrid ▸ hs) hpull
    have hmem₀ : link ∈ w.db.links := by
      have hl : db₁.links = w.db.links := by rw [hframe₁]
      exact hl ▸ hmem
    obtain ⟨sub, hsub₀, hsubid, huuid⟩ := hsubs sub' hsub₁
    refine ⟨hmem₀, sub, hsub₀, hsubid, ?_⟩
    by_cases hrotated : sub.id = sync.old.id ∧ sync.old.clientUuid ≠ sync.new.clientUuid
    · have hlinkid : link.subscriptionId = sync.old.id := by rw [← hid, ← hsubid, hrotated.1]
      obtain ⟨l, hfind, hl⟩ := hc sync hi hrotated.2 link hmem₀ hlinkid hflag server hs hpull
      obtain ⟨r, hr, hrid⟩ := hfits.loaded l (List.mem_of_find?_eq_some hfind)
      have hlid : l.serverId = link.serverId := by simpa using List.find?_some hfind
      have hfalse := hnot hlinkid r hr (hrid.trans hlid) l hfind
      rw [hl] at hfalse
      cases hfalse
    · rw [huuid, if_neg hrotated]

omit [DecidableEq D] in
theorem writeAck_mode_back {request : NodeAckRequest D} {db : Db D}
    (h : (writeAck serverId request db).server i = some server') :
    ∃ server, db.server i = some server ∧ server'.controlMode = server.controlMode := by
  rw [(writeAck_spec serverId request db).2.2.1, setApplied_server] at h
  obtain ⟨server, hserver, rfl⟩ := Option.map_eq_some_iff.1 h
  refine ⟨server, hserver, ?_⟩
  split <;> rfl

omit [DecidableEq D] in
theorem writeAck_marked {w : SyncWorld D} {ack : Nat × NodeAckRequest D}
    (hi : w.acks[i]? = some ack) (hc : w.Covers (.commitAck i))
    {acks : List (Nat × NodeAckRequest D)} :
    w.MarkedUpTo { w with db := writeAck ack.1 ack.2 w.db, acks := acks } ack := by
  obtain ⟨hlinks, hsubs, -, -⟩ := writeAck_spec ack.1 ack.2 w.db
  intro link hlink hflag server' hs' hp sub hsub hid
  obtain ⟨server, hserver, hmode⟩ := writeAck_mode_back hs'
  obtain ⟨link₀, hmem₀, rfl⟩ := List.mem_map.1 (hlinks ▸ hlink)
  by_cases hid₀ : link₀.serverId = ack.1
  · simp only [if_pos hid₀] at hserver hid ⊢
    by_cases hflag₀ : link₀.isSynced = true
    · refine .inl ?_
      rwa [← hflag₀]
    · exact .inr ⟨hid₀, hc ack hi server (hid₀ ▸ hserver) (hmode ▸ hp) link₀ hmem₀ hid₀
        (by simpa using hflag₀) sub (hsubs ▸ hsub) hid⟩
  · rw [if_neg hid₀]
    exact .inl hmem₀

omit [DecidableEq D] in
theorem writeAck_served {w : SyncWorld D} (h : w.Sound) {ack : Nat × NodeAckRequest D}
    (hi : w.acks[i]? = some ack) (hc : w.Covers (.commitAck i))
    {acks : List (Nat × NodeAckRequest D)} :
    SyncWorld.Served { w with db := writeAck ack.1 ack.2 w.db, acks := acks } := by
  obtain ⟨-, hsubs, -, -⟩ := writeAck_spec ack.1 ack.2 w.db
  intro link hlink hflag server' hs' hp sub hsub hid
  obtain ⟨server, hserver, hmode⟩ := writeAck_mode_back hs'
  have hmarked : w.MarkedUpTo { w with db := writeAck ack.1 ack.2 w.db, acks := acks } ack :=
    writeAck_marked hi hc
  rcases hmarked link hlink hflag server' hs' hp sub hsub hid with
    hold | ⟨hid', n, hn, hnid, hserves, -⟩
  · exact h.served link hold hflag server hserver (hmode ▸ hp) sub (hsubs ▸ hsub) hid
  · exact ⟨n, hn, hnid.trans hid'.symm, hserves⟩

theorem SyncWorld.Sound.step {w : SyncWorld D} (h : w.Sound) (e : SyncEvent D)
    (hc : w.Covers e) : (w.step settings e).Sound := by
  cases e with
  | loadSync old new serverIds pushed =>
    refine ⟨h.served, fun sync hsync => ?_⟩
    rcases List.mem_append.1 hsync with hsync | hsync
    · exact h.fits sync hsync
    · rw [List.mem_singleton.1 hsync]
      refine ⟨fun r hr server => syncResults_pull hr, fun r hr => ?_, fun l hl => ?_⟩
      · obtain ⟨s, hs, rfl⟩ := List.mem_map.1 hr
        obtain ⟨i, -, hi⟩ := List.mem_filterMap.1 hs
        have hsome : w.db.server s.id = some s := (server_id hi).symm ▸ hi
        exact Option.isSome_iff_exists.2 ⟨s, hsome⟩
      · have hmem := (List.mem_filter.1 hl).2
        rw [Bool.and_eq_true, List.contains_iff_mem] at hmem
        obtain ⟨r, hr, hrid⟩ := List.mem_map.1 hmem.2
        exact ⟨r, hr, hrid⟩
  | commitSync i now =>
    rw [SyncWorld.step]
    cases hi : w.syncs[i]? with
    | none => exact h
    | some sync =>
      have hfits := h.fits sync (List.mem_of_getElem? hi)
      rcases transact_cases (syncTransaction settings sync now) w.db with
        ht | ⟨db', ho, ht⟩ <;> simp only [ht]
      · exact ⟨h.served, fun s hs => h.fits s (List.mem_of_mem_eraseIdx hs)⟩
      · obtain ⟨hserved, hmodes⟩ := syncTransaction_served h hi hc ho hfits
        exact ⟨hserved, fun s hs => (h.fits s (List.mem_of_mem_eraseIdx hs)).later hmodes⟩
  | publish serverId now =>
    rw [SyncWorld.step]
    rcases transact_cases (publishNow settings serverId now) w.db with
      ht | ⟨db', ho, ht⟩ <;> simp only [ht]
    · exact h
    · have hp := published_publishNow ho
      have hrest := hp.rest
      refine ⟨h.served.of_links (fun n hn => hn) (fun i server' hs' hpull => ?_)
        (fun link hlink _ server' _ _ sub' hsub' _ => ?_), fun s hs => (h.fits s hs).later
          hp.sameModes⟩
      · obtain ⟨g, hg⟩ := hp.server
        have hserver := hg i
        rw [hs'] at hserver
        obtain ⟨server, hs, rfl⟩ := Option.map_eq_some_iff.1 hserver.symm
        exact ⟨server, hs, hpull⟩
      · have hlinks : db'.links = w.db.links := by rw [hrest]
        have hsubs : db'.subscriptions = w.db.subscriptions := by rw [hrest]
        exact ⟨hlinks ▸ hlink, sub', hsubs ▸ hsub', rfl, rfl⟩
  | receiveAck serverId request =>
    rw [SyncWorld.step]
    split
    · exact h
    · refine ⟨h.served.of_links (fun n hn => List.mem_append_left _ hn)
        (fun i server' hs' hpull => ⟨server', hs', hpull⟩)
        (fun link hlink _ server' _ _ sub' hsub' _ => ⟨hlink, sub', hsub', rfl, rfl⟩), h.fits⟩
  | commitAck i =>
    rw [SyncWorld.step]
    cases hi : w.acks[i]? with
    | none => exact h
    | some ack =>
      exact ⟨writeAck_served h hi hc, fun s hs => (h.fits s hs).later
        (writeAck_sameModes ack.1 ack.2 w.db)⟩
  | addServer server =>
    rw [SyncWorld.step]
    split
    · exact h
    · rename_i hnew
      rw [Db.namesServer, Bool.or_eq_true, Bool.or_eq_true, not_or, not_or] at hnew
      obtain ⟨⟨hserver, hlinks⟩, -⟩ := hnew
      have hlookup := @addServer_server D w.db { server with
        desiredGeneration := 0, appliedGeneration := 0, appliedDigest := none }
        (by simpa using hserver)
      have hmodes : SameModes w.db { w.db with servers := w.db.servers ++ [{ server with
          desiredGeneration := 0, appliedGeneration := 0, appliedDigest := none }] } := by
        intro i s hs
        refine ⟨s, ?_, rfl⟩
        rw [hlookup, if_neg, hs]
        rintro rfl
        exact hserver (by rw [hs]; rfl)
      refine ⟨fun link hlink hflag server' hs' hpull sub hsub hid => ?_, fun s hs =>
        (h.fits s hs).later hmodes⟩
      have hne : link.serverId ≠ server.id := by
        intro he
        exact hlinks (List.any_eq_true.2 ⟨link, hlink, by simpa using he⟩)
      rw [hlookup, if_neg hne] at hs'
      exact h.served link hlink hflag server' hs' hpull sub hsub hid
  | other next =>
    rw [SyncWorld.step]
    split
    · rename_i helse
      obtain ⟨hlinks, hsubs, -, hcontrol⟩ := helse
      have hmodes := sameModes_of_control hcontrol
      refine ⟨h.served.of_links (fun n hn => hn) (fun i server' hs' hpull => ?_)
        (fun link hlink _ server' _ _ sub' hsub' hid =>
          ⟨hlinks link hlink, hsubs link hlink sub' hsub' hid⟩), fun s hs =>
            (h.fits s hs).later hmodes⟩
      obtain ⟨server, hs, hmode⟩ := sameModes_of_control hcontrol.symm i server' hs'
      exact ⟨server, hs, hmode ▸ hpull⟩
    · exact h

/-- In a run whose acknowledgements and rotations keep to what they cover, a link that is synced
has its UUID in an acknowledged snapshot, and none is marked by an earlier generation. -/
theorem synced_links_are_served (es : List (SyncEvent D))
    (h : Along (SyncWorld.step settings) SyncWorld.Covers .fresh es) :
    (es.foldl (SyncWorld.step settings) .fresh).Served ∧
    ∀ es₁ i es₂, es = es₁ ++ .commitAck i :: es₂ →
      ∀ ack ∈ (es₁.foldl (SyncWorld.step settings) .fresh).acks[i]?,
        (es₁.foldl (SyncWorld.step settings) .fresh).MarkedUpTo
          ((es₁.foldl (SyncWorld.step settings) .fresh).step settings (.commitAck i)) ack := by
  have hfresh : (SyncWorld.fresh : SyncWorld D).Sound :=
    ⟨fun link hlink => (by cases hlink), fun sync hsync => (by cases hsync)⟩
  refine ⟨(run_invariant hfresh (fun w e hw hc => hw.step e hc) h).served, ?_⟩
  rintro es₁ i es₂ rfl ack hack
  rw [SyncWorld.step, hack]
  exact writeAck_marked hack (along_append.1 h).2.1

end World

/-- A user with a subscription and a device-free account. -/
def freshSubscription (id : Nat) (uuid : String) : Subscription :=
  ⟨id, id, s!"token{id}", none, uuid, 30, 0, 3000000, true⟩

def pulledServer : Server (List DesiredItem) :=
  ⟨1, "203.0.113.1", 443, "pk", "sid", "agent", .pull, 0, 0, none, none, .both, true, true⟩

/-- Two users with a subscription each, and a pull node. -/
def setUp : List (SyncEvent (List DesiredItem)) :=
  [.addServer pulledServer,
    .other { Db.empty with
      users := [⟨1, 10, false, false, none⟩, ⟨2, 20, false, false, none⟩]
      subscriptions := [freshSubscription 1 "u1", freshSubscription 2 "u2"]
      servers := [pulledServer] }]

def syncEvents (sub : Subscription) : List (SyncEvent (List DesiredItem)) :=
  [.loadSync sub sub [1] [], .commitSync 0 0]

def ackEvents (generation : Nat) (items : List DesiredItem) :
    List (SyncEvent (List DesiredItem)) :=
  [.receiveAck 1 ⟨generation, items, true⟩, .commitAck 0]

def firstItems : List DesiredItem := [.client ⟨"u1", "user_1_sub_1", 3000⟩]

theorem synced_links_are_served_once :
    let es := setUp ++ syncEvents (freshSubscription 1 "u1") ++ ackEvents 1 firstItems
    (es.foldl (SyncWorld.step listSettings) .fresh).db.links = [⟨1, 1, true⟩] ∧
      (es.foldl (SyncWorld.step listSettings) .fresh).Served := by
  intro es
  have hcovers : Along (SyncWorld.step listSettings) SyncWorld.Covers .fresh es := by
    decide
  exact ⟨by decide, (synced_links_are_served es hcovers).1⟩

/-- The second subscription is in generation 2 alone, and is marked by generation 1. -/
theorem older_generation_marks_link :
    let es := setUp ++ syncEvents (freshSubscription 1 "u1") ++
      syncEvents (freshSubscription 2 "u2") ++ ackEvents 1 firstItems
    (es.foldl (SyncWorld.step listSettings) .fresh).db.links = [⟨1, 1, true⟩, ⟨2, 1, true⟩] ∧
      (es.foldl (SyncWorld.step listSettings) .fresh).acked.map NodeSnapshot.generation = [1] ∧
      ¬ (es.foldl (SyncWorld.step listSettings) .fresh).Served := by
  decide

end AegisVPN
