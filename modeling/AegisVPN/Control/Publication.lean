import AegisVPN.Control.Router

namespace AegisVPN
open Library
set_option autoImplicit true

/-! ## What publications leave as it was -/

def Server.withDesired (server : Server D) (generation : Nat) : Server D :=
  { server with desiredGeneration := generation }

/-- A database after publications: servers have other desired generations, and snapshots were
added, each newer than all that its server had. -/
structure Published (db db' : Db D) : Prop where
  rest : db' = { db with servers := db'.servers, snapshots := db'.snapshots }
  server : ∃ desired : Nat → Nat, ∀ serverId, db'.server serverId =
    (db.server serverId).map fun s => s.withDesired (max s.desiredGeneration (desired s.id))
  snapshots : ∃ added, db'.snapshots = db.snapshots ++ added ∧ ∀ n ∈ added,
    ∃ s s', db.server n.serverId = some s ∧ publishesFor s = true ∧
      s.desiredGeneration < n.generation ∧
      db'.server n.serverId = some s' ∧ n.generation ≤ s'.desiredGeneration

theorem Published.refl (db : Db D) : Published db db where
  rest := rfl
  server := ⟨fun _ => 0, fun serverId => by
    cases db.server serverId with
    | none => rfl
    | some s => simp [Server.withDesired]⟩
  snapshots := ⟨[], (List.append_nil _).symm, fun n hn => by cases hn⟩

theorem Published.trans {d₁ d₂ d₃ : Db D} (h : Published d₁ d₂) (h' : Published d₂ d₃) :
    Published d₁ d₃ where
  rest := by
    rw [h'.rest, h.rest]
  server := by
    obtain ⟨g, hg⟩ := h.server
    obtain ⟨g', hg'⟩ := h'.server
    refine ⟨fun serverId => max (g serverId) (g' serverId), fun serverId => ?_⟩
    rw [hg', hg, Option.map_map]
    congr 1
    funext s
    simp [Server.withDesired, max_assoc]
  snapshots := by
    obtain ⟨added, hadded, hnew⟩ := h.snapshots
    obtain ⟨added', hadded', hnew'⟩ := h'.snapshots
    refine ⟨added ++ added', by rw [hadded', hadded, List.append_assoc], fun n hn => ?_⟩
    rcases List.mem_append.1 hn with hn | hn
    · obtain ⟨s, s', hs, hp, hlt, hs', hle⟩ := hnew n hn
      obtain ⟨g, hg⟩ := h'.server
      have hg' := hg n.serverId
      rw [hs'] at hg'
      exact ⟨s, _, hs, hp, hlt, hg', hle.trans (Nat.le_max_left _ _)⟩
    · obtain ⟨s, s', hs, hp, hlt, hs', hle⟩ := hnew' n hn
      obtain ⟨g, hall⟩ := h.server
      have hg := hall n.serverId
      rw [hs] at hg
      cases hdb : d₁.server n.serverId with
      | none =>
        rw [hdb] at hg
        cases hg
      | some s₀ =>
        rw [hdb] at hg
        cases hg
        exact ⟨s₀, s', rfl, hp, (Nat.le_max_left _ _).trans_lt hlt, hs', hle⟩

theorem find?_map_of_id {servers : List (Server D)} {f : Server D → Server D}
    (hf : ∀ s, (f s).id = s.id) (id : Nat) :
    ((servers.map f).find? fun s => s.id == id) =
      (servers.find? fun s => s.id == id).map f := by
  rw [List.find?_map]
  congr 1
  congr 1
  funext s
  simp [hf]

theorem addSnapshot_server (db : Db D) (snapshot : NodeSnapshot D) (id : Nat) :
    (db.addSnapshot snapshot).server id = (db.server id).map fun s =>
      if s.id = snapshot.serverId then { s with desiredGeneration := snapshot.generation }
      else s := by
  refine find?_map_of_id (fun s => ?_) id
  split <;> rfl

theorem server_id {db : Db D} {serverId : Nat} (h : db.server serverId = some server) :
    server.id = serverId := by
  simpa using List.find?_some h

theorem server_of_mem {db : Db D} (hids : (db.servers.map Server.id).Nodup)
    {s : Server D} (hs : s ∈ db.servers) : db.server s.id = some s := by
  cases hfind : db.server s.id with
  | none => exact absurd (List.find?_eq_none.1 hfind s hs) (by simp)
  | some found =>
    exact congrArg some (List.inj_on_of_nodup_map hids (List.mem_of_find?_eq_some hfind) hs
      (server_id hfind))

section Next
variable [DecidableEq D] {settings : ControlSettings D}

theorem nextSnapshot_spec {db : Db D} (h : nextSnapshot settings db server now = some snapshot) :
    snapshot.serverId = server.id ∧ server.desiredGeneration < snapshot.generation ∧
    (∀ l, db.latestSnapshot server.id = some l → l.generation < snapshot.generation) ∧
    snapshot.items = buildDesiredItems settings db server now := by
  simp only [nextSnapshot, Option.ite_none_left_eq_some] at h
  obtain ⟨-, h⟩ := h
  cases h
  refine ⟨rfl, Nat.lt_succ_of_le (Nat.le_max_left _ _), fun l hl => ?_, rfl⟩
  rw [hl]
  exact Nat.lt_succ_of_le (Nat.le_max_right _ _)

theorem published_addSnapshot {db : Db D} (hserver : db.server serverId = some server)
    (hp : publishesFor server = true) (h : nextSnapshot settings db server now = some snapshot) :
    Published db (db.addSnapshot snapshot) := by
  obtain ⟨hid, hlt, -, -⟩ := nextSnapshot_spec h
  have hidserver := server_id hserver
  refine ⟨rfl, ⟨fun i => if i = serverId then snapshot.generation else 0, fun i => ?_⟩,
    [snapshot], rfl, fun n hn => ?_⟩
  · rw [addSnapshot_server]
    by_cases hi : i = serverId
    · simp only [hi, hserver, Option.map_some, if_pos hid.symm, if_pos hidserver,
        Nat.max_eq_right hlt.le]
      rfl
    · cases hdb : db.server i with
      | none => rfl
      | some s =>
        have hs := server_id hdb
        have hne : s.id ≠ snapshot.serverId := by
          rw [hs, hid, hidserver]
          exact hi
        have hi' : s.id ≠ serverId := hs ▸ hi
        simp only [Option.map_some, if_neg hne, if_neg hi', Nat.max_zero]
        rfl
  · rw [List.mem_singleton.1 hn, hid, hidserver, addSnapshot_server, hserver]
    exact ⟨server, _, rfl, hp, hlt, by rw [Option.map_some, if_pos hid.symm], le_rfl⟩

theorem published_publishNow {db : Db D} (h : publishNow settings serverId now db = (r, db')) :
    Published db db' := by
  rcases publishNow_cases settings serverId now db with h' | h' |
    ⟨server, snapshot, hserver, hp, hnext, h'⟩ <;> rw [h'] at h <;> cases h
  · exact .refl _
  · exact .refl _
  · exact published_addSnapshot hserver hp hnext

theorem published_publishAll {ids : List Nat} {db : Db D}
    (h : publishAll settings now ids db = (.ok (), db')) : Published db db' := by
  induction ids generalizing db with
  | nil =>
    cases h
    exact .refl _
  | cons id ids ih =>
    rw [publishAll, DbAct.andThen] at h
    cases hone : publishNow settings id now db with
    | mk r db₁ =>
      rw [hone] at h
      cases r with
      | error e => cases h
      | ok _ => exact (published_publishNow hone).trans (ih h)

end Next

/-! ## Items depend on no generation -/

section Items
variable {settings : ControlSettings D} {db db' : Db D}

theorem routeExits_map {f : Server D → Server D} (hexits : db'.exits = db.exits)
    (hf : ∀ serverId, db'.server serverId = (db.server serverId).map f) (routeId : Nat) :
    db'.routeExits routeId = (db.routeExits routeId).map fun p => (p.1, f p.2) := by
  rw [Db.routeExits, Db.routeExits, hexits, List.map_filterMap]
  congr 1
  funext e
  rw [hf, Option.map_map, Option.map_map]
  rfl

theorem buildDesiredItems_generations {desired applied : Server D → Nat}
    {digest : Server D → Option D}
    (hrest : db' = { db with servers := db'.servers, snapshots := db'.snapshots })
    (hserver : ∀ i, db'.server i = (db.server i).map fun s => { s with
      desiredGeneration := desired s, appliedGeneration := applied s, appliedDigest := digest s })
    (server : Server D) (g g' : Nat) (d : Option D) (now : Int) :
    buildDesiredItems settings db' { server with
        desiredGeneration := g, appliedGeneration := g', appliedDigest := d } now =
      buildDesiredItems settings db server now := by
  have hexits := routeExits_map (by rw [hrest]) hserver
  have hdigest : ∀ route, currentRouteDigest settings db' route =
      currentRouteDigest settings db route := by
    intro route
    rw [currentRouteDigest, currentRouteDigest, hexits, List.map_map]
    rfl
  have hroute : ∀ route, routeItems settings db' { server with
      desiredGeneration := g, appliedGeneration := g', appliedDigest := d } route =
        routeItems settings db server route := by
    intro route
    rw [routeItems, routeItems, hdigest, hexits, hserver]
    cases db.server route.entryServerId with
    | none => rfl
    | some entry =>
      simp only [Option.map_some, List.isEmpty_map, List.all_map, List.filter_map, List.map_map]
      rfl
  have hcascade : buildCascadeItems settings db' { server with
      desiredGeneration := g, appliedGeneration := g', appliedDigest := d } =
        buildCascadeItems settings db server := by
    rw [buildCascadeItems, buildCascadeItems, hrest]
    congr 1
    refine List.flatMap_congr fun route _ => ?_
    rw [← hrest]
    exact hroute route
  rw [AegisVPN.buildDesiredItems, AegisVPN.buildDesiredItems, hcascade]
  rw [hrest]
  rfl

theorem Published.buildDesiredItems (h : Published db db') (server : Server D)
    (generation : Nat) (now : Int) :
    buildDesiredItems settings db' (server.withDesired generation) now =
      buildDesiredItems settings db server now := by
  obtain ⟨g, hg⟩ := h.server
  exact buildDesiredItems_generations h.rest hg server generation _ _ now

theorem latestSnapshot_append {added : List (NodeSnapshot D)}
    (h : db'.snapshots = db.snapshots ++ added) (hn : ∀ n ∈ added, n.serverId ≠ serverId) :
    db'.latestSnapshot serverId = db.latestSnapshot serverId := by
  have hnil : (added.filter fun s => s.serverId == serverId) = [] :=
    List.filter_eq_nil_iff.2 fun n hmem => by simpa using hn n hmem
  rw [Db.latestSnapshot, Db.latestSnapshot, h, List.filter_append, hnil, List.append_nil]

theorem le_latestSnapshot (h : db.latestSnapshot serverId = some l) (hn : n ∈ db.snapshots)
    (hid : n.serverId = serverId) : n.generation ≤ l.generation :=
  List.le_of_mem_argmax (List.mem_filter.2 ⟨hn, by simpa using hid⟩) h

end Items

section Due
variable [DecidableEq D] {settings : ControlSettings D} {db db' : Db D}

/-- Whether a snapshot is due depends on the snapshots of the server alone. -/
theorem Published.isSome_nextSnapshot {server : Server D} (h : Published db db')
    (hl : db'.latestSnapshot server.id = db.latestSnapshot server.id) (generation : Nat)
    (now : Int) :
    (nextSnapshot settings db' (server.withDesired generation) now).isSome =
      (nextSnapshot settings db server now).isSome := by
  have hl' : db'.latestSnapshot (server.withDesired generation).id =
      db.latestSnapshot server.id := hl
  rw [nextSnapshot, nextSnapshot]
  simp only [h.buildDesiredItems, hl']
  split <;> split <;> simp_all [supportsCascade, Server.withDesired]

theorem publishAll_due {ids : List Nat} (hids : ids.Nodup)
    (h : publishAll settings now ids db = (.ok (), db')) (hmem : serverId ∈ ids)
    (hserver : db.server serverId = some server) (hp : publishesFor server = true)
    (hdue : (nextSnapshot settings db server now).isSome = true) :
    ∃ n ∈ db'.snapshots, n.serverId = serverId ∧ server.desiredGeneration < n.generation := by
  induction ids generalizing db server with
  | nil => cases hmem
  | cons i ids ih =>
    rw [publishAll, DbAct.andThen] at h
    cases hone : publishNow settings i now db with
    | mk r db₁ =>
      rw [hone] at h
      cases r with
      | error e => cases h
      | ok _ =>
        have hrest := published_publishAll h
        by_cases hi : serverId = i
        · rw [← hi] at hone
          rcases publishNow_cases settings serverId now db with h' | h' |
            ⟨server', snapshot, hserver', -, hnext, h'⟩
          · rw [publishNow, hserver, Option.any_some, if_pos hp] at h'
            obtain ⟨snapshot, hsnapshot⟩ := Option.isSome_iff_exists.1 hdue
            split at h'
            · cases h'
            · simp only [DbAct.andThen, lockServer, hserver, Option.isSome_some, ↓reduceIte,
                writeSnapshot, hsnapshot, Pending.write, Prod.mk.injEq, true_and] at h'
              have hsnapshots := congrArg (fun d => d.snapshots.length) h'
              simp [Db.addSnapshot] at hsnapshots
          · rw [hone] at h'
            cases h'
          · rw [hserver] at hserver'
            cases hserver'
            rw [hone] at h'
            cases h'
            obtain ⟨hid, hlt, -, -⟩ := nextSnapshot_spec hnext
            obtain ⟨added, hadded, -⟩ := hrest.snapshots
            refine ⟨snapshot, ?_, hid.trans (server_id hserver), hlt⟩
            rw [hadded, Db.addSnapshot]
            simp
        · have hfirst := published_publishNow hone
          obtain ⟨g, hg⟩ := hfirst.server
          have hserver₁ := hg serverId
          rw [hserver, Option.map_some] at hserver₁
          have hlatest : db₁.latestSnapshot server.id = db.latestSnapshot server.id := by
            rcases publishNow_cases settings i now db with h' | h' |
              ⟨server', snapshot, hserver', -, hnext, h'⟩ <;> rw [hone] at h' <;> cases h'
            · rfl
            · refine latestSnapshot_append (by rfl : _ = db.snapshots ++ [snapshot]) fun n hn => ?_
              rw [List.mem_singleton.1 hn, (nextSnapshot_spec hnext).1, server_id hserver',
                server_id hserver]
              exact fun h => hi h.symm
          have hdue₁ : (nextSnapshot settings db₁ _ now).isSome = _ :=
            hfirst.isSome_nextSnapshot hlatest (max server.desiredGeneration (g server.id)) now
          obtain ⟨n, hn, hid, hlt⟩ := ih (List.nodup_cons.1 hids).2 h
            ((List.mem_cons.1 hmem).resolve_left hi) hserver₁ hp (hdue₁.trans hdue)
          exact ⟨n, hn, hid, (Nat.le_max_left _ _).trans_lt hlt⟩

end Due

/-! ## Rows of servers -/

theorem addServer_server {db : Db D} (server : Server D) (h : (db.server server.id).isSome = false)
    (serverId : Nat) : Db.server { db with servers := db.servers ++ [server] } serverId =
      if serverId = server.id then some server else db.server serverId := by
  rw [Db.server, List.find?_append]
  by_cases hid : serverId = server.id
  · have hnone : db.servers.find? (fun s => s.id == serverId) = none := by
      rw [hid]
      simpa [Db.server] using h
    rw [if_pos hid, hnone]
    simp [hid]
  · have hid' : (server.id == serverId) = false := by simpa using fun h => hid h.symm
    rw [if_neg hid]
    simp [hid', Db.server]

theorem server_of_map {columns : Server D → γ} {db next : Db D}
    (hid : ∀ s s', columns s = columns s' → s.id = s'.id)
    (h : next.servers.map columns = db.servers.map columns) (serverId : Nat) :
    (next.server serverId).map columns = (db.server serverId).map columns := by
  rw [Db.server, Db.server]
  generalize next.servers = l, db.servers = l' at h
  induction l generalizing l' with
  | nil =>
    cases l' with
    | nil => rfl
    | cons s' l' => cases h
  | cons s l ih =>
    cases l' with
    | nil => cases h
    | cons s' l' =>
      rw [List.map_cons, List.map_cons, List.cons.injEq] at h
      rw [List.find?_cons, List.find?_cons, hid s s' h.1]
      split
      · exact congrArg some h.1
      · exact ih _ h.2

/-! ## What acknowledgements write -/

theorem setApplied_server (db : Db D) (serverId : Nat) (request : NodeAckRequest D) (i : Nat) :
    (setApplied serverId request db).server i = (db.server i).map fun s =>
      if s.id = serverId then { s with
        appliedGeneration := request.generation, appliedDigest := some request.digest }
      else s := by
  refine find?_map_of_id (fun s => ?_) i
  split <;> rfl

theorem writeAck_spec (serverId : Nat) (request : NodeAckRequest D) (db : Db D) :
    (writeAck serverId request db).links = db.links.map (fun l =>
      if l.serverId = serverId then { l with isSynced := true } else l) ∧
    (writeAck serverId request db).subscriptions = db.subscriptions ∧
    (∀ i, (writeAck serverId request db).server i = (setApplied serverId request db).server i) ∧
    (writeAck serverId request db).snapshots =
      (pruneAcknowledgedSnapshots serverId request.generation db).snapshots := by
  simp only [writeAck, markLinks, pruneAcknowledgedSnapshots, recordCascadeAck, Db.server]
  split <;> exact ⟨rfl, rfl, fun _ => rfl, rfl⟩

theorem prune_snapshots (serverId generation : Nat) (db : Db D) :
    (pruneAcknowledgedSnapshots serverId generation db).snapshots.Sublist db.snapshots ∧
    ∀ i, i ≠ serverId → (pruneAcknowledgedSnapshots serverId generation db).latestSnapshot i =
      db.latestSnapshot i := by
  rw [pruneAcknowledgedSnapshots]
  split
  · exact ⟨List.Sublist.refl _, fun i _ => rfl⟩
  · refine ⟨List.filter_sublist, fun i hi => ?_⟩
    rw [Db.latestSnapshot, Db.latestSnapshot, List.filter_filter]
    congr 1
    refine List.filter_congr fun n _ => ?_
    by_cases hid : n.serverId = i
    · have hne : (n.serverId == serverId) = false := by simpa [hid] using hi
      simp [hid, hid ▸ hne]
    · simp [hid]

end AegisVPN
