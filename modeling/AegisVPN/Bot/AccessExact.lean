import AegisVPN.Bot.PushCommits
import AegisVPN.Library.Toggles

namespace AegisVPN
open Library
set_option autoImplicit true

/-! ## The links that a reconciliation leaves -/

/-- A link of a subscription after its reconciliation: one that it keeps, or one to a server that it
gains. -/
def Db.Relinked (db : Db D) (target : Option Nat) (sub : Subscription)
    (l : SubscriptionServer) : Prop :=
  (l ∈ db.links ∨ ∃ s ∈ db.gainedServers target sub, l = ⟨sub.id, s.id, pushesTo s⟩) ∧
    l.serverId ∉ (db.lostLinks target sub).map fun l => l.1.serverId

section Run
variable [DecidableEq D] {settings : ControlSettings D} {w w' : Solo (Db D)} {n n' : Agents}

omit [DecidableEq D] in
theorem syncToServers_results {clients : List (String × String)} {servers : List (Server D)}
    {results : List (Nat × Bool)}
    (h : (syncToServers clients servers).run (Solo.serveAll true Agents.handle) (w, n) =
      (.ok results, (w', n'))) : results = (servers.map fun s => (s.id, pushesTo s)) ∧ w' = w := by
  have hrun := Prog.run_foldlM (fun xs (c : List (Nat × Bool)) (v : Solo (Db D) × Agents) =>
    c ++ (xs.map fun s => (s.id, pushesTo s)) = (servers.map fun s => (s.id, pushesTo s)) ∧
      v.1 = w) ?_ ⟨rfl, rfl⟩ h
  · simpa using hrun
  · rintro server xs c v c' v' ⟨hc, hv⟩ hstep
    obtain ⟨result, v₁, hserver, hend⟩ := Prog.exists_run_bind hstep
    cases hend
    unfold syncToServer at hserver
    split at hserver
    · rename_i hpush
      cases hserver
      refine ⟨?_, hv⟩
      rw [← hc, List.map_cons, hpush, List.append_assoc]
      rfl
    · rename_i hpull
      cases hserver
      refine ⟨?_, hv⟩
      rw [← hc, List.map_cons, Bool.eq_false_iff.2 hpull, List.append_assoc]
      rfl

omit [DecidableEq D] in
theorem insertLinks_write {results : List (Nat × Bool)} {db db' : Db D}
    (h : Pending.write (results.flatMap (dirtyLink subId [])) db = (.ok (), db')) :
    db' = { db with links := db.links ++ results.map fun r => ⟨subId, r.1, r.2⟩ } := by
  induction results generalizing db with
  | nil =>
    cases h
    rw [List.map_nil, List.append_nil]
  | cons r results ih =>
    rw [List.flatMap_cons] at h
    obtain ⟨db₁, hone, hrest⟩ := write_split h
    rcases dirtyLink_cases hone with ⟨l, hfind, -, -⟩ | ⟨l, hfind, -, -⟩ | ⟨-, rfl⟩
    · cases hfind
    · cases hfind
    · rw [ih hrest, List.map_cons, List.append_assoc]
      rfl

theorem publish_links (settings : ControlSettings D) (serverIds : List Nat) :
    (publishForServers settings [] serverIds).Uses
      (Solo.Moves (fun a b : Db D => b.links = a.links) ·) := by
  refine publishForServers_uses ⟨rfl, rfl, fun _ _ => rfl⟩ ⟨fun serverId db => ?_,
    fun serverId now db => ?_⟩ serverIds
  · unfold lockServer
    split <;> rfl
  · unfold writeSnapshot
    split
    · rfl
    split
    · rfl
    · rfl

omit [DecidableEq D] in
theorem flush_run_all {pending : Pending D}
    (h : (flush pending).run (Solo.serveAll true Agents.handle) (w, n) = (.ok (), (w', n'))) :
    Pending.write pending w.view = (.ok (), w'.view) := by
  have hsilent : (flush pending : BotProg D Unit).Uses (Solo.Silent ·) := flush_uses trivial
  rw [Solo.run_silent hsilent] at h
  exact flush_run (Prod.ext (congrArg (fun r => r.1) h) (congrArg (fun r => r.2.1) h))

theorem sync_links {sub : Subscription} {servers : List (Server D)}
    (hnew : ∀ s ∈ servers, w.view.linked s.id sub = false)
    (h : (syncSubscriptionToServers settings sub servers).run (Solo.serveAll true Agents.handle)
      (w, n) = (.ok (), (w', n'))) :
    w'.view.links = w.view.links ++ servers.map fun s => ⟨sub.id, s.id, pushesTo s⟩ := by
  rw [syncSubscriptionToServers, Prog.whenever] at h
  split at h
  · obtain ⟨devices, v₁, hdevices, h₁⟩ := Prog.exists_run_bind h
    cases hdevices
    obtain ⟨results, ⟨w₂, n₂⟩, hresults, h₂⟩ := Prog.exists_run_bind h₁
    obtain ⟨hall, hw₂⟩ := syncToServers_results hresults
    change w₂ = w at hw₂
    subst hw₂
    obtain ⟨loaded, v₃, hloaded, h₃⟩ := Prog.exists_run_bind h₂
    cases hloaded
    have hloaded : (w₂.view.links.filter fun l => l.subscriptionId == sub.id &&
        (results.map Prod.fst).contains l.serverId) = [] := by
      refine List.filter_eq_nil_iff.2 fun l hl hboth => ?_
      rw [hall] at hboth
      simp only [Bool.and_eq_true, beq_iff_eq, List.map_map, List.contains_iff_mem, List.mem_map,
        Function.comp_apply] at hboth
      obtain ⟨hsub, s, hs, hid⟩ := hboth
      have hlinked : w₂.view.linked s.id sub = true := by
        refine List.any_eq_true.2 ⟨l, hl, ?_⟩
        simp [hsub, hid]
      rw [hnew s hs] at hlinked
      cases hlinked
    obtain ⟨_, ⟨w₄, n₄⟩, hflush, hpublish⟩ := Prog.exists_run_bind h₃
    have hmoves := Solo.run_moves_all (publish_links settings (results.map Prod.fst))
      (fun _ => rfl) (fun _ _ _ h h' => h'.trans h) true Agents.handle (w₄, n₄)
    rw [hpublish] at hmoves
    have hwrite : Pending.write (results.flatMap (dirtyLink sub.id (w₂.view.links.filter fun l =>
        l.subscriptionId == sub.id && (results.map Prod.fst).contains l.serverId))) w₂.view =
          (.ok (), w₄.view) := flush_run_all hflush
    rw [hloaded] at hwrite
    have hlinks : w'.view.links = w₄.view.links := hmoves
    rw [hlinks, insertLinks_write hwrite, hall, List.map_map]
    rfl
  · rename_i hnone
    cases h
    rw [not_not.1 hnone, List.map_nil, List.append_nil]

omit [DecidableEq D] in
theorem dropLinks_links {sub : Subscription} {allowed : List (Server D)}
    {links : List (SubscriptionServer × Server D)} {c c' : Collected}
    (h : (links.foldlM (dropLink sub allowed) c).run (Solo.serveAll true Agents.handle) (w, n) =
      (.ok c', (w', n'))) (l : SubscriptionServer) :
    l ∈ w'.view.links ↔ l ∈ w.view.links ∧
      (l.subscriptionId = sub.id → l.serverId ∉ links.map fun l => l.1.serverId) := by
  have hrun := Prog.run_foldlM (fun xs (_ : Collected) (v : Solo (Db D) × Agents) =>
    (l ∈ v.1.view.links ∧ (l.subscriptionId = sub.id → l.serverId ∉ xs.map fun l => l.1.serverId)) ↔
      l ∈ w.view.links ∧
        (l.subscriptionId = sub.id → l.serverId ∉ links.map fun l => l.1.serverId))
    ?_ Iff.rfl h
  · simpa using hrun
  · rintro link xs d v d' v' hv hstep
    rw [Solo.run_silent (dropLink_silent sub allowed d link)] at hstep
    have hdrop : (dropLink sub allowed d link).run Solo.serve v.1 = (.ok d', v'.1) :=
      Prod.ext (congrArg (fun r => r.1) hstep) (congrArg (fun r => r.2.1) hstep)
    obtain ⟨hv', -, -⟩ := dropLink_run hdrop
    rw [← hv, hv']
    simp only [Db.unlink, List.mem_filter, Bool.not_eq_true', Bool.and_eq_false_iff,
      beq_eq_false_iff_ne, List.map_cons, List.mem_cons, not_or]
    tauto

omit [DecidableEq D] in
theorem gained_unlinked {db : Db D} {target : Option Nat} {sub : Subscription} {s : Server D}
    (hids : (db.servers.map Server.id).Nodup) (hs : s ∈ db.gainedServers target sub) :
    db.linked s.id sub = false := by
  obtain ⟨hallowed, hnot⟩ := List.mem_filter.1 hs
  obtain ⟨haccess, hscope⟩ := List.mem_filter.1 hallowed
  have hmem : s ∈ db.servers := List.mem_of_mem_filter haccess
  refine Bool.eq_false_iff.2 fun hlinked => ?_
  obtain ⟨l, hl, hboth⟩ := List.any_eq_true.1 hlinked
  simp only [Bool.and_eq_true, beq_iff_eq] at hboth
  obtain ⟨hid, hsub⟩ := hboth
  have hserver : db.server l.serverId = some s := by
    rw [hid]
    exact server_of_mem hids hmem
  have hcurrent : (l, s) ∈ db.currentLinks target sub := by
    refine List.mem_filter.2 ⟨mem_linksOf.2 ⟨hl, hsub, hserver⟩, ?_⟩
    simp only [hid]
    exact hscope
  refine absurd hnot ?_
  rw [Bool.not_eq_true', Bool.not_eq_false, List.contains_iff_mem]
  exact List.mem_map.2 ⟨(l, s), hcurrent, hid⟩

theorem reconcileSubscription_links {target : Option Nat} {c c' : Collected} {sub : Subscription}
    (hids : (w.view.servers.map Server.id).Nodup)
    (h : (reconcileSubscriptionServers settings target c sub).run
      (Solo.serveAll true Agents.handle) (w, n) = (.ok c', (w', n')))
    {l : SubscriptionServer} (hl : l.subscriptionId = sub.id) :
    l ∈ w'.view.links ↔ w.view.Relinked target sub l := by
  rw [reconcileSubscription_eq (g := fun v : Solo (Db D) × Agents => v.1.view)
    fun _ _ _ => rfl] at h
  obtain ⟨_, ⟨w₁, n₁⟩, hsync, hdrop⟩ := Prog.exists_run_bind h
  have hlinks := sync_links (fun s hs => gained_unlinked hids hs) hsync
  rw [dropLinks_links hdrop, hlinks, List.mem_append, List.mem_map]
  refine and_congr (or_congr_right ?_) ⟨fun h => h hl, fun h _ => h⟩
  exact exists_congr fun s => and_congr_right fun _ => eq_comm

end Run

/-! ## In terms of who may use what -/

def Db.mayUse (db : Db D) (sub : Subscription) (serverId : Nat) : Bool :=
  (db.accessibleServers sub.userId).any fun s => s.id == serverId

/-- Whether a reconciliation with the target looks at the server. -/
def InScope (target : Option Nat) (serverId : Nat) : Prop := ∀ i ∈ target, serverId = i

def Db.Gains (db : Db D) (sub : Subscription) (serverId : Nat) : Prop :=
  db.mayUse sub serverId = true ∧ db.linked serverId sub = false

def Db.Loses (db : Db D) (sub : Subscription) (serverId : Nat) : Prop :=
  db.linked serverId sub = true ∧ db.mayUse sub serverId = false

/-- What the tables promise: keys are keys, links are to servers that exist, and those of active
subscriptions to servers that take pushes have been delivered. -/
structure Db.Wired (db : Db D) : Prop where
  servers : (db.servers.map Server.id).Nodup
  users : (db.users.map User.id).Nodup
  keys : db.DistinctKeys
  links : ∀ l ∈ db.links, (db.server l.serverId).isSome = true
  synced : ∀ sub ∈ db.subscriptions, sub.isActive = true → ∀ l ∈ db.links,
    l.subscriptionId = sub.id → (db.pushAgent l.serverId).isSome = true → l.isSynced = true

theorem inScope_iff {target : Option Nat} {serverId : Nat} :
    (target.all fun i => serverId == i) = true ↔ InScope target serverId := by
  cases target <;> simp [InScope]

section Terms
variable {db : Db D} {sub : Subscription} {target : Option Nat}

theorem mem_linked : db.linked serverId sub = true ↔
    ∃ l ∈ db.links, l.subscriptionId = sub.id ∧ l.serverId = serverId := by
  simp only [Db.linked, List.any_eq_true, Bool.and_eq_true, beq_iff_eq]
  exact exists_congr fun l => and_congr_right fun _ => and_comm

theorem pushAgent_of_server {s : Server D} (h : db.server serverId = some s) :
    db.pushAgent serverId = some agent ↔ pushesTo s = true ∧ s.agent = agent := by
  rw [Db.pushAgent, h]
  cases hpush : pushesTo s <;> simp [Option.filter, hpush]

theorem mem_allowedServers {s : Server D} : s ∈ db.allowedServers target sub ↔
    s ∈ db.accessibleServers sub.userId ∧ InScope target s.id := by
  rw [Db.allowedServers, List.mem_filter, inScope_iff]

theorem mem_currentLinks {l : SubscriptionServer × Server D} : l ∈ db.currentLinks target sub ↔
    (l.1 ∈ db.links ∧ l.1.subscriptionId = sub.id ∧ db.server l.1.serverId = some l.2) ∧
      InScope target l.1.serverId := by
  rw [Db.currentLinks, List.mem_filter, inScope_iff, mem_linksOf]

theorem mayUse_server (hservers : (db.servers.map Server.id).Nodup) :
    db.mayUse sub serverId = true ↔
      ∃ s ∈ db.accessibleServers sub.userId, db.server serverId = some s ∧ s.id = serverId := by
  rw [Db.mayUse, List.any_eq_true]
  refine exists_congr fun s => and_congr_right fun hs => ?_
  rw [beq_iff_eq]
  refine ⟨fun hid => ⟨?_, hid⟩, fun h => h.2⟩
  rw [← hid]
  exact server_of_mem hservers (List.mem_of_mem_filter hs)

theorem mem_currentIds
    (hlinks : ∀ l ∈ db.links, (db.server l.serverId).isSome = true) :
    serverId ∈ (db.currentLinks target sub).map (fun l => l.1.serverId) ↔
      db.linked serverId sub = true ∧ InScope target serverId := by
  rw [List.mem_map, mem_linked]
  constructor
  · rintro ⟨l, hl, rfl⟩
    obtain ⟨⟨hmem, hsub, -⟩, hscope⟩ := mem_currentLinks.1 hl
    exact ⟨⟨l.1, hmem, hsub, rfl⟩, hscope⟩
  · rintro ⟨⟨l, hl, hsub, rfl⟩, hscope⟩
    obtain ⟨s, hs⟩ := Option.isSome_iff_exists.1 (hlinks l hl)
    exact ⟨(l, s), mem_currentLinks.2 ⟨⟨hl, hsub, hs⟩, hscope⟩, rfl⟩

theorem mem_allowedIds : serverId ∈ (db.allowedServers target sub).map Server.id ↔
    db.mayUse sub serverId = true ∧ InScope target serverId := by
  rw [List.mem_map, Db.mayUse, List.any_eq_true]
  constructor
  · rintro ⟨s, hs, rfl⟩
    obtain ⟨haccess, hscope⟩ := mem_allowedServers.1 hs
    exact ⟨⟨s, haccess, beq_self_eq_true _⟩, hscope⟩
  · rintro ⟨⟨s, hs, hid⟩, hscope⟩
    obtain rfl := beq_iff_eq.1 hid
    exact ⟨s, mem_allowedServers.2 ⟨hs, hscope⟩, rfl⟩

theorem mem_gainedServers (hw : db.Wired) {s : Server D} : s ∈ db.gainedServers target sub ↔
    s ∈ db.accessibleServers sub.userId ∧ InScope target s.id ∧ db.Gains sub s.id := by
  rw [Db.gainedServers, List.mem_filter, mem_allowedServers, Bool.not_eq_true',
    ← Bool.not_eq_true, List.contains_iff_mem, mem_currentIds hw.links, and_assoc]
  refine and_congr_right fun hs => and_congr_right fun hscope => ?_
  have hmay : db.mayUse sub s.id = true :=
    List.any_eq_true.2 ⟨s, hs, beq_self_eq_true _⟩
  rw [Db.Gains, hmay, not_and]
  exact ⟨fun h => ⟨rfl, Bool.eq_false_iff.2 fun hl => h hl hscope⟩, fun h hl => by simp [h.2] at hl⟩

theorem mem_lostLinks {l : SubscriptionServer × Server D} : l ∈ db.lostLinks target sub ↔
    (l.1 ∈ db.links ∧ l.1.subscriptionId = sub.id ∧ db.server l.1.serverId = some l.2) ∧
      InScope target l.1.serverId ∧ db.mayUse sub l.1.serverId = false := by
  rw [Db.lostLinks, List.mem_filter, mem_currentLinks, Bool.not_eq_true', ← Bool.not_eq_true,
    List.contains_iff_mem, mem_allowedIds, and_assoc]
  refine and_congr_right fun _ => and_congr_right fun hscope => ?_
  rw [← Bool.not_eq_true]
  exact ⟨fun h hmay => h ⟨hmay, hscope⟩, fun h hboth => h hboth.1⟩

theorem mem_lostIds (hlinks : ∀ l ∈ db.links, (db.server l.serverId).isSome = true) :
    serverId ∈ (db.lostLinks target sub).map (fun l => l.1.serverId) ↔
      InScope target serverId ∧ db.Loses sub serverId := by
  rw [List.mem_map, Db.Loses, mem_linked]
  constructor
  · rintro ⟨l, hl, rfl⟩
    obtain ⟨⟨hmem, hsub, -⟩, hscope, hmay⟩ := mem_lostLinks.1 hl
    exact ⟨hscope, ⟨l.1, hmem, hsub, rfl⟩, hmay⟩
  · rintro ⟨hscope, ⟨l, hl, hsub, rfl⟩, hmay⟩
    obtain ⟨s, hs⟩ := Option.isSome_iff_exists.1 (hlinks l hl)
    exact ⟨(l, s), mem_lostLinks.2 ⟨⟨hl, hsub, hs⟩, hscope, hmay⟩, rfl⟩

/-- Whether a server that the reconciliation looks at serves the subscription at the agent. -/
def Db.ServedAt (db : Db D) (target : Option Nat) (sub : Subscription) (agent : String) : Prop :=
  ∃ i, InScope target i ∧ db.mayUse sub i = true ∧ db.pushAgent i = some agent

theorem sharedAgent_iff (hservers : (db.servers.map Server.id).Nodup) :
    sharedAgent (db.allowedServers target sub) agent = true ↔ db.ServedAt target sub agent := by
  rw [sharedAgent, List.any_eq_true]
  constructor
  · rintro ⟨s, hs, hboth⟩
    obtain ⟨haccess, hscope⟩ := mem_allowedServers.1 hs
    rw [Bool.and_eq_true, beq_iff_eq] at hboth
    refine ⟨s.id, hscope, List.any_eq_true.2 ⟨s, haccess, beq_self_eq_true _⟩, ?_⟩
    exact (pushAgent_of_server (server_of_mem hservers (List.mem_of_mem_filter haccess))).2 hboth
  · rintro ⟨i, hscope, hmay, hagent⟩
    obtain ⟨s, hs, hserver, rfl⟩ := (mayUse_server hservers).1 hmay
    refine ⟨s, mem_allowedServers.2 ⟨hs, hscope⟩, ?_⟩
    rw [Bool.and_eq_true, beq_iff_eq]
    exact (pushAgent_of_server hserver).1 hagent

/-- What is sent to an agent for a subscription. -/
theorem sends_iff (hw : db.Wired) (p : String × String) : db.Sends target sub p ↔
    p.2 ∈ db.servedUuids sub ∧
      ∃ i, InScope target i ∧ db.Gains sub i ∧ db.pushAgent i = some p.1 := by
  constructor
  · rintro ⟨s, hs, hpush, hagent, huuid⟩
    obtain ⟨haccess, hscope, hgains⟩ := (mem_gainedServers hw).1 hs
    have hserver := server_of_mem hw.servers (List.mem_of_mem_filter haccess)
    exact ⟨huuid, s.id, hscope, hgains, (pushAgent_of_server hserver).2 ⟨hpush, hagent⟩⟩
  · rintro ⟨huuid, i, hscope, hgains, hagent⟩
    obtain ⟨s, hs, hserver, rfl⟩ := (mayUse_server hw.servers).1 hgains.1
    obtain ⟨hpush, hagent⟩ := (pushAgent_of_server hserver).1 hagent
    exact ⟨s, (mem_gainedServers hw).2 ⟨hs, hscope, hgains⟩, hpush, hagent, huuid⟩

theorem strips_iff (hw : db.Wired) (hsub : sub ∈ db.subscriptions) (hactive : sub.isActive = true)
    (p : String × String) : db.Strips target sub p ↔
      p.2 ∈ db.uuidsOf sub ∧ ¬db.ServedAt target sub p.1 ∧
        ∃ i, InScope target i ∧ db.Loses sub i ∧ db.pushAgent i = some p.1 := by
  have hshared : ∀ agent, sharedAgent (db.allowedServers target sub) agent = false ↔
      ¬db.ServedAt target sub agent := by
    intro agent
    rw [← sharedAgent_iff hw.servers, Bool.not_eq_true]
  constructor
  · rintro ⟨l, hl, hp⟩
    obtain ⟨⟨hmem, hid, hserver⟩, hscope, hmay⟩ := mem_lostLinks.1 hl
    unfold Db.stripsOf at hp
    split at hp
    · rename_i hflags
      simp only [Bool.and_eq_true, Bool.not_eq_true'] at hflags
      obtain ⟨⟨-, hpush⟩, hnot⟩ := hflags
      obtain ⟨u, hu, rfl⟩ := List.mem_map.1 hp
      exact ⟨hu, (hshared _).1 hnot, l.1.serverId, hscope,
        ⟨mem_linked.2 ⟨l.1, hmem, hid, rfl⟩, hmay⟩, (pushAgent_of_server hserver).2 ⟨hpush, rfl⟩⟩
    · cases hp
  · rintro ⟨huuid, hnot, i, hscope, ⟨hlinked, hmay⟩, hagent⟩
    obtain ⟨l, hmem, hid, rfl⟩ := mem_linked.1 hlinked
    obtain ⟨s, hs⟩ := Option.isSome_iff_exists.1 (hw.links l hmem)
    obtain ⟨hpush, hagent'⟩ := (pushAgent_of_server hs).1 hagent
    refine ⟨(l, s), mem_lostLinks.2 ⟨⟨hmem, hid, hs⟩, hscope, hmay⟩, ?_⟩
    have hsynced : l.isSynced = true :=
      hw.synced sub hsub hactive l hmem hid (by rw [hagent]; rfl)
    have hflags : (l.isSynced && pushesTo s &&
        !sharedAgent (db.allowedServers target sub) s.agent) = true := by
      rw [hsynced, hpush, hagent', (hshared _).2 hnot]
      rfl
    rw [Db.stripsOf, if_pos hflags, hagent']
    exact List.mem_map.2 ⟨p.2, huuid, rfl⟩

/-- A link that the subscription is to have to a server that it may use. -/
structure Db.Right (db : Db D) (sub : Subscription) (l : SubscriptionServer) : Prop where
  mayUse : db.mayUse sub l.serverId = true
  link : l ∈ db.links ∨ db.linked l.serverId sub = false ∧
    l.isSynced = (db.pushAgent l.serverId).isSome

theorem pushAgent_isSome {s : Server D} (h : db.server serverId = some s) :
    (db.pushAgent serverId).isSome = pushesTo s := by
  rw [Db.pushAgent, h]
  cases hpush : pushesTo s <;> simp [Option.filter, hpush]

/-- Links are right where the reconciliation looks, and stay elsewhere. -/
theorem relinked_iff (hw : db.Wired) {l : SubscriptionServer} (hl : l.subscriptionId = sub.id) :
    db.Relinked target sub l ↔ (InScope target l.serverId ∧ db.Right sub l) ∨
      ¬InScope target l.serverId ∧ l ∈ db.links := by
  rw [Db.Relinked, mem_lostIds hw.links]
  constructor
  · intro ⟨hmem, hkept⟩
    rcases hmem with hmem | ⟨s, hs, rfl⟩
    · by_cases hscope : InScope target l.serverId
      · have hlinked : db.linked l.serverId sub = true := mem_linked.2 ⟨l, hmem, hl, rfl⟩
        refine .inl ⟨hscope, ?_, .inl hmem⟩
        exact Bool.of_not_eq_false fun hmay => hkept ⟨hscope, hlinked, hmay⟩
      · exact .inr ⟨hscope, hmem⟩
    · obtain ⟨haccess, hscope, hgains⟩ := (mem_gainedServers hw).1 hs
      have hserver := server_of_mem hw.servers (List.mem_of_mem_filter haccess)
      exact .inl ⟨hscope, hgains.1, .inr ⟨hgains.2, (pushAgent_isSome hserver).symm⟩⟩
  · rintro (⟨hscope, hmay, hlink⟩ | ⟨hscope, hmem⟩)
    · have hkept : ¬(InScope target l.serverId ∧ db.Loses sub l.serverId) := by
        intro hlost
        have hnot := hlost.2.2
        rw [hmay] at hnot
        cases hnot
      rcases hlink with hmem | ⟨hnot, hflag⟩
      · exact ⟨.inl hmem, hkept⟩
      · obtain ⟨s, hs, hserver, hid⟩ := (mayUse_server hw.servers).1 hmay
        have hgains : db.Gains sub s.id := by
          rw [hid]
          exact ⟨hmay, hnot⟩
        refine ⟨.inr ⟨s, (mem_gainedServers hw).2 ⟨hs, hid ▸ hscope, hgains⟩, ?_⟩, hkept⟩
        rw [pushAgent_isSome hserver] at hflag
        rw [← hl, hid, ← hflag]
    · exact ⟨.inl hmem, fun hlost => hscope hlost.1⟩

theorem exists_right (serverId : Nat) :
    (∃ l, l.subscriptionId = sub.id ∧ l.serverId = serverId ∧ db.Right sub l) ↔
      db.mayUse sub serverId = true := by
  constructor
  · rintro ⟨l, -, rfl, hright⟩
    exact hright.mayUse
  · intro hmay
    by_cases hlinked : db.linked serverId sub = true
    · obtain ⟨l, hmem, hsub, rfl⟩ := mem_linked.1 hlinked
      exact ⟨l, hsub, rfl, hmay, .inl hmem⟩
    · exact ⟨⟨sub.id, serverId, (db.pushAgent serverId).isSome⟩, rfl, rfl, hmay,
        .inr ⟨Bool.eq_false_iff.2 hlinked, rfl⟩⟩

end Terms

/-! ## One reconciliation -/

section Same
variable {a b : Db D} {sub : Subscription} (h : SameAccess a b)
include h

theorem SameAccess.relinked (hlinks : b.linkRows sub.id = a.linkRows sub.id) (target : Option Nat)
    {l : SubscriptionServer} (hl : l.subscriptionId = sub.id) :
    b.Relinked target sub l ↔ a.Relinked target sub l := by
  obtain ⟨f, hf, -, hgained, hlost⟩ := h.servers_of hlinks target
  have hmem : l ∈ b.links ↔ l ∈ a.links := by
    have hrows : l ∈ b.linkRows sub.id ↔ l ∈ a.linkRows sub.id := by rw [hlinks]
    simpa [Db.linkRows, hl] using hrows
  simp only [Db.Relinked, hmem, hgained, hlost, List.mem_map, exists_exists_and_eq_and, hf,
    Prod.map_fst, id]

theorem SameAccess.server (serverId : Nat) : ∃ f : Server D → Server D,
    (∀ s, pushesTo (f s) = pushesTo s ∧ (f s).agent = s.agent) ∧
      b.server serverId = (a.server serverId).map f := by
  obtain ⟨g, hg⟩ := h.servers
  refine ⟨fun s => s.withDesired (g s), fun _ => ⟨rfl, rfl⟩, ?_⟩
  rw [Db.server, hg]
  exact find?_map_of_id (f := fun s => s.withDesired (g s)) (fun _ => rfl) serverId

theorem SameAccess.pushAgent (serverId : Nat) : b.pushAgent serverId = a.pushAgent serverId := by
  obtain ⟨f, hf, hserver⟩ := h.server serverId
  simp only [Db.pushAgent, hserver, Option.filter_map, Option.map_map, Function.comp_def, hf]

theorem SameAccess.mayUse (sub : Subscription) (serverId : Nat) :
    b.mayUse sub serverId = a.mayUse sub serverId := by
  obtain ⟨g, hg⟩ := h.servers
  simp only [Db.mayUse, Db.accessibleServers, hg, h.grants, List.filter_map, List.any_map]
  rfl

theorem SameAccess.servedUuids (sub : Subscription) : b.servedUuids sub = a.servedUuids sub := by
  rw [Db.servedUuids, Db.servedUuids, Db.activeDevices, h.devices]
  rfl

theorem SameAccess.reconciles (r : Reconcile) : r.subscriptions b = r.subscriptions a := by
  cases r with
  | user userId =>
    simp only [Reconcile.subscriptions, Db.activeOf, Db.subscriptionsOf, h.subscriptions]
  | server serverId => simp only [Reconcile.subscriptions, h.subscriptions, h.users]

end Same

/-- The links, once subscriptions have been reconciled among those given. -/
def Db.Leads (db : Db D) (target : Option Nat) (subs : List Subscription)
    (links : List SubscriptionServer) (l : SubscriptionServer) : Prop :=
  (∃ sub ∈ subs, l.subscriptionId = sub.id ∧ db.Relinked target sub l) ∨
    (∀ sub ∈ subs, l.subscriptionId ≠ sub.id) ∧ l ∈ links

section Step
variable [DecidableEq D] {settings : ControlSettings D} {w w' : Solo (Db D)} {n n' : Agents}

theorem reconcileLoop_links {target : Option Nat} {subs : List Subscription} {c' : Collected}
    (hservers : (w.view.servers.map Server.id).Nodup) (hids : (subs.map Subscription.id).Nodup)
    (h : (subs.foldlM (reconcileSubscriptionServers settings target) ⟨[], []⟩).run
      (Solo.serveAll true Agents.handle) (w, n) = (.ok c', (w', n'))) :
    SameAccess w.view w'.view ∧
      ∀ l, l ∈ w'.view.links ↔ w.view.Leads target subs w.view.links l := by
  have hrun := Prog.run_foldlM (fun xs (_ : Collected) (v : Solo (Db D) × Agents) =>
    (xs.map Subscription.id).Nodup ∧ SameAccess w.view v.1.view ∧
    (∀ sub ∈ xs, v.1.view.linkRows sub.id = w.view.linkRows sub.id) ∧
    ∀ l, w.view.Leads target xs v.1.view.links l ↔ w.view.Leads target subs w.view.links l)
    ?_ ⟨hids, .refl w.view, fun _ _ => rfl, fun _ => Iff.rfl⟩ h
  · obtain ⟨-, haccess, -, hall⟩ := hrun
    refine ⟨haccess, fun l => ?_⟩
    rw [← hall l]
    simp [Db.Leads]
  · rintro sub xs c ⟨v, m⟩ d ⟨v', m'⟩ ⟨hnodup, haccess, hlinks, hall⟩ hstep
    obtain ⟨hview, -, -⟩ := reconcileSubscription_has hstep
    have hsub := hlinks sub List.mem_cons_self
    rw [List.map_cons, List.nodup_cons] at hnodup
    have hother : ∀ sub' ∈ xs, sub'.id ≠ sub.id := by
      intro sub' hsub' hid
      exact hnodup.1 (hid ▸ List.mem_map_of_mem hsub')
    refine ⟨hnodup.2, haccess.trans hview.toSameAccess, fun sub' hsub' => ?_, fun l => ?_⟩
    · exact (hview.links sub'.id (hother sub' hsub')).trans
        (hlinks sub' (List.mem_cons_of_mem _ hsub'))
    · rw [← hall l]
      rw [Db.Leads, Db.Leads, List.forall_mem_cons, List.exists_mem_cons_iff]
      by_cases hl : l.subscriptionId = sub.id
      · have hv : (v.view.servers.map Server.id).Nodup := by
          obtain ⟨g, hg⟩ := haccess.servers
          rw [hg, List.map_map]
          exact hservers
        have hnone : ∀ sub' ∈ xs, l.subscriptionId ≠ sub'.id := by
          intro sub' hsub' hid
          exact hother sub' hsub' (hid.symm.trans hl)
        have hno : ¬∃ sub' ∈ xs, l.subscriptionId = sub'.id ∧ w.view.Relinked target sub' l :=
          fun ⟨sub', hsub', hid, _⟩ => hnone sub' hsub' hid
        rw [reconcileSubscription_links hv hstep hl, haccess.relinked hsub target hl]
        tauto
      · have hmem : l ∈ v'.view.links ↔ l ∈ (v, m).1.view.links := by
          have hrows : l ∈ v'.view.linkRows l.subscriptionId ↔
              l ∈ v.view.linkRows l.subscriptionId := by
            rw [hview.links l.subscriptionId hl]
          simpa [Db.linkRows] using hrows
        have hno : ¬(l.subscriptionId = sub.id ∧ w.view.Relinked target sub l) := fun h => hl h.1
        rw [hmem, or_iff_right hno, and_iff_right (a := l.subscriptionId ≠ sub.id) hl]

omit [DecidableEq D] in
theorem flushRemovals_view {removals : List (String × String)}
    (h : (flushRemovals removals : BotProg D Unit).run (Solo.serveAll true Agents.handle) (w, n) =
      (.ok (), (w', n'))) : w'.view = w.view := by
  refine Prog.run_foldlM (fun _ _ (v : Solo (Db D) × Agents) => v.1.view = w.view) ?_ rfl h
  rintro r xs _ v _ v' hv hstep
  cases hstep
  exact hv

theorem reconcileAll_links {target : Option Nat} {subs : List Subscription}
    (hservers : (w.view.servers.map Server.id).Nodup) (hids : (subs.map Subscription.id).Nodup)
    (h : (reconcileAll settings target subs).run (Solo.serveAll true Agents.handle) (w, n) =
      (.ok (), (w', n'))) :
    SameAccess w.view w'.view ∧
      ∀ l, l ∈ w'.view.links ↔ w.view.Leads target subs w.view.links l := by
  obtain ⟨c, ⟨w₁, n₁⟩, hloop, h⟩ := Prog.exists_run_bind h
  obtain ⟨_, ⟨w₂, n₂⟩, hpublish, hflush⟩ := Prog.exists_run_bind h
  obtain ⟨haccess, hall⟩ := reconcileLoop_links hservers hids hloop
  have hlinks := Solo.run_moves_all (publish_links settings c.publications) (fun _ => rfl)
    (fun _ _ _ h h' => h'.trans h) true Agents.handle (w₁, n₁)
  have hpub : Publishes (Solo.Moves (Elsewhere (D := D) 0) ·) settings [] := publishes_elsewhere 0
  have hsame := Solo.run_moves_all (publishForServers_uses (asks_moves _) hpub c.publications)
    (elsewhere_refl 0) (elsewhere_trans 0) true Agents.handle (w₁, n₁)
  rw [hpublish] at hlinks hsame
  rw [flushRemovals_view hflush]
  refine ⟨haccess.trans hsame.toSameAccess, fun l => ?_⟩
  rw [← hall l]
  exact Iff.of_eq (congrArg (l ∈ ·) hlinks)

end Step

/-- The reconciliation decides whether there is that link. -/
def Reconcile.Decides (r : Reconcile) (db : Db D) (l : SubscriptionServer) : Prop :=
  (∃ sub ∈ r.subscriptions db, l.subscriptionId = sub.id) ∧ InScope r.target l.serverId

/-- A link that its subscription is to have. -/
def Db.Proper (db : Db D) (l : SubscriptionServer) : Prop :=
  ∃ sub ∈ db.subscriptions, l.subscriptionId = sub.id ∧ db.Right sub l

/-- The reconciliation brings the client of the subscription to the agent. -/
def Reconcile.Brings (r : Reconcile) (db : Db D) (sub : Subscription) (p : String × String) :
    Prop :=
  sub ∈ r.subscriptions db ∧ p.2 ∈ db.servedUuids sub ∧
    ∃ i, InScope r.target i ∧ db.Gains sub i ∧ db.pushAgent i = some p.1

/-- It takes the clients of the subscription from the agent. -/
def Reconcile.Takes (r : Reconcile) (db : Db D) (sub : Subscription) (p : String × String) :
    Prop :=
  sub ∈ r.subscriptions db ∧ ¬db.ServedAt r.target sub p.1 ∧
    ∃ i, InScope r.target i ∧ db.Loses sub i ∧ db.pushAgent i = some p.1

section Keys
variable {db : Db D} {sub sub' : Subscription} {r : Reconcile}

theorem Reconcile.subscriptions_subset (hsub : sub ∈ r.subscriptions db) :
    sub ∈ db.subscriptions ∧ sub.isActive = true := by
  cases r with
  | user userId =>
    obtain ⟨hof, hactive⟩ := List.mem_filter.1 hsub
    exact ⟨List.mem_of_mem_filter hof, hactive⟩
  | server serverId =>
    obtain ⟨hmem, hboth⟩ := List.mem_filter.1 hsub
    exact ⟨hmem, (Bool.and_eq_true_iff.1 hboth).1⟩

theorem mem_uuidsOf {u : String} : u ∈ db.uuidsOf sub ↔
    u = sub.clientUuid ∨ ∃ d ∈ db.devices, d.subscriptionId = sub.id ∧ d.uuid = u := by
  simp only [Db.uuidsOf, Db.deviceUuids, List.mem_cons, List.mem_map, List.mem_filter, beq_iff_eq,
    and_assoc]

theorem servedUuids_subset {u : String} (hu : u ∈ db.servedUuids sub) : u ∈ db.uuidsOf sub := by
  rw [mem_uuidsOf]
  refine (mem_servedUuids.1 hu).imp_right ?_
  rintro ⟨d, hd, hid, -, huuid⟩
  exact ⟨d, hd, hid, huuid⟩

/-- No UUID belongs to two subscriptions. -/
theorem Db.DistinctKeys.eq_of_uuidsOf (h : db.DistinctKeys) (hsub : sub ∈ db.subscriptions)
    (hsub' : sub' ∈ db.subscriptions) {u : String} (hu : u ∈ db.uuidsOf sub)
    (hu' : u ∈ db.uuidsOf sub') : sub = sub' := by
  rcases mem_uuidsOf.1 hu with rfl | ⟨d, hd, hid, rfl⟩
  · rcases mem_uuidsOf.1 hu' with huuid | ⟨d, hd, -, huuid⟩
    · exact h.eq_of_uuid hsub hsub' huuid
    · exact absurd huuid.symm (h.ne_device hsub hd)
  · rcases mem_uuidsOf.1 hu' with huuid | ⟨d', hd', hid', huuid⟩
    · exact absurd huuid.symm (h.ne_device hsub' hd)
    · have hdevice : d' = d :=
        List.inj_on_of_nodup_map (List.nodup_append.1 h.uuids).2.1 hd' hd huuid
      refine h.eq_of_id hsub hsub' ?_
      rw [← hid, ← hid', hdevice]

theorem proper_iff (hkeys : db.DistinctKeys) (hsub : sub ∈ db.subscriptions)
    {l : SubscriptionServer} (hl : l.subscriptionId = sub.id) : db.Proper l ↔ db.Right sub l := by
  constructor
  · rintro ⟨sub', hsub', hl', hright⟩
    rw [hkeys.eq_of_id hsub hsub' (hl.symm.trans hl')]
    exact hright
  · intro hright
    exact ⟨sub, hsub, hl, hright⟩

end Keys

section Program
variable [DecidableEq D] {settings : ControlSettings D} {w w' : Solo (Db D)} {n n' : Agents}
  {r : Reconcile} (hw : w.view.Wired)
  (h : (r.program settings).run (Solo.serveAll true Agents.handle) (w, n) = (.ok (), (w', n')))
include hw h

theorem Reconcile.program_links : SameAccess w.view w'.view ∧ ∀ l, l ∈ w'.view.links ↔
    (r.Decides w.view l ∧ w.view.Proper l) ∨ ¬r.Decides w.view l ∧ l ∈ w.view.links := by
  rw [r.program_run] at h
  obtain ⟨haccess, hall⟩ := reconcileAll_links hw.servers (r.subscriptions_nodup hw.keys.ids) h
  refine ⟨haccess, fun l => ?_⟩
  rw [hall l, Db.Leads]
  by_cases hsome : ∃ sub ∈ r.subscriptions w.view, l.subscriptionId = sub.id
  · obtain ⟨sub, hsub, hl⟩ := hsome
    have hmem := (Reconcile.subscriptions_subset hsub).1
    have hrelinked : (∃ sub ∈ r.subscriptions w.view,
        l.subscriptionId = sub.id ∧ w.view.Relinked r.target sub l) ↔
          w.view.Relinked r.target sub l := by
      constructor
      · rintro ⟨sub', hsub', hl', hrelinked⟩
        rw [hw.keys.eq_of_id hmem (Reconcile.subscriptions_subset hsub').1 (hl.symm.trans hl')]
        exact hrelinked
      · intro hrelinked
        exact ⟨sub, hsub, hl, hrelinked⟩
    have hdecides : r.Decides w.view l ↔ InScope r.target l.serverId :=
      and_iff_right ⟨sub, hsub, hl⟩
    rw [hrelinked, relinked_iff hw hl, hdecides, proper_iff hw.keys hmem hl]
    exact or_iff_left fun hnone => hnone.1 sub hsub hl
  · have hdecides : ¬r.Decides w.view l := fun h => hsome h.1
    have hnone : ∀ sub ∈ r.subscriptions w.view, l.subscriptionId ≠ sub.id :=
      fun sub hsub hl => hsome ⟨sub, hsub, hl⟩
    rw [or_iff_right fun hrelinked => hsome ?_, or_iff_right fun hboth => hdecides hboth.1,
      and_iff_right hnone, and_iff_right hdecides]
    obtain ⟨sub, hsub, hl, -⟩ := hrelinked
    exact ⟨sub, hsub, hl⟩

theorem Reconcile.program_agents {sub : Subscription} (hsub : sub ∈ w.view.subscriptions)
    {p : String × String} (hp : p.2 ∈ w.view.uuidsOf sub) :
    n'.Has p ↔ (n.Has p ∨ r.Brings w.view sub p) ∧ ¬r.Takes w.view sub p := by
  rw [r.program_run] at h
  rw [reconcileAll_has (r.subscriptions_nodup hw.keys.ids) h]
  have hbrings : (∃ sub ∈ r.subscriptions w.view, w.view.Sends r.target sub p) ↔
      r.Brings w.view sub p := by
    constructor
    · rintro ⟨sub', hsub', hsends⟩
      obtain ⟨huuid, hgains⟩ := (sends_iff hw p).1 hsends
      obtain rfl := hw.keys.eq_of_uuidsOf hsub (Reconcile.subscriptions_subset hsub').1 hp
        (servedUuids_subset huuid)
      exact ⟨hsub', huuid, hgains⟩
    · intro ⟨hmem, hsends⟩
      exact ⟨sub, hmem, (sends_iff hw p).2 hsends⟩
  have htakes : (∃ sub ∈ r.subscriptions w.view, w.view.Strips r.target sub p) ↔
      r.Takes w.view sub p := by
    constructor
    · rintro ⟨sub', hsub', hstrips⟩
      obtain ⟨hmem, hactive⟩ := Reconcile.subscriptions_subset hsub'
      obtain ⟨huuid, hloses⟩ := (strips_iff hw hmem hactive p).1 hstrips
      obtain rfl := hw.keys.eq_of_uuidsOf hsub hmem hp huuid
      exact ⟨hsub', hloses⟩
    · intro ⟨hmem, hstrips⟩
      exact ⟨sub, hmem, (strips_iff hw hsub (Reconcile.subscriptions_subset hmem).2 p).2
        ⟨hp, hstrips⟩⟩
  rw [hbrings, htakes]

theorem Reconcile.program_others {p : String × String}
    (hp : ∀ sub ∈ w.view.subscriptions, p.2 ∉ w.view.uuidsOf sub) : n'.Has p ↔ n.Has p := by
  rw [r.program_run] at h
  rw [reconcileAll_has (r.subscriptions_nodup hw.keys.ids) h, or_iff_left, and_iff_left]
  · rintro ⟨sub, hsub, hstrips⟩
    obtain ⟨hmem, hactive⟩ := Reconcile.subscriptions_subset hsub
    exact hp sub hmem ((strips_iff hw hmem hactive p).1 hstrips).1
  · rintro ⟨sub, hsub, hsends⟩
    exact hp sub (Reconcile.subscriptions_subset hsub).1
      (servedUuids_subset ((sends_iff hw p).1 hsends).1)

end Program

end AegisVPN
