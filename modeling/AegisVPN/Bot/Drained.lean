import AegisVPN.Bot.AccessRuns
import AegisVPN.Control.AckRuns

namespace AegisVPN
open Library
set_option autoImplicit true

/-! ## What a node still serves -/

/-- The server is no location any more, in whatever row. -/
def Db.Inactive (db : Db D) (serverId : Nat) : Prop :=
  ∀ server ∈ db.servers, server.id = serverId → server.isActive = false

/-- The latest snapshot of a server, if there is one, has no items. -/
def Db.Empties (db : Db D) (serverId : Nat) : Prop :=
  ∀ l, db.latestSnapshot serverId = some l → l.items = []

/-- Where the node of a server listens. -/
def Server.address (server : Server D) : Nat × String × Nat := (server.id, server.host, server.port)

/-- An exit, as the entry has been sent it, is the server: its address is, or the UUID is one that
the server has for a route. -/
def Db.LeadsTo (db : Db D) (serverId : Nat) (e : DesiredCascadeExit) : Prop :=
  (serverId, e.host, e.port) ∈ db.servers.map Server.address ∨
    ∃ x ∈ db.exits, x.exitServerId = serverId ∧ x.serviceUuid = e.uuid

/-- The item, as the node has been sent it, leads traffic to the server, or accepts traffic that
the server leads there. -/
def Db.Uses (db : Db D) (serverId : Nat) : DesiredItem → Prop
  | .cascadeRoute r => ∃ e ∈ r.exits, db.LeadsTo serverId e
  | .cascadeService s => s.email = s!"cascade_route_{s.routeId}_entry_{serverId}"
  | _ => False

/-- The latest snapshot of another server has a route through the server. -/
def Db.RoutesThrough (db : Db D) (serverId other : Nat) : Prop :=
  ∃ l, db.latestSnapshot other = some l ∧ ∃ item ∈ l.items, db.Uses serverId item

/-- Nothing is left for the server to do. -/
structure Db.Drained (db : Db D) (serverId : Nat) : Prop where
  empties : db.Empties serverId
  routes : ∀ other, other ≠ serverId → ¬ db.RoutesThrough serverId other

/-- Some active subscription of a user has a link to the server. -/
def Db.Served (db : Db D) (serverId : Nat) : Prop :=
  ∃ sub ∈ db.subscriptions, sub.isActive = true ∧ (∃ user ∈ db.users, user.id = sub.userId) ∧
    db.linked serverId sub = true

/-! ## Reconciliation of a server that is not active -/

section Run
variable {w w' : Solo (Db D)}

theorem unlink_linked (db : Db D) (subId serverId : Nat) (sub : Subscription) :
    (db.unlink subId serverId).linked serverId sub = true ↔
      db.linked serverId sub = true ∧ sub.id ≠ subId := by
  simp only [Db.unlink, Db.linked, List.any_filter, List.any_eq_true, Bool.and_eq_true,
    Bool.not_eq_true', Bool.and_eq_false_imp, beq_iff_eq]
  constructor
  · rintro ⟨l, hl, hnot, hserver, hsub⟩
    refine ⟨⟨l, hl, hserver, hsub⟩, fun hid => ?_⟩
    have hne := hnot (hsub.trans hid)
    simp [hserver] at hne
  · rintro ⟨⟨l, hl, hserver, hsub⟩, hid⟩
    exact ⟨l, hl, fun h => absurd (hsub.symm.trans h) hid, hserver, hsub⟩

theorem unlink_unlink (db : Db D) (subId serverId : Nat) :
    (db.unlink subId serverId).unlink subId serverId = db.unlink subId serverId := by
  simp only [Db.unlink, List.filter_filter, Bool.and_self]

theorem dropLinks_run {sub : Subscription} {links : List (SubscriptionServer × Server D)}
    {c c' : Collected} (hlinks : ∀ l ∈ links, l.1.serverId = serverId ∧ publishesFor l.2 = true)
    (hc : ∀ i ∈ c.publications, i = serverId)
    (h : (links.foldlM (dropLink sub []) c).run Solo.serve w = (.ok c', w')) :
    (∀ i ∈ c'.publications, i = serverId) ∧
    (c'.publications ≠ [] ↔ c.publications ≠ [] ∨ links ≠ []) ∧
    w' = { w with view := if links = [] then w.view else w.view.unlink sub.id serverId } := by
  cases links with
  | nil =>
    cases h
    exact ⟨hc, by simp, by simp⟩
  | cons link links =>
    rw [List.foldlM_cons] at h
    obtain ⟨c₁, w₁, hfirst, hrest⟩ := Prog.exists_run_bind h
    obtain ⟨hw₁, hc₁, -⟩ := dropLink_run hfirst
    obtain ⟨hid, hp⟩ := hlinks link List.mem_cons_self
    rw [hp, if_pos rfl, hid] at hc₁
    rw [hid] at hw₁
    have hrun := Prog.run_foldlM (fun ls (c : Collected) (v : Solo (Db D)) =>
        (∀ l ∈ ls, l.1.serverId = serverId ∧ publishesFor l.2 = true) ∧
        (∀ i ∈ c.publications, i = serverId) ∧ c.publications ≠ [] ∧ v = w₁) ?_
      ⟨fun l hl => hlinks l (List.mem_cons_of_mem _ hl), ?_, ?_, rfl⟩ hrest
    · obtain ⟨-, hall, hne, rfl⟩ := hrun
      exact ⟨hall, by simp [hne], by simp [hw₁]⟩
    · rintro l ls d v d' v' ⟨hls, hall, hne, rfl⟩ hl
      obtain ⟨hv', hd', -⟩ := dropLink_run hl
      obtain ⟨hid, hp⟩ := hls l List.mem_cons_self
      rw [hp, if_pos rfl, hid] at hd'
      refine ⟨fun l hl => hls l (List.mem_cons_of_mem _ hl), fun i hi => ?_, ?_, ?_⟩
      · rw [hd'] at hi
        rcases List.mem_append.1 hi with hi | hi
        · exact hall i hi
        · exact List.mem_singleton.1 hi
      · rw [hd']
        simp
      · rw [hv', hid, hw₁, unlink_unlink]
    · intro i hi
      rw [hc₁] at hi
      rcases List.mem_append.1 hi with hi | hi
      · exact hc i hi
      · exact List.mem_singleton.1 hi
    · rw [hc₁]
      simp

section Reconcile
variable [DecidableEq D] {settings : ControlSettings D}

theorem reconcileSubscription_run {sub : Subscription} {server : Server D} {c c' : Collected}
    (hoff : w.view.Inactive serverId) (hserver : w.view.server serverId = some server)
    (hp : publishesFor server = true) (hc : ∀ i ∈ c.publications, i = serverId)
    (h : (reconcileSubscriptionServers settings (some serverId) c sub).run Solo.serve w =
      (.ok c', w')) :
    (∀ i ∈ c'.publications, i = serverId) ∧
    (c'.publications ≠ [] ↔ c.publications ≠ [] ∨ w.view.linked serverId sub = true) ∧
    w' = { w with view := w.view.unlink sub.id serverId } := by
  have hallowed : w.view.allowedServers (some serverId) sub = [] := by
    refine List.filter_eq_nil_iff.2 fun s hs hid => ?_
    obtain ⟨hmem, haccess⟩ := List.mem_filter.1 hs
    rw [Option.all_some, beq_iff_eq] at hid
    rw [hoff s hmem hid] at haccess
    cases haccess
  have hgained : w.view.gainedServers (some serverId) sub = [] := by
    rw [Db.gainedServers, hallowed, List.filter_nil]
  have hlost : w.view.lostLinks (some serverId) sub =
      (w.view.linksOf sub).filter fun l => l.1.serverId == serverId := by
    simp only [Db.lostLinks, Db.currentLinks, hallowed, List.map_nil, List.contains_nil,
      Bool.not_false, List.filter_true, Option.all_some]
  rw [reconcileSubscription_eq (g := Solo.view) (fun _ _ _ => rfl), hgained, hlost,
    hallowed] at h
  have hsync : (syncSubscriptionToServers settings sub []).run Solo.serve w = (.ok (), w) := by
    rw [syncSubscriptionToServers, Prog.whenever, if_neg (not_not.2 rfl)]
    rfl
  rw [Prog.run_bind_ok _ _ hsync] at h
  have hlinks : ∀ l ∈ (w.view.linksOf sub).filter (fun l => l.1.serverId == serverId),
      l.1.serverId = serverId ∧ publishesFor l.2 = true := by
    intro l hl
    obtain ⟨hl, hid⟩ := List.mem_filter.1 hl
    rw [beq_iff_eq] at hid
    obtain ⟨-, -, hs⟩ := mem_linksOf.1 hl
    rw [hid, hserver] at hs
    cases hs
    exact ⟨hid, hp⟩
  have hsome : (w.view.linksOf sub).filter (fun l => l.1.serverId == serverId) ≠ [] ↔
      w.view.linked serverId sub = true := by
    rw [ne_eq, List.filter_eq_nil_iff, Db.linked, List.any_eq_true]
    simp only [not_forall, not_not, beq_iff_eq, Bool.and_eq_true, exists_prop]
    constructor
    · rintro ⟨l, hl, hid⟩
      obtain ⟨hmem, hsub, -⟩ := mem_linksOf.1 hl
      exact ⟨l.1, hmem, hid, hsub⟩
    · rintro ⟨l, hl, hid, hsub⟩
      exact ⟨(l, server), mem_linksOf.2 ⟨hl, hsub, hid ▸ hserver⟩, hid⟩
  obtain ⟨hall, hne, hw⟩ := dropLinks_run hlinks hc h
  refine ⟨hall, hne.trans (or_congr_right hsome), ?_⟩
  rw [hw]
  split
  · rename_i hnone
    have hnot := mt hsome.2 (not_not.2 hnone)
    have hsame : w.view.unlink sub.id serverId = w.view := by
      have hlinks : (w.view.links.filter fun l =>
          !(l.subscriptionId == sub.id && l.serverId == serverId)) = w.view.links := by
        refine List.filter_eq_self.2 fun l hl => ?_
        by_contra hboth
        simp only [Bool.not_eq_true', Bool.not_eq_false, Bool.and_eq_true, beq_iff_eq] at hboth
        refine hnot (List.any_eq_true.2 ⟨l, hl, ?_⟩)
        simp [hboth.1, hboth.2]
      rw [Db.unlink, hlinks]
    rw [hsame]
  · rfl

theorem reconcileLoop_run {subs : List Subscription} {server : Server D} {c' : Collected}
    (hoff : w.view.Inactive serverId) (hserver : w.view.server serverId = some server)
    (hp : publishesFor server = true)
    (h : (subs.foldlM (reconcileSubscriptionServers settings (some serverId)) ⟨[], []⟩).run
      Solo.serve w = (.ok c', w')) :
    (∀ i ∈ c'.publications, i = serverId) ∧
    (c'.publications ≠ [] ↔ ∃ sub ∈ subs, w.view.linked serverId sub = true) ∧
    ∃ links, w'.view = { w.view with links } := by
  have hrun := Prog.run_foldlM
    (fun xs (c : Collected) (v : Solo (Db D)) => (∀ i ∈ c.publications, i = serverId) ∧
      ((c.publications ≠ [] ∨ ∃ sub ∈ xs, v.view.linked serverId sub = true) ↔
        ∃ sub ∈ subs, w.view.linked serverId sub = true) ∧
      ∃ links, v.view = { w.view with links }) ?_
    ⟨fun i hi => absurd hi List.not_mem_nil, by simp, w.view.links, rfl⟩ h
  · obtain ⟨hall, hne, hlinks⟩ := hrun
    refine ⟨hall, ?_, hlinks⟩
    rw [← hne]
    simp
  · rintro sub xs c v d v' ⟨hall, hne, links, hview⟩ hstep
    have hoff' : v.view.Inactive serverId := by
      rw [hview]
      exact hoff
    have hserver' : v.view.server serverId = some server := by
      rw [hview]
      exact hserver
    obtain ⟨hall', hd, rfl⟩ := reconcileSubscription_run hoff' hserver' hp hall hstep
    refine ⟨hall', ?_, _, by rw [Db.unlink, hview]⟩
    -- a later subscription with the same id is linked no more, but then this one was
    rw [← hne, hd]
    simp only [unlink_linked, List.mem_cons, exists_eq_or_imp, or_assoc]
    refine or_congr_right ?_
    constructor
    · rintro (hlinked | ⟨sub', hmem, hlinked, -⟩)
      · exact .inl hlinked
      · exact .inr ⟨sub', hmem, hlinked⟩
    · rintro (hlinked | ⟨sub', hmem, hlinked⟩)
      · exact .inl hlinked
      · by_cases hid : sub'.id = sub.id
        · left
          rwa [Db.linked, ← hid]
        · exact .inr ⟨sub', hmem, hlinked, hid⟩

theorem sortedIds_eq {ids : List Nat} (h : ∀ i ∈ ids, i = serverId) (hne : ids ≠ []) :
    sortedIds ids = [serverId] := by
  have hmem : ∀ i ∈ sortedIds ids, i = serverId := fun i hi =>
    h i (List.mem_dedup.1 ((List.perm_insertionSort _ _).mem_iff.1 hi))
  have hnodup : (sortedIds ids).Nodup :=
    (List.perm_insertionSort _ _).nodup_iff.2 (List.nodup_dedup _)
  have hlength : (sortedIds ids).length ≠ 0 := by
    rw [sortedIds, (List.perm_insertionSort _ _).length_eq]
    obtain ⟨i, hi⟩ := List.exists_mem_of_ne_nil _ hne
    exact (List.length_pos_of_mem (List.mem_dedup.2 hi)).ne'
  generalize sortedIds ids = l at hmem hnodup hlength
  cases l with
  | nil => exact absurd rfl hlength
  | cons i l =>
    obtain rfl := hmem i List.mem_cons_self
    cases l with
    | nil => rfl
    | cons j l =>
      obtain rfl := hmem j (List.mem_cons_of_mem _ List.mem_cons_self)
      simp at hnodup

theorem publishFor_run {ids : List Nat} {server : Server D} (hids : ∀ i ∈ ids, i = serverId)
    (hne : ids ≠ []) (hserver : w.view.server serverId = some server)
    (hp : publishesFor server = true)
    (h : (publishForServers settings [] ids).run Solo.serve w = (.ok (), w')) :
    ∃ now, (nextSnapshot settings w.view server now = none ∧ w'.view = w.view) ∨
      ∃ snapshot, nextSnapshot settings w.view server now = some snapshot ∧
        w'.view = w.view.addSnapshot snapshot := by
  rw [publishForServers, sortedIds_eq hids hne, List.foldlM_cons] at h
  obtain ⟨_, w₁, hone, h⟩ := Prog.exists_run_bind h
  cases h
  obtain ⟨server', w₂, hquery, hone⟩ := Prog.exists_run_bind hone
  cases hquery
  rw [Prog.whenever, if_pos] at hone
  · obtain ⟨_, w₃, hpage, hone⟩ := Prog.exists_run_bind hone
    have hw₃ : w₃ = w := by
      rw [Prog.whenever] at hpage
      split at hpage
      · cases hpage
      · cases hpage
        rfl
    rw [hw₃] at hone
    obtain ⟨_, w₄, hlock, hone⟩ := Prog.exists_run_bind hone
    obtain ⟨hlock, -⟩ := execute_run hlock
    rw [lockServer, hserver, Option.isSome_some, if_pos rfl] at hlock
    have hw₄ : w₄.view = w.view := (congrArg Prod.snd hlock).symm
    obtain ⟨now, w₅, hclock, hone⟩ := Prog.exists_run_bind hone
    have hw₅ : w₅.view = w₄.view := by
      cases hclock
      rfl
    obtain ⟨hwrite, -⟩ := execute_run hone
    rw [hw₅, hw₄, writeSnapshot, hserver] at hwrite
    refine ⟨now, ?_⟩
    cases hnext : nextSnapshot settings w.view server now with
    | none =>
      simp only [hnext] at hwrite
      exact .inl ⟨rfl, (congrArg Prod.snd hwrite).symm⟩
    | some snapshot =>
      simp only [hnext, Pending.write, DbAct.andThen] at hwrite
      exact .inr ⟨snapshot, rfl, (congrArg Prod.snd hwrite).symm⟩
  · change (w.view.server serverId).any publishesFor = true
    rw [hserver]
    exact hp

omit [DecidableEq D] in
theorem flushRemovals_run {removals : List (String × String)}
    (h : (flushRemovals removals : BotProg D Unit).run Solo.serve w = (.ok (), w')) :
    w'.view = w.view := by
  have huses : (flushRemovals removals : BotProg D Unit).Uses (Solo.Moves Eq ·) :=
    Prog.uses_foldlM () fun r _ _ => Prog.uses_bind (Prog.uses_perform rfl) fun _ => trivial
  have hmoves := Solo.run_moves huses (fun _ => rfl) (fun _ _ _ => Eq.trans) w
  rw [h] at hmoves
  exact hmoves.symm

/-- The database with the server off. -/
def Db.off (db : Db D) (serverId : Nat) : Db D :=
  { db with servers := db.servers.map fun s =>
      if s.id = serverId then { s with isActive := false } else s }

omit [DecidableEq D] in
theorem off_server {db : Db D} {server : Server D} (h : db.server serverId = some server) :
    (db.off serverId).server serverId = some { server with isActive := false } := by
  have hlookup : (db.off serverId).server serverId = (db.server serverId).map fun s =>
      if s.id = serverId then { s with isActive := false } else s :=
    find?_map_of_id (fun s => by split <;> rfl) serverId
  rw [h, Option.map_some, if_pos (server_id h)] at hlookup
  exact hlookup

omit [DecidableEq D] in
theorem off_inactive (db : Db D) (serverId : Nat) : (db.off serverId).Inactive serverId := by
  intro s hs hid
  obtain ⟨s₀, -, rfl⟩ := List.mem_map.1 hs
  split at hid
  · simp [*]
  · rename_i hne
    exact absurd hid hne

/-- What deactivation leaves: the server is off, and the snapshot that is due is published if some
active subscription had a link to the server. -/
theorem setServerActive_run {db : Db D} {server : Server D} {outside : Outside}
    (hserver : db.server serverId = some server) (hp : publishesFor server = true)
    (h : ((setServerActive settings serverId false).bind fun _ => commit []).run Solo.serve
      (Solo.start db outside) = (.ok (), w')) :
    ∃ links, (¬ db.Served serverId ∧ w'.committed = { db.off serverId with links }) ∨
      db.Served serverId ∧ ∃ now, let off := { db.off serverId with links }
        (nextSnapshot settings off { server with isActive := false } now = none ∧
          w'.committed = off) ∨
        ∃ snapshot, nextSnapshot settings off { server with isActive := false } now =
          some snapshot ∧ w'.committed = off.addSnapshot snapshot := by
  obtain ⟨_, w₁, hactive, h⟩ := Prog.exists_run_bind h
  obtain ⟨hcommit, -⟩ := commit_run h
  obtain ⟨_, w₂, hflag, hactive⟩ := Prog.exists_run_bind hactive
  obtain ⟨hflag, -⟩ := execute_run hflag
  rw [setServerIsActive, Solo.start, hserver, Option.isSome_some, if_pos rfl] at hflag
  obtain ⟨_, w₃, hfirst, hactive⟩ := Prog.exists_run_bind hactive
  have hview : w₃.view = db.off serverId :=
    (commit_run hfirst).2.trans (congrArg Prod.snd hflag).symm
  obtain ⟨subs, w₄, hsubs, hactive⟩ := Prog.exists_run_bind hactive
  have hsubs : (.ok (w₃.view.subscriptions.filter fun s => s.isActive &&
      w₃.view.users.any fun u => u.id == s.userId), w₃) = (Except.ok subs, w₄) := hsubs
  obtain ⟨hlist, rfl⟩ := Prod.mk.inj hsubs
  obtain ⟨collected, w₅, hloop, hactive⟩ := Prog.exists_run_bind hactive
  have hoff : w₃.view.Inactive serverId := hview ▸ off_inactive db serverId
  have hserver' : w₃.view.server serverId = some { server with isActive := false } :=
    hview ▸ off_server hserver
  obtain ⟨hall, hne, links, hw₅⟩ := reconcileLoop_run hoff hserver' hp hloop
  rw [hview] at hw₅
  have hserved : (∃ sub ∈ subs, w₃.view.linked serverId sub = true) ↔ db.Served serverId := by
    rw [← Except.ok.inj hlist, hview]
    simp only [Db.Served, Db.off, Db.linked, List.mem_filter, Bool.and_eq_true, List.any_eq_true,
      beq_iff_eq, and_assoc]
  rw [hserved] at hne
  obtain ⟨_, w₆, hpublish, hflush⟩ := Prog.exists_run_bind hactive
  rw [hcommit, flushRemovals_run hflush]
  refine ⟨links, ?_⟩
  by_cases hempty : collected.publications = []
  · left
    rw [hempty] at hpublish
    cases hpublish
    exact ⟨mt hne.2 (not_not.2 hempty), hw₅⟩
  · right
    have hserver₅ : w₅.view.server serverId = some { server with isActive := false } := by
      rw [hw₅]
      exact off_server hserver
    obtain ⟨now, hnow⟩ := publishFor_run hall hempty hserver₅ hp hpublish
    rw [hw₅] at hnow
    exact ⟨hne.1 hempty, now, hnow⟩

end Reconcile

end Run

/-! ## The latest snapshots -/

section Latest
variable [DecidableEq D] {settings : ControlSettings D} {db : Db D}

/-- Every snapshot has the digest of its items. -/
def Db.Digested (settings : ControlSettings D) (db : Db D) : Prop :=
  ∀ n ∈ db.snapshots, n.digest = settings.digest n.items

theorem digested_run (h : db.Digested settings) (ops : List (ControlOp D)) :
    (controlRun settings db ops).Digested settings := by
  induction ops generalizing db with
  | nil => exact h
  | cons op ops ih =>
    refine ih fun n hn => ?_
    rcases snapshots_step settings db op with hsame | ⟨server, snapshot, now, -, hnext, hadd⟩ |
      ⟨hsub, -⟩
    · exact h n (hsame ▸ hn)
    · rw [hadd] at hn
      rcases List.mem_append.1 hn with hn | hn
      · exact h n hn
      · obtain rfl := List.mem_singleton.1 hn
        simp only [nextSnapshot, Option.ite_none_left_eq_some] at hnext
        obtain ⟨-, hnext⟩ := hnext
        cases hnext
        rfl
    · exact h n (hsub hn)

/-- No snapshot is due for a server whose latest one has the digest of the items it would have. -/
theorem not_due (h : nextSnapshot settings db server now = none) :
    ∀ l, db.latestSnapshot server.id = some l →
      l.digest = settings.digest (buildDesiredItems settings db server now) := by
  intro l hl
  simp only [nextSnapshot, hl, Option.any_some, ite_eq_left_iff, reduceCtorEq, imp_false,
    not_not] at h
  exact of_decide_eq_true (Bool.and_eq_true_iff.1 h).1

theorem latest_addSnapshot (h : nextSnapshot settings db server now = some snapshot) :
    (db.addSnapshot snapshot).latestSnapshot server.id = some snapshot := by
  obtain ⟨hid, -, hnewer, -⟩ := nextSnapshot_spec h
  have hmem : snapshot ∈ (db.addSnapshot snapshot).snapshots :=
    List.mem_append_right _ (List.mem_singleton_self _)
  obtain ⟨l, hl, hle⟩ := latestSnapshot_ge hmem
  rw [hid] at hl
  obtain ⟨hl', hserver⟩ := List.mem_filter.1 (List.argmax_mem hl)
  rcases List.mem_append.1 hl' with hold | hnew
  · -- an older one would be newer than the latest was
    obtain ⟨l₀, hl₀, hle₀⟩ := latestSnapshot_ge hold
    rw [beq_iff_eq.1 hserver] at hl₀
    exact absurd (hle.trans hle₀) (Nat.not_le_of_lt (hnewer l₀ hl₀))
  · rw [hl, List.mem_singleton.1 hnew]

theorem latest_addSnapshot_other (h : nextSnapshot settings db server now = some snapshot)
    (hne : other ≠ server.id) :
    (db.addSnapshot snapshot).latestSnapshot other = db.latestSnapshot other := by
  refine latestSnapshot_append rfl fun n hn => ?_
  rw [List.mem_singleton.1 hn, (nextSnapshot_spec h).1]
  exact hne.symm

omit [DecidableEq D] in
theorem items_of_inactive (settings : ControlSettings D) (db : Db D) {server : Server D}
    (h : server.isActive = false) (now : Int) : buildDesiredItems settings db server now = [] := by
  rw [buildDesiredItems, h]
  rfl

omit [DecidableEq D] in
theorem latest_mem (h : db.latestSnapshot serverId = some l) :
    l ∈ db.snapshots ∧ l.serverId = serverId := by
  obtain ⟨hmem, hid⟩ := List.mem_filter.1 (List.argmax_mem h)
  exact ⟨hmem, beq_iff_eq.1 hid⟩

theorem latest_of_old (hledger : Ledger db) (op : ControlOp D) (hold : l ∈ db.snapshots)
    (hl : (controlStep settings db op).latestSnapshot serverId = some l) :
    db.latestSnapshot serverId = some l := by
  have hid := (latest_mem hl).2
  obtain ⟨l₀, hl₀, hle₀⟩ := latestSnapshot_ge hold
  rw [hid] at hl₀
  obtain ⟨hmem₀, hid₀⟩ := latest_mem hl₀
  have hkept := le_latestSnapshot hl (hledger.latest_step settings hl₀ op) hid₀
  rw [hledger.unique hold hmem₀ (hid.trans hid₀.symm) (le_antisymm hle₀ hkept)]
  exact hl₀

theorem empties_step (h : db.Empties serverId) (hledger : Ledger db) (hoff : db.Inactive serverId)
    (op : ControlOp D) : (controlStep settings db op).Empties serverId := by
  intro l hl
  obtain ⟨hmem, hid⟩ := latest_mem hl
  rcases snapshots_step settings db op with hsame | ⟨server, snapshot, now, hserver, hnext, hadd⟩ |
    ⟨hsub, -⟩
  · exact h l (latest_of_old hledger op (hsame ▸ hmem) hl)
  · rw [hadd] at hmem
    rcases List.mem_append.1 hmem with hold | hnew
    · exact h l (latest_of_old hledger op hold hl)
    · obtain rfl := List.mem_singleton.1 hnew
      obtain ⟨hsnapshot, -, -, hitems⟩ := nextSnapshot_spec hnext
      rw [hitems]
      refine items_of_inactive settings db (hoff server ?_ (hsnapshot.symm.trans hid)) now
      exact List.mem_of_find?_eq_some hserver
  · exact h l (latest_of_old hledger op (hsub hmem) hl)

theorem empties_run (h : db.Empties serverId) (hledger : Ledger db) (ops : List (ControlOp D))
    (hoff : ∀ d ∈ controlStates settings db ops, d.Inactive serverId) :
    (controlRun settings db ops).Empties serverId := by
  induction ops generalizing db with
  | nil => exact h
  | cons op ops ih =>
    refine ih (empties_step h hledger (hoff db List.mem_cons_self) op) (hledger.step settings op)
      fun d hd => hoff d (List.mem_cons_of_mem _ hd)

/-! ## Deactivation -/

omit [DecidableEq D] in
theorem off_edited (db : Db D) (serverId : Nat) (links : List SubscriptionServer) :
    db.Edited { db.off serverId with links } := by
  refine ⟨rfl, fun a ha => ha, ?_⟩
  change (db.servers.map _).map Server.generations = _
  rw [List.map_map]
  refine List.map_congr_left fun s _ => ?_
  rw [Function.comp_apply]
  split <;> rfl

omit [DecidableEq D] in
theorem off_address (db : Db D) (serverId : Nat) :
    (db.off serverId).servers.map Server.address = db.servers.map Server.address := by
  rw [Db.off, List.map_map]
  refine List.map_congr_left fun s _ => ?_
  rw [Function.comp_apply]
  split <;> rfl

omit [DecidableEq D] in
theorem addSnapshot_address (db : Db D) (snapshot : NodeSnapshot D) :
    (db.addSnapshot snapshot).servers.map Server.address = db.servers.map Server.address := by
  rw [Db.addSnapshot, List.map_map]
  refine List.map_congr_left fun s _ => ?_
  rw [Function.comp_apply]
  split <;> rfl

omit [DecidableEq D] in
theorem routesThrough_congr {d e : Db D} (hexits : e.exits = d.exits)
    (haddress : e.servers.map Server.address = d.servers.map Server.address)
    (hlatest : e.latestSnapshot other = d.latestSnapshot other) :
    e.RoutesThrough serverId other ↔ d.RoutesThrough serverId other := by
  have huses : ∀ item, e.Uses serverId item ↔ d.Uses serverId item := by
    intro item
    cases item <;> simp only [Db.Uses, Db.LeadsTo, hexits, haddress]
  simp only [Db.RoutesThrough, hlatest, huses]

/-- What a deactivation leaves is drained if the server was served, or had nothing left to do, and
no other node routes through it. -/
theorem drained_iff {db : Db D} {server : Server D} {outside : Outside} {w' : Solo (Db D)}
    (hdigested : db.Digested settings)
    (hfree : ∀ items, settings.digest items = settings.digest [] → items = [])
    (hserver : db.server serverId = some server) (hp : publishesFor server = true)
    (h : ((setServerActive settings serverId false).bind fun _ => commit []).run Solo.serve
      (Solo.start db outside) = (.ok (), w')) :
    w'.committed.Drained serverId ↔ (db.Served serverId ∨ db.Empties serverId) ∧
      ∀ other, other ≠ serverId → ¬ db.RoutesThrough serverId other := by
  have hid := server_id hserver
  obtain ⟨links, ⟨hserved, hw⟩ | ⟨hserved, now, hnow⟩⟩ := setServerActive_run hserver hp h
  · rw [hw]
    have hsame : ∀ other, ({ db.off serverId with links } : Db D).RoutesThrough serverId other ↔
        db.RoutesThrough serverId other := fun _ =>
      routesThrough_congr rfl (off_address db serverId) rfl
    constructor
    · exact fun hd => ⟨.inr hd.empties, fun other hne => mt (hsame other).2 (hd.routes other hne)⟩
    · exact fun hd => ⟨hd.1.resolve_left hserved, fun other hne =>
        mt (hsame other).1 (hd.2 other hne)⟩
  · have hsame : ∀ other, other ≠ serverId →
        (w'.committed.RoutesThrough serverId other ↔ db.RoutesThrough serverId other) := by
      intro other hne
      rcases hnow with ⟨-, hw⟩ | ⟨snapshot, hnext, hw⟩
      · rw [hw]
        exact routesThrough_congr rfl (off_address db serverId) rfl
      · rw [hw]
        exact routesThrough_congr rfl
          ((addSnapshot_address _ snapshot).trans (off_address db serverId))
          (latest_addSnapshot_other hnext (hid.symm ▸ hne))
    have hempties : w'.committed.Empties serverId := by
      rcases hnow with ⟨hnone, hw⟩ | ⟨snapshot, hnext, hw⟩
      · intro l hl
        have hl : db.latestSnapshot serverId = some l := by
          rw [hw] at hl
          exact hl
        have hsame := not_due hnone l (hid.symm ▸ hl)
        rw [items_of_inactive settings _ rfl] at hsame
        exact hfree _ ((hdigested l (latest_mem hl).1).symm.trans hsame)
      · intro l hl
        have hlatest := latest_addSnapshot hnext
        rw [hw] at hl
        rw [show ({ server with isActive := false } : Server D).id = serverId from hid, hl]
          at hlatest
        obtain rfl := Option.some.inj hlatest
        exact (nextSnapshot_spec hnext).2.2.2.trans (items_of_inactive settings _ rfl now)
    constructor
    · exact fun hd => ⟨.inl hserved, fun other hne => mt (hsame other hne).2 (hd.routes other hne)⟩
    · exact fun hd => ⟨hempties, fun other hne => mt (hsame other hne).1 (hd.2 other hne)⟩

theorem ledger_deactivated {db : Db D} {server : Server D} {outside : Outside} {w' : Solo (Db D)}
    (hledger : Ledger db) (hserver : db.server serverId = some server)
    (hp : publishesFor server = true)
    (h : ((setServerActive settings serverId false).bind fun _ => commit []).run Solo.serve
      (Solo.start db outside) = (.ok (), w')) : Ledger w'.committed := by
  obtain ⟨links, ⟨-, hw⟩ | ⟨-, now, ⟨-, hw⟩ | ⟨snapshot, hnext, hw⟩⟩⟩ :=
    setServerActive_run hserver hp h
  · rw [hw]
    exact hledger.edit (off_edited db serverId links)
  · rw [hw]
    exact hledger.edit (off_edited db serverId links)
  · rw [hw]
    exact (hledger.edit (off_edited db serverId links)).addSnapshot hnext

/-- A server that was served by an active subscription is drained for as long as it is off, if no
other node routes through it; so is one that had nothing left to do, and no other one is. -/
theorem deactivation_drains (settings : ControlSettings D)
    (hfree : ∀ items, settings.digest items = settings.digest [] → items = [])
    (ops : List (ControlOp D)) (serverId : Nat) (server : Server D) (outside : Outside)
    (w' : Solo (Db D))
    (hserver : (controlRun settings Db.empty ops).server serverId = some server)
    (hp : publishesFor server = true)
    (h : ((setServerActive settings serverId false).bind fun _ => commit []).run Solo.serve
      (Solo.start (controlRun settings Db.empty ops) outside) = (.ok (), w')) :
    (w'.committed.Drained serverId ∧ ∀ later,
      (∀ d ∈ controlStates settings w'.committed later, d.Inactive serverId) →
      (controlRun settings w'.committed later).Empties serverId) ↔
    ((controlRun settings Db.empty ops).Served serverId ∨
      (controlRun settings Db.empty ops).Empties serverId) ∧
    ∀ other, other ≠ serverId →
      ¬ (controlRun settings Db.empty ops).RoutesThrough serverId other := by
  have hdigested : (controlRun settings Db.empty ops).Digested settings :=
    digested_run (fun n hn => by cases hn) ops
  have hledger := ledger_deactivated (Ledger.empty.run settings ops) hserver hp h
  rw [← drained_iff hdigested hfree hserver hp h]
  constructor
  · exact fun hd => hd.1
  · intro hd
    refine ⟨hd, fun later hoff => ?_⟩
    exact empties_run hd.empties hledger later hoff

end Latest

def pullServer (id : Nat) (features : Option (List String)) (role : NodeRole) :
    Server (List DesiredItem) :=
  ⟨id, s!"203.0.113.{id}", 443, "pk", "sid", "agent", .pull, 0, 0, none, features, role, true, true⟩

/-- A node with one client. -/
def clientRun : List (ControlOp (List DesiredItem)) :=
  [.addServer (pullServer 1 none .both),
    .edit { (Db.empty : Db (List DesiredItem)) with
      servers := [pullServer 1 none .both], users := [⟨1, 1, false, false, none⟩]
      subscriptions := [⟨1, 1, "t", none, "u", 30, 0, 1000, true⟩], links := [⟨1, 1, true⟩] },
    .publish 1 0]

theorem deactivation_drains_client :
    let db := controlRun listSettings Db.empty clientRun
    let run := ((setServerActive listSettings 1 false).bind fun _ => commit []).run Solo.serve
      (Solo.start db noon)
    (db.latestSnapshot 1).map NodeSnapshot.items = some [.client ⟨"u", "user_1_sub_1", 1⟩] ∧
    run.2.committed.Drained 1 := by
  intro db run
  have hserver : db.server 1 =
      some { pullServer 1 none .both with desiredGeneration := 1 } := by decide
  have hrun : run = (.ok (), run.2) := Prod.ext (by decide) rfl
  have hserved : db.Served 1 :=
    ⟨⟨1, 1, "t", none, "u", 30, 0, 1000, true⟩, by decide, rfl,
      ⟨⟨1, 1, false, false, none⟩, by decide, rfl⟩, by decide⟩
  have hroutes : ∀ other, other ≠ 1 → ¬ db.RoutesThrough 1 other := by
    rintro other hne ⟨l, hl, -⟩
    have hmem := latest_mem hl
    have hsnapshots : db.snapshots.map NodeSnapshot.serverId = [1] := by decide
    have hid := List.mem_map_of_mem (f := NodeSnapshot.serverId) hmem.1
    rw [hsnapshots, hmem.2, List.mem_singleton] at hid
    exact hne hid
  exact ⟨by decide, ((deactivation_drains listSettings (fun _ h => h) clientRun 1 _ noon _
    hserver rfl hrun).2 ⟨.inl hserved, hroutes⟩).1⟩

/-- A route from one node to another, which has no clients of its own. -/
def routeRun : List (ControlOp (List DesiredItem)) :=
  [.addServer (pullServer 1 (some ["cascade-v2"]) .entry),
    .addServer (pullServer 2 (some ["cascade-v2"]) .exit),
    .edit { (Db.empty : Db (List DesiredItem)) with
      servers := [pullServer 1 (some ["cascade-v2"]) .entry,
        pullServer 2 (some ["cascade-v2"]) .exit]
      routes := [⟨1, "r", 1, true, 1, ⟨[]⟩, []⟩]
      exits := [⟨1, 2, 0, "x", "sni", "/", true⟩] },
    .publish 1 0, .publish 2 0]

/-- The exit goes off, and both nodes keep the route. -/
theorem deactivated_exit_in_use :
    let db := controlRun listSettings Db.empty routeRun
    let run := ((setServerActive listSettings 2 false).bind fun _ => commit []).run Solo.serve
      (Solo.start db noon)
    (db.server 2).map publishesFor = some true ∧ run.1 = .ok () ∧
    (run.2.committed.server 2).map Server.isActive = some false ∧
    (run.2.committed.latestSnapshot 2).map NodeSnapshot.items =
      some [.cascadeService ⟨1, 1, "", "x", "cascade_route_1_entry_1"⟩] ∧
    ¬ run.2.committed.Empties 2 ∧ run.2.committed.RoutesThrough 2 1 := by
  intro db run
  have hentry : (run.2.committed.latestSnapshot 1).map NodeSnapshot.items = some [.cascadeRoute
      ⟨1, 1, "", "r", ["vless-in"], [], [⟨0, "203.0.113.2", 443, "x", "pk", "sid", "sni", "/"⟩],
        ⟨[]⟩⟩] := by
    decide
  have hserver : (2, "203.0.113.2", 443) ∈ run.2.committed.servers.map Server.address := by decide
  have hroutes : run.2.committed.RoutesThrough 2 1 := by
    obtain ⟨l, hl, hitems⟩ := Option.map_eq_some_iff.1 hentry
    refine ⟨l, hl, _, hitems ▸ List.mem_singleton_self _, ?_⟩
    exact ⟨_, List.mem_singleton_self _, .inl hserver⟩
  have hexit : (run.2.committed.latestSnapshot 2).map NodeSnapshot.items =
      some [.cascadeService ⟨1, 1, "", "x", "cascade_route_1_entry_1"⟩] := by
    decide
  refine ⟨by decide, by decide, by decide, hexit, fun hempty => ?_,
    hroutes⟩
  obtain ⟨l, hl, hitems⟩ := Option.map_eq_some_iff.1 hexit
  rw [hempty l hl] at hitems
  cases hitems

end AegisVPN
