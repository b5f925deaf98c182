import AegisVPN.Bot.AccessExact

namespace AegisVPN
open Library
set_option autoImplicit true

/-! ## Several reconciliations -/

theorem server_of_mayUse {db : Db D} (hservers : (db.servers.map Server.id).Nodup)
    (hmay : db.mayUse sub serverId = true) : (db.server serverId).isSome = true := by
  obtain ⟨s, -, hserver, -⟩ := (mayUse_server hservers).1 hmay
  rw [hserver]
  rfl

theorem SameAccess.server_isSome {a b : Db D} (h : SameAccess a b) (serverId : Nat) :
    (b.server serverId).isSome = (a.server serverId).isSome := by
  obtain ⟨f, -, hserver⟩ := h.server serverId
  rw [hserver, Option.isSome_map]

theorem Db.Wired.relinked {a b : Db D} (hw : a.Wired) (haccess : SameAccess a b)
    (hlinks : ∀ l ∈ b.links, a.Proper l ∨ l ∈ a.links) : b.Wired where
  servers := by
    obtain ⟨g, hg⟩ := haccess.servers
    rw [hg, List.map_map]
    exact hw.servers
  users := by
    rw [haccess.users]
    exact hw.users
  keys := by
    constructor
    · rw [haccess.subscriptions]
      exact hw.keys.ids
    · rw [haccess.subscriptions, haccess.devices]
      exact hw.keys.uuids
  links l hl := by
    rw [haccess.server_isSome]
    rcases hlinks l hl with ⟨sub, -, -, hright⟩ | hl
    · exact server_of_mayUse hw.servers hright.mayUse
    · exact hw.links l hl
  synced sub hsub hactive l hl hid hpush := by
    rw [haccess.subscriptions] at hsub
    rw [haccess.pushAgent] at hpush
    have hkept : l ∈ a.links → l.isSynced = true :=
      fun hl => hw.synced sub hsub hactive l hl hid hpush
    rcases hlinks l hl with ⟨sub', -, -, hright⟩ | hl
    · rcases hright.link with hl | ⟨-, hflag⟩
      · exact hkept hl
      · rw [hflag, hpush]
    · exact hkept hl

/-- Each reconciliation in a transaction of its own. -/
def reconcileEach [DecidableEq D] (settings : ControlSettings D) (rs : List Reconcile) :
    BotProg D Unit :=
  rs.foldlM (fun _ r => do
    r.program settings
    commit []) ()

/-- The links that are left, once reconciliations have been made among those given. -/
def Db.EndsIn (db : Db D) (rs : List Reconcile) (links : List SubscriptionServer)
    (l : SubscriptionServer) : Prop :=
  ((∃ r ∈ rs, r.Decides db l) ∧ db.Proper l) ∨ (∀ r ∈ rs, ¬r.Decides db l) ∧ l ∈ links

section Same
variable {a b : Db D} {r : Reconcile}

theorem linked_congr (hlinks : ∀ l, l.subscriptionId = sub.id → l.serverId = i →
    (l ∈ b.links ↔ l ∈ a.links)) : b.linked i sub = a.linked i sub := by
  rw [Bool.eq_iff_iff, mem_linked, mem_linked]
  constructor
  · intro ⟨l, hl, hid, hi⟩
    exact ⟨l, (hlinks l hid hi).1 hl, hid, hi⟩
  · intro ⟨l, hl, hid, hi⟩
    exact ⟨l, (hlinks l hid hi).2 hl, hid, hi⟩

theorem linked_untouched (hlinks : ∀ l, r.Decides a l → (l ∈ b.links ↔ l ∈ a.links))
    (hsub : sub ∈ r.subscriptions a) (hscope : InScope r.target i) :
    b.linked i sub = a.linked i sub :=
  linked_congr fun l hid hi => hlinks l ⟨⟨sub, hsub, hid⟩, hi ▸ hscope⟩

variable (h : SameAccess a b)
include h

theorem SameAccess.decides (r : Reconcile) (l : SubscriptionServer) :
    r.Decides b l ↔ r.Decides a l := by
  rw [Reconcile.Decides, Reconcile.Decides, h.reconciles]

theorem SameAccess.servedAt (target : Option Nat) (sub : Subscription) (agent : String) :
    b.ServedAt target sub agent ↔ a.ServedAt target sub agent := by
  simp only [Db.ServedAt, h.mayUse, h.pushAgent]

theorem SameAccess.uuidsOf (sub : Subscription) : b.uuidsOf sub = a.uuidsOf sub := by
  rw [Db.uuidsOf, Db.uuidsOf, Db.deviceUuids, h.devices]
  rfl

variable (hlinks : ∀ l, r.Decides a l → (l ∈ b.links ↔ l ∈ a.links))
include hlinks

theorem SameAccess.proper {l : SubscriptionServer} (hl : r.Decides a l) :
    b.Proper l ↔ a.Proper l := by
  rw [Db.Proper, Db.Proper, h.subscriptions]
  refine exists_congr fun sub => and_congr_right fun _ => and_congr_right fun hid => ?_
  have hlinked : b.linked l.serverId sub = a.linked l.serverId sub := by
    refine linked_congr fun l' hid' hi' => hlinks l' ?_
    rw [Reconcile.Decides, hid', hi', ← hid]
    exact hl
  constructor
  · intro ⟨hmay, hlink⟩
    rw [h.mayUse] at hmay
    rw [hlinks l hl, hlinked, h.pushAgent] at hlink
    exact ⟨hmay, hlink⟩
  · intro ⟨hmay, hlink⟩
    rw [← h.mayUse] at hmay
    rw [← hlinks l hl, ← hlinked, ← h.pushAgent] at hlink
    exact ⟨hmay, hlink⟩

theorem SameAccess.brings (sub : Subscription) (p : String × String) :
    r.Brings b sub p ↔ r.Brings a sub p := by
  rw [Reconcile.Brings, Reconcile.Brings, h.reconciles, h.servedUuids]
  refine and_congr_right fun hsub => and_congr_right fun _ => exists_congr fun i =>
    and_congr_right fun hscope => ?_
  rw [Db.Gains, Db.Gains, h.mayUse, h.pushAgent, linked_untouched hlinks hsub hscope]

theorem SameAccess.takes (sub : Subscription) (p : String × String) :
    r.Takes b sub p ↔ r.Takes a sub p := by
  rw [Reconcile.Takes, Reconcile.Takes, h.reconciles, h.servedAt]
  refine and_congr_right fun hsub => and_congr_right fun _ => exists_congr fun i =>
    and_congr_right fun hscope => ?_
  rw [Db.Loses, Db.Loses, h.mayUse, h.pushAgent, linked_untouched hlinks hsub hscope]

end Same

/-- What holds while reconciliations are made that decide about different links: those still to come
lead from here to where all of them lead from the start. -/
structure Underway (db : Db D) (n : Agents) (rs rest : List Reconcile) (db' : Db D) (n' : Agents) :
    Prop where
  apart : rest.Pairwise fun r r' => ∀ l, r.Decides db l → ¬r'.Decides db l
  access : SameAccess db db'
  wired : db'.Wired
  untouched : ∀ r ∈ rest, ∀ l, r.Decides db l → (l ∈ db'.links ↔ l ∈ db.links)
  links : ∀ l, db.EndsIn rest db'.links l ↔ db.EndsIn rs db.links l
  agents : ∀ sub ∈ db.subscriptions, ∀ p, p.2 ∈ db.uuidsOf sub →
    (Toggled (fun r => r.Brings db sub p) (fun r => r.Takes db sub p) (n'.Has p) rest ↔
      Toggled (fun r => r.Brings db sub p) (fun r => r.Takes db sub p) (n.Has p) rs)
  others : ∀ p, (∀ sub ∈ db.subscriptions, p.2 ∉ db.uuidsOf sub) → (n'.Has p ↔ n.Has p)

section Runs
variable [DecidableEq D] {settings : ControlSettings D} {w w' : Solo (Db D)} {n n' : Agents}
  {db : Db D} {n₀ : Agents} {rs rest : List Reconcile} {r : Reconcile}

theorem Underway.step (hu : Underway db n₀ rs (r :: rest) w.view n)
    (h : (r.program settings).run (Solo.serveAll true Agents.handle) (w, n) =
      (.ok (), (w', n'))) : Underway db n₀ rs rest w'.view n' := by
  obtain ⟨hnot, hapart⟩ := List.pairwise_cons.1 hu.apart
  obtain ⟨haccess, hlinks⟩ := Reconcile.program_links hu.wired h
  have huntouched := hu.untouched r List.mem_cons_self
  have hdecided : ∀ l, r.Decides db l → (l ∈ w'.view.links ↔ db.Proper l) := by
    intro l hl
    have hl' := (hu.access.decides r l).2 hl
    rw [hlinks l, hu.access.proper huntouched hl, and_iff_right hl', or_iff_left fun h => h.1 hl']
  have hkept : ∀ l, ¬r.Decides db l → (l ∈ w'.view.links ↔ l ∈ w.view.links) := by
    intro l hl
    have hl' := fun h => hl ((hu.access.decides r l).1 h)
    rw [hlinks l, and_iff_right hl', or_iff_right fun h => hl' h.1]
  refine ⟨hapart, hu.access.trans haccess, ?_, fun r' hr' l hl => ?_, fun l => ?_,
    fun sub hsub p hp => ?_, fun p hp => ?_⟩
  · refine hu.wired.relinked haccess fun l hl => ?_
    exact ((hlinks l).1 hl).imp (fun h => h.2) (fun h => h.2)
  · rw [hkept l fun hr => hnot r' hr' l hr hl]
    exact hu.untouched r' (List.mem_cons_of_mem _ hr') l hl
  · rw [← hu.links l, Db.EndsIn, Db.EndsIn, List.forall_mem_cons, List.exists_mem_cons_iff]
    by_cases hl : r.Decides db l
    · have hnone : ∀ r' ∈ rest, ¬r'.Decides db l := fun r' hr' => hnot r' hr' l hl
      have hno : ¬∃ r' ∈ rest, r'.Decides db l := fun ⟨r', hr', hl'⟩ => hnone r' hr' hl'
      rw [hdecided l hl]
      tauto
    · rw [hkept l hl, or_iff_right hl, and_iff_right (a := ¬r.Decides db l) hl]
  · rw [← hu.agents sub hsub p hp]
    refine toggled_congr ?_ rest
    rw [← hu.access.subscriptions] at hsub
    rw [← hu.access.uuidsOf] at hp
    rw [Reconcile.program_agents hu.wired h hsub hp, hu.access.brings huntouched,
      hu.access.takes huntouched]
  · rw [← hu.others p hp]
    rw [← hu.access.subscriptions] at hp
    exact Reconcile.program_others hu.wired h fun sub hsub => hu.access.uuidsOf sub ▸ hp sub hsub

theorem reconcileEach_run (hw : w.view.Wired)
    (hrs : rs.Pairwise fun r r' => ∀ l, r.Decides w.view l → ¬r'.Decides w.view l)
    (h : (reconcileEach settings rs).run (Solo.serveAll true Agents.handle) (w, n) =
      (.ok (), (w', n'))) : Underway w.view n rs [] w'.view n' := by
  refine Prog.run_foldlM (fun rest _ (v : Solo (Db D) × Agents) =>
    Underway w.view n rs rest v.1.view v.2) ?_ ?_ h
  · rintro r rest _ ⟨v, m⟩ _ ⟨v', m'⟩ hu hstep
    obtain ⟨_, ⟨v₁, m₁⟩, hprogram, hcommit⟩ := Prog.exists_run_bind hstep
    have hcommitted : v'.view = v₁.view ∧ m' = m₁ := by
      cases hcommit
      exact ⟨rfl, rfl⟩
    change Underway _ _ _ _ v'.view m'
    rw [hcommitted.1, hcommitted.2]
    exact hu.step hprogram
  · exact ⟨hrs, .refl _, hw, fun _ _ _ _ => Iff.rfl, fun _ => Iff.rfl, fun _ _ _ _ => Iff.rfl,
      fun _ _ => Iff.rfl⟩

end Runs

/-! ## The full reconciliation and the targeted ones -/

/-- The access modes, the flags and the grants are changed, whatever they were. -/
def Db.changeAccess (db : Db D) (isPublic isActive : Nat → Bool)
    (grants : List ServerAccessGrant) : Db D :=
  { db with
    servers := db.servers.map fun s => { s with
      isPublic := isPublic s.id
      isActive := isActive s.id }
    grants }

/-- The agents hold what the links of the active subscriptions say. -/
def Db.Agrees (db : Db D) (n : Agents) : Prop :=
  ∀ sub ∈ db.subscriptions, sub.isActive = true → ∀ p : String × String, p.2 ∈ db.uuidsOf sub →
    (n.Has p ↔ p.2 ∈ db.servedUuids sub ∧
      ∃ i, db.linked i sub = true ∧ db.pushAgent i = some p.1)

/-- The links are to the servers that the subscription may use, and the agents of those hold its
clients. -/
structure Db.Exact (db : Db D) (n : Agents) (sub : Subscription) : Prop where
  links : ∀ i, db.linked i sub = true ↔ db.mayUse sub i = true
  agents : ∀ p : String × String, p.2 ∈ db.uuidsOf sub →
    (n.Has p ↔ p.2 ∈ db.servedUuids sub ∧ db.ServedAt none sub p.1)

/-- The active subscriptions of users. -/
def Db.active (db : Db D) : List Subscription :=
  db.subscriptions.filter fun s => s.isActive && db.users.any fun u => u.id == s.userId

/-- When a subscription loses a server of an agent and keeps the agent, a server of that agent that
it gains comes later. -/
def Db.GainsLast (db : Db D) (order : List Nat) : Prop :=
  ∀ sub ∈ db.active, ∀ agent, db.ServedAt none sub agent → ∀ i, db.Loses sub i →
    db.pushAgent i = some agent →
      ∃ j, db.Gains sub j ∧ db.pushAgent j = some agent ∧ [i, j].Sublist order

section Change
variable {db : Db D} {isPublic isActive : Nat → Bool} {grants : List ServerAccessGrant}

theorem changeAccess_server (i : Nat) : (db.changeAccess isPublic isActive grants).server i =
    (db.server i).map fun s => { s with
      isPublic := isPublic s.id
      isActive := isActive s.id } :=
  find?_map_of_id (f := fun s : Server D => { s with
    isPublic := isPublic s.id
    isActive := isActive s.id }) (fun _ => rfl) i

theorem changeAccess_pushAgent (i : Nat) :
    (db.changeAccess isPublic isActive grants).pushAgent i = db.pushAgent i := by
  simp only [Db.pushAgent, changeAccess_server, Option.filter_map, Option.map_map]
  rfl

theorem Db.Wired.changeAccess (hw : db.Wired) :
    (db.changeAccess isPublic isActive grants).Wired where
  servers := by
    rw [Db.changeAccess, List.map_map]
    exact hw.servers
  users := hw.users
  keys := ⟨hw.keys.ids, hw.keys.uuids⟩
  links l hl := by
    rw [changeAccess_server, Option.isSome_map]
    exact hw.links l hl
  synced sub hsub hactive l hl hid hpush := by
    rw [changeAccess_pushAgent] at hpush
    exact hw.synced sub hsub hactive l hl hid hpush

theorem Db.Agrees.changeAccess (h : db.Agrees n) :
    (db.changeAccess isPublic isActive grants).Agrees n := by
  intro sub hsub hactive p hp
  simp only [changeAccess_pushAgent]
  exact h sub hsub hactive p hp

end Change

theorem inScope_none (i : Nat) : InScope none i := by
  intro j hj
  cases hj

theorem inScope_some {i j : Nat} : InScope (some j) i ↔ i = j := by
  simp [InScope]

section Ends
variable {db : Db D} {n : Agents} {sub : Subscription} {p : String × String}

theorem active_subset (hsub : sub ∈ db.active) :
    sub ∈ db.subscriptions ∧ sub.isActive = true := by
  obtain ⟨hmem, hboth⟩ := List.mem_filter.1 hsub
  exact ⟨hmem, (Bool.and_eq_true_iff.1 hboth).1⟩

theorem mem_active_iff : sub ∈ db.active ↔
    sub ∈ db.activeOf sub.userId ∧ sub.userId ∈ db.users.map User.id := by
  simp only [Db.active, Db.activeOf, Db.subscriptionsOf, List.mem_filter, Bool.and_eq_true,
    List.any_eq_true, beq_iff_eq, List.mem_map, beq_self_eq_true, and_true]
  tauto

theorem mem_user_iff {userId : Nat} : sub ∈ (Reconcile.user userId).subscriptions db ↔
    sub ∈ db.activeOf sub.userId ∧ sub.userId = userId := by
  simp only [Reconcile.subscriptions, Db.activeOf, Db.subscriptionsOf, List.mem_filter,
    beq_iff_eq, beq_self_eq_true, and_true]
  tauto

/-- What the subscription has at an agent before anything is reconciled, it has to lose if nothing
serves it there; and if something does, it has it or is brought it. -/
theorem agrees_served (hagrees : db.Agrees n) (hsub : sub ∈ db.active)
    (hp : p.2 ∈ db.servedUuids sub) (hserved : db.ServedAt none sub p.1) :
    n.Has p ∨ ∃ i, db.Gains sub i ∧ db.pushAgent i = some p.1 := by
  obtain ⟨i, -, hmay, hagent⟩ := hserved
  obtain ⟨hmem, hactive⟩ := active_subset hsub
  by_cases hlinked : db.linked i sub = true
  · exact .inl ((hagrees sub hmem hactive p (servedUuids_subset hp)).2 ⟨hp, i, hlinked, hagent⟩)
  · exact .inr ⟨i, ⟨hmay, Bool.eq_false_iff.2 hlinked⟩, hagent⟩

theorem agrees_unserved (hagrees : db.Agrees n) (hsub : sub ∈ db.active) (hp : p.2 ∈ db.uuidsOf sub)
    (hnot : ¬(p.2 ∈ db.servedUuids sub ∧ db.ServedAt none sub p.1)) :
    (n.Has p → ∃ i, db.Loses sub i ∧ db.pushAgent i = some p.1) ∧
      ¬(p.2 ∈ db.servedUuids sub ∧ ∃ i, db.Gains sub i ∧ db.pushAgent i = some p.1) := by
  obtain ⟨hmem, hactive⟩ := active_subset hsub
  refine ⟨fun hhas => ?_, fun ⟨hp, i, hgains, hagent⟩ => ?_⟩
  · obtain ⟨huuid, i, hlinked, hagent⟩ := (hagrees sub hmem hactive p hp).1 hhas
    refine ⟨i, ⟨hlinked, Bool.eq_false_iff.2 fun hmay => ?_⟩, hagent⟩
    exact hnot ⟨huuid, i, inScope_none i, hmay, hagent⟩
  · exact hnot ⟨hp, i, inScope_none i, hgains.1, hagent⟩

theorem takes_server (hsub : sub ∈ db.active) (i : Nat) :
    (Reconcile.server i).Takes db sub p ↔ db.Loses sub i ∧ db.pushAgent i = some p.1 := by
  constructor
  · rintro ⟨-, -, j, hscope, hloses⟩
    rw [← inScope_some.1 hscope]
    exact hloses
  · intro ⟨hloses, hagent⟩
    refine ⟨hsub, ?_, i, inScope_some.2 rfl, hloses, hagent⟩
    rintro ⟨j, hscope, hmay, -⟩
    rw [inScope_some.1 hscope, hloses.2] at hmay
    cases hmay

theorem brings_server (hsub : sub ∈ db.active) (i : Nat) : (Reconcile.server i).Brings db sub p ↔
    p.2 ∈ db.servedUuids sub ∧ db.Gains sub i ∧ db.pushAgent i = some p.1 := by
  constructor
  · rintro ⟨-, hp, j, hscope, hgains⟩
    rw [← inScope_some.1 hscope]
    exact ⟨hp, hgains⟩
  · intro ⟨hp, hgains⟩
    exact ⟨hsub, hp, i, inScope_some.2 rfl, hgains⟩

theorem brings_user (hsub : sub ∈ db.active) : (Reconcile.user sub.userId).Brings db sub p ↔
    p.2 ∈ db.servedUuids sub ∧ ∃ i, db.Gains sub i ∧ db.pushAgent i = some p.1 := by
  constructor
  · rintro ⟨-, hp, i, -, hgains⟩
    exact ⟨hp, i, hgains⟩
  · intro ⟨hp, i, hgains⟩
    exact ⟨mem_user_iff.2 ⟨(mem_active_iff.1 hsub).1, rfl⟩, hp, i, inScope_none i, hgains⟩

theorem takes_user (hsub : sub ∈ db.active) : (Reconcile.user sub.userId).Takes db sub p ↔
    ¬db.ServedAt none sub p.1 ∧ ∃ i, db.Loses sub i ∧ db.pushAgent i = some p.1 := by
  constructor
  · rintro ⟨-, hnot, i, -, hloses⟩
    exact ⟨hnot, i, hloses⟩
  · intro ⟨hnot, i, hloses⟩
    exact ⟨mem_user_iff.2 ⟨(mem_active_iff.1 hsub).1, rfl⟩, hnot, i, inScope_none i, hloses⟩

theorem toggled_users {users : List Nat} (hagrees : db.Agrees n) (hsub : sub ∈ db.active)
    (hp : p.2 ∈ db.uuidsOf sub) (husers : sub.userId ∈ users) (hnodup : users.Nodup) :
    Toggled (fun r => r.Brings db sub p) (fun r => r.Takes db sub p) (n.Has p)
      (users.map Reconcile.user) ↔ p.2 ∈ db.servedUuids sub ∧ db.ServedAt none sub p.1 := by
  rw [toggled_map]
  by_cases hboth : p.2 ∈ db.servedUuids sub ∧ db.ServedAt none sub p.1
  · refine iff_of_true ((toggled_iff hnodup ?_).2 fun userId _ htakes => ?_) hboth
    · refine (agrees_served hagrees hsub hboth.1 hboth.2).imp_right fun hgains => ?_
      exact ⟨sub.userId, husers, (brings_user hsub).2 ⟨hboth.1, hgains⟩⟩
    · exact absurd hboth.2 htakes.2.1
  · obtain ⟨hlost, hnone⟩ := agrees_unserved hagrees hsub hp hboth
    refine iff_of_false (not_toggled (fun userId _ hbrings => ?_) fun hhas => ?_) hboth
    · obtain ⟨-, huuid, i, -, hgains⟩ := hbrings
      exact hnone ⟨huuid, i, hgains⟩
    · refine ⟨sub.userId, husers, (takes_user hsub).2 ⟨fun hserved => ?_, hlost hhas⟩⟩
      obtain ⟨hmem, hactive⟩ := active_subset hsub
      exact hboth ⟨((hagrees sub hmem hactive p hp).1 hhas).1, hserved⟩

theorem toggled_servers {order : List Nat} (hagrees : db.Agrees n) (hsub : sub ∈ db.active)
    (hp : p.2 ∈ db.uuidsOf sub) (horder : ∀ i, (db.pushAgent i).isSome = true → i ∈ order)
    (hnodup : order.Nodup) :
    Toggled (fun r => r.Brings db sub p) (fun r => r.Takes db sub p) (n.Has p)
        (order.map Reconcile.server) ↔
      (p.2 ∈ db.servedUuids sub ∧ db.ServedAt none sub p.1) ∧
        ∀ i, db.Loses sub i → db.pushAgent i = some p.1 →
          ∃ j, db.Gains sub j ∧ db.pushAgent j = some p.1 ∧ [i, j].Sublist order := by
  have hmem : ∀ {i}, db.pushAgent i = some p.1 → i ∈ order := by
    intro i hagent
    exact horder i (by rw [hagent]; rfl)
  rw [toggled_map]
  by_cases hboth : p.2 ∈ db.servedUuids sub ∧ db.ServedAt none sub p.1
  · rw [and_iff_right hboth, toggled_iff hnodup]
    · simp only [brings_server hsub, takes_server hsub, and_iff_right hboth.1]
      constructor
      · intro h i hloses hagent
        obtain ⟨j, ⟨hgains, hagent'⟩, hij⟩ := h i (hmem hagent) ⟨hloses, hagent⟩
        exact ⟨j, hgains, hagent', hij⟩
      · intro h i _ ⟨hloses, hagent⟩
        obtain ⟨j, hgains, hagent', hij⟩ := h i hloses hagent
        exact ⟨j, ⟨hgains, hagent'⟩, hij⟩
    · refine (agrees_served hagrees hsub hboth.1 hboth.2).imp_right ?_
      rintro ⟨i, hgains, hagent⟩
      exact ⟨i, hmem hagent, (brings_server hsub i).2 ⟨hboth.1, hgains, hagent⟩⟩
  · obtain ⟨hlost, hnone⟩ := agrees_unserved hagrees hsub hp hboth
    refine iff_of_false (not_toggled (fun i _ hbrings => ?_) fun hhas => ?_) fun h => hboth h.1
    · obtain ⟨huuid, hgains⟩ := (brings_server hsub i).1 hbrings
      exact hnone ⟨huuid, i, hgains⟩
    · obtain ⟨i, hloses, hagent⟩ := hlost hhas
      exact ⟨i, hmem hagent, (takes_server hsub i).2 ⟨hloses, hagent⟩⟩

theorem users_decide {users : List Nat} (husers : users.Perm (db.users.map User.id))
    {l : SubscriptionServer} : (∃ r ∈ users.map Reconcile.user, r.Decides db l) ↔
      ∃ sub ∈ db.active, l.subscriptionId = sub.id := by
  simp only [List.mem_map, exists_exists_and_eq_and]
  constructor
  · rintro ⟨userId, huser, ⟨sub, hsub, hid⟩, -⟩
    obtain ⟨hmem, rfl⟩ := mem_user_iff.1 hsub
    exact ⟨sub, mem_active_iff.2 ⟨hmem, husers.mem_iff.1 huser⟩, hid⟩
  · rintro ⟨sub, hsub, hid⟩
    obtain ⟨hmem, huser⟩ := mem_active_iff.1 hsub
    exact ⟨sub.userId, husers.mem_iff.2 huser, ⟨sub, mem_user_iff.2 ⟨hmem, rfl⟩, hid⟩,
      inScope_none _⟩

theorem servers_decide {order : List Nat} {l : SubscriptionServer} :
    (∃ r ∈ order.map Reconcile.server, r.Decides db l) ↔
      (∃ sub ∈ db.active, l.subscriptionId = sub.id) ∧ l.serverId ∈ order := by
  simp only [List.mem_map, exists_exists_and_eq_and]
  constructor
  · rintro ⟨i, hi, hsub, hscope⟩
    exact ⟨hsub, inScope_some.1 hscope ▸ hi⟩
  · intro ⟨hsub, hi⟩
    exact ⟨l.serverId, hi, hsub, inScope_some.2 rfl⟩

/-- The full reconciliation and the targeted ones leave the same links. -/
theorem endsIn_same {users order : List Nat} (hw : db.Wired)
    (husers : users.Perm (db.users.map User.id))
    (horder : ∀ i, (db.server i).isSome = true → i ∈ order) (l : SubscriptionServer) :
    db.EndsIn (users.map Reconcile.user) db.links l ↔
      db.EndsIn (order.map Reconcile.server) db.links l := by
  have hnot : ∀ rs : List Reconcile, (∀ r ∈ rs, ¬r.Decides db l) ↔ ¬∃ r ∈ rs, r.Decides db l :=
    fun rs => ⟨fun h ⟨r, hr, hl⟩ => h r hr hl, fun h r hr hl => h ⟨r, hr, hl⟩⟩
  rw [Db.EndsIn, Db.EndsIn, hnot, hnot, users_decide husers, servers_decide]
  have hproper : db.Proper l → l.serverId ∈ order := fun ⟨_, _, _, hright⟩ =>
    horder _ (server_of_mayUse hw.servers hright.mayUse)
  have hlink : l ∈ db.links → l.serverId ∈ order := fun hl => horder _ (hw.links l hl)
  by_cases hi : l.serverId ∈ order
  · rw [and_iff_left hi]
  · rw [iff_false_intro fun h => hi (hproper h), iff_false_intro fun h => hi (hlink h)]
    simp only [and_false, or_false]

theorem users_apart {users : List Nat} (hkeys : db.DistinctKeys) (hnodup : users.Nodup) :
    (users.map Reconcile.user).Pairwise fun r r' => ∀ l, r.Decides db l → ¬r'.Decides db l := by
  rw [List.pairwise_map]
  refine hnodup.imp fun hne l ⟨⟨sub, hsub, hid⟩, _⟩ ⟨⟨sub', hsub', hid'⟩, _⟩ => hne ?_
  have heq := hkeys.eq_of_id (Reconcile.subscriptions_subset hsub).1
    (Reconcile.subscriptions_subset hsub').1 (hid.symm.trans hid')
  rw [← (mem_user_iff.1 hsub).2, ← (mem_user_iff.1 hsub').2, heq]

theorem servers_apart {order : List Nat} (hnodup : order.Nodup) :
    (order.map Reconcile.server).Pairwise fun r r' => ∀ l, r.Decides db l → ¬r'.Decides db l := by
  rw [List.pairwise_map]
  refine hnodup.imp fun hne l ⟨_, hscope⟩ ⟨_, hscope'⟩ => hne ?_
  rw [← inScope_some.1 hscope, inScope_some.1 hscope']

end Ends

section Exact
variable [DecidableEq D] {settings : ControlSettings D} {w w' : Solo (Db D)} {n n' : Agents}

omit [DecidableEq D] in
theorem Underway.elsewhere {db : Db D} {rs : List Reconcile} (hu : Underway db n rs [] w'.view n')
    (hrs : ∀ r ∈ rs, ∀ sub ∈ r.subscriptions db, sub ∈ db.active) {p : String × String}
    (hp : ∀ sub ∈ db.active, p.2 ∉ db.uuidsOf sub) : n'.Has p ↔ n.Has p := by
  by_cases hsub : ∃ sub ∈ db.subscriptions, p.2 ∈ db.uuidsOf sub
  · obtain ⟨sub, hmem, hof⟩ := hsub
    refine (hu.agents sub hmem p hof).trans (toggled_untouched fun r hr => ?_)
    have hnot : sub ∉ r.subscriptions db := fun h => hp sub (hrs r hr sub h) hof
    exact ⟨fun h => hnot h.1, fun h => hnot h.1⟩
  · exact hu.others p fun sub hmem hof => hsub ⟨sub, hmem, hof⟩

theorem reconcileUser_exact {userId : Nat} (hw : w.view.Wired) (hagrees : w.view.Agrees n)
    (h : (reconcileUserSubscriptions settings userId).run (Solo.serveAll true Agents.handle)
      (w, n) = (.ok (), (w', n'))) {sub : Subscription} (hsub : sub ∈ w.view.active)
    (huser : sub.userId = userId) : w'.view.Exact n' sub := by
  subst huser
  have hprogram : ((Reconcile.user sub.userId).program settings).run
      (Solo.serveAll true Agents.handle) (w, n) = (.ok (), (w', n')) := h
  obtain ⟨haccess, hlinks⟩ := Reconcile.program_links hw hprogram
  obtain ⟨hmem, -⟩ := active_subset hsub
  have hof := mem_user_iff.2 ⟨(mem_active_iff.1 hsub).1, rfl⟩
  constructor
  · intro i
    rw [haccess.mayUse, ← exists_right, mem_linked]
    refine exists_congr fun l => ?_
    constructor
    · intro ⟨hl, hid, hi⟩
      refine ⟨hid, hi, ?_⟩
      have hdecides : (Reconcile.user sub.userId).Decides w.view l :=
        ⟨⟨sub, hof, hid⟩, inScope_none _⟩
      rw [hlinks l, and_iff_right hdecides, or_iff_left fun h => h.1 hdecides,
        proper_iff hw.keys hmem hid] at hl
      exact hl
    · intro ⟨hid, hi, hright⟩
      have hdecides : (Reconcile.user sub.userId).Decides w.view l :=
        ⟨⟨sub, hof, hid⟩, inScope_none _⟩
      refine ⟨(hlinks l).2 (.inl ⟨hdecides, ?_⟩), hid, hi⟩
      exact (proper_iff hw.keys hmem hid).2 hright
  · intro p hp
    rw [haccess.uuidsOf] at hp
    rw [haccess.servedUuids, haccess.servedAt, Reconcile.program_agents hw hprogram hmem hp]
    have huser : sub.userId ∈ [sub.userId] := List.mem_cons_self
    exact toggled_users hagrees hsub hp huser (List.nodup_singleton _)

end Exact

/-- After any change of access modes, flags and grants, the reconciliation of a user leaves just
the links to the servers that the user may use, and the clients at their agents. And one targeted
reconciliation after another leaves the links and the agents that the reconciliation of every user
leaves, if and only if no subscription loses a server whose agent it keeps, unless it gains a server
of that agent later. -/
theorem targeted_matches_full [DecidableEq D] (settings : ControlSettings D) (before : Db D)
    (n : Agents) (hwired : before.Wired) (hagrees : before.Agrees n)
    (isPublic isActive : Nat → Bool) (grants : List ServerAccessGrant) (db : Db D)
    (hdb : db = before.changeAccess isPublic isActive grants) (order users : List Nat)
    (horder : order.Perm (db.servers.map Server.id)) (husers : users.Perm (db.users.map User.id))
    (userId : Nat) (o₁ o₂ o₃ : Outside) (w₁ w₂ w₃ : Solo (Db D)) (n₁ n₂ n₃ : Agents)
    (hone : (reconcileUserSubscriptions settings userId).run (Solo.serveAll true Agents.handle)
      (Solo.start db o₁, n) = (.ok (), (w₁, n₁)))
    (hfull : (reconcileEach settings (users.map .user)).run (Solo.serveAll true Agents.handle)
      (Solo.start db o₂, n) = (.ok (), (w₂, n₂)))
    (htargeted : (reconcileEach settings (order.map .server)).run
      (Solo.serveAll true Agents.handle) (Solo.start db o₃, n) = (.ok (), (w₃, n₃))) :
    ((∀ sub ∈ db.active, sub.userId = userId → w₁.view.Exact n₁ sub) ∧
      (∀ l, l ∈ w₃.view.links ↔ l ∈ w₂.view.links) ∧ ∀ p, n₃.Has p ↔ n₂.Has p) ↔
    db.GainsLast order := by
  have hw : db.Wired := hdb ▸ hwired.changeAccess
  have ha : db.Agrees n := hdb ▸ hagrees.changeAccess
  have husersNodup : users.Nodup := husers.nodup_iff.2 hw.users
  have horderNodup : order.Nodup := horder.nodup_iff.2 hw.servers
  have hmem : ∀ i, (db.server i).isSome = true → i ∈ order := by
    intro i hi
    obtain ⟨s, hs⟩ := Option.isSome_iff_exists.1 hi
    exact horder.mem_iff.2 (List.mem_map.2 ⟨s, List.mem_of_find?_eq_some hs, server_id hs⟩)
  have hpush : ∀ i, (db.pushAgent i).isSome = true → i ∈ order := by
    intro i hi
    rw [Db.pushAgent, Option.isSome_map] at hi
    exact hmem i (Option.isSome_of_isSome_filter _ _ hi)
  have hall := reconcileEach_run (w := Solo.start db o₂) hw (users_apart hw.keys husersNodup) hfull
  have heach := reconcileEach_run (w := Solo.start db o₃) hw (servers_apart horderNodup) htargeted
  have hends : ∀ (links : List SubscriptionServer) l, db.EndsIn [] links l ↔ l ∈ links := by
    intro links l
    simp [Db.EndsIn]
  have hlinks : ∀ l, l ∈ w₃.view.links ↔ l ∈ w₂.view.links := by
    intro l
    rw [← hends w₃.view.links, ← hends w₂.view.links]
    exact (heach.links l).trans ((endsIn_same hw husers hmem l).symm.trans (hall.links l).symm)
  have hexact : ∀ sub ∈ db.active, sub.userId = userId → w₁.view.Exact n₁ sub :=
    fun sub hsub huser => reconcileUser_exact (w := Solo.start db o₁) hw ha hone hsub huser
  rw [and_iff_right hexact, and_iff_right hlinks]
  have hfullAt : ∀ sub ∈ db.active, ∀ p, p.2 ∈ db.uuidsOf sub →
      (n₂.Has p ↔ p.2 ∈ db.servedUuids sub ∧ db.ServedAt none sub p.1) := by
    intro sub hsub p hp
    exact (hall.agents sub (active_subset hsub).1 p hp).trans (toggled_users ha hsub hp
      (husers.mem_iff.2 (mem_active_iff.1 hsub).2) husersNodup)
  have htargetedAt : ∀ sub ∈ db.active, ∀ p, p.2 ∈ db.uuidsOf sub → (n₃.Has p ↔
      (p.2 ∈ db.servedUuids sub ∧ db.ServedAt none sub p.1) ∧
        ∀ i, db.Loses sub i → db.pushAgent i = some p.1 →
          ∃ j, db.Gains sub j ∧ db.pushAgent j = some p.1 ∧ [i, j].Sublist order) := by
    intro sub hsub p hp
    exact (heach.agents sub (active_subset hsub).1 p hp).trans
      (toggled_servers ha hsub hp hpush horderNodup)
  constructor
  · intro hsame sub hsub agent hserved i hloses hagent
    have hp : sub.clientUuid ∈ db.servedUuids sub := List.mem_cons_self
    have hhas := (hfullAt sub hsub (agent, sub.clientUuid) (servedUuids_subset hp)).2 ⟨hp, hserved⟩
    exact ((htargetedAt sub hsub (agent, sub.clientUuid) (servedUuids_subset hp)).1
      ((hsame _).2 hhas)).2 i hloses hagent
  · intro hlast p
    by_cases hsub : ∃ sub ∈ db.active, p.2 ∈ db.uuidsOf sub
    · obtain ⟨sub, hsub, hp⟩ := hsub
      rw [htargetedAt sub hsub p hp, hfullAt sub hsub p hp]
      exact and_iff_left_of_imp fun hboth => hlast sub hsub p.1 hboth.2
    · have hnone : ∀ sub ∈ db.active, p.2 ∉ db.uuidsOf sub :=
        fun sub hactive hp => hsub ⟨sub, hactive, hp⟩
      have hservers : ∀ r ∈ order.map Reconcile.server, ∀ sub ∈ r.subscriptions db,
          sub ∈ db.active := by
        intro r hr sub hsub
        obtain ⟨i, -, rfl⟩ := List.mem_map.1 hr
        exact hsub
      have husers' : ∀ r ∈ users.map Reconcile.user, ∀ sub ∈ r.subscriptions db,
          sub ∈ db.active := by
        intro r hr sub hsub
        obtain ⟨i, hi, rfl⟩ := List.mem_map.1 hr
        obtain ⟨hof, hid⟩ := mem_user_iff.1 hsub
        exact mem_active_iff.2 ⟨hof, husers.mem_iff.1 (hid ▸ hi)⟩
      rw [heach.elsewhere hservers hnone, hall.elsewhere husers' hnone]

/-- Two private servers with one agent, and a user with a subscription that has been granted those
it is linked to. -/
def sharedNode (links : List SubscriptionServer) : Db (List DesiredItem) :=
  { privateNode (links.map fun l => ⟨l.serverId, 1⟩) links with
    servers := [
      ⟨1, "203.0.113.1", 443, "pk", "sid", "agent", .push, 0, 0, none, none, .both, false, true⟩,
      ⟨2, "203.0.113.1", 8443, "pk", "sid", "agent", .push, 0, 0, none, none, .both, false, true⟩] }

/-- The agent of both holds the client. -/
def sharedAgents : Agents := fun agent => if agent = "agent" then ["u"] else []

theorem sharedNode_pushAgent (h : (sharedNode links).pushAgent i = some agent) :
    agent = "agent" := by
  obtain ⟨s, hs, rfl⟩ := Option.map_eq_some_iff.1 h
  have hmem : s ∈ (sharedNode links).servers :=
    List.mem_of_find?_eq_some (Option.filter_eq_some_iff.1 hs).1
  have hall : ∀ s ∈ (sharedNode []).servers, s.agent = "agent" := by decide
  exact hall s hmem

theorem sharedNode_agrees (hlinks : ⟨1, 1, true⟩ ∈ links) :
    (sharedNode links).Agrees sharedAgents := by
  intro sub hsub _ p hp
  obtain rfl := List.mem_singleton.1 hsub
  have huuid : p.2 = "u" := List.mem_singleton.1 hp
  rw [Agents.Has, huuid, sharedAgents]
  constructor
  · intro hhas
    split at hhas
    · rename_i hagent
      refine ⟨List.mem_cons_self, 1, mem_linked.2 ⟨_, hlinks, rfl, rfl⟩, ?_⟩
      rw [hagent]
      rfl
    · cases hhas
  · rintro ⟨-, i, -, hagent⟩
    rw [if_pos (sharedNode_pushAgent hagent)]
    exact List.mem_cons_self

theorem eq_of_outcome {x : α × β × γ} {a : α} (h : x.1 = a) : x = (a, (x.2.1, x.2.2)) := by
  rw [← h]

/-- The grant of one server is taken back and that of the other is given, which comes later. -/
theorem targeted_matches_full_moved :
    let db := (sharedNode [⟨1, 1, true⟩]).changeAccess (fun _ => false) (fun _ => true) [⟨2, 1⟩]
    let one := (reconcileUserSubscriptions listSettings 1).run (Solo.serveAll true Agents.handle)
      (Solo.start db noon, sharedAgents)
    let full := (reconcileEach listSettings [.user 1]).run (Solo.serveAll true Agents.handle)
      (Solo.start db noon, sharedAgents)
    let targeted := (reconcileEach listSettings [.server 1, .server 2]).run
      (Solo.serveAll true Agents.handle) (Solo.start db noon, sharedAgents)
    ((∀ sub ∈ db.active, sub.userId = 1 → one.2.1.view.Exact one.2.2 sub) ∧
      (∀ l, l ∈ targeted.2.1.view.links ↔ l ∈ full.2.1.view.links) ∧
      ∀ p, targeted.2.2.Has p ↔ full.2.2.Has p) := by
  intro db one full targeted
  have hwired : (sharedNode [⟨1, 1, true⟩]).Wired :=
    ⟨by decide, by decide, ⟨by decide, by decide⟩, by decide, by decide⟩
  have hone : one = (.ok (), (one.2.1, one.2.2)) := eq_of_outcome (by decide)
  have hfull : full = (.ok (), (full.2.1, full.2.2)) := eq_of_outcome (by decide)
  have htargeted : targeted = (.ok (), (targeted.2.1, targeted.2.2)) :=
    eq_of_outcome (by decide)
  refine (targeted_matches_full listSettings (sharedNode [⟨1, 1, true⟩]) sharedAgents hwired
    (sharedNode_agrees (by decide)) (fun _ => false) (fun _ => true) [⟨2, 1⟩] db rfl [1, 2] [1]
    (by decide) (by decide) 1 noon noon noon one.2.1 full.2.1 targeted.2.1 one.2.2 full.2.2
    targeted.2.2 hone hfull htargeted).2 ?_
  intro sub hsub agent _ i hloses hagent
  obtain ⟨l, hl, -, rfl⟩ := mem_linked.1 hloses.1
  obtain rfl := List.mem_singleton.1 hl
  have hmem := List.mem_singleton.1 (active_subset hsub).1
  rw [hmem]
  exact ⟨2, ⟨by decide, by decide⟩, hagent, by decide⟩

/-- One of two servers with one agent is taken away: the reconciliation of the user leaves the
client there, and that of the server takes it. -/
theorem targeted_strips_shared :
    let links := [⟨1, 1, true⟩, ⟨1, 2, true⟩]
    let db := (sharedNode links).changeAccess (fun _ => false) (fun _ => true) [⟨2, 1⟩]
    let full := (reconcileEach listSettings [.user 1]).run (Solo.serveAll true Agents.handle)
      (Solo.start db noon, sharedAgents)
    let targeted := (reconcileEach listSettings [.server 1, .server 2]).run
      (Solo.serveAll true Agents.handle) (Solo.start db noon, sharedAgents)
    (sharedNode links).Wired ∧ (sharedNode links).Agrees sharedAgents ∧
    full.1 = .ok () ∧ targeted.1 = .ok () ∧
    full.2.1.view.links = [⟨1, 2, true⟩] ∧ targeted.2.1.view.links = [⟨1, 2, true⟩] ∧
    full.2.2 "agent" = ["u"] ∧ targeted.2.2 "agent" = [] := by
  intro links db full targeted
  refine ⟨⟨by decide, by decide, ⟨by decide, by decide⟩, by decide, by decide⟩,
    sharedNode_agrees (by decide), ?_⟩
  decide

end AegisVPN
