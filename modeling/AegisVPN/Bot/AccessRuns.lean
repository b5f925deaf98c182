import AegisVPN.Bot.Procedures
import AegisVPN.Bot.Reissue
import AegisVPN.Bot.ServerAccessService

namespace AegisVPN
open Library
set_option autoImplicit true

/-! ## What the reconciliation of one subscription works on -/

/-- The servers that a subscription may use, or the one among them. -/
def Db.allowedServers (db : Db D) (target : Option Nat) (sub : Subscription) : List (Server D) :=
  (db.accessibleServers sub.userId).filter fun s => target.all fun serverId => s.id == serverId

def Db.currentLinks (db : Db D) (target : Option Nat) (sub : Subscription) :
    List (SubscriptionServer × Server D) :=
  (db.linksOf sub).filter fun l => target.all fun serverId => l.1.serverId == serverId

/-- The servers that a subscription is brought to. -/
def Db.gainedServers (db : Db D) (target : Option Nat) (sub : Subscription) : List (Server D) :=
  (db.allowedServers target sub).filter fun s =>
    !((db.currentLinks target sub).map fun l => l.1.serverId).contains s.id

/-- The links that are dropped. -/
def Db.lostLinks (db : Db D) (target : Option Nat) (sub : Subscription) :
    List (SubscriptionServer × Server D) :=
  (db.currentLinks target sub).filter fun l =>
    !((db.allowedServers target sub).map Server.id).contains l.1.serverId

def Db.uuidsOf (db : Db D) (sub : Subscription) : List String :=
  sub.clientUuid :: db.deviceUuids sub

/-- What is to be removed along with a link. -/
def Db.stripsOf (db : Db D) (sub : Subscription) (allowed : List (Server D))
    (link : SubscriptionServer × Server D) : List (String × String) :=
  if link.1.isSynced && pushesTo link.2 && !sharedAgent allowed link.2.agent then
    (db.uuidsOf sub).map fun u => (link.2.agent, u)
  else []

/-- The links but those of the subscription to the server. -/
def Db.unlink (db : Db D) (subId serverId : Nat) : Db D :=
  { db with links := db.links.filter fun l =>
    !(l.subscriptionId == subId && l.serverId == serverId) }

theorem mem_linksOf {db : Db D} {sub : Subscription} {l : SubscriptionServer × Server D} :
    l ∈ db.linksOf sub ↔ l.1 ∈ db.links ∧ l.1.subscriptionId = sub.id ∧
      db.server l.1.serverId = some l.2 := by
  obtain ⟨link, server⟩ := l
  simp only [Db.linksOf, List.mem_filterMap, List.mem_filter, beq_iff_eq, Option.map_eq_some_iff,
    Prod.mk.injEq]
  constructor
  · rintro ⟨_, ⟨hl, hsub⟩, s, hs, rfl, rfl⟩
    exact ⟨hl, hsub, hs⟩
  · rintro ⟨hl, hsub, hs⟩
    exact ⟨link, ⟨hl, hsub⟩, server, hs, rfl, rfl⟩

section Run
variable {w w' : Solo (Db D)}

theorem execute_run {u : DbAct D α} (h : (execute u).run Solo.serve w = (.ok a, w')) :
    u w.view = (.ok a, w'.view) ∧ w' = { w with view := w'.view } := by
  rw [execute, Prog.run_performOrRaise] at h
  obtain ⟨hr, rfl⟩ := Prod.mk.inj h
  exact ⟨Prod.ext hr rfl, rfl⟩

theorem dropLink_run {sub : Subscription} {allowed : List (Server D)} {c c' : Collected}
    {link : SubscriptionServer × Server D}
    (h : (dropLink sub allowed c link).run Solo.serve w = (.ok c', w')) :
    w' = { w with view := w.view.unlink sub.id link.1.serverId } ∧
    c'.publications = (if publishesFor link.2 then c.publications ++ [link.1.serverId]
      else c.publications) ∧
    c'.removals = c.removals ++ w.view.stripsOf sub allowed link := by
  obtain ⟨removals, w₁, hremovals, h⟩ := Prog.exists_run_bind h
  have hfirst : w₁ = w ∧ removals = c.removals ++ w.view.stripsOf sub allowed link := by
    rw [Db.stripsOf]
    split at hremovals
    · rename_i hstrip
      cases hremovals
      rw [if_pos hstrip]
      exact ⟨rfl, rfl⟩
    · rename_i hkeep
      cases hremovals
      rw [if_neg hkeep, List.append_nil]
      exact ⟨rfl, rfl⟩
  obtain ⟨hsame, hremovals⟩ := hfirst
  obtain ⟨_, w₂, hdelete, h⟩ := Prog.exists_run_bind h
  obtain ⟨hdelete, hview⟩ := execute_run hdelete
  rw [hsame] at hdelete hview
  have hunlink : w₂.view = w.view.unlink sub.id link.1.serverId :=
    (congrArg Prod.snd hdelete).symm
  cases h
  exact ⟨hview.trans (by rw [hunlink]), rfl, hremovals⟩

theorem dropLink_silent (sub : Subscription) (allowed : List (Server D)) (c : Collected)
    (link : SubscriptionServer × Server D) :
    (dropLink sub allowed c link).Uses (Solo.Silent ·) := by
  refine Prog.uses_bind ?_ fun removals => ?_
  · split
    · exact Prog.uses_bind (Prog.uses_perform trivial) fun _ => trivial
    · trivial
  · exact Prog.uses_bind (Prog.uses_performOrRaise trivial) fun _ => trivial

/-- The two queries of a reconciliation answer from the view. -/
theorem reconcileSubscription_eq [DecidableEq D] {settings : ControlSettings D} {σ : Type}
    {act : ∀ {β : Type}, BotStmt D β → σ → β × σ} {g : σ → Db D}
    (hselect : ∀ {α : Type} (source : Source) (q : Db D → α) (w : σ),
      act (.select source q) w = (q (g w), w))
    (target : Option Nat) (c : Collected) (sub : Subscription) (w : σ) :
    (reconcileSubscriptionServers settings target c sub).run act w =
      ((syncSubscriptionToServers settings sub ((g w).gainedServers target sub)).bind fun _ =>
        ((g w).lostLinks target sub).foldlM
          (dropLink sub ((g w).allowedServers target sub)) c).run act w := by
  have hquery : ∀ {α : Type} (source : Source) (q : Db D → α),
      (query source q : BotProg D α).run act w = (.ok (q (g w)), w) := by
    intro α source q
    rw [query, Prog.run_perform, hselect]
  unfold reconcileSubscriptionServers accessibleServersForUser
  simp only [Prog.bind_eq]
  rw [Prog.run_bind_ok _ _ (hquery _ _), Prog.run_bind_ok _ _ (hquery _ _)]
  rfl

end Run

/-- A world where the clock stands still. -/
def noon : Outside := ⟨fun _ => 0, fun _ => "", fun _ => true⟩

end AegisVPN
