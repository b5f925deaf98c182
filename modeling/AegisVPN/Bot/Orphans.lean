import AegisVPN.Bot.AccessRuns

namespace AegisVPN
open Library
set_option autoImplicit true

/-! ## What the agents hold -/

/-- The UUIDs in the configuration of each agent. -/
abbrev Agents := String → List String

/-- What becomes of the agents when a call is done. -/
def Agents.handle (c : AgentCall) (n : Agents) : Agents :=
  match c with
  | .addClient agent uuid _ => Function.update n agent (n agent ++ [uuid])
  | .bulkAdd agent clients => Function.update n agent (n agent ++ clients.map Prod.fst)
  | .removeClient agent uuid _ => Function.update n agent ((n agent).filter fun u => u != uuid)

/-- The agent holds the UUID. -/
def Agents.Has (n : Agents) (p : String × String) : Prop := p.2 ∈ n p.1

theorem has_bulkAdd (agent : String) (clients : List (String × String)) (n : Agents)
    (p : String × String) : (n.handle (.bulkAdd agent clients)).Has p ↔
      n.Has p ∨ agent = p.1 ∧ p.2 ∈ clients.map Prod.fst := by
  rw [Agents.Has, Agents.handle, Function.update_apply]
  split
  · rename_i hagent
    rw [List.mem_append, ← hagent]
    exact or_congr_right ⟨fun h => ⟨rfl, h⟩, fun h => h.2⟩
  · rename_i hne
    exact ⟨.inl, fun h => h.elim id fun h => absurd h.1.symm hne⟩

theorem has_removeClient (agent uuid : String) (expired : Option (Nat × Int)) (n : Agents)
    (p : String × String) : (n.handle (.removeClient agent uuid expired)).Has p ↔
      n.Has p ∧ p ≠ (agent, uuid) := by
  rw [Agents.Has, Agents.handle, Function.update_apply]
  split
  · rename_i hagent
    rw [List.mem_filter, ← hagent, bne_iff_ne]
    refine and_congr_right fun _ => not_congr ⟨fun h => Prod.ext rfl h, congrArg Prod.snd⟩
  · rename_i hne
    exact ⟨fun h => ⟨h, fun he => hne (congrArg Prod.fst he)⟩, fun h => h.1⟩

/-! ## What stays while a subscription is reconciled -/

/-- Nothing changed but links, generations and snapshots. -/
structure SameAccess (a b : Db D) : Prop where
  users : b.users = a.users
  subscriptions : b.subscriptions = a.subscriptions
  devices : b.devices = a.devices
  grants : b.grants = a.grants
  servers : ∃ g : Server D → Nat, b.servers = a.servers.map fun s => s.withDesired (g s)

def Db.linkRows (db : Db D) (subId : Nat) : List SubscriptionServer :=
  db.links.filter fun l => l.subscriptionId == subId

/-- And the links of other subscriptions. -/
structure Elsewhere (subId : Nat) (a b : Db D) : Prop extends SameAccess a b where
  links : ∀ i, i ≠ subId → b.linkRows i = a.linkRows i

theorem SameAccess.refl (a : Db D) : SameAccess a a where
  users := rfl
  subscriptions := rfl
  devices := rfl
  grants := rfl
  servers := ⟨Server.desiredGeneration, (List.map_id' a.servers).symm⟩

theorem SameAccess.trans {a b c : Db D} (h : SameAccess a b) (h' : SameAccess b c) :
    SameAccess a c where
  users := h'.users.trans h.users
  subscriptions := h'.subscriptions.trans h.subscriptions
  devices := h'.devices.trans h.devices
  grants := h'.grants.trans h.grants
  servers := by
    obtain ⟨g, hg⟩ := h.servers
    obtain ⟨g', hg'⟩ := h'.servers
    refine ⟨fun s => g' (s.withDesired (g s)), ?_⟩
    rw [hg', hg, List.map_map]
    rfl

theorem elsewhere_refl (subId : Nat) (a : Db D) : Elsewhere subId a a := ⟨.refl a, fun _ _ => rfl⟩

theorem elsewhere_trans (subId : Nat) (a b c : Db D) (h : Elsewhere subId a b)
    (h' : Elsewhere subId b c) : Elsewhere subId a c :=
  ⟨h.toSameAccess.trans h'.toSameAccess, fun i hi => (h'.links i hi).trans (h.links i hi)⟩

theorem elsewhere_links {db : Db D} {links : List SubscriptionServer}
    (h : ∀ i, i ≠ subId → { db with links }.linkRows i = db.linkRows i) :
    Elsewhere subId db { db with links } :=
  ⟨⟨rfl, rfl, rfl, rfl, (SameAccess.refl db).servers⟩, h⟩

theorem dirtyLink_elsewhere {a : DbAct D Unit} (h : a ∈ dirtyLink subId loaded result) :
    Preserves (Elsewhere subId) a := by
  unfold dirtyLink at h
  split at h
  · split at h
    · cases h
    · cases List.mem_singleton.1 h
      intro db
      unfold setLink
      split
      · refine elsewhere_links fun i hi => ?_
        have hcomp : ((fun l : SubscriptionServer => l.subscriptionId == i) ∘ fun l =>
            if l.subscriptionId = subId ∧ l.serverId = result.1 then
              { l with isSynced := result.2 } else l) = fun l => l.subscriptionId == i := by
          funext l
          rw [Function.comp_apply]
          split <;> rfl
        simp only [Db.linkRows, List.filter_map, hcomp]
        refine (List.map_congr_left fun l hl => ?_).trans (List.map_id _)
        have hid := beq_iff_eq.1 (List.mem_filter.1 hl).2
        exact if_neg fun h => hi (hid.symm.trans h.1)
      · exact elsewhere_refl subId db
  · cases List.mem_singleton.1 h
    intro db
    unfold insertLink
    split
    · exact elsewhere_refl subId db
    · refine elsewhere_links fun i hi => ?_
      simp only [Db.linkRows, List.filter_append]
      simp [hi.symm]

theorem unlink_elsewhere (db : Db D) (subId serverId : Nat) :
    Elsewhere subId db (db.unlink subId serverId) := by
  refine elsewhere_links fun i hi => ?_
  simp only [Db.linkRows, List.filter_filter]
  refine List.filter_congr fun l _ => ?_
  cases hid : l.subscriptionId == i with
  | false => rfl
  | true =>
    have hne : (l.subscriptionId == subId) = false := by
      rw [beq_iff_eq.1 hid]
      exact beq_false_of_ne hi
    rw [hne]
    rfl

theorem addSnapshot_access (db : Db D) (snapshot : NodeSnapshot D) :
    SameAccess db (db.addSnapshot snapshot) where
  users := rfl
  subscriptions := rfl
  devices := rfl
  grants := rfl
  servers := by
    refine ⟨fun s => if s.id = snapshot.serverId then snapshot.generation
      else s.desiredGeneration, List.map_congr_left fun s _ => ?_⟩
    by_cases hid : s.id = snapshot.serverId
    · simp only [if_pos hid, Server.withDesired]
    · simp only [if_neg hid, Server.withDesired]

section Publish
variable [DecidableEq D] {settings : ControlSettings D}

theorem publishes_elsewhere (subId : Nat) :
    Publishes (Solo.Moves (Elsewhere (D := D) subId) ·) settings [] where
  lock serverId := by
    intro db
    unfold lockServer
    split <;> exact elsewhere_refl subId db
  write serverId now := by
    intro db
    unfold writeSnapshot
    split
    · exact elsewhere_refl subId db
    split
    · exact elsewhere_refl subId db
    · exact ⟨addSnapshot_access db _, fun _ _ => rfl⟩

omit [DecidableEq D] in
theorem asks_moves (R : Db D → Db D → Prop) : Asks (D := D) (Solo.Moves R ·) :=
  ⟨rfl, rfl, fun _ _ => rfl⟩

theorem sync_elsewhere (settings : ControlSettings D) (sub : Subscription)
    (servers : List (Server D)) :
    (syncSubscriptionToServers settings sub servers).Uses (Solo.Moves (Elsewhere sub.id) ·) := by
  have hadd : ∀ agent clients, Solo.Moves (Elsewhere sub.id)
      (.call (.bulkAdd agent clients) : BotStmt D Bool) := fun _ _ => rfl
  refine syncSubscription_uses (asks_moves _) (publishes_elsewhere sub.id) hadd
    (fun loaded results => ?_) servers
  refine Preserves.write (elsewhere_refl sub.id) (elsewhere_trans sub.id) fun a ha => ?_
  obtain ⟨result, -, ha⟩ := List.mem_flatMap.1 ha
  exact dirtyLink_elsewhere ha

/-! ## One subscription -/

section Nodes
variable {w w' : Solo (Db D)} {n n' : Agents}

/-- What a subscription is given at an agent. -/
def Db.Sends (db : Db D) (target : Option Nat) (sub : Subscription) (p : String × String) : Prop :=
  ∃ s ∈ db.gainedServers target sub, pushesTo s = true ∧ s.agent = p.1 ∧
    p.2 ∈ sub.clientUuid :: (db.activeDevices sub).map Device.uuid

/-- What is to be taken from it. -/
def Db.Strips (db : Db D) (target : Option Nat) (sub : Subscription) (p : String × String) :
    Prop :=
  ∃ l ∈ db.lostLinks target sub, p ∈ db.stripsOf sub (db.allowedServers target sub) l

omit [DecidableEq D] in
theorem syncToServers_has {clients : List (String × String)} {servers : List (Server D)}
    {results : List (Nat × Bool)}
    (h : (syncToServers clients servers).run (Solo.serveAll true Agents.handle) (w, n) =
      (.ok results, (w', n'))) (p : String × String) :
    n'.Has p ↔ n.Has p ∨ ∃ s ∈ servers, pushesTo s = true ∧ s.agent = p.1 ∧
      p.2 ∈ clients.map Prod.fst := by
  have hrun := Prog.run_foldlM (fun xs _ (v : Solo (Db D) × Agents) =>
    (v.2.Has p ∨ ∃ s ∈ xs, pushesTo s = true ∧ s.agent = p.1 ∧ p.2 ∈ clients.map Prod.fst) ↔
      (n.Has p ∨ ∃ s ∈ servers, pushesTo s = true ∧ s.agent = p.1 ∧ p.2 ∈ clients.map Prod.fst))
    ?_ Iff.rfl h
  · simpa using hrun
  · rintro server xs c v c' v' hv hstep
    rw [← hv]
    obtain ⟨result, v₁, hserver, hend⟩ := Prog.exists_run_bind hstep
    cases hend
    unfold syncToServer at hserver
    split at hserver
    · rename_i hpush
      have hdone : v' = (v.1, v.2.handle (.bulkAdd server.agent clients)) := by
        cases hserver
        rfl
      simp only [hdone, has_bulkAdd, List.mem_cons, exists_eq_or_imp, hpush, true_and, or_assoc]
    · rename_i hpull
      have hdone : v' = v := by
        cases hserver
        rfl
      simp only [hdone, List.mem_cons, exists_eq_or_imp, hpull, Bool.false_eq_true,
        false_and, false_or]

theorem sync_silent {sub : Subscription} {results : List (Nat × Bool)}
    (loaded : List SubscriptionServer) :
    (do flush (results.flatMap (dirtyLink sub.id loaded))
        publishForServers settings [] (results.map Prod.fst)).Uses (Solo.Silent ·) := by
  have hasks : Asks (D := D) (Solo.Silent ·) := ⟨trivial, trivial, fun _ _ => trivial⟩
  have hpub : Publishes (D := D) (Solo.Silent ·) settings [] :=
    ⟨fun _ => trivial, fun _ _ => trivial⟩
  exact Prog.uses_bind (flush_uses trivial) fun _ => publishForServers_uses hasks hpub _

theorem sync_has {sub : Subscription} {servers : List (Server D)}
    (h : (syncSubscriptionToServers settings sub servers).run (Solo.serveAll true Agents.handle)
      (w, n) = (.ok (), (w', n'))) (p : String × String) :
    n'.Has p ↔ n.Has p ∨ ∃ s ∈ servers, pushesTo s = true ∧ s.agent = p.1 ∧
      p.2 ∈ sub.clientUuid :: (w.view.activeDevices sub).map Device.uuid := by
  rw [syncSubscriptionToServers, Prog.whenever] at h
  split at h
  · obtain ⟨devices, v₁, hdevices, h⟩ := Prog.exists_run_bind h
    cases hdevices
    obtain ⟨results, ⟨w₂, n₂⟩, hresults, h⟩ := Prog.exists_run_bind h
    obtain ⟨loaded, v₃, hloaded, h⟩ := Prog.exists_run_bind h
    cases hloaded
    rw [Solo.run_silent (sync_silent _)] at h
    have hsame : n' = n₂ := (congrArg (fun r => r.2.2) h).symm
    rw [hsame, syncToServers_has hresults]
    simp only [syncClients, List.map_cons, List.map_map]
    rfl
  · rename_i hnone
    cases h
    rw [not_not.1 hnone]
    simp

omit [DecidableEq D] in
theorem SameAccess.stripsOf {a b : Db D} (h : SameAccess a b) (sub : Subscription)
    (allowed : List (Server D)) (l : SubscriptionServer × Server D) :
    b.stripsOf sub allowed l = a.stripsOf sub allowed l := by
  simp only [Db.stripsOf, Db.uuidsOf, Db.deviceUuids, h.devices]

omit [DecidableEq D] in
theorem dropLinks_strips {sub : Subscription} {allowed : List (Server D)}
    {links : List (SubscriptionServer × Server D)} {c c' : Collected}
    (h : (links.foldlM (dropLink sub allowed) c).run (Solo.serveAll true Agents.handle) (w, n) =
      (.ok c', (w', n'))) :
    Elsewhere sub.id w.view w'.view ∧ n' = n ∧ ∀ p, p ∈ c'.removals ↔
      p ∈ c.removals ∨ ∃ l ∈ links, p ∈ w.view.stripsOf sub allowed l := by
  have hrun := Prog.run_foldlM (fun xs (d : Collected) (v : Solo (Db D) × Agents) =>
    Elsewhere sub.id w.view v.1.view ∧ v.2 = n ∧ ∀ p,
      (p ∈ d.removals ∨ ∃ l ∈ xs, p ∈ w.view.stripsOf sub allowed l) ↔
        (p ∈ c.removals ∨ ∃ l ∈ links, p ∈ w.view.stripsOf sub allowed l))
    ?_ ⟨elsewhere_refl _ _, rfl, fun _ => Iff.rfl⟩ h
  · obtain ⟨hview, hn, hall⟩ := hrun
    refine ⟨hview, hn, fun p => ?_⟩
    rw [← hall p]
    simp
  · rintro l xs d v d' v' ⟨hview, hn, hall⟩ hstep
    rw [Solo.run_silent (dropLink_silent sub allowed d l)] at hstep
    have hdrop : (dropLink sub allowed d l).run Solo.serve v.1 = (.ok d', v'.1) :=
      Prod.ext (congrArg (fun r => r.1) hstep) (congrArg (fun r => r.2.1) hstep)
    obtain ⟨hv', -, hremovals⟩ := dropLink_run hdrop
    refine ⟨?_, (congrArg (fun r => r.2.2) hstep).symm.trans hn, fun p => ?_⟩
    · rw [hv']
      exact elsewhere_trans _ _ _ _ hview (unlink_elsewhere _ _ _)
    · rw [← hall p, hremovals, hview.stripsOf]
      simp only [List.mem_append, List.mem_cons, exists_eq_or_imp, or_assoc]

theorem reconcileSubscription_has {target : Option Nat} {c c' : Collected} {sub : Subscription}
    (h : (reconcileSubscriptionServers settings target c sub).run
      (Solo.serveAll true Agents.handle) (w, n) = (.ok c', (w', n'))) :
    Elsewhere sub.id w.view w'.view ∧
    (∀ p, p ∈ c'.removals ↔ p ∈ c.removals ∨ w.view.Strips target sub p) ∧
    ∀ p, n'.Has p ↔ n.Has p ∨ w.view.Sends target sub p := by
  rw [reconcileSubscription_eq (g := fun v : Solo (Db D) × Agents => v.1.view)
    fun _ _ _ => rfl] at h
  obtain ⟨_, ⟨w₁, n₁⟩, hsync, hdrop⟩ := Prog.exists_run_bind h
  have hview : Elsewhere sub.id w.view w₁.view := by
    have hmoves := Solo.run_moves_all (sync_elsewhere settings sub
      (w.view.gainedServers target sub)) (elsewhere_refl _) (elsewhere_trans _) true
      Agents.handle (w, n)
    rw [hsync] at hmoves
    exact hmoves
  obtain ⟨hview', hn, hremovals⟩ := dropLinks_strips hdrop
  refine ⟨elsewhere_trans _ _ _ _ hview hview', fun p => ?_, fun p => ?_⟩
  · rw [hremovals]
    simp only [hview.stripsOf]
    rfl
  · rw [hn, sync_has hsync]
    rfl

end Nodes

end Publish

/-! ## All of them -/

section Same
variable {a b : Db D} {sub : Subscription}

/-- What a subscription gains and loses does not depend on generations. -/
theorem SameAccess.servers_of (h : SameAccess a b) (hlinks : b.linkRows sub.id = a.linkRows sub.id)
    (target : Option Nat) : ∃ f : Server D → Server D, (∀ s, pushesTo (f s) = pushesTo s ∧
        (f s).agent = s.agent ∧ (f s).id = s.id) ∧
      b.allowedServers target sub = (a.allowedServers target sub).map f ∧
      b.gainedServers target sub = (a.gainedServers target sub).map f ∧
      b.lostLinks target sub = (a.lostLinks target sub).map (Prod.map id f) := by
  obtain ⟨g, hg⟩ := h.servers
  generalize hf : (fun s : Server D => s.withDesired (g s)) = f at hg
  have hid : ∀ s, (f s).id = s.id := fun s => hf ▸ rfl
  have hallowed : b.allowedServers target sub = (a.allowedServers target sub).map f := by
    have hactive : ∀ s, (f s).isActive = s.isActive ∧ (f s).isPublic = s.isPublic :=
      fun s => hf ▸ ⟨rfl, rfl⟩
    simp only [Db.allowedServers, Db.accessibleServers, hg, h.grants, List.filter_map,
      Function.comp_def, hid, hactive]
  have hserver : ∀ i, b.server i = (a.server i).map f := by
    intro i
    rw [Db.server, hg]
    exact find?_map_of_id hid i
  have hcurrent : b.currentLinks target sub =
      (a.currentLinks target sub).map (Prod.map id f) := by
    have hof : b.linksOf sub = (a.linksOf sub).map (Prod.map id f) := by
      simp only [Db.linksOf, List.map_filterMap, hserver, Option.map_map, Function.comp_def]
      exact congrArg _ hlinks
    simp only [Db.currentLinks, hof, List.filter_map, Function.comp_def, Prod.map_fst, id]
  refine ⟨f, fun s => hf ▸ ⟨rfl, rfl, rfl⟩, hallowed, ?_, ?_⟩
  · simp only [Db.gainedServers, hallowed, hcurrent, List.filter_map, List.map_map,
      Function.comp_def, Prod.map_fst, id, hid]
  · simp only [Db.lostLinks, hallowed, hcurrent, List.filter_map, List.map_map,
      Function.comp_def, Prod.map_fst, id, hid]

theorem SameAccess.strips (h : SameAccess a b) (hlinks : b.linkRows sub.id = a.linkRows sub.id)
    (target : Option Nat) (p : String × String) :
    b.Strips target sub p ↔ a.Strips target sub p := by
  obtain ⟨f, hf, hallowed, -, hlost⟩ := h.servers_of hlinks target
  have hshared : ∀ agent, sharedAgent (b.allowedServers target sub) agent =
      sharedAgent (a.allowedServers target sub) agent := by
    intro agent
    simp only [sharedAgent, hallowed, List.any_map, Function.comp_def, hf]
  simp only [Db.Strips, hlost, List.mem_map, exists_exists_and_eq_and, Db.stripsOf, Prod.map_fst,
    Prod.map_snd, id, hf, hshared, Db.uuidsOf, Db.deviceUuids, h.devices]

theorem SameAccess.sends (h : SameAccess a b) (hlinks : b.linkRows sub.id = a.linkRows sub.id)
    (target : Option Nat) (p : String × String) :
    b.Sends target sub p ↔ a.Sends target sub p := by
  obtain ⟨f, hf, -, hgained, -⟩ := h.servers_of hlinks target
  simp only [Db.Sends, hgained, List.mem_map, exists_exists_and_eq_and, hf, Db.activeDevices,
    h.devices]

end Same

section Reconcile
variable [DecidableEq D] {settings : ControlSettings D} {w w' : Solo (Db D)} {n n' : Agents}

theorem reconcileLoop_has {target : Option Nat} {subs : List Subscription}
    {c' : Collected} (hids : (subs.map Subscription.id).Nodup)
    (h : (subs.foldlM (reconcileSubscriptionServers settings target) ⟨[], []⟩).run
      (Solo.serveAll true Agents.handle) (w, n) = (.ok c', (w', n'))) :
    (∀ p, p ∈ c'.removals ↔ ∃ sub ∈ subs, w.view.Strips target sub p) ∧
    ∀ p, n'.Has p ↔ n.Has p ∨ ∃ sub ∈ subs, w.view.Sends target sub p := by
  have hrun := Prog.run_foldlM (fun xs (c : Collected) (v : Solo (Db D) × Agents) =>
    (xs.map Subscription.id).Nodup ∧ SameAccess w.view v.1.view ∧
    (∀ sub ∈ xs, v.1.view.linkRows sub.id = w.view.linkRows sub.id) ∧
    (∀ p, (p ∈ c.removals ∨ ∃ sub ∈ xs, w.view.Strips target sub p) ↔
      ∃ sub ∈ subs, w.view.Strips target sub p) ∧
    ∀ p, (v.2.Has p ∨ ∃ sub ∈ xs, w.view.Sends target sub p) ↔
      n.Has p ∨ ∃ sub ∈ subs, w.view.Sends target sub p)
    ?_ ⟨hids, .refl w.view, fun _ _ => rfl, fun p => by simp, fun _ => Iff.rfl⟩ h
  · obtain ⟨-, -, -, hremovals, hhas⟩ := hrun
    refine ⟨fun p => ?_, fun p => ?_⟩
    · rw [← hremovals p]
      simp
    · rw [← hhas p]
      simp
  · rintro sub xs c ⟨v, m⟩ d ⟨v', m'⟩ ⟨hnodup, haccess, hlinks, hremovals, hhas⟩ hstep
    obtain ⟨hview, hstrips, hsends⟩ := reconcileSubscription_has hstep
    have hsub := hlinks sub List.mem_cons_self
    rw [List.map_cons, List.nodup_cons] at hnodup
    refine ⟨hnodup.2, haccess.trans hview.toSameAccess, fun sub' hsub' => ?_, fun p => ?_,
      fun p => ?_⟩
    · -- another subscription, whose links stay
      refine (hview.links sub'.id fun hid => ?_).trans (hlinks sub' (List.mem_cons_of_mem _ hsub'))
      exact hnodup.1 (hid ▸ List.mem_map_of_mem hsub')
    · rw [← hremovals p, hstrips, haccess.strips hsub]
      simp only [List.mem_cons, exists_eq_or_imp, or_assoc]
    · rw [← hhas p]
      change (m'.Has p ∨ _) ↔ (m.Has p ∨ _)
      rw [hsends, haccess.sends hsub]
      simp only [List.mem_cons, exists_eq_or_imp, or_assoc]

omit [DecidableEq D] in
theorem flushRemovals_has {removals : List (String × String)}
    (h : (flushRemovals removals : BotProg D Unit).run (Solo.serveAll true Agents.handle) (w, n) =
      (.ok (), (w', n'))) (p : String × String) : n'.Has p ↔ n.Has p ∧ p ∉ removals := by
  have hrun := Prog.run_foldlM (fun xs _ (v : Solo (Db D) × Agents) =>
    (v.2.Has p ∧ p ∉ xs) ↔ (n.Has p ∧ p ∉ removals.dedup)) ?_ Iff.rfl h
  · simpa using hrun
  · rintro r xs _ v _ v' hv hstep
    have hdone : v' = (v.1, v.2.handle (.removeClient r.1 r.2 none)) := by
      cases hstep
      rfl
    rw [← hv, hdone]
    simp only [has_removeClient, List.mem_cons, not_or, and_assoc, ne_eq]

theorem publish_has {serverIds : List Nat}
    (h : (publishForServers settings [] serverIds).run (Solo.serveAll true Agents.handle) (w, n) =
      (.ok (), (w', n'))) : n' = n := by
  have hsilent : (publishForServers settings [] serverIds).Uses (Solo.Silent ·) :=
    publishForServers_uses ⟨trivial, trivial, fun _ _ => trivial⟩
      ⟨fun _ => trivial, fun _ _ => trivial⟩ serverIds
  rw [Solo.run_silent hsilent] at h
  exact (congrArg (fun r => r.2.2) h).symm

/-- The agents hold what they held and what was brought to them, but what was noted for
removal. -/
theorem reconcileAll_has {target : Option Nat} {subs : List Subscription}
    (hids : (subs.map Subscription.id).Nodup)
    (h : (reconcileAll settings target subs).run (Solo.serveAll true Agents.handle) (w, n) =
      (.ok (), (w', n'))) (p : String × String) :
    n'.Has p ↔ (n.Has p ∨ ∃ sub ∈ subs, w.view.Sends target sub p) ∧
      ¬ ∃ sub ∈ subs, w.view.Strips target sub p := by
  obtain ⟨c, ⟨w₁, n₁⟩, hloop, h⟩ := Prog.exists_run_bind h
  obtain ⟨_, ⟨w₂, n₂⟩, hpublish, hflush⟩ := Prog.exists_run_bind h
  obtain ⟨hremovals, hhas⟩ := reconcileLoop_has hids hloop
  rw [flushRemovals_has hflush, publish_has hpublish, hhas, hremovals]

end Reconcile

/-! ## Orphans -/

/-- The two reconciliations of a service. -/
inductive Reconcile
  | user (userId : Nat)
  | server (serverId : Nat)

def Reconcile.program [DecidableEq D] (settings : ControlSettings D) : Reconcile → BotProg D Unit
  | .user userId => reconcileUserSubscriptions settings userId
  | .server serverId => reconcileServerSubscriptions settings serverId

def Reconcile.target : Reconcile → Option Nat
  | .user _ => none
  | .server serverId => some serverId

def Reconcile.subscriptions (db : Db D) : Reconcile → List Subscription
  | .user userId => db.activeOf userId
  | .server _ =>
    db.subscriptions.filter fun s => s.isActive && db.users.any fun u => u.id == s.userId

/-- A subscription loses a push server with that agent, and no other server with the same agent
serves it. -/
structure Db.Leaves (db : Db D) (r : Reconcile) (sub : Subscription) (agent : String) : Prop where
  reconciled : sub ∈ r.subscriptions db
  lost : ∃ l ∈ db.lostLinks r.target sub, pushesTo l.2 = true ∧ l.2.agent = agent
  unshared : ∀ s ∈ db.accessibleServers sub.userId, pushesTo s = true → s.agent ≠ agent

section Orphans
variable [DecidableEq D]

omit [DecidableEq D] in
theorem Reconcile.subscriptions_nodup (r : Reconcile) {db : Db D}
    (hids : (db.subscriptions.map Subscription.id).Nodup) :
    ((r.subscriptions db).map Subscription.id).Nodup := by
  cases r with
  | user userId => exact hids.sublist ((List.filter_sublist.trans List.filter_sublist).map _)
  | server serverId => exact hids.sublist (List.filter_sublist.map _)

theorem Reconcile.program_run (settings : ControlSettings D) (r : Reconcile) (w : Solo (Db D))
    (n : Agents) :
    (r.program settings).run (Solo.serveAll true Agents.handle) (w, n) =
      (reconcileAll settings r.target (r.subscriptions w.view)).run
        (Solo.serveAll true Agents.handle) (w, n) := by
  cases r <;> rfl

/-- No agent that a subscription leaves keeps one of its UUIDs, if and only if each was noted for
removal, as it is along with a link that is marked synced, or is held by the agent neither before
nor for another subscription. -/
theorem no_orphans_iff (settings : ControlSettings D) (r : Reconcile) (db : Db D)
    (hids : (db.subscriptions.map Subscription.id).Nodup) (outside : Outside) (n : Agents)
    (w' : Solo (Db D)) (n' : Agents)
    (h : (r.program settings).run (Solo.serveAll true Agents.handle) (Solo.start db outside, n) =
      (.ok (), (w', n'))) :
    (∀ sub agent, db.Leaves r sub agent → ∀ u ∈ db.uuidsOf sub, u ∉ n' agent) ↔
      ∀ sub agent, db.Leaves r sub agent → ∀ u ∈ db.uuidsOf sub,
        (∃ sub' ∈ r.subscriptions db, db.Strips r.target sub' (agent, u)) ∨
        u ∉ n agent ∧ ¬ ∃ sub' ∈ r.subscriptions db, db.Sends r.target sub' (agent, u) := by
  rw [r.program_run] at h
  refine forall₂_congr fun sub agent => forall_congr' fun hleaves => forall₂_congr fun u hu => ?_
  have hhas := reconcileAll_has (r.subscriptions_nodup hids) h (agent, u)
  change u ∈ n' agent ↔ (u ∈ n agent ∨ _) ∧ _ at hhas
  rw [hhas, not_and_or, not_or, not_not]
  exact or_comm

end Orphans

/-- A link that is marked synced takes its clients with it. -/
theorem strips_of_synced {r : Reconcile} {db : Db D} {sub : Subscription}
    (hsynced : ∀ l ∈ db.lostLinks r.target sub, pushesTo l.2 = true → l.1.isSynced = true)
    (hleaves : db.Leaves r sub agent) (hu : u ∈ db.uuidsOf sub) :
    ∃ sub' ∈ r.subscriptions db, db.Strips r.target sub' (agent, u) := by
  obtain ⟨l, hl, hpush, rfl⟩ := hleaves.lost
  have hshared : sharedAgent (db.allowedServers r.target sub) l.2.agent = false := by
    refine List.any_eq_false.2 fun s hs hboth => ?_
    obtain ⟨hpush', hagent⟩ := Bool.and_eq_true_iff.1 hboth
    exact hleaves.unshared s (List.mem_of_mem_filter hs) hpush' (beq_iff_eq.1 hagent)
  refine ⟨sub, hleaves.reconciled, l, hl, ?_⟩
  rw [Db.stripsOf, hsynced l hl hpush, hpush, hshared]
  exact List.mem_map_of_mem hu

/-- A private server with its agent, and a user with a subscription. -/
def privateNode (grants : List ServerAccessGrant) (links : List SubscriptionServer) :
    Db (List DesiredItem) :=
  { (Db.empty : Db (List DesiredItem)) with
    servers := [⟨1, "203.0.113.1", 443, "pk", "sid", "agent", .push, 0, 0, none, none, .both, false,
      true⟩]
    users := [⟨1, 1, false, false, none⟩]
    subscriptions := [⟨1, 1, "t", none, "u", 30, 0, 1000, true⟩]
    grants
    links }

/-- The grant is gone, and the link is marked synced. -/
theorem no_orphans_iff_synced :
    let run := ((Reconcile.user 1).program listSettings).run (Solo.serveAll true Agents.handle)
      (Solo.start (privateNode [] [⟨1, 1, true⟩]) noon, fun _ => ["u"])
    (privateNode [] [⟨1, 1, true⟩]).Leaves (.user 1) ⟨1, 1, "t", none, "u", 30, 0, 1000, true⟩
      "agent" ∧ "u" ∉ run.2.2 "agent" := by
  intro run
  have hleaves : (privateNode [] [⟨1, 1, true⟩]).Leaves (.user 1)
      ⟨1, 1, "t", none, "u", 30, 0, 1000, true⟩ "agent" :=
    ⟨by decide, by decide, by decide⟩
  have hrun : run = (.ok (), (run.2.1, run.2.2)) := Prod.ext (by decide) rfl
  have hsynced : ∀ sub ∈ Reconcile.subscriptions (privateNode [] [⟨1, 1, true⟩]) (.user 1),
      ∀ l ∈ (privateNode [] [⟨1, 1, true⟩]).lostLinks none sub, pushesTo l.2 = true →
        l.1.isSynced = true := by
    decide
  refine ⟨hleaves, (no_orphans_iff listSettings (.user 1) (privateNode [] [⟨1, 1, true⟩])
    (by decide) noon (fun _ => ["u"]) run.2.1 run.2.2 hrun).2 (fun sub agent h u hu => ?_)
    _ "agent" hleaves "u" (by decide)⟩
  exact .inl (strips_of_synced (hsynced sub h.reconciled) h hu)

/-- The answers of an agent that takes a client get lost; when the grant is taken back and the
agent answers again, the link is dropped and the client stays. -/
theorem lost_answer_leaves_orphan :
    let first := (grantUserAccess listSettings 1 1).run (Solo.serveAll false Agents.handle)
      (Solo.start (privateNode [] []) noon, fun _ => [])
    let second := (revokeUserAccess listSettings 1 1).run (Solo.serveAll true Agents.handle) first.2
    first.1 = .ok true ∧ first.2.1.view.links = [⟨1, 1, false⟩] ∧
    second.1 = .ok true ∧ second.2.1.view.links = [] ∧
    second.2.1.view.accessibleServers 1 = [] ∧ "u" ∈ second.2.2 "agent" := by
  decide

end AegisVPN
