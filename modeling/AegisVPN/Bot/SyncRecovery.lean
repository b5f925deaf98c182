import Mathlib.Data.List.Dedup
import AegisVPN.Bot.SyncSound

namespace AegisVPN
open Library
set_option autoImplicit true

/-! ## Generations -/

/-- No generation is ahead of the desired one. -/
structure Db.Numbered (db : Db D) : Prop where
  snapshots : ∀ n ∈ db.snapshots,
    ∃ s, db.server n.serverId = some s ∧ n.generation ≤ s.desiredGeneration
  applied : ∀ serverId s, db.server serverId = some s →
    s.appliedGeneration ≤ s.desiredGeneration

/-- An acknowledgement of a generation that its server was given. -/
def Db.Gave (db : Db D) (ack : Nat × NodeAckRequest D) : Prop :=
  ∃ s, db.server ack.1 = some s ∧ ack.2.generation ≤ s.desiredGeneration

variable {D : Type} {db db' : Db D}

theorem Published.server_back {server' : Server D} (h : Published db db')
    (hs : db'.server serverId = some server') :
    ∃ server, db.server serverId = some server ∧
      server.desiredGeneration ≤ server'.desiredGeneration ∧
      server'.appliedGeneration = server.appliedGeneration ∧
      server'.controlMode = server.controlMode := by
  obtain ⟨g, hg⟩ := h.server
  have hserver := hg serverId
  rw [hs] at hserver
  obtain ⟨server, hs₀, rfl⟩ := Option.map_eq_some_iff.1 hserver.symm
  exact ⟨server, hs₀, Nat.le_max_left _ _, rfl, rfl⟩

theorem Published.server_next {server : Server D} (h : Published db db')
    (hs : db.server serverId = some server) :
    ∃ server', db'.server serverId = some server' ∧
      server.desiredGeneration ≤ server'.desiredGeneration := by
  obtain ⟨g, hg⟩ := h.server
  have hserver := hg serverId
  rw [hs] at hserver
  exact ⟨_, hserver, Nat.le_max_left _ _⟩

theorem Published.numbered (h : Published db db') (hn : db.Numbered) : db'.Numbered where
  snapshots n hmem := by
    obtain ⟨added, hadded, hnew⟩ := h.snapshots
    rw [hadded] at hmem
    rcases List.mem_append.1 hmem with hmem | hmem
    · obtain ⟨s, hs, hle⟩ := hn.snapshots n hmem
      obtain ⟨s', hs', hle'⟩ := h.server_next hs
      exact ⟨s', hs', hle.trans hle'⟩
    · obtain ⟨-, s', -, -, -, hs', hle⟩ := hnew n hmem
      exact ⟨s', hs', hle⟩
  applied serverId s' hs' := by
    obtain ⟨s, hs, hle, happlied, -⟩ := h.server_back hs'
    rw [happlied]
    exact (hn.applied serverId s hs).trans hle

theorem Published.gave {ack : Nat × NodeAckRequest D} (h : Published db db')
    (hg : db.Gave ack) : db'.Gave ack := by
  obtain ⟨s, hs, hle⟩ := hg
  obtain ⟨s', hs', hle'⟩ := h.server_next hs
  exact ⟨s', hs', hle.trans hle'⟩

/-- A server that was given no snapshot has the same latest one; another has a newer one than it
can have applied. -/
theorem Published.latest {server : Server D} (h : Published db db')
    (hs : db.server serverId = some server) :
    db'.latestSnapshot serverId = db.latestSnapshot serverId ∨
      ∀ l ∈ db'.latestSnapshot serverId, server.desiredGeneration < l.generation := by
  obtain ⟨added, hadded, hnew⟩ := h.snapshots
  by_cases hmem : ∃ n ∈ added, n.serverId = serverId
  · obtain ⟨n, hn, hid⟩ := hmem
    refine .inr fun l hl => ?_
    obtain ⟨s, -, hs', -, hlt, -⟩ := hnew n hn
    rw [hid, hs] at hs'
    cases hs'
    exact hlt.trans_le (le_latestSnapshot hl (hadded ▸ List.mem_append_right _ hn) hid)
  · exact .inl (latestSnapshot_append hadded fun n hn hid => hmem ⟨n, hn, hid⟩)

theorem numbered_of_control (hn : db.Numbered) (hsnapshots : db'.snapshots = db.snapshots)
    (hcontrol : db'.servers.map Server.control = db.servers.map Server.control) :
    db'.Numbered where
  snapshots n hmem := by
    obtain ⟨s, hs, hle⟩ := hn.snapshots n (hsnapshots ▸ hmem)
    have hmap := server_of_control hcontrol n.serverId
    rw [hs] at hmap
    obtain ⟨s', hs', hc⟩ := Option.map_eq_some_iff.1 hmap
    have hdesired : s'.desiredGeneration = s.desiredGeneration :=
      congrArg (fun c => c.2.2.1) hc
    exact ⟨s', hs', hle.trans hdesired.ge⟩
  applied serverId s' hs' := by
    have hmap := server_of_control hcontrol serverId
    rw [hs'] at hmap
    obtain ⟨s, hs, hc⟩ := Option.map_eq_some_iff.1 hmap.symm
    have hdesired : s.desiredGeneration = s'.desiredGeneration :=
      congrArg (fun c => c.2.2.1) hc
    have happlied : s.appliedGeneration = s'.appliedGeneration :=
      congrArg (fun c => c.2.2.2.1) hc
    rw [← hdesired, ← happlied]
    exact hn.applied serverId s hs

theorem gave_of_control {ack : Nat × NodeAckRequest D} (hg : db.Gave ack)
    (hcontrol : db'.servers.map Server.control = db.servers.map Server.control) :
    db'.Gave ack := by
  obtain ⟨s, hs, hle⟩ := hg
  have hmap := server_of_control hcontrol ack.1
  rw [hs] at hmap
  obtain ⟨s', hs', hc⟩ := Option.map_eq_some_iff.1 hmap
  have hdesired : s'.desiredGeneration = s.desiredGeneration := congrArg (fun c => c.2.2.1) hc
  exact ⟨s', hs', hle.trans hdesired.ge⟩

/-! ## Acknowledgements -/

theorem writeAck_server_back {serverId : Nat} {request : NodeAckRequest D} {i : Nat}
    (hs : (writeAck serverId request db).server i = some server') :
    ∃ server, db.server i = some server ∧
      server'.desiredGeneration = server.desiredGeneration ∧
      server'.controlMode = server.controlMode ∧ server'.appliedGeneration =
        if i = serverId then request.generation else server.appliedGeneration := by
  obtain ⟨-, -, hserver, -⟩ := writeAck_spec serverId request db
  rw [hserver, setApplied_server] at hs
  obtain ⟨server, hserver₀, rfl⟩ := Option.map_eq_some_iff.1 hs
  refine ⟨server, hserver₀, ?_⟩
  rw [server_id hserver₀]
  split <;> exact ⟨rfl, rfl, rfl⟩

theorem writeAck_server_next (serverId : Nat) (request : NodeAckRequest D) {i : Nat}
    (hs : db.server i = some server) :
    ∃ server', (writeAck serverId request db).server i = some server' ∧
      server'.desiredGeneration = server.desiredGeneration := by
  obtain ⟨-, -, hserver, -⟩ := writeAck_spec serverId request db
  refine ⟨_, by rw [hserver, setApplied_server, hs]; rfl, ?_⟩
  dsimp only
  split <;> rfl

theorem writeAck_numbered (hn : db.Numbered) {ack : Nat × NodeAckRequest D} (hg : db.Gave ack) :
    (writeAck ack.1 ack.2 db).Numbered where
  snapshots n hmem := by
    rw [(writeAck_spec ack.1 ack.2 db).2.2.2] at hmem
    obtain ⟨s, hs, hle⟩ := hn.snapshots n ((prune_snapshots _ _ db).1.subset hmem)
    obtain ⟨s', hs', hdesired⟩ := writeAck_server_next ack.1 ack.2 hs
    exact ⟨s', hs', hle.trans hdesired.ge⟩
  applied i s' hs' := by
    obtain ⟨s, hs, hdesired, -, happlied⟩ := writeAck_server_back hs'
    rw [hdesired, happlied]
    split
    · rename_i hid
      obtain ⟨s₀, hs₀, hle⟩ := hg
      rw [← hid, hs] at hs₀
      cases hs₀
      exact hle
    · exact hn.applied i s hs

/-! ## Runs -/

/-- Every link of a pull node that applied its latest generation is synced. -/
def Db.Recovered (db : Db D) : Prop :=
  ∀ serverId server, db.server serverId = some server → server.controlMode = .pull →
    ∀ l, db.latestSnapshot serverId = some l → server.appliedGeneration = l.generation →
      ∀ link ∈ db.links, link.serverId = serverId → link.isSynced = true

/-- Every link of a pull node that applied its latest snapshot is synced, if the snapshot has the
clients of the link's subscription and no subscription is being synchronised. -/
def SyncWorld.Recovers (w : SyncWorld D) : Prop :=
  w.syncs = [] → ∀ link ∈ w.db.links, ∀ server ∈ w.db.server link.serverId,
    server.controlMode = .pull → ∀ l ∈ w.db.latestSnapshot link.serverId,
      server.appliedGeneration = l.generation → server.appliedDigest = some l.digest →
        (∀ sub ∈ w.db.subscriptions, sub.id = link.subscriptionId →
          ∀ c ∈ w.db.clientsOf sub, l.serves c.uuid = true) → link.isSynced = true

section World
variable [DecidableEq D] {settings : ControlSettings D}

/-- A synchronisation changes what each of its pull nodes has to serve, if the node applied its
latest generation. -/
def SyncWorld.Republishes (settings : ControlSettings D) (w : SyncWorld D) (sync : LoadedSync)
    (now : Int) : Prop :=
  ∀ r ∈ sync.results, ∀ server ∈ w.db.server r.1, server.controlMode = .pull →
    ∀ l ∈ w.db.latestSnapshot r.1, server.appliedGeneration = l.generation →
      (nextSnapshot settings (Pending.write sync.writes w.db).2 server now).isSome = true

def SyncWorld.Changes (settings : ControlSettings D) (w : SyncWorld D) : SyncEvent D → Prop
  | .commitSync i now => ∀ sync ∈ w.syncs[i]?, w.Republishes settings sync now
  | _ => True

instance decidableRecovers (w : SyncWorld D) : Decidable w.Recovers :=
  inferInstanceAs (Decidable (_ → _))

instance decidableChanges (w : SyncWorld D) : ∀ e, Decidable (w.Changes settings e)
  | .commitSync i now => inferInstanceAs (Decidable (∀ sync ∈ w.syncs[i]?,
      ∀ r ∈ sync.results, ∀ server ∈ w.db.server r.1, server.controlMode = .pull →
        ∀ l ∈ w.db.latestSnapshot r.1, server.appliedGeneration = l.generation →
          (nextSnapshot settings (Pending.write sync.writes w.db).2 server now).isSome = true))
  | .commitAck .. => .isTrue trivial
  | .loadSync .. => .isTrue trivial
  | .publish .. => .isTrue trivial
  | .receiveAck .. => .isTrue trivial
  | .addServer .. => .isTrue trivial
  | .other .. => .isTrue trivial

structure SyncWorld.Settled (w : SyncWorld D) : Prop where
  numbered : w.db.Numbered
  gave : ∀ ack ∈ w.acks, w.db.Gave ack
  recovered : w.db.Recovered

omit [DecidableEq D] in
theorem Published.recovered {db db' : Db D} (h : Published db db') (hn : db.Numbered)
    (hr : db.Recovered) : db'.Recovered := by
  intro serverId server' hs' hp l hl happlied link hlink hid
  obtain ⟨server, hs, -, happlied', hmode⟩ := h.server_back hs'
  have hlinks : db'.links = db.links := by rw [h.rest]
  rcases h.latest hs with hlatest | hnewer
  · exact hr serverId server hs (hmode ▸ hp) l (hlatest ▸ hl) (happlied' ▸ happlied) link
      (hlinks ▸ hlink) hid
  · have hlt := hnewer l hl
    have hle := hn.applied serverId server hs
    omega

theorem syncTransaction_settled {w : SyncWorld D} (h : w.Settled) {sync : LoadedSync}
    (hc : w.Republishes settings sync now)
    (ho : syncTransaction settings sync now w.db = (.ok (), db')) :
    db'.Numbered ∧ (∀ ack, w.db.Gave ack → db'.Gave ack) ∧ db'.Recovered := by
  obtain ⟨db₁, db₂, hwrites, hsub, hlinks, hpublish⟩ := syncTransaction_ok ho
  obtain ⟨hframe₁, -⟩ := dirtySubscription_write hsub
  obtain ⟨hframe₂, -⟩ := dirtyLinks_write hlinks
  have hpublished := published_publishAll hpublish
  have hcontrol : db₂.servers.map Server.control = w.db.servers.map Server.control := by
    rw [hframe₂, hframe₁]
  have hsnapshots : db₂.snapshots = w.db.snapshots := by rw [hframe₂, hframe₁]
  have hserver₂ : ∀ serverId, db₂.server serverId = w.db.server serverId := fun serverId => by
    rw [hframe₂, hframe₁]
    rfl
  have hlatest₂ : ∀ serverId, db₂.latestSnapshot serverId = w.db.latestSnapshot serverId :=
    fun serverId => by
      rw [Db.latestSnapshot, hsnapshots]
      rfl
  have hn₂ := numbered_of_control h.numbered hsnapshots hcontrol
  refine ⟨hpublished.numbered hn₂, fun ack hg => hpublished.gave (gave_of_control hg hcontrol),
    fun serverId server' hs' hp l hl happlied link hlink hid => ?_⟩
  obtain ⟨server, hs, -, happlied', hmode⟩ := hpublished.server_back hs'
  have hle := hn₂.applied serverId server hs
  have hpull : server.controlMode = .pull := hmode ▸ hp
  rcases hpublished.latest hs with hlatest | hnewer
  · rw [hlatest] at hl
    by_cases hmem : ∃ r ∈ sync.results, r.1 = serverId
    · -- a snapshot is due, and it is newer than the latest
      obtain ⟨r, hr, hrid⟩ := hmem
      have hdue := hc r hr server (hrid ▸ hserver₂ serverId ▸ hs) hpull l
        (hrid ▸ hlatest₂ serverId ▸ hl) (happlied' ▸ happlied)
      rw [hwrites] at hdue
      have hids : serverId ∈ sortedIds (sync.results.map Prod.fst) := by
        rw [sortedIds, (List.perm_insertionSort _ _).mem_iff, List.mem_dedup]
        exact List.mem_map.2 ⟨r, hr, hrid⟩
      have hnodup : (sortedIds (sync.results.map Prod.fst)).Nodup :=
        (List.perm_insertionSort _ _).nodup_iff.2 (List.nodup_dedup _)
      obtain ⟨n, hn, hnid, hlt⟩ := publishAll_due hnodup hpublish hids hs
        (by simp [publishesFor, hpull]) hdue
      have hnle := le_latestSnapshot (hlatest ▸ hl) hn hnid
      omega
    · have hlink₂ : link ∈ db₂.links := by
        have hl : db'.links = db₂.links := by rw [hpublished.rest]
        exact hl ▸ hlink
      have hlink₁ := dirtyLinks_elsewhere hlinks (fun r hr hrid => hmem ⟨r, hr, hrid⟩) hlink₂ hid
      have hlink₀ : link ∈ w.db.links := by
        have hl : db₁.links = w.db.links := by rw [hframe₁]
        exact hl ▸ hlink₁
      exact h.recovered serverId server (hserver₂ serverId ▸ hs) hpull l
        (hlatest₂ serverId ▸ hl) (happlied' ▸ happlied) link hlink₀ hid
  · have hlt := hnewer l hl
    omega

omit [DecidableEq D] in
theorem writeAck_recovered {db : Db D} (hr : db.Recovered) (ack : Nat × NodeAckRequest D) :
    (writeAck ack.1 ack.2 db).Recovered := by
  obtain ⟨hlinks, -, -, hsnapshots⟩ := writeAck_spec ack.1 ack.2 db
  intro serverId server' hs' hp l hl happlied link hlink hid
  obtain ⟨server, hs, -, hmode, happlied'⟩ := writeAck_server_back hs'
  obtain ⟨link₀, hmem₀, rfl⟩ := List.mem_map.1 (hlinks ▸ hlink)
  by_cases hmarked : link₀.serverId = ack.1
  · rw [if_pos hmarked]
  · rw [if_neg hmarked] at hid ⊢
    have hne : serverId ≠ ack.1 := hid ▸ hmarked
    rw [if_neg hne] at happlied'
    have hlatest : (writeAck ack.1 ack.2 db).latestSnapshot serverId =
        db.latestSnapshot serverId := by
      rw [Db.latestSnapshot, hsnapshots]
      exact (prune_snapshots ack.1 ack.2.generation db).2 serverId hne
    exact hr serverId server hs (hmode ▸ hp) l (hlatest ▸ hl) (happlied' ▸ happlied) link₀ hmem₀
      hid

theorem checkAck_gave {db : Db D} (hn : db.Numbered) {request : NodeAckRequest D}
    (h : checkAck db serverId request = .ok status) : db.Gave (serverId, request) := by
  rw [checkAck] at h
  split at h
  · rename_i snapshot current hsnapshot hcurrent
    have hmem := List.mem_of_find?_eq_some hsnapshot
    have hkey := List.find?_some hsnapshot
    simp only [Bool.and_eq_true, beq_iff_eq] at hkey
    obtain ⟨s, hs, hle⟩ := hn.snapshots snapshot hmem
    exact ⟨s, hkey.1 ▸ hs, hkey.2 ▸ hle⟩
  · cases h

omit [DecidableEq D] in
theorem addServer_settled {w : SyncWorld D} (h : w.Settled) (server : Server D)
    (hnew : w.db.namesServer server.id = false) (hdesired : server.desiredGeneration = 0)
    (happlied : server.appliedGeneration = 0) :
    SyncWorld.Settled { w with db := { w.db with servers := w.db.servers ++ [server] } } := by
  rw [Db.namesServer, Bool.or_eq_false_iff, Bool.or_eq_false_iff] at hnew
  obtain ⟨⟨hserver, -⟩, hsnapshots⟩ := hnew
  have hlookup := addServer_server _ hserver
  have hold : ∀ i s, w.db.server i = some s → i ≠ server.id := by
    rintro i s hs rfl
    rw [hs] at hserver
    cases hserver
  constructor
  case numbered =>
    refine ⟨fun n hmem => ?_, fun i s hs => ?_⟩
    · obtain ⟨s, hs, hle⟩ := h.numbered.snapshots n hmem
      exact ⟨s, by rw [hlookup, if_neg (hold _ s hs), hs], hle⟩
    · rw [hlookup] at hs
      split at hs
      · cases hs
        rw [hdesired, happlied]
      · exact h.numbered.applied i s hs
  case gave =>
    intro ack hack
    obtain ⟨s, hs, hle⟩ := h.gave ack hack
    exact ⟨s, by rw [hlookup, if_neg (hold _ s hs), hs], hle⟩
  case recovered =>
    intro i s hs hp l hl happlied' link hlink hid
    rw [hlookup] at hs
    split at hs
    · rename_i hi
      have hmem := List.mem_filter.1 (List.argmax_mem hl)
      have hnone := List.any_eq_false.1 hsnapshots l hmem.1
      rw [← hi] at hnone
      exact absurd hmem.2 hnone
    · exact h.recovered i s hs hp l hl happlied' link hlink hid

theorem SyncWorld.Settled.step {w : SyncWorld D} (h : w.Settled) (e : SyncEvent D)
    (hc : w.Changes settings e) : (w.step settings e).Settled := by
  cases e with
  | loadSync old new serverIds pushed => exact ⟨h.numbered, h.gave, h.recovered⟩
  | commitSync i now =>
    rw [SyncWorld.step]
    cases hi : w.syncs[i]? with
    | none => exact h
    | some sync =>
      rcases transact_cases (syncTransaction settings sync now) w.db with
        ht | ⟨db', ho, ht⟩ <;> simp only [ht]
      · exact ⟨h.numbered, h.gave, h.recovered⟩
      · obtain ⟨hn, hgave, hr⟩ := syncTransaction_settled h (hc sync hi) ho
        exact ⟨hn, fun ack hack => hgave ack (h.gave ack hack), hr⟩
  | publish serverId now =>
    rw [SyncWorld.step]
    rcases transact_cases (publishNow settings serverId now) w.db with
      ht | ⟨db', ho, ht⟩ <;> simp only [ht]
    · exact h
    · have hp := published_publishNow ho
      exact ⟨hp.numbered h.numbered, fun ack hack => hp.gave (h.gave ack hack),
        hp.recovered h.numbered h.recovered⟩
  | receiveAck serverId request =>
    rw [SyncWorld.step]
    split
    · exact h
    · rename_i status hcheck
      refine ⟨h.numbered, fun ack hack => ?_, h.recovered⟩
      rcases List.mem_append.1 hack with hack | hack
      · exact h.gave ack hack
      · split at hack
        · rw [List.mem_singleton.1 hack]
          exact checkAck_gave h.numbered hcheck
        · cases hack
  | commitAck i =>
    rw [SyncWorld.step]
    cases hi : w.acks[i]? with
    | none => exact h
    | some ack =>
      refine ⟨writeAck_numbered h.numbered (h.gave ack (List.mem_of_getElem? hi)),
        fun ack' hack' => ?_, writeAck_recovered h.recovered ack⟩
      obtain ⟨s, hs, hle⟩ := h.gave ack' (List.mem_of_mem_eraseIdx hack')
      obtain ⟨s', hs', hdesired⟩ :=
        writeAck_server_next ack.1 ack.2 hs
      exact ⟨s', hs', hle.trans hdesired.ge⟩
  | addServer server =>
    rw [SyncWorld.step]
    split
    · exact h
    · rename_i hnew
      exact addServer_settled h _ (by simpa using hnew) rfl rfl
  | other next =>
    rw [SyncWorld.step]
    split
    · rename_i helse
      obtain ⟨hlinks, -, hsnapshots, hcontrol⟩ := helse
      refine ⟨numbered_of_control h.numbered hsnapshots hcontrol,
        fun ack hack => gave_of_control (h.gave ack hack) hcontrol, ?_⟩
      intro i s' hs' hp l hl happlied link hlink hid
      have hmap := server_of_control hcontrol i
      rw [hs'] at hmap
      obtain ⟨s, hs, hcolumns⟩ := Option.map_eq_some_iff.1 hmap.symm
      have hmode : s.controlMode = s'.controlMode := congrArg (fun c => c.2.1) hcolumns
      have happlied' : s.appliedGeneration = s'.appliedGeneration :=
        congrArg (fun c => c.2.2.2.1) hcolumns
      have hlatest : next.latestSnapshot i = w.db.latestSnapshot i := by
        rw [Db.latestSnapshot, hsnapshots]
        rfl
      exact h.recovered i s hs (hmode ▸ hp) l (hlatest ▸ hl) (happlied'.trans happlied) link
        (hlinks link hlink) hid
    · exact h

/-- In a run whose synchronisations all change what their pull nodes serve, or meet a generation
that is still to be applied, every link recovers. -/
theorem synced_links_recover (es : List (SyncEvent D))
    (h : Along (SyncWorld.step settings) (SyncWorld.Changes settings) .fresh es) :
    (es.foldl (SyncWorld.step settings) .fresh).Recovers := by
  have hfresh : (SyncWorld.fresh : SyncWorld D).Settled := by
    refine ⟨⟨fun n hn => ?_, fun i s hs => ?_⟩, fun ack hack => ?_, fun i s hs => ?_⟩
    · cases hn
    · cases hs
    · cases hack
    · cases hs
  have hsettled := run_invariant hfresh (fun w e hw hc => hw.step e hc) h
  intro _ link hlink server hs hp l hl happlied _ _
  exact hsettled.recovered link.serverId server hs hp l hl happlied link hlink rfl

end World

theorem synced_links_recover_once :
    ((setUp ++ syncEvents (freshSubscription 1 "u1") ++ ackEvents 1 firstItems).foldl
      (SyncWorld.step listSettings) .fresh).Recovers :=
  synced_links_recover _ (by decide)

/-- The subscription is brought to its server again, as it is. -/
theorem unchanged_sync_never_recovers :
    let es := setUp ++ syncEvents (freshSubscription 1 "u1") ++ ackEvents 1 firstItems ++
      syncEvents (freshSubscription 1 "u1")
    let w := es.foldl (SyncWorld.step listSettings) .fresh
    w.syncs = [] ∧ w.db.links = [⟨1, 1, false⟩] ∧
      (w.db.server 1).map Server.appliedGeneration =
        (w.db.latestSnapshot 1).map NodeSnapshot.generation ∧
      (w.db.latestSnapshot 1).map (fun l => l.serves "u1") = some true ∧
      ¬ w.Recovers := by
  decide

end AegisVPN
