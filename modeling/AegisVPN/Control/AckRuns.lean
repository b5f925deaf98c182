import Mathlib.Data.List.Pairwise
import AegisVPN.Control.Publication

namespace AegisVPN
open Library
set_option autoImplicit true

/-! ## Publications, acknowledgements and whatever else happens -/

/-- The columns of a server that publications and acknowledgements write. -/
def Server.generations (server : Server D) : Nat × Nat × Nat × Option D :=
  (server.id, server.desiredGeneration, server.appliedGeneration, server.appliedDigest)

/-- Any other change: it leaves those columns and the snapshots alone, and makes no server ready
for a route. -/
def Db.Edited (db next : Db D) : Prop :=
  next.snapshots = db.snapshots ∧ (∀ a ∈ next.acks, a ∈ db.acks) ∧
  next.servers.map Server.generations = db.servers.map Server.generations

/-- Pruning has the generation that the node has acknowledged, or an older one. -/
inductive ControlOp (D : Type)
  | publish (serverId : Nat) (now : Int)
  | acknowledge (serverId : Nat) (request : NodeAckRequest D)
  | prune (serverId acknowledgedGeneration : Nat)
  | addServer (server : Server D)
  | edit (next : Db D)

def Db.acknowledged (db : Db D) (serverId : Nat) : Nat :=
  ((db.server serverId).map Server.appliedGeneration).getD 0

/-- A server before its first generation. -/
def Server.fresh (server : Server D) : Server D :=
  { server with desiredGeneration := 0, appliedGeneration := 0, appliedDigest := none }

section Step
variable [DecidableEq D] (settings : ControlSettings D)

instance decidableEdited (db next : Db D) : Decidable (db.Edited next) :=
  inferInstanceAs (Decidable (_ ∧ _))

def controlStep (db : Db D) : ControlOp D → Db D
  | .publish serverId now => transact (publishNow settings serverId now) db
  | .acknowledge serverId request => (acknowledgeSnapshot serverId request db).2
  | .prune serverId generation =>
    if generation ≤ db.acknowledged serverId then
      pruneAcknowledgedSnapshots serverId generation db
    else db
  | .addServer server =>
    if (db.server server.id).isSome || db.snapshots.any fun n => n.serverId == server.id then db
    else { db with servers := db.servers ++ [server.fresh] }
  | .edit next => if db.Edited next then next else db

def controlRun (db : Db D) (ops : List (ControlOp D)) : Db D := ops.foldl (controlStep settings) db

/-- The states of a run, from the first to the last. -/
def controlStates (db : Db D) : List (ControlOp D) → List (Db D)
  | [] => [db]
  | op :: ops => db :: controlStates (controlStep settings db op) ops

end Step

/-! ## What one step does -/

theorem snapshot_spec {db : Db D} (h : db.snapshot serverId generation = some n) :
    n ∈ db.snapshots ∧ n.serverId = serverId ∧ n.generation = generation := by
  have hkey := List.find?_some h
  simp only [Bool.and_eq_true, beq_iff_eq] at hkey
  exact ⟨List.mem_of_find?_eq_some h, hkey.1, hkey.2⟩

theorem writeAck_acks (serverId : Nat) (request : NodeAckRequest D) (db : Db D) :
    (writeAck serverId request db).acks = (db.acks.filter fun a => a.serverId != serverId) ++
      (((db.snapshot serverId request.generation).map ackedRevisions).getD []).map fun r =>
        ⟨r.1, serverId, r.2.1, r.2.2, request.generation⟩ := by
  simp only [writeAck, markLinks, pruneAcknowledgedSnapshots]
  split <;> rfl

theorem prune_keeps {db : Db D} {serverId generation : Nat} (hn : n ∈ db.snapshots)
    (h : n.serverId = serverId → generation ≤ n.generation + 2) :
    n ∈ (pruneAcknowledgedSnapshots serverId generation db).snapshots := by
  rw [pruneAcknowledgedSnapshots]
  split
  · exact hn
  · refine List.mem_filter.2 ⟨hn, ?_⟩
    by_cases hid : n.serverId = serverId
    · have hle : ¬ n.generation < generation - 2 := by
        have := h hid
        omega
      simp [hid, hle]
    · simp [hid]

section Cases
variable [DecidableEq D] {settings : ControlSettings D} {db : Db D}

variable (settings) in
theorem transact_publishNow (serverId : Nat) (now : Int) :
    transact (publishNow settings serverId now) db = db ∨
    ∃ server snapshot, db.server serverId = some server ∧
      nextSnapshot settings db server now = some snapshot ∧
      transact (publishNow settings serverId now) db = db.addSnapshot snapshot := by
  rw [transact]
  rcases publishNow_cases settings serverId now db with h | h |
    ⟨server, snapshot, hserver, -, hnext, h⟩
  · rw [h]
    exact .inl rfl
  · rw [h]
    exact .inl rfl
  · rw [h]
    exact .inr ⟨server, snapshot, hserver, hnext, rfl⟩

/-- An acknowledgement changes something only if it is a success with the right digest, newer
than what the node has acknowledged. -/
theorem acknowledgeSnapshot_cases (serverId : Nat) (request : NodeAckRequest D) (db : Db D) :
    (acknowledgeSnapshot serverId request db).2 = db ∨
    ∃ server snapshot, db.server serverId = some server ∧
      db.snapshot serverId request.generation = some snapshot ∧
      snapshot.digest = request.digest ∧ request.success = true ∧
      server.appliedGeneration < request.generation ∧
      (acknowledgeSnapshot serverId request db).2 = writeAck serverId request db := by
  rw [acknowledgeSnapshot]
  split
  · rename_i hcheck
    simp only [checkAck] at hcheck
    split at hcheck
    · rename_i snapshot server hsnapshot hserver
      split at hcheck
      · cases hcheck
      · rename_i hdigest
        split at hcheck
        · cases hcheck
        · rename_i hsuccess
          split at hcheck
          · cases hcheck
          · rename_i hnewer
            exact .inr ⟨server, snapshot, hserver, hsnapshot, Classical.not_not.1 hdigest,
              Bool.eq_true_of_not_eq_false hsuccess, Nat.lt_of_not_le hnewer, rfl⟩
    · cases hcheck
  · exact .inl rfl

end Cases

/-! ## The record of a node -/

/-- Each snapshot of a server is newer than those before it, and the generation that a node has
acknowledged is there, with the digest that the node gave. -/
structure Ledger (db : Db D) : Prop where
  ordered : db.snapshots.Pairwise fun a b => a.serverId = b.serverId → a.generation < b.generation
  applied : ∀ serverId server, db.server serverId = some server → server.appliedGeneration ≠ 0 →
    ∃ n ∈ db.snapshots, n.serverId = serverId ∧ n.generation = server.appliedGeneration ∧
      server.appliedDigest = some n.digest

theorem Ledger.unique {db : Db D} (h : Ledger db) (ha : a ∈ db.snapshots) (hb : b ∈ db.snapshots)
    (hid : a.serverId = b.serverId) (hg : a.generation = b.generation) : a = b := by
  by_contra hne
  let R : NodeSnapshot D → NodeSnapshot D → Prop := fun a b =>
    a.serverId = b.serverId → a.generation ≠ b.generation
  have : Std.Symm R := ⟨fun a b h hid hg => h hid.symm hg.symm⟩
  have hpairs : db.snapshots.Pairwise R := h.ordered.imp fun hlt hid => (hlt hid).ne
  exact hpairs.forall ha hb hne hid hg

theorem Ledger.snapshot_eq {db : Db D} (h : Ledger db) (hn : n ∈ db.snapshots)
    (hid : n.serverId = serverId) (hg : n.generation = generation) :
    db.snapshot serverId generation = some n := by
  cases hfind : db.snapshot serverId generation with
  | none =>
    have hnot := List.find?_eq_none.1 hfind n hn
    simp [hid, hg] at hnot
  | some n' =>
    obtain ⟨hn', hid', hg'⟩ := snapshot_spec hfind
    rw [h.unique hn' hn (hid'.trans hid.symm) (hg'.trans hg.symm)]

theorem latestSnapshot_ge {db : Db D} (hn : n ∈ db.snapshots) :
    ∃ l, db.latestSnapshot n.serverId = some l ∧ n.generation ≤ l.generation := by
  cases hl : db.latestSnapshot n.serverId with
  | none =>
    have hmem : n ∈ db.snapshots.filter fun s => s.serverId == n.serverId :=
      List.mem_filter.2 ⟨hn, beq_self_eq_true _⟩
    rw [Db.latestSnapshot, List.argmax_eq_none] at hl
    rw [hl] at hmem
    cases hmem
  | some l => exact ⟨l, rfl, le_latestSnapshot hl hn rfl⟩

theorem Ledger.addSnapshot [DecidableEq D] {settings : ControlSettings D} {db : Db D}
    (h : Ledger db) (hnext : nextSnapshot settings db server now = some snapshot) :
    Ledger (db.addSnapshot snapshot) where
  ordered := by
    obtain ⟨hid, -, hnewer, -⟩ := nextSnapshot_spec hnext
    refine List.pairwise_append.2 ⟨h.ordered, List.pairwise_singleton _ _, ?_⟩
    intro n hn n' hn' hsame
    obtain rfl := List.mem_singleton.1 hn'
    obtain ⟨l, hl, hle⟩ := latestSnapshot_ge hn
    rw [hsame, hid] at hl
    exact hle.trans_lt (hnewer l hl)
  applied i s' hs' happlied := by
    rw [addSnapshot_server] at hs'
    obtain ⟨s, hs, rfl⟩ := Option.map_eq_some_iff.1 hs'
    have hsame : ∀ s' : Server D, s' = (if s.id = snapshot.serverId then
        { s with desiredGeneration := snapshot.generation } else s) →
        s'.appliedGeneration = s.appliedGeneration ∧ s'.appliedDigest = s.appliedDigest := by
      rintro s' rfl
      split <;> exact ⟨rfl, rfl⟩
    obtain ⟨hgeneration, hdigest⟩ := hsame _ rfl
    rw [hgeneration] at happlied ⊢
    rw [hdigest]
    obtain ⟨n, hn, hrest⟩ := h.applied i s hs happlied
    exact ⟨n, List.mem_append_left _ hn, hrest⟩

theorem Ledger.empty : Ledger (Db.empty : Db D) where
  ordered := List.Pairwise.nil
  applied i s hs := by cases hs

section Writes
variable {db : Db D}

theorem writeAck_keeps {serverId : Nat} {request : NodeAckRequest D} (hn : n ∈ db.snapshots)
    (h : n.serverId = serverId → request.generation ≤ n.generation + 2) :
    n ∈ (writeAck serverId request db).snapshots := by
  rw [(writeAck_spec serverId request db).2.2.2]
  exact prune_keeps hn h

theorem Ledger.writeAck {request : NodeAckRequest D} (h : Ledger db)
    (hn : db.snapshot serverId request.generation = some n) (hd : n.digest = request.digest) :
    Ledger (writeAck serverId request db) where
  ordered := by
    rw [(writeAck_spec serverId request db).2.2.2]
    exact h.ordered.sublist (prune_snapshots serverId request.generation db).1
  applied i s' hs' happlied := by
    rw [(writeAck_spec serverId request db).2.2.1, setApplied_server] at hs'
    obtain ⟨s, hs₀, rfl⟩ := Option.map_eq_some_iff.1 hs'
    have hid := server_id hs₀
    by_cases hi : s.id = serverId
    · obtain ⟨hmem, hnid, hng⟩ := snapshot_spec hn
      refine ⟨n, writeAck_keeps hmem fun _ => by omega, by rw [hnid, ← hi, hid], ?_⟩
      rw [if_pos hi]
      exact ⟨hng, by rw [hd]⟩
    · rw [if_neg hi] at happlied ⊢
      obtain ⟨n', hn', hid', hrest⟩ := h.applied i s hs₀ happlied
      refine ⟨n', writeAck_keeps hn' fun hsame => absurd ?_ hi, hid', hrest⟩
      rw [hid, ← hid', hsame]

theorem prune_server (serverId generation i : Nat) :
    (pruneAcknowledgedSnapshots serverId generation db).server i = db.server i := by
  rw [pruneAcknowledgedSnapshots]
  split <;> rfl

/-- Pruning within the acknowledged generation spares what the node has acknowledged. -/
theorem prune_spares {generation : Nat} (hle : generation ≤ db.acknowledged serverId)
    (hn : n ∈ db.snapshots)
    (h : ∀ server, db.server n.serverId = some server → server.appliedGeneration ≤ n.generation) :
    n ∈ (pruneAcknowledgedSnapshots serverId generation db).snapshots := by
  refine prune_keeps hn fun hsame => ?_
  rw [Db.acknowledged, ← hsame] at hle
  cases hs : db.server n.serverId with
  | none =>
    rw [hs] at hle
    exact hle.trans (Nat.zero_le _)
  | some server =>
    rw [hs] at hle
    exact hle.trans ((h server hs).trans (Nat.le_add_right _ 2))

theorem Ledger.prune {generation : Nat} (h : Ledger db)
    (hle : generation ≤ db.acknowledged serverId) :
    Ledger (pruneAcknowledgedSnapshots serverId generation db) where
  ordered := h.ordered.sublist (prune_snapshots serverId generation db).1
  applied i s hs happlied := by
    rw [prune_server] at hs
    obtain ⟨n, hn, hid, hg, hd⟩ := h.applied i s hs happlied
    refine ⟨n, prune_spares hle hn fun server hserver => ?_, hid, hg, hd⟩
    rw [hid, hs] at hserver
    cases hserver
    exact hg.ge

theorem Ledger.addServer {server : Server D} (h : Ledger db)
    (hnew : (db.server server.id).isSome = false) :
    Ledger { db with servers := db.servers ++ [server.fresh] } where
  ordered := h.ordered
  applied i s hs happlied := by
    rw [addServer_server server.fresh hnew] at hs
    split at hs
    · cases hs
      exact absurd rfl happlied
    · exact h.applied i s hs happlied

theorem server_of_edited {next : Db D} (h : db.Edited next) (hs : next.server i = some server') :
    ∃ server, db.server i = some server ∧ server.generations = server'.generations := by
  have hmap := server_of_map (fun _ _ hc => congrArg Prod.fst hc) h.2.2 i
  rw [hs] at hmap
  exact Option.map_eq_some_iff.1 hmap.symm

theorem Ledger.edit {next : Db D} (h : Ledger db) (he : db.Edited next) : Ledger next where
  ordered := he.1 ▸ h.ordered
  applied i s' hs' happlied := by
    obtain ⟨s, hs, hsame⟩ := server_of_edited he hs'
    simp only [Server.generations, Prod.mk.injEq] at hsame
    rw [← hsame.2.2.1] at happlied ⊢
    rw [← hsame.2.2.2, he.1]
    exact h.applied i s hs happlied

end Writes

/-! ## Runs -/

section Runs
variable [DecidableEq D] (settings : ControlSettings D)

theorem Ledger.step {db : Db D} (h : Ledger db) (op : ControlOp D) :
    Ledger (controlStep settings db op) := by
  cases op with
  | publish serverId now =>
    rw [controlStep]
    rcases transact_publishNow settings serverId now with hsame |
      ⟨server, snapshot, -, hnext, hadd⟩
    · rw [hsame]
      exact h
    · rw [hadd]
      exact h.addSnapshot hnext
  | acknowledge serverId request =>
    rw [controlStep]
    rcases acknowledgeSnapshot_cases serverId request db with hsame |
      ⟨server, snapshot, -, hsnapshot, hdigest, -, -, hwrite⟩
    · rw [hsame]
      exact h
    · rw [hwrite]
      exact h.writeAck hsnapshot hdigest
  | prune serverId generation =>
    rw [controlStep]
    split
    · rename_i hle
      exact h.prune hle
    · exact h
  | addServer server =>
    rw [controlStep]
    split
    · exact h
    · rename_i hnew
      simp only [Bool.or_eq_true, not_or, Bool.not_eq_true] at hnew
      exact h.addServer hnew.1
  | edit next =>
    rw [controlStep]
    split
    · rename_i he
      exact h.edit he
    · exact h

theorem Ledger.run {db : Db D} (h : Ledger db) (ops : List (ControlOp D)) :
    Ledger (controlRun settings db ops) := by
  induction ops generalizing db with
  | nil => exact h
  | cons op ops ih => exact ih (h.step settings op)

theorem applied_cases {db : Db D} (hs : db.server i = some server) (op : ControlOp D) :
    ∃ server', (controlStep settings db op).server i = some server' ∧
      (server'.appliedGeneration = server.appliedGeneration ∨
        ∃ request, op = .acknowledge i request ∧
          server.appliedGeneration < request.generation ∧
          server'.appliedGeneration = request.generation) := by
  cases op with
  | publish serverId now =>
    rw [controlStep]
    rcases transact_publishNow settings serverId now with hsame |
      ⟨_, snapshot, -, hnext, hadd⟩
    · rw [hsame]
      exact ⟨server, hs, .inl rfl⟩
    · rw [hadd, addSnapshot_server, hs]
      refine ⟨_, rfl, .inl ?_⟩
      dsimp only
      split <;> rfl
  | acknowledge serverId request =>
    rw [controlStep]
    rcases acknowledgeSnapshot_cases serverId request db with hsame |
      ⟨current, snapshot, hcurrent, -, -, -, hnewer, hwrite⟩
    · rw [hsame]
      exact ⟨server, hs, .inl rfl⟩
    · rw [hwrite, (writeAck_spec serverId request db).2.2.1, setApplied_server, hs]
      refine ⟨_, rfl, ?_⟩
      dsimp only
      by_cases hid : server.id = serverId
      · rw [if_pos hid]
        obtain rfl : serverId = i := hid.symm.trans (server_id hs)
        rw [hs] at hcurrent
        cases hcurrent
        exact .inr ⟨request, rfl, hnewer, rfl⟩
      · rw [if_neg hid]
        exact .inl rfl
  | prune serverId generation =>
    rw [controlStep]
    split
    · exact ⟨server, by rw [prune_server, hs], .inl rfl⟩
    · exact ⟨server, hs, .inl rfl⟩
  | addServer new =>
    rw [controlStep]
    split
    · exact ⟨server, hs, .inl rfl⟩
    · rename_i hnew
      simp only [Bool.or_eq_true, not_or, Bool.not_eq_true] at hnew
      refine ⟨server, ?_, .inl rfl⟩
      rw [addServer_server new.fresh hnew.1, if_neg ?_, hs]
      rintro rfl
      rw [show (new.fresh).id = new.id from rfl] at hs
      rw [hs] at hnew
      cases hnew.1
  | edit next =>
    rw [controlStep]
    split
    · rename_i he
      have hmap := server_of_map (fun _ _ hc => congrArg Prod.fst hc) he.2.2 i
      rw [hs] at hmap
      obtain ⟨server', hs', hsame⟩ := Option.map_eq_some_iff.1 hmap
      simp only [Server.generations, Prod.mk.injEq] at hsame
      exact ⟨server', hs', .inl hsame.2.2.1⟩
    · exact ⟨server, hs, .inl rfl⟩

theorem applied_run {db : Db D} (hs : db.server i = some server) (ops : List (ControlOp D)) :
    ∃ server', (controlRun settings db ops).server i = some server' ∧
      server.appliedGeneration ≤ server'.appliedGeneration := by
  induction ops generalizing db server with
  | nil => exact ⟨server, hs, le_rfl⟩
  | cons op ops ih =>
    obtain ⟨server₁, hs₁, hcases⟩ := applied_cases settings hs op
    obtain ⟨server', hs', hle⟩ := ih hs₁
    refine ⟨server', hs', ?_⟩
    rcases hcases with hsame | ⟨request, -, hnewer, hnew⟩
    · exact hsame ▸ hle
    · exact hnewer.le.trans (hnew ▸ hle)

theorem snapshots_step (db : Db D) (op : ControlOp D) :
    (controlStep settings db op).snapshots = db.snapshots ∨
    (∃ server snapshot now, db.server server.id = some server ∧
      nextSnapshot settings db server now = some snapshot ∧
      (controlStep settings db op).snapshots = db.snapshots ++ [snapshot]) ∨
    ((controlStep settings db op).snapshots ⊆ db.snapshots ∧ ∀ n ∈ db.snapshots,
      (∀ server, (controlStep settings db op).server n.serverId = some server →
        server.appliedGeneration ≤ n.generation) → n ∈ (controlStep settings db op).snapshots) := by
  cases op with
  | publish serverId now =>
    rw [controlStep]
    rcases transact_publishNow settings serverId now with hsame |
      ⟨server, snapshot, hserver, hnext, hadd⟩
    · rw [hsame]
      exact .inl rfl
    · rw [hadd]
      rw [← server_id hserver] at hserver
      exact .inr (.inl ⟨server, snapshot, now, hserver, hnext, rfl⟩)
  | acknowledge serverId request =>
    rw [controlStep]
    rcases acknowledgeSnapshot_cases serverId request db with hsame |
      ⟨current, snapshot, hcurrent, -, -, -, -, hwrite⟩
    · rw [hsame]
      exact .inl rfl
    · rw [hwrite]
      refine .inr (.inr ⟨?_, fun n hn hspared => writeAck_keeps hn fun hid => ?_⟩)
      · rw [(writeAck_spec serverId request db).2.2.2]
        exact (prune_snapshots serverId request.generation db).1.subset
      · have hserver := (writeAck_spec serverId request db).2.2.1 n.serverId
        rw [setApplied_server, hid, hcurrent, Option.map_some, if_pos (server_id hcurrent)]
          at hserver
        have hle : request.generation ≤ n.generation := hspared _ (by rw [hid]; exact hserver)
        exact hle.trans (Nat.le_add_right _ 2)
  | prune serverId generation =>
    rw [controlStep]
    split
    · rename_i hle
      refine .inr (.inr ⟨(prune_snapshots serverId generation db).1.subset,
        fun n hn hspared => prune_spares hle hn fun server hserver => hspared server ?_⟩)
      rw [prune_server, hserver]
    · exact .inl rfl
  | addServer server =>
    rw [controlStep]
    split
    · exact .inl rfl
    · exact .inl rfl
  | edit next =>
    rw [controlStep]
    split
    · rename_i he
      exact .inl he.1
    · exact .inl rfl

/-- A snapshot that is not older than what its node has acknowledged stays. -/
theorem snapshot_kept {db : Db D} (op : ControlOp D) (hn : n ∈ db.snapshots)
    (h : ∀ server, (controlStep settings db op).server n.serverId = some server →
      server.appliedGeneration ≤ n.generation) : n ∈ (controlStep settings db op).snapshots := by
  rcases snapshots_step settings db op with hsame | ⟨_, _, _, -, -, hadd⟩ | ⟨-, hspared⟩
  · rw [hsame]
    exact hn
  · rw [hadd]
    exact List.mem_append_left _ hn
  · exact hspared n hn h

theorem Ledger.latest_step {db : Db D} (h : Ledger db) (hl : db.latestSnapshot serverId = some l)
    (op : ControlOp D) : l ∈ (controlStep settings db op).snapshots := by
  obtain ⟨hmem, hid⟩ := List.mem_filter.1 (List.argmax_mem hl)
  rw [beq_iff_eq] at hid
  rcases snapshots_step settings db op with hsame | ⟨_, _, _, -, -, hadd⟩ | ⟨hsub, hspared⟩
  · rw [hsame]
    exact hmem
  · rw [hadd]
    exact List.mem_append_left _ hmem
  · refine hspared l hmem fun server hs => ?_
    by_cases happlied : server.appliedGeneration = 0
    · exact happlied ▸ Nat.zero_le _
    · obtain ⟨n, hn, hnid, hg, -⟩ := (h.step settings op).applied _ server hs happlied
      rw [← hg]
      exact le_latestSnapshot hl (hsub hn) (hnid.trans hid)

end Runs

/-! ## Acknowledgements in any order -/

/-- A failure, a generation that is unknown or not newer, or a wrong digest. -/
def NodeAckRequest.Idle (request : NodeAckRequest D) (db : Db D) (serverId : Nat) : Prop :=
  request.success = false ∨ db.snapshot serverId request.generation = none ∨
    request.generation ≤ db.acknowledged serverId ∨
    ∃ n, db.snapshot serverId request.generation = some n ∧ n.digest ≠ request.digest

section Machine
variable [DecidableEq D] (settings : ControlSettings D)

theorem idle_step {db : Db D} {request : NodeAckRequest D} (h : request.Idle db serverId) :
    controlStep settings db (.acknowledge serverId request) = db := by
  rw [controlStep]
  rcases acknowledgeSnapshot_cases serverId request db with hsame |
    ⟨server, n, hs, hn, hdigest, hsuccess, hnewer, -⟩
  · exact hsame
  · rcases h with hfailure | hunknown | hold | ⟨n', hn', hwrong⟩
    · rw [hsuccess] at hfailure
      cases hfailure
    · rw [hn] at hunknown
      cases hunknown
    · rw [Db.acknowledged, hs] at hold
      exact absurd hold (Nat.not_le_of_lt hnewer)
    · rw [hn] at hn'
      cases hn'
      exact absurd hdigest hwrong

/-- What holds of a server after any publications, acknowledgements, prunings and other changes:
its acknowledged generation never goes back, is a published one, and goes with the digest of that
one; idle acknowledgements change nothing; and no step deletes the latest snapshot, or one that is
not older than the acknowledged one. -/
theorem ack_state_machine (ops : List (ControlOp D)) (serverId : Nat) (server : Server D)
    (hs : (controlRun settings Db.empty ops).server serverId = some server) :
    (∀ more, ∃ server', (controlRun settings Db.empty (ops ++ more)).server serverId =
      some server' ∧ server.appliedGeneration ≤ server'.appliedGeneration) ∧
    (server.appliedGeneration ≠ 0 →
      (∃ l, (controlRun settings Db.empty ops).latestSnapshot serverId = some l ∧
        server.appliedGeneration ≤ l.generation) ∧
      ∃ n, (controlRun settings Db.empty ops).snapshot serverId server.appliedGeneration = some n ∧
        server.appliedDigest = some n.digest) ∧
    (∀ request : NodeAckRequest D, request.Idle (controlRun settings Db.empty ops) serverId →
      controlRun settings Db.empty (ops ++ [.acknowledge serverId request]) =
        controlRun settings Db.empty ops) ∧
    ∀ op, (∀ l, (controlRun settings Db.empty ops).latestSnapshot serverId = some l →
        l ∈ (controlRun settings Db.empty (ops ++ [op])).snapshots) ∧
      ∀ n ∈ (controlRun settings Db.empty ops).snapshots, n.serverId = serverId →
        (∀ server', (controlRun settings Db.empty (ops ++ [op])).server serverId = some server' →
          server'.appliedGeneration ≤ n.generation) →
        n ∈ (controlRun settings Db.empty (ops ++ [op])).snapshots := by
  have hledger : Ledger (controlRun settings Db.empty ops) := Ledger.empty.run settings ops
  have hmore : ∀ more, controlRun settings Db.empty (ops ++ more) =
      controlRun settings (controlRun settings Db.empty ops) more :=
    fun more => List.foldl_append
  generalize hdb : controlRun settings Db.empty ops = db at hs hledger hmore ⊢
  refine ⟨fun more => ?_, fun happlied => ⟨?_, ?_⟩, fun request hidle => ?_, fun op => ⟨?_, ?_⟩⟩
  · rw [hmore]
    exact applied_run settings hs more
  · obtain ⟨n, hn, hid, hg, -⟩ := hledger.applied serverId server hs happlied
    obtain ⟨l, hl, hle⟩ := latestSnapshot_ge hn
    exact ⟨l, hid ▸ hl, hg ▸ hle⟩
  · obtain ⟨n, hn, hid, hg, hd⟩ := hledger.applied serverId server hs happlied
    exact ⟨n, hledger.snapshot_eq hn hid hg, hd⟩
  · rw [hmore]
    exact idle_step settings hidle
  · intro l hl
    rw [hmore]
    exact hledger.latest_step settings hl op
  · intro n hn hid hspared
    rw [hmore] at hspared ⊢
    exact snapshot_kept settings op hn (hid ▸ hspared)

end Machine

def ackedServer : Server (List DesiredItem) :=
  ⟨1, "203.0.113.1", 443, "pk", "sid", "agent", .pull, 1, 1, some [], none, .both, true, true⟩

/-- One node, one generation, and its acknowledgement, which arrives twice. -/
def ackedRun : List (ControlOp (List DesiredItem)) :=
  [.addServer ackedServer, .publish 1 0, .acknowledge 1 ⟨1, [], true⟩, .acknowledge 1 ⟨1, [], true⟩]

theorem ack_state_machine_acked :
    (controlRun listSettings Db.empty ackedRun).server 1 = some ackedServer ∧
    ∃ n, (controlRun listSettings Db.empty ackedRun).snapshot 1 1 = some n ∧
      ackedServer.appliedDigest = some n.digest := by
  have hs : (controlRun listSettings Db.empty ackedRun).server 1 = some ackedServer := by
    decide
  exact ⟨hs, ((ack_state_machine listSettings ackedRun 1 ackedServer hs).2.1 (by decide)).2⟩

end AegisVPN
