import AegisVPN.Control.AckRuns
import AegisVPN.Control.Canonical
import AegisVPN.Control.Download

namespace AegisVPN
open Library
set_option autoImplicit true

/-! ## Publications and everything else that happens to a server -/

section Step
variable [DecidableEq D] (settings : ControlSettings D)

/-- A publication with the snapshot that it returns. -/
def publishedSnapshot (serverId : Nat) (now : Int) (db : Db D) :
    Except BotError (NodeSnapshot D) × Db D :=
  if settings.pageSize < 1 then (.error .value, db)
  else
    match db.server serverId with
    | none => (.error .lookup, db)
    | some server =>
      match nextSnapshot settings db server now, db.latestSnapshot serverId with
      | some snapshot, _ => (.ok snapshot, db.addSnapshot snapshot)
      | none, some latest => (.ok latest, db)
      | none, none => (.error .lookup, db)

/-- Publications have page sizes of their own. -/
inductive PublicationOp (D : Type)
  | publish (serverId pageSize : Nat) (now : Int)
  | other (op : ControlOp D)

def publicationStep (db : Db D) : PublicationOp D → Db D
  | .publish serverId pageSize now =>
    (publishedSnapshot { settings with pageSize := pageSize } serverId now db).2
  | .other op => controlStep settings db op

def publicationRun (db : Db D) (ops : List (PublicationOp D)) : Db D :=
  ops.foldl (publicationStep settings) db

end Step

/-! ## What one step can do -/

/-- Servers keep their desired generations or are new, and snapshots are deleted but for the latest
of each server. -/
structure Maintained (db db' : Db D) : Prop where
  server : ∀ i, (db'.server i).map Server.desiredGeneration =
      (db.server i).map Server.desiredGeneration ∨
    db.server i = none ∧ (∀ n ∈ db.snapshots, n.serverId ≠ i) ∧
      (db'.server i).map Server.desiredGeneration = some 0
  snapshots : db'.snapshots ⊆ db.snapshots
  latest : ∀ i, db'.latestSnapshot i = db.latestSnapshot i

section Cases
variable [DecidableEq D] {settings : ControlSettings D} {db db' : Db D}

variable (settings) in
theorem publishedSnapshot_cases (serverId : Nat) (now : Int) (db : Db D) :
    (publishedSnapshot settings serverId now db).2 = db ∨
    ∃ server snapshot, 1 ≤ settings.pageSize ∧ db.server serverId = some server ∧
      nextSnapshot settings db server now = some snapshot ∧
      publishedSnapshot settings serverId now db = (.ok snapshot, db.addSnapshot snapshot) := by
  by_cases hsize : settings.pageSize < 1
  · rw [publishedSnapshot, if_pos hsize]
    exact .inl rfl
  · rw [publishedSnapshot, if_neg hsize]
    cases hserver : db.server serverId with
    | none => exact .inl rfl
    | some server =>
      cases hnext : nextSnapshot settings db server now with
      | some snapshot =>
        refine .inr ⟨server, snapshot, Nat.le_of_not_lt hsize, rfl, hnext, ?_⟩
        simp only [hnext]
      | none =>
        simp only [hnext]
        cases db.latestSnapshot serverId <;> exact .inl rfl

variable (settings) in
theorem transact_publishNow_sized (serverId : Nat) (now : Int) (db : Db D) :
    transact (publishNow settings serverId now) db = db ∨
    ∃ server snapshot, 1 ≤ settings.pageSize ∧ db.server serverId = some server ∧
      nextSnapshot settings db server now = some snapshot ∧
      transact (publishNow settings serverId now) db = db.addSnapshot snapshot := by
  by_cases hsize : settings.pageSize < 1
  · rw [transact, publishNow]
    split
    · rename_i h
      split at h
      · cases h
      · cases h
        exact .inl rfl
    · exact .inl rfl
  · rcases transact_publishNow settings serverId now with h | ⟨server, snapshot, hserver, hnext, h⟩
    · exact .inl h
    · exact .inr ⟨server, snapshot, Nat.le_of_not_lt hsize, hserver, hnext, h⟩

omit [DecidableEq D] in
theorem latestSnapshot_spec {l : NodeSnapshot D} (h : db.latestSnapshot serverId = some l) :
    l ∈ db.snapshots ∧ l.serverId = serverId := by
  obtain ⟨hmem, hid⟩ := List.mem_filter.1 (List.argmax_mem h)
  exact ⟨hmem, by simpa using hid⟩

omit [DecidableEq D] in
/-- Deleting snapshots but for the latest of a server does not change which one is the latest. -/
theorem Ledger.latest_kept (h : Ledger db) (hsub : db'.snapshots ⊆ db.snapshots)
    (hkept : ∀ l, db.latestSnapshot i = some l → l ∈ db'.snapshots) :
    db'.latestSnapshot i = db.latestSnapshot i := by
  cases hl : db.latestSnapshot i with
  | none =>
    cases hl' : db'.latestSnapshot i with
    | none => rfl
    | some l' =>
      obtain ⟨hmem, hid⟩ := latestSnapshot_spec hl'
      obtain ⟨l, hlatest, _⟩ := latestSnapshot_ge (hsub hmem)
      rw [hid, hl] at hlatest
      cases hlatest
  | some l =>
    obtain ⟨hmem, hid⟩ := latestSnapshot_spec hl
    obtain ⟨l', hl', hle⟩ := latestSnapshot_ge (hkept l hl)
    rw [hid] at hl'
    obtain ⟨hmem', hid'⟩ := latestSnapshot_spec hl'
    have hge : l'.generation ≤ l.generation := le_latestSnapshot hl (hsub hmem') hid'
    rw [hl', h.unique (hsub hmem') hmem (hid'.trans hid.symm) (le_antisymm hge hle)]

omit [DecidableEq D] in
theorem Maintained.refl (db : Db D) : Maintained db db :=
  ⟨fun _ => .inl rfl, List.Subset.refl _, fun _ => rfl⟩

variable (settings) in
theorem publicationStep_cases (h : Ledger db) (op : PublicationOp D) :
    Maintained db (publicationStep settings db op) ∨
    ∃ pageSize server now snapshot, 1 ≤ pageSize ∧ db.server server.id = some server ∧
      nextSnapshot { settings with pageSize := pageSize } db server now = some snapshot ∧
      publicationStep settings db op = db.addSnapshot snapshot := by
  cases op with
  | publish serverId pageSize now =>
    rw [publicationStep]
    rcases publishedSnapshot_cases { settings with pageSize := pageSize } serverId now
      db with hsame | ⟨server, snapshot, hsize, hserver, hnext, hadded⟩
    · rw [hsame]
      exact .inl (.refl db)
    · rw [hadded]
      rw [← server_id hserver] at hserver
      exact .inr ⟨pageSize, server, now, snapshot, hsize, hserver, hnext, rfl⟩
  | other op =>
    have hlatest : ∀ i l, db.latestSnapshot i = some l →
        l ∈ (controlStep settings db op).snapshots := fun i l hl => h.latest_step settings hl op
    rw [publicationStep]
    cases op with
    | publish serverId now =>
      rw [controlStep]
      rcases transact_publishNow_sized settings serverId now db with hsame |
        ⟨server, snapshot, hsize, hserver, hnext, hadded⟩
      · rw [hsame]
        exact .inl (.refl db)
      · rw [hadded]
        rw [← server_id hserver] at hserver
        exact .inr ⟨settings.pageSize, server, now, snapshot, hsize, hserver, hnext, rfl⟩
    | acknowledge serverId request =>
      rw [controlStep] at hlatest ⊢
      rcases acknowledgeSnapshot_cases serverId request db with hsame |
        ⟨_, _, _, _, _, _, _, hwrite⟩
      · rw [hsame]
        exact .inl (.refl db)
      · rw [hwrite] at hlatest ⊢
        have hsub : (writeAck serverId request db).snapshots ⊆ db.snapshots := by
          rw [(writeAck_spec serverId request db).2.2.2]
          exact (prune_snapshots serverId request.generation db).1.subset
        refine .inl ⟨fun i => .inl ?_, hsub, fun i => h.latest_kept hsub (hlatest i)⟩
        rw [(writeAck_spec serverId request db).2.2.1, setApplied_server, Option.map_map]
        congr 1
        funext s
        simp only [Function.comp_apply]
        split <;> rfl
    | prune serverId generation =>
      rw [controlStep] at hlatest ⊢
      split
      · rename_i hle
        rw [if_pos hle] at hlatest
        have hsub := (prune_snapshots serverId generation db).1.subset
        refine .inl ⟨fun i => .inl ?_, hsub, fun i => h.latest_kept hsub (hlatest i)⟩
        rw [prune_server]
      · exact .inl (.refl db)
    | addServer server =>
      rw [controlStep]
      split
      · exact .inl (.refl db)
      · rename_i hnew
        simp only [Bool.or_eq_true, not_or, Bool.not_eq_true, List.any_eq_false, beq_iff_eq] at hnew
        refine .inl ⟨fun i => ?_, List.Subset.refl _, fun i => rfl⟩
        rw [addServer_server server.fresh hnew.1]
        by_cases hi : i = server.id
        · subst hi
          refine .inr ⟨Option.not_isSome_iff_eq_none.1 (by simp [hnew.1]), hnew.2, ?_⟩
          exact congrArg (Option.map Server.desiredGeneration) (if_pos rfl)
        · exact .inl (congrArg (Option.map Server.desiredGeneration) (if_neg hi))
    | edit next =>
      rw [controlStep]
      split
      · rename_i he
        have hsame := server_of_map (fun _ _ hc => congrArg Prod.fst hc) he.2.2
        refine .inl ⟨fun i => .inl ?_, ?_, fun i => ?_⟩
        · have hcolumns := congrArg (Option.map fun g => g.2.1) (hsame i)
          rwa [Option.map_map, Option.map_map] at hcolumns
        · rw [he.1]
          exact List.Subset.refl _
        · rw [Db.latestSnapshot, Db.latestSnapshot, he.1]
      · exact .inl (.refl db)

variable (settings) in
theorem Ledger.publicationStep (h : Ledger db) (op : PublicationOp D) :
    Ledger (AegisVPN.publicationStep settings db op) := by
  cases op with
  | publish serverId pageSize now =>
    rw [AegisVPN.publicationStep]
    rcases publishedSnapshot_cases { settings with pageSize := pageSize } serverId now
      db with hsame | ⟨server, snapshot, _, _, hnext, hadded⟩
    · rw [hsame]
      exact h
    · rw [hadded]
      exact h.addSnapshot hnext
  | other op => exact h.step settings op

end Cases

/-! ## Numbers of generations -/

/-- The desired generation of a server is that of its latest snapshot, of a server that exists, and
each snapshot has pages and its own digest. -/
structure Numbered (settings : ControlSettings D) (db : Db D) : Prop where
  ledger : Ledger db
  stored : ∀ n ∈ db.snapshots, (db.server n.serverId).isSome = true
  desired : ∀ i, (db.server i).map Server.desiredGeneration =
    (db.server i).map fun _ => ((db.latestSnapshot i).map NodeSnapshot.generation).getD 0
  sound : ∀ n ∈ db.snapshots, 1 ≤ n.pageSize ∧ n.digest = settings.digest n.items

/-- Servers keep their places with no lower generation, and every snapshot that was added is newer
than what its server desired. -/
structure Grown (d e : Db D) : Prop where
  server : ∀ i s, d.server i = some s →
    ∃ s', e.server i = some s' ∧ s.desiredGeneration ≤ s'.desiredGeneration
  snapshots : ∀ m ∈ e.snapshots, m ∈ d.snapshots ∨
    ∀ s, d.server m.serverId = some s → s.desiredGeneration < m.generation

theorem Grown.refl (db : Db D) : Grown db db := ⟨fun _ s h => ⟨s, h, le_rfl⟩, fun _ h => .inl h⟩

theorem Grown.trans (h : Grown d₁ d₂) (h' : Grown d₂ d₃) : Grown d₁ d₃ where
  server i s hs := by
    obtain ⟨s₂, hs₂, hle⟩ := h.server i s hs
    obtain ⟨s₃, hs₃, hle'⟩ := h'.server i s₂ hs₂
    exact ⟨s₃, hs₃, hle.trans hle'⟩
  snapshots m hm := by
    rcases h'.snapshots m hm with hm | hnewer
    · exact h.snapshots m hm
    · refine .inr fun s hs => ?_
      obtain ⟨s₂, hs₂, hle⟩ := h.server _ s hs
      exact hle.trans_lt (hnewer s₂ hs₂)

theorem Maintained.grown (h : Maintained d e) : Grown d e where
  server i s hs := by
    rcases h.server i with hsame | ⟨hnone, _⟩
    · rw [hs] at hsame
      obtain ⟨s', hs', hdesired⟩ := Option.map_eq_some_iff.1 hsame
      exact ⟨s', hs', hdesired.ge⟩
    · rw [hs] at hnone
      cases hnone
  snapshots m hm := .inl (h.snapshots hm)

section Numbered
variable [DecidableEq D] {settings : ControlSettings D} {db db' : Db D}

omit [DecidableEq D] in
theorem addSnapshot_latest (hnewer : ∀ l, db.latestSnapshot n.serverId = some l →
    l.generation < n.generation) (i : Nat) : (db.addSnapshot n).latestSnapshot i =
      if i = n.serverId then some n else db.latestSnapshot i := by
  split
  · rename_i hi
    subst hi
    have hmem : n ∈ (db.addSnapshot n).snapshots := List.mem_append_right _ List.mem_cons_self
    obtain ⟨l, hl, hle⟩ := latestSnapshot_ge hmem
    obtain ⟨hl', hid⟩ := latestSnapshot_spec hl
    rcases List.mem_append.1 hl' with hold | hnew
    · obtain ⟨l₀, hl₀, hle₀⟩ := latestSnapshot_ge hold
      rw [hid] at hl₀
      exact absurd (hle.trans hle₀) (Nat.not_le_of_lt (hnewer l₀ hl₀))
    · rw [hl, List.mem_singleton.1 hnew]
  · rename_i hi
    refine latestSnapshot_append rfl fun m hm => ?_
    rw [List.mem_singleton.1 hm]
    exact fun h => hi h.symm

omit [DecidableEq D] in
theorem Numbered.tended (h : Numbered settings db) (ht : Maintained db db') (hl : Ledger db') :
    Numbered settings db' where
  ledger := hl
  stored n hn := by
    have hsome := h.stored n (ht.snapshots hn)
    obtain ⟨s, hs⟩ := Option.isSome_iff_exists.1 hsome
    obtain ⟨s', hs', _⟩ := ht.grown.server _ s hs
    rw [hs']
    rfl
  desired i := by
    rw [ht.latest]
    have hsame := h.desired i
    rcases ht.server i with hkept | ⟨hnone, hfree, hnew⟩
    · cases hs : db.server i with
      | none =>
        rw [hs] at hkept
        rw [Option.map_eq_none_iff.1 hkept]
        rfl
      | some s =>
        rw [hs] at hkept hsame
        obtain ⟨s', hs', hdesired⟩ := Option.map_eq_some_iff.1 hkept
        rw [hs', Option.map_some, Option.map_some, hdesired]
        exact hsame
    · have hlatest : db.latestSnapshot i = none := by
        cases hl : db.latestSnapshot i with
        | none => rfl
        | some l =>
          obtain ⟨hmem, hid⟩ := latestSnapshot_spec hl
          exact absurd hid (hfree l hmem)
      obtain ⟨s', hs', hzero⟩ := Option.map_eq_some_iff.1 hnew
      rw [hlatest, hs', Option.map_some, hzero]
      rfl
  sound n hn := h.sound n (ht.snapshots hn)

theorem Numbered.added {pageSize : Nat} (h : Numbered settings db) (hsize : 1 ≤ pageSize)
    (hserver : db.server server.id = some server)
    (hnext : nextSnapshot { settings with pageSize := pageSize } db server now = some n) :
    Numbered settings (db.addSnapshot n) where
  ledger := h.ledger.addSnapshot hnext
  stored m hm := by
    rw [addSnapshot_server, Option.isSome_map]
    rcases List.mem_append.1 hm with hm | hm
    · exact h.stored m hm
    · rw [List.mem_singleton.1 hm, (nextSnapshot_spec hnext).1, hserver]
      rfl
  desired i := by
    obtain ⟨hid, _, hnewer, _⟩ := nextSnapshot_spec hnext
    rw [← hid] at hnewer
    have hsame := h.desired i
    rw [addSnapshot_latest hnewer, addSnapshot_server]
    cases hs : db.server i with
    | none => rfl
    | some s =>
      have hsid := server_id hs
      rw [hs] at hsame
      rw [Option.map_some, Option.map_some, Option.map_some, hsid]
      by_cases hi : i = n.serverId
      · rw [if_pos hi, if_pos hi]
        rfl
      · rw [if_neg hi, if_neg hi]
        exact hsame
  sound m hm := by
    rcases List.mem_append.1 hm with hm | hm
    · exact h.sound m hm
    · rw [List.mem_singleton.1 hm]
      simp only [nextSnapshot, Option.ite_none_left_eq_some] at hnext
      obtain ⟨_, hn⟩ := hnext
      cases hn
      exact ⟨hsize, rfl⟩

omit [DecidableEq D] in
theorem Numbered.empty (settings : ControlSettings D) : Numbered settings (Db.empty : Db D) where
  ledger := .empty
  stored n hn := by cases hn
  desired i := rfl
  sound n hn := by cases hn

theorem Numbered.step (h : Numbered settings db) (op : PublicationOp D) :
    Numbered settings (publicationStep settings db op) ∧
      Grown db (publicationStep settings db op) := by
  rcases publicationStep_cases settings h.ledger op with ht |
    ⟨pageSize, server, now, n, hsize, hserver, hnext, hadded⟩
  · exact ⟨h.tended ht (h.ledger.publicationStep settings op), ht.grown⟩
  · rw [hadded]
    refine ⟨h.added hsize hserver hnext, fun i s hs => ?_, fun m hm => ?_⟩
    · rw [addSnapshot_server, hs]
      refine ⟨_, rfl, ?_⟩
      dsimp only
      split
      · rename_i hid
        rw [(nextSnapshot_spec hnext).1] at hid
        rw [← server_id hs, hid, hserver] at hs
        cases hs
        exact (nextSnapshot_spec hnext).2.1.le
      · exact le_rfl
    · rcases List.mem_append.1 hm with hm | hm
      · exact .inl hm
      · refine .inr fun s hs => ?_
        rw [List.mem_singleton.1 hm, (nextSnapshot_spec hnext).1, hserver] at hs
        cases hs
        rw [List.mem_singleton.1 hm]
        exact (nextSnapshot_spec hnext).2.1

theorem Numbered.run (h : Numbered settings db) (ops : List (PublicationOp D)) :
    Numbered settings (publicationRun settings db ops) ∧
      Grown db (publicationRun settings db ops) := by
  induction ops generalizing db with
  | nil => exact ⟨h, .refl db⟩
  | cons op ops ih =>
    obtain ⟨hstep, hgrown⟩ := h.step op
    obtain ⟨hrun, hgrown'⟩ := ih hstep
    exact ⟨hrun, hgrown.trans hgrown'⟩

/-! ## What is published -/

/-- A publication of rows that the latest snapshot has already been made of returns that. -/
theorem Numbered.unchanged (h : Numbered settings db) {pageSize : Nat} (hsize : 1 ≤ pageSize)
    (hserver : db.server i = some server) (hlatest : db.latestSnapshot i = some l)
    (hitems : buildDesiredItems settings db server now = l.items)
    (hversion : (if supportsCascade server then 2 else 1) = l.schemaVersion) :
    publishedSnapshot { settings with pageSize := pageSize } i now db = (.ok l, db) := by
  have hdigest := (h.sound l (latestSnapshot_spec hlatest).1).2
  have hitems' : buildDesiredItems { settings with pageSize := pageSize } db server now = l.items :=
    hitems
  have hnext : nextSnapshot { settings with pageSize := pageSize } db server now = none := by
    simp only [nextSnapshot, server_id hserver, hlatest, hitems', hversion, hdigest,
      Option.any_some, decide_true, Bool.and_self, ↓reduceIte]
  simp only [publishedSnapshot, if_neg (Nat.not_lt.2 hsize), hserver, hnext, hlatest]

variable (settings) in
theorem publishedSnapshot_digest (now : Int) {pageSize : Nat} (hsize : 1 ≤ pageSize)
    (hserver : db.server i = some server) : ∃ n,
      (publishedSnapshot { settings with pageSize := pageSize } i now db).1 = .ok n ∧
        n.digest = settings.digest (buildDesiredItems settings db server now) := by
  simp only [publishedSnapshot, if_neg (Nat.not_lt.2 hsize), hserver]
  cases hnext : nextSnapshot { settings with pageSize := pageSize } db server now with
  | some n =>
    refine ⟨n, rfl, ?_⟩
    simp only [nextSnapshot, Option.ite_none_left_eq_some] at hnext
    obtain ⟨_, hn⟩ := hnext
    cases hn
    rfl
  | none =>
    simp only [nextSnapshot, ite_eq_left_iff, reduceCtorEq, imp_false, not_not,
      server_id hserver] at hnext
    obtain ⟨l, hl, hsame⟩ := (Option.any_eq_true _ _).1 hnext
    rw [Bool.and_eq_true] at hsame
    exact ⟨l, by simp only [hl], of_decide_eq_true hsame.1⟩

/-- The database up to the generations of its servers. -/
def Db.withoutGenerations (db : Db D) : Db D :=
  { db with servers := db.servers.map Server.fresh }

omit [DecidableEq D] in
theorem withoutGenerations_server (i : Nat) :
    db.withoutGenerations.server i = (db.server i).map Server.fresh :=
  find?_map_of_id (f := Server.fresh) (fun _ => rfl) i

omit [DecidableEq D] in
theorem Db.Keyed.withoutGenerations (h : db.Keyed) : db.withoutGenerations.Keyed :=
  { h with
    servers := by
      have hids : (db.servers.map Server.fresh).map Server.id = db.servers.map Server.id := by
        rw [List.map_map]
        rfl
      exact hids ▸ h.servers }

variable (settings) in
omit [DecidableEq D] in
theorem items_of_sameRows {d e : Db D} {server : Server D} (hd : d.Keyed) (he : e.Keyed)
    (h : EqualRows d.withoutGenerations e.withoutGenerations) (hserver : d.server i = some server) :
    ∃ server', e.server i = some server' ∧ ∀ now,
      AegisVPN.buildDesiredItems settings d server now =
        AegisVPN.buildDesiredItems settings e server' now := by
  have hsame := h.server he.withoutGenerations i
  rw [withoutGenerations_server, withoutGenerations_server, hserver] at hsame
  obtain ⟨server', hserver', hfresh⟩ := Option.map_eq_some_iff.1 hsame.symm
  refine ⟨server', hserver', fun now => ?_⟩
  have hbuild : ∀ (db : Db D) (server : Server D),
      AegisVPN.buildDesiredItems settings db.withoutGenerations server.fresh now =
        AegisVPN.buildDesiredItems settings db server now := fun db server =>
    buildDesiredItems_generations rfl withoutGenerations_server server 0 0 none now
  rw [← hbuild d, ← hbuild e, hfresh]
  exact EqualRows.buildDesiredItems hd.withoutGenerations he.withoutGenerations h settings _ now

end Numbered

/-- What holds of publications, each with its own page size, in any history: a snapshot that is
published later has a greater generation than all that there were, servers desire their latest
snapshot, pages are the items in order, unchanged items are not published again, and what is
published does not depend on the order of rows. -/
theorem publications_numbered [DecidableEq D] (settings : ControlSettings D)
    (ops : List (PublicationOp D)) :
    (∀ more, ∀ n ∈ (publicationRun settings Db.empty ops).snapshots,
      ∀ m ∈ (publicationRun settings Db.empty (ops ++ more)).snapshots, m.serverId = n.serverId →
        m ∈ (publicationRun settings Db.empty ops).snapshots ∨ n.generation < m.generation) ∧
    (∀ i server, (publicationRun settings Db.empty ops).server i = some server →
      server.desiredGeneration = (((publicationRun settings Db.empty ops).latestSnapshot i).map
        NodeSnapshot.generation).getD 0) ∧
    (∀ n ∈ (publicationRun settings Db.empty ops).snapshots,
      n.pageCount = n.items.length ⌈/⌉ n.pageSize ∧
        (List.range n.pageCount).flatMap n.pageItems = n.items) ∧
    (∀ i server l pageSize now, (publicationRun settings Db.empty ops).server i = some server →
      (publicationRun settings Db.empty ops).latestSnapshot i = some l → 1 ≤ pageSize →
      buildDesiredItems settings (publicationRun settings Db.empty ops) server now = l.items →
      (if supportsCascade server then 2 else 1) = l.schemaVersion →
        publishedSnapshot { settings with pageSize := pageSize } i now
          (publicationRun settings Db.empty ops) =
            (.ok l, publicationRun settings Db.empty ops)) ∧
    (∀ others i server pageSize pageSize' now, 1 ≤ pageSize → 1 ≤ pageSize' →
      (publicationRun settings Db.empty ops).Keyed →
      (publicationRun settings Db.empty others).Keyed →
      EqualRows (publicationRun settings Db.empty ops).withoutGenerations
        (publicationRun settings Db.empty others).withoutGenerations →
      (publicationRun settings Db.empty ops).server i = some server →
        ∃ server' n n', (publicationRun settings Db.empty others).server i = some server' ∧
          buildDesiredItems settings (publicationRun settings Db.empty ops) server now =
            buildDesiredItems settings (publicationRun settings Db.empty others) server' now ∧
          (publishedSnapshot { settings with pageSize := pageSize } i now
            (publicationRun settings Db.empty ops)).1 = .ok n ∧
          (publishedSnapshot { settings with pageSize := pageSize' } i now
            (publicationRun settings Db.empty others)).1 = .ok n' ∧ n.digest = n'.digest) := by
  obtain ⟨hnumbered, _⟩ := (Numbered.empty settings).run ops
  have hdesired : ∀ i server, (publicationRun settings Db.empty ops).server i = some server →
      server.desiredGeneration = (((publicationRun settings Db.empty ops).latestSnapshot i).map
        NodeSnapshot.generation).getD 0 := by
    intro i server hserver
    have hsame := hnumbered.desired i
    rw [hserver] at hsame
    exact Option.some.inj hsame
  refine ⟨?_, hdesired, ?_, ?_, ?_⟩
  · intro more n hn m hm hid
    rw [publicationRun, List.foldl_append] at hm
    rcases (hnumbered.run more).2.snapshots m hm with hold | hnewer
    · exact .inl hold
    · obtain ⟨server, hserver⟩ := Option.isSome_iff_exists.1 (hnumbered.stored n hn)
      obtain ⟨l, hl, hle⟩ := latestSnapshot_ge hn
      have hlt := hnewer server (hid ▸ hserver)
      rw [hdesired _ server hserver, hl] at hlt
      exact .inr (hle.trans_lt hlt)
  · intro n hn
    exact ⟨n.pageCount_eq, NodeSnapshot.flatMap_pageItems (hnumbered.sound n hn).1⟩
  · intro i server l pageSize now hserver hlatest hsize hitems hversion
    exact hnumbered.unchanged hsize hserver hlatest hitems hversion
  · intro others i server pageSize pageSize' now hsize hsize' hkeyed hkeyed' hrows hserver
    obtain ⟨server', hserver', hitems⟩ :=
      items_of_sameRows settings hkeyed hkeyed' hrows hserver
    obtain ⟨n, hn, hdigest⟩ := publishedSnapshot_digest settings now hsize hserver
    obtain ⟨n', hn', hdigest'⟩ := publishedSnapshot_digest settings now hsize' hserver'
    exact ⟨server', n, n', hserver', hitems now, hn, hn', by rw [hdigest, hdigest', hitems]⟩

/-! ## Two clients on one server -/

def soldSubscription (id : Nat) : Subscription :=
  ⟨id, id, "token", none, "uuid", 30, 0, 1000, true⟩

/-- The rows of two clients, in some order. -/
def soldDb (subs : List Subscription) : Db (List DesiredItem) :=
  { (Db.empty : Db (List DesiredItem)) with
    users := [⟨1, 1, false, false, none⟩, ⟨2, 2, false, false, some 3⟩]
    subscriptions := subs
    links := [⟨1, 1, false⟩, ⟨2, 1, false⟩]
    servers := [ackedServer.fresh] }

/-- Three items on two pages. -/
def soldOnce (subs : List Subscription) : List (PublicationOp (List DesiredItem)) :=
  [.other (.addServer ackedServer), .other (.edit (soldDb subs)), .publish 1 2 0]

def soldItems : List DesiredItem :=
  buildDesiredItems listSettings (soldDb [soldSubscription 1, soldSubscription 2])
    ackedServer.fresh 0
def soldServer : Server (List DesiredItem) := { ackedServer.fresh with desiredGeneration := 1 }

/-- The same clients in another order are not published again. -/
theorem publications_numbered_sold :
    publishedSnapshot { listSettings with pageSize := 7 } 1 0 (publicationRun listSettings Db.empty
        (soldOnce [soldSubscription 1, soldSubscription 2])) =
      (.ok ⟨1, 1, 1, soldItems, 2, soldItems⟩, publicationRun listSettings Db.empty
        (soldOnce [soldSubscription 1, soldSubscription 2])) ∧
    ∃ n, (publishedSnapshot { listSettings with pageSize := 7 } 1 0 (publicationRun listSettings
      Db.empty (soldOnce [soldSubscription 2, soldSubscription 1]))).1 = .ok n ∧
        n.digest = soldItems := by
  obtain ⟨-, -, -, hunchanged, hsame⟩ := publications_numbered listSettings
    (soldOnce [soldSubscription 1, soldSubscription 2])
  have hserver : (publicationRun listSettings Db.empty
      (soldOnce [soldSubscription 1, soldSubscription 2])).server 1 = some soldServer := by
    decide
  have hreturned := hunchanged 1 soldServer ⟨1, 1, 1, soldItems, 2, soldItems⟩ 7 0 hserver
    (by decide) (by decide) (by decide) (by decide)
  refine ⟨hreturned, ?_⟩
  obtain ⟨_, n, n', _, _, hn, hn', hdigest⟩ := hsame
    (soldOnce [soldSubscription 2, soldSubscription 1]) 1 soldServer 7 7 0 (by decide) (by decide)
    ⟨by decide, by decide, by decide, by decide, by decide,
      by decide⟩
    ⟨by decide, by decide, by decide, by decide, by decide,
      by decide⟩
    ⟨fun _ => Iff.rfl, fun _ => (List.Perm.swap _ _ _).mem_iff, fun _ => Iff.rfl, fun _ => Iff.rfl,
      fun _ => Iff.rfl, fun _ => Iff.rfl, fun _ => Iff.rfl⟩ hserver
  rw [hreturned] at hn
  cases hn
  exact ⟨n', hn', hdigest.symm⟩

end AegisVPN
