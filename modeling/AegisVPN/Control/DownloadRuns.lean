import AegisVPN.Control.PullLoop
import AegisVPN.Control.Publications

namespace AegisVPN
open Library
set_option autoImplicit true

/-! # Downloads while the control plane goes on -/

/-- Each endpoint that is asked is unreachable, answers with a server error, or gives this answer,
and one of them gives it. -/
structure Served (maxBytes : Nat) (r : RawControlResponse β)
    (answers : List (Option (RawControlResponse β))) : Prop where
  mem : some r ∈ answers
  other : ∀ a ∈ answers, a = none ∨ a = some r ∨ ∃ f, a = some f ∧ f.bytes ≤ maxBytes ∧
    500 ≤ f.status

/-- A snapshot as publications write it. -/
structure NodeSnapshot.Sealed (settings : ControlSettings D) (n : NodeSnapshot D) : Prop where
  digest : n.digest = settings.digest n.items
  schemaVersion : n.schemaVersion = 1 ∨ n.schemaVersion = 2
  generation : 1 ≤ n.generation
  pageSize : 1 ≤ n.pageSize

/-- The snapshot is stored, and its node has acknowledged nothing so new that it may be pruned. -/
structure Kept (n : NodeSnapshot D) (db : Db D) : Prop where
  mem : n ∈ db.snapshots
  server : ∃ server, db.server n.serverId = some server ∧
    server.appliedGeneration ≤ n.generation + 2

/-- The node acknowledges no generation from which on this snapshot may be pruned. -/
def Spares (serverId generation : Nat) (op : ControlOp D) : Prop :=
  ∀ request, op = .acknowledge serverId request → request.generation ≤ generation + 2

/-- A page passes the checks of the client, and so do those before it and this one together. -/
structure PageFits (settings : ControlSettings D) (wire : Wire D) (canonical : Canonical D)
    (limits : ControlLimits) (n : NodeSnapshot D) (i : Nat) : Prop where
  valid : ∀ item ∈ n.pageItems i, item.valid = true
  bytes : wire.page (n.page settings i) ≤ limits.maxPageBytes
  uuids : (n.collected canonical (i + 1)).seenClientUuids.Nodup
  maxBytes : (n.collected canonical (i + 1)).totalBytes ≤ limits.maxSnapshotBytes

/-- Its items are within their ranges and have distinct UUIDs, and it is within the limits of the
client. -/
structure Fits (settings : ControlSettings D) (wire : Wire D) (canonical : Canonical D)
    (limits : ControlLimits) (n : NodeSnapshot D) : Prop where
  valid : ∀ item ∈ n.items, item.valid = true
  uuids : (n.items.filterMap DesiredItem.clientUuid?).Nodup
  maxPages : n.pageCount ≤ limits.maxPages
  maxItems : n.items.length ≤ limits.maxItems
  manifestBytes : wire.manifest n.manifest ≤ limits.maxPageBytes
  pageBytes : ∀ i < n.pageCount, wire.page (n.page settings i) ≤ limits.maxPageBytes
  maxBytes : ((List.range n.pageCount).map fun i => canonical.bytes (n.pageItems i)).sum ≤
    limits.maxSnapshotBytes

/-! ## What is stored -/

section Runs
variable [DecidableEq D] (settings : ControlSettings D)

/-- The control plane when the page with an index is asked for. -/
def meanwhile (db : Db D) (ops : Nat → List (ControlOp D)) : Nat → Db D
  | 0 => controlRun settings db (ops 0)
  | i + 1 => controlRun settings (meanwhile db ops i) (ops (i + 1))

variable {settings} {db : Db D} {n : NodeSnapshot D}

theorem nextSnapshot_sealed (hsize : 1 ≤ settings.pageSize)
    (h : nextSnapshot settings db server now = some n) : n.Sealed settings := by
  simp only [nextSnapshot, Option.ite_none_left_eq_some] at h
  obtain ⟨-, h⟩ := h
  cases h
  refine ⟨rfl, ?_, Nat.succ_pos _, hsize⟩
  split
  · exact .inr rfl
  · exact .inl rfl

theorem sealed_step (hsize : 1 ≤ settings.pageSize) (h : ∀ n ∈ db.snapshots, n.Sealed settings)
    (op : ControlOp D) : ∀ n ∈ (controlStep settings db op).snapshots, n.Sealed settings := by
  intro n hn
  rcases snapshots_step settings db op with hsame |
    ⟨server, snapshot, now, -, hnext, hadd⟩ | ⟨hsub, -⟩
  · rw [hsame] at hn
    exact h n hn
  · rw [hadd] at hn
    rcases List.mem_append.1 hn with hold | hnew
    · exact h n hold
    · obtain rfl := List.mem_singleton.1 hnew
      exact nextSnapshot_sealed hsize hnext
  · exact h n (hsub hn)

theorem sealed_run (hsize : 1 ≤ settings.pageSize) (ops : List (ControlOp D))
    (h : ∀ n ∈ db.snapshots, n.Sealed settings) :
    ∀ n ∈ (controlRun settings db ops).snapshots, n.Sealed settings := by
  induction ops generalizing db with
  | nil => exact h
  | cons op ops ih => exact ih (sealed_step hsize h op)

theorem Kept.step (h : Kept n db) {op : ControlOp D} (hop : Spares n.serverId n.generation op) :
    Kept n (controlStep settings db op) where
  mem := by
    cases op with
    | publish serverId now =>
      rw [controlStep]
      rcases transact_publishNow settings serverId now with hsame | ⟨_, snapshot, -, -, hadd⟩
      · rw [hsame]
        exact h.mem
      · rw [hadd]
        exact List.mem_append_left _ h.mem
    | acknowledge serverId request =>
      rw [controlStep]
      rcases acknowledgeSnapshot_cases serverId request db with hsame |
        ⟨_, _, -, -, -, -, -, hwrite⟩
      · rw [hsame]
        exact h.mem
      · rw [hwrite]
        exact writeAck_keeps h.mem fun hid => hop request (hid ▸ rfl)
    | prune serverId generation =>
      rw [controlStep]
      split
      · rename_i hle
        refine prune_keeps h.mem fun hid => hle.trans ?_
        obtain ⟨server, hserver, happlied⟩ := h.server
        rw [Db.acknowledged, ← hid, hserver]
        exact happlied
      · exact h.mem
    | addServer server =>
      rw [controlStep]
      split
      · exact h.mem
      · exact h.mem
    | edit next =>
      rw [controlStep]
      split
      · rename_i he
        rw [he.1]
        exact h.mem
      · exact h.mem
  server := by
    obtain ⟨server, hserver, happlied⟩ := h.server
    obtain ⟨server', hserver', hcases⟩ := applied_cases settings hserver op
    refine ⟨server', hserver', ?_⟩
    rcases hcases with hsame | ⟨request, hack, -, hnew⟩
    · exact hsame ▸ happlied
    · exact hnew ▸ hop request hack

theorem Kept.run (h : Kept n db) {ops : List (ControlOp D)}
    (hops : ∀ op ∈ ops, Spares n.serverId n.generation op) :
    Kept n (controlRun settings db ops) := by
  induction ops generalizing db with
  | nil => exact h
  | cons op ops ih =>
    exact ih (h.step (hops op List.mem_cons_self)) fun op' hop' =>
      hops op' (List.mem_cons_of_mem _ hop')

theorem Kept.meanwhile (h : Kept n db) (hledger : Ledger db) {ops : Nat → List (ControlOp D)}
    (hops : ∀ i, ∀ op ∈ ops i, Spares n.serverId n.generation op) (i : Nat) :
    Kept n (meanwhile settings db ops i) ∧ Ledger (AegisVPN.meanwhile settings db ops i) := by
  induction i with
  | zero => exact ⟨h.run (hops 0), hledger.run settings (ops 0)⟩
  | succ i ih => exact ⟨ih.1.run (hops (i + 1)), ih.2.run settings (ops (i + 1))⟩

/-! ## What the request for the manifest leaves -/

omit [DecidableEq D] in
theorem setFeatures_edited (serverId : Nat) (features : List String) (db : Db D) :
    db.Edited (setFeatures serverId features db) := by
  refine ⟨rfl, fun a ha => ha, ?_⟩
  rw [setFeatures, List.map_map]
  refine List.map_congr_left fun s _ => ?_
  rw [Function.comp_apply]
  split <;> rfl

theorem publishNow_run (h : publishNow settings serverId now db = (.ok u, db')) :
    db' = controlRun settings db [.publish serverId now] := by
  change db' = transact (publishNow settings serverId now) db
  rw [transact, h]

theorem syncNode_run {request : NodeSyncRequest D}
    (h : syncNode settings serverId request now db = (.manifest m, db')) :
    ∃ ops, db' = controlRun settings db ops := by
  unfold syncNode at h
  split at h
  · cases h
  · rename_i server hserver
    split at h
    · split at h
      · rename_i htransaction
        obtain ⟨-, rfl⟩ := Prod.mk.inj h
        rw [syncTransactionOf] at htransaction
        split at htransaction
        · split at htransaction
          · exact ⟨_, publishNow_run htransaction⟩
          · cases htransaction
            exact ⟨[], rfl⟩
        · refine ⟨[.edit (setFeatures serverId (sortedSet request.capabilities) db),
            .publish serverId now], ?_⟩
          rw [publishNow_run htransaction]
          change _ = controlRun settings (controlStep settings db (.edit _)) [.publish serverId now]
          rw [controlStep, if_pos (setFeatures_edited serverId _ db)]
      · cases h
    · cases h

theorem syncNode_kept {request : NodeSyncRequest D}
    (h : syncNode settings serverId request now db = (.manifest m, db'))
    (hledger : Ledger db') : ∃ n, db'.latestSnapshot serverId = some n ∧ m = n.manifest ∧
      n.serverId = serverId ∧ Kept n db' := by
  obtain ⟨n, hserving, hanswer⟩ := syncNode_serves h (.inr ⟨m, rfl⟩)
  obtain ⟨hmem, hid⟩ := latestSnapshot_spec hserving.latest
  refine ⟨n, hserving.latest, ?_, hid, hmem, ?_⟩
  · rw [answerSync, hserving.latest] at hanswer
    dsimp only at hanswer
    split at hanswer
    · exact NodeResponse.manifest.inj hanswer
    · cases hanswer
  · obtain ⟨server, hserver, -⟩ := hserving.server
    refine ⟨server, hid ▸ hserver, ?_⟩
    by_cases hzero : server.appliedGeneration = 0
    · exact hzero ▸ Nat.zero_le _
    · obtain ⟨n', hn', hid', hg, -⟩ := hledger.applied serverId server hserver hzero
      rw [← hg]
      exact (le_latestSnapshot hserving.latest hn' hid').trans (Nat.le_add_right _ 2)

end Runs

/-! ## What the client makes of the answers -/

theorem requestWithFailover_served {r : RawControlResponse β} (h : Served maxBytes r answers) :
    requestWithFailover maxBytes answers = .ok x ↔
      x = r ∧ r.bytes ≤ maxBytes ∧ r.status < 500 := by
  obtain ⟨hmem, hother⟩ := h
  constructor
  · intro h
    clear hmem
    induction answers with
    | nil => cases h
    | cons a rest ih =>
      have hrest := ih fun b hb => hother b (List.mem_cons_of_mem _ hb)
      cases a with
      | none => exact hrest h
      | some f =>
        rw [requestWithFailover] at h
        split at h
        · cases h
        · rename_i hbytes
          split at h
          · exact hrest h
          · rename_i hstatus
            cases h
            rcases hother _ List.mem_cons_self with hnone | hsame | ⟨f', hf, -, hfailed⟩
            · cases hnone
            · cases hsame
              exact ⟨rfl, Nat.le_of_not_gt hbytes, Nat.lt_of_not_ge hstatus⟩
            · cases hf
              exact absurd hfailed hstatus
  · rintro ⟨rfl, hle, hlt⟩
    induction answers with
    | nil => cases hmem
    | cons a rest ih =>
      have hrest : some x ∈ rest → requestWithFailover maxBytes rest = .ok x := fun hin =>
        ih hin fun b hb => hother b (List.mem_cons_of_mem _ hb)
      cases a with
      | none => exact hrest (List.mem_of_ne_of_mem (by simp) hmem)
      | some f =>
        rcases hother _ List.mem_cons_self with hnone | hsame | ⟨f', hf, hbytes, hfailed⟩
        · cases hnone
        · cases hsame
          rw [requestWithFailover, if_neg (Nat.not_lt.2 hle), if_neg (Nat.not_le.2 hlt)]
        · cases hf
          rw [requestWithFailover, if_neg (Nat.not_lt.2 hbytes), if_pos hfailed]
          refine hrest (List.mem_of_ne_of_mem ?_ hmem)
          rintro ⟨⟩
          exact absurd hfailed (Nat.not_le.2 hlt)

section Client
variable [DecidableEq D] {canonical : Canonical D} {limits : ControlLimits}
  {settings : ControlSettings D} {wire : Wire D} {n : NodeSnapshot D} {db : Db D}

omit [DecidableEq D] in
theorem NodeSnapshot.collected_succ (n : NodeSnapshot D) (canonical : Canonical D) (k : Nat) :
    n.collected canonical (k + 1) =
      ⟨(n.collected canonical k).items ++ n.pageItems k,
        (n.collected canonical k).totalBytes + canonical.bytes (n.pageItems k),
        (n.collected canonical k).seenClientUuids ++
          (n.pageItems k).filterMap DesiredItem.clientUuid?⟩ := by
  simp only [collected, List.range_succ, List.flatMap_append, List.flatMap_singleton,
    List.map_append, List.map_singleton, List.sum_append, List.sum_singleton,
    List.filterMap_append]

theorem fetchPage_fits (hstored : db.snapshot serverId n.generation = some n)
    (hk : k < n.pageCount) (hserved : Served limits.maxPageBytes
      (wire.pageAnswer (getSnapshotPage settings serverId n.generation k db)) answers)
    (hnodup : (n.collected canonical k).seenClientUuids.Nodup)
    (h : fetchPage canonical limits n.manifest answers (n.collected canonical k) k = .ok acc) :
    PageFits settings wire canonical limits n k ∧ acc = n.collected canonical (k + 1) := by
  simp only [fetchPage, except_bind_ok, require_ok, Except.ok.injEq] at h
  obtain ⟨response, hresponse, _, hstatus, page, hpage, _, -, _, -, seen, hseen, _, hbytes, rfl⟩ :=
    h
  obtain ⟨rfl, hle, -⟩ := (requestWithFailover_served hserved).1 hresponse
  simp only [getSnapshotPage, hstored, if_pos hk] at hstatus hpage hle
  split at hstatus
  · rename_i hvalid
    rw [if_pos hvalid] at hpage hle
    obtain ⟨-, version, hbody⟩ := parseBody_spec hpage
    cases hbody
    obtain ⟨rfl, hdistinct⟩ := addClientUuids_seen ⟨rfl, hnodup⟩ hseen
    have hsame : (⟨(n.collected canonical k).items ++ n.pageItems k,
        (n.collected canonical k).totalBytes + canonical.bytes (n.pageItems k),
        ((n.collected canonical k).items ++ n.pageItems k).filterMap DesiredItem.clientUuid?⟩ :
          PageLoop) = n.collected canonical (k + 1) := by
      rw [n.collected_succ, List.filterMap_append]
      rfl
    refine ⟨⟨List.all_eq_true.1 hvalid, hle, ?_, ?_⟩, hsame⟩
    · rw [← hsame]
      exact hdistinct
    · rw [← hsame]
      exact hbytes
  · cases hstatus

theorem fetchPages_fit {dbs : Nat → Db D}
    {pageAnswers : Nat → List (Option (RawControlResponse (SnapshotPage D)))}
    (hstored : ∀ i, (dbs i).snapshot serverId n.generation = some n)
    (hserved : ∀ i < n.pageCount, Served limits.maxPageBytes
      (wire.pageAnswer (getSnapshotPage settings serverId n.generation i (dbs i))) (pageAnswers i))
    (hk : k ≤ n.pageCount) (h : (List.range k).foldlM (fun acc i =>
      fetchPage canonical limits n.manifest (pageAnswers i) acc i) ⟨[], 0, []⟩ = .ok acc) :
    (∀ i < k, PageFits settings wire canonical limits n i) ∧ acc = n.collected canonical k := by
  induction k generalizing acc with
  | zero =>
    cases h
    exact ⟨fun i hi => absurd hi (Nat.not_lt_zero i), rfl⟩
  | succ k ih =>
    rw [List.range_succ, List.foldlM_append, except_bind_ok] at h
    obtain ⟨acc₁, h₁, h⟩ := h
    rw [List.foldlM_cons, except_bind_ok] at h
    obtain ⟨acc₂, h₂, h⟩ := h
    cases h
    obtain ⟨hfits, rfl⟩ := ih (Nat.le_of_succ_le hk) h₁
    have hnodup : (n.collected canonical k).seenClientUuids.Nodup := by
      cases k with
      | zero => exact List.nodup_nil
      | succ j => exact (hfits j (Nat.lt_succ_self j)).uuids
    obtain ⟨hpage, rfl⟩ := fetchPage_fits (hstored k) hk (hserved k hk) hnodup h₂
    refine ⟨fun i hi => ?_, rfl⟩
    rcases Nat.lt_succ_iff_lt_or_eq.1 hi with hlt | rfl
    · exact hfits i hlt
    · exact hpage

omit [DecidableEq D] in
/-- What fits is downloadable, since both sides compute the same digests. -/
theorem Fits.downloadable (h : Fits settings wire canonical limits n) (hsealed : n.Sealed settings)
    (hcanonical : canonical.digest = settings.digest) :
    Downloadable settings wire canonical limits n where
  schemaVersion := hsealed.schemaVersion
  generation := hsealed.generation
  pageSize := hsealed.pageSize
  valid := h.valid
  uuids := h.uuids
  digest := by rw [hcanonical, hsealed.digest]
  pageDigest i _ := by rw [hcanonical]
  maxPages := h.maxPages
  maxItems := h.maxItems
  manifestBytes := h.manifestBytes
  pageBytes := h.pageBytes
  maxBytes := h.maxBytes

theorem Downloadable.pages_served {dbs : Nat → Db D}
    {pageAnswers : Nat → List (Option (RawControlResponse (SnapshotPage D)))}
    (h : Downloadable settings wire canonical limits n)
    (hstored : ∀ i, (dbs i).snapshot serverId n.generation = some n)
    (hserved : ∀ i < n.pageCount, Served limits.maxPageBytes
      (wire.pageAnswer (getSnapshotPage settings serverId n.generation i (dbs i))) (pageAnswers i))
    (hk : k ≤ n.pageCount) : (List.range k).foldlM (fun acc i =>
      fetchPage canonical limits n.manifest (pageAnswers i) acc i) ⟨[], 0, []⟩ =
        .ok (n.collected canonical k) := by
  induction k with
  | zero => rfl
  | succ k ih =>
    rw [List.range_succ, List.foldlM_append, except_bind_ok]
    refine ⟨_, ih (Nat.le_of_succ_le hk), ?_⟩
    rw [List.foldlM_cons, except_bind_ok]
    refine ⟨_, ?_, rfl⟩
    have hpage := h.page_fetched (hstored k) hk
    have hanswer := h.page_served (hstored k) hk
    have hrequest : requestWithFailover limits.maxPageBytes (pageAnswers k) =
        requestWithFailover limits.maxPageBytes [some (wire.pageAnswer
          (getSnapshotPage settings serverId n.generation k (dbs k)))] := by
      rw [(requestWithFailover_served (hserved k hk)).2 ⟨rfl, ?_, ?_⟩, hanswer]
      · exact (requestWithFailover_ok (h.pageBytes k hk) rfl []).symm
      · rw [hanswer]
        exact h.pageBytes k hk
      · rw [hanswer]
        exact show 200 < 500 by decide
    rw [fetchPage, hrequest]
    exact hpage

omit [DecidableEq D] in
theorem fits_of_pages (hsize : 1 ≤ n.pageSize) (hmaxPages : n.pageCount ≤ limits.maxPages)
    (hmaxItems : n.items.length ≤ limits.maxItems)
    (hmanifest : wire.manifest n.manifest ≤ limits.maxPageBytes)
    (hpages : ∀ i < n.pageCount, PageFits settings wire canonical limits n i) :
    Fits settings wire canonical limits n := by
  have hitems := NodeSnapshot.flatMap_pageItems hsize
  have hlast : (n.collected canonical n.pageCount).seenClientUuids.Nodup ∧
      (n.collected canonical n.pageCount).totalBytes ≤ limits.maxSnapshotBytes := by
    cases hcount : n.pageCount with
    | zero => exact ⟨List.nodup_nil, Nat.zero_le _⟩
    | succ k =>
      have hpage := hpages k (by omega)
      exact ⟨hpage.uuids, hpage.maxBytes⟩
  refine ⟨fun item hitem => ?_, ?_, hmaxPages, hmaxItems, hmanifest,
    fun i hi => (hpages i hi).bytes, hlast.2⟩
  · rw [← hitems, List.mem_flatMap] at hitem
    obtain ⟨i, hi, hitem⟩ := hitem
    exact (hpages i (List.mem_range.1 hi)).valid item hitem
  · have hseen := hlast.1
    rw [NodeSnapshot.collected, hitems] at hseen
    exact hseen

/-- The client returns the snapshot as it was published if it fits, and otherwise none. -/
theorem syncSnapshot_served {dbs : Nat → Db D}
    {answers : List (Option (RawControlResponse (SnapshotManifest D)))}
    {pageAnswers : Nat → List (Option (RawControlResponse (SnapshotPage D)))}
    (hsealed : n.Sealed settings) (hcanonical : canonical.digest = settings.digest)
    (hanswers : Served limits.maxPageBytes (wire.syncAnswer (.manifest n.manifest)) answers)
    (hstored : ∀ i, (dbs i).snapshot serverId n.generation = some n)
    (hserved : ∀ i < n.pageCount, Served limits.maxPageBytes
      (wire.pageAnswer (getSnapshotPage settings serverId n.generation i (dbs i))) (pageAnswers i))
    (s : DesiredSnapshot D) :
    syncSnapshot canonical limits answers pageAnswers = .ok (some s) ↔
      Fits settings wire canonical limits n ∧
        s = ⟨n.schemaVersion, n.generation, n.digest, n.items⟩ := by
  have hall : (n.collected canonical n.manifest.pageCount).items = n.items :=
    NodeSnapshot.flatMap_pageItems hsealed.pageSize
  have hstatus : (wire.syncAnswer (.manifest n.manifest)).status ≠ 204 := show 200 ≠ 204 by decide
  constructor
  · intro h
    simp only [syncSnapshot, except_bind_ok] at h
    obtain ⟨response, hresponse, h⟩ := h
    obtain ⟨rfl, hbytes, -⟩ := (requestWithFailover_served hanswers).1 hresponse
    rw [if_neg hstatus] at h
    simp only [except_bind_ok, require_ok, Except.ok.injEq, Option.some.injEq] at h
    obtain ⟨_, -, manifest, hbody, snapshot, hfetched, rfl⟩ := h
    obtain ⟨-, _, hmanifest⟩ := parseBody_spec hbody
    cases hmanifest
    simp only [fetchSnapshot, except_bind_ok, require_ok, Except.ok.injEq] at hfetched
    obtain ⟨_, hmaxPages, _, hmaxItems, _, -, acc, hloop, _, -, _, -, rfl⟩ := hfetched
    obtain ⟨hpages, rfl⟩ := fetchPages_fit hstored hserved le_rfl hloop
    refine ⟨fits_of_pages hsealed.pageSize hmaxPages hmaxItems hbytes hpages, ?_⟩
    exact congrArg (DesiredSnapshot.mk n.schemaVersion n.generation n.digest) hall
  · rintro ⟨hfits, rfl⟩
    have hdown := hfits.downloadable hsealed hcanonical
    have hvalid : n.manifest.valid = true := by
      rw [SnapshotManifest.valid, Bool.and_eq_true]
      exact ⟨decide_eq_true hsealed.generation, decide_eq_true hsealed.pageSize⟩
    have hfetched : fetchSnapshot canonical limits n.manifest pageAnswers =
        .ok ⟨n.schemaVersion, n.generation, n.digest, n.items⟩ := by
      simp only [fetchSnapshot, except_bind_ok, require_ok]
      refine ⟨(), hfits.maxPages, (), hfits.maxItems, (),
        NodeSnapshot.pageCount_expected hsealed.pageSize, _,
        hdown.pages_served hstored hserved le_rfl, (), congrArg List.length hall, (), ?_, ?_⟩
      · rw [hall]
        exact hdown.digest
      · rw [hall]
        rfl
    simp only [syncSnapshot, except_bind_ok]
    refine ⟨_, (requestWithFailover_served hanswers).2 ⟨rfl, hfits.manifestBytes,
      show 200 < 500 by decide⟩, ?_⟩
    rw [if_neg hstatus]
    simp only [except_bind_ok, require_ok]
    exact ⟨(), rfl, _, parseBody_ok hsealed.schemaVersion hvalid _, _, hfetched, rfl⟩

end Client

/-- A node that downloads the snapshot of a manifest gets it as it was published exactly if it
fits, whatever the control plane does between the requests, as long as the node itself acknowledges
nothing more than two generations newer. -/
theorem download_exact [DecidableEq D] (settings : ControlSettings D) (canonical : Canonical D)
    (limits : ControlLimits) (wire : Wire D) (hsize : 1 ≤ settings.pageSize)
    (hcanonical : canonical.digest = settings.digest) (before : List (ControlOp D))
    (serverId : Nat) (request : NodeSyncRequest D) (now : Int) (m : SnapshotManifest D) (db : Db D)
    (hsync : syncNode settings serverId request now (controlRun settings Db.empty before) =
      (.manifest m, db)) (ops : Nat → List (ControlOp D))
    (hops : ∀ i, ∀ op ∈ ops i, Spares serverId m.generation op)
    (answers : List (Option (RawControlResponse (SnapshotManifest D))))
    (hanswers : Served limits.maxPageBytes (wire.syncAnswer (.manifest m)) answers)
    (pageAnswers : Nat → List (Option (RawControlResponse (SnapshotPage D))))
    (hpages : ∀ i < m.pageCount, Served limits.maxPageBytes (wire.pageAnswer
      (getSnapshotPage settings serverId m.generation i (meanwhile settings db ops i)))
      (pageAnswers i)) :
    ∃ n, db.latestSnapshot serverId = some n ∧ m = n.manifest ∧
      ∀ s, syncSnapshot canonical limits answers pageAnswers = .ok (some s) ↔
        Fits settings wire canonical limits n ∧
          s = ⟨n.schemaVersion, n.generation, n.digest, n.items⟩ := by
  obtain ⟨more, rfl⟩ := syncNode_run hsync
  have hledger : Ledger (controlRun settings (controlRun settings Db.empty before) more) :=
    (Ledger.empty.run settings before).run settings more
  obtain ⟨n, hlatest, rfl, rfl, hkept⟩ := syncNode_kept hsync hledger
  have hsealed : n.Sealed settings := by
    refine sealed_run hsize more (sealed_run hsize before ?_) n hkept.mem
    intro n' hn'
    cases hn'
  refine ⟨n, hlatest, rfl, fun s => ?_⟩
  refine syncSnapshot_served hsealed hcanonical hanswers (fun i => ?_) hpages s
  obtain ⟨hkept, hledger⟩ := hkept.meanwhile hledger hops i
  exact hledger.snapshot_eq hkept.mem rfl rfl

/-! ## A download of three pages -/

def onePerPage : ControlSettings (List DesiredItem) := { listSettings with pageSize := 1 }

def plainServer : Server (List DesiredItem) := { ackedServer.fresh with features := some [] }

/-- Two clients, and a limit for one of them. -/
def pagedClients : Db (List DesiredItem) :=
  { soldDb [soldSubscription 1, { soldSubscription 2 with clientUuid := "uuid2" }] with
    servers := [plainServer] }

def pagedItems : List DesiredItem := buildDesiredItems onePerPage pagedClients plainServer 0

def pagedSnapshot : NodeSnapshot (List DesiredItem) :=
  ⟨1, 1, 1, pagedItems, 1, pagedItems⟩

def pagedPublished : Db (List DesiredItem) :=
  controlRun onePerPage Db.empty [.addServer plainServer, .edit pagedClients, .publish 1 0]

/-- After the first page a client is gone, and the next generation is published. -/
def clientGone (i : Nat) : List (ControlOp (List DesiredItem)) :=
  if i = 1 then
    [.edit { pagedPublished with subscriptions := [soldSubscription 1] }, .publish 1 0]
  else []

/-- The first endpoint is down. -/
def secondServes (r : RawControlResponse β) : List (Option (RawControlResponse β)) :=
  [some ⟨503, 0, .notJson⟩, some r]

theorem served_second (r : RawControlResponse β) : Served maxBytes r (secondServes r) := by
  refine ⟨List.mem_cons_of_mem _ List.mem_cons_self, fun a ha => ?_⟩
  rcases List.mem_cons.1 ha with rfl | ha
  · exact .inr (.inr ⟨_, rfl, Nat.zero_le _, show 500 ≤ 503 by decide⟩)
  · exact .inr (.inl (List.mem_singleton.1 ha))

theorem download_exact_published :
    (meanwhile onePerPage pagedPublished clientGone 2).snapshots.map
      NodeSnapshot.generation = [1, 2] ∧
    syncSnapshot itemsCanonical roomyLimits
      (secondServes (noBytes.syncAnswer (.manifest pagedSnapshot.manifest)))
      (fun i => secondServes (noBytes.pageAnswer (getSnapshotPage onePerPage 1 1 i
        (meanwhile onePerPage pagedPublished clientGone i)))) =
      .ok (some ⟨1, 1, pagedItems, pagedItems⟩) := by
  have hserving : Serving 1 [] pagedPublished pagedSnapshot :=
    ⟨⟨{ plainServer with desiredGeneration := 1 }, by decide, by decide,
      by decide⟩, by decide⟩
  have hsync : syncNode onePerPage 1 ⟨0, none, []⟩ 0 pagedPublished =
      (.manifest pagedSnapshot.manifest, pagedPublished) := by
    rw [syncNode_serving hserving, answerSync, hserving.latest]
    rfl
  have hspared : ∀ i, ∀ op ∈ clientGone i, Spares 1 1 op := by
    intro i op hop request hack
    rw [hack, clientGone] at hop
    split at hop
    · simp at hop
    · cases hop
  obtain ⟨n, hlatest, -, hexact⟩ := download_exact onePerPage itemsCanonical roomyLimits noBytes
    (by decide) rfl _ 1 ⟨0, none, []⟩ 0 pagedSnapshot.manifest _ hsync clientGone hspared _
    (served_second _) _ fun _ _ => served_second _
  rw [hserving.latest] at hlatest
  cases hlatest
  refine ⟨by decide, (hexact _).2 ⟨⟨?_, ?_, ?_, ?_, ?_, ?_, ?_⟩, rfl⟩⟩
  all_goals decide

end AegisVPN
