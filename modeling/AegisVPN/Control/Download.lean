import Mathlib.Algebra.Order.BigOperators.Group.List
import AegisVPN.Library.Pages
import AegisVPN.Agent.SnapshotSound
import AegisVPN.Control.NodeApi

namespace AegisVPN
open Library
set_option autoImplicit true

/-! ## Pages of a snapshot -/

section Pages
variable {n : NodeSnapshot D}

theorem NodeSnapshot.pageCount_eq (n : NodeSnapshot D) :
    n.pageCount = n.items.length ⌈/⌉ n.pageSize := by
  rw [pageCount, Nat.ceilDiv_eq_add_pred_div]

theorem NodeSnapshot.flatMap_pageItems (hsize : 1 ≤ n.pageSize) :
    (List.range n.pageCount).flatMap n.pageItems = n.items := by
  rw [pageCount_eq]
  exact flatMap_pageOf_ceilDiv hsize

theorem NodeSnapshot.pageCount_expected (hsize : 1 ≤ n.pageSize) :
    n.pageCount = expectedPages n.manifest := by
  rw [expectedPages]
  split
  · rename_i hzero
    have hnone : n.items.length = 0 := hzero
    rw [pageCount, hnone]
    exact Nat.div_eq_of_lt (by omega)
  · rfl

end Pages

/-! ## What the endpoints answer to the client -/

/-- The lengths of the bodies of responses. -/
structure Wire (D : Type) where
  manifest : SnapshotManifest D → Nat
  page : SnapshotPage D → Nat

def Wire.syncAnswer (wire : Wire D) : NodeResponse D → RawControlResponse (SnapshotManifest D)
  | .manifest m => ⟨200, wire.manifest m, .json (some m.schemaVersion) (some m)⟩
  | .noChange => ⟨204, 0, .notJson⟩
  | .inactiveNode => ⟨401, 0, .notJson⟩
  | _ => ⟨500, 0, .notJson⟩

def Wire.pageAnswer (wire : Wire D) : NodeResponse D → RawControlResponse (SnapshotPage D)
  | .page p => ⟨200, wire.page p, .json (some p.schemaVersion) (some p)⟩
  | .pageNotFound => ⟨404, 0, .notJson⟩
  | _ => ⟨500, 0, .notJson⟩

def ackAnswer : Except AckError AckStatus → RawControlResponse Unit
  | .ok _ => ⟨200, 0, .notJson⟩
  | .error .snapshotNotFound => ⟨404, 0, .notJson⟩
  | .error .digestMismatch => ⟨409, 0, .notJson⟩

section Poll
variable [DecidableEq D] (settings : ControlSettings D) (wire : Wire D) (serverId : Nat)

/-- The answers of an iteration after that to its synchronisation. -/
def servedPoll (clock : IterationClock) (response : NodeResponse D) (db : Db D) : Poll D where
  clock := clock
  answers := [some (wire.syncAnswer response)]
  pageAnswers i := match response with
    | .manifest m => [some (wire.pageAnswer (getSnapshotPage settings serverId m.generation i db))]
    | _ => []
  ackAnswers := match response with
    | .manifest m => [some (ackAnswer
        (acknowledgeSnapshot serverId ⟨m.generation, m.digest, true⟩ db).1)]
    | _ => []
  telemetryAnswers := [some ⟨200, 0, .notJson⟩]

/-- The client takes the snapshot: it is within all limits, its items are valid and their UUIDs
distinct, and the client computes the same digests. -/
structure Downloadable (canonical : Canonical D) (limits : ControlLimits) (n : NodeSnapshot D) :
    Prop where
  schemaVersion : n.schemaVersion = 1 ∨ n.schemaVersion = 2
  generation : 1 ≤ n.generation
  pageSize : 1 ≤ n.pageSize
  valid : ∀ item ∈ n.items, item.valid = true
  uuids : (n.items.filterMap DesiredItem.clientUuid?).Nodup
  digest : canonical.digest n.items = n.digest
  pageDigest : ∀ i < n.pageCount, canonical.digest (n.pageItems i) = settings.digest (n.pageItems i)
  maxPages : n.pageCount ≤ limits.maxPages
  maxItems : n.items.length ≤ limits.maxItems
  manifestBytes : wire.manifest n.manifest ≤ limits.maxPageBytes
  pageBytes : ∀ i < n.pageCount, wire.page (n.page settings i) ≤ limits.maxPageBytes
  maxBytes : ((List.range n.pageCount).map fun i => canonical.bytes (n.pageItems i)).sum ≤
    limits.maxSnapshotBytes

end Poll

/-! ## The download of a published snapshot -/

theorem addClientUuids_distinct {seen : List String} {items : List DesiredItem}
    (h : (seen ++ items.filterMap DesiredItem.clientUuid?).Nodup) :
    items.foldlM addClientUuid seen = .ok (seen ++ items.filterMap DesiredItem.clientUuid?) := by
  induction items generalizing seen with
  | nil =>
    rw [List.filterMap_nil, List.append_nil]
    rfl
  | cons item items ih =>
    rw [List.foldlM_cons, except_bind_ok]
    cases hu : item.clientUuid? with
    | none =>
      rw [List.filterMap_cons_none hu] at h ⊢
      refine ⟨seen, ?_, ih h⟩
      rw [addClientUuid, hu]
    | some uuid =>
      rw [List.filterMap_cons_some hu] at h ⊢
      have hmem : uuid ∉ seen := fun hin =>
        List.disjoint_of_nodup_append h hin List.mem_cons_self
      refine ⟨seen ++ [uuid], ?_, ?_⟩
      · rw [addClientUuid, hu]
        exact if_neg hmem
      · have hassoc : seen ++ uuid :: items.filterMap DesiredItem.clientUuid? =
            (seen ++ [uuid]) ++ items.filterMap DesiredItem.clientUuid? := List.append_cons _ _ _
        rw [hassoc] at h ⊢
        exact ih h

section Downloaded
variable [DecidableEq D] {canonical : Canonical D} {limits : ControlLimits}
  {settings : ControlSettings D} {wire : Wire D} {n : NodeSnapshot D} {db : Db D}

theorem parseBody_ok {version : Nat} {model : β} {valid : β → Bool}
    (hversion : version = 1 ∨ version = 2) (hvalid : valid model = true) (what : String) :
    parseBody what valid (.json (some version) (some model)) = .ok model := by
  have hsome : some version = some 1 ∨ some version = some 2 := by
    rcases hversion with rfl | rfl
    · exact .inl rfl
    · exact .inr rfl
  simp only [parseBody, if_pos hsome, hvalid, ↓reduceIte]

theorem requestWithFailover_ok {r : RawControlResponse β} (hbytes : r.bytes ≤ maxBytes)
    (hstatus : r.status = 200) (rest : List (Option (RawControlResponse β))) :
    requestWithFailover maxBytes (some r :: rest) = .ok r := by
  rw [requestWithFailover, if_neg (Nat.not_lt.2 hbytes), if_neg (by omega)]

omit [DecidableEq D] in
theorem Downloadable.items_valid (h : Downloadable settings wire canonical limits n) (i : Nat) :
    ∀ item ∈ n.pageItems i, item.valid = true := by
  intro item hitem
  exact h.valid item (List.mem_of_mem_drop (List.mem_of_mem_take hitem))

omit [DecidableEq D] in
theorem Downloadable.page_served (h : Downloadable settings wire canonical limits n)
    (hn : db.snapshot serverId n.generation = some n) (hi : i < n.pageCount) :
    getSnapshotPage settings serverId n.generation i db = .page (n.page settings i) := by
  have hall : (n.pageItems i).all schemaAccepts = true := List.all_eq_true.2 (h.items_valid i)
  simp only [getSnapshotPage, hn, if_pos hi, hall, ↓reduceIte]

/-- What the loop over the pages has collected from the first pages of a snapshot. -/
def NodeSnapshot.collected (n : NodeSnapshot D) (canonical : Canonical D) (k : Nat) : PageLoop where
  items := (List.range k).flatMap n.pageItems
  totalBytes := ((List.range k).map fun i => canonical.bytes (n.pageItems i)).sum
  seenClientUuids := ((List.range k).flatMap n.pageItems).filterMap DesiredItem.clientUuid?

omit [DecidableEq D] in
theorem Downloadable.collected_nodup (h : Downloadable settings wire canonical limits n) (k : Nat) :
    (n.collected canonical k).seenClientUuids.Nodup := by
  have htake : (List.range k).flatMap n.pageItems = n.items.take (k * n.pageSize) :=
    flatMap_pageOf n.pageSize n.items k
  rw [NodeSnapshot.collected, htake]
  exact h.uuids.sublist ((List.take_sublist _ _).filterMap _)

theorem Downloadable.page_fetched (h : Downloadable settings wire canonical limits n)
    (hn : db.snapshot serverId n.generation = some n) (hk : k < n.pageCount) :
    fetchPage canonical limits n.manifest
      [some (wire.pageAnswer (getSnapshotPage settings serverId n.generation k db))]
      (n.collected canonical k) k = .ok (n.collected canonical (k + 1)) := by
  have hvalid : (n.page settings k).valid = true := by
    rw [SnapshotPage.valid, Bool.and_eq_true]
    exact ⟨decide_eq_true h.generation, List.all_eq_true.2 (h.items_valid k)⟩
  have hitems : (List.range (k + 1)).flatMap n.pageItems =
      (List.range k).flatMap n.pageItems ++ n.pageItems k := by
    rw [List.range_succ, List.flatMap_append, List.flatMap_singleton]
  have hbytes : ((List.range (k + 1)).map fun i => canonical.bytes (n.pageItems i)).sum =
      ((List.range k).map fun i => canonical.bytes (n.pageItems i)).sum +
        canonical.bytes (n.pageItems k) := by
    rw [List.range_succ, List.map_append, List.sum_append]
    rfl
  have hnodup : ((n.collected canonical k).seenClientUuids ++
      (n.pageItems k).filterMap DesiredItem.clientUuid?).Nodup := by
    have hnext := h.collected_nodup (k + 1)
    rwa [NodeSnapshot.collected, hitems, List.filterMap_append] at hnext
  have hlimit : (n.collected canonical k).totalBytes + canonical.bytes (n.pageItems k) ≤
      limits.maxSnapshotBytes := by
    refine le_trans ?_ h.maxBytes
    rw [NodeSnapshot.collected, ← hbytes]
    exact List.Sublist.sum_le_sum ((List.range_sublist.2 hk).map _) fun _ _ => Nat.zero_le _
  simp only [fetchPage, h.page_served hn hk, Wire.pageAnswer, except_bind_ok, require_ok]
  refine ⟨_, requestWithFailover_ok (h.pageBytes k hk) rfl [], (), rfl, _,
    parseBody_ok h.schemaVersion hvalid _, (), ⟨rfl, rfl, rfl⟩, (), h.pageDigest k hk, _,
    addClientUuids_distinct hnodup, (), hlimit, ?_⟩
  simp only [NodeSnapshot.collected, hitems, hbytes, List.filterMap_append]
  rfl

theorem Downloadable.pages_fetched (h : Downloadable settings wire canonical limits n)
    (hn : db.snapshot serverId n.generation = some n) (hk : k ≤ n.pageCount) :
    (List.range k).foldlM (fun acc i => fetchPage canonical limits n.manifest
      [some (wire.pageAnswer (getSnapshotPage settings serverId n.generation i db))] acc i)
      ⟨[], 0, []⟩ = .ok (n.collected canonical k) := by
  induction k with
  | zero => rfl
  | succ k ih =>
    rw [List.range_succ, List.foldlM_append, except_bind_ok]
    refine ⟨_, ih (Nat.le_of_succ_le hk), ?_⟩
    rw [List.foldlM_cons, except_bind_ok]
    exact ⟨_, h.page_fetched hn hk, rfl⟩

/-- The client takes a downloadable snapshot as it was published. -/
theorem Downloadable.downloaded (h : Downloadable settings wire canonical limits n)
    (hn : db.snapshot serverId n.generation = some n) (clock : IterationClock) :
    syncSnapshot canonical limits
      (servedPoll settings wire serverId clock (.manifest n.manifest) db).answers
      (servedPoll settings wire serverId clock (.manifest n.manifest) db).pageAnswers =
        .ok (some ⟨n.schemaVersion, n.generation, n.digest, n.items⟩) := by
  have hvalid : n.manifest.valid = true := by
    rw [SnapshotManifest.valid, Bool.and_eq_true]
    exact ⟨decide_eq_true h.generation, decide_eq_true h.pageSize⟩
  have hall : (n.collected canonical n.manifest.pageCount).items = n.items :=
    NodeSnapshot.flatMap_pageItems h.pageSize
  have hstatus : (wire.syncAnswer (.manifest n.manifest)).status ≠ 204 :=
    show 200 ≠ 204 by decide
  have hfetched : fetchSnapshot canonical limits n.manifest
      (servedPoll settings wire serverId clock (.manifest n.manifest) db).pageAnswers =
        .ok ⟨n.schemaVersion, n.generation, n.digest, n.items⟩ := by
    simp only [fetchSnapshot, except_bind_ok, require_ok]
    refine ⟨(), h.maxPages, (), h.maxItems, (), NodeSnapshot.pageCount_expected h.pageSize, _,
      h.pages_fetched hn le_rfl, (), congrArg List.length hall, (), ?_, ?_⟩
    · rw [hall]
      exact h.digest
    · rw [hall]
      rfl
  simp only [syncSnapshot, except_bind_ok]
  refine ⟨_, requestWithFailover_ok h.manifestBytes rfl [], ?_⟩
  rw [if_neg hstatus]
  simp only [except_bind_ok, require_ok]
  exact ⟨(), rfl, _, parseBody_ok h.schemaVersion hvalid _, _, hfetched, rfl⟩

end Downloaded

end AegisVPN
