import Mathlib.Algebra.Order.Floor.Div
import AegisVPN.Agent.Generations

namespace AegisVPN
open Library
set_option autoImplicit true

/-- Some endpoint has answered a request with 200, within the byte limit and with this model. -/
def Received (maxBytes : Nat) (answers : List (Option (RawControlResponse β))) (model : β) :
    Prop :=
  ∃ r, some r ∈ answers ∧ r.status = 200 ∧ r.bytes ≤ maxBytes ∧
    ∃ version, r.body = .json version (some model)

/-- A page is the one asked for, and its digest is its own. -/
structure PageOf (canonical : Canonical D) (manifest : SnapshotManifest D) (pageIndex : Nat)
    (page : SnapshotPage D) : Prop where
  schemaVersion : page.schemaVersion = manifest.schemaVersion
  generation : page.generation = manifest.generation
  pageIndex : page.pageIndex = pageIndex
  pageDigest : canonical.digest page.items = page.pageDigest

/-- The snapshot is what a manifest and all its pages say, and within the limits. -/
structure Verified (canonical : Canonical D) (limits : ControlLimits)
    (answers : List (Option (RawControlResponse (SnapshotManifest D))))
    (pageAnswers : Nat → List (Option (RawControlResponse (SnapshotPage D))))
    (snapshot : DesiredSnapshot D) (manifest : SnapshotManifest D)
    (pages : List (SnapshotPage D)) : Prop where
  manifest_received : Received limits.maxPageBytes answers manifest
  schemaVersion : snapshot.schemaVersion = manifest.schemaVersion
  generation : snapshot.generation = manifest.generation
  digest : snapshot.digest = manifest.digest
  pageCount : pages.length = manifest.pageCount
  ceiling : manifest.pageCount = manifest.itemCount ⌈/⌉ manifest.pageSize
  page : ∀ i page, pages[i]? = some page →
    Received limits.maxPageBytes (pageAnswers i) page ∧ PageOf canonical manifest i page
  items : snapshot.items = pages.flatMap SnapshotPage.items
  itemCount : snapshot.items.length = manifest.itemCount
  items_digest : canonical.digest snapshot.items = snapshot.digest
  uuids : (snapshot.items.filterMap DesiredItem.clientUuid?).Nodup
  maxPages : manifest.pageCount ≤ limits.maxPages
  maxItems : manifest.itemCount ≤ limits.maxItems
  maxBytes : (pages.map fun p => canonical.bytes p.items).sum ≤ limits.maxSnapshotBytes

theorem requestWithFailover_spec {answers : List (Option (RawControlResponse β))}
    (h : requestWithFailover maxBytes answers = .ok r) : some r ∈ answers ∧ r.bytes ≤ maxBytes := by
  induction answers with
  | nil => cases h
  | cons answer rest ih =>
    cases answer with
    | none =>
      obtain ⟨hmem, hbytes⟩ := ih h
      exact ⟨List.mem_cons_of_mem _ hmem, hbytes⟩
    | some r' =>
      rw [requestWithFailover] at h
      split at h
      · cases h
      · rename_i hbytes
        split at h
        · obtain ⟨hmem, hle⟩ := ih h
          exact ⟨List.mem_cons_of_mem _ hmem, hle⟩
        · cases h
          exact ⟨List.mem_cons_self, Nat.le_of_not_gt hbytes⟩

theorem parseBody_spec {body : Body β} (h : parseBody what valid body = .ok m) :
    valid m = true ∧ ∃ version, body = .json version (some m) := by
  unfold parseBody at h
  split at h
  · cases h
  · rename_i version model
    split at h
    · split at h
      · rename_i m'
        split at h
        · rename_i hvalid
          cases h
          exact ⟨hvalid, version, rfl⟩
        · cases h
      · cases h
    · cases h

theorem received_of {answers : List (Option (RawControlResponse β))} {r : RawControlResponse β}
    (h : requestWithFailover maxBytes answers = .ok r) (hstatus : r.status = 200)
    (hbody : parseBody what valid r.body = .ok m) : Received maxBytes answers m := by
  obtain ⟨hmem, hbytes⟩ := requestWithFailover_spec h
  exact ⟨r, hmem, hstatus, hbytes, (parseBody_spec hbody).2⟩

section Download
variable [DecidableEq D] {canonical : Canonical D} {limits : ControlLimits}
  {manifest : SnapshotManifest D}

theorem fetchPage_spec {acc acc' : PageLoop}
    (h : fetchPage canonical limits manifest answers acc i = .ok acc') :
    ∃ page, Received limits.maxPageBytes answers page ∧ PageOf canonical manifest i page ∧
      acc'.items = acc.items ++ page.items ∧
      acc'.totalBytes = acc.totalBytes + canonical.bytes page.items ∧
      acc'.totalBytes ≤ limits.maxSnapshotBytes := by
  simp only [fetchPage, except_bind_ok, require_ok, Except.ok.injEq] at h
  obtain ⟨response, hresponse, _, hstatus, page, hpage, _, ⟨hversion, hgeneration, hindex⟩, _,
    hdigest, seen, _, _, hbytes, rfl⟩ := h
  exact ⟨page, received_of hresponse hstatus hpage, ⟨hversion, hgeneration, hindex, hdigest⟩,
    rfl, rfl, hbytes⟩

/-- The loop over the pages has taken every page below its index, in order. -/
theorem fetchPages_spec {pageAnswers : Nat → List (Option (RawControlResponse (SnapshotPage D)))}
    {acc : PageLoop} (h : (List.range n).foldlM (fun acc i =>
      fetchPage canonical limits manifest (pageAnswers i) acc i) ⟨[], 0, []⟩ = .ok acc) :
    ∃ pages : List (SnapshotPage D), pages.length = n ∧
      (∀ i page, pages[i]? = some page →
        Received limits.maxPageBytes (pageAnswers i) page ∧ PageOf canonical manifest i page) ∧
      acc.items = pages.flatMap SnapshotPage.items ∧
      acc.totalBytes = (pages.map fun p => canonical.bytes p.items).sum ∧
      acc.totalBytes ≤ limits.maxSnapshotBytes := by
  induction n generalizing acc with
  | zero =>
    cases h
    exact ⟨[], rfl, fun i page hpage => (by cases hpage), rfl, rfl, Nat.zero_le _⟩
  | succ n ih =>
    rw [List.range_succ, List.foldlM_append, except_bind_ok] at h
    obtain ⟨acc₁, h₁, h⟩ := h
    rw [List.foldlM_cons, except_bind_ok] at h
    obtain ⟨acc₂, h₂, h⟩ := h
    cases h
    obtain ⟨pages, hlength, hpages, hitems, hbytes, _⟩ := ih h₁
    obtain ⟨page, hreceived, hpage, hitems', hbytes', hlimit⟩ := fetchPage_spec h₂
    refine ⟨pages ++ [page], by simp [hlength], fun i p hp => ?_, ?_, ?_, hlimit⟩
    · by_cases hi : i < pages.length
      · rw [List.getElem?_append_left hi] at hp
        exact hpages i p hp
      · rw [List.getElem?_append_right (Nat.le_of_not_lt hi), List.getElem?_singleton] at hp
        split at hp
        · rename_i hlast
          cases hp
          obtain rfl : n = i := by omega
          exact ⟨hreceived, hpage⟩
        · cases hp
    · rw [hitems', hitems, List.flatMap_append, List.flatMap_singleton]
    · rw [hbytes', hbytes, List.map_append, List.sum_append]
      rfl

theorem fetchSnapshot_spec
    {pageAnswers : Nat → List (Option (RawControlResponse (SnapshotPage D)))}
    {answers : List (Option (RawControlResponse (SnapshotManifest D)))}
    (hreceived : Received limits.maxPageBytes answers manifest)
    (hvalid : manifest.valid = true)
    (h : fetchSnapshot canonical limits manifest pageAnswers = .ok snapshot) :
    ∃ pages, Verified canonical limits answers pageAnswers snapshot manifest pages := by
  have huuids := fetchSnapshot_nodup canonical limits h
  simp only [fetchSnapshot, except_bind_ok, require_ok, Except.ok.injEq] at h
  obtain ⟨_, hmaxPages, _, hmaxItems, _, hexpected, acc, hloop, _, hcount, _, hdigest, rfl⟩ := h
  obtain ⟨pages, hlength, hpages, hitems, hbytes, hlimit⟩ := fetchPages_spec hloop
  refine ⟨pages, hreceived, rfl, rfl, rfl, hlength, ?_, hpages, hitems, hcount, hdigest, huuids,
    hmaxPages, hmaxItems, hbytes ▸ hlimit⟩
  rw [hexpected, expectedPages, Nat.ceilDiv_eq_add_pred_div]
  split
  · rename_i hzero
    have hsize : 1 ≤ manifest.pageSize := by
      rw [SnapshotManifest.valid, Bool.and_eq_true] at hvalid
      exact of_decide_eq_true hvalid.2
    exact (Nat.div_eq_of_lt (by omega)).symm
  · rfl

/-- A snapshot that is returned is what a manifest and all its pages say, verified and within the
limits, and nothing is returned only for a 204. -/
theorem synced_snapshot_verified (canonical : Canonical D) (limits : ControlLimits)
    (answers : List (Option (RawControlResponse (SnapshotManifest D))))
    (pageAnswers : Nat → List (Option (RawControlResponse (SnapshotPage D)))) :
    (∀ snapshot, syncSnapshot canonical limits answers pageAnswers = .ok (some snapshot) →
      ∃ manifest pages,
        Verified canonical limits answers pageAnswers snapshot manifest pages) ∧
    (syncSnapshot canonical limits answers pageAnswers = .ok none →
      ∃ r, some r ∈ answers ∧ r.status = 204) := by
  constructor
  · intro snapshot h
    simp only [syncSnapshot, except_bind_ok] at h
    obtain ⟨response, hresponse, h⟩ := h
    split at h
    · cases h
    · simp only [except_bind_ok, require_ok, Except.ok.injEq, Option.some.injEq] at h
      obtain ⟨_, hstatus, manifest, hmanifest, snapshot', hs, rfl⟩ := h
      exact ⟨manifest, fetchSnapshot_spec (received_of hresponse hstatus hmanifest)
        (parseBody_spec hmanifest).1 hs⟩
  · intro h
    simp only [syncSnapshot, except_bind_ok] at h
    obtain ⟨response, hresponse, h⟩ := h
    split at h
    · rename_i hstatus
      exact ⟨response, (requestWithFailover_spec hresponse).1, hstatus⟩
    · simp only [except_bind_ok, require_ok, Except.ok.injEq, reduceCtorEq, and_false,
        exists_false] at h

/-- Two pages of one item each. -/
def pagedPoll : Poll (List DesiredItem) :=
  { pollServing ⟨1, 7, oneClient ++ [.connLimit ⟨1, 3⟩], oneClient ++ [.connLimit ⟨1, 3⟩]⟩ with
    answers := [none, some ⟨503, 0, .notJson⟩, some ⟨200, 0, .json (some 1) (some ⟨1, 7,
      oneClient ++ [.connLimit ⟨1, 3⟩], 2, 2, 1⟩)⟩]
    pageAnswers := fun i => if i = 0
      then [some ⟨200, 0, .json (some 1) (some ⟨1, 7, 0, oneClient, oneClient⟩)⟩]
      else [some ⟨200, 0, .json (some 1) (some ⟨1, 7, i, [.connLimit ⟨1, 3⟩],
        [.connLimit ⟨1, 3⟩]⟩)⟩] }

/-- The third endpoint that is asked has the snapshot. -/
theorem synced_snapshot_verified_pages : ∃ manifest pages,
    Verified itemsCanonical roomyLimits pagedPoll.answers pagedPoll.pageAnswers
      ⟨1, 7, oneClient ++ [.connLimit ⟨1, 3⟩], oneClient ++ [.connLimit ⟨1, 3⟩]⟩ manifest pages :=
  (synced_snapshot_verified itemsCanonical roomyLimits pagedPoll.answers
    pagedPoll.pageAnswers).1 _ (by decide)

end Download

end AegisVPN
