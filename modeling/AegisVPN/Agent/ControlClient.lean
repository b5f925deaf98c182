import Mathlib.Data.List.Nodup
import AegisVPN.Agent.ControlModels

namespace AegisVPN
set_option autoImplicit true

inductive ControlError
  | protocol (text : String)
  | request (text : String)
  deriving DecidableEq

/-- A response body: not JSON at all, or JSON with its version field and what the model class
makes of the rest. -/
inductive Body (β : Type)
  | notJson
  | json (schemaVersion : Option Nat) (model : Option β)

structure RawControlResponse (β : Type) where
  status : Nat
  bytes : Nat
  body : Body β

structure ControlLimits where
  maxPageBytes : Nat
  maxSnapshotBytes : Nat
  maxPages : Nat
  maxItems : Nat

/-- Raise unless the condition holds. -/
def require (p : Prop) [Decidable p] (e : ε) : Except ε Unit := if p then .ok () else .error e

/-- One answer for each control URL in the order they are tried; `none` is a transport error. -/
def requestWithFailover (maxBytes : Nat) :
    List (Option (RawControlResponse β)) → Except ControlError (RawControlResponse β)
  | [] => .error (.request "all control endpoints are unavailable")
  | none :: rest => requestWithFailover maxBytes rest
  | some r :: rest =>
    if r.bytes > maxBytes then .error (.protocol "control response exceeds byte limit")
    else if r.status ≥ 500 then requestWithFailover maxBytes rest
    else .ok r

def parseBody (what : String) (valid : β → Bool) : Body β → Except ControlError β
  | .notJson => .error (.protocol "control response is not valid JSON")
  | .json version model =>
    if version = some 1 ∨ version = some 2 then
      match model with
      | some m => if valid m then .ok m else .error (.protocol what)
      | none => .error (.protocol what)
    else .error (.protocol "unsupported schema version")

def DesiredItem.valid : DesiredItem → Bool
  | .client _ => true
  | .connLimit _ => true
  | .cascadeService s => 1 ≤ s.routeId && 1 ≤ s.revision && s.configDigest.length == 64
  | .cascadeRoute r => 1 ≤ r.routeId && 1 ≤ r.revision && r.configDigest.length == 64 &&
      r.inboundTags ≠ [] && r.strayTags.isEmpty && r.exits ≠ [] &&
      r.exits.all fun e => 0 ≤ e.position && 1 ≤ e.port && e.port ≤ 65535

def SnapshotManifest.valid (m : SnapshotManifest D) : Bool := 1 ≤ m.generation && 1 ≤ m.pageSize

def SnapshotPage.valid (p : SnapshotPage D) : Bool :=
  1 ≤ p.generation && p.items.all DesiredItem.valid

/-- The digest of the canonical JSON of a list of items, and the length of that JSON. -/
structure Canonical (D : Type) where
  digest : List DesiredItem → D
  bytes : List DesiredItem → Nat

def expectedPages (m : SnapshotManifest D) : Nat :=
  if m.itemCount = 0 then 0 else (m.itemCount + m.pageSize - 1) / m.pageSize

structure PageLoop where
  items : List DesiredItem
  totalBytes : Nat
  seenClientUuids : List String

def addClientUuid (seen : List String) (item : DesiredItem) : Except ControlError (List String) :=
  match item.clientUuid? with
  | some uuid =>
    if uuid ∈ seen then .error (.protocol "duplicate client UUID") else .ok (seen ++ [uuid])
  | none => .ok seen

variable [DecidableEq D] (canonical : Canonical D) (limits : ControlLimits)

def fetchPage (manifest : SnapshotManifest D)
    (answers : List (Option (RawControlResponse (SnapshotPage D)))) (acc : PageLoop)
    (pageIndex : Nat) : Except ControlError PageLoop := do
  let response ← requestWithFailover limits.maxPageBytes answers
  require (response.status = 200)
    (.request s!"snapshot page rejected with status {response.status}")
  let page ← parseBody "invalid snapshot page" SnapshotPage.valid response.body
  require (page.schemaVersion = manifest.schemaVersion ∧ page.generation = manifest.generation ∧
    page.pageIndex = pageIndex) (.protocol "snapshot page identity mismatch")
  require (canonical.digest page.items = page.pageDigest)
    (.protocol "snapshot page digest mismatch")
  let seen ← page.items.foldlM addClientUuid acc.seenClientUuids
  let totalBytes := acc.totalBytes + canonical.bytes page.items
  require (totalBytes ≤ limits.maxSnapshotBytes) (.protocol "snapshot exceeds byte limit")
  .ok ⟨acc.items ++ page.items, totalBytes, seen⟩

/-- The manifest is checked against its pages, never against the state the node has applied. -/
def fetchSnapshot (manifest : SnapshotManifest D)
    (pageAnswers : Nat → List (Option (RawControlResponse (SnapshotPage D)))) :
    Except ControlError (DesiredSnapshot D) := do
  require (manifest.pageCount ≤ limits.maxPages) (.protocol "snapshot page count exceeds limit")
  require (manifest.itemCount ≤ limits.maxItems) (.protocol "snapshot item count exceeds limit")
  require (manifest.pageCount = expectedPages manifest)
    (.protocol "snapshot pagination is inconsistent")
  let pages ← (List.range manifest.pageCount).foldlM
    (fun acc i => fetchPage canonical limits manifest (pageAnswers i) acc i) ⟨[], 0, []⟩
  require (pages.items.length = manifest.itemCount) (.protocol "snapshot item count mismatch")
  require (canonical.digest pages.items = manifest.digest) (.protocol "snapshot digest mismatch")
  .ok ⟨manifest.schemaVersion, manifest.generation, manifest.digest, pages.items⟩

/-- One poll: `none` when the server reports no change. -/
def syncSnapshot (answers : List (Option (RawControlResponse (SnapshotManifest D))))
    (pageAnswers : Nat → List (Option (RawControlResponse (SnapshotPage D)))) :
    Except ControlError (Option (DesiredSnapshot D)) := do
  let response ← requestWithFailover limits.maxPageBytes answers
  if response.status = 204 then .ok none
  else do
    require (response.status = 200)
      (.request s!"control sync rejected with status {response.status}")
    let manifest ← parseBody "invalid snapshot manifest" SnapshotManifest.valid response.body
    let snapshot ← fetchSnapshot canonical limits manifest pageAnswers
    .ok (some snapshot)

/-! ## What an accepted snapshot guarantees -/

theorem except_bind_ok {x : Except ε α} {f : α → Except ε β} :
    (x >>= f) = .ok b ↔ ∃ a, x = .ok a ∧ f a = .ok b := by
  cases x with
  | error e => simp [bind, Except.bind]
  | ok a => simp [bind, Except.bind]

theorem require_ok [Decidable p] {e : ε} : require p e = .ok u ↔ p := by
  by_cases hp : p <;> simp [require, hp]

theorem foldlM_except_invariant {f : γ → δ → Except ε γ} (I : γ → Prop)
    (hf : ∀ c x c', I c → f c x = .ok c' → I c') {xs : List δ} {c c' : γ} (hc : I c)
    (h : xs.foldlM f c = .ok c') : I c' := by
  induction xs generalizing c with
  | nil =>
    cases h
    exact hc
  | cons x xs ih =>
    rw [List.foldlM_cons, except_bind_ok] at h
    obtain ⟨c₁, h₁, h₂⟩ := h
    exact ih (hf c x c₁ hc h₁) h₂

/-- The UUIDs seen so far are those of the items so far, without repetition. -/
def SeenExactly (seen : List String) (items : List DesiredItem) : Prop :=
  seen = items.filterMap DesiredItem.clientUuid? ∧ seen.Nodup

theorem addClientUuid_seen (h : SeenExactly seen items)
    (ha : addClientUuid seen item = .ok seen') : SeenExactly seen' (items ++ [item]) := by
  obtain ⟨rfl, hn⟩ := h
  simp only [addClientUuid] at ha
  cases hu : item.clientUuid? with
  | none =>
    simp only [hu, Except.ok.injEq] at ha
    subst ha
    exact ⟨by simp [hu], hn⟩
  | some uuid =>
    simp only [hu] at ha
    split at ha
    · cases ha
    · rename_i hmem
      cases ha
      refine ⟨by simp [hu], ?_⟩
      rw [← List.concat_eq_append]
      exact hn.concat hmem

theorem addClientUuids_seen (h : SeenExactly seen items)
    (hf : xs.foldlM addClientUuid seen = .ok seen') : SeenExactly seen' (items ++ xs) := by
  induction xs generalizing seen items with
  | nil =>
    cases hf
    simpa using h
  | cons x xs ih =>
    rw [List.foldlM_cons, except_bind_ok] at hf
    obtain ⟨seen₁, h₁, h₂⟩ := hf
    simpa using ih (addClientUuid_seen h h₁) h₂

theorem fetchPage_seen (h : SeenExactly acc.seenClientUuids acc.items)
    (hf : fetchPage canonical limits manifest answers acc i = .ok acc') :
    SeenExactly acc'.seenClientUuids acc'.items := by
  simp only [fetchPage, except_bind_ok, require_ok, Except.ok.injEq] at hf
  obtain ⟨response, _, _, _, page, _, _, _, _, _, seen, hseen, _, _, rfl⟩ := hf
  exact addClientUuids_seen h hseen

theorem fetchSnapshot_nodup
    (h : fetchSnapshot canonical limits manifest pageAnswers = .ok snapshot) :
    (snapshot.items.filterMap DesiredItem.clientUuid?).Nodup := by
  simp only [fetchSnapshot, except_bind_ok, require_ok, Except.ok.injEq] at h
  obtain ⟨_, _, _, _, _, _, pages, hpages, _, _, _, _, rfl⟩ := h
  have hseen := foldlM_except_invariant
    (fun acc : PageLoop => SeenExactly acc.seenClientUuids acc.items)
    (fun acc i acc' hacc hf => fetchPage_seen canonical limits hacc hf)
    (c := ⟨[], 0, []⟩) ⟨rfl, List.nodup_nil⟩ hpages
  exact hseen.1 ▸ hseen.2

theorem syncSnapshot_nodup
    (h : syncSnapshot canonical limits answers pageAnswers = .ok (some snapshot)) :
    (snapshot.items.filterMap DesiredItem.clientUuid?).Nodup := by
  simp only [syncSnapshot, except_bind_ok] at h
  obtain ⟨response, _, h⟩ := h
  split at h
  · cases h
  · simp only [except_bind_ok, require_ok, Except.ok.injEq, Option.some.injEq] at h
    obtain ⟨_, _, manifest, _, snapshot', hs, rfl⟩ := h
    exact fetchSnapshot_nodup canonical limits hs

end AegisVPN
