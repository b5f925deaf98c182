import AegisVPN.Agent.ControlClient
import AegisVPN.Bot.Models

namespace AegisVPN
set_option autoImplicit true

/-! ## Credentials of nodes -/

/-- The columns of a server that its node is authenticated by. -/
structure NodeCredentials where
  serverId : Nat
  controlMode : NodeMode
  certFingerprint : Option String
  tokenHash : Option String
  previousCertFingerprint : Option String
  previousTokenHash : Option String
  previousExpiresAt : Option Int
  deriving DecidableEq

structure NodeHeaders where
  proxySecret : String
  fingerprint : String
  authorization : String

inductive AuthError
  | notConfigured
  | invalidCredentials
  | notAscii
  deriving DecidableEq

def normalizeFingerprint (value : String) : String :=
  String.ofList ((value.toList.map Char.toLower).filter fun c =>
    "0123456789abcdef".toList.contains c)

/-- The text before the first blank, and the text after it. -/
def partition (text : String) : String × String :=
  let before := text.toList.takeWhile fun c => c != ' '
  (String.ofList before, String.ofList ((text.toList.drop before.length).drop 1))

def lowerAscii (text : String) : String := String.ofList (text.toList.map Char.toLower)

def NodeHeaders.scheme (headers : NodeHeaders) : String := (partition headers.authorization).1

def NodeHeaders.token (headers : NodeHeaders) : String := (partition headers.authorization).2

def NodeHeaders.certFingerprint (headers : NodeHeaders) : String :=
  normalizeFingerprint headers.fingerprint

/-- Texts that are not ASCII are not compared. -/
def compareDigest (a b : String) : Except AuthError Bool :=
  if a.toList.all (fun c => decide (c.toNat < 128)) &&
      b.toList.all (fun c => decide (c.toNat < 128)) then .ok (a == b)
  else .error .notAscii

/-- Both halves of a pair, unless one of them is missing. -/
def pairMatches (fingerprint tokenHash : Option String) (givenFingerprint givenHash : String) :
    Except AuthError Bool :=
  match fingerprint.filter (fun f => f != ""), tokenHash.filter fun h => h != "" with
  | some f, some h => do
    let same ← compareDigest f givenFingerprint
    if same then compareDigest h givenHash else .ok false
  | _, _ => .ok false

section Match
variable (fingerprint tokenHash : String) (now : Int)

def currentPair (row : NodeCredentials) : Except AuthError Bool :=
  pairMatches row.certFingerprint row.tokenHash fingerprint tokenHash

def previousPair (row : NodeCredentials) : Except AuthError Bool :=
  if row.previousExpiresAt.any fun e => decide (now ≤ e) then
    pairMatches row.previousCertFingerprint row.previousTokenHash fingerprint tokenHash
  else .ok false

/-- The rows that are looked at, found by one half only. -/
def nodeCandidates (rows : List NodeCredentials) : List NodeCredentials :=
  rows.filter fun row => (row.certFingerprint == some fingerprint ||
    row.previousCertFingerprint == some fingerprint) &&
    (row.controlMode == .observe || row.controlMode == .pull)

def authenticated : List NodeCredentials → Except AuthError (List NodeCredentials)
  | [] => .ok []
  | row :: rows => do
    let current ← currentPair fingerprint tokenHash row
    let previous ← previousPair fingerprint tokenHash now row
    let more ← authenticated rows
    .ok (if current || previous then row :: more else more)

end Match

/-- The server that a request comes from. -/
def authenticateNode (proxySecret : Option String) (hashNodeToken : String → String)
    (rows : List NodeCredentials) (headers : NodeHeaders) (now : Int) :
    Except AuthError NodeCredentials :=
  match proxySecret with
  | none => .error .notConfigured
  | some secret => do
    let trusted ← compareDigest headers.proxySecret secret
    if trusted && headers.certFingerprint != "" && lowerAscii headers.scheme == "bearer" &&
        headers.token != "" then do
      let found ← authenticated headers.certFingerprint (hashNodeToken headers.token) now
        (nodeCandidates headers.certFingerprint rows)
      match found with
      | [row] => .ok row
      | _ => .error .invalidCredentials
    else .error .invalidCredentials

/-! ## Complete pairs -/

/-- The pair is the current one of the server, or its previous one up to the deadline, and the
server is polled or observed. -/
def NodeCredentials.Live (row : NodeCredentials) (now : Int) (fingerprint tokenHash : String) :
    Prop :=
  (row.controlMode = .observe ∨ row.controlMode = .pull) ∧
  ((row.certFingerprint = some fingerprint ∧ row.tokenHash = some tokenHash) ∨
    row.previousCertFingerprint = some fingerprint ∧ row.previousTokenHash = some tokenHash ∧
      ∃ deadline, row.previousExpiresAt = some deadline ∧ now ≤ deadline)

theorem compareDigest_ok (h : compareDigest a b = .ok same) : same = (a == b) := by
  rw [compareDigest] at h
  split at h <;> cases h
  rfl

theorem pairMatches_iff (h : pairMatches f t fingerprint tokenHash = .ok matched) :
    matched = true ↔ f = some fingerprint ∧ t = some tokenHash ∧
      fingerprint ≠ "" ∧ tokenHash ≠ "" := by
  have hpresent : ∀ {o : Option String} {v : String}, o.filter (fun x => x != "") = some v →
      o = some v ∧ v ≠ "" := by
    intro o v ho
    obtain ⟨hv, hne⟩ := Option.filter_eq_some_iff.1 ho
    exact ⟨hv, bne_iff_ne.1 hne⟩
  rw [pairMatches] at h
  split at h
  · rename_i f' t' hf ht
    obtain ⟨rfl, hfne⟩ := hpresent hf
    obtain ⟨rfl, htne⟩ := hpresent ht
    rw [except_bind_ok] at h
    obtain ⟨same, hsame, hrest⟩ := h
    rw [compareDigest_ok hsame] at hrest
    by_cases hff : f' = fingerprint
    · rw [if_pos (beq_iff_eq.2 hff)] at hrest
      rw [compareDigest_ok hrest, beq_iff_eq, hff]
      constructor
      · rintro rfl
        exact ⟨rfl, rfl, hff ▸ hfne, htne⟩
      · rintro ⟨-, htt, -⟩
        exact Option.some.inj htt
    · rw [if_neg (by simpa using hff)] at hrest
      cases hrest
      refine iff_of_false Bool.false_ne_true ?_
      rintro ⟨hsome, -⟩
      exact hff (Option.some.inj hsome)
  · rename_i hnone
    cases h
    refine iff_of_false Bool.false_ne_true ?_
    rintro ⟨rfl, rfl, hfne, htne⟩
    refine hnone fingerprint tokenHash ?_ ?_
    · exact Option.filter_eq_some_iff.2 ⟨rfl, bne_iff_ne.2 hfne⟩
    · exact Option.filter_eq_some_iff.2 ⟨rfl, bne_iff_ne.2 htne⟩

theorem previousPair_iff (h : previousPair fingerprint tokenHash now row = .ok matched) :
    matched = true ↔ (∃ deadline, row.previousExpiresAt = some deadline ∧ now ≤ deadline) ∧
      row.previousCertFingerprint = some fingerprint ∧ row.previousTokenHash = some tokenHash ∧
      fingerprint ≠ "" ∧ tokenHash ≠ "" := by
  have hany : (row.previousExpiresAt.any fun e => decide (now ≤ e)) = true ↔
      ∃ deadline, row.previousExpiresAt = some deadline ∧ now ≤ deadline := by
    simp only [Option.any_eq_true, decide_eq_true_eq]
  rw [previousPair] at h
  split at h
  · rename_i hdeadline
    rw [pairMatches_iff h, hany.1 hdeadline |> iff_true_intro, true_and]
  · rename_i hdeadline
    cases h
    refine iff_of_false Bool.false_ne_true fun hall => hdeadline (hany.2 hall.1)

theorem mem_authenticated {rows found : List NodeCredentials}
    (h : authenticated fingerprint tokenHash now rows = .ok found) :
    row ∈ found ↔ row ∈ rows ∧ ((row.certFingerprint = some fingerprint ∧
        row.tokenHash = some tokenHash ∧ fingerprint ≠ "" ∧ tokenHash ≠ "") ∨
      (∃ deadline, row.previousExpiresAt = some deadline ∧ now ≤ deadline) ∧
        row.previousCertFingerprint = some fingerprint ∧ row.previousTokenHash = some tokenHash ∧
        fingerprint ≠ "" ∧ tokenHash ≠ "") := by
  induction rows generalizing found with
  | nil =>
    cases h
    simp
  | cons head rows ih =>
    simp only [authenticated, except_bind_ok] at h
    obtain ⟨current, hcurrent, previous, hprevious, more, hmore, h⟩ := h
    have hhead := or_congr (pairMatches_iff hcurrent) (previousPair_iff hprevious)
    have hrest := ih hmore
    cases h
    by_cases hmatch : current = true ∨ previous = true
    · rw [if_pos (by simpa using hmatch), List.mem_cons, List.mem_cons, hrest]
      constructor
      · rintro (rfl | ⟨hmem, hpair⟩)
        · exact ⟨.inl rfl, hhead.1 hmatch⟩
        · exact ⟨.inr hmem, hpair⟩
      · rintro ⟨rfl | hmem, hpair⟩
        · exact .inl rfl
        · exact .inr ⟨hmem, hpair⟩
    · rw [if_neg (by simpa using hmatch), hrest, List.mem_cons]
      constructor
      · rintro ⟨hmem, hpair⟩
        exact ⟨.inr hmem, hpair⟩
      · rintro ⟨rfl | hmem, hpair⟩
        · exact absurd (hhead.2 hpair) hmatch
        · exact ⟨hmem, hpair⟩

/-- A request is accepted only from the proxy, and only with a complete pair of exactly one
server, which it is then taken to come from. -/
theorem authenticateNode_spec {hashNodeToken : String → String} {rows : List NodeCredentials}
    {headers : NodeHeaders}
    (h : authenticateNode proxySecret hashNodeToken rows headers now = .ok row) :
    proxySecret = some headers.proxySecret ∧ row ∈ rows ∧
    row.Live now headers.certFingerprint (hashNodeToken headers.token) ∧
    ∀ other ∈ rows,
      other.Live now headers.certFingerprint (hashNodeToken headers.token) → other = row := by
  cases proxySecret with
  | none => cases h
  | some secret =>
    rw [authenticateNode, except_bind_ok] at h
    obtain ⟨trusted, htrusted, h⟩ := h
    split at h
    · rename_i hchecks
      simp only [Bool.and_eq_true, bne_iff_ne] at hchecks
      rw [except_bind_ok] at h
      obtain ⟨found, hfound, h⟩ := h
      have hone : found = [row] := by
        split at h
        · cases h
          rfl
        · cases h
      have hmem : ∀ r, r ∈ found ↔ _ := fun r => mem_authenticated hfound
      rw [hone] at hmem
      obtain ⟨hrow, hpair⟩ := (hmem row).1 (List.mem_singleton.2 rfl)
      obtain ⟨hrows, hselected⟩ := List.mem_filter.1 hrow
      have hmode : ∀ r ∈ nodeCandidates headers.certFingerprint rows,
          r.controlMode = .observe ∨ r.controlMode = .pull := by
        intro r hr
        obtain ⟨-, hr⟩ := List.mem_filter.1 hr
        simpa using (Bool.and_eq_true_iff.1 hr).2
      refine ⟨?_, hrows, ⟨hmode row hrow, ?_⟩, ?_⟩
      · have hsame := compareDigest_ok htrusted
        rw [hchecks.1.1.1] at hsame
        rw [beq_iff_eq.1 hsame.symm]
      · rcases hpair with ⟨hf, ht, -⟩ | ⟨hdeadline, hf, ht, -⟩
        · exact .inl ⟨hf, ht⟩
        · exact .inr ⟨hf, ht, hdeadline⟩
      · -- another server with the pair would have been found as well
        intro other hother hlive
        have hne : headers.certFingerprint ≠ "" ∧ hashNodeToken headers.token ≠ "" := by
          rcases hpair with ⟨-, -, hne⟩ | ⟨-, -, -, hne⟩
          · exact hne
          · exact hne
        refine List.mem_singleton.1 ((hmem other).2 ⟨List.mem_filter.2 ⟨hother, ?_⟩, ?_⟩)
        · obtain ⟨hmode, hhalf⟩ := hlive
          rcases hhalf with ⟨hf, -⟩ | ⟨hf, -⟩
          · simpa [hf] using hmode
          · simpa [hf] using hmode
        · rcases hlive.2 with ⟨hf, ht⟩ | ⟨hf, ht, hdeadline⟩
          · exact .inl ⟨hf, ht, hne⟩
          · exact .inr ⟨hdeadline, hf, ht, hne⟩
    · cases h

end AegisVPN
