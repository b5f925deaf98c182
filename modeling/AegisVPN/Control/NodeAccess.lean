import AegisVPN.Control.Auth
import AegisVPN.Control.NodeApi

namespace AegisVPN
open Library
set_option autoImplicit true

/-! ## What a node may do -/

/-- A request that is accepted comes through the proxy and has the complete current pair of exactly
one server, or its complete previous pair up to the deadline; every other server keeps its row, its
links, its snapshots, its acknowledgements and its telemetry, and the last three of these change
neither the answer nor what becomes of the node's own. -/
theorem node_access [DecidableEq D] (settings : ControlSettings D) (maxTelemetryBytes : Nat)
    (heartbeatSeconds : Int) (proxySecret : Option String) (hashNodeToken : String → String)
    (hfree : Function.Injective hashNodeToken) (rows : List NodeCredentials)
    (headers : NodeHeaders) (now : Int) (row : NodeCredentials)
    (h : authenticateNode proxySecret hashNodeToken rows headers now = .ok row) :
    proxySecret = some headers.proxySecret ∧ row ∈ rows ∧
    (∃ tokenHash, row.Live now headers.certFingerprint tokenHash ∧
      ∀ token, hashNodeToken token = tokenHash ↔ token = headers.token) ∧
    (∀ other ∈ rows, other.Live now headers.certFingerprint (hashNodeToken headers.token) →
      other = row) ∧
    ∀ (request : NodeRequest D) (time : Int) (state : ControlPlane D),
      SparesOthers row.serverId state
        (handleNode settings maxTelemetryBytes heartbeatSeconds row.serverId time state request).2 ∧
      ∀ state', SameFor row.serverId state state' →
        (handleNode settings maxTelemetryBytes heartbeatSeconds row.serverId time state'
            request).1 =
          (handleNode settings maxTelemetryBytes heartbeatSeconds row.serverId time state
            request).1 ∧
        SameFor row.serverId
          (handleNode settings maxTelemetryBytes heartbeatSeconds row.serverId time state
            request).2
          (handleNode settings maxTelemetryBytes heartbeatSeconds row.serverId time state'
            request).2 := by
  obtain ⟨hsecret, hmem, hlive, hone⟩ := authenticateNode_spec h
  refine ⟨hsecret, hmem, ⟨_, hlive, fun token => ⟨fun heq => hfree heq, ?_⟩⟩, hone,
    fun request time state => ⟨?_, fun state' hsame => ?_⟩⟩
  · rintro rfl
    rfl
  · exact handleNode_spares maxTelemetryBytes heartbeatSeconds row.serverId time state request
  · exact hsame.handleNode maxTelemetryBytes heartbeatSeconds time request

/-- A digest that no two texts share, and that is the real one for one token. -/
def tokenDigest (token : String) : String :=
  if token = "old-token" then "9bdf10a691a1cfda89d9ff66629d1609ab176cec9b6a3146a8929f28937a9fce"
  else "digest of " ++ token

theorem tokenDigest_injective : Function.Injective tokenDigest := by
  intro a b h
  have hne : ∀ token, "9bdf10a691a1cfda89d9ff66629d1609ab176cec9b6a3146a8929f28937a9fce" ≠
      "digest of " ++ token := by
    intro token heq
    have hhead := congrArg (fun t : String => t.toList.head?) heq
    simp at hhead
  rw [tokenDigest, tokenDigest] at h
  split at h
  · split at h
    · rename_i ha hb
      exact ha.trans hb.symm
    · exact absurd h (hne b)
  · split at h
    · exact absurd h.symm (hne a)
    · exact (String.append_right_inj _).1 h

/-- A node in the middle of a rotation. -/
def rotatingNode : NodeCredentials :=
  ⟨1, .pull, some "ab12", some (tokenDigest "node-token"), some "cd34",
    some (tokenDigest "old-token"), some 100⟩

/-- A node that got a new certificate and kept its token. -/
def recertifiedNode : NodeCredentials :=
  ⟨2, .observe, some "ef56", some (tokenDigest "kept-token"), some "0178",
    some (tokenDigest "kept-token"), some 100⟩

def rotatingHeaders : NodeHeaders := ⟨"proxy", "CD:34", "Bearer old-token"⟩

def recertifiedHeaders : NodeHeaders := ⟨"proxy", "EF:56", "Bearer kept-token"⟩

/-- Both nodes have a link and a first generation that they have not acknowledged. -/
def twoNodes : ControlPlane (List DesiredItem) where
  db := { (Db.empty : Db (List DesiredItem)) with
    servers := [
      ⟨1, "203.0.113.1", 443, "pk", "sid", "agent", .pull, 1, 0, none, none, .both, true, true⟩,
      ⟨2, "203.0.113.2", 443, "pk", "sid", "agent", .observe, 1, 0, none, none, .both, true, true⟩]
    links := [⟨1, 1, false⟩, ⟨1, 2, false⟩]
    snapshots := [⟨1, 1, 1, [], 500, []⟩, ⟨2, 1, 1, [], 500, []⟩] }
  telemetry := []
  contacts := [⟨1, none, none, some "timeout", none⟩, ⟨2, none, none, some "timeout", none⟩]

/-- The previous pair acknowledges the generation of its own node: the link and the error of the
other one stay. -/
theorem node_access_rotating :
    authenticateNode (some "proxy") tokenDigest [rotatingNode, recertifiedNode] rotatingHeaders 60 =
      .ok rotatingNode ∧
    (∀ other ∈ [rotatingNode, recertifiedNode], other.Live 60 rotatingHeaders.certFingerprint
      (tokenDigest rotatingHeaders.token) → other = rotatingNode) ∧
    SparesOthers 1 twoNodes
      (handleNode listSettings 0 30 1 60 twoNodes (.ack ⟨1, [], true⟩ none)).2 ∧
    (handleNode listSettings 0 30 1 60 twoNodes (.ack ⟨1, [], true⟩ none)).2.db.links =
      [⟨1, 1, true⟩, ⟨1, 2, false⟩] ∧
    (handleNode listSettings 0 30 1 60 twoNodes (.ack ⟨1, [], true⟩ none)).2.contacts =
      [⟨1, some 60, some 60, none, none⟩, ⟨2, none, none, some "timeout", none⟩] := by
  have h : authenticateNode (some "proxy") tokenDigest [rotatingNode, recertifiedNode]
      rotatingHeaders 60 = .ok rotatingNode := by decide
  obtain ⟨-, -, -, hone, hapart⟩ := node_access listSettings 0 30 (some "proxy") tokenDigest
    tokenDigest_injective [rotatingNode, recertifiedNode] rotatingHeaders 60 rotatingNode h
  exact ⟨h, hone, (hapart (.ack ⟨1, [], true⟩ none) 60 twoNodes).1, by decide, by decide⟩

/-- The previous pair is accepted at its deadline, when it is no longer before it; and the current
certificate goes with the previous token where that is also the current one. -/
theorem deadline_and_kept_token_accepted :
    (authenticateNode (some "proxy") tokenDigest [rotatingNode] rotatingHeaders 100 =
        .ok rotatingNode ∧
      rotatingNode.certFingerprint ≠ some rotatingHeaders.certFingerprint ∧
      ∀ deadline ∈ rotatingNode.previousExpiresAt, ¬ (100 < deadline)) ∧
    authenticateNode (some "proxy") tokenDigest [recertifiedNode] recertifiedHeaders 0 =
        .ok recertifiedNode ∧
      recertifiedNode.certFingerprint = some recertifiedHeaders.certFingerprint ∧
      recertifiedNode.previousTokenHash = some (tokenDigest recertifiedHeaders.token) ∧
      recertifiedNode.previousCertFingerprint ≠ recertifiedNode.certFingerprint := by
  decide

end AegisVPN
