import AegisVPN.Agent.Iterations
import AegisVPN.Control.Download

namespace AegisVPN
open Library
set_option autoImplicit true

/-! ## One synchronisation of a node -/

/-- What the agent sends along with its request. -/
def agentCapabilities : List String := ["cascade-v2"]

def AppliedState.syncRequest (applied : AppliedState D) : NodeSyncRequest D :=
  ⟨applied.generation, applied.digest, agentCapabilities⟩

/-- The desired state of a server is the same: how it is controlled, what it is capable of, and
its latest snapshot. -/
structure SameDesired (serverId : Nat) (db db' : Db D) : Prop where
  server : (db'.server serverId).map (fun s => (s.controlMode, s.features)) =
    (db.server serverId).map fun s => (s.controlMode, s.features)
  latest : db'.latestSnapshot serverId = db.latestSnapshot serverId

section Sync
variable [DecidableEq D] (settings : ControlSettings D)

/-- The rounds of a request, which ends with an answer or at its deadline. Between two rounds the
desired state of the server stays. -/
inductive LongPoll (serverId : Nat) (request : NodeSyncRequest D) :
    Db D → NodeResponse D → Db D → Prop
  | answered (now : Int) (h : (syncNode settings serverId request now db).1 = response)
    (hanswer : response ≠ .noChange) :
    LongPoll serverId request db response (syncNode settings serverId request now db).2
  | expired (now : Int) (h : (syncNode settings serverId request now db).1 = .noChange) :
    LongPoll serverId request db .noChange (syncNode settings serverId request now db).2
  | polled (now : Int) (h : (syncNode settings serverId request now db).1 = .noChange)
    (hsame : SameDesired serverId (syncNode settings serverId request now db).2 db')
    (hrest : LongPoll serverId request db' response db'') :
    LongPoll serverId request db response db''

/-- The control plane has this snapshot for a node with these capabilities. -/
structure Serving (serverId : Nat) (capabilities : List String) (db : Db D)
    (n : NodeSnapshot D) : Prop where
  server : ∃ server, db.server serverId = some server ∧ publishesFor server = true ∧
    server.features = some (sortedSet capabilities)
  latest : db.latestSnapshot serverId = some n

/-- The node has this snapshot, or a newer one with its digest. -/
def AppliedState.Current (applied : AppliedState D) (n : NodeSnapshot D) : Prop :=
  n.generation ≤ applied.generation ∧ applied.digest = some n.digest

variable {settings} {serverId : Nat} {request : NodeSyncRequest D} {db db' : Db D}

omit [DecidableEq D] in
theorem SameDesired.serving (hsame : SameDesired serverId db db')
    (h : Serving serverId capabilities db n) : Serving serverId capabilities db' n where
  server := by
    obtain ⟨server, hserver, hpublishes, hfeatures⟩ := h.server
    have hcolumns := hsame.server
    rw [hserver] at hcolumns
    obtain ⟨server', hserver', heq⟩ := Option.map_eq_some_iff.1 hcolumns
    obtain ⟨hmode, hcapable⟩ := Prod.mk.inj heq
    refine ⟨server', hserver', ?_, hcapable.trans hfeatures⟩
    rw [publishesFor, hmode]
    exact hpublishes
  latest := hsame.latest.trans h.latest

theorem answerSync_eq (hlatest : db.latestSnapshot serverId = some n)
    (applied : AppliedState D) :
    (applied.Current n → answerSync serverId applied.syncRequest db = .noChange) ∧
    (¬ applied.Current n →
      answerSync serverId applied.syncRequest db = .manifest n.manifest) := by
  have hcurrent : applied.Current n ↔ ¬ (applied.syncRequest.appliedGeneration < n.generation ∨
      applied.syncRequest.appliedDigest ≠ some n.digest) := by
    rw [not_or, Nat.not_lt, not_not]
    exact Iff.rfl
  refine ⟨fun h => ?_, fun h => ?_⟩
  · simp only [answerSync, hlatest, if_neg (hcurrent.1 h)]
  · simp only [answerSync, hlatest, if_pos (not_not.1 (mt hcurrent.2 h))]

theorem syncNode_serving (h : Serving serverId request.capabilities db n) (now : Int) :
    syncNode settings serverId request now db = (answerSync serverId request db, db) := by
  obtain ⟨server, hserver, hpublishes, hfeatures⟩ := h.server
  simp only [syncNode, hserver, if_pos hpublishes, syncTransactionOf, if_pos hfeatures, h.latest,
    Option.isNone_some, Bool.false_eq_true, ↓reduceIte]

omit [DecidableEq D] in
theorem setFeatures_server (features : List String) (i : Nat) :
    (setFeatures serverId features db).server i = (db.server i).map fun s =>
      if s.id = serverId then { s with features := some features } else s := by
  refine find?_map_of_id (fun s => ?_) i
  split <;> rfl

theorem publishNow_server (h : publishNow settings serverId now db = (.ok u, db')) (i : Nat) :
    (db'.server i).map (fun s => (s.controlMode, s.features)) =
      (db.server i).map fun s => (s.controlMode, s.features) := by
  rcases publishNow_cases settings serverId now db with hsame | herror |
    ⟨server, snapshot, _, _, _, hadded⟩
  · rw [hsame] at h
    cases h
    rfl
  · rw [herror] at h
    cases h
  · rw [hadded] at h
    cases h
    rw [addSnapshot_server, Option.map_map]
    congr 1
    funext s
    simp only [Function.comp_apply]
    split <;> rfl

theorem syncTransactionOf_server (hserver : db.server serverId = some server)
    (h : syncTransactionOf settings serverId capabilities now server db = (.ok u, db')) :
    (db'.server serverId).map (fun s => (s.controlMode, s.features)) =
      some (server.controlMode, some (sortedSet capabilities)) := by
  rw [syncTransactionOf] at h
  split at h
  · rename_i hfeatures
    split at h
    · rw [publishNow_server h, hserver, ← hfeatures]
      rfl
    · cases h
      rw [hserver, ← hfeatures]
      rfl
  · rw [publishNow_server h, setFeatures_server, hserver, Option.map_some,
      if_pos (server_id hserver)]
    rfl

theorem answerSync_latest (hanswer : answerSync serverId request db ≠ .serverError) :
    ∃ n, db.latestSnapshot serverId = some n := by
  cases hlatest : db.latestSnapshot serverId with
  | none =>
    rw [answerSync, hlatest] at hanswer
    exact absurd rfl hanswer
  | some n => exact ⟨n, rfl⟩

/-- An answer with 200 or 204. -/
def NodeResponse.Answers (response : NodeResponse D) : Prop :=
  response = .noChange ∨ ∃ m, response = .manifest m

theorem syncNode_serves (h : syncNode settings serverId request now db = (response, db'))
    (hanswer : response.Answers) : ∃ n, Serving serverId request.capabilities db' n ∧
      response = answerSync serverId request db' := by
  have hinactive : response ≠ .inactiveNode := by
    rintro rfl
    rcases hanswer with h | ⟨m, h⟩ <;> cases h
  have herror : response ≠ .serverError := by
    rintro rfl
    rcases hanswer with h | ⟨m, h⟩ <;> cases h
  unfold syncNode at h
  split at h
  · exact absurd (congrArg Prod.fst h).symm hinactive
  · rename_i server hserver
    split at h
    · rename_i hpublishes
      split at h
      · rename_i htransaction
        obtain ⟨rfl, rfl⟩ := Prod.mk.inj h
        obtain ⟨n, hlatest⟩ := answerSync_latest herror
        obtain ⟨server', hserver', hcolumns⟩ :=
          Option.map_eq_some_iff.1 (syncTransactionOf_server hserver htransaction)
        obtain ⟨hmode, hfeatures⟩ := Prod.mk.inj hcolumns
        refine ⟨n, ⟨⟨server', hserver', ?_, hfeatures⟩, hlatest⟩, rfl⟩
        rw [publishesFor, hmode]
        exact hpublishes
      · exact absurd (congrArg Prod.fst h).symm herror
    · exact absurd (congrArg Prod.fst h).symm hinactive

/-- A request that is answered with 200 or 204 ends with a snapshot that the control plane keeps,
and the answer is the one for that snapshot. -/
theorem LongPoll.serves (h : LongPoll settings serverId request db response db')
    (hanswer : response.Answers) : ∃ n, Serving serverId request.capabilities db' n ∧
      response = answerSync serverId request db' := by
  induction h with
  | answered now h _ => exact syncNode_serves (Prod.ext h rfl) hanswer
  | expired now h => exact syncNode_serves (Prod.ext h rfl) hanswer
  | polled now h hsame hrest ih => exact ih hanswer

theorem LongPoll.serving (h : LongPoll settings serverId request db response db')
    (hserving : Serving serverId request.capabilities db n) :
    Serving serverId request.capabilities db' n := by
  induction h with
  | answered now h _ =>
    rw [syncNode_serving hserving]
    exact hserving
  | expired now h =>
    rw [syncNode_serving hserving]
    exact hserving
  | polled now h hsame hrest ih =>
    rw [syncNode_serving hserving] at hsame
    exact ih (hsame.serving hserving)

theorem LongPoll.answer {applied : AppliedState D}
    (h : LongPoll settings serverId applied.syncRequest db response db')
    (hanswer : response.Answers) (hlatest : db'.latestSnapshot serverId = some n) :
    Serving serverId agentCapabilities db' n ∧ (applied.Current n → response = .noChange) ∧
      (¬ applied.Current n → response = .manifest n.manifest) := by
  obtain ⟨n', hserving, rfl⟩ := h.serves hanswer
  have hsame : some n' = some n := hserving.latest.symm.trans hlatest
  cases hsame
  exact ⟨hserving, answerSync_eq hlatest applied⟩

end Sync

/-! ## The loop -/

/-- A node with its control plane. -/
structure Pulled (D : Type) where
  db : Db D
  node : Agent D
  vars : LoopVars

/-- What can be seen of an iteration. -/
structure Turn (D : Type) where
  response : NodeResponse D
  successful : Bool

def Turn.Manifest (turn : Turn D) (generation : Nat) : Prop :=
  ∃ m, turn.response = .manifest m ∧ m.generation = generation

section Loop
variable [DecidableEq D] (canonical : Canonical D) (limits : ControlLimits)
  (settings : AgentSettings) (control : ControlSettings D) (wire : Wire D) (serverId : Nat)
  (mode : ControlMode)

/-- An iteration in which everything works and nobody changes the desired state: the request, which
leaves `n` as the latest snapshot, the rest of the iteration, and what others write meanwhile. -/
inductive PullStep (s : Pulled D) (n : NodeSnapshot D) (clock : IterationClock) :
    Turn D → Pulled D → Prop
  | step (hpoll : LongPoll control serverId s.node.appliedState.syncRequest s.db response db)
    (hanswer : response.Answers) (hlatest : db.latestSnapshot serverId = some n)
    (hstored : db.snapshot serverId n.generation = some n)
    (hrun : runOk (controlIteration settings (scriptedApi canonical limits
      (servedPoll control wire serverId clock response db)) mode clock s.vars) s.node =
        (.ok vars, node))
    (hsame : SameDesired serverId db db') :
    PullStep s n clock ⟨response, decide (vars.sequence = s.vars.sequence + 1)⟩ ⟨db', node, vars⟩

/-- Iterations of a loop that runs, each of which meets a condition on what it starts with. -/
inductive PullRun (C : Pulled D → NodeSnapshot D → Nat → Prop) :
    Pulled D → List (Turn D) → Pulled D → Prop
  | nil (s : Pulled D) : PullRun C s [] s
  | cons {clock : IterationClock} (hmode : mode ≠ .off) (hC : C s n clock.snapshot)
    (hstep : PullStep canonical limits settings control wire serverId mode s n clock turn s')
    (hrest : PullRun C s' turns s'') : PullRun C s (turn :: turns) s''

/-- From the third iteration on every request is held until its deadline. -/
def HeldFromThird (turns : List (Turn D)) : Prop :=
  ∀ turn ∈ turns.drop 2, turn.response = .noChange

/-- No two successful iterations in a row have the manifest of one generation. -/
def NeverTwice (turns : List (Turn D)) : Prop :=
  turns.IsChain fun a b => ¬ (a.successful = true ∧ b.successful = true ∧
    ∃ generation, a.Manifest generation ∧ b.Manifest generation)

/-- The node has the snapshot, or it applies snapshots and can take this one: the client accepts
it, the journal is readable, the routes apply and Xray loads the config. -/
def Pulled.Settles (s : Pulled D) (n : NodeSnapshot D) (nowMs : Nat) : Prop :=
  s.node.appliedState.Current n ∨ mode = .apply ∧ Downloadable control wire canonical limits n ∧
    ∃ x : Readable ⟨n.schemaVersion, n.generation, n.digest, n.items⟩ s.node,
      Loadable (x.desired nowMs)

variable {canonical limits settings control wire serverId mode} {s s' : Pulled D}
  {n : NodeSnapshot D} {clock : IterationClock} {turn : Turn D}

theorem servedPoll_noChange (db : Db D) :
    (servedPoll control wire serverId clock .noChange db).answer canonical limits = .ok none := rfl

theorem servedPoll_manifest {m : SnapshotManifest D}
    (h : (servedPoll control wire serverId clock (.manifest m) db).answer canonical limits =
      .ok answer) : ∃ snapshot, answer = some snapshot ∧ snapshot.generation = m.generation ∧
        snapshot.digest = m.digest := by
  simp only [Poll.answer, syncSnapshot, except_bind_ok] at h
  obtain ⟨response, hresponse, h⟩ := h
  obtain ⟨hmem, _⟩ := requestWithFailover_spec hresponse
  obtain rfl := Option.some.inj (List.mem_singleton.1 hmem)
  have hstatus : (wire.syncAnswer (.manifest m)).status ≠ 204 := show 200 ≠ 204 by decide
  rw [if_neg hstatus] at h
  simp only [except_bind_ok, require_ok, Except.ok.injEq] at h
  obtain ⟨_, _, manifest, hbody, snapshot, hfetched, rfl⟩ := h
  obtain ⟨_, _, hmanifest⟩ := parseBody_spec hbody
  cases hmanifest
  simp only [fetchSnapshot, except_bind_ok, require_ok, Except.ok.injEq] at hfetched
  obtain ⟨_, _, _, _, _, _, _, _, _, _, _, _, rfl⟩ := hfetched
  exact ⟨_, rfl, rfl, rfl⟩

/-- The latest snapshot may be acknowledged, again too. -/
theorem acknowledgement_accepted {db : Db D} (hserver : db.server serverId = some server)
    (hstored : db.snapshot serverId n.generation = some n) :
    requestOk "control acknowledgement" [some (ackAnswer
      (acknowledgeSnapshot serverId ⟨n.generation, n.digest, true⟩ db).1)] = .ok () := by
  have hchecked : ∃ status, (acknowledgeSnapshot serverId ⟨n.generation, n.digest, true⟩ db).1 =
      .ok status := by
    simp only [acknowledgeSnapshot, checkAck, hstored, hserver]
    by_cases hold : n.generation ≤ server.appliedGeneration
    · exact ⟨.duplicate, by simp [hold]⟩
    · exact ⟨.ok, by simp [hold]⟩
  obtain ⟨status, hstatus⟩ := hchecked
  rw [hstatus]
  rfl

omit [DecidableEq D] in
theorem SameReport.current {w w' : Agent D} (h : SameReport w w')
    (hcurrent : w.appliedState.Current n) : w'.appliedState.Current n := by
  rw [AppliedState.Current, h.1, h.2]
  exact hcurrent

omit [DecidableEq D] in
theorem AppliedState.Of.current {state : AppliedState D} {snapshot : DesiredSnapshot D}
    (h : state.Of snapshot) (hgeneration : snapshot.generation = n.generation)
    (hdigest : snapshot.digest = n.digest) : state.Current n :=
  ⟨(h.1.trans hgeneration).ge, hdigest ▸ h.2⟩

theorem PullStep.response
    (h : PullStep canonical limits settings control wire serverId mode s n clock turn s') :
    Serving serverId agentCapabilities s'.db n ∧
      (s.node.appliedState.Current n → turn.response = .noChange) ∧
      (¬ s.node.appliedState.Current n → turn.response = .manifest n.manifest) := by
  cases h with
  | step hpoll hanswer hlatest hstored hrun hsame =>
    obtain ⟨hserving, hresponse⟩ := hpoll.answer hanswer hlatest
    exact ⟨hsame.serving hserving, hresponse⟩

theorem PullStep.latest
    (h : PullStep canonical limits settings control wire serverId mode s n clock turn s')
    (hserving : Serving serverId agentCapabilities s.db m) : n = m := by
  cases h with
  | step hpoll hanswer hlatest hstored hrun hsame =>
    have hkept := (hpoll.serving hserving).latest
    rw [hlatest] at hkept
    exact Option.some.inj hkept

theorem PullStep.observed
    (h : PullStep canonical limits settings control wire serverId .observe s n clock turn s') :
    SameReport s.node s'.node := by
  cases h with
  | step hpoll hanswer hlatest hstored hrun hsame =>
    exact observe_iteration_sameReport hrun

theorem PullStep.current (hmode : mode ≠ .off)
    (h : PullStep canonical limits settings control wire serverId mode s n clock turn s')
    (hcurrent : s.node.appliedState.Current n) : s'.node.appliedState.Current n := by
  have hresponse := h.response.2.1 hcurrent
  cases mode with
  | off => exact absurd rfl hmode
  | observe => exact h.observed.current hcurrent
  | apply =>
    cases h with
    | step hpoll hanswer hlatest hstored hrun hsame =>
      obtain rfl : _ = NodeResponse.noChange := hresponse
      exact (iteration_sameReport (servedPoll_noChange _) rfl hrun).current hcurrent

theorem PullStep.successful
    (h : PullStep canonical limits settings control wire serverId .apply s n clock turn s')
    (hsuccess : turn.successful = true) : s'.node.appliedState.Current n := by
  by_cases hcurrent : s.node.appliedState.Current n
  · exact h.current (by decide) hcurrent
  · have hresponse := h.response.2.2 hcurrent
    cases h with
    | step hpoll hanswer hlatest hstored hrun hsame =>
      obtain rfl : _ = NodeResponse.manifest n.manifest := hresponse
      have hsequence := of_decide_eq_true hsuccess
      cases ha : (servedPoll control wire serverId clock (.manifest n.manifest) _).answer
          canonical limits with
      | error e =>
        obtain ⟨payload, w₁, hpolled⟩ := iteration_polled hrun hsequence
        cases hpolled.symm.trans (pollControl_error ha)
      | ok answer =>
        obtain ⟨snapshot, rfl, hgeneration, hdigest⟩ := servedPoll_manifest ha
        exact (iteration_saved ha rfl hrun hsequence).current hgeneration hdigest

theorem PullStep.settled (hmode : mode ≠ .off)
    (h : PullStep canonical limits settings control wire serverId mode s n clock turn s')
    (hsettles : s.Settles canonical limits control wire mode n clock.snapshot) :
    s'.node.appliedState.Current n := by
  by_cases hcurrent : s.node.appliedState.Current n
  · exact h.current hmode hcurrent
  · obtain hcurrent' | ⟨rfl, hdownloadable, x, hload⟩ := hsettles
    · exact absurd hcurrent' hcurrent
    · refine h.successful ?_
      have hresponse := h.response.2.2 hcurrent
      cases h with
      | step hpoll hanswer hlatest hstored hrun hsame =>
        obtain rfl : _ = NodeResponse.manifest n.manifest := hresponse
        obtain ⟨server, hserver, _⟩ := (hpoll.answer hanswer hlatest).1.server
        have hack := acknowledgement_accepted hserver hstored
        exact decide_eq_true
          (iteration_reconciles (hdownloadable.downloaded hstored clock) ⟨hack, rfl⟩ x hload hrun)

/-! ### Runs -/

variable {C : Pulled D → NodeSnapshot D → Nat → Prop} {turns : List (Turn D)}

/-- As long as the node has the snapshot, every request is held. -/
theorem PullRun.held
    (h : PullRun canonical limits settings control wire serverId mode C s turns s')
    (hserving : Serving serverId agentCapabilities s.db n)
    (hcurrent : s.node.appliedState.Current n) :
    (∀ turn ∈ turns, turn.response = .noChange) ∧
      PullRun canonical limits settings control wire serverId mode
        (fun s n t => s.Settles canonical limits control wire mode n t) s turns s' := by
  induction h with
  | nil s => exact ⟨fun turn hturn => absurd hturn List.not_mem_nil, .nil s⟩
  | cons hmode hC hstep hrest ih =>
    obtain rfl := hstep.latest hserving
    obtain ⟨hrest_held, hrest_settles⟩ := ih hstep.response.1 (hstep.current hmode hcurrent)
    refine ⟨List.forall_mem_cons.2 ⟨hstep.response.2.1 hcurrent, hrest_held⟩, ?_⟩
    exact .cons hmode (.inl hcurrent) hstep hrest_settles

omit [DecidableEq D] in
theorem Turn.not_manifest {turn : Turn D} (h : turn.response = .noChange) :
    ¬ turn.Manifest generation := by
  rintro ⟨m, hm, _⟩
  rw [h] at hm
  cases hm

omit [DecidableEq D] in
theorem NeverTwice.of_held (h : ∀ turn ∈ turns, turn.response = .noChange) (first : Turn D) :
    NeverTwice (first :: turns) := by
  induction turns generalizing first with
  | nil => exact .singleton _
  | cons turn turns ih =>
    obtain ⟨hturn, hturns⟩ := List.forall_mem_cons.1 h
    refine List.isChain_cons_cons.2 ⟨?_, ih hturns turn⟩
    rintro ⟨_, _, _, _, hmanifest⟩
    exact Turn.not_manifest hturn hmanifest

/-- A node that applies snapshots never has a manifest twice. -/
theorem PullRun.neverTwice
    (h : PullRun canonical limits settings control wire serverId .apply C s turns s') :
    NeverTwice turns := by
  induction h with
  | nil s => exact .nil
  | cons hmode hC hstep hrest ih =>
    cases hrest with
    | nil => exact .singleton _
    | cons hmode' hC' hstep' hrest' =>
      refine List.isChain_cons_cons.2 ⟨?_, ih⟩
      rintro ⟨hsuccess, _, _, _, hmanifest⟩
      obtain rfl := hstep'.latest hstep.response.1
      exact Turn.not_manifest (hstep'.response.2.1 (hstep.successful hsuccess)) hmanifest

/-- A node that only observes, and does not have the snapshot, gets its manifest every time. -/
theorem PullRun.observing
    (h : PullRun canonical limits settings control wire serverId .observe C s turns s')
    (hserving : Serving serverId agentCapabilities s.db n)
    (hcurrent : ¬ s.node.appliedState.Current n) :
    ∀ turn ∈ turns, turn.response = .manifest n.manifest := by
  induction h with
  | nil s => exact fun turn hturn => absurd hturn List.not_mem_nil
  | cons hmode hC hstep hrest ih =>
    obtain rfl := hstep.latest hserving
    have hsame := hstep.observed
    have hstale : ¬ AppliedState.Current _ _ := fun hnow =>
      hcurrent (SameReport.current ⟨hsame.1.symm, hsame.2.symm⟩ hnow)
    exact List.forall_mem_cons.2 ⟨hstep.response.2.2 hcurrent, ih hstep.response.1 hstale⟩

variable (canonical limits settings control wire serverId mode)

/-- The loop is paced if each iteration starts on a node that has the snapshot, or that applies
snapshots and can take this one. Where it applies snapshots none comes twice in any case, and where
it only observes the condition is also necessary. -/
theorem pull_loop_paced :
    (∀ s turns s', PullRun canonical limits settings control wire serverId mode
      (fun s n t => s.Settles canonical limits control wire mode n t) s turns s' →
        HeldFromThird turns ∧ NeverTwice turns) ∧
    (mode = .apply → ∀ C s turns s',
      PullRun canonical limits settings control wire serverId mode C s turns s' →
        NeverTwice turns) ∧
    (mode = .observe → ∀ C s turns s',
      PullRun canonical limits settings control wire serverId mode C s turns s' →
        2 < turns.length → HeldFromThird turns →
          PullRun canonical limits settings control wire serverId mode
            (fun s n t => s.Settles canonical limits control wire mode n t) s turns s') := by
  refine ⟨?_, ?_, ?_⟩
  · intro s turns s' h
    cases h with
    | nil => exact ⟨fun turn hturn => (by cases hturn), .nil⟩
    | cons hmode hsettles hstep hrest =>
      obtain ⟨hheld, _⟩ := hrest.held hstep.response.1 (hstep.settled hmode hsettles)
      exact ⟨fun turn hturn => hheld turn (List.mem_of_mem_drop (i := 1) hturn), .of_held hheld _⟩
  · rintro rfl C s turns s' h
    exact h.neverTwice
  · rintro rfl C s turns s' h hlength hheld
    cases h with
    | nil => cases hlength
    | cons hmode hC hstep hrest =>
      rename_i n turn s₁ turns clock
      by_cases hcurrent : s.node.appliedState.Current n
      · have hsettled := hrest.held hstep.response.1 (hstep.current hmode hcurrent)
        exact .cons hmode (.inl hcurrent) hstep hsettled.2
      · -- the third request would be answered with the manifest
        have hsame := hstep.observed
        have hmanifest := hrest.observing hstep.response.1 fun hnow =>
          hcurrent (SameReport.current ⟨hsame.1.symm, hsame.2.symm⟩ hnow)
        have hthird : 1 < turns.length := Nat.lt_of_succ_lt_succ hlength
        have hmem : turns[1] ∈ turns.drop 1 := List.mem_drop_iff_getElem.2 ⟨0, hthird, rfl⟩
        have hone := hheld turns[1] hmem
        rw [hmanifest _ (List.getElem_mem hthird)] at hone
        cases hone

end Loop

/-! ### A node without clients -/

def observedServer : Server (List DesiredItem) :=
  ⟨1, "203.0.113.1", 443, "pk", "sid", "agent", .observe, 1, 0, none, some agentCapabilities,
    .both, true, true⟩

def emptySnapshot : NodeSnapshot (List DesiredItem) := ⟨1, 1, 2, [], 500, []⟩

def pulledDb : Db (List DesiredItem) :=
  { (Db.empty : Db (List DesiredItem)) with
    servers := [observedServer]
    snapshots := [emptySnapshot] }

def noBytes : Wire (List DesiredItem) := ⟨fun _ => 0, fun _ => 0⟩

theorem pulledDb_serving : Serving 1 agentCapabilities pulledDb emptySnapshot :=
  ⟨⟨observedServer, rfl, rfl, by decide⟩, by decide⟩

theorem pulled_step {mode : ControlMode} {s : Pulled (List DesiredItem)}
    {response : NodeResponse (List DesiredItem)} (hdb : s.db = pulledDb)
    (hresponse : answerSync 1 s.node.appliedState.syncRequest pulledDb = response)
    (hanswer : response.Answers)
    (hrun : runOk (controlIteration liveSettings (scriptedApi itemsCanonical roomyLimits
      (servedPoll listSettings noBytes 1 ⟨0, 0, 0⟩ response pulledDb)) mode ⟨0, 0, 0⟩ s.vars)
        s.node = (.ok vars, node)) (hsequence : vars.sequence = s.vars.sequence + 1) :
    PullStep itemsCanonical roomyLimits liveSettings listSettings noBytes 1 mode s emptySnapshot
      ⟨0, 0, 0⟩ ⟨response, true⟩ ⟨pulledDb, node, vars⟩ := by
  have hround : syncNode listSettings 1 s.node.appliedState.syncRequest 0 s.db =
      (response, pulledDb) := by
    rw [hdb, syncNode_serving pulledDb_serving, hresponse]
  have hpoll : LongPoll listSettings 1 s.node.appliedState.syncRequest s.db response pulledDb := by
    have hdb' : (syncNode listSettings 1 s.node.appliedState.syncRequest 0 s.db).2 = pulledDb :=
      congrArg Prod.snd hround
    rw [← hdb']
    by_cases hheld : response = .noChange
    · subst hheld
      exact .expired 0 (congrArg Prod.fst hround)
    · exact .answered 0 (congrArg Prod.fst hround) hheld
  rw [← decide_eq_true hsequence]
  exact .step hpoll hanswer pulledDb_serving.latest rfl hrun ⟨rfl, rfl⟩

/-- A node before its first generation. -/
def observedFor (turns : Nat) : Pulled (List DesiredItem) :=
  ⟨pulledDb, { firstNode with telemetrySequence := some 1024 }, ⟨turns, 1024⟩⟩

/-- A node that has applied its first generation. -/
def appliedFor (turns : Nat) : Pulled (List DesiredItem) :=
  ⟨pulledDb, { (observedFor 0).node with applied := some ⟨2, 1, some [], []⟩ }, ⟨turns, 1024⟩⟩

def manifestTurn : Turn (List DesiredItem) := ⟨.manifest emptySnapshot.manifest, true⟩

def heldTurn : Turn (List DesiredItem) := ⟨.noChange, true⟩

theorem observedFor_answer (k : Nat) : answerSync 1 (observedFor k).node.appliedState.syncRequest
    pulledDb = .manifest emptySnapshot.manifest :=
  (answerSync_eq pulledDb_serving.latest _).2 fun h => absurd h.1 (Nat.not_succ_le_zero 0)

theorem emptySnapshot_downloadable :
    Downloadable listSettings noBytes itemsCanonical roomyLimits emptySnapshot where
  schemaVersion := .inr rfl
  generation := le_rfl
  pageSize := by decide
  valid := fun item hitem => absurd hitem List.not_mem_nil
  uuids := List.nodup_nil
  digest := rfl
  pageDigest := fun i hi => absurd hi (Nat.not_lt_zero i)
  maxPages := Nat.zero_le _
  maxItems := Nat.zero_le _
  manifestBytes := Nat.zero_le _
  pageBytes := fun i hi => absurd hi (Nat.not_lt_zero i)
  maxBytes := Nat.zero_le _

/-- A node takes its first snapshot, and is held from then on. -/
theorem pull_loop_paced_applied : HeldFromThird [manifestTurn, heldTurn, heldTurn] ∧
    NeverTwice [manifestTurn, heldTurn, heldTurn] := by
  have hfirst : PullStep itemsCanonical roomyLimits liveSettings listSettings noBytes 1 .apply
      (observedFor 0) emptySnapshot ⟨0, 0, 0⟩ manifestTurn (appliedFor 1) :=
    pulled_step rfl (observedFor_answer 0) (.inr ⟨_, rfl⟩) rfl rfl
  have hcurrent : ∀ k, (appliedFor k).node.appliedState.Current emptySnapshot := fun _ =>
    ⟨le_rfl, rfl⟩
  have hsecond : PullStep itemsCanonical roomyLimits liveSettings listSettings noBytes 1 .apply
      (appliedFor 1) emptySnapshot ⟨0, 0, 0⟩ heldTurn (appliedFor 2) :=
    pulled_step rfl ((answerSync_eq pulledDb_serving.latest _).1 (hcurrent 1)) (.inl rfl) rfl rfl
  have hthird : PullStep itemsCanonical roomyLimits liveSettings listSettings noBytes 1 .apply
      (appliedFor 2) emptySnapshot ⟨0, 0, 0⟩ heldTurn (appliedFor 3) :=
    pulled_step rfl ((answerSync_eq pulledDb_serving.latest _).1 (hcurrent 2)) (.inl rfl) rfl rfl
  refine (pull_loop_paced itemsCanonical roomyLimits liveSettings listSettings noBytes 1
    .apply).1 (observedFor 0) _ (appliedFor 3) (.cons (by decide) ?_ hfirst
      (.cons (by decide) (.inl (hcurrent 1)) hsecond
        (.cons (by decide) (.inl (hcurrent 2)) hthird (.nil _))))
  refine .inr ⟨rfl, emptySnapshot_downloadable, ⟨∅, freshConfig, rfl, rfl⟩, ?_⟩
  decide

/-- A node that observes is answered with the same manifest in every iteration, and each of these
succeeds. -/
theorem observing_node_spins : ∃ s s',
    PullRun itemsCanonical roomyLimits liveSettings listSettings noBytes 1 .observe
      (fun _ _ _ => True) s [manifestTurn, manifestTurn, manifestTurn] s' ∧
    ¬ HeldFromThird [manifestTurn, manifestTurn, manifestTurn] ∧
    ¬ NeverTwice [manifestTurn, manifestTurn, manifestTurn] := by
  have hstep : ∀ k < 3, PullStep itemsCanonical roomyLimits liveSettings listSettings noBytes 1
      .observe (observedFor k) emptySnapshot ⟨0, 0, 0⟩ manifestTurn (observedFor (k + 1)) := by
    intro k hk
    have hrun : runOk (controlIteration liveSettings (scriptedApi itemsCanonical roomyLimits
        (servedPoll listSettings noBytes 1 ⟨0, 0, 0⟩ (.manifest emptySnapshot.manifest) pulledDb))
          .observe ⟨0, 0, 0⟩ (observedFor k).vars) (observedFor k).node =
            (.ok (observedFor (k + 1)).vars, (observedFor (k + 1)).node) := by
      obtain rfl | rfl | rfl : k = 0 ∨ k = 1 ∨ k = 2 := by omega
      · rfl
      · rfl
      · rfl
    exact pulled_step rfl (observedFor_answer k) (.inr ⟨_, rfl⟩) hrun rfl
  refine ⟨observedFor 0, observedFor 3, ?_, ?_, ?_⟩
  · exact .cons (by decide) trivial (hstep 0 (by decide)) (.cons (by decide) trivial
      (hstep 1 (by decide)) (.cons (by decide) trivial (hstep 2 (by decide)) (.nil _)))
  · intro h
    cases h manifestTurn (List.mem_singleton_self _)
  · intro h
    exact (List.isChain_cons_cons.1 h).1 ⟨rfl, rfl, 1, ⟨_, rfl, rfl⟩, ⟨_, rfl, rfl⟩⟩

end AegisVPN
