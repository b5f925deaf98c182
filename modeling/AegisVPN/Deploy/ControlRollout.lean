import AegisVPN.Agent.ControlLoop
import AegisVPN.Control.State
import AegisVPN.Deploy.AgentFirewall
import AegisVPN.Deploy.EnvFile

namespace AegisVPN
open Library
set_option autoImplicit true

/-! # The rollout of the control plane to a node -/

/-! ## The guard -/

/-- What the central database says of a node. Times are microseconds. -/
structure PromotionState where
  desiredGeneration : Int
  appliedGeneration : Int
  desiredDigest : Option String
  appliedDigest : Option String
  lastSeenAt : Option Int
  lastError : Option String
  deriving DecidableEq

def validatePromotion (state : PromotionState) (now maxAgeSeconds : Int) : Except String Unit :=
  if state.desiredGeneration < 1 ∨ state.desiredGeneration ≠ state.appliedGeneration then
    .error "desired/applied generation mismatch"
  else if state.desiredDigest.getD "" = "" ∨ state.desiredDigest ≠ state.appliedDigest then
    .error "desired/applied digest mismatch"
  else if state.lastError.getD "" ≠ "" then .error "node reports a control error"
  else
    match state.lastSeenAt with
    | none => .error "node heartbeat is missing"
    | some lastSeen =>
      if now - lastSeen < 0 ∨ maxAgeSeconds * 1000000 < now - lastSeen then
        .error "node heartbeat is stale"
      else .ok ()

/-- What is read of a node before the deadline, with the time at which it is judged. -/
structure PromotionPoll where
  state : PromotionState
  now : Int

/-- The loop of the promotion, with the last error that it has seen. -/
def awaitAcknowledgement : String → List PromotionPoll → Except String Unit
  | lastError, [] => .error ("promotion guard failed: " ++ lastError)
  | _, poll :: polls =>
    match validatePromotion poll.state poll.now 90 with
    | .ok () => .ok ()
    | .error e => awaitAcknowledgement e polls

/-- The node has applied what is desired of it and was seen in the last 90 seconds. -/
structure AcknowledgedPoll (poll : PromotionPoll) : Prop where
  desired : 1 ≤ poll.state.desiredGeneration
  generation : poll.state.appliedGeneration = poll.state.desiredGeneration
  digest : ∃ digest, digest ≠ "" ∧ poll.state.desiredDigest = some digest ∧
    poll.state.appliedDigest = some digest
  error : poll.state.lastError = none ∨ poll.state.lastError = some ""
  seen : ∃ lastSeen, poll.state.lastSeenAt = some lastSeen ∧ lastSeen ≤ poll.now ∧
    poll.now ≤ lastSeen + 90 * 1000000

theorem validatePromotion_ok (h : validatePromotion poll.state poll.now 90 = .ok ()) :
    AcknowledgedPoll poll := by
  unfold validatePromotion at h
  split at h
  · cases h
  · rename_i hgeneration
    split at h
    · cases h
    · rename_i hdigest
      split at h
      · cases h
      · rename_i herror
        split at h
        · cases h
        · rename_i lastSeen hseen
          split at h
          · cases h
          · rename_i hage
            rw [not_or] at hgeneration hdigest hage
            refine ⟨by omega, by omega, ?_, ?_, lastSeen, hseen, by omega, by omega⟩
            · cases hdesired : poll.state.desiredDigest with
              | none =>
                rw [hdesired] at hdigest
                exact absurd rfl hdigest.1
              | some digest =>
                rw [hdesired] at hdigest
                exact ⟨digest, hdigest.1, rfl, (not_not.1 hdigest.2).symm⟩
            · cases hlast : poll.state.lastError with
              | none => exact .inl rfl
              | some error =>
                rw [hlast] at herror
                exact .inr (congrArg some (not_not.1 herror))

theorem awaitAcknowledgement_ok (h : awaitAcknowledgement lastError polls = .ok ()) :
    ∃ poll ∈ polls, AcknowledgedPoll poll := by
  induction polls generalizing lastError with
  | nil => cases h
  | cons poll polls ih =>
    rw [awaitAcknowledgement] at h
    split at h
    · rename_i hvalid
      exact ⟨poll, List.mem_cons_self, validatePromotion_ok hvalid⟩
    · obtain ⟨found, hfound, hacknowledged⟩ := ih h
      exact ⟨found, List.mem_cons_of_mem _ hfound, hacknowledged⟩

/-! ## The settings of a node -/

inductive BindHost
  | everywhere
  | loopback
  deriving DecidableEq

def BindHost.text : BindHost → List Char
  | .everywhere => "0.0.0.0".toList
  | .loopback => "127.0.0.1".toList

def ControlMode.text : ControlMode → List Char
  | .off => "off".toList
  | .observe => "observe".toList
  | .apply => "apply".toList

def controlModeKey : List Char := "CONTROL_MODE".toList

def agentBindKey : List Char := "AGENT_BIND_HOST".toList

def controlSettings (mode : ControlMode) (bindHost : BindHost) : EnvUpdates where
  values := [(controlModeKey, mode.text), (agentBindKey, bindHost.text)]
  nodup := by
    change [controlModeKey, agentBindKey].Nodup
    decide
  keys := by
    intro p hp
    simp only [List.mem_cons, List.not_mem_nil, or_false] at hp
    obtain rfl | rfl := hp
    · change '=' ∉ controlModeKey ∧ strip controlModeKey = controlModeKey ∧ OneLine controlModeKey
      exact ⟨by decide, by decide, oneLine_of_all (by decide)⟩
    · change '=' ∉ agentBindKey ∧ strip agentBindKey = agentBindKey ∧ OneLine agentBindKey
      exact ⟨by decide, by decide, oneLine_of_all (by decide)⟩
  plain := by
    intro p hp
    simp only [List.mem_cons, List.not_mem_nil, or_false] at hp
    obtain rfl | rfl := hp
    · cases mode <;> exact ⟨by decide, oneLine_of_all (by decide)⟩
    · cases bindHost <;> exact ⟨by decide, oneLine_of_all (by decide)⟩

structure RunningAgent where
  mode : ControlMode
  bindHost : List Char
  deriving DecidableEq

/-! ## What Compose reads -/

def bareKeyChar (c : Char) : Bool := c.isAlphanum || c == '_'

/-- A blank line, a comment, or a bare key with a value without quote signs. -/
def SimpleLine (line : List Char) : Prop :=
  strip line = [] ∨ line.head? = some '#' ∨
    '=' ∈ line ∧ (settingKey line).all bareKeyChar = true ∧ '"' ∉ line ∧ '\'' ∉ line

/-- A value that stands for itself. -/
def LiteralValue (value : List Char) : Prop :=
  value.all (fun c => c.isAlphanum || c == '.') = true

/-- Compose, which gives a container the environment of an env file: of simple lines the last one
that assigns a key counts, and a plain value is taken as it stands. -/
structure ComposeFile where
  environment : List Char → List (List Char × List Char)
  last_value : ∀ lines key value, (∀ line ∈ lines, SimpleLine line ∧ OneLine line) →
    valueIn key lines = some value → LiteralValue value →
    dictGet (environment (joinedLines lines ++ ['\n'])) key = some value

/-- The settings of the agent that a container starts, if they are valid. -/
def readAgent (environment : List (List Char × List Char)) : Option RunningAgent := do
  let mode ← (match dictGet environment controlModeKey with
    | none => some .off
    | some text => [.off, .observe, .apply].find? fun mode : ControlMode => mode.text = text)
  some ⟨mode, match dictGet environment agentBindKey with
    | none | some [] => BindHost.everywhere.text
    | some text => text⟩

/-- No line assigns the key with blanks around it. -/
def PlainKey (key : List Char) (lines : List (List Char)) : Prop :=
  ∀ line ∈ lines, Assigns key line → settingKey line = key

theorem valueIn_settingLines_plain {values : List (List Char × List Char)}
    (h : Remaining values) (hkey : dictGet values key = some value)
    (hname : key.head? ≠ some '#') (hplain : PlainKey key lines) (seen : List (List Char)) :
    valueIn key (settingLines values seen lines) = some value ∨
      key ∈ seen ∧ valueIn key (settingLines values seen lines) = none := by
  induction lines generalizing seen with
  | nil =>
    rw [settingLines, valueIn_unseen h, if_neg hname, hkey]
    by_cases hseen : key ∈ seen
    · exact .inr ⟨hseen, if_neg (not_not.2 hseen)⟩
    · exact .inl (if_pos hseen)
  | cons line lines ih =>
    obtain ⟨hline, hlines⟩ := List.forall_mem_cons.1 hplain
    by_cases hsame : settingKey line = key
    · -- the line is replaced, and those below have the new value or none
      rw [settingLines, hsame, hkey]
      dsimp only
      rw [valueIn_cons, lineValue_field (h.plain _ (mem_of_dictGet hkey)), if_pos ⟨rfl, hname⟩]
      rcases ih hlines (key :: seen) with hrest | ⟨-, hrest⟩
      · rw [hrest]
        exact .inl rfl
      · rw [hrest]
        exact .inl rfl
    · rw [settingLines]
      cases hmatch : dictGet values (settingKey line) with
      | none =>
        dsimp only
        rw [valueIn_cons, lineValue_eq_none.2 fun hassigns => hsame (hline hassigns),
          Option.or_none]
        exact ih hlines seen
      | some other =>
        dsimp only
        rw [valueIn_cons, lineValue_field (h.plain _ (mem_of_dictGet hmatch)),
          if_neg fun hboth => hsame hboth.1, Option.or_none]
        rcases ih hlines (settingKey line :: seen) with hrest | ⟨hseen, hrest⟩
        · exact .inl hrest
        · refine .inr ⟨?_, hrest⟩
          rcases List.mem_cons.1 hseen with heq | hseen
          · exact absurd heq.symm hsame
          · exact hseen

theorem bareKeyChar_not_blank (h : bareKeyChar c = true) : isTextBlank c = false := by
  change (((decide (65 ≤ c.val ∧ c.val ≤ 90) ||
    (decide (97 ≤ c.val) && decide (c.val ≤ 122))) ||
    (decide (48 ≤ c.val) && decide (c.val ≤ 57))) || c == '_') = true at h
  simp only [Bool.or_eq_true, Bool.and_eq_true, decide_eq_true_eq, UInt32.le_iff_toNat_le,
    UInt32.reduceToNat, beq_iff_eq] at h
  have hrange : 48 ≤ c.toNat ∧ c.toNat ≤ 122 := by
    change 48 ≤ c.val.toNat ∧ c.val.toNat ≤ 122
    rcases h with ((h | h) | h) | rfl
    · omega
    · omega
    · omega
    · decide
  simp only [isTextBlank, isPySpace, Bool.or_eq_false_iff, Bool.and_eq_false_iff,
    decide_eq_false_iff_not, beq_eq_false_iff_ne, ne_eq]
  omega

theorem strip_bare (h : text.all bareKeyChar = true) : strip text = text := by
  rw [List.all_eq_true] at h
  exact strip_eq_self (fun c hc => bareKeyChar_not_blank (h c (List.mem_of_mem_head? hc)))
    fun c hc => bareKeyChar_not_blank (h c (List.mem_of_getLast? hc))

/-- The script and Compose find one key in a simple line. -/
theorem SimpleLine.reads (h : SimpleLine line) (hassigns : Assigns key line) :
    settingKey line = key := by
  obtain ⟨hsign, rfl, hcomment⟩ := assigns_iff.1 hassigns
  rw [settingKey, envKey, if_pos hsign, if_pos hsign]
  rcases h with hblank | hhead | ⟨-, hbare, -, -⟩
  · have hstripped : '=' ∈ strip line := (mem_strip (by decide)).2 hsign
    rw [hblank] at hstripped
    cases hstripped
  · cases line with
    | nil => cases hhead
    | cons c text =>
      cases hhead
      rw [envKey, if_pos hsign, List.takeWhile_cons_of_pos (by decide),
        head_strip_cons (by decide)] at hcomment
      exact absurd rfl hcomment
  · rw [settingKey, if_pos hsign] at hbare
    exact (strip_bare hbare).symm

theorem simple_settingLines (h : ∀ p ∈ values, SimpleLine (fieldLine p))
    (hlines : ∀ line ∈ lines, SimpleLine line) (seen : List (List Char)) :
    ∀ line ∈ settingLines values seen lines, SimpleLine line := by
  induction lines generalizing seen with
  | nil =>
    intro line hline
    obtain ⟨p, hp, rfl⟩ := List.mem_map.1 hline
    exact h p (List.mem_of_mem_filter hp)
  | cons first lines ih =>
    obtain ⟨hhead, hrest⟩ := List.forall_mem_cons.1 hlines
    rw [settingLines]
    cases hmatch : dictGet values (settingKey first) with
    | none => exact List.forall_mem_cons.2 ⟨hhead, ih hrest _⟩
    | some value => exact List.forall_mem_cons.2 ⟨h _ (mem_of_dictGet hmatch), ih hrest _⟩

/-- The file has simple lines only. -/
def PlainSettings (envFile : List Char) : Prop := ∀ line ∈ splitLines envFile, SimpleLine line

theorem simple_controlSettings (mode : ControlMode) (bindHost : BindHost) :
    ∀ p ∈ (controlSettings mode bindHost).values, SimpleLine (fieldLine p) := by
  intro p hp
  simp only [controlSettings, List.mem_cons, List.not_mem_nil, or_false] at hp
  obtain rfl | rfl := hp
  · cases mode <;> exact .inr (.inr ⟨by decide, by decide, by decide, by decide⟩)
  · cases bindHost <;> exact .inr (.inr ⟨by decide, by decide, by decide, by decide⟩)

theorem PlainSettings.set (h : PlainSettings envFile) (mode : ControlMode) (bindHost : BindHost) :
    PlainSettings (setNodeControlSettings envFile (controlSettings mode bindHost)) := by
  have hsimple := simple_settingLines (simple_controlSettings mode bindHost) h []
  have hone : ∀ line ∈ settingLines (controlSettings mode bindHost).values []
      (splitLines envFile), OneLine line :=
    oneLine_settingLines (controlSettings mode bindHost).oneLine
      (fun _ hline => oneLine_of_mem_splitLines hline) []
  rw [PlainSettings, setNodeControlSettings, splitLines_joined hone]
  split
  · rw [List.forall_mem_singleton]
    exact .inl rfl
  · exact hsimple

theorem readAgent_setNodeControlSettings (compose : ComposeFile) (h : PlainSettings envFile)
    (mode : ControlMode) (bindHost : BindHost) :
    readAgent (compose.environment
      (setNodeControlSettings envFile (controlSettings mode bindHost))) =
      some ⟨mode, bindHost.text⟩ := by
  have hvalue : ∀ key value, dictGet (controlSettings mode bindHost).values key = some value →
      key.head? ≠ some '#' → LiteralValue value →
      dictGet (compose.environment
        (setNodeControlSettings envFile (controlSettings mode bindHost))) key = some value := by
    intro key value hkey hname hplain
    rw [setNodeControlSettings]
    refine compose.last_value _ key value (fun line hline => ⟨?_, ?_⟩) ?_ hplain
    · exact simple_settingLines (simple_controlSettings mode bindHost) h [] line hline
    · exact oneLine_settingLines (controlSettings mode bindHost).oneLine
        (fun _ hline => oneLine_of_mem_splitLines hline) [] line hline
    · rcases valueIn_settingLines_plain (controlSettings mode bindHost).remaining hkey hname
        (fun line hline => (h line hline).reads) [] with hsome | ⟨hseen, -⟩
      · exact hsome
      · cases hseen
  rw [readAgent, hvalue controlModeKey mode.text rfl (by decide) (by cases mode <;> rfl),
    hvalue agentBindKey bindHost.text rfl (by decide) (by cases bindHost <;> rfl)]
  cases mode <;> cases bindHost <;> rfl

/-! ## Steps on a node -/

/-- A node with its row in the central database. -/
structure Rollout (D M : Type) where
  envFile : List Char
  agent : Option RunningAgent
  filter : NodeFilter M
  server : Server D

inductive RolloutStep
  | setNodeControlSettings (mode : ControlMode) (bindHost : BindHost)
  | recreateAgent
  | firewall (line : FirewallLine)
  | setServerControlMode (mode : NodeMode)
  deriving DecidableEq

section Steps
variable {D M E : Type} {compose : ComposeFile}

def Rollout.setMode (s : Rollout D M) (mode : NodeMode) : Rollout D M :=
  { s with server := { s.server with controlMode := mode } }

def Rollout.configure (s : Rollout D M) (mode : ControlMode) (bindHost : BindHost) :
    Rollout D M :=
  { s with
    envFile := AegisVPN.setNodeControlSettings s.envFile (controlSettings mode bindHost)
    agent := some ⟨mode, bindHost.text⟩ }

theorem Rollout.configure_plain (s : Rollout D M) (h : PlainSettings s.envFile) (mode : ControlMode)
    (bindHost : BindHost) : PlainSettings (s.configure mode bindHost).envFile :=
  h.set mode bindHost

/-! ## Ways in which access reaches a node -/

/-- The bot calls the agent, which can be reached. -/
structure PushArrives (others : M → Packet E → Bool) (control : Ipv4Address) (s : Rollout D M) :
    Prop where
  pushes : pushesTo s.server = true
  binds : ∃ agent, s.agent = some agent ∧ agent.bindHost = BindHost.everywhere.text
  accepts : ∀ (packet : Packet E) (depth : Nat), packet.toAgent = true → packet.source = control →
    s.filter.decision (FirewallMatch.holds others) (depth + 1) packet = .accept

/-- Snapshots are published, and the agent applies them. -/
structure PullArrives (s : Rollout D M) : Prop where
  publishes : publishesFor s.server = true
  applies : ∃ agent, s.agent = some agent ∧ agent.mode = .apply

def AccessArrives (others : M → Packet E → Bool) (control : Ipv4Address) (s : Rollout D M) : Prop :=
  PullArrives s ∨ PushArrives others control s

theorem publishesFor_iff {server : Server D} :
    publishesFor server = true ↔ server.controlMode ≠ .push := by
  rw [publishesFor]
  cases server.controlMode <;> decide

/-- The steps of a promotion never take the agent out of the mode in which it applies. -/
def RolloutStep.Applies : RolloutStep → Prop
  | .setNodeControlSettings mode _ => mode = .apply
  | .setServerControlMode mode => mode ≠ .push
  | .recreateAgent | .firewall _ => True

structure Applying (compose : ComposeFile) (s : Rollout D M) : Prop where
  plain : PlainSettings s.envFile
  configured : ∃ agent, readAgent (compose.environment s.envFile) = some agent ∧ agent.mode = .apply
  running : ∃ agent, s.agent = some agent ∧ agent.mode = .apply
  mode : s.server.controlMode ≠ .push

theorem Applying.arrives {s : Rollout D M} (h : Applying compose s) : PullArrives s :=
  ⟨publishesFor_iff.2 h.mode, h.running⟩

/-! ## Scripts -/

variable [DecidableEq M]

def RolloutStep.perform (compose : ComposeFile) (s : Rollout D M) :
    RolloutStep → Option (Rollout D M)
  | .setNodeControlSettings mode bindHost =>
    some { s with
      envFile := AegisVPN.setNodeControlSettings s.envFile (controlSettings mode bindHost) }
  | .recreateAgent => some { s with agent := readAgent (compose.environment s.envFile) }
  | .firewall line => (line.perform s.filter).map fun filter => { s with filter := filter }
  | .setServerControlMode mode => some (s.setMode mode)

/-- The steps are performed until one of them fails. -/
def runSteps (compose : ComposeFile) : Rollout D M → List RolloutStep → Rollout D M
  | s, [] => s
  | s, step :: steps =>
    match step.perform compose s with
    | none => s
    | some s' => runSteps compose s' steps

def performSteps (compose : ComposeFile) (s : Rollout D M) (steps : List RolloutStep) :
    Option (Rollout D M) :=
  steps.foldlM (RolloutStep.perform compose) s

def nodeSettings (mode : ControlMode) (bindHost : BindHost) : List RolloutStep :=
  [.setNodeControlSettings mode bindHost, .recreateAgent]

def applyAgentFirewall (control : Ipv4Address) (allowControlServer : Bool) : List RolloutStep :=
  (agentFirewall control allowControlServer).map .firewall

/-- The steps of a promotion, and whether it comes to its end. -/
def promotePull (control : Ipv4Address) (polls : List PromotionPoll) :
    List RolloutStep × Except String Unit :=
  match awaitAcknowledgement "no acknowledgement received" polls with
  | .error e => (nodeSettings .apply .everywhere ++ applyAgentFirewall control true, .error e)
  | .ok () => (nodeSettings .apply .everywhere ++ applyAgentFirewall control true ++
      nodeSettings .apply .loopback ++ applyAgentFirewall control false ++
      [.setServerControlMode .pull], .ok ())

def rollbackObserve (control : Ipv4Address) : List RolloutStep :=
  .setServerControlMode .observe ::
    (nodeSettings .observe .everywhere ++ applyAgentFirewall control true)

/-- What an operator runs on a node, one after the other. -/
inductive RolloutScript
  | promotePull (polls : List PromotionPoll)
  | rollbackObserve
  | updateAgent

def RolloutScript.steps (control : Ipv4Address) : RolloutScript → List RolloutStep
  | .promotePull polls => (AegisVPN.promotePull control polls).1
  | .rollbackObserve => AegisVPN.rollbackObserve control
  | .updateAgent => [.recreateAgent]

/-- The scripts that were started, each with the number of steps after which it was cut off. -/
def runSessions (compose : ComposeFile) (control : Ipv4Address) (s : Rollout D M)
    (sessions : List (RolloutScript × Nat)) : Rollout D M :=
  sessions.foldl (fun s session => runSteps compose s ((session.1.steps control).take session.2)) s

/-! ## What every step keeps -/

/-- The agent applies what it pulls, or it observes and takes requests, as the database says. -/
def Agreed (mode : NodeMode) (agent : RunningAgent) : Prop :=
  agent.mode = .apply ∨ mode = .observe ∧ agent = ⟨.observe, BindHost.everywhere.text⟩

structure RolledOut (compose : ComposeFile) (s : Rollout D M) : Prop where
  plain : PlainSettings s.envFile
  configured : ∃ agent, readAgent (compose.environment s.envFile) = some agent ∧
    Agreed s.server.controlMode agent
  running : ∃ agent, s.agent = some agent ∧ Agreed s.server.controlMode agent
  mode : s.server.controlMode ≠ .push
  own : OwnChain s.filter
  entered : enterRule ∈ s.filter.input

/-- When a step may be taken. -/
def RolloutStep.Safe (compose : ComposeFile) (s : Rollout D M) : RolloutStep → Prop
  | .setNodeControlSettings mode bindHost =>
    Agreed s.server.controlMode ⟨mode, bindHost.text⟩
  | .recreateAgent | .firewall _ => True
  | .setServerControlMode mode => mode = .observe ∨ mode = .pull ∧
    (∀ agent, s.agent = some agent → agent.mode = .apply) ∧
    ∀ agent, readAgent (compose.environment s.envFile) = some agent → agent.mode = .apply

theorem Agreed.observe (h : Agreed mode agent) : Agreed .observe agent := by
  rcases h with happly | ⟨-, hagent⟩
  · exact .inl happly
  · exact .inr ⟨rfl, hagent⟩

theorem RolledOut.perform {s s' : Rollout D M} {step : RolloutStep} (h : RolledOut compose s)
    (hsafe : step.Safe compose s) (hperform : step.perform compose s = some s') :
    RolledOut compose s' := by
  cases step with
  | setNodeControlSettings mode bindHost =>
    cases hperform
    exact { h with
      plain := h.plain.set mode bindHost
      configured := ⟨_, readAgent_setNodeControlSettings compose h.plain mode bindHost, hsafe⟩ }
  | recreateAgent =>
    cases hperform
    exact { h with running := h.configured }
  | firewall line =>
    obtain ⟨filter, hline, rfl⟩ := Option.map_eq_some_iff.1 hperform
    have hkept : FilterKept (E := Unit) (fun _ _ => false) s.filter filter :=
      perform_kept h.own hline
    refine { h with own := hkept.own, entered := ?_ }
    cases line with
    | newChain =>
      cases hline
      split
      · exact h.entered
      · exact h.entered
    | flush =>
      obtain ⟨rules, -, rfl⟩ := Option.map_eq_some_iff.1 hline
      exact h.entered
    | append source verdict =>
      obtain ⟨rules, -, rfl⟩ := Option.map_eq_some_iff.1 hline
      exact h.entered
    | enter =>
      cases hline
      rw [if_pos h.entered]
      exact h.entered
  | setServerControlMode mode =>
    cases hperform
    obtain ⟨configured, hconfigured, hagreed⟩ := h.configured
    obtain ⟨running, hrunning, hagreed'⟩ := h.running
    rcases hsafe with rfl | ⟨rfl, hagent, hfile⟩
    · exact { h with
        configured := ⟨configured, hconfigured, hagreed.observe⟩
        running := ⟨running, hrunning, hagreed'.observe⟩
        mode := NodeMode.noConfusion }
    · exact { h with
        configured := ⟨configured, hconfigured, .inl (hfile _ hconfigured)⟩
        running := ⟨running, hrunning, .inl (hagent _ hrunning)⟩
        mode := NodeMode.noConfusion }

/-- Each step is safe where it is taken. -/
def SafeSteps (compose : ComposeFile) : List RolloutStep → Rollout D M → Prop
  | [], _ => True
  | step :: steps, s => step.Safe compose s ∧
    ∀ s', step.perform compose s = some s' → SafeSteps compose steps s'

theorem RolledOut.run {steps : List RolloutStep} {s : Rollout D M} (h : RolledOut compose s)
    (hsafe : SafeSteps compose steps s) (n : Nat) :
    RolledOut compose (runSteps compose s (steps.take n)) := by
  induction steps generalizing s n with
  | nil =>
    rw [List.take_nil]
    exact h
  | cons step steps ih =>
    cases n with
    | zero => exact h
    | succ n =>
      rw [List.take_succ_cons, runSteps]
      cases hperform : step.perform compose s with
      | none => exact h
      | some s' => exact ih (h.perform hsafe.1 hperform) (hsafe.2 s' hperform) n

theorem safeSteps_append {first second : List RolloutStep} {s : Rollout D M}
    (hfirst : SafeSteps compose first s)
    (hsecond : ∀ s', performSteps compose s first = some s' → SafeSteps compose second s') :
    SafeSteps compose (first ++ second) s := by
  induction first generalizing s with
  | nil => exact hsecond s rfl
  | cons step first ih =>
    refine ⟨hfirst.1, fun s' hperform => ih (hfirst.2 s' hperform) fun s'' hrest => hsecond s'' ?_⟩
    rw [performSteps, List.foldlM_cons, hperform]
    exact hrest

/-! ## The blocks of the scripts -/

def Rollout.closeTo (s : Rollout D M) (control : Ipv4Address) (allowControlServer : Bool) :
    Rollout D M :=
  { s with filter := enterChain (setAgentChain s.filter (agentRules control allowControlServer)) }

theorem performSteps_append (s : Rollout D M) (first second : List RolloutStep) :
    performSteps compose s (first ++ second) =
      (performSteps compose s first).bind fun s' => performSteps compose s' second :=
  List.foldlM_append

theorem performSteps_nodeSettings {s : Rollout D M} (h : PlainSettings s.envFile)
    (mode : ControlMode) (bindHost : BindHost) :
    performSteps compose s (nodeSettings mode bindHost) = some (s.configure mode bindHost) := by
  change some ({ s with
    envFile := AegisVPN.setNodeControlSettings s.envFile (controlSettings mode bindHost)
    agent := readAgent (compose.environment
      (AegisVPN.setNodeControlSettings s.envFile (controlSettings mode bindHost))) }
      : Rollout D M) = _
  rw [readAgent_setNodeControlSettings compose h]
  rfl

theorem performSteps_firewall (s : Rollout D M) (lines : List FirewallLine) :
    performSteps compose s (lines.map .firewall) =
      (performLines s.filter lines).map fun filter => { s with filter := filter } := by
  induction lines generalizing s with
  | nil => rfl
  | cons line lines ih =>
    rw [List.map_cons, performSteps, List.foldlM_cons, performLines, List.foldlM_cons]
    cases hline : line.perform s.filter with
    | none =>
      have hstep : (RolloutStep.firewall line).perform compose s = none := by
        rw [RolloutStep.perform, hline]
        rfl
      rw [hstep]
      rfl
    | some filter =>
      have hstep : (RolloutStep.firewall line).perform compose s =
          some { s with filter := filter } := by
        rw [RolloutStep.perform, hline]
        rfl
      rw [hstep]
      exact ih _

theorem performSteps_applyAgentFirewall (s : Rollout D M) (control : Ipv4Address)
    (allowControlServer : Bool) :
    performSteps compose s (applyAgentFirewall control allowControlServer) =
      some (s.closeTo control allowControlServer) := by
  rw [applyAgentFirewall, performSteps_firewall, performLines_agentFirewall]
  rfl

/-! ## The scripts are safe -/

theorem safe_nodeSettings {s : Rollout D M} {mode : ControlMode} {bindHost : BindHost}
    (h : Agreed s.server.controlMode ⟨mode, bindHost.text⟩) :
    SafeSteps compose (nodeSettings mode bindHost) s :=
  ⟨h, fun _ _ => ⟨trivial, fun _ _ => trivial⟩⟩

theorem safe_firewall (lines : List FirewallLine) (s : Rollout D M) :
    SafeSteps compose (lines.map .firewall) s := by
  induction lines generalizing s with
  | nil => trivial
  | cons line lines ih => exact ⟨trivial, fun s' _ => ih s'⟩

theorem safe_rollbackObserve (control : Ipv4Address) (s : Rollout D M) :
    SafeSteps compose (rollbackObserve control) s := by
  refine ⟨.inl rfl, fun s' hperform => ?_⟩
  cases hperform
  exact safeSteps_append (safe_nodeSettings (.inr ⟨rfl, rfl⟩)) fun _ _ => safe_firewall _ _

theorem performSteps_opened {s : Rollout D M} (h : PlainSettings s.envFile)
    (control : Ipv4Address) :
    performSteps compose s (nodeSettings .apply .everywhere ++ applyAgentFirewall control true) =
      some ((s.configure .apply .everywhere).closeTo control true) := by
  rw [performSteps_append, performSteps_nodeSettings h, Option.bind_some,
    performSteps_applyAgentFirewall]

theorem performSteps_closed {s : Rollout D M} (h : PlainSettings s.envFile)
    (control : Ipv4Address) :
    performSteps compose s (nodeSettings .apply .everywhere ++ applyAgentFirewall control true ++
        nodeSettings .apply .loopback ++ applyAgentFirewall control false) =
      some ((((s.configure .apply .everywhere).closeTo control true).configure .apply
        .loopback).closeTo control false) := by
  rw [performSteps_append, performSteps_append, performSteps_opened h, Option.bind_some,
    performSteps_nodeSettings, Option.bind_some, performSteps_applyAgentFirewall]
  exact s.configure_plain h .apply .everywhere

theorem safe_promotePull (control : Ipv4Address) (polls : List PromotionPoll) {s : Rollout D M}
    (h : PlainSettings s.envFile) : SafeSteps compose (promotePull control polls).1 s := by
  have hopened : SafeSteps compose
      (nodeSettings .apply .everywhere ++ applyAgentFirewall control true) s :=
    safeSteps_append (safe_nodeSettings (.inl rfl)) fun _ _ => safe_firewall _ _
  rw [promotePull]
  split
  · exact hopened
  · refine safeSteps_append ?_ fun s' hperform => ?_
    · refine safeSteps_append ?_ fun _ _ => safe_firewall _ _
      exact safeSteps_append hopened fun _ _ => safe_nodeSettings (.inl rfl)
    · -- the agent was started from the file that was written last
      rw [performSteps_closed h] at hperform
      cases hperform
      refine ⟨.inr ⟨rfl, ?_, ?_⟩, fun _ _ => trivial⟩
      · intro agent hagent
        cases hagent
        rfl
      · intro agent hagent
        have hread := readAgent_setNodeControlSettings compose
          (s.configure_plain h .apply .everywhere) .apply .loopback
        rw [Option.some.inj (hagent.symm.trans hread)]

theorem safe_steps (control : Ipv4Address) (script : RolloutScript) {s : Rollout D M}
    (h : PlainSettings s.envFile) : SafeSteps compose (script.steps control) s := by
  cases script with
  | promotePull polls => exact safe_promotePull control polls h
  | rollbackObserve => exact safe_rollbackObserve control s
  | updateAgent => exact ⟨trivial, fun _ _ => trivial⟩

theorem RolledOut.sessions {s : Rollout D M} (h : RolledOut compose s) (control : Ipv4Address)
    (sessions : List (RolloutScript × Nat)) :
    RolledOut compose (runSessions compose control s sessions) := by
  induction sessions generalizing s with
  | nil => exact h
  | cons session sessions ih => exact ih (h.run (safe_steps control session.1 h.plain) session.2)

/-! ## Only an acknowledged promotion ends pushing -/

theorem runSteps_observing {steps : List RolloutStep} {s : Rollout D M}
    (h : .setServerControlMode .pull ∉ steps) (hmode : s.server.controlMode ≠ .pull) :
    (runSteps compose s steps).server.controlMode ≠ .pull := by
  induction steps generalizing s with
  | nil => exact hmode
  | cons step steps ih =>
    rw [runSteps]
    cases hperform : step.perform compose s with
    | none => exact hmode
    | some s' =>
      refine ih (fun hmem => h (List.mem_cons_of_mem _ hmem)) ?_
      cases step with
      | setServerControlMode mode =>
        cases hperform
        rintro rfl
        exact h List.mem_cons_self
      | firewall line =>
        obtain ⟨filter, -, rfl⟩ := Option.map_eq_some_iff.1 hperform
        exact hmode
      | setNodeControlSettings mode bindHost =>
        cases hperform
        exact hmode
      | recreateAgent =>
        cases hperform
        exact hmode

theorem not_mem_applyAgentFirewall (control : Ipv4Address) (allowControlServer : Bool) :
    .setServerControlMode .pull ∉ applyAgentFirewall control allowControlServer := by
  intro h
  obtain ⟨line, -, hline⟩ := List.mem_map.1 h
  cases hline

theorem promotePull_acknowledged {control : Ipv4Address} {polls : List PromotionPoll}
    (h : .setServerControlMode .pull ∈ (promotePull control polls).1) :
    ∃ poll ∈ polls, AcknowledgedPoll poll := by
  rw [promotePull] at h
  split at h
  · rcases List.mem_append.1 h with h | h
    · simp [nodeSettings] at h
    · exact absurd h (not_mem_applyAgentFirewall control true)
  · rename_i hok
    exact awaitAcknowledgement_ok hok

theorem sessions_acknowledged (control : Ipv4Address) {s : Rollout D M}
    (hmode : s.server.controlMode ≠ .pull) {sessions : List (RolloutScript × Nat)}
    (h : (runSessions compose control s sessions).server.controlMode = .pull) :
    ∃ polls n, (.promotePull polls, n) ∈ sessions ∧ ∃ poll ∈ polls, AcknowledgedPoll poll := by
  induction sessions generalizing s with
  | nil => exact absurd h hmode
  | cons session sessions ih =>
    by_cases hpull : .setServerControlMode .pull ∈ session.1.steps control
    · obtain ⟨script, n⟩ := session
      cases script with
      | promotePull polls =>
        exact ⟨polls, n, List.mem_cons_self, promotePull_acknowledged hpull⟩
      | rollbackObserve =>
        simp only [RolloutScript.steps, rollbackObserve, nodeSettings, List.mem_append,
          List.mem_cons, RolloutStep.setServerControlMode.injEq, reduceCtorEq, List.not_mem_nil,
          or_false, false_or] at hpull
        exact absurd hpull (not_mem_applyAgentFirewall control true)
      | updateAgent => simp [RolloutScript.steps] at hpull
    · have hnext : (runSteps compose s
          ((session.1.steps control).take session.2)).server.controlMode ≠ .pull :=
        runSteps_observing (fun hmem => hpull (List.mem_of_mem_take hmem)) hmode
      obtain ⟨polls, n, hmem, hpoll⟩ := ih hnext h
      exact ⟨polls, n, List.mem_cons_of_mem _ hmem, hpoll⟩

/-! ## Promotions that are cut off -/

theorem Applying.run {s : Rollout D M} (h : Applying compose s) {steps : List RolloutStep}
    (hsteps : ∀ step ∈ steps, step.Applies) : Applying compose (runSteps compose s steps) := by
  induction steps generalizing s with
  | nil => exact h
  | cons step steps ih =>
    obtain ⟨hstep, hsteps⟩ := List.forall_mem_cons.1 hsteps
    rw [runSteps]
    cases hperform : step.perform compose s with
    | none => exact h
    | some s' =>
      refine ih ?_ hsteps
      cases step with
      | setNodeControlSettings mode bindHost =>
        cases hperform
        cases hstep
        exact { h with
          plain := s.configure_plain h.plain .apply bindHost
          configured := ⟨_, readAgent_setNodeControlSettings compose h.plain .apply bindHost, rfl⟩ }
      | recreateAgent =>
        cases hperform
        exact { h with running := h.configured }
      | firewall line =>
        obtain ⟨filter, -, rfl⟩ := Option.map_eq_some_iff.1 hperform
        exact { h with }
      | setServerControlMode mode =>
        cases hperform
        exact { h with mode := hstep }

theorem applies_promotePull (control : Ipv4Address) (polls : List PromotionPoll) :
    ∀ step ∈ (promotePull control polls).1, step.Applies := by
  have hfirewall : ∀ allow, ∀ step ∈ applyAgentFirewall control allow, step.Applies := by
    intro allow step hstep
    obtain ⟨line, -, rfl⟩ := List.mem_map.1 hstep
    trivial
  have hsettings : ∀ bindHost, ∀ step ∈ nodeSettings .apply bindHost, step.Applies :=
    fun bindHost => List.forall_mem_cons.2 ⟨rfl, List.forall_mem_singleton.2 trivial⟩
  have hopened : ∀ step ∈ nodeSettings .apply .everywhere ++ applyAgentFirewall control true,
      step.Applies := List.forall_mem_append.2 ⟨hsettings .everywhere, hfirewall true⟩
  rw [promotePull]
  split
  · exact hopened
  · exact List.forall_mem_append.2 ⟨List.forall_mem_append.2 ⟨List.forall_mem_append.2 ⟨hopened,
      hsettings .loopback⟩, hfirewall false⟩, List.forall_mem_singleton.2 NodeMode.noConfusion⟩

/-- A promotion that is cut off anywhere leaves a way for access to reach the node. -/
theorem accessArrives_promotePull {others : M → Packet E → Bool} {control : Ipv4Address}
    {s : Rollout D M} (h : RolledOut compose s) (hs : AccessArrives others control s)
    (polls : List PromotionPoll) (n : Nat) :
    AccessArrives others control (runSteps compose s ((promotePull control polls).1.take n)) := by
  have happlies := applies_promotePull control polls
  have hstart : ∃ rest, (promotePull control polls).1 =
      .setNodeControlSettings .apply .everywhere :: .recreateAgent :: rest := by
    rw [promotePull]
    split
    · exact ⟨_, rfl⟩
    · exact ⟨_, rfl⟩
  obtain ⟨rest, hrest⟩ := hstart
  rw [hrest] at happlies ⊢
  match n with
  | 0 => exact hs
  | 1 =>
    -- the file alone changes nothing
    rcases hs with hs | hs
    · exact .inl { hs with }
    · exact .inr { hs with }
  | n + 2 =>
    have happlying : Applying compose (s.configure .apply .everywhere) :=
      { plain := s.configure_plain h.plain .apply .everywhere
        configured := ⟨_, readAgent_setNodeControlSettings compose h.plain .apply .everywhere, rfl⟩
        running := ⟨_, rfl, rfl⟩
        mode := h.mode }
    have hrun : runSteps compose s ((.setNodeControlSettings .apply .everywhere :: .recreateAgent ::
        rest).take (n + 2)) = runSteps compose (s.configure .apply .everywhere) (rest.take n) := by
      change runSteps compose { s with
        envFile := AegisVPN.setNodeControlSettings s.envFile (controlSettings .apply .everywhere)
        agent := readAgent (compose.environment (AegisVPN.setNodeControlSettings s.envFile
          (controlSettings .apply .everywhere))) } (rest.take n) = _
      rw [readAgent_setNodeControlSettings compose h.plain]
      rfl
    rw [hrun]
    refine .inl (happlying.run fun step hstep => happlies step ?_).arrives
    exact List.mem_cons_of_mem _ (List.mem_cons_of_mem _ (List.mem_of_mem_take hstep))

/-! ## Scripts that come to their end -/

/-- Just those from the addresses reach the agent API. -/
def Admits (others : M → Packet E → Bool) (s : Rollout D M) (allowed : Ipv4Address → Bool) :
    Prop :=
  ∀ (packet : Packet E) (depth : Nat), packet.toAgent = true →
    s.filter.decision (FirewallMatch.holds others) (depth + 1) packet =
      if allowed packet.source then .accept else .reject

theorem runSteps_of_perform {s s' : Rollout D M} {steps : List RolloutStep}
    (h : performSteps compose s steps = some s') : runSteps compose s steps = s' := by
  induction steps generalizing s with
  | nil => exact Option.some.inj h
  | cons step steps ih =>
    rw [performSteps, List.foldlM_cons] at h
    obtain ⟨middle, hstep, hrest⟩ := Option.bind_eq_some_iff.1 h
    rw [runSteps, hstep]
    exact ih hrest

theorem own_closeTo {s : Rollout D M} (h : OwnChain s.filter) (control : Ipv4Address)
    (allow : Bool) : OwnChain (s.closeTo control allow).filter := by
  have hkept : FilterKept (E := Unit) (fun _ _ => false) s.filter
      (s.closeTo control allow).filter :=
    performLines_kept h (performLines_agentFirewall s.filter control allow)
  exact hkept.own

theorem admits_closeTo (others : M → Packet E → Bool) {s : Rollout D M} (h : OwnChain s.filter)
    (control : Ipv4Address) (allow : Bool) :
    Admits others (s.closeTo control allow) (admitted control allow) :=
  fun _ depth hpacket => decision_entered h control allow hpacket depth

theorem runSteps_rollbackObserve {s : Rollout D M} (h : PlainSettings s.envFile)
    (control : Ipv4Address) : runSteps compose s (rollbackObserve control) =
      ((s.setMode .observe).configure .observe .everywhere).closeTo control true := by
  apply runSteps_of_perform
  change performSteps compose (s.setMode .observe)
    (nodeSettings .observe .everywhere ++ applyAgentFirewall control true) = _
  rw [performSteps_append, performSteps_nodeSettings (s := s.setMode .observe) h, Option.bind_some,
    performSteps_applyAgentFirewall]

theorem runSteps_promotePull_error {s : Rollout D M} (h : PlainSettings s.envFile)
    {control : Ipv4Address} {polls : List PromotionPoll}
    (herror : (promotePull control polls).2 = .error e) :
    runSteps compose s (promotePull control polls).1 =
      (s.configure .apply .everywhere).closeTo control true := by
  apply runSteps_of_perform
  rw [promotePull] at herror ⊢
  split at herror
  · exact performSteps_opened h control
  · cases herror

theorem runSteps_promotePull_ok {s : Rollout D M} (h : PlainSettings s.envFile)
    {control : Ipv4Address} {polls : List PromotionPoll}
    (hok : (promotePull control polls).2 = .ok ()) :
    runSteps compose s (promotePull control polls).1 =
      ((((s.configure .apply .everywhere).closeTo control true).configure .apply
        .loopback).closeTo control false).setMode .pull := by
  apply runSteps_of_perform
  rw [promotePull] at hok ⊢
  split at hok
  · cases hok
  · dsimp only
    rw [performSteps_append, performSteps_closed h]
    rfl

end Steps

/-- A node as it is added, which is observed and open to the control server. -/
def observedNode : Rollout String Nat where
  envFile := "CONTROL_MODE=observe\nAGENT_BIND_HOST=0.0.0.0\n".toList
  agent := some ⟨.observe, BindHost.everywhere.text⟩
  filter := enterChain (setAgentChain freshFilter (agentRules controlAddress true))
  server := ⟨1, "node.example", 443, "", "", "", .observe, 4, 4, none, none, .both, true, true⟩

/-- Compose on lines as these. -/
def lineCompose : ComposeFile where
  environment := parseEnv
  last_value := by
    intro lines key value hlines hvalue _
    rw [dictGet_parseEnv, valueIn_joined key fun line hline => (hlines line hline).2, hvalue]

theorem observedNode_rolledOut : RolledOut lineCompose observedNode where
  plain := by
    have hlines : splitLines observedNode.envFile =
        ["CONTROL_MODE=observe".toList, "AGENT_BIND_HOST=0.0.0.0".toList] := by decide
    rw [PlainSettings, hlines, List.forall_mem_cons, List.forall_mem_singleton]
    exact ⟨.inr (.inr ⟨by decide, by decide, by decide, by decide⟩),
      .inr (.inr ⟨by decide, by decide, by decide, by decide⟩)⟩
  configured := ⟨⟨.observe, BindHost.everywhere.text⟩, by decide, .inr ⟨rfl, rfl⟩⟩
  running := ⟨_, rfl, .inr ⟨rfl, rfl⟩⟩
  mode := NodeMode.noConfusion
  own := ⟨fun _ hrule => mem_agentRules hrule, fun _ => by decide⟩
  entered := by decide

def readyPoll : PromotionPoll := ⟨⟨4, 4, some "digest", some "digest", some 1000000, none⟩, 2000000⟩

end AegisVPN
