import AegisVPN.Agent.PushedClients
import AegisVPN.Deploy.EnvFile

namespace AegisVPN
open Library
set_option autoImplicit true

/-! # Patching a node while it is in service -/

/-! ## The config of a node -/

/-- A routing rule, by what decides whether the profile removes it. -/
structure ProfileRule where
  outboundTag : Option String
  network : Option String
  port : Option String
  ip : List String
  domain : List String
  foreign : String
  deriving DecidableEq

structure NodeFile where
  inbounds : List Inbound
  outbounds : Option (List Outbound)
  handshake : Option Int
  connIdle : Option Int
  dns : Option String
  domainStrategy : Option String
  rules : List ProfileRule
  foreign : String
  deriving DecidableEq

structure StabilityTemplate where
  handshake : Int
  connIdle : Int
  dns : String
  domainStrategy : String

def ProfileRule.isRemoved (rule : ProfileRule) : Bool :=
  let blocksQuic := decide (rule.outboundTag = some "block") &&
    decide (rule.network = some "udp") && decide (rule.port = some "443")
  let redundantRuDirect := decide (rule.outboundTag = some "direct") &&
    (rule.ip.contains "geoip:ru" || rule.domain.contains "geosite:category-ru")
  blocksQuic || redundantRuDirect

def applyStabilityProfile (template : StabilityTemplate) (live : NodeFile) : NodeFile :=
  { live with
    handshake := some template.handshake
    connIdle := some template.connIdle
    dns := some template.dns
    domainStrategy := some template.domainStrategy
    rules := live.rules.filter fun rule => !rule.isRemoved }

/-- The client lists of the VLESS inbounds. -/
def NodeFile.vlessClients (file : NodeFile) : List (List ClientRecord) :=
  (file.inbounds.filter Inbound.isVless).map Inbound.clients

/-! ## The requests of the agent -/

def NodeFile.xray (file : NodeFile) : XrayConfig := ⟨file.inbounds, file.outbounds, none, none⟩

/-- The request changes the config. -/
def NodeFile.changedBy (file : NodeFile) (request : PushRequest) : Bool :=
  (request.plan file.xray : PushPlan Unit).changed

/-- The config that the request writes. -/
def NodeFile.written (file : NodeFile) (request : PushRequest) : NodeFile :=
  { file with inbounds := (request.plan file.xray : PushPlan Unit).config.inbounds }

/-- The config after a request that is carried through. -/
def NodeFile.applied (file : NodeFile) (request : PushRequest) : NodeFile :=
  if file.changedBy request then file.written request else file

/-! ## The tools -/

/-- The files on the node. -/
structure NodeFiles where
  config : NodeFile
  candidate : Option NodeFile
  backup : Option NodeFile
  agentEnv : List Char
  vpnEnv : List Char

/-- What `patch_node_stability` has read before it writes. -/
structure StabilityRead where
  patched : NodeFile
  agentEnv : List Char
  vpnEnv : List Char

/-- The next remote step of a tool. -/
inductive ToolPhase
  | readConfig (template : StabilityTemplate)
  | readAgentEnv (patched : NodeFile)
  | readVpnEnv (patched : NodeFile) (agentEnv : List Char)
  | writeCandidate (read : StabilityRead)
  | backUp (read : StabilityRead)
  | validate (read : StabilityRead)
  | activate (read : StabilityRead)
  | writeAgentEnv (read : StabilityRead)
  | writeVpnEnv (read : StabilityRead)
  | restart (read : StabilityRead)
  | health (read : StabilityRead)
  | restoreAgentEnv (read : StabilityRead)
  | restoreVpnEnv (read : StabilityRead)
  | restoreConfig (read : StabilityRead)
  | restartRestored
  | loadConfig (dns : String)
  | replaceConfig (patched : NodeFile)
  | restartPatched
  | ended

/-- A remote step is done, fails before it does anything, or is done and reported as failed. -/
inductive StepFate
  | done
  | failed
  | lost
  deriving DecidableEq

/-- The update of both environment files. -/
def connIdleUpdates : EnvUpdates where
  values := [("XRAY_CONN_IDLE".toList, "300".toList)]
  nodup := List.nodup_singleton _
  keys := by
    intro p hp
    rw [List.mem_singleton.1 hp]
    exact ⟨by decide, rfl, oneLine_of_all (by decide)⟩
  plain := by
    intro p hp
    rw [List.mem_singleton.1 hp]
    exact ⟨rfl, oneLine_of_all (by decide)⟩

/-- The files and the phase after a step of this fate. -/
def settle (fate : StepFate) (next error : ToolPhase) (files files' : NodeFiles) :
    ToolPhase × NodeFiles :=
  match fate with
  | .done => (next, files')
  | .failed => (error, files)
  | .lost => (error, files')

def ToolPhase.step (phase : ToolPhase) (fate : StepFate) (files : NodeFiles) :
    ToolPhase × NodeFiles :=
  match phase with
  | .readConfig template =>
    let patched := applyStabilityProfile template files.config
    -- a patch that touches the users or the exits is not applied
    if patched.inbounds = files.config.inbounds ∧ patched.outbounds = files.config.outbounds then
      settle fate (.readAgentEnv patched) .ended files files
    else (.ended, files)
  | .readAgentEnv patched => settle fate (.readVpnEnv patched files.agentEnv) .ended files files
  | .readVpnEnv patched agentEnv =>
    settle fate (.writeCandidate ⟨patched, agentEnv, files.vpnEnv⟩) .ended files files
  | .writeCandidate read =>
    settle fate (.backUp read) .ended files { files with candidate := some read.patched }
  | .backUp read =>
    settle fate (.validate read) .ended files { files with backup := some files.config }
  | .validate read => settle fate (.activate read) .ended files files
  | .activate read =>
    match files.candidate with
    | none => (.ended, files)
    | some candidate => settle fate (.writeAgentEnv read) .ended files
        { files with config := candidate, candidate := none }
  | .writeAgentEnv read => settle fate (.writeVpnEnv read) (.restoreAgentEnv read) files
      { files with agentEnv := updateEnvValues read.agentEnv connIdleUpdates }
  | .writeVpnEnv read => settle fate (.restart read) (.restoreAgentEnv read) files
      { files with vpnEnv := updateEnvValues read.vpnEnv connIdleUpdates }
  | .restart read => settle fate (.health read) (.restoreAgentEnv read) files files
  | .health read => settle fate .ended (.restoreAgentEnv read) files files
  | .restoreAgentEnv read =>
    settle fate (.restoreVpnEnv read) .ended files { files with agentEnv := read.agentEnv }
  | .restoreVpnEnv read =>
    settle fate (.restoreConfig read) .ended files { files with vpnEnv := read.vpnEnv }
  | .restoreConfig _ =>
    match files.backup with
    | none => (.ended, files)
    | some backup => settle fate .restartRestored .ended files { files with config := backup }
  | .restartRestored => (.ended, files)
  | .loadConfig dns =>
    settle fate (.replaceConfig { files.config with dns := some dns }) .ended files files
  | .replaceConfig patched =>
    settle fate .restartPatched .ended files { files with config := patched }
  | .restartPatched => (.ended, files)
  | .ended => (.ended, files)

/-- The config that a step puts in the place of the one that is there. -/
def ToolPhase.puts (phase : ToolPhase) (fate : StepFate) (files : NodeFiles) : Option NodeFile :=
  if fate = .failed then none
  else match phase with
  | .activate _ => files.candidate
  | .restoreConfig _ => files.backup
  | .replaceConfig patched => some patched
  | _ => none

theorem settle_config {fate : StepFate} {next error : ToolPhase} {files files' : NodeFiles}
    (h : files'.config = files.config) :
    (settle fate next error files files').2.config = files.config := by
  cases fate with
  | done => exact h
  | failed => rfl
  | lost => exact h

theorem settle_puts {fate : StepFate} {next error : ToolPhase} {files files' : NodeFiles} :
    (settle fate next error files files').2.config =
      if fate = .failed then files.config else files'.config := by
  cases fate <;> rfl

theorem step_config (phase : ToolPhase) (fate : StepFate) (files : NodeFiles) :
    (phase.step fate files).2.config = (phase.puts fate files).getD files.config := by
  have hkeep : ∀ {next error : ToolPhase} {files' : NodeFiles}, files'.config = files.config →
      (settle fate next error files files').2.config =
        (if fate = .failed then none else none : Option NodeFile).getD files.config := by
    intro next error files' h
    rw [settle_config h, ite_self, Option.getD_none]
  have hsame : files.config =
      (if fate = .failed then none else none : Option NodeFile).getD files.config := by
    rw [ite_self, Option.getD_none]
  cases phase with
  | readConfig template =>
    rw [ToolPhase.step]
    split
    · exact hkeep rfl
    · exact hsame
  | readAgentEnv patched => exact hkeep rfl
  | readVpnEnv patched agentEnv => exact hkeep rfl
  | writeCandidate read => exact hkeep rfl
  | backUp read => exact hkeep rfl
  | validate read => exact hkeep rfl
  | activate read =>
    rw [ToolPhase.step, ToolPhase.puts]
    cases files.candidate with
    | none =>
      dsimp only
      rw [ite_self, Option.getD_none]
    | some candidate =>
      dsimp only
      rw [settle_puts]
      split <;> rfl
  | writeAgentEnv read => exact hkeep rfl
  | writeVpnEnv read => exact hkeep rfl
  | restart read => exact hkeep rfl
  | health read => exact hkeep rfl
  | restoreAgentEnv read => exact hkeep rfl
  | restoreVpnEnv read => exact hkeep rfl
  | restoreConfig read =>
    rw [ToolPhase.step, ToolPhase.puts]
    cases files.backup with
    | none =>
      dsimp only
      rw [ite_self, Option.getD_none]
    | some backup =>
      dsimp only
      rw [settle_puts]
      split <;> rfl
  | restartRestored => exact hsame
  | loadConfig dns => exact hkeep rfl
  | replaceConfig patched =>
    rw [ToolPhase.step, ToolPhase.puts, settle_puts]
    split <;> rfl
  | restartPatched => exact hsame
  | ended => exact hsame

/-! ## The tool and the agent -/

/-- A request of the agent under its lock, with the config that it has read. -/
structure AgentRequest where
  request : PushRequest
  read : NodeFile

/-- The node, the tool and the agent; the config that the agent wrote last, and the one that its
requests alone would have led to. -/
structure PatchWorld where
  files : NodeFiles
  tool : ToolPhase
  agent : Option AgentRequest
  lastWrite : NodeFile
  expected : NodeFile

inductive PatchEvent
  | tool (fate : StepFate)
  | agentRead (request : PushRequest)
  | agentWrite (saved : Bool)

/-- The agent replaces the config, in one step, by what it has read and changed. A request that
changes nothing or cannot save leaves the file. -/
def PatchWorld.agentWrite (w : PatchWorld) (saved : Bool) : PatchWorld :=
  match w.agent with
  | none => w
  | some ⟨request, read⟩ =>
    if read.changedBy request && saved then
      { w with
        files := { w.files with config := read.written request }
        agent := none
        lastWrite := read.written request
        expected := w.expected.applied request }
    else { w with agent := none }

def PatchWorld.step (w : PatchWorld) : PatchEvent → PatchWorld
  | .tool fate => { w with
      tool := (w.tool.step fate w.files).1
      files := (w.tool.step fate w.files).2 }
  | .agentRead request =>
    if w.agent.isSome then w else { w with agent := some ⟨request, w.files.config⟩ }
  | .agentWrite saved => w.agentWrite saved

def PatchWorld.run (w : PatchWorld) (events : List PatchEvent) : PatchWorld :=
  events.foldl PatchWorld.step w

def PatchWorld.start (tool : ToolPhase) (files : NodeFiles) : PatchWorld :=
  ⟨files, tool, none, files.config, files.config⟩

/-- The users of the config are those of the agent's requests. -/
structure PatchWorld.ClientsKept (w : PatchWorld) : Prop where
  expected : w.files.config.inbounds = w.expected.inbounds
  lastWrite : w.lastWrite.inbounds = w.expected.inbounds
  read : ∀ request ∈ w.agent, request.read.inbounds = w.expected.inbounds

/-- A config that the tool puts in place has the users of the one that is there. -/
def PatchWorld.Fresh (w : PatchWorld) : PatchEvent → Prop
  | .tool fate => ∀ file ∈ w.tool.puts fate w.files, file.inbounds = w.files.config.inbounds
  | _ => True

theorem changedBy_inbounds {a b : NodeFile} (h : a.inbounds = b.inbounds) (request : PushRequest) :
    a.changedBy request = b.changedBy request ∧
      (a.written request).inbounds = (b.written request).inbounds := by
  have hvless : listVlessInbounds a.xray = listVlessInbounds b.xray := by
    rw [listVlessInbounds, listVlessInbounds, NodeFile.xray, NodeFile.xray, h]
  cases request with
  | add req =>
    constructor
    · simp only [NodeFile.changedBy, PushRequest.plan, additionPlan, hvless]
    · simp only [NodeFile.written, PushRequest.plan, additionPlan, mapVless, NodeFile.xray, h]
  | bulk reqs =>
    constructor
    · simp only [NodeFile.changedBy, PushRequest.plan, additionPlan, hvless]
    · simp only [NodeFile.written, PushRequest.plan, additionPlan, mapVless, NodeFile.xray, h]
  | remove uuid =>
    constructor
    · simp only [NodeFile.changedBy, PushRequest.plan, removalPlan, hvless]
    · simp only [NodeFile.written, PushRequest.plan, removalPlan, mapVless, NodeFile.xray, h]

theorem applied_inbounds {a b : NodeFile} (h : a.inbounds = b.inbounds) (request : PushRequest)
    (hchanged : a.changedBy request = true) :
    (b.applied request).inbounds = (a.written request).inbounds := by
  obtain ⟨hsame, hwritten⟩ := changedBy_inbounds h request
  rw [NodeFile.applied, ← hsame, if_pos hchanged, hwritten]

theorem PatchWorld.ClientsKept.agentWrite {w : PatchWorld} (h : w.ClientsKept) (saved : Bool) :
    (w.agentWrite saved).ClientsKept := by
  rw [PatchWorld.agentWrite]
  cases hagent : w.agent with
  | none => exact h
  | some request =>
    have hread := h.read request hagent
    obtain ⟨request, read⟩ := request
    dsimp only at hread ⊢
    split
    · rename_i hsaved
      rw [Bool.and_eq_true] at hsaved
      have happlied := applied_inbounds hread request hsaved.1
      exact
        { expected := happlied.symm
          lastWrite := happlied.symm
          read := by simp }
    · exact
        { expected := h.expected
          lastWrite := h.lastWrite
          read := by simp }

/-- A step keeps the users right just where what it puts in place is fresh. -/
theorem clientsKept_step {w : PatchWorld} (h : w.ClientsKept) (event : PatchEvent) :
    w.Fresh event ↔ (w.step event).ClientsKept := by
  cases event with
  | tool fate =>
    have hconfig : (w.step (.tool fate)).files.config =
        (w.tool.puts fate w.files).getD w.files.config := step_config w.tool fate w.files
    constructor
    · intro hfresh
      refine { expected := ?_, lastWrite := h.lastWrite, read := h.read }
      rw [hconfig]
      cases hputs : w.tool.puts fate w.files with
      | none => exact h.expected
      | some file => exact (hfresh file hputs).trans h.expected
    · intro hkept file hfile
      have hexpected := hkept.expected
      rw [hconfig, hfile, Option.getD_some] at hexpected
      exact hexpected.trans h.expected.symm
  | agentRead request =>
    refine ⟨fun _ => ?_, fun _ => trivial⟩
    rw [PatchWorld.step]
    split
    · exact h
    · refine { expected := h.expected, lastWrite := h.lastWrite, read := fun other hother => ?_ }
      cases hother
      exact h.expected
  | agentWrite saved => exact ⟨fun _ => h.agentWrite saved, fun _ => trivial⟩

theorem clientsKept_start (tool : ToolPhase) (files : NodeFiles) :
    (PatchWorld.start tool files).ClientsKept :=
  { expected := rfl
    lastWrite := rfl
    read := by simp [PatchWorld.start] }

theorem vlessClients_congr {a b : NodeFile} (h : a.inbounds = b.inbounds) :
    a.vlessClients = b.vlessClients := by
  rw [NodeFile.vlessClients, NodeFile.vlessClients, h]

/-- Whatever the tool and the agent do in whatever order: the users are kept right throughout just
where each config that the tool puts in place has the users of the one that is there, and then the
client lists are those of the last write of the agent and of all its requests. -/
theorem live_patch_iff (tool : ToolPhase) (files : NodeFiles) (events : List PatchEvent) :
    ((∀ past, past <+: events → ((PatchWorld.start tool files).run past).ClientsKept) ↔
      Along PatchWorld.step PatchWorld.Fresh (PatchWorld.start tool files) events) ∧
    (Along PatchWorld.step PatchWorld.Fresh (PatchWorld.start tool files) events →
      ∀ past, past <+: events →
        ((PatchWorld.start tool files).run past).files.config.vlessClients =
            ((PatchWorld.start tool files).run past).lastWrite.vlessClients ∧
          ((PatchWorld.start tool files).run past).files.config.vlessClients =
            ((PatchWorld.start tool files).run past).expected.vlessClients) := by
  have hiff : (∀ past, past <+: events → ((PatchWorld.start tool files).run past).ClientsKept) ↔
      Along PatchWorld.step PatchWorld.Fresh (PatchWorld.start tool files) events :=
    along_iff_invariant (clientsKept_start tool files) fun w event h => clientsKept_step h event
  refine ⟨hiff, fun hfresh past hpast => ?_⟩
  have hkept := hiff.2 hfresh past hpast
  exact ⟨vlessClients_congr (hkept.expected.trans hkept.lastWrite.symm),
    vlessClients_congr hkept.expected⟩

/-- The tool does nothing more. -/
def ToolPhase.hasEnded : ToolPhase → Bool
  | .ended => true
  | _ => false

/-- A node with one user. -/
def servingFiles : NodeFiles :=
  ⟨⟨[⟨some "vless-in", some 443, "vless", some "tcp", [⟨some "a", some "user_1_sub_1", none, []⟩]⟩],
    none, none, none, none, none, [], "{}"⟩, none, none, [], []⟩

/-- The agent removes the user after the tool has read the config. -/
def removalDuringPatch : List PatchEvent :=
  [.tool .done, .agentRead (.remove "a"), .agentWrite true, .tool .done, .tool .done, .tool .done,
    .tool .done, .tool .done, .tool .done, .tool .done, .tool .done, .tool .done, .tool .done]

/-- A user that the agent has removed while the tool ran is back when it has ended. -/
theorem removed_client_back :
    let w := (PatchWorld.start (.readConfig ⟨8, 300, "{}", "IPOnDemand"⟩) servingFiles).run
      removalDuringPatch
    w.tool.hasEnded = true ∧ w.agent.isNone = true ∧ w.lastWrite.vlessClients = [[]] ∧
      w.files.config.vlessClients = servingFiles.config.vlessClients ∧
      w.files.config.vlessClients ≠ w.lastWrite.vlessClients := by
  decide

end AegisVPN
