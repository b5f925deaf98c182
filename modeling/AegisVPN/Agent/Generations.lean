import AegisVPN.Agent.ControlRuns

namespace AegisVPN
open Library
set_option autoImplicit true

def Agent.appliedGeneration (w : Agent D) : Nat := (w.applied.getD .initial).generation

/-- Neither the applied generation nor the one in the config goes back. -/
def NotOlder (w w' : Agent D) : Prop :=
  w.appliedGeneration ≤ w'.appliedGeneration ∧ w.installed ≤ w'.installed

/-- A statement that writes no generation but `g`. -/
def WritesGeneration (g : Nat) (s : AgentAct D β) : Prop := ∀ f w,
  ((s f w).2.appliedGeneration = w.appliedGeneration ∨ (s f w).2.appliedGeneration = g) ∧
    ((s f w).2.installed = w.installed ∨ (s f w).2.installed = g)

theorem KeepsControl.writes {s : AgentAct D β} (h : KeepsControl s) (g : Nat) :
    WritesGeneration g s := by
  intro f w
  refine ⟨.inl ?_, .inl (h f w).installed⟩
  rw [Agent.appliedGeneration, (h f w).applied, ← Agent.appliedGeneration]

theorem saveXrayConfig_writes (config : XrayConfig) (g : Nat) :
    WritesGeneration g (saveXrayConfig config g (D := D)) := by
  intro f w
  cases f with
  | ok => exact ⟨.inl rfl, .inr rfl⟩
  | fail => exact ⟨.inl rfl, .inl rfl⟩
  | lost => exact ⟨.inl rfl, .inr rfl⟩

theorem saveAppliedState_writes (state : AppliedState D) :
    WritesGeneration state.generation (saveAppliedState state) := by
  intro f w
  cases f with
  | ok => exact ⟨.inr rfl, .inl rfl⟩
  | fail => exact ⟨.inl rfl, .inl rfl⟩
  | lost => exact ⟨.inr rfl, .inl rfl⟩

theorem xrayApiRemove_writes (tag email : String) (g : Nat) :
    WritesGeneration g (xrayApiRemove tag email (D := D)) := by
  intro f w
  cases f <;> exact ⟨.inl rfl, .inl rfl⟩

theorem xrayApiAdd_writes (inbound : Inbound) (record : ClientRecord) (g : Nat) :
    WritesGeneration g (xrayApiAdd inbound record (D := D)) := by
  intro f w
  unfold xrayApiAdd
  split
  · split
    · cases f <;> exact ⟨.inl rfl, .inl rfl⟩
    · exact ⟨.inl rfl, .inl rfl⟩
  · exact ⟨.inl rfl, .inl rfl⟩

theorem hardReload_writes (g : Nat) : WritesGeneration g (hardReload (D := D)) := by
  intro f w
  rw [hardReload_changes]
  exact ⟨.inl rfl, .inl rfl⟩

theorem reconcileSnapshot_writes [DecidableEq D] (settings : AgentSettings)
    (snapshot : DesiredSnapshot D) (observe : Bool) (nowMs : Nat) :
    (reconcileSnapshot settings snapshot observe nowMs).Uses
      (WritesGeneration snapshot.generation) :=
  reconcileSnapshot_uses
    { keeps := fun h => h.writes _
      saveConfig := fun config => saveXrayConfig_writes config _
      remove := fun tag email => xrayApiRemove_writes tag email _
      add := fun inbound record => xrayApiAdd_writes inbound record _
      reload := hardReload_writes _
      saveApplied := saveAppliedState_writes _ } settings observe nowMs

theorem NotOlder.of_same {w w' : Agent D} (h : SameControl w w') : NotOlder w w' := by
  simp only [NotOlder, Agent.appliedGeneration, h.applied, h.installed, Nat.le_refl, and_self]

/-! ## A node and an endpoint -/

/-- One inbound, no clients yet. -/
def freshConfig : XrayConfig :=
  ⟨[⟨some "in", some 443, "vless", some "xhttp", []⟩], some [], none, none⟩

/-- A node that has applied a generation; its digests are the items themselves. -/
def nodeAt (generation : Nat) (config : XrayConfig) (items : List DesiredItem) :
    Agent (List DesiredItem) where
  config := config
  installed := generation
  applied := some ⟨1, generation, some items, items⟩
  journal := .missing
  overridesFile := []
  overrides := []
  hy2Clients := []
  live := bootTable config
  hy2Sessions := []
  telemetrySequence := none
  signals := []

def itemsCanonical : Canonical (List DesiredItem) := ⟨id, List.length⟩

def roomyLimits : ControlLimits := ⟨1000, 1000, 100, 1000⟩

def liveSettings : AgentSettings := ⟨10, true⟩

/-- The endpoints answer with one snapshot of one page, and accept everything else. -/
def pollServing (snapshot : DesiredSnapshot (List DesiredItem)) : Poll (List DesiredItem) where
  clock := ⟨0, 0, 0⟩
  answers := [some ⟨200, 0, .json (some 1) (some ⟨1, snapshot.generation, snapshot.digest,
    snapshot.items.length, 1, snapshot.items.length⟩)⟩]
  pageAnswers _ := [some ⟨200, 0, .json (some 1) (some ⟨1, snapshot.generation, 0,
    snapshot.items, snapshot.items⟩)⟩]
  ackAnswers := [some ⟨200, 0, .notJson⟩]
  telemetryAnswers := [some ⟨200, 0, .notJson⟩]

def oneClient : List DesiredItem := [.client ⟨"u1", "user_1", 1000⟩]

def servedProcess (snapshot : DesiredSnapshot (List DesiredItem)) :
    AgentProg (List DesiredItem) LoopVars :=
  agentProcess itemsCanonical roomyLimits liveSettings .apply [pollServing snapshot]

section Runs
variable [DecidableEq D] {canonical : Canonical D} {limits : ControlLimits}
  {settings : AgentSettings}

/-- The snapshot to reconcile is of no generation below the applied one or the one in the
config. -/
def NotStale (c : ReconcileCall D) (w : Agent D) : Prop :=
  w.appliedGeneration ≤ c.snapshot.generation ∧ w.installed ≤ c.snapshot.generation

theorem reconcile_notOlder {c : ReconcileCall D} (h : NotStale c w) :
    (c.run settings).wp (agentSem D) Eq NotOlder (fun _ => NotStale c) (fun _ => NotStale c) w := by
  refine Prog.wp_of_uses (reconcileSnapshot_writes settings c.snapshot c.observe c.nowMs) ?_ h
  intro β s hs f w b w' hw hsem
  obtain ⟨rfl, rfl⟩ := agentSem_some.1 hsem
  obtain ⟨hg, hi⟩ := hs f w
  obtain ⟨hwg, hwi⟩ := hw
  refine ⟨⟨?_, ?_⟩, ?_, ?_⟩
  · rcases hg with hg | hg <;> omega
  · rcases hi with hi | hi <;> omega
  · rcases hg with hg | hg <;> omega
  · rcases hi with hi | hi <;> omega

def generationRule (canonical : Canonical D) (limits : ControlLimits) (settings : AgentSettings) :
    ReconcileRule canonical limits settings NotStale NotOlder where
  Inv _ := True
  Accepts _ := True
  inv_same _ _ := trivial
  guarantee_same := .of_same
  accepts_sync _ := trivial
  accepts_cached _ _ _ := trivial
  reconcile _ _ hc := Prog.wp_mono (reconcile_notOlder hc) (fun _ _ h => h)
    (fun _ _ h => ⟨h, fun _ => trivial⟩) (fun _ _ _ => trivial) (fun _ _ _ => trivial)

/-- As long as no reconcile is entered with a stale snapshot, generations never go back. -/
theorem generations_never_go_back
    (h : AgentRun canonical limits settings .apply (Entered settings NotStale) w₀ s)
    (hs : Relation.ReflTransGen
      (AgentStep canonical limits settings .apply (Entered settings NotStale)) s s') :
    NotOlder s.2 s'.2 :=
  (generationRule canonical limits settings).run_between (fun w => .of_same (.refl w))
    (fun _ _ _ hab hbc => ⟨hab.1.trans hbc.1, hab.2.trans hbc.2⟩) trivial h hs

end Runs

def firstNode : Agent (List DesiredItem) := { nodeAt 0 freshConfig [] with applied := none }

def firstProcess : AgentProg (List DesiredItem) LoopVars :=
  servedProcess ⟨1, 1, [.connLimit ⟨1, 2⟩], [.connLimit ⟨1, 2⟩]⟩

/-- A first generation is applied in a run that is never entered with a stale one. -/
theorem generations_never_go_back_first :
    let s' := firstProcess.advance (agentSem _) (List.replicate 12 .ok) firstNode.restart
    s'.2.appliedGeneration = 1 ∧ NotOlder firstNode.restart s'.2 := by
  refine ⟨by decide, generations_never_go_back (s := (firstProcess, _)) ⟨_, .refl⟩
    (advance_steps itemsCanonical roomyLimits liveSettings .apply _ _ _ fun n hn c _ => ?_)⟩
  -- until the last step nothing has been applied or installed
  have hzero : ∀ n < 12, ((firstProcess.advance (agentSem _) ((List.replicate 12 .ok).take n)
      firstNode.restart).2.appliedGeneration = 0 ∧ (firstProcess.advance (agentSem _)
        ((List.replicate 12 .ok).take n) firstNode.restart).2.installed = 0) := by
    decide
  obtain ⟨hg, hi⟩ := hzero n hn
  exact ⟨hg.trans_le (Nat.zero_le _), hi.trans_le (Nat.zero_le _)⟩

/-- A node that has applied generation 2, without clients, takes generation 1 and its client
from an endpoint that lags behind. -/
theorem stale_manifest_is_applied :
    ∃ s s', AgentRun itemsCanonical roomyLimits liveSettings .apply (fun _ _ => True)
        (nodeAt 2 freshConfig []) s ∧
      Relation.ReflTransGen (AgentStep itemsCanonical roomyLimits liveSettings .apply
        fun _ _ => True) s s' ∧
      ¬ NotOlder s.2 s'.2 ∧ s'.2.appliedGeneration = 1 ∧
      "u1" ∉ (hy2Mapping s.2.config).map Prod.fst ∧
      "u1" ∈ (hy2Mapping s'.2.config).map Prod.fst := by
  refine ⟨(servedProcess ⟨1, 1, oneClient, oneClient⟩, _),
    (servedProcess ⟨1, 1, oneClient, oneClient⟩).advance (agentSem _)
    (List.replicate 17 .ok) (nodeAt 2 freshConfig []).restart, ⟨_, .refl⟩,
    advance_steps _ _ _ _ _ _ _ fun _ _ => trivial, ?_, ?_, ?_, ?_⟩
  · rintro ⟨hg, _⟩
    revert hg
    decide
  · decide
  · decide
  · decide

end AegisVPN
