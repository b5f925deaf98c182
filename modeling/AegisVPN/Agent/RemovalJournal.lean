import AegisVPN.Agent.Revocations
import AegisVPN.Library.Ghosts

namespace AegisVPN
open Library
set_option autoImplicit true

/-! ## What is owed to a removal -/

/-- The statement is a Hy2 kick of the email that succeeds when the user map has it no more. -/
inductive Kicks (settings : AgentSettings) (f : Fate) (w : Agent D) :
    {β : Type} → AgentAct D β → String → Prop
  | kick (hkicked : (kick settings ids f w).1 = true) (hid : email ∈ ids)
      (hgone : email ∉ w.hy2Clients.map Prod.snd) : Kicks settings f w (kick settings ids) email

def itemEmails (items : List DesiredItem) : List String :=
  items.filterMap fun
    | .client c => some c.email
    | .cascadeService s => some s.email
    | _ => none

/-- The statement records a desired state that contains the email as applied. -/
inductive Applies (f : Fate) : {β : Type} → AgentAct D β → String → Prop
  | save (hwritten : f ≠ .fail) (hitem : email ∈ itemEmails state.items) :
      Applies f (saveAppliedState (D := D) state) email

/-- The statement removes the email from the config on disk. -/
def Deconfigures (s : AgentAct D β) (f : Fate) (w : Agent D) (email : String) : Prop :=
  email ∈ configuredEmails w.config ∧ email ∉ configuredEmails (s f w).2.config

/-- The emails removed from the config that since then neither an applied state contains nor a
kick has reached. -/
def noteOwed (settings : AgentSettings) (s : AgentAct D β) (f : Fate) (w : Agent D)
    (owed : Set String) : Set String :=
  {email | (email ∈ owed ∨ Deconfigures s f w email) ∧ ¬ Applies f s email ∧
    ¬ Kicks settings f w s email}

/-- A node and what it owes. -/
abbrev RemovalLedger (D : Type) := Agent D × Set String

abbrev ledgerSem (D : Type) (settings : AgentSettings) :
    Semantics (AgentAct D) Fate (RemovalLedger D) :=
  Semantics.noting (agentSem D) (noteOwed settings)

/-- The journal names every email that is owed a kick. -/
def Covered (l : RemovalLedger D) : Prop := ∀ email ∈ l.2, l.1.journal.Holds email

/-- What a statement does where a reconcile authorizes the emails of `A`: it drops none of the
others from the journal while the config has them, and if `S` holds it leaves nothing uncovered. -/
structure TrackedLedger (A : Finset String) (S : Prop) (l l' : RemovalLedger D) : Prop where
  drops : ∀ email ∈ configuredEmails l.1.config, l.1.journal.Holds email →
    l'.1.journal.Holds email ∨ email ∈ A
  covered : S → Covered l → Covered l'

/-- Config and journal are as they were, and no more is owed. -/
structure SettledLedger (l l' : RemovalLedger D) : Prop where
  config : l'.1.config = l.1.config
  journal : l'.1.journal = l.1.journal
  owed : l'.2 ⊆ l.2

theorem SettledLedger.refl (l : RemovalLedger D) : SettledLedger l l := ⟨rfl, rfl, subset_rfl⟩

theorem SettledLedger.trans (h : SettledLedger l₁ l₂) (h' : SettledLedger l₂ l₃) :
    SettledLedger l₁ l₃ :=
  ⟨h'.config.trans h.config, h'.journal.trans h.journal, h'.owed.trans h.owed⟩

theorem SettledLedger.accounted (h : SettledLedger l l') : TrackedLedger A S l l' where
  drops _ _ hj := .inl (h.journal ▸ hj)
  covered _ hl email he := h.journal ▸ hl email (h.owed he)

/-- The statement writes neither config nor journal. -/
def KeepsJournal (s : AgentAct D β) : Prop :=
  ∀ f w, (s f w).2.config = w.config ∧ (s f w).2.journal = w.journal

theorem KeepsJournal.of_files {s : AgentAct D β} (h : KeepsFiles s) : KeepsJournal s :=
  fun f w => ⟨(h f w).config, (h f w).journal⟩

theorem noteOwed_subset (settings : AgentSettings) (owed : Set String) {s : AgentAct D β}
    (h : (s f w).2.config = w.config) :
    noteOwed settings s f w owed ⊆ owed := by
  rintro email ⟨howed | ⟨hin, hout⟩, _⟩
  · exact howed
  · exact absurd (h ▸ hin) hout

section Rules
variable {settings : AgentSettings} {A : Finset String} {S : Prop} {l : RemovalLedger D}

theorem KeepsJournal.settled (settings : AgentSettings) {s : AgentAct D β}
    (h : KeepsJournal s) (f : Fate) (l : RemovalLedger D) :
    SettledLedger l ((s f l.1).2, noteOwed settings s f l.1 l.2) :=
  ⟨(h f l.1).1, (h f l.1).2, noteOwed_subset settings l.2 (h f l.1).1⟩

theorem uses_ledger {p : AgentProg D α} (h : p.Uses KeepsJournal) :
    p.wp (ledgerSem D settings) Eq (TrackedLedger A S) (fun _ => SettledLedger l)
      (fun _ => SettledLedger l) l := by
  refine Prog.wp_of_uses h ?_ (.refl l)
  intro β s hs f l₁ b l₂ h₁ hsem
  obtain ⟨hstep, hnote⟩ := Semantics.noting_some hsem
  obtain ⟨_, hnode⟩ := agentSem_some.1 hstep
  have h₂ : SettledLedger l₁ l₂ := by
    have := hs.settled settings f l₁
    rwa [hnode, ← hnote] at this
  exact ⟨h₂.accounted, h₁.trans h₂⟩

theorem perform_ledger {s : AgentAct D β} {Q : β → RemovalLedger D → Prop}
    {X : AgentError → RemovalLedger D → Prop}
    (h : ∀ f, TrackedLedger A S l ((s f l.1).2, noteOwed settings s f l.1 l.2) ∧
      Q (s f l.1).1 ((s f l.1).2, noteOwed settings s f l.1 l.2)) :
    (Prog.perform s).wp (ledgerSem D settings) Eq (TrackedLedger A S) Q X l := by
  refine Prog.wp_stmt.2 fun f b l' hsem => ?_
  obtain ⟨hstep, hnote⟩ := Semantics.noting_some hsem
  obtain ⟨rfl, hnode⟩ := agentSem_some.1 hstep
  obtain rfl : l' = ((s f l.1).2, noteOwed settings s f l.1 l.2) := Prod.ext hnode.symm hnote
  exact h f

theorem performOrRaise_ledger {s : AgentAct D (Except AgentError β)}
    {Q : β → RemovalLedger D → Prop}
    (h : ∀ f, TrackedLedger A S l ((s f l.1).2, noteOwed settings s f l.1 l.2) ∧
      ∀ b, (s f l.1).1 = .ok b → Q b ((s f l.1).2, noteOwed settings s f l.1 l.2)) :
    (Prog.performOrRaise s).wp (ledgerSem D settings) Eq (TrackedLedger A S) Q
      (fun _ _ => True) l := by
  refine Prog.wp_stmt.2 fun f b l' hsem => ?_
  obtain ⟨hstep, hnote⟩ := Semantics.noting_some hsem
  obtain ⟨hb, hnode⟩ := agentSem_some.1 hstep
  obtain rfl : l' = ((s f l.1).2, noteOwed settings s f l.1 l.2) := Prod.ext hnode.symm hnote
  refine ⟨(h f).1, ?_⟩
  cases b with
  | ok b => exact (h f).2 b hb
  | error e => trivial

theorem ask_ledger {s : AgentAct D (Except AgentError β)} {Q : β → RemovalLedger D → Prop}
    (hs : KeepsJournal s) (h : ∀ f b, (s f l.1).1 = .ok b → ∀ l', SettledLedger l l' → Q b l') :
    (Prog.performOrRaise s).wp (ledgerSem D settings) Eq (TrackedLedger A S) Q
      (fun _ _ => True) l :=
  performOrRaise_ledger fun f =>
    ⟨(hs.settled settings f l).accounted, fun b hb => h f b hb _ (hs.settled settings f l)⟩

end Rules

theorem ReadOnly.keepsJournal {s : AgentAct D β} (hs : ReadOnly s) : KeepsJournal s := by
  intro f w
  rw [hs f w]
  exact ⟨rfl, rfl⟩

theorem keepsJournal_refreshFromConfig (config : XrayConfig) :
    KeepsJournal (refreshFromConfig config (D := D)) := fun _ _ => ⟨rfl, rfl⟩

theorem keepsJournal_kick (settings : AgentSettings) (ids : Finset String) :
    KeepsJournal (kick settings ids (D := D)) := by
  intro f w
  simp only [kick]
  split
  · exact ⟨rfl, rfl⟩
  · cases f <;> exact ⟨rfl, rfl⟩

theorem keepsJournal_replaceOverrides (overrides : List (Int × Nat)) :
    KeepsJournal (replaceOverrides overrides (D := D)) := by
  intro f w
  cases f <;> exact ⟨rfl, rfl⟩

theorem keepsJournal_saveAppliedState (state : AppliedState D) :
    KeepsJournal (saveAppliedState state) := by
  intro f w
  cases f <;> exact ⟨rfl, rfl⟩

theorem read_of_load {w : Agent D} (h : (loadPendingRevocations f w).1 = .ok pending) :
    w.journal.read = .ok pending := by
  cases f with
  | ok => exact h
  | fail => cases h
  | lost => cases h

theorem config_of_get {w : Agent D} (h : (getXrayConfig f w).1 = .ok config) :
    w.config = config := by
  cases f with
  | ok => exact Except.ok.inj h
  | fail => cases h
  | lost => cases h

/-! ## Retrying the kicks -/

theorem hy2Mapping_configured (h : email ∈ (hy2Mapping config).map Prod.snd) :
    email ∈ configuredEmails config := by
  obtain ⟨p, hp, rfl⟩ := List.mem_map.1 h
  obtain ⟨i, hi, hp⟩ := List.mem_flatMap.1 hp
  obtain ⟨c, hc, hp⟩ := List.mem_filterMap.1 hp
  rw [configuredEmails, List.mem_toFinset, List.mem_flatMap]
  refine ⟨i, hi, List.mem_filterMap.2 ⟨c, hc, ?_⟩⟩
  split at hp
  · rename_i he
    cases hp
    exact he
  · cases hp

theorem savePending_accounted {l : RemovalLedger D} {values : Finset String}
    (hdrops : ∀ email ∈ configuredEmails l.1.config, l.1.journal.Holds email →
      email ∈ values ∨ email ∈ A)
    (hcovered : S → Covered l → ∀ email ∈ l.2, email ∈ values) (f : Fate) :
    TrackedLedger A S l ((savePendingRevocations values f l.1).2,
      noteOwed settings (savePendingRevocations values) f l.1 l.2) := by
  have hconfig : (savePendingRevocations values f l.1).2.config = l.1.config := by
    cases f <;> rfl
  have howed := noteOwed_subset settings l.2 hconfig
  by_cases hf : f = .fail
  · subst hf
    exact SettledLedger.accounted ⟨rfl, rfl, howed⟩
  · have hwritten : (savePendingRevocations values f l.1).2.journal = .emails values := by
      cases f with
      | ok => rfl
      | fail => exact absurd rfl hf
      | lost => rfl
    constructor
    · intro email hin hj
      rcases hdrops email hin hj with hv | ha
      · exact .inl ⟨values, hwritten, hv⟩
      · exact .inr ha
    · exact fun hS hl email he => ⟨values, hwritten, hcovered hS hl email (howed he)⟩

/-- A retry that knows the config on disk. -/
theorem retryPendingRevocations_ledger {config : Option XrayConfig} {l : RemovalLedger D}
    (hc : ∀ c, config = some c → l.1.config = c) :
    (retryPendingRevocations settings config).wp (ledgerSem D settings) Eq (TrackedLedger A S)
      (fun _ _ => True) (fun _ _ => True) l := by
  unfold retryPendingRevocations
  rw [Prog.bind_eq, Prog.wp_bind]
  refine ask_ledger readOnly_loadPendingRevocations.keepsJournal fun f pending hpending l₁ h₁ => ?_
  have hread : l.1.journal.read = .ok pending := read_of_load hpending
  split
  · trivial
  rw [Prog.bind_eq, Prog.wp_bind]
  refine Prog.wp_post (Q := fun current l₂ => current = l.1.config ∧ SettledLedger l l₂)
    (X := fun _ _ => True) ?_ ?_ fun _ _ h => h
  · cases config with
    | some c => exact ⟨(hc c rfl).symm, h₁⟩
    | none =>
      refine ask_ledger readOnly_getXrayConfig.keepsJournal fun f current hget l₂ h₂ => ?_
      exact ⟨by rw [← config_of_get hget, h₁.config], h₁.trans h₂⟩
  rintro _ l₂ ⟨rfl, h₂⟩
  rw [Prog.bind_eq, Prog.wp_bind]
  refine perform_ledger fun f => ?_
  have h₃ := (keepsJournal_refreshFromConfig (D := D) l.1.config).settled
    settings f l₂
  refine ⟨h₃.accounted, ?_⟩
  -- from here on the user map has no email that is safe to kick
  have husers : (refreshFromConfig l.1.config f l₂.1).2.hy2Clients = hy2Mapping l.1.config := rfl
  generalize (refreshFromConfig l.1.config f l₂.1).2 = w₃ at h₃ husers ⊢
  generalize noteOwed settings (refreshFromConfig l.1.config) f l₂.1 l₂.2 = owed₃ at h₃ ⊢
  replace h₃ := h₂.trans h₃
  rw [Prog.bind_eq, Prog.wp_bind]
  refine Prog.wp_post (Q := fun kicked l₄ => SettledLedger l l₄ ∧ (kicked = true →
    ∀ email ∈ l₄.2, email ∉ pending \ configuredEmails l.1.config)) (X := fun _ _ => True)
    ?_ ?_ fun _ _ h => h
  · split
    · rename_i hsafe
      exact ⟨h₃, fun _ email _ => by simp [hsafe]⟩
    · refine perform_ledger fun f => ?_
      have h₄ := (keepsJournal_kick (D := D) settings
        (pending \ configuredEmails l.1.config)).settled settings f (w₃, owed₃)
      refine ⟨h₄.accounted, h₃.trans h₄, fun hkicked email he hsafe => ?_⟩
      refine he.2.2 (.kick hkicked hsafe ?_)
      rw [husers]
      exact fun hmap => (Finset.mem_sdiff.1 hsafe).2 (hy2Mapping_configured hmap)
  · rintro kicked l₄ ⟨h₄, hkicked⟩
    split
    · rename_i hk
      rw [Prog.bind_eq, Prog.wp_bind]
      refine performOrRaise_ledger fun f => ⟨savePending_accounted ?_ ?_ f, fun _ _ => trivial⟩
      · intro email hin hj
        rw [h₄.config] at hin
        rw [h₄.journal, ← JournalFile.mem_read hread] at hj
        simp [hj, hin]
      · intro _ hl email he
        have hj := hl email he
        rw [h₄.journal, ← JournalFile.mem_read hread] at hj
        exact Finset.mem_sdiff.2 ⟨hj, hkicked hk email he⟩
    · trivial

/-! ## A reconcile -/

/-- A config that is rewritten for the desired clients has every email of theirs that it had. -/
theorem configured_again (h : email ∈ configuredEmails config)
    (hd : email ∈ desiredEmails items nowMs) :
    email ∈ configuredEmails (desiredConfig (desiredClients items nowMs) config) := by
  rw [configuredEmails, List.mem_toFinset, List.mem_flatMap] at h ⊢
  obtain ⟨i, hi, hrecord⟩ := h
  obtain ⟨_, _, hemail⟩ := List.mem_filterMap.1 hrecord
  obtain ⟨c, hc, rfl⟩ := List.mem_map.1 (List.mem_toFinset.1 hd)
  rw [desiredConfig, listVlessInbounds_mapVless]
  refine ⟨_, List.mem_map_of_mem hi, List.mem_filterMap.2
    ⟨buildClientRecord c.uuid c.email i, List.mem_map_of_mem hc, ?_⟩⟩
  exact truthy_some.2 ⟨rfl, (truthy_some.1 hemail).2⟩

theorem configuredEmails_congr {c c' : XrayConfig} (h : c'.inbounds = c.inbounds) :
    configuredEmails c' = configuredEmails c := by
  rw [configuredEmails, configuredEmails, listVlessInbounds_congr h]

/-- A reconcile may start without losing track of an email: every email of the config is
authorized, journaled, or in a record whose removal journals it, and no email that is still owed
is authorized again. -/
structure Traceable (snapshot : DesiredSnapshot D) (nowMs : Nat) (l : RemovalLedger D) : Prop where
  named : ∀ email ∈ configuredEmails l.1.config, email ∉ desiredEmails snapshot.items nowMs →
    l.1.journal.Holds email ∨ FileNames l.1.config email
  unclaimed : ∀ email ∈ l.2, email ∉ desiredEmails snapshot.items nowMs

section Reconcile
variable {settings : AgentSettings} {snapshot : DesiredSnapshot D} {S : Prop} {l : RemovalLedger D}

theorem saveConfig_accounted {A : Finset String} {generation : Nat} {desired : XrayConfig}
    (hremoved : S → ∀ email ∈ configuredEmails l.1.config, email ∉ configuredEmails desired →
      l.1.journal.Holds email) (f : Fate) :
    TrackedLedger A S l ((saveXrayConfig desired generation f l.1).2,
      noteOwed settings (saveXrayConfig desired generation) f l.1 l.2) := by
  have hjournal : (saveXrayConfig desired generation f l.1).2.journal = l.1.journal := by
    cases f <;> rfl
  constructor
  · exact fun email _ hj => .inl (hjournal ▸ hj)
  · rintro hS hl email ⟨howed | ⟨hin, hout⟩, _⟩
    · exact hjournal ▸ hl email howed
    · have hf : email ∉ configuredEmails desired := by
        cases f with
        | ok => exact hout
        | fail => exact absurd hin hout
        | lost => exact hout
      exact hjournal ▸ hremoved hS email hin hf

theorem applyReconcile_ledger {nowMs : Nat} (x : Readable snapshot l.1)
    (hS : S → Traceable snapshot nowMs l) (overrideChanged : Bool) :
    (applyReconcile settings snapshot nowMs l.1.config x.cascaded x.pending overrideChanged).wp
      (ledgerSem D settings) Eq (TrackedLedger (desiredEmails snapshot.items nowMs) S)
      (fun _ _ => True) (fun _ _ => True) l := by
  have hrevoked : (x.pending \ ((desiredClients snapshot.items nowMs).map
      DesiredClient.email).toFinset) ∪ (((configDelta (desiredClients snapshot.items nowMs)
        x.cascaded).removals.map Prod.snd).toFinset \ ((desiredClients snapshot.items nowMs).map
          DesiredClient.email).toFinset) = x.revoked nowMs := x.revoked_eq nowMs
  simp only [applyReconcile, hrevoked]
  have hmem : ∀ email, email ∈ x.revoked nowMs ↔ email ∉ desiredEmails snapshot.items nowMs ∧
      (l.1.journal.Holds email ∨ FileNames l.1.config email) := by
    intro email
    rw [Readable.revoked, mem_revocations, JournalFile.mem_read x.journal]
  rw [Prog.bind_eq, Prog.wp_bind]
  refine ask_ledger readOnly_loadPendingRevocations.keepsJournal fun f journaled hload l₁ h₁ => ?_
  have hread : l.1.journal.read = .ok journaled := read_of_load hload
  -- the journal is written first, and names what the config is about to lose
  rw [Prog.bind_eq, Prog.wp_bind]
  refine Prog.wp_post (Q := fun _ l₂ => l₂.1.config = l.1.config ∧
    ∀ email ∈ x.revoked nowMs, l₂.1.journal.Holds email) (X := fun _ _ => True) ?_ ?_
    fun _ _ h => h
  · refine Prog.wp_whenever (fun _ => ?_) fun hsame => ⟨h₁.config, fun email he => ?_⟩
    · refine performOrRaise_ledger fun f => ⟨savePending_accounted ?_ ?_ f, fun _ hok => ?_⟩
      · intro email _ hj
        by_cases hd : email ∈ desiredEmails snapshot.items nowMs
        · exact .inr hd
        · exact .inl ((hmem email).2 ⟨hd, .inl (h₁.journal ▸ hj)⟩)
      · intro hs hl email he
        exact (hmem email).2 ⟨(hS hs).unclaimed email (h₁.owed he),
          .inl (h₁.journal ▸ hl email he)⟩
      · cases f with
        | ok => exact ⟨h₁.config, fun email he => ⟨_, rfl, he⟩⟩
        | fail => cases hok
        | lost => cases hok
    · rw [h₁.journal, ← JournalFile.mem_read hread, ← not_not.1 hsame]
      exact he
  rintro _ l₂ ⟨hconfig₂, hjournal₂⟩
  rw [Prog.bind_eq, Prog.wp_bind]
  refine Prog.wp_post (Q := fun _ l₃ => l₃.1.config =
    desiredConfig (desiredClients snapshot.items nowMs) x.cascaded) (X := fun _ _ => True) ?_ ?_
    fun _ _ h => h
  · refine Prog.wp_whenever (fun _ => ?_) fun hsame => hconfig₂.trans (not_not.1 hsame).symm
    rw [Prog.bind_eq, Prog.wp_bind]
    refine performOrRaise_ledger fun f => ⟨saveConfig_accounted ?_ f, fun _ hok => ?_⟩
    · intro hs email hin hout
      rw [hconfig₂] at hin
      refine hjournal₂ email ((hmem email).2 ?_)
      have hin' : email ∈ configuredEmails x.cascaded := by
        rwa [configuredEmails_congr (applyCascadeRoutes_inbounds x.routes)]
      have hd : email ∉ desiredEmails snapshot.items nowMs := fun hd =>
        hout (configured_again hin' hd)
      exact ⟨hd, (hS hs).named email hin hd⟩
    · have hwritten : (saveXrayConfig (desiredConfig (desiredClients snapshot.items nowMs)
          x.cascaded) snapshot.generation f l₂.1).2.config =
          desiredConfig (desiredClients snapshot.items nowMs) x.cascaded := by
        cases f with
        | ok => rfl
        | fail => cases hok
        | lost => cases hok
      exact Prog.wp_post (uses_ledger (Prog.uses_perform (keepsJournal_refreshFromConfig _)))
        (fun _ _ h => h.config.trans hwritten) fun _ _ _ => trivial
  intro _ l₃ h₃
  rw [Prog.bind_eq, Prog.wp_bind]
  have hlive : (livePhase settings (decide (x.cascaded ≠ l.1.config))
      (configDelta (desiredClients snapshot.items nowMs) x.cascaded) (D := D)).Uses KeepsJournal :=
    livePhase_uses_of (fun tag email => .of_files (keepsFiles_xrayApiRemove tag email))
      (fun inbound record => .of_files (keepsFiles_xrayApiAdd inbound record))
      (.of_files keepsFiles_hardReload) _ _ _
  refine Prog.wp_post (uses_ledger hlive) ?_ fun _ _ _ => trivial
  intro _ l₄ h₄
  rw [Prog.bind_eq, Prog.wp_bind]
  refine Prog.wp_post (Q := fun _ _ => True) (X := fun _ _ => True) ?_ ?_ fun _ _ h => h
  · refine Prog.wp_whenever (fun _ => ?_) fun _ => trivial
    rw [Prog.bind_eq, Prog.wp_bind]
    refine Prog.wp_post (retryPendingRevocations_ledger ?_) ?_ fun _ _ h => h
    · intro config hconfig
      cases hconfig
      exact h₄.config.trans h₃
    · exact fun clean l₅ _ => Prog.wp_whenever (fun _ => trivial) fun _ => trivial
  -- the overrides and the applied state concern neither file
  intro _ l₅ _
  refine Prog.wp_post (uses_ledger (Prog.uses_bind ?_ fun _ => ?_)) (fun _ _ _ => trivial)
    fun _ _ _ => trivial
  · exact Prog.uses_whenever fun _ => Prog.uses_performOrRaise (keepsJournal_replaceOverrides _)
  · exact Prog.uses_performOrRaise (keepsJournal_saveAppliedState _)

theorem Traceable.of_settled {nowMs : Nat} {l' : RemovalLedger D} (h : Traceable snapshot nowMs l)
    (hl : SettledLedger l l') : Traceable snapshot nowMs l' where
  named := by
    rw [hl.config, hl.journal]
    exact h.named
  unclaimed email he := h.unclaimed email (hl.owed he)

/-- The condition on a reconcile that may get as far as its writes. -/
def ReconcileCall.Traceable (c : ReconcileCall D) (l : RemovalLedger D) : Prop :=
  c.observe = false → Nonempty (Readable c.snapshot l.1) →
    AegisVPN.Traceable c.snapshot c.nowMs l

theorem reconcileSnapshot_ledger [DecidableEq D] (c : ReconcileCall D) (hS : S → c.Traceable l) :
    (c.run settings).wp (ledgerSem D settings) Eq
      (TrackedLedger (desiredEmails c.snapshot.items c.nowMs) S) (fun _ _ => True)
      (fun _ _ => True) l := by
  rw [ReconcileCall.run, reconcileSnapshot, Prog.bind_eq, Prog.wp_bind]
  refine ask_ledger readOnly_getXrayConfig.keepsJournal fun f config hget l₁ h₁ => ?_
  obtain rfl : l.1.config = config := config_of_get hget
  rw [Prog.bind_eq, Prog.wp_bind]
  refine ask_ledger readOnly_loadPendingRevocations.keepsJournal fun f pending hload l₂ h₂ => ?_
  replace h₂ := h₁.trans h₂
  have hread : l.1.journal.read = .ok pending := h₁.journal ▸ read_of_load hload
  rw [Prog.bind_eq, Prog.wp_bind]
  cases hr : applyCascadeRoutes l.1.config (desiredRoutes c.snapshot.items) with
  | error e => trivial
  | ok cascaded =>
    simp only [Except.mapError, Prog.ofExcept, Prog.bind_eq, Prog.wp_ret, Prog.wp_bind]
    refine Prog.wp_post (uses_ledger (Prog.uses_perform readOnly_readOverrides.keepsJournal)) ?_
      fun _ _ _ => trivial
    intro overrides l₃ h₃
    rw [Prog.wp_bind]
    refine Prog.wp_post (uses_ledger (Prog.uses_perform readOnly_loadAppliedState.keepsJournal)) ?_
      fun _ _ _ => trivial
    intro previous l₄ h₄
    have h : SettledLedger l l₄ := (h₂.trans h₃).trans h₄
    refine Prog.wp_ite (fun _ => trivial) fun hacts => ?_
    have hobserve : c.observe = false := by
      cases ho : c.observe with
      | false => rfl
      | true => exact absurd (by rw [ho, Bool.true_or]) hacts
    rw [Prog.wp_bind, ← h.config]
    exact Prog.wp_post (applyReconcile_ledger ⟨pending, cascaded, h.journal ▸ hread,
      h.config ▸ hr⟩ (fun hs => (hS hs hobserve ⟨⟨pending, cascaded, hread, hr⟩⟩).of_settled h) _)
      (fun _ _ _ => trivial) fun _ _ h => h

end Reconcile

/-! ## Sequences of calls -/

/-- What an agent runs that reads or writes the journal: a reconcile, or what a new process does
before its control loop. -/
inductive JournalCall (D : Type)
  | reconcile (c : ReconcileCall D)
  | startup

namespace JournalCall
variable [DecidableEq D] (settings : AgentSettings)

def program : JournalCall D → AgentProg D Unit
  | .reconcile c => do
    let _ ← c.run settings
    .ret ()
  | .startup => do
    let config ← Prog.performOrRaise getXrayConfig
    Prog.perform (refreshFromConfig config)
    let _ ← retryPendingRevocations settings none
    .ret ()

/-- The emails that the desired state of the call authorizes. -/
def authorized : JournalCall D → Finset String
  | .reconcile c => desiredEmails c.snapshot.items c.nowMs
  | .startup => ∅

def Traceable : JournalCall D → RemovalLedger D → Prop
  | .reconcile c, l => c.Traceable l
  | .startup, _ => True

theorem program_ledger (call : JournalCall D) {l : RemovalLedger D} (hS : S → call.Traceable l) :
    (call.program settings).wp (ledgerSem D settings) Eq (TrackedLedger call.authorized S)
      (fun _ _ => True) (fun _ _ => True) l := by
  cases call with
  | reconcile c =>
    rw [program, Prog.bind_eq, Prog.wp_bind]
    exact Prog.wp_post (reconcileSnapshot_ledger c hS) (fun _ _ _ => trivial) fun _ _ h => h
  | startup =>
    rw [program, Prog.bind_eq, Prog.wp_bind]
    refine ask_ledger readOnly_getXrayConfig.keepsJournal fun f config _ l₁ _ => ?_
    rw [Prog.bind_eq, Prog.wp_bind]
    refine Prog.wp_post (uses_ledger (Prog.uses_perform (keepsJournal_refreshFromConfig _))) ?_
      fun _ _ _ => trivial
    intro _ l₂ _
    rw [Prog.bind_eq, Prog.wp_bind]
    refine Prog.wp_post (retryPendingRevocations_ledger fun _ h => ?_) (fun _ _ _ => trivial)
      fun _ _ h => h
    cases h

end JournalCall

/-- An agent in the middle of a call. -/
structure JournalSite (D : Type) where
  call : JournalCall D
  rest : AgentProg D Unit
  ledger : RemovalLedger D

section Runs
variable [DecidableEq D] (settings : AgentSettings)

/-- A call makes a step, or it is over or cut off and another begins where `C` holds, or the
process dies. -/
inductive JournalStep (C : JournalCall D → RemovalLedger D → Prop) :
    JournalSite D → JournalSite D → Prop
  | step (f : Fate) : JournalStep C s
    ⟨s.call, (s.rest.step (ledgerSem D settings) f s.ledger).1,
      (s.rest.step (ledgerSem D settings) f s.ledger).2⟩
  | begin (call : JournalCall D) (h : C call s.ledger) :
    JournalStep C s ⟨call, call.program settings, s.ledger⟩
  | crash : JournalStep C s ⟨s.call, .ret (), (s.ledger.1.restart, s.ledger.2)⟩

/-- The runs on a node that owes nothing yet. -/
def JournalRun (C : JournalCall D → RemovalLedger D → Prop) (w₀ : Agent D)
    (s : JournalSite D) : Prop :=
  Relation.ReflTransGen (JournalStep settings C) ⟨.startup, .ret (), (w₀, ∅)⟩ s

theorem JournalRun.start (C : JournalCall D → RemovalLedger D → Prop) (w₀ : Agent D) :
    JournalRun settings C w₀ ⟨.startup, .ret (), (w₀, ∅)⟩ := .refl

variable {settings} {S : Prop} {C : JournalCall D → RemovalLedger D → Prop}

def JournalSite.Safe (settings : AgentSettings) (S : Prop) (s : JournalSite D) : Prop :=
  s.rest.wp (ledgerSem D settings) Eq (TrackedLedger s.call.authorized S) (fun _ _ => True)
    (fun _ _ => True) s.ledger

theorem JournalSite.Safe.step {s s' : JournalSite D} (h : s.Safe settings S)
    (hC : S → ∀ call l, C call l → call.Traceable l) (hs : JournalStep settings C s s') :
    TrackedLedger s.call.authorized S s.ledger s'.ledger ∧ s'.Safe settings S := by
  cases hs with
  | step f => exact Prog.wp_stepped h (fun l => (SettledLedger.refl l).accounted) f
  | begin call hcall =>
    exact ⟨(SettledLedger.refl _).accounted, call.program_ledger settings fun hs => hC hs _ _ hcall⟩
  | crash => exact ⟨SettledLedger.accounted ⟨rfl, rfl, subset_rfl⟩, trivial⟩

theorem JournalRun.safe {w₀ : Agent D} {s : JournalSite D} (h : JournalRun settings C w₀ s)
    (hC : S → ∀ call l, C call l → call.Traceable l) :
    s.Safe settings S ∧ (S → Covered s.ledger) := by
  induction h with
  | refl => exact ⟨trivial, fun _ email he => absurd he (Set.notMem_empty email)⟩
  | tail _ hstep ih =>
    obtain ⟨hsafe, hcovered⟩ := ih
    obtain ⟨hacc, hsafe'⟩ := hsafe.step hC hstep
    exact ⟨hsafe', fun hs => hacc.covered hs (hcovered hs)⟩

/-- As long as every reconcile starts traceable, an email that was removed from the config is in
the journal until an applied state contains it or a kick for it has succeeded. In any run the
journal loses an email that the config still has only to a reconcile that authorizes it. -/
theorem removals_stay_journaled (w₀ : Agent D) :
    (∀ s, JournalRun settings JournalCall.Traceable w₀ s →
      ∀ email ∈ s.ledger.2, s.ledger.1.journal.Holds email) ∧
    (∀ s s', JournalRun settings (fun _ _ => True) w₀ s →
      JournalStep settings (fun _ _ => True) s s' →
      ∀ email ∈ configuredEmails s.ledger.1.config, s.ledger.1.journal.Holds email →
        s'.ledger.1.journal.Holds email ∨ email ∈ s.call.authorized) := by
  constructor
  · intro s hs
    exact (hs.safe (S := True) fun _ _ _ h => h).2 trivial
  · intro s s' hs hstep
    obtain ⟨hsafe, _⟩ := hs.safe (S := False) fun h => h.elim
    exact (hsafe.step (fun h => h.elim) hstep).1.drops

/-! ## Debts of concrete runs -/

/-- A session of the email lives, and what is applied does not contain it. -/
def Outlives (email : String) (w : Agent D) : Prop :=
  email ∈ w.hy2Sessions.map Prod.snd ∧ email ∉ w.applied.elim [] fun a => itemEmails a.items

instance (w : Agent D) : Decidable (Outlives email w) := by unfold Outlives; infer_instance

/-- The email is owed a kick, or the config still has it. -/
def Owing (email : String) (l : RemovalLedger D) : Prop :=
  email ∈ l.2 ∨ email ∈ configuredEmails l.1.config

omit [DecidableEq D] in
/-- As long as the session lives, nothing settles the debt. -/
theorem owing_step {p : AgentProg D α} {l : RemovalLedger D} (hon : settings.hy2Enabled = true)
    (h : Owing email l) (hlives : Outlives email (p.step (ledgerSem D settings) f l).2.1) :
    Owing email (p.step (ledgerSem D settings) f l).2 := by
  cases p with
  | ret a => exact h
  | raise e => exact h
  | stmt s k =>
    obtain ⟨hsession, happlied⟩ : Outlives email (s f l.1).2 := hlives
    have hnotApplied : ¬ Applies f s email := by
      intro ha
      cases ha with
      | save hwritten hitem =>
        cases f with
        | ok => exact happlied hitem
        | fail => exact hwritten rfl
        | lost => exact happlied hitem
    have hnotKicked : ¬ Kicks settings f l.1 s email := by
      intro hk
      cases hk with
      | kick hkicked hid _ =>
        rw [kick_ok hkicked, sessionsAfter, if_pos hon] at hsession
        obtain ⟨x, hx, rfl⟩ := List.mem_map.1 hsession
        exact of_decide_eq_true (List.mem_filter.1 hx).2 hid
    by_cases hin : email ∈ configuredEmails (s f l.1).2.config
    · exact .inr hin
    · exact .inl ⟨h.imp_right fun hconfig => ⟨hconfig, hin⟩, hnotApplied, hnotKicked⟩

omit [DecidableEq D] in
theorem owing_advance {p : AgentProg D α} {l : RemovalLedger D} (hon : settings.hy2Enabled = true)
    (h : Owing email l) (fs : List Fate) (hlives : ∀ n < fs.length,
      Outlives email (p.advance (agentSem D) (fs.take (n + 1)) l.1).2) :
    Owing email (p.advance (ledgerSem D settings) fs l).2 := by
  induction fs generalizing p l with
  | nil => exact h
  | cons f fs ih =>
    obtain ⟨hp, hw⟩ := Prog.step_noting (agentSem D) (noteOwed settings) p f l
    refine ih (owing_step hon h ?_) fun n hn => ?_
    · rw [hw]
      exact hlives 0 (Nat.succ_pos _)
    · rw [hp, hw]
      exact hlives (n + 1) (Nat.succ_lt_succ hn)

/-- Some run to this node owes the email a kick. -/
def ReachesOwing (settings : AgentSettings) (C : JournalCall D → RemovalLedger D → Prop)
    (w₀ : Agent D) (email : String) (w : Agent D) : Prop :=
  ∃ s, JournalRun settings C w₀ s ∧ s.ledger.1 = w ∧ Owing email s.ledger

theorem JournalRun.call {w₀ : Agent D} {s : JournalSite D} (h : JournalRun settings C w₀ s)
    (call : JournalCall D) (hC : C call s.ledger) (fs : List Fate) :
    JournalRun settings C w₀
      ⟨call, ((call.program settings).advance (ledgerSem D settings) fs s.ledger).1,
        ((call.program settings).advance (ledgerSem D settings) fs s.ledger).2⟩ := by
  have hsteps : ∀ (p : AgentProg D Unit) (l : RemovalLedger D),
      JournalRun settings C w₀ ⟨call, p, l⟩ → JournalRun settings C w₀ ⟨call,
        (p.advance (ledgerSem D settings) fs l).1, (p.advance (ledgerSem D settings) fs l).2⟩ := by
    induction fs with
    | nil => exact fun _ _ h => h
    | cons f fs ih => exact fun p l h => ih _ _ (h.tail (.step f))
  exact hsteps _ _ (h.tail (.begin call hC))

theorem ReachesOwing.call {w₀ w : Agent D} (h : ReachesOwing settings C w₀ email w)
    (hon : settings.hy2Enabled = true) (call : JournalCall D)
    (hC : ∀ s, JournalRun settings C w₀ s → C call s.ledger) (fs : List Fate)
    (hlives : ∀ n < fs.length,
      Outlives email ((call.program settings).advance (agentSem D) (fs.take (n + 1)) w).2) :
    ReachesOwing settings C w₀ email ((call.program settings).advance (agentSem D) fs w).2 := by
  obtain ⟨s, hs, rfl, howing⟩ := h
  refine ⟨_, hs.call call (hC s hs) fs, ?_, owing_advance hon howing fs hlives⟩
  exact (Prog.advance_noting (agentSem D) (noteOwed settings) _ fs _).2

theorem ReachesOwing.crash {w₀ w : Agent D} (h : ReachesOwing settings C w₀ email w) :
    ReachesOwing settings C w₀ email w.restart := by
  obtain ⟨s, hs, rfl, howing⟩ := h
  exact ⟨_, hs.tail .crash, rfl, howing⟩

end Runs

/-- A node that serves one client with a live session and has applied nothing yet. -/
def unappliedNode : Agent (List DesiredItem) := { sessionNode with applied := none }

/-- A reconcile of these items. -/
def reconcileTo (generation : Nat) (items : List DesiredItem) : JournalCall (List DesiredItem) :=
  .reconcile ⟨⟨1, generation, items, items⟩, false, 0⟩

/-- The node after a call that meets these fates. -/
def afterCall (call : JournalCall (List DesiredItem)) (fates : List Fate)
    (w : Agent (List DesiredItem)) : Agent (List DesiredItem) :=
  ((call.program liveSettings).advance (agentSem _) fates w).2

/-- The node after the client has been removed and its kick has failed. -/
def kickFailed : Agent (List DesiredItem) :=
  afterCall (reconcileTo 2 limitOnly) (List.replicate 11 .ok ++ [.fail]) unappliedNode

/-- The journal has the removed client while its session lives. -/
theorem removals_stay_journaled_kick : ∃ s,
    JournalRun liveSettings JournalCall.Traceable unappliedNode s ∧ s.ledger.1 = kickFailed ∧
      "user_1" ∈ s.ledger.2 ∧ s.ledger.1.journal.Holds "user_1" := by
  have hnamed : FileNames unappliedNode.config "user_1" := by
    unfold FileNames
    decide
  have htraceable : (reconcileTo 2 limitOnly).Traceable (unappliedNode, ∅) := by
    intro _ _
    constructor
    · intro email he _
      have honly : configuredEmails unappliedNode.config = {"user_1"} := by decide
      rw [honly, Finset.mem_singleton] at he
      exact .inr (he ▸ hnamed)
    · exact fun email he => absurd he (Set.notMem_empty email)
  have hrun := (JournalRun.start liveSettings JournalCall.Traceable unappliedNode).call
    (reconcileTo 2 limitOnly) htraceable (List.replicate 11 .ok ++ [.fail])
  have hnode := (Prog.advance_noting (agentSem _) (noteOwed liveSettings)
    ((reconcileTo 2 limitOnly).program liveSettings) (List.replicate 11 .ok ++ [.fail])
    (unappliedNode, ∅)).2
  have howing : Owing "user_1" (((reconcileTo 2 limitOnly).program liveSettings).advance
      (ledgerSem _ liveSettings) (List.replicate 11 .ok ++ [.fail]) (unappliedNode, ∅)).2 :=
    owing_advance rfl (.inr (by decide +kernel)) _ (by decide +kernel)
  rw [Owing, hnode] at howing
  have howed := howing.resolve_right (by decide +kernel)
  exact ⟨_, hrun, hnode, howed, (removals_stay_journaled unappliedNode).1 _ hrun _ howed⟩

/-- The client is authorized again, and the process dies between journal and config. -/
def reclaimed : Agent (List DesiredItem) :=
  (afterCall (reconcileTo 3 oneClient) (List.replicate 6 .ok) kickFailed).restart

/-- The next process starts and removes the client for good. -/
def forgotten : Agent (List DesiredItem) :=
  afterCall (reconcileTo 4 limitOnly) (List.replicate 7 .ok)
    (afterCall .startup (List.replicate 3 .ok) reclaimed)

/-- A removed client whose generation was never applied is missing from the journal, and the
session that the journal was to end lives on under the next applied generation. -/
theorem reclaimed_removal_forgotten : ∃ s,
    JournalRun liveSettings (fun _ _ => True) unappliedNode s ∧ "user_1" ∈ s.ledger.2 ∧
      ¬ s.ledger.1.journal.Holds "user_1" ∧ ("u1", "user_1") ∈ s.ledger.1.hy2Sessions ∧
      s.ledger.1.applied = some ⟨1, 4, some limitOnly, limitOnly⟩ := by
  have hstart : ReachesOwing liveSettings (fun _ _ => True) unappliedNode "user_1"
      unappliedNode := ⟨_, .start _ _ _, rfl, .inr (by decide)⟩
  have hkick : ReachesOwing liveSettings (fun _ _ => True) unappliedNode "user_1" kickFailed :=
    hstart.call rfl (reconcileTo 2 limitOnly) (fun _ _ => trivial) _ (by decide +kernel)
  have hreclaimed : ReachesOwing liveSettings (fun _ _ => True) unappliedNode "user_1"
      reclaimed :=
    (hkick.call rfl (reconcileTo 3 oneClient) (fun _ _ => trivial) _ (by decide +kernel)).crash
  have hstarted := hreclaimed.call rfl .startup (fun _ _ => trivial) (List.replicate 3 .ok)
    (by decide +kernel)
  obtain ⟨s, hrun, hnode, howing⟩ : ReachesOwing liveSettings (fun _ _ => True) unappliedNode
      "user_1" forgotten :=
    hstarted.call rfl (reconcileTo 4 limitOnly) (fun _ _ => trivial) _ (by decide +kernel)
  rw [Owing, hnode] at howing
  refine ⟨s, hrun, howing.resolve_right (by decide +kernel), ?_, ?_, ?_⟩
  · rintro ⟨es, hes, hin⟩
    have hjournal : forgotten.journal = .emails ∅ := by decide +kernel
    rw [hnode, hjournal] at hes
    cases hes
    exact absurd hin (Finset.notMem_empty _)
  · rw [hnode]
    decide +kernel
  · rw [hnode]
    decide +kernel

end AegisVPN
