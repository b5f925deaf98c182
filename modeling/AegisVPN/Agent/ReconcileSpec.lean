import AegisVPN.Agent.LiveConsistency
import AegisVPN.Library.Undisturbed

namespace AegisVPN
open Library
set_option autoImplicit true

/-! ## Nodes where only some fates occur -/

/-- The operations of a node where no fate but those of `F` occurs. -/
abbrev agentSemIn (D : Type) (F : Fate → Prop) [DecidablePred F] :
    Semantics (AgentAct D) Fate (Agent D) := fun a f w => if F f then some (a f w) else none

/-- An operation of the node may go wrong. -/
def Faulty (F : Fate → Prop) : Prop := ∃ f, F f ∧ f ≠ .ok

/-- The statement does not hide that it failed. -/
def Reports (s : AgentAct D (Except AgentError β)) : Prop := ∀ f w b, (s f w).1 = .ok b → f = .ok

abbrev anyChange (_ _ : Agent D) : Prop := True

section Rules
variable {F : Fate → Prop} [DecidablePred F] {X : AgentError → Agent D → Prop}

theorem agentSemIn_some {s : AgentAct D β} {b : β} (h : agentSemIn D F s f w = some (b, w')) :
    F f ∧ (s f w).1 = b ∧ (s f w).2 = w' := by
  simp only [agentSemIn] at h
  split at h
  · rename_i hf
    exact ⟨hf, Prod.ext_iff.1 (Option.some.inj h)⟩
  · cases h

theorem perform_in {s : AgentAct D β} {Q : β → Agent D → Prop}
    (h : ∀ f, F f → Q (s f w).1 (s f w).2) :
    (Prog.perform s).wp (agentSemIn D F) Eq anyChange Q X w := by
  refine Prog.wp_stmt.2 fun f b w' hs => ⟨trivial, ?_⟩
  obtain ⟨hf, rfl, rfl⟩ := agentSemIn_some hs
  exact h f hf

theorem performOrRaise_in {s : AgentAct D (Except AgentError β)} {Q : β → Agent D → Prop}
    (hs : Reports s) (hfault : Faulty F → ∀ e w', X e w')
    (hok : ∀ b, (s .ok w).1 = .ok b → Q b (s .ok w).2)
    (herror : ∀ e, (s .ok w).1 = .error e → X e (s .ok w).2) :
    (Prog.performOrRaise s).wp (agentSemIn D F) Eq anyChange Q X w := by
  refine Prog.wp_stmt.2 fun f b w' h => ⟨trivial, ?_⟩
  obtain ⟨hf, hb, rfl⟩ := agentSemIn_some h
  cases b with
  | ok b =>
    obtain rfl := hs f w b hb
    exact hok b hb
  | error e =>
    by_cases hfo : f = .ok
    · subst hfo
      exact herror e hb
    · exact hfault ⟨f, hf, hfo⟩ e _

theorem uses_in {p : AgentProg D α} {P : ∀ {β : Type}, AgentAct D β → Prop} {I : Agent D → Prop}
    (h : p.Uses P) (hP : ∀ {β : Type} (s : AgentAct D β), P s → ∀ f w, I w → I (s f w).2)
    (hI : I w) : p.wp (agentSemIn D F) Eq anyChange (fun _ => I) (fun _ => I) w := by
  refine Prog.wp_of_uses h ?_ hI
  intro β s hs f w b w' hi hsem
  obtain ⟨_, _, rfl⟩ := agentSemIn_some hsem
  exact ⟨trivial, hP s hs f w hi⟩

end Rules

/-- What answers each kind of fault with an error reports its faults. -/
theorem reports_of_errors {act : AgentAct D (Except AgentError β)}
    (hfail : ∀ w, ∃ e, (act .fail w).1 = .error e)
    (hlost : ∀ w, ∃ e, (act .lost w).1 = .error e) : Reports act := by
  intro f w b h
  cases f with
  | ok => rfl
  | fail =>
    obtain ⟨e, he⟩ := hfail w
    cases he.symm.trans h
  | lost =>
    obtain ⟨e, he⟩ := hlost w
    cases he.symm.trans h

theorem reports_replaceFile (e : AgentError) (write : Agent D → Agent D) :
    Reports (replaceFile e write) :=
  reports_of_errors (fun _ => ⟨_, rfl⟩) fun _ => ⟨_, rfl⟩

theorem reports_getXrayConfig : Reports (getXrayConfig (D := D)) :=
  reports_of_errors (fun _ => ⟨_, rfl⟩) fun _ => ⟨_, rfl⟩

theorem reports_loadPendingRevocations : Reports (loadPendingRevocations (D := D)) :=
  reports_of_errors (fun _ => ⟨_, rfl⟩) fun _ => ⟨_, rfl⟩

theorem reports_replaceOverrides (overrides : List (Int × Nat)) :
    Reports (replaceOverrides overrides (D := D)) :=
  reports_of_errors (fun _ => ⟨_, rfl⟩) fun _ => ⟨_, rfl⟩

/-! ## What the live phase leaves alone -/

/-- Nothing changed that a revocation is about. -/
structure SameFiles (w w' : Agent D) : Prop where
  config : w'.config = w.config
  applied : w'.applied = w.applied
  journal : w'.journal = w.journal
  hy2Clients : w'.hy2Clients = w.hy2Clients
  hy2Sessions : w'.hy2Sessions = w.hy2Sessions

theorem SameFiles.refl (w : Agent D) : SameFiles w w := ⟨rfl, rfl, rfl, rfl, rfl⟩

theorem SameFiles.trans (h : SameFiles w₁ w₂) (h' : SameFiles w₂ w₃) : SameFiles w₁ w₃ :=
  ⟨h'.config.trans h.config, h'.applied.trans h.applied, h'.journal.trans h.journal,
    h'.hy2Clients.trans h.hy2Clients, h'.hy2Sessions.trans h.hy2Sessions⟩

def KeepsFiles (s : AgentAct D β) : Prop := ∀ f w, SameFiles w (s f w).2

theorem keepsFiles_xrayApiRemove (tag email : String) :
    KeepsFiles (xrayApiRemove tag email (D := D)) := by
  intro f w
  cases f <;> exact ⟨rfl, rfl, rfl, rfl, rfl⟩

theorem keepsFiles_xrayApiAdd (inbound : Inbound) (record : ClientRecord) :
    KeepsFiles (xrayApiAdd inbound record (D := D)) := by
  intro f w
  unfold xrayApiAdd
  split
  · split
    · cases f <;> exact ⟨rfl, rfl, rfl, rfl, rfl⟩
    · exact .refl w
  · exact .refl w

theorem keepsFiles_hardReload : KeepsFiles (hardReload (D := D)) := by
  intro f w
  rw [hardReload_changes]
  exact ⟨rfl, rfl, rfl, rfl, rfl⟩

theorem hardReload_refused {w : Agent D} (h : (hardReload .ok w).1 = false) :
    ¬ Loadable w.config := by
  rw [hardReload] at h
  split at h
  · cases h
  · exact of_decide_eq_false h

section Spec
variable {F : Fate → Prop} [DecidablePred F]

theorem livePhase_in (settings : AgentSettings) (cascadeChanged : Bool) (delta : Delta)
    (w : Agent D) : (livePhase settings cascadeChanged delta).wp (agentSemIn D F) Eq anyChange
      (fun _ => SameFiles w) (fun _ w' => Faulty F ∨ SameFiles w w' ∧ ¬ Loadable w.config) w := by
  have hkeeps : ∀ {β : Type} (s : AgentAct D β), KeepsFiles s → ∀ f w', SameFiles w w' →
      SameFiles w (s f w').2 := fun s hs f w' hw => hw.trans (hs f w')
  rw [livePhase, Prog.bind_eq, Prog.wp_bind]
  refine Prog.wp_post (Q := fun _ => SameFiles w) (X := fun _ _ => False) ?_ ?_
    (fun _ _ h => h.elim)
  · split
    · rw [Prog.bind_eq, Prog.wp_bind]
      -- neither loop ever raises
      have hremovals : (liveRemovals delta.removals true).wp (agentSemIn D F) Eq anyChange
          (fun _ => SameFiles w) (fun _ _ => False) w := by
        refine Prog.wp_foldlM (fun _ _ => SameFiles w) ?_ (.refl w)
        intro r rest ok w₁ h₁
        rw [Prog.bind_eq, Prog.wp_bind]
        exact perform_in fun f _ => hkeeps _ (keepsFiles_xrayApiRemove r.1 r.2) f _ h₁
      refine Prog.wp_post hremovals ?_ (fun _ _ h => h)
      · intro ok w₁ h₁
        refine Prog.wp_foldlM (fun _ _ => SameFiles w) ?_ h₁
        intro a rest ok w₂ h₂
        rw [Prog.bind_eq, Prog.wp_bind]
        exact perform_in fun f _ => hkeeps _ (keepsFiles_xrayApiAdd a.1 a.2) f _ h₂
    · exact .refl w
  · intro ok w₁ h₁
    refine Prog.wp_whenever (fun _ => ?_) fun _ => h₁
    rw [Prog.bind_eq, Prog.wp_bind]
    refine perform_in fun f hf => ?_
    have h₂ := h₁.trans (keepsFiles_hardReload f w₁)
    refine Prog.wp_whenever (fun hready => ?_) fun _ => h₂
    by_cases hfo : f = .ok
    · subst hfo
      exact .inr ⟨h₂, h₁.config ▸ hardReload_refused hready⟩
    · exact .inl ⟨f, hf, hfo⟩

/-! ## The journal -/

/-- The sessions left once these emails have been kicked. -/
def sessionsAfter (settings : AgentSettings) (ids : Finset String)
    (sessions : List (String × String)) : List (String × String) :=
  if settings.hy2Enabled then sessions.filter fun s => s.2 ∉ ids else sessions

theorem kick_ok {settings : AgentSettings} {ids : Finset String} {w : Agent D}
    (h : (kick settings ids f w).1 = true) :
    (kick settings ids f w).2 =
      { w with hy2Sessions := sessionsAfter settings ids w.hy2Sessions } := by
  simp only [kick] at h ⊢
  by_cases hskip : settings.hy2Enabled = false ∨ ids = ∅
  · rw [if_pos hskip]
    rcases hskip with hoff | rfl
    · simp [sessionsAfter, hoff]
    · simp [sessionsAfter]
  · rw [if_neg hskip] at h ⊢
    rw [not_or, Bool.not_eq_false] at hskip
    cases f with
    | ok => simp [sessionsAfter, hskip.1]
    | fail => cases h
    | lost => cases h

theorem kick_fails {settings : AgentSettings} {ids : Finset String} {w : Agent D}
    (h : (kick settings ids f w).1 = false) : f ≠ .ok := by
  rintro rfl
  simp only [kick] at h
  split at h <;> cases h

/-- Where the config names no journaled email, a retry that is clean has kicked them all. -/
theorem retryPendingRevocations_in {settings : AgentSettings} {config : XrayConfig}
    {pending : Finset String} {w : Agent D} (hj : w.journal.read = .ok pending)
    (hp : pending ≠ ∅) (hc : Disjoint pending (configuredEmails config)) :
    (retryPendingRevocations settings (some config)).wp (agentSemIn D F) Eq anyChange
      (fun clean w' => (clean = false → Faulty F) ∧ (clean = true → w' = { w with
        hy2Clients := hy2Mapping config
        hy2Sessions := sessionsAfter settings pending w.hy2Sessions
        journal := .emails ∅ }))
      (fun _ _ => Faulty F) w := by
  have hsafe : pending \ configuredEmails config = pending := hc.sdiff_eq_left
  rw [retryPendingRevocations, Prog.bind_eq, Prog.wp_bind]
  refine performOrRaise_in reports_loadPendingRevocations (fun h _ _ => h) ?_ ?_
  · intro b hb
    obtain rfl : pending = b := by simpa [loadPendingRevocations, hj] using hb
    have hw : (loadPendingRevocations .ok w).2 = w := rfl
    simp only [hw, hp, hsafe, ↓reduceIte, Prog.bind_eq, Prog.wp_bind, Prog.wp_ret]
    refine perform_in fun _ _ => ?_
    simp only [refreshFromConfig, Prog.wp_bind]
    refine perform_in fun f hf => ?_
    split
    · rename_i hkicked
      rw [kick_ok hkicked, Prog.wp_bind, sdiff_self]
      refine performOrRaise_in (reports_replaceFile _ _) (fun h _ _ => h) ?_ ?_
      · exact fun _ _ => ⟨fun h => by simp at h, fun _ => rfl⟩
      · exact fun e he => by cases he
    · rename_i hkicked
      have hfo := kick_fails (Bool.not_eq_true _ ▸ hkicked)
      exact ⟨fun _ => ⟨f, hf, hfo⟩, fun h => by cases h⟩
  · intro e he
    simp [loadPendingRevocations, hj] at he

/-! ## Removals -/

theorem inboundRemovals_desired {i : Inbound} (h : i.clients = desiredRecords clients i) :
    inboundRemovals clients i = [] := by
  have hrecords : (desiredRecords clients i).filterMap
      (fun r => (truthy r.id).map fun uuid => (uuid, r)) =
      (clients.map fun c => (c.uuid, buildClientRecord c.uuid c.email i)).filter
        fun p => p.1 != "" := by
    rw [desiredRecords, List.filterMap_map, List.filter_map, ← List.filterMap_eq_map,
      List.filterMap_filter]
    refine List.filterMap_congr fun c _ => ?_
    by_cases hc : c.uuid = "" <;> simp [buildClientRecord, truthy, hc]
  refine List.filterMap_eq_nil_iff.2 fun p hmem => ?_
  obtain ⟨uuid, r⟩ := p
  rw [h, recordsByUuid, hrecords, mem_dictOf, ← List.filter_reverse,
    lookup_filter_key (· != "")] at hmem
  split at hmem
  · have hr := List.mem_reverse.1 (mem_of_lookup hmem)
    obtain ⟨c, _, hc⟩ := List.mem_map.1 hr
    cases hc
    simp only [desiredByUuid, lookup_dictOf, hmem, recordProjection_build, ↓reduceIte]
  · cases hmem

/-- An effective record of a tagged VLESS inbound has this email. -/
def FileNames (config : XrayConfig) (email : String) : Prop :=
  ∃ i ∈ listVlessInbounds config, (truthy i.tag).isSome ∧
    ∃ p ∈ recordsByUuid i.clients, truthy p.2.email = some email

theorem mem_removedEmails (h : email ∉ clients.map DesiredClient.email) :
    email ∈ (configDelta clients config).removals.map Prod.snd ↔ FileNames config email := by
  have hundesired : ∀ i uuid record, truthy record.email = some email →
      (desiredByUuid clients i).lookup uuid ≠ some (recordProjection record) := by
    intro i uuid record he hlookup
    rw [desiredByUuid, lookup_dictOf] at hlookup
    obtain ⟨c, hc, hp⟩ := List.mem_map.1 (List.mem_reverse.1 (mem_of_lookup hlookup))
    have hemail : some c.email = record.email :=
      congrArg (fun p : String × ClientRecord => p.2.email) hp
    rw [(truthy_some.1 he).1, Option.some.injEq] at hemail
    exact h (hemail ▸ List.mem_map_of_mem hc)
  simp only [configDelta, List.mem_map, List.mem_flatMap, inboundRemovals, List.mem_filterMap,
    FileNames]
  constructor
  · rintro ⟨⟨tag, _⟩, ⟨i, hi, ⟨uuid, record⟩, hmem, hr⟩, rfl⟩
    simp only at hr
    split at hr
    · cases hr
    · split at hr
      · rename_i ht he
        cases hr
        exact ⟨i, hi, by simp [ht], _, hmem, he⟩
      · cases hr
  · rintro ⟨i, hi, ht, ⟨uuid, record⟩, hmem, he⟩
    obtain ⟨tag, ht⟩ := Option.isSome_iff_exists.1 ht
    refine ⟨(tag, email), ⟨i, hi, (uuid, record), hmem, ?_⟩, rfl⟩
    simp only [hundesired i uuid record he, ↓reduceIte, ht, he]

/-! ## A reconcile -/

def desiredEmails (items : List DesiredItem) (nowMs : Nat) : Finset String :=
  ((desiredClients items nowMs).map DesiredClient.email).toFinset

/-- The emails that a reconcile journals: those journaled before and those of a record it
removes, as far as the snapshot does not authorize them. -/
def revocations (items : List DesiredItem) (nowMs : Nat) (config : XrayConfig)
    (pending : Finset String) : Finset String :=
  (pending \ desiredEmails items nowMs) ∪
    (((configDelta (desiredClients items nowMs) config).removals.map Prod.snd).toFinset \
      desiredEmails items nowMs)

theorem configuredEmails_desired (items : List DesiredItem) (nowMs : Nat) (config : XrayConfig) :
    configuredEmails (desiredConfig (desiredClients items nowMs) config) ⊆
      desiredEmails items nowMs := by
  intro email he
  rw [configuredEmails, List.mem_toFinset, List.mem_flatMap] at he
  obtain ⟨i, hi, he⟩ := he
  rw [desiredConfig_clients hi, desiredRecords, List.filterMap_map, List.mem_filterMap] at he
  obtain ⟨c, hc, he⟩ := he
  have hemail : truthy (some c.email) = some email := he
  have : c.email = email := Option.some.inj (truthy_some.1 hemail).1
  rw [desiredEmails, List.mem_toFinset]
  exact this ▸ List.mem_map_of_mem hc

theorem revocations_disjoint (items : List DesiredItem) (nowMs : Nat) (config : XrayConfig)
    (pending : Finset String) : Disjoint (revocations items nowMs config pending)
      (configuredEmails (desiredConfig (desiredClients items nowMs) config)) := by
  refine Disjoint.mono_right (configuredEmails_desired _ _ _) ?_
  rw [revocations, ← Finset.union_sdiff_distrib]
  exact disjoint_sdiff_self_left

/-- A reconcile has written its config, and the Hy2 users with it where that changed it. -/
structure Installed (snapshot : DesiredSnapshot D) (desired : XrayConfig) (revoked : Finset String)
    (w w' : Agent D) : Prop where
  config : w'.config = desired
  refreshed : desired ≠ w.config → w'.hy2Clients = hy2Mapping desired
  kept : desired = w.config → revoked = ∅ → w'.hy2Clients = w.hy2Clients
  applied : w'.applied = w.applied ∨ w'.applied = some
    ⟨snapshot.schemaVersion, snapshot.generation, some snapshot.digest, snapshot.items⟩

theorem Installed.of_same {snapshot : DesiredSnapshot D}
    (h : Installed snapshot desired revoked w w₁) (h₁ : SameFiles w₁ w₂) :
    Installed snapshot desired revoked w w₂ where
  config := h₁.config.trans h.config
  refreshed hd := h₁.hy2Clients.trans (h.refreshed hd)
  kept hd hr := h₁.hy2Clients.trans (h.kept hd hr)
  applied := h₁.applied ▸ h.applied

theorem sessionsAfter_empty (settings : AgentSettings) (sessions : List (String × String)) :
    sessionsAfter settings ∅ sessions = sessions := by
  by_cases h : settings.hy2Enabled <;> simp [sessionsAfter, h]

theorem closeSessions_in {settings : AgentSettings} {snapshot : DesiredSnapshot D}
    {revoked : Finset String} {desired : XrayConfig} {w w' : Agent D} {text : String}
    (hw : Installed snapshot desired revoked w w') (hj : w'.journal.read = .ok revoked)
    (hs : w'.hy2Sessions = w.hy2Sessions) (hc : Disjoint revoked (configuredEmails desired)) :
    (Prog.whenever (revoked ≠ ∅) do
      let clean ← retryPendingRevocations settings (some desired)
      Prog.whenever (clean = false) (.raise (.reconcile text))).wp (agentSemIn D F) Eq anyChange
      (fun _ w' => Installed snapshot desired revoked w w' ∧ w'.journal.read = .ok ∅ ∧
        w'.hy2Sessions = sessionsAfter settings revoked w.hy2Sessions)
      (fun _ _ => Faulty F) w' := by
  refine Prog.wp_whenever (fun hr => ?_) fun hr => ?_
  · rw [Prog.bind_eq, Prog.wp_bind]
    refine Prog.wp_post (retryPendingRevocations_in hj hr hc) ?_ (fun _ _ h => h)
    rintro clean w'' ⟨hfault, hclean⟩
    refine Prog.wp_whenever (fun h => hfault h) fun h => ?_
    obtain rfl := hclean (by simpa using h)
    exact ⟨⟨hw.config, fun _ => rfl, fun _ h => absurd h hr, hw.applied⟩, rfl, by rw [← hs]⟩
  · obtain rfl := not_not.1 hr
    exact ⟨hw, hj, by rw [sessionsAfter_empty, hs]⟩

theorem applyReconcile_in {settings : AgentSettings} {snapshot : DesiredSnapshot D} {w : Agent D}
    {pending : Finset String} (hj : w.journal.read = .ok pending) (nowMs : Nat)
    (cascaded : XrayConfig) (overrideChanged : Bool) :
    (applyReconcile settings snapshot nowMs w.config cascaded pending overrideChanged).wp
      (agentSemIn D F) Eq anyChange
      (fun _ w' => Installed snapshot (desiredConfig (desiredClients snapshot.items nowMs) cascaded)
          (revocations snapshot.items nowMs cascaded pending) w w' ∧
        w'.journal.read = .ok ∅ ∧ w'.hy2Sessions = sessionsAfter settings
          (revocations snapshot.items nowMs cascaded pending) w.hy2Sessions)
      (fun _ w' => Faulty F ∨
        Installed snapshot (desiredConfig (desiredClients snapshot.items nowMs) cascaded)
          (revocations snapshot.items nowMs cascaded pending) w w' ∧
        ¬ Loadable (desiredConfig (desiredClients snapshot.items nowMs) cascaded)) w := by
  have hrevoked : (pending \ ((desiredClients snapshot.items nowMs).map
      DesiredClient.email).toFinset) ∪ (((configDelta (desiredClients snapshot.items nowMs)
        cascaded).removals.map Prod.snd).toFinset \ ((desiredClients snapshot.items nowMs).map
          DesiredClient.email).toFinset) = revocations snapshot.items nowMs cascaded pending := rfl
  simp only [applyReconcile, hrevoked]
  have hdisjoint := revocations_disjoint snapshot.items nowMs cascaded pending
  generalize revocations snapshot.items nowMs cascaded pending = revoked at hdisjoint ⊢
  generalize desiredConfig (desiredClients snapshot.items nowMs) cascaded = desired at hdisjoint ⊢
  rw [Prog.bind_eq, Prog.wp_bind]
  refine performOrRaise_in reports_loadPendingRevocations (fun h _ _ => .inl h) ?_ ?_
  · intro journaled hjournaled
    obtain rfl : pending = journaled := by simpa [loadPendingRevocations, hj] using hjournaled
    have hw : (loadPendingRevocations .ok w).2 = w := rfl
    rw [hw, Prog.bind_eq, Prog.wp_bind]
    -- the journal is written before anything else
    refine Prog.wp_post (Q := fun _ w₁ => ∃ j : JournalFile, j.read = .ok revoked ∧
      w₁ = { w with journal := j }) (X := fun _ _ => Faulty F) ?_ ?_ (fun _ _ h => .inl h)
    · refine Prog.wp_whenever (fun _ => ?_) fun heq => ⟨w.journal, ?_, rfl⟩
      · refine performOrRaise_in (reports_replaceFile _ _) (fun h _ _ => h) ?_ ?_
        · exact fun _ _ => ⟨.emails revoked, rfl, rfl⟩
        · exact fun e he => by cases he
      · rw [hj, not_not.1 heq]
    rintro _ w₁ ⟨j, hjr, rfl⟩
    -- then the config, and the Hy2 users with it
    rw [Prog.bind_eq, Prog.wp_bind]
    refine Prog.wp_post (Q := fun _ w₂ => Installed snapshot desired revoked w w₂ ∧
      w₂.journal.read = .ok revoked ∧ w₂.hy2Sessions = w.hy2Sessions) (X := fun _ _ => Faulty F)
      ?_ ?_ (fun _ _ h => .inl h)
    · refine Prog.wp_whenever (fun hd => ?_) fun hd => ?_
      · rw [Prog.bind_eq, Prog.wp_bind]
        refine performOrRaise_in (reports_replaceFile _ _) (fun h _ _ => h) ?_ ?_
        · exact fun _ _ => perform_in fun _ _ =>
            ⟨⟨rfl, fun _ => rfl, fun h _ => absurd h hd, .inl rfl⟩, hjr, rfl⟩
        · exact fun e he => by cases he
      · exact ⟨⟨(not_not.1 hd).symm, fun h => absurd h hd, fun _ _ => rfl, .inl rfl⟩, hjr, rfl⟩
    rintro _ w₂ ⟨h₂, hj₂, hs₂⟩
    rw [Prog.bind_eq, Prog.wp_bind]
    refine Prog.wp_post (livePhase_in settings _ _ w₂) ?_ ?_
    · intro _ w₃ h₃
      have h₃' := h₂.of_same h₃
      have hj₃ : w₃.journal.read = .ok revoked := h₃.journal ▸ hj₂
      have hs₃ : w₃.hy2Sessions = w.hy2Sessions := h₃.hy2Sessions.trans hs₂
      rw [Prog.bind_eq, Prog.wp_bind]
      refine Prog.wp_post (closeSessions_in h₃' hj₃ hs₃ hdisjoint) ?_ (fun _ _ h => .inl h)
      rintro _ w₄ ⟨h₄, hj₄, hs₄⟩
      -- the overrides and the applied state come last
      rw [Prog.bind_eq, Prog.wp_bind]
      refine Prog.wp_post (Q := fun _ w₅ => SameFiles w₄ w₅) (X := fun _ _ => Faulty F) ?_ ?_
        (fun _ _ h => .inl h)
      · refine Prog.wp_whenever (fun _ => ?_) fun _ => .refl w₄
        refine performOrRaise_in (reports_replaceOverrides _) (fun h _ _ => h) ?_ ?_
        · exact fun _ _ => ⟨rfl, rfl, rfl, rfl, rfl⟩
        · exact fun e he => by cases he
      · intro _ w₅ h₅
        refine performOrRaise_in (reports_replaceFile _ _) (fun h _ _ => .inl h) ?_ ?_
        · intro _ _
          have h₅' := h₄.of_same h₅
          exact ⟨⟨h₅'.config, h₅'.refreshed, h₅'.kept, .inr rfl⟩, h₅.journal ▸ hj₄,
            h₅.hy2Sessions.trans hs₄⟩
        · exact fun e he => by cases he
    · rintro _ w₃ (hfault | ⟨h₃, hload⟩)
      · exact .inl hfault
      · exact .inr ⟨h₂.of_same h₃, h₂.config ▸ hload⟩
  · intro e he
    simp [loadPendingRevocations, hj] at he

theorem configDelta_congr {c c' : XrayConfig} (h : c'.inbounds = c.inbounds)
    (clients : List DesiredClient) : configDelta clients c' = configDelta clients c := by
  rw [configDelta, configDelta, listVlessInbounds_congr h]

/-- What a reconcile finds in the files: a journal, and a config that takes the routes. -/
structure Readable (snapshot : DesiredSnapshot D) (w : Agent D) where
  pending : Finset String
  cascaded : XrayConfig
  journal : w.journal.read = .ok pending
  routes : applyCascadeRoutes w.config (desiredRoutes snapshot.items) = .ok cascaded

namespace Readable
variable {snapshot : DesiredSnapshot D} {w : Agent D}

def desired (x : Readable snapshot w) (nowMs : Nat) : XrayConfig :=
  desiredConfig (desiredClients snapshot.items nowMs) x.cascaded

def revoked (x : Readable snapshot w) (nowMs : Nat) : Finset String :=
  revocations snapshot.items nowMs w.config x.pending

theorem revoked_eq (x : Readable snapshot w) (nowMs : Nat) :
    revocations snapshot.items nowMs x.cascaded x.pending = x.revoked nowMs := by
  rw [revoked, revocations, revocations, configDelta_congr (applyCascadeRoutes_inbounds x.routes)]

theorem revoked_unchanged (x : Readable snapshot w) (h : x.desired nowMs = w.config)
    (hp : x.pending = ∅) : x.revoked nowMs = ∅ := by
  have hremovals : (configDelta (desiredClients snapshot.items nowMs) w.config).removals = [] := by
    refine List.flatMap_eq_nil_iff.2 fun i hi => inboundRemovals_desired ?_
    rw [← h] at hi
    exact desiredConfig_clients hi
  simp [revoked, revocations, hremovals, hp]

end Readable

/-- A reconcile that returns has installed the snapshot, closed the sessions of the revoked
emails and emptied the journal. One that raises met a fault, could not read its input, or has
installed a config that Xray refuses. -/
theorem reconcileSnapshot_in [DecidableEq D] (settings : AgentSettings)
    (snapshot : DesiredSnapshot D) (nowMs : Nat) (w : Agent D) :
    (reconcileSnapshot settings snapshot false nowMs).wp (agentSemIn D F) Eq anyChange
      (fun r w' => r.success = true ∧ ∃ x : Readable snapshot w,
        Installed snapshot (x.desired nowMs) (x.revoked nowMs) w w' ∧ w'.journal.read = .ok ∅ ∧
        w'.hy2Sessions = sessionsAfter settings (x.revoked nowMs) w.hy2Sessions)
      (fun _ w' => Faulty F ∨ w' = w ∧ IsEmpty (Readable snapshot w) ∨
        ∃ x : Readable snapshot w, Installed snapshot (x.desired nowMs) (x.revoked nowMs) w w' ∧
          ¬ Loadable (x.desired nowMs)) w := by
  rw [reconcileSnapshot, Prog.bind_eq, Prog.wp_bind]
  refine performOrRaise_in reports_getXrayConfig (fun h _ _ => .inl h) ?_ fun e he => by cases he
  intro config hconfig
  obtain rfl : w.config = config := by simpa [getXrayConfig] using hconfig
  rw [Prog.bind_eq, Prog.wp_bind]
  refine performOrRaise_in reports_loadPendingRevocations (fun h _ _ => .inl h) ?_ ?_
  · intro pending hpending
    have hj : w.journal.read = .ok pending := by
      simpa [getXrayConfig, loadPendingRevocations] using hpending
    have hw : (loadPendingRevocations .ok (getXrayConfig .ok w).2).2 = w := rfl
    rw [hw, Prog.bind_eq, Prog.wp_bind]
    cases hr : applyCascadeRoutes w.config (desiredRoutes snapshot.items) with
    | error e =>
      refine .inr (.inl ⟨rfl, ⟨fun x => ?_⟩⟩)
      rw [x.routes] at hr
      cases hr
    | ok cascaded =>
      obtain ⟨x, rfl, rfl⟩ : ∃ x : Readable snapshot w, x.pending = pending ∧
          x.cascaded = cascaded := ⟨⟨pending, cascaded, hj, hr⟩, rfl, rfl⟩
      simp only [Except.mapError, Prog.ofExcept, Prog.bind_eq, Prog.wp_ret, Prog.wp_bind]
      refine perform_in fun _ _ => ?_
      rw [Prog.wp_bind]
      refine perform_in fun f _ => ?_
      have hw' : (loadAppliedState f w).2 = w := by
        cases f <;> rfl
      simp only [readOverrides, hw']
      refine Prog.wp_ite (fun hunchanged => ?_) fun _ => ?_
      · simp only [Bool.false_or, Bool.not_eq_true', Bool.or_eq_false_iff, decide_eq_false_iff_not,
          not_or, not_not] at hunchanged
        obtain ⟨⟨⟨hsame, _⟩, _⟩, hnone, hpending⟩ := hunchanged
        have hp : x.pending = ∅ := hpending.symm.trans hnone
        have hr : x.revoked nowMs = ∅ := x.revoked_unchanged hsame hp
        refine ⟨rfl, x, ⟨hsame.symm, fun h => absurd hsame h, fun _ _ => rfl, .inl rfl⟩, ?_, ?_⟩
        · rw [hj, hp]
        · rw [hr, sessionsAfter_empty]
      · rw [Prog.wp_bind]
        refine Prog.wp_post (applyReconcile_in x.journal nowMs x.cascaded _) ?_ ?_
        · intro _ w' h
          rw [x.revoked_eq] at h
          exact ⟨rfl, x, h⟩
        simp only [x.revoked_eq]
        rintro _ w' (h | h)
        · exact .inl h
        · exact .inr (.inr ⟨x, h⟩)
  · intro e he
    refine .inr (.inl ⟨rfl, ⟨fun x => ?_⟩⟩)
    simp [getXrayConfig, loadPendingRevocations, x.journal] at he

end Spec

end AegisVPN
