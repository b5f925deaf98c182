import AegisVPN.Bot.PushCommits
import AegisVPN.Bot.SyncSound

namespace AegisVPN
open Library
set_option autoImplicit true

variable {D : Type}

/-! ## The runs -/

/-- What the flags promise is there, unless an operation in progress has taken it. -/
structure PushWorld.Sound (w : PushWorld D) : Prop where
  needs : ∀ p, w.db.Needed p → w.agents.Has p ∨ ∃ t ∈ w.tasks, p ∈ t.taken
  brought : ∀ t ∈ w.tasks, ∀ p ∈ t.brought, w.agents.Has p
  formed : ∀ t ∈ w.tasks, t.Formed

theorem mem_eraseIdx_of {l : List α} (hi : l[i]? = some a) (hb : b ∈ l) :
    b = a ∨ b ∈ l.eraseIdx i := by
  obtain ⟨j, hj⟩ := List.mem_iff_getElem?.1 hb
  by_cases hji : j = i
  · rw [hji, hi] at hj
    cases hj
    exact .inl rfl
  · exact .inr (List.mem_eraseIdx_iff_getElem?.2 ⟨j, hji, hj⟩)

theorem mem_set_of {l : List α} (hi : l[i]? = some a) (x : α) (hb : b ∈ l) :
    b = a ∨ b ∈ l.set i x := by
  obtain ⟨j, hj⟩ := List.mem_iff_getElem?.1 hb
  by_cases hji : j = i
  · rw [hji, hi] at hj
    cases hj
    exact .inl rfl
  · refine .inr (List.mem_of_getElem? (i := j) ?_)
    rw [List.getElem?_set_ne (Ne.symm hji)]
    exact hj

theorem mem_set_self {l : List α} (hi : l[i]? = some a) (x : α) : x ∈ l.set i x :=
  List.mem_of_getElem? (i := i) (by rw [List.getElem?_set_self', hi]; rfl)

theorem start_formed {op : PushOp D}
    (h : ∀ old new devices servers loaded, op ≠ .sync old new devices servers (some loaded)) :
    (PushTask.start op).Formed where
  answered a ha := by cases ha
  removed c hc := by cases hc
  loaded old new devices servers loaded he := absurd he (h old new devices servers loaded)

theorem additions_removed {op : PushOp D} {a : Nat × AgentCall} (h : a ∈ op.additions) :
    a.2.removed = [] := by
  have hdevice : ∀ {sub device} {servers : List (Server D)}, a ∈ addDevice sub device servers →
      a.2.removed = [] := by
    intro sub device servers h
    obtain ⟨s, -, rfl⟩ := List.mem_map.1 h
    rfl
  cases op with
  | sync =>
    obtain ⟨s, -, rfl⟩ := List.mem_map.1 h
    rfl
  | register => exact hdevice h
  | switch =>
    rw [PushOp.additions] at h
    split at h
    · exact hdevice h
    · cases h
  | retry =>
    obtain ⟨j, -, rfl⟩ := List.mem_map.1 h
    rfl
  | strip => cases h
  | expire => cases h
  | revoke => cases h

namespace PushWorld.Sound
variable {w : PushWorld D}

theorem begin (h : w.Sound) {op : PushOp D} (hop : (PushTask.start op).Formed) :
    (w.begin op).Sound where
  needs p hp := (h.needs p hp).imp id fun ⟨t, ht, htp⟩ => ⟨t, List.mem_append_left _ ht, htp⟩
  brought t ht p hp := by
    rcases List.mem_append.1 ht with ht | ht
    · exact h.brought t ht p hp
    · rw [List.mem_singleton.1 ht] at hp
      cases hp
  formed t ht := by
    rcases List.mem_append.1 ht with ht | ht
    · exact h.formed t ht
    · exact List.mem_singleton.1 ht ▸ hop

/-- A task goes on, and has taken at least what it had. -/
theorem put (h : w.Sound) (hi : w.tasks[i]? = some task) {task' : PushTask D}
    (hformed : task'.Formed) (hbrought : ∀ p ∈ task'.brought, w.agents.Has p)
    (htaken : ∀ p ∈ task.taken, p ∈ task'.taken) : (w.put i task').Sound where
  needs p hp := by
    refine (h.needs p hp).imp id ?_
    rintro ⟨t, ht, htp⟩
    rcases mem_set_of hi task' ht with rfl | ht
    · exact ⟨task', mem_set_self hi task', htaken p htp⟩
    · exact ⟨t, ht, htp⟩
  brought t ht p hp := by
    rcases List.mem_or_eq_of_mem_set ht with ht | rfl
    · exact h.brought t ht p hp
    · exact hbrought p hp
  formed t ht := by
    rcases List.mem_or_eq_of_mem_set ht with ht | rfl
    · exact h.formed t ht
    · exact hformed

theorem handle (h : w.Sound) {c : AgentCall} (hc : c.removed = []) :
    PushWorld.Sound { w with agents := w.agents.handle c } where
  needs p hp := by
    refine (h.needs p hp).imp (fun hhas => (has_handle c w.agents p).2 (.inl ⟨hhas, ?_⟩)) id
    rw [hc]
    exact List.not_mem_nil
  brought t ht p hp := by
    refine (has_handle c w.agents p).2 (.inl ⟨h.brought t ht p hp, ?_⟩)
    rw [hc]
    exact List.not_mem_nil
  formed := h.formed

theorem add (h : w.Sound) (hi : w.tasks[i]? = some task) (ha : a ∈ task.op.additions) :
    (PushWorld.put { w with agents := w.agents.handle a.2 } i
      { task with answered := task.answered ++ [a] }).Sound := by
  have htask := List.mem_of_getElem? hi
  have hhandle := h.handle (additions_removed ha)
  refine hhandle.put hi ⟨fun b hb => ?_, (h.formed task htask).removed,
    (h.formed task htask).loaded⟩ (fun p hp => ?_) fun p hp => hp
  · rcases List.mem_append.1 hb with hb | hb
    · exact (h.formed task htask).answered b hb
    · exact List.mem_singleton.1 hb ▸ ha
  · rw [PushTask.brought, List.flatMap_append, List.mem_append] at hp
    rcases hp with hp | hp
    · exact hhandle.brought task htask p hp
    · rw [List.flatMap_singleton] at hp
      exact (has_handle a.2 w.agents p).2 (.inr hp)

theorem remove (h : w.Sound) (hi : w.tasks[i]? = some task) (hc : c ∈ task.op.removals)
    (hbrought : ∀ p ∈ c.removed, ∀ t ∈ w.tasks, p ∉ t.brought) :
    (PushWorld.put { w with agents := w.agents.handle c } i
      { task with removed := task.removed ++ [c] }).Sound := by
  have htask := List.mem_of_getElem? hi
  have hhas : ∀ t ∈ w.tasks, ∀ p ∈ t.brought, (w.agents.handle c).Has p := fun t ht p hp =>
    (has_handle c w.agents p).2 (.inl ⟨h.brought t ht p hp, fun hpc => hbrought p hpc t ht hp⟩)
  refine ⟨fun p hp => ?_, fun t ht p hp => ?_, fun t ht => ?_⟩
  · have hself := mem_set_self hi { task with removed := task.removed ++ [c] }
    have htaken : ∀ q, q ∈ task.taken ∨ q ∈ c.removed →
        q ∈ PushTask.taken { task with removed := task.removed ++ [c] } := by
      intro q hq
      rw [PushTask.taken, List.flatMap_append, List.flatMap_singleton]
      exact List.mem_append.2 hq
    by_cases hpc : p ∈ c.removed
    · exact .inr ⟨_, hself, htaken p (.inr hpc)⟩
    · rcases h.needs p hp with hp | ⟨t, ht, htp⟩
      · exact .inl ((has_handle c w.agents p).2 (.inl ⟨hp, hpc⟩))
      · rcases mem_set_of hi { task with removed := task.removed ++ [c] } ht with rfl | ht
        · exact .inr ⟨_, hself, htaken p (.inl htp)⟩
        · exact .inr ⟨t, ht, htp⟩
  · rcases List.mem_or_eq_of_mem_set ht with ht | rfl
    · exact hhas t ht p hp
    · exact hhas task htask p hp
  · rcases List.mem_or_eq_of_mem_set ht with ht | rfl
    · exact h.formed t ht
    · refine ⟨(h.formed task htask).answered, fun c' hc' => ?_, (h.formed task htask).loaded⟩
      rcases List.mem_append.1 hc' with hc' | hc'
      · exact (h.formed task htask).removed c' hc'
      · exact .inl (List.mem_singleton.1 hc' ▸ hc)

theorem revoke (h : w.Sound) (hfree : ∀ p ∈ c.removed,
    (∀ t ∈ w.tasks, p ∉ t.brought) ∧ ¬ w.db.Needed p) :
    PushWorld.Sound { w with agents := w.agents.handle c } where
  needs p hp := by
    refine (h.needs p hp).imp (fun hhas => ?_) id
    exact (has_handle c w.agents p).2 (.inl ⟨hhas, fun hpc => (hfree p hpc).2 hp⟩)
  brought t ht p hp := (has_handle c w.agents p).2
    (.inl ⟨h.brought t ht p hp, fun hpc => (hfree p hpc).1 t ht hp⟩)
  formed := h.formed

theorem erase (h : w.Sound) (hi : w.tasks[i]? = some task) {db : Db D}
    (hkeeps : w.Keeps task db) (added : List (PushTask D))
    (hadded : ∀ t ∈ added, t.Formed ∧ t.brought = []) :
    PushWorld.Sound { w with db, tasks := w.tasks.eraseIdx i ++ added } where
  needs p hp := by
    rcases hkeeps p hp with ⟨hneeded, hnot⟩ | hhas
    · refine (h.needs p hneeded).imp id ?_
      rintro ⟨t, ht, htp⟩
      rcases mem_eraseIdx_of hi ht with rfl | ht
      · exact absurd htp hnot
      · exact ⟨t, List.mem_append_left _ ht, htp⟩
    · exact .inl hhas
  brought t ht p hp := by
    rcases List.mem_append.1 ht with ht | ht
    · exact h.brought t (List.mem_of_mem_eraseIdx ht) p hp
    · rw [(hadded t ht).2] at hp
      cases hp
  formed t ht := by
    rcases List.mem_append.1 ht with ht | ht
    · exact h.formed t (List.mem_of_mem_eraseIdx ht)
    · exact (hadded t ht).1

section Step
variable [DecidableEq D] {settings : ControlSettings D}

/-- A commit, or a failure of an operation that has taken nothing. -/
theorem commit (h : w.Sound) (hi : w.tasks[i]? = some task) (hfits : w.Fits task)
    (hsucceeds : w.Succeeds settings task now) : (w.commit settings i task now).Sound := by
  have htask := List.mem_of_getElem? hi
  rw [PushWorld.commit]
  cases hwrites : task.writes with
  | none => exact h
  | some writes =>
    obtain ⟨pending, serverIds⟩ := writes
    simp only
    cases ho : pushTransaction settings pending serverIds now w.db with
    | mk r db' =>
      cases r with
      | error e =>
        have hnone : task.removed = [] := by
          by_contra hne
          have hok := hsucceeds hne _ hwrites
          rw [ho] at hok
          cases hok
        have hkeeps : w.Keeps task w.db := by
          intro p hp
          refine .inl ⟨hp, fun htaken => ?_⟩
          rw [PushTask.taken, hnone] at htaken
          cases htaken
        have herase := h.erase hi hkeeps [] fun t ht => by cases ht
        rw [List.append_nil] at herase
        exact herase
      | ok _ =>
        rw [pushTransaction, DbAct.andThen] at ho
        cases hwrite : Pending.write pending w.db with
        | mk r db₁ =>
          rw [hwrite] at ho
          cases r with
          | error e => cases ho
          | ok _ =>
            have hkeeps := hfits.keeps (h.formed task htask) (h.brought task htask) hwrites hwrite
            refine h.erase hi (fun p hp => hkeeps p (hp.published (published_publishAll ho))) _
              fun t ht => ?_
            rw [Option.mem_toList, PushOp.next.eq_def] at ht
            split at ht
            · cases ht
              exact ⟨start_formed (by rintro _ _ _ _ _ ⟨⟩), rfl⟩
            · cases ht

theorem step (h : w.Sound) (e : PushEvent D) (hc : w.Covers settings e) :
    (w.step settings e).Sound := by
  cases e with
  | strip => exact h.begin (start_formed (by rintro _ _ _ _ _ ⟨⟩))
  | sync => exact h.begin (start_formed (by rintro _ _ _ _ _ ⟨⟩))
  | register => exact h.begin (start_formed (by rintro _ _ _ _ _ ⟨⟩))
  | switch => exact h.begin (start_formed (by rintro _ _ _ _ _ ⟨⟩))
  | expire => exact h.begin (start_formed (by rintro _ _ _ _ _ ⟨⟩))
  | retry => exact h.begin (start_formed (by rintro _ _ _ _ _ ⟨⟩))
  | resync i new servers =>
    rw [PushWorld.step]
    split
    · rename_i hi
      refine h.put hi ⟨fun a ha => (by cases ha), fun c _ => .inr ⟨_, _, _, _, _, rfl⟩, ?_⟩
        (fun p hp => by cases hp) fun p hp => hp
      rintro _ _ _ _ _ ⟨⟩
    · exact h
  | load i =>
    rw [PushWorld.step]
    split
    · rename_i hi
      have hformed := h.formed _ (List.mem_of_getElem? hi)
      refine h.put hi ⟨hformed.answered, fun c _ => .inr ⟨_, _, _, _, _, rfl⟩, ?_⟩
        (fun p hp => h.brought _ (List.mem_of_getElem? hi) p hp) fun p hp => hp
      rintro _ _ _ _ _ ⟨⟩ l hl
      have hmem := (Bool.and_eq_true_iff.1 (List.mem_filter.1 hl).2).2
      exact List.mem_map.1 (List.contains_iff_mem.1 hmem)
    · exact h
  | add i k answered =>
    rw [PushWorld.step]
    cases hi : w.tasks[i]? with
    | none => exact h
    | some task =>
      simp only
      cases ha : task.op.additions[k]? with
      | none => exact h
      | some a =>
        have hmem := List.mem_of_getElem? ha
        simp only
        split
        · exact h.add hi hmem
        · exact h.handle (additions_removed hmem)
  | remove i k =>
    rw [PushWorld.step]
    cases hi : w.tasks[i]? with
    | none => exact h
    | some task =>
      simp only
      cases hk : task.op.removals[k]? with
      | none => exact h
      | some c => exact h.remove hi (List.mem_of_getElem? hk) (hc task hi c hk)
  | revoke i k =>
    rw [PushWorld.step]
    cases hi : w.tasks[i]? with
    | none => exact h
    | some task =>
      simp only
      cases hk : task.op.revocations[k]? with
      | none => exact h
      | some c => exact h.revoke (hc task hi c hk)
  | commit i now =>
    rw [PushWorld.step]
    cases hi : w.tasks[i]? with
    | none => exact h
    | some task => exact h.commit hi (hc task hi).1 (hc task hi).2
  | finish i =>
    rw [PushWorld.step]
    split
    · rename_i hi
      have hformed := h.formed _ (List.mem_of_getElem? hi)
      have herase := h.erase hi (fun p hp =>
        .inl ⟨hp, hformed.not_taken rfl (by rintro _ _ _ _ _ ⟨⟩) p⟩) [] fun t ht => by cases ht
      rw [List.append_nil] at herase
      exact herase
    · exact h
  | other next =>
    rw [PushWorld.step]
    split
    · rename_i hnext
      exact ⟨fun p hp => h.needs p (hnext p (mem_needed.2 hp)), h.brought, h.formed⟩
    · exact h

end Step

end PushWorld.Sound

/-- In a run whose commits fit and whose removals take nothing that is needed, whenever no
operation is in progress, the agent of each push link that is marked synced has the UUID of its
active subscription and of every device that may connect. -/
theorem synced_push_links_held [DecidableEq D] (settings : ControlSettings D)
    (es : List (PushEvent D))
    (h : Along (PushWorld.step settings) (PushWorld.Covers settings) .fresh es) :
    let w := es.foldl (PushWorld.step settings) .fresh
    w.tasks = [] → ∀ link ∈ w.db.links, link.isSynced = true →
      ∀ server, w.db.server link.serverId = some server → server.controlMode = .push →
      ∀ sub ∈ w.db.subscriptions, sub.id = link.subscriptionId → sub.isActive = true →
        sub.clientUuid ∈ w.agents server.agent ∧
        ∀ d ∈ w.db.activeDevices sub, d.uuid ∈ w.agents server.agent := by
  intro w hidle link hlink hsynced server hserver hmode sub hsub hid hactive
  have hsound : w.Sound := by
    refine run_invariant ⟨fun p hp => ?_, fun t ht => ?_, fun t ht => ?_⟩
      (fun w e hw hc => hw.step e hc) h
    · obtain ⟨sub, hsub, -⟩ := hp
      cases hsub
    · cases ht
    · cases ht
  have hhas : ∀ u ∈ w.db.servedUuids sub, u ∈ w.agents server.agent := by
    intro u hu
    have hagent : w.db.pushAgent link.serverId = some server.agent := by
      rw [Db.pushAgent, hserver, Option.filter_some, if_pos, Option.map_some]
      simp [pushesTo, hmode]
    rcases hsound.needs (server.agent, u)
      ⟨sub, hsub, hactive, hu, link, hlink, hid.symm, hsynced, hagent⟩ with hhas | ⟨t, ht, -⟩
    · exact hhas
    · rw [hidle] at ht
      cases ht
  exact ⟨hhas _ List.mem_cons_self, fun d hd =>
    hhas _ (List.mem_cons_of_mem _ (List.mem_map_of_mem hd))⟩

/-- A node that is pushed to. -/
def pushedServer : Server (List DesiredItem) :=
  ⟨1, "203.0.113.1", 443, "pk", "sid", "agent", .push, 0, 0, none, none, .both, true, true⟩

/-- A subscription is brought to the node, and a device of it registered. -/
def pushEvents (deviceCalls : List (PushEvent (List DesiredItem))) :
    List (PushEvent (List DesiredItem)) :=
  let sub := freshSubscription 1 "u1"
  [.other { Db.empty with
      users := [⟨1, 10, false, false, none⟩], subscriptions := [sub], servers := [pushedServer] },
    .sync sub sub [pushedServer], .add 0 0 true, .load 0, .commit 0 0, .register sub "d1" "ua"] ++
      deviceCalls ++ [.commit 0 0]

theorem synced_push_links_held_device :
    let es := pushEvents [.add 0 0 true]
    let w := es.foldl (PushWorld.step listSettings) .fresh
    w.db.links = [⟨1, 1, true⟩] ∧ w.db.devices = [⟨1, 1, "d1", "ua", true, false⟩] ∧
      "u1" ∈ w.agents "agent" ∧ "d1" ∈ w.agents "agent" := by
  intro es w
  have hcovers : Along (PushWorld.step listSettings) (PushWorld.Covers listSettings) .fresh es := by
    decide
  have hheld := synced_push_links_held listSettings es hcovers (by decide) ⟨1, 1, true⟩
    (by decide) rfl pushedServer (by decide) rfl (freshSubscription 1 "u1")
    (by decide) rfl rfl
  exact ⟨by decide, by decide, hheld.1,
    hheld.2 ⟨1, 1, "d1", "ua", true, false⟩ (by decide)⟩

/-- The request for the device fails, and the link stays marked without it. -/
theorem synced_link_lacks_device :
    let w := (pushEvents []).foldl (PushWorld.step listSettings) .fresh
    w.tasks = [] ∧ w.db.links = [⟨1, 1, true⟩] ∧ w.db.server 1 = some pushedServer ∧
      w.db.subscriptions = [freshSubscription 1 "u1"] ∧
      w.db.activeDevices (freshSubscription 1 "u1") = [⟨1, 1, "d1", "ua", true, false⟩] ∧
      "d1" ∉ w.agents "agent" := by
  decide

end AegisVPN
