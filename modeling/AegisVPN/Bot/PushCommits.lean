import AegisVPN.Bot.PushRuns

namespace AegisVPN
open Library
set_option autoImplicit true

variable {D : Type}

/-- What a request adds to an agent. -/
def AgentCall.added : AgentCall → List (String × String)
  | .addClient agent uuid _ => [(agent, uuid)]
  | .bulkAdd agent clients => clients.map fun c => (agent, c.1)
  | .removeClient .. => []

def AgentCall.removed : AgentCall → List (String × String)
  | .removeClient agent uuid _ => [(agent, uuid)]
  | _ => []

namespace PushTask

/-- What agents have confirmed to have. -/
def brought (task : PushTask D) : List (String × String) :=
  task.answered.flatMap fun a => a.2.added

/-- What was taken from agents. -/
def taken (task : PushTask D) : List (String × String) := task.removed.flatMap AgentCall.removed

end PushTask

/-! ## When operations keep what the flags promise -/

/-- Every push server with a synced link of the device's subscription has confirmed the device. -/
def Db.Reaches (db : Db D) (task : PushTask D) (device : Device) : Prop :=
  ∀ sub ∈ db.subscriptions, sub.id = device.subscriptionId → sub.isActive = true →
    ∀ l ∈ db.links, l.subscriptionId = sub.id → l.isSynced = true →
      ∀ agent ∈ db.pushAgent l.serverId, (agent, device.uuid) ∈ task.brought

/-- A synchronisation that starts, rotates or strips the subscription has loaded all its links that
are marked. -/
def Db.LoadsMarked (db : Db D) (task : PushTask D) (old new : Subscription)
    (loaded : List SubscriptionServer) : Prop :=
  ∀ sub ∈ db.subscriptions, sub.id = old.id → (old.patch new sub).isActive = true →
    sub.isActive = false ∨ (old.patch new sub).clientUuid ≠ sub.clientUuid ∨ task.removed ≠ [] →
    ∀ l ∈ db.links, l.subscriptionId = old.id → l.isSynced = true →
      (db.pushAgent l.serverId).isSome = true →
      ∃ l' ∈ loaded.find? fun l' => l'.serverId == l.serverId, l'.isSynced = true

/-- The commit of a synchronisation: what it has sent is still all that is to be served where it
was answered. -/
structure Db.SyncFits (db : Db D) (task : PushTask D) (old new : Subscription)
    (devices : List Device) (servers : List (Server D)) (loaded : List SubscriptionServer) :
    Prop where
  uuid : task.answered ≠ [] → ∀ sub ∈ db.subscriptions, sub.id = old.id →
    (old.patch new sub).clientUuid = new.clientUuid
  devices : task.answered ≠ [] → ∀ d ∈ db.activeDevices old, d.uuid ∈ devices.map Device.uuid
  agents : ∀ s ∈ servers, task.answered.any (fun a => a.1 == s.id) = true →
    ∀ agent ∈ db.pushAgent s.id, agent = s.agent
  links : db.LoadsMarked task old new loaded
  alone : ∀ p ∈ task.taken, ∀ sub ∈ db.subscriptions, sub.id ≠ old.id → ¬ db.Needs sub p

/-- The commit of a change of a device: if the device comes on, all servers have confirmed it, and
if it has been taken from agents, it goes off and nobody else has its UUID. -/
structure Db.SwitchFits (db : Db D) (task : PushTask D) (old new : Device) : Prop where
  same : ∀ d ∈ db.devices, d.id = old.id →
    d.uuid = old.uuid ∧ d.subscriptionId = old.subscriptionId
  on : ∀ d ∈ db.devices, d.id = old.id → d.isOn = false → (old.patch new d).isOn = true →
    db.Reaches task old
  off : task.removed ≠ [] → (∀ d ∈ db.devices, d.id = old.id → (old.patch new d).isOn = false) ∧
    (∀ d ∈ db.devices, d.uuid = old.uuid → d.id = old.id) ∧
    ∀ sub ∈ db.subscriptions, sub.clientUuid ≠ old.uuid

/-- What a retry has sent is still right, and the agent has the devices. -/
def PushWorld.Completes (w : PushWorld D) (j : UnsyncedJob) : Prop :=
  ∀ sub ∈ w.db.subscriptions, sub.id = j.subscriptionId → sub.isActive = true →
    ∀ agent ∈ w.db.pushAgent j.serverId, agent = j.agent ∧ sub.clientUuid = j.clientUuid ∧
      ∀ d ∈ w.db.activeDevices sub, w.agents.Has (agent, d.uuid)

/-- The commit of a retry, for the links that it is about to mark. -/
def PushWorld.RetryFits (w : PushWorld D) (task : PushTask D) (jobs : List UnsyncedJob) : Prop :=
  ∀ j ∈ jobs, task.retried j = true →
    ∀ l ∈ w.db.links, l.subscriptionId = j.subscriptionId → l.serverId = j.serverId →
      l.isSynced = false → w.Completes j

def PushWorld.Fits (w : PushWorld D) (task : PushTask D) : Prop :=
  match task.op with
  | .sync old new devices servers (some loaded) =>
    w.db.SyncFits task old new devices servers loaded
  | .register _ device _ => w.db.Reaches task device
  | .switch _ old new _ => w.db.SwitchFits task old new
  | .retry jobs => w.RetryFits task jobs
  | _ => True

section World
variable [DecidableEq D] (settings : ControlSettings D)

/-- Nothing fails after the removals but requests. -/
def PushWorld.Succeeds (w : PushWorld D) (task : PushTask D) (now : Int) : Prop :=
  task.removed ≠ [] → ∀ writes ∈ task.writes,
    (pushTransaction settings writes.1 writes.2 now w.db).1 = .ok ()

/-- No removal takes what an operation in progress has brought, and a revocation nothing that
the flags promise by now. -/
def PushWorld.Covers (w : PushWorld D) : PushEvent D → Prop
  | .remove i k => ∀ task ∈ w.tasks[i]?, ∀ c ∈ task.op.removals[k]?, ∀ p ∈ c.removed,
      ∀ t ∈ w.tasks, p ∉ t.brought
  | .revoke i k => ∀ task ∈ w.tasks[i]?, ∀ c ∈ task.op.revocations[k]?, ∀ p ∈ c.removed,
      (∀ t ∈ w.tasks, p ∉ t.brought) ∧ ¬ w.db.Needed p
  | .commit i now => ∀ task ∈ w.tasks[i]?, w.Fits task ∧ w.Succeeds settings task now
  | _ => True

instance decidableReaches (db : Db D) (task : PushTask D) (device : Device) :
    Decidable (db.Reaches task device) :=
  inferInstanceAs (Decidable (∀ sub ∈ db.subscriptions, sub.id = device.subscriptionId →
    sub.isActive = true → ∀ l ∈ db.links, l.subscriptionId = sub.id → l.isSynced = true →
      ∀ agent ∈ db.pushAgent l.serverId, (agent, device.uuid) ∈ task.brought))

instance decidableLoadsMarked (db : Db D) (task : PushTask D) (old new : Subscription)
    (loaded : List SubscriptionServer) : Decidable (db.LoadsMarked task old new loaded) :=
  inferInstanceAs (Decidable (∀ sub ∈ db.subscriptions, sub.id = old.id →
    (old.patch new sub).isActive = true →
    sub.isActive = false ∨ (old.patch new sub).clientUuid ≠ sub.clientUuid ∨ task.removed ≠ [] →
    ∀ l ∈ db.links, l.subscriptionId = old.id → l.isSynced = true →
      (db.pushAgent l.serverId).isSome = true →
      ∃ l' ∈ loaded.find? fun l' : SubscriptionServer => l'.serverId == l.serverId,
        l'.isSynced = true))

instance decidableSyncFits (db : Db D) (task : PushTask D) (old new : Subscription)
    (devices : List Device) (servers : List (Server D)) (loaded : List SubscriptionServer) :
    Decidable (db.SyncFits task old new devices servers loaded) :=
  decidable_of_iff
    ((task.answered ≠ [] → ∀ sub ∈ db.subscriptions, sub.id = old.id →
      (old.patch new sub).clientUuid = new.clientUuid) ∧
    (task.answered ≠ [] → ∀ d ∈ db.activeDevices old, d.uuid ∈ devices.map Device.uuid) ∧
    (∀ s ∈ servers, task.answered.any (fun a => a.1 == s.id) = true →
      ∀ agent ∈ db.pushAgent s.id, agent = s.agent) ∧
    db.LoadsMarked task old new loaded ∧
    ∀ p ∈ task.taken, ∀ sub ∈ db.subscriptions, sub.id ≠ old.id → ¬ db.Needs sub p)
    ⟨fun h => ⟨h.1, h.2.1, h.2.2.1, h.2.2.2.1, h.2.2.2.2⟩,
      fun h => ⟨h.uuid, h.devices, h.agents, h.links, h.alone⟩⟩

instance decidableSwitchFits (db : Db D) (task : PushTask D) (old new : Device) :
    Decidable (db.SwitchFits task old new) :=
  decidable_of_iff
    ((∀ d ∈ db.devices, d.id = old.id →
      d.uuid = old.uuid ∧ d.subscriptionId = old.subscriptionId) ∧
    (∀ d ∈ db.devices, d.id = old.id → d.isOn = false → (old.patch new d).isOn = true →
      db.Reaches task old) ∧
    (task.removed ≠ [] → (∀ d ∈ db.devices, d.id = old.id → (old.patch new d).isOn = false) ∧
      (∀ d ∈ db.devices, d.uuid = old.uuid → d.id = old.id) ∧
      ∀ sub ∈ db.subscriptions, sub.clientUuid ≠ old.uuid))
    ⟨fun h => ⟨h.1, h.2.1, h.2.2⟩, fun h => ⟨h.same, h.on, h.off⟩⟩

instance decidableCompletes (w : PushWorld D) (j : UnsyncedJob) : Decidable (w.Completes j) :=
  inferInstanceAs (Decidable (∀ sub ∈ w.db.subscriptions, sub.id = j.subscriptionId →
    sub.isActive = true → ∀ agent ∈ w.db.pushAgent j.serverId,
      agent = j.agent ∧ sub.clientUuid = j.clientUuid ∧
      ∀ d ∈ w.db.activeDevices sub, d.uuid ∈ w.agents agent))

instance decidableRetryFits (w : PushWorld D) (task : PushTask D) (jobs : List UnsyncedJob) :
    Decidable (w.RetryFits task jobs) :=
  inferInstanceAs (Decidable (∀ j ∈ jobs, task.retried j = true →
    ∀ l ∈ w.db.links, l.subscriptionId = j.subscriptionId → l.serverId = j.serverId →
      l.isSynced = false → w.Completes j))

instance decidableFits (w : PushWorld D) : ∀ task : PushTask D, Decidable (w.Fits task)
  | ⟨.sync old new devices servers (some loaded), answered, removed⟩ =>
    decidableSyncFits w.db ⟨.sync old new devices servers (some loaded), answered, removed⟩
      old new devices servers loaded
  | ⟨.register sub device servers, answered, removed⟩ =>
    decidableReaches w.db ⟨.register sub device servers, answered, removed⟩ device
  | ⟨.switch sub old new servers, answered, removed⟩ =>
    decidableSwitchFits w.db ⟨.switch sub old new servers, answered, removed⟩ old new
  | ⟨.retry jobs, answered, removed⟩ => decidableRetryFits w ⟨.retry jobs, answered, removed⟩ jobs
  | ⟨.sync _ _ _ _ none, _, _⟩ => .isTrue trivial
  | ⟨.strip .., _, _⟩ => .isTrue trivial
  | ⟨.expire .., _, _⟩ => .isTrue trivial
  | ⟨.revoke .., _, _⟩ => .isTrue trivial

instance decidableSucceeds (w : PushWorld D) (task : PushTask D) (now : Int) :
    Decidable (w.Succeeds settings task now) :=
  inferInstanceAs (Decidable (_ → ∀ writes ∈ task.writes, _))

instance decidablePushCovers (w : PushWorld D) : ∀ e, Decidable (w.Covers settings e)
  | .remove i k => inferInstanceAs (Decidable (∀ task ∈ w.tasks[i]?,
      ∀ c ∈ task.op.removals[k]?, ∀ p ∈ c.removed, ∀ t ∈ w.tasks, p ∉ t.brought))
  | .revoke i k => inferInstanceAs (Decidable (∀ task ∈ w.tasks[i]?,
      ∀ c ∈ task.op.revocations[k]?, ∀ p ∈ c.removed,
        (∀ t ∈ w.tasks, p ∉ t.brought) ∧ ¬ w.db.Needed p))
  | .commit i now => inferInstanceAs (Decidable (∀ task ∈ w.tasks[i]?,
      w.Fits task ∧ w.Succeeds settings task now))
  | .strip .. => .isTrue trivial
  | .resync .. => .isTrue trivial
  | .sync .. => .isTrue trivial
  | .load .. => .isTrue trivial
  | .register .. => .isTrue trivial
  | .switch .. => .isTrue trivial
  | .expire .. => .isTrue trivial
  | .retry => .isTrue trivial
  | .add .. => .isTrue trivial
  | .finish .. => .isTrue trivial
  | .other .. => .isTrue trivial

end World

/-! ## Agents -/

theorem has_addClient (agent uuid email : String) (n : Agents) (p : String × String) :
    (n.handle (.addClient agent uuid email)).Has p ↔ n.Has p ∨ p = (agent, uuid) := by
  rw [Agents.Has, Agents.handle, Function.update_apply]
  split
  · rename_i hagent
    rw [List.mem_append, ← hagent, List.mem_singleton]
    exact or_congr_right ⟨fun h => Prod.ext rfl h, congrArg Prod.snd⟩
  · rename_i hne
    exact ⟨.inl, fun h => h.elim id fun h => absurd (congrArg Prod.fst h) hne⟩

theorem has_handle (c : AgentCall) (n : Agents) (p : String × String) :
    (n.handle c).Has p ↔ n.Has p ∧ p ∉ c.removed ∨ p ∈ c.added := by
  cases c with
  | addClient agent uuid email => simp [has_addClient, AgentCall.removed, AgentCall.added]
  | bulkAdd agent clients =>
    rw [has_bulkAdd]
    simp only [AgentCall.removed, List.not_mem_nil, not_false_eq_true, and_true, AgentCall.added,
      List.mem_map, Prod.ext_iff]
    refine or_congr_right ⟨?_, ?_⟩
    · rintro ⟨hagent, c, hc, huuid⟩
      exact ⟨c, hc, hagent, huuid⟩
    · rintro ⟨c, hc, hagent, huuid⟩
      exact ⟨hagent, c, hc, huuid⟩
  | removeClient agent uuid expired => simp [has_removeClient, AgentCall.removed, AgentCall.added]

/-! ## What the flags promise -/

theorem mem_needed {db : Db D} {p : String × String} : p ∈ db.needed ↔ db.Needed p := by
  simp only [Db.needed, List.mem_flatMap, List.mem_filterMap, Option.filter_eq_some_iff,
    Option.map_eq_some_iff, decide_eq_true_eq]
  constructor
  · rintro ⟨sub, hsub, uuid, huuid, l, hl, -, hneeds⟩
    exact ⟨sub, hsub, hneeds⟩
  · rintro ⟨sub, hsub, hneeds⟩
    obtain ⟨-, huuid, l, hl, -, -, hagent⟩ := id hneeds
    exact ⟨sub, hsub, p.2, huuid, l, hl, ⟨p.1, hagent, rfl⟩, hneeds⟩

theorem published_pushAgent {db db' : Db D} (h : Published db db') (serverId : Nat) :
    db'.pushAgent serverId = db.pushAgent serverId := by
  obtain ⟨g, hg⟩ := h.server
  rw [Db.pushAgent, Db.pushAgent, hg]
  cases db.server serverId with
  | none => rfl
  | some s =>
    rw [Option.map_some, Option.filter_some, Option.filter_some]
    change Option.map _ (if pushesTo s = true then _ else _) = _
    split <;> rfl

theorem Db.Needed.published {db db' : Db D} (h : db'.Needed p) (hp : Published db db') :
    db.Needed p := by
  obtain ⟨sub, hsub, hactive, huuid, l, hl, hid, hsynced, hagent⟩ := h
  have hrest := hp.rest
  have hdevices : db'.devices = db.devices := by rw [hrest]
  refine ⟨sub, ?_, hactive, ?_, l, ?_, hid, hsynced, ?_⟩
  · have hsubs : db'.subscriptions = db.subscriptions := by rw [hrest]
    exact hsubs ▸ hsub
  · rw [Db.servedUuids, Db.activeDevices, ← hdevices]
    exact huuid
  · have hlinks : db'.links = db.links := by rw [hrest]
    exact hlinks ▸ hl
  · rw [← published_pushAgent hp]
    exact hagent

/-! ## What each commit keeps -/

/-- The form of an operation in progress. -/
structure PushTask.Formed (task : PushTask D) : Prop where
  answered : ∀ a ∈ task.answered, a ∈ task.op.additions
  removed : ∀ c ∈ task.removed, c ∈ task.op.removals ∨
    ∃ old new devices servers loaded, task.op = .sync old new devices servers loaded
  loaded : ∀ old new devices servers loaded, task.op = .sync old new devices servers (some loaded) →
    ∀ l ∈ loaded, ∃ s ∈ servers, s.id = l.serverId

/-- What the flags promise after writes was promised before and not taken, or is there. -/
def PushWorld.Keeps (w : PushWorld D) (task : PushTask D) (db : Db D) : Prop :=
  ∀ p, db.Needed p → w.db.Needed p ∧ p ∉ task.taken ∨ w.agents.Has p

section Commit
variable {w : PushWorld D} {task : PushTask D}

theorem PushTask.Formed.not_taken (h : task.Formed) (hop : task.op.removals = [])
    (hsync : ∀ old new devices servers loaded, task.op ≠ .sync old new devices servers loaded)
    (p : String × String) : p ∉ task.taken := by
  intro hp
  obtain ⟨c, hc, -⟩ := List.mem_flatMap.1 hp
  rcases h.removed c hc with hmem | ⟨old, new, devices, servers, loaded, he⟩
  · rw [hop] at hmem
    cases hmem
  · exact hsync old new devices servers loaded he

theorem mem_activeDevices {db : Db D} {sub : Subscription} {d : Device} :
    d ∈ db.activeDevices sub ↔ d ∈ db.devices ∧ d.subscriptionId = sub.id ∧ d.isOn = true := by
  simp only [Db.activeDevices, List.mem_filter, Device.isOn, Bool.and_eq_true, beq_iff_eq,
    and_assoc]

theorem mem_servedUuids {db : Db D} {sub : Subscription} {u : String} :
    u ∈ db.servedUuids sub ↔ u = sub.clientUuid ∨
      ∃ d ∈ db.devices, d.subscriptionId = sub.id ∧ d.isOn = true ∧ d.uuid = u := by
  simp only [Db.servedUuids, List.mem_cons, List.mem_map, mem_activeDevices, and_assoc]

theorem needed_of_devices {db : Db D} {devices : List Device} {p : String × String}
    (h : { db with devices }.Needed p) : ∃ sub ∈ db.subscriptions, sub.isActive = true ∧
      (∃ l ∈ db.links, l.subscriptionId = sub.id ∧ l.isSynced = true ∧
        db.pushAgent l.serverId = some p.1) ∧
      (p.2 = sub.clientUuid ∨
        ∃ d ∈ devices, d.subscriptionId = sub.id ∧ d.isOn = true ∧ d.uuid = p.2) := by
  obtain ⟨sub, hsub, hactive, huuid, hlink⟩ := h
  exact ⟨sub, hsub, hactive, hlink, mem_servedUuids.1 huuid⟩

/-- A device that comes on where all servers have confirmed it. -/
theorem has_of_reaches (hbrought : ∀ p ∈ task.brought, w.agents.Has p) {device : Device}
    (h : w.db.Reaches task device) {sub : Subscription} (hsub : sub ∈ w.db.subscriptions)
    (hactive : sub.isActive = true) (hid : device.subscriptionId = sub.id)
    {p : String × String} (huuid : device.uuid = p.2)
    (hlink : ∃ l ∈ w.db.links, l.subscriptionId = sub.id ∧ l.isSynced = true ∧
      w.db.pushAgent l.serverId = some p.1) : w.agents.Has p := by
  obtain ⟨l, hl, hlsub, hsynced, hagent⟩ := hlink
  have hmem := h sub hsub hid.symm hactive l hl hlsub hsynced p.1 hagent
  rw [huuid] at hmem
  exact hbrought p hmem

theorem register_keeps {sub : Subscription} {device : Device} {servers : List (Server D)}
    (hop : task.op = .register sub device servers) (hformed : task.Formed)
    (hbrought : ∀ p ∈ task.brought, w.agents.Has p) (hfits : w.db.Reaches task device)
    (h : Pending.write [(insertDevice device).andThen fun db => (.ok (), db)] w.db =
      (.ok (), db')) : w.Keeps task db' := by
  have hdb : db' = { w.db with devices := w.db.devices ++
      [{ device with id := nextId (w.db.devices.map Device.id) }] } := by
    simp only [Pending.write, DbAct.andThen, insertDevice] at h
    split at h
    · cases h
    · rename_i hx
      split at hx
      · rename_i hy
        split at hy <;> cases hy
        cases hx
      · rename_i hy
        split at hy <;> cases hy
        cases hx
        cases h
        rfl
  subst hdb
  intro p hp
  obtain ⟨s, hs, hactive, hlink, huuid⟩ := needed_of_devices hp
  have htaken := hformed.not_taken (by rw [hop]; rfl) (by rw [hop]; rintro _ _ _ _ _ ⟨⟩) p
  rcases huuid with huuid | ⟨d, hd, hid, hon, huuid⟩
  · exact .inl ⟨⟨s, hs, hactive, mem_servedUuids.2 (.inl huuid), hlink⟩, htaken⟩
  · rcases List.mem_append.1 hd with hd | hd
    · exact .inl ⟨⟨s, hs, hactive, mem_servedUuids.2 (.inr ⟨d, hd, hid, hon, huuid⟩), hlink⟩,
        htaken⟩
    · obtain rfl := List.mem_singleton.1 hd
      exact .inr (has_of_reaches hbrought hfits hs hactive hid huuid hlink)

theorem dirtyDevice_patches {old new : Device} {db db' : Db D}
    (h : Pending.write (dirtyDevice old new) db = (.ok (), db')) :
    db' = { db with devices := db.devices.map fun d => if d.id = old.id then old.patch new d
      else d } := by
  rw [dirtyDevice] at h
  split at h
  · rename_i hsame
    cases h
    have hrow : ∀ d : Device, (if d.id = old.id then old.patch new d else d) = d := by
      intro d
      rw [← hsame, Device.patch, AegisVPN.patch, AegisVPN.patch, if_pos rfl, if_pos rfl, ite_self]
    simp only [hrow, List.map_id']
  · simp only [Pending.write, DbAct.andThen, updateDevice] at h
    split at h
    · rename_i hx
      cases h
    · rename_i hx
      cases h
      split at hx <;> cases hx
      rfl

theorem switch_keeps {sub : Subscription} {old new : Device} {servers : List (Server D)}
    (hop : task.op = .switch sub old new servers) (hformed : task.Formed)
    (hbrought : ∀ p ∈ task.brought, w.agents.Has p) (hfits : w.db.SwitchFits task old new)
    (h : Pending.write (dirtyDevice old new) w.db = (.ok (), db')) : w.Keeps task db' := by
  -- only the UUID of the device can have been taken
  have htaken : ∀ p ∈ task.taken, p.2 = old.uuid ∧ task.removed ≠ [] := by
    intro p hp
    obtain ⟨c, hc, hpc⟩ := List.mem_flatMap.1 hp
    refine ⟨?_, List.ne_nil_of_mem hc⟩
    rcases hformed.removed c hc with hmem | ⟨_, _, _, _, _, he⟩
    · rw [hop, PushOp.removals] at hmem
      split at hmem
      · cases hmem
      · obtain ⟨s, -, hmem⟩ := List.mem_flatMap.1 hmem
        rw [List.map_singleton, List.mem_singleton] at hmem
        rw [hmem] at hpc
        rw [List.mem_singleton.1 hpc]
    · rw [hop] at he
      cases he
  rw [dirtyDevice_patches h]
  intro p hp
  obtain ⟨s, hs, hactive, hlink, huuid⟩ := needed_of_devices hp
  rcases huuid with huuid | ⟨d', hd', hid, hon, huuid⟩
  · refine .inl ⟨⟨s, hs, hactive, mem_servedUuids.2 (.inl huuid), hlink⟩, fun hmem => ?_⟩
    obtain ⟨hold, hne⟩ := htaken p hmem
    exact (hfits.off hne).2.2 s hs (huuid.symm.trans hold)
  · obtain ⟨d, hd, rfl⟩ := List.mem_map.1 hd'
    by_cases hold : d.id = old.id
    · rw [if_pos hold] at hid hon huuid
      obtain ⟨hsame, hsub⟩ := hfits.same d hd hold
      by_cases hwas : d.isOn = true
      · refine .inl ⟨⟨s, hs, hactive, mem_servedUuids.2 (.inr ⟨d, hd, hid, hwas, huuid⟩), hlink⟩,
          fun hmem => ?_⟩
        have hoff := (hfits.off (htaken p hmem).2).1 d hd hold
        exact absurd (hoff.symm.trans hon) Bool.false_ne_true
      · have hreach := hfits.on d hd hold (by simpa using hwas) hon
        exact .inr (has_of_reaches hbrought hreach hs hactive (hsub.symm.trans hid)
          (hsame.symm.trans huuid) hlink)
    · rw [if_neg hold] at hid hon huuid
      refine .inl ⟨⟨s, hs, hactive, mem_servedUuids.2 (.inr ⟨d, hd, hid, hon, huuid⟩), hlink⟩,
        fun hmem => ?_⟩
      obtain ⟨htook, hne⟩ := htaken p hmem
      exact hold ((hfits.off hne).2.1 d hd (huuid.trans htook))

theorem ended_write {ended : List Subscription} {db db' : Db D}
    (h : Pending.write (ended.flatMap fun sub =>
      dirtySubscription sub { sub with isActive := false }) db = (.ok (), db')) :
    db' = { db with subscriptions := db'.subscriptions } ∧
    ∀ r' ∈ db'.subscriptions, ∃ r ∈ db.subscriptions, r.id = r'.id ∧
      r.clientUuid = r'.clientUuid ∧ (r'.isActive = true → r.isActive = true) := by
  induction ended generalizing db with
  | nil =>
    cases h
    exact ⟨rfl, fun r hr => ⟨r, hr, rfl, rfl, id⟩⟩
  | cons sub ended ih =>
    rw [List.flatMap_cons] at h
    obtain ⟨db₁, hone, hrest⟩ := write_split h
    cases dirtySubscription_patches hone
    obtain ⟨hframe, hrows⟩ := ih hrest
    refine ⟨hframe, fun r' hr' => ?_⟩
    obtain ⟨r₁, hr₁, hid, huuid, hactive⟩ := hrows r' hr'
    obtain ⟨r, hr, rfl⟩ := List.mem_map.1 hr₁
    refine ⟨r, hr, ?_⟩
    by_cases hsub : r.id = sub.id
    · rw [if_pos hsub] at hid huuid hactive
      refine ⟨hid, Eq.trans (if_pos rfl).symm huuid, fun h => ?_⟩
      have hpatch : AegisVPN.patch sub.isActive false r.isActive = true := hactive h
      rw [AegisVPN.patch] at hpatch
      split at hpatch
      · exact hpatch
      · cases hpatch
    · rw [if_neg hsub] at hid huuid hactive
      exact ⟨hid, huuid, hactive⟩

theorem expire_keeps {ended : List Subscription} {revocations : List AgentCall}
    {serverIds : List Nat} (hop : task.op = .expire ended revocations serverIds)
    (hformed : task.Formed)
    (h : Pending.write (ended.flatMap fun sub =>
      dirtySubscription sub { sub with isActive := false }) w.db = (.ok (), db')) :
    w.Keeps task db' := by
  obtain ⟨hframe, hrows⟩ := ended_write h
  rintro p ⟨sub', hsub', hactive, huuid, l, hl, hid, hsynced, hagent⟩
  obtain ⟨sub, hsub, hsubid, hsubuuid, hwas⟩ := hrows sub' hsub'
  refine .inl ⟨⟨sub, hsub, hwas hactive, ?_, l, ?_, hid.trans hsubid.symm, hsynced, ?_⟩,
    hformed.not_taken (by rw [hop]; rfl) (by rw [hop]; rintro _ _ _ _ _ ⟨⟩) p⟩
  · rw [mem_servedUuids] at huuid ⊢
    rw [hframe] at huuid
    rw [hsubid, hsubuuid]
    exact huuid
  · rw [hframe] at hl
    exact hl
  · rw [hframe] at hagent
    exact hagent

theorem marks_write {jobs : List UnsyncedJob} {db db' : Db D}
    (h : Pending.write (jobs.map fun j => markSynced j.subscriptionId j.serverId) db =
      (.ok (), db')) :
    db' = { db with links := db'.links } ∧
    ∀ l' ∈ db'.links, ∃ l ∈ db.links, l.subscriptionId = l'.subscriptionId ∧
      l.serverId = l'.serverId ∧ (l'.isSynced = true → l.isSynced = true ∨ l.isSynced = false ∧
        ∃ j ∈ jobs, l.subscriptionId = j.subscriptionId ∧ l.serverId = j.serverId) := by
  induction jobs generalizing db with
  | nil =>
    cases h
    exact ⟨rfl, fun l hl => ⟨l, hl, rfl, rfl, .inl⟩⟩
  | cons j jobs ih =>
    rw [List.map_cons, Pending.write, DbAct.andThen, markSynced] at h
    obtain ⟨hframe, hlinks⟩ := ih h
    refine ⟨hframe, fun l' hl' => ?_⟩
    obtain ⟨l₁, hl₁, hsub, hserver, hsynced⟩ := hlinks l' hl'
    obtain ⟨l, hl, rfl⟩ := List.mem_map.1 hl₁
    refine ⟨l, hl, ?_⟩
    by_cases hmark : l.subscriptionId = j.subscriptionId ∧ l.serverId = j.serverId ∧
        l.isSynced = false
    · rw [if_pos hmark] at hsub hserver
      exact ⟨hsub, hserver, fun _ => .inr ⟨hmark.2.2, j, List.mem_cons_self, hmark.1, hmark.2.1⟩⟩
    · rw [if_neg hmark] at hsub hserver hsynced
      refine ⟨hsub, hserver, fun h => (hsynced h).imp id ?_⟩
      rintro ⟨hun, j', hj', hids⟩
      exact ⟨hun, j', List.mem_cons_of_mem _ hj', hids⟩

theorem retry_keeps {jobs : List UnsyncedJob} (hop : task.op = .retry jobs)
    (hformed : task.Formed) (hbrought : ∀ p ∈ task.brought, w.agents.Has p)
    (hfits : w.RetryFits task jobs)
    (h : Pending.write ((jobs.filter task.retried).map
      fun j => markSynced j.subscriptionId j.serverId) w.db = (.ok (), db')) :
    w.Keeps task db' := by
  obtain ⟨hframe, hlinks⟩ := marks_write h
  rintro p ⟨sub, hsub, hactive, huuid, l', hl', hid, hsynced', hagent⟩
  obtain ⟨l, hl, hlsub, hlserver, hsynced⟩ := hlinks l' hl'
  rw [mem_servedUuids] at huuid
  rw [hframe] at hsub huuid hagent
  rcases hsynced hsynced' with hsynced | ⟨hun, j, hj, hjsub, hjserver⟩
  · refine .inl ⟨⟨sub, hsub, hactive, mem_servedUuids.2 huuid, l, hl, hlsub.trans hid, hsynced, ?_⟩,
      hformed.not_taken (by rw [hop]; rfl) (by rw [hop]; rintro _ _ _ _ _ ⟨⟩) p⟩
    rw [hlserver]
    exact hagent
  · obtain ⟨hj, hanswered⟩ := List.mem_filter.1 hj
    obtain ⟨a, ha, hcall⟩ := List.any_eq_true.1 hanswered
    have hsent : a.2 = j.call := of_decide_eq_true (Bool.and_eq_true_iff.1 hcall).2
    have hagent' : w.db.pushAgent j.serverId = some p.1 := by
      rw [← hjserver, hlserver]
      exact hagent
    obtain ⟨hsame, hclient, hdevices⟩ := hfits j hj hanswered l hl hjsub hjserver hun sub hsub
      (hid.symm.trans (hlsub.symm.trans hjsub)) hactive p.1 hagent'
    rcases huuid with huuid | ⟨d, hd, hdsub, hon, huuid⟩
    · refine .inr (hbrought p (List.mem_flatMap.2 ⟨a, ha, ?_⟩))
      rw [hsent]
      exact List.mem_singleton.2 (Prod.ext hsame (huuid.trans hclient))
    · have hhas := hdevices d (mem_activeDevices.2 ⟨hd, hdsub, hon⟩)
      rw [huuid] at hhas
      exact .inr hhas

theorem dirtyLinks_others {subId : Nat} {loaded : List SubscriptionServer}
    {results : List (Nat × Bool)} {db db' : Db D}
    (h : Pending.write (results.flatMap (dirtyLink subId loaded)) db = (.ok (), db'))
    {l : SubscriptionServer} (hl : l ∈ db'.links) (hne : l.subscriptionId ≠ subId) :
    l ∈ db.links := by
  have hpreserves : Preserves (Elsewhere subId) (Pending.write
      (results.flatMap (dirtyLink (D := D) subId loaded))) := by
    refine Preserves.write (elsewhere_refl subId) (elsewhere_trans subId) fun a ha => ?_
    obtain ⟨r, -, ha⟩ := List.mem_flatMap.1 ha
    exact dirtyLink_elsewhere ha
  have hrows := (hpreserves db).links l.subscriptionId hne
  rw [h] at hrows
  have hmem : l ∈ db'.linkRows l.subscriptionId :=
    List.mem_filter.2 ⟨hl, beq_self_eq_true _⟩
  exact (List.mem_filter.1 (hrows ▸ hmem)).1

/-- A server that has answered has all that is to be served. -/
theorem SyncFits_has {old new : Subscription} {devices : List Device}
    {servers : List (Server D)} {loaded : List SubscriptionServer}
    (hop : task.op = .sync old new devices servers (some loaded)) (hformed : task.Formed)
    (hbrought : ∀ p ∈ task.brought, w.agents.Has p)
    (hfits : w.db.SyncFits task old new devices servers loaded) {r : Subscription}
    (hr : r ∈ w.db.subscriptions) (hid : r.id = old.id) {s : Server D}
    (hanswered : (task.answered.any fun a => a.1 == s.id) = true) {p : String × String}
    (hagent : w.db.pushAgent s.id = some p.1)
    (huuid : p.2 = (old.patch new r).clientUuid ∨
      ∃ d ∈ w.db.devices, d.subscriptionId = old.id ∧ d.isOn = true ∧ d.uuid = p.2) :
    w.agents.Has p := by
  obtain ⟨a, ha, haid⟩ := List.any_eq_true.1 hanswered
  have hadd := hformed.answered a ha
  rw [hop] at hadd
  obtain ⟨s', hs', rfl⟩ := List.mem_map.1 hadd
  have hsid : s'.id = s.id := beq_iff_eq.1 haid
  have hsome : task.answered ≠ [] := List.ne_nil_of_mem ha
  have hsame : p.1 = s'.agent := hfits.agents s' (List.mem_filter.1 hs').1
    (by rw [hsid]; exact hanswered) p.1 (hsid ▸ hagent)
  refine hbrought p (List.mem_flatMap.2 ⟨_, ha, ?_⟩)
  have hclient : p.2 ∈ (syncClients new devices).map Prod.fst := by
    rw [syncClients, List.map_cons, List.mem_cons, List.map_map]
    rcases huuid with huuid | ⟨d, hd, hdsub, hon, huuid⟩
    · exact .inl (huuid.trans (hfits.uuid hsome r hr hid))
    · have hmem := hfits.devices hsome d (mem_activeDevices.2 ⟨hd, hdsub, hon⟩)
      exact .inr (huuid ▸ hmem)
  obtain ⟨c, hc, hcuuid⟩ := List.mem_map.1 hclient
  exact List.mem_map.2 ⟨c, hc, Prod.ext hsame.symm hcuuid⟩

theorem sync_keeps {old new : Subscription} {devices : List Device} {servers : List (Server D)}
    {loaded : List SubscriptionServer}
    (hop : task.op = .sync old new devices servers (some loaded)) (hformed : task.Formed)
    (hbrought : ∀ p ∈ task.brought, w.agents.Has p)
    (hfits : w.db.SyncFits task old new devices servers loaded)
    (h : Pending.write (LoadedSync.writes
      ⟨old, { new with id := old.id }, rfl, loaded, task.results servers⟩) w.db =
        (.ok (), db')) : w.Keeps task db' := by
  obtain ⟨db₁, hsub, hlinks⟩ := write_split h
  cases dirtySubscription_patches hsub
  obtain ⟨hframe, hwritten⟩ := dirtyLinks_write hlinks
  rintro p ⟨sub', hsub', hactive, huuid, l, hl, hid, hsynced, hagent⟩
  rw [mem_servedUuids] at huuid
  rw [hframe] at hsub' huuid hagent
  have hpush : w.db.pushAgent l.serverId = some p.1 := hagent
  obtain ⟨r, hr, rfl⟩ := List.mem_map.1 hsub'
  by_cases hold : r.id = old.id
  · rw [if_pos hold] at hactive hid huuid
    have hlid : l.subscriptionId = old.id := hid.trans hold
    have huuid' : p.2 = (old.patch new r).clientUuid ∨
        ∃ d ∈ w.db.devices, d.subscriptionId = old.id ∧ d.isOn = true ∧ d.uuid = p.2 := by
      rw [← hold]
      exact huuid
    by_cases hdone : ∃ s ∈ servers, s.id = l.serverId ∧
        (task.answered.any fun a => a.1 == s.id) = true
    · obtain ⟨s, -, hsid, hanswered⟩ := hdone
      exact .inr (SyncFits_has hop hformed hbrought hfits hr hold hanswered (hsid ▸ hpush) huuid')
    · -- no push to the server of the link was answered, so its flag stays as it was
      have hfalse : ∀ x ∈ task.results servers, x.1 = l.serverId → x.2 = false := by
        intro x hx hxid
        obtain ⟨s, hs, rfl⟩ := List.mem_map.1 hx
        cases hany : task.answered.any fun a => a.1 == s.id with
        | false => exact Bool.and_false _
        | true => exact absurd ⟨s, hs, hxid, hany⟩ hdone
      obtain ⟨hmem, hnot⟩ := hwritten l hl hsynced hfalse
      by_cases hchange : r.isActive = false ∨ (old.patch new r).clientUuid ≠ r.clientUuid ∨
          task.removed ≠ []
      · obtain ⟨l', hfind, hl'⟩ := hfits.links r hr hold hactive hchange l hmem hlid hsynced
          (by rw [hpush]; rfl)
        obtain ⟨s, hs, hsid⟩ := hformed.loaded _ _ _ _ _ hop l' (List.mem_of_find?_eq_some hfind)
        have hlserver : l'.serverId = l.serverId := by simpa using List.find?_some hfind
        have hun := hnot hlid _ (List.mem_map.2 ⟨s, hs, rfl⟩) (hsid.trans hlserver) l' hfind
        exact absurd (hun.symm.trans hl') Bool.false_ne_true
      · rw [not_or, not_or, not_not, not_not] at hchange
        obtain ⟨hwas, hsame, hnone⟩ := hchange
        refine .inl ⟨⟨r, hr, by simpa using hwas, mem_servedUuids.2 ?_, l, hmem, hid, hsynced,
          hpush⟩, fun hp => ?_⟩
        · rw [← hsame]
          exact huuid
        · rw [PushTask.taken, hnone] at hp
          cases hp
  · rw [if_neg hold] at hactive hid huuid
    have hmem : l ∈ w.db.links := dirtyLinks_others hlinks hl fun h => hold (hid.symm.trans h)
    have hneeds : w.db.Needs r p :=
      ⟨hactive, mem_servedUuids.2 huuid, l, hmem, hid, hsynced, hpush⟩
    exact .inl ⟨⟨r, hr, hneeds⟩, fun hp => hfits.alone p hp r hr hold hneeds⟩

end Commit

theorem PushWorld.Fits.keeps {w : PushWorld D} {task : PushTask D} (h : w.Fits task)
    (hformed : task.Formed) (hbrought : ∀ p ∈ task.brought, w.agents.Has p)
    (hwrites : task.writes = some writes)
    (ho : Pending.write writes.1 w.db = (.ok (), db')) : w.Keeps task db' := by
  obtain ⟨op, answered, removed⟩ := task
  cases op with
  | strip => cases hwrites
  | sync old new devices servers loaded =>
    cases loaded with
    | none => cases hwrites
    | some loaded =>
      cases hwrites
      exact sync_keeps rfl hformed hbrought h ho
  | register =>
    cases hwrites
    exact register_keeps rfl hformed hbrought h ho
  | switch =>
    cases hwrites
    exact switch_keeps rfl hformed hbrought h ho
  | expire =>
    cases hwrites
    exact expire_keeps rfl hformed ho
  | revoke => cases hwrites
  | retry =>
    cases hwrites
    exact retry_keeps rfl hformed hbrought h ho

end AegisVPN
