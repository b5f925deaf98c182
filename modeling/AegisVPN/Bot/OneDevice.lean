import AegisVPN.Bot.PushRuns
import AegisVPN.Bot.SuspendedDevice
import AegisVPN.Library.Runs

namespace AegisVPN
open Library
set_option autoImplicit true

/-! ## Requests of devices side by side -/

/-- The operations of the owner of a device. -/
inductive DeviceChange
  | suspend
  | resume
  | remove

def DeviceChange.apply (device : Device) : DeviceChange → Device
  | .suspend => { device with isSuspended := true }
  | .resume => { device with isSuspended := false }
  | .remove => { device with isActive := false }

/-- The committed database, the devices that open transactions are going to insert, and the rows
that they have loaded, with what they have made of them. -/
structure DeviceWorld (D : Type) where
  db : Db D
  registering : List Device
  switching : List (Device × Device)

inductive DeviceEvent (D : Type)
  | fetch (sub : Subscription) (ua uuid : String)
  | register (i : Nat)
  | abortRegister (i : Nat)
  | load (device : Device) (change : DeviceChange)
  | switch (i : Nat)
  | abortSwitch (i : Nat)
  | edit (db : Db D)

section World
variable (texts : TextOps)

/-- A request looks for its device; if there is none, it makes one and waits for the nodes. -/
def DeviceWorld.fetch (w : DeviceWorld D) (sub : Subscription) (ua uuid : String) :
    DeviceWorld D :=
  match scalarOneOrNone (w.db.devicesOfUa texts sub ua) with
  | .ok none => { w with
      registering := w.registering ++ [⟨0, sub.id, uuid, texts.fingerprintUa ua, true, false⟩] }
  | _ => w

/-- A transaction with a new device is committed. -/
def DeviceWorld.register (w : DeviceWorld D) (i : Nat) : DeviceWorld D :=
  match w.registering[i]? with
  | some device => { w with
      db := (insertDevice device w.db).2
      registering := w.registering.eraseIdx i }
  | none => w

/-- A transaction with a changed device is committed. -/
def DeviceWorld.switch (w : DeviceWorld D) (i : Nat) : DeviceWorld D :=
  match w.switching[i]? with
  | some (old, new) => { w with
      db := (updateDevice old new w.db).2
      switching := w.switching.eraseIdx i }
  | none => w

def DeviceWorld.step (w : DeviceWorld D) : DeviceEvent D → DeviceWorld D
  | .fetch sub ua uuid => w.fetch texts sub ua uuid
  | .register i => w.register i
  | .abortRegister i => { w with registering := w.registering.eraseIdx i }
  | .load device change => { w with switching := w.switching ++ [(device, change.apply device)] }
  | .switch i => w.switch i
  | .abortSwitch i => { w with switching := w.switching.eraseIdx i }
  | .edit db => { w with db := { db with devices := w.db.devices } }

/-- Nobody has asked for a subscription yet. -/
def DeviceWorld.start (db : Db D) : DeviceWorld D := ⟨{ db with devices := [] }, [], []⟩

end World

/-! ## One active device for each user agent -/

/-- The subscription and the user agent of a device. -/
def Device.key (device : Device) : Nat × String := (device.subscriptionId, device.uaFingerprint)

def Db.activeKeys (db : Db D) : List (Nat × String) :=
  (db.devices.filter Device.isActive).map Device.key

/-- No two devices, active or about to be inserted, have the same user agent. -/
structure OneDeviceEach (w : DeviceWorld D) : Prop where
  keys : (w.db.activeKeys ++ w.registering.map Device.key).Nodup
  registering : ∀ d ∈ w.registering, d.isActive = true
  switching : ∀ p ∈ w.switching, p.1.isActive = p.2.isActive ∨ p.2.isActive = false

/-- A request looks for its device while no other is about to insert one for the user agent. -/
def AloneWithAgent (texts : TextOps) (w : DeviceWorld D) : DeviceEvent D → Prop
  | .fetch sub ua _ => (sub.id, texts.fingerprintUa ua) ∉ w.registering.map Device.key
  | _ => True

section Steps
variable {texts : TextOps} {w : DeviceWorld D}

theorem OneDeviceEach.fetch (h : OneDeviceEach w) {sub : Subscription} {ua uuid : String}
    (halone : AloneWithAgent texts w (.fetch sub ua uuid)) :
    OneDeviceEach (w.fetch texts sub ua uuid) := by
  rw [DeviceWorld.fetch]
  split
  · rename_i hscalar
    have hnone := List.filter_eq_nil_iff.1 (scalarOneOrNone_none hscalar)
    have hfree : (sub.id, texts.fingerprintUa ua) ∉ w.db.activeKeys := by
      intro hmem
      obtain ⟨d, hd, hkey⟩ := List.mem_map.1 hmem
      obtain ⟨hd, hactive⟩ := List.mem_filter.1 hd
      obtain ⟨hsub, hua⟩ := Prod.ext_iff.1 hkey
      exact hnone d hd (by simp_all [Device.key])
    refine ⟨?_, fun d hd => ?_, h.switching⟩
    · rw [List.map_append, ← List.append_assoc]
      refine List.nodup_append'.2 ⟨h.keys, List.nodup_singleton _, fun key hkey hnew => ?_⟩
      rw [List.mem_singleton.1 hnew] at hkey
      exact (List.mem_append.1 hkey).elim hfree halone
    · rcases List.mem_append.1 hd with hd | hd
      · exact h.registering d hd
      · rw [List.mem_singleton.1 hd]
  · exact h

theorem insertDevice_activeKeys {device : Device} (hactive : device.isActive = true) (db : Db D) :
    (insertDevice device db).2.activeKeys = db.activeKeys ∨
      (insertDevice device db).2.activeKeys = db.activeKeys ++ [device.key] := by
  rw [insertDevice]
  split
  · exact .inl rfl
  · refine .inr ?_
    simp [Db.activeKeys, List.filter_append, hactive, Device.key]

theorem perm_eraseIdx {l : List α} {i : Nat} {a : α} (h : l[i]? = some a) :
    l.Perm (a :: l.eraseIdx i) := by
  obtain ⟨hi, rfl⟩ := List.getElem?_eq_some_iff.1 h
  exact (List.getElem_cons_eraseIdx_perm hi).symm

theorem OneDeviceEach.register (h : OneDeviceEach w) (i : Nat) :
    OneDeviceEach (w.register i) := by
  rw [DeviceWorld.register]
  split
  · rename_i device hdevice
    have hmem := List.mem_of_getElem? hdevice
    have hperm := (perm_eraseIdx hdevice).map Device.key
    have hkeys := ((List.Perm.refl w.db.activeKeys).append hperm).nodup_iff.1 h.keys
    rw [List.map_cons] at hkeys
    refine ⟨?_, fun d hd => h.registering d (List.mem_of_mem_eraseIdx hd), h.switching⟩
    rcases insertDevice_activeKeys (h.registering device hmem) w.db with heq | heq
    · rw [heq]
      exact hkeys.sublist ((List.Sublist.refl _).append (List.sublist_cons_self _ _))
    · rw [heq, List.append_assoc]
      exact hkeys
  · exact h

theorem activeKeys_map_sublist {devices : List Device} {f : Device → Device}
    (hkey : ∀ d, (f d).key = d.key) (hactive : ∀ d, (f d).isActive = true → d.isActive = true) :
    (((devices.map f).filter Device.isActive).map Device.key).Sublist
      ((devices.filter Device.isActive).map Device.key) := by
  induction devices with
  | nil => exact .slnil
  | cons d devices ih =>
    rw [List.map_cons]
    by_cases hf : (f d).isActive = true
    · rw [List.filter_cons_of_pos hf, List.filter_cons_of_pos (hactive d hf), List.map_cons,
        List.map_cons, hkey]
      exact ih.cons_cons _
    · rw [List.filter_cons_of_neg hf]
      exact ih.trans ((List.Sublist.filter _ (List.sublist_cons_self _ _)).map _)

theorem OneDeviceEach.switch (h : OneDeviceEach w) (i : Nat) : OneDeviceEach (w.switch i) := by
  rw [DeviceWorld.switch]
  split
  · rename_i old new hpair
    have hstays := h.switching _ (List.mem_of_getElem? hpair)
    have hsublist : (updateDevice old new w.db).2.activeKeys.Sublist w.db.activeKeys := by
      rw [updateDevice]
      split
      · refine activeKeys_map_sublist (fun d => ?_) fun d hd => ?_
        · split <;> rfl
        · split at hd
          · rw [Device.patch] at hd
            dsimp only at hd hstays
            rw [AegisVPN.patch] at hd
            split at hd
            · exact hd
            · rename_i hne
              rw [hstays.resolve_left hne] at hd
              cases hd
          · exact hd
      · exact .refl _
    exact ⟨h.keys.sublist (hsublist.append (.refl _)), h.registering,
      fun p hp => h.switching p (List.mem_of_mem_eraseIdx hp)⟩
  · exact h

theorem OneDeviceEach.step (h : OneDeviceEach w) (e : DeviceEvent D)
    (halone : AloneWithAgent texts w e) : OneDeviceEach (w.step texts e) := by
  cases e with
  | fetch sub ua uuid => exact h.fetch halone
  | register i => exact h.register i
  | abortRegister i =>
    refine ⟨h.keys.sublist ((List.Sublist.refl _).append ((List.eraseIdx_sublist _ _).map _)),
      fun d hd => h.registering d (List.mem_of_mem_eraseIdx hd), h.switching⟩
  | load device change =>
    refine ⟨h.keys, h.registering, fun p hp => ?_⟩
    rcases List.mem_append.1 hp with hp | hp
    · exact h.switching p hp
    · rw [List.mem_singleton.1 hp]
      cases change with
      | suspend => exact .inl rfl
      | resume => exact .inl rfl
      | remove => exact .inr rfl
  | switch i => exact h.switch i
  | abortSwitch i =>
    exact ⟨h.keys, h.registering, fun p hp => h.switching p (List.mem_of_mem_eraseIdx hp)⟩
  | edit db => exact ⟨h.keys, h.registering, h.switching⟩

/-- Active devices with different keys: a request finds one or none. -/
theorem scalar_devicesOfUa {db : Db D} (h : db.activeKeys.Nodup) (texts : TextOps)
    (sub : Subscription) (ua : String) :
    ∃ device, scalarOneOrNone (db.devicesOfUa texts sub ua) = .ok device := by
  have hsublist : ((db.devicesOfUa texts sub ua).map Device.key).Sublist db.activeKeys := by
    apply List.Sublist.map
    apply List.monotone_filter_right
    intro d hd
    exact (Bool.and_eq_true_iff.1 hd).2
  have hkey : ∀ d ∈ db.devicesOfUa texts sub ua, d.key = (sub.id, texts.fingerprintUa ua) := by
    intro d hd
    have hmatch := (List.mem_filter.1 hd).2
    simp only [Bool.and_eq_true, beq_iff_eq] at hmatch
    exact Prod.ext hmatch.1.1 hmatch.1.2
  have hnodup := h.sublist hsublist
  match hlist : db.devicesOfUa texts sub ua with
  | [] => exact ⟨none, rfl⟩
  | [d] => exact ⟨some d, rfl⟩
  | d :: d' :: rest =>
    rw [hlist] at hnodup hkey
    have hsame := (hkey d (by simp)).trans (hkey d' (by simp)).symm
    simp [hsame] at hnodup

end Steps

/-- In every run in which no request looks for its device while another of the same user agent is
about to insert one: at most one active device has the user agent, and every request finds one or
none. -/
theorem one_active_device (texts : TextOps) (db : Db D) (events : List (DeviceEvent D))
    (halone : Along (DeviceWorld.step texts) (AloneWithAgent texts) (.start db) events) :
    let w := events.foldl (DeviceWorld.step texts) (.start db)
    w.db.activeKeys.Nodup ∧ ∀ sub ua, ∃ device,
      scalarOneOrNone (w.db.devicesOfUa texts sub ua) = .ok device := by
  intro w
  have hstart : OneDeviceEach (DeviceWorld.start db) :=
    ⟨List.nodup_nil, fun d hd => (by cases hd), fun p hp => (by cases hp)⟩
  have heach : OneDeviceEach w := run_invariant hstart (fun w e h halone => h.step e halone) halone
  have hkeys : w.db.activeKeys.Nodup := (List.nodup_append'.1 heach.keys).1
  exact ⟨hkeys, fun sub ua => scalar_devicesOfUa hkeys texts sub ua⟩

instance decidableAloneWithAgent (texts : TextOps) (w : DeviceWorld D) :
    ∀ e, Decidable (AloneWithAgent texts w e)
  | .fetch sub ua _ => inferInstanceAs (Decidable ((sub.id, texts.fingerprintUa ua) ∉ _))
  | .register _ => inferInstanceAs (Decidable True)
  | .abortRegister _ => inferInstanceAs (Decidable True)
  | .load _ _ => inferInstanceAs (Decidable True)
  | .switch _ => inferInstanceAs (Decidable True)
  | .abortSwitch _ => inferInstanceAs (Decidable True)
  | .edit _ => inferInstanceAs (Decidable True)

/-- A device is made, removed and made again. -/
def removedAndBack : List (DeviceEvent (List DesiredItem)) :=
  [.fetch (oneRow none) "curl/8.0" "d1", .register 0, .fetch (oneRow none) "curl/8.1" "d2",
    .load ⟨1, 1, "d1", "427e4b79b1f0fc90306cbe064b1297b2", true, false⟩ .remove, .switch 0,
    .fetch (oneRow none) "curl/8.0" "d3", .register 0]

theorem one_active_device_again :
    ((removedAndBack.foldl (DeviceWorld.step curlTexts)
      (.start (oneSubscription none []))).db.devices.map fun d => (d.uuid, d.isActive)) =
        [("d1", false), ("d3", true)] ∧
    (removedAndBack.foldl (DeviceWorld.step curlTexts)
      (.start (oneSubscription none []))).db.activeKeys.Nodup :=
  ⟨by decide, (one_active_device curlTexts (oneSubscription none []) removedAndBack
    (by decide)).1⟩

/-- Two requests look for the device before either of them inserts it; no later request finds it. -/
theorem two_active_devices : ¬ ∀ events : List (DeviceEvent (List DesiredItem)),
    let w := events.foldl (DeviceWorld.step curlTexts) (.start (oneSubscription none []))
    w.db.activeKeys.Nodup ∧ ∀ sub ua, ∃ device,
      scalarOneOrNone (w.db.devicesOfUa curlTexts sub ua) = .ok device := by
  intro hall
  obtain ⟨hkeys, -⟩ := hall [.fetch (oneRow none) "curl/8.0" "d1",
    .fetch (oneRow none) "curl/8.0" "d2", .register 0, .register 0]
  have htwo : (([.fetch (oneRow none) "curl/8.0" "d1", .fetch (oneRow none) "curl/8.0" "d2",
      .register 0, .register 0] : List (DeviceEvent (List DesiredItem))).foldl
        (DeviceWorld.step curlTexts) (.start (oneSubscription none []))).db.activeKeys =
      [(1, "427e4b79b1f0fc90306cbe064b1297b2"), (1, "427e4b79b1f0fc90306cbe064b1297b2")] := by
    decide
  rw [htwo] at hkeys
  exact absurd hkeys (by decide)

end AegisVPN
