import AegisVPN.Bot.SubscriptionService

namespace AegisVPN
set_option autoImplicit true

/-! # The hourly reminders of a subscription's end -/

def microsPerHour : Int := 3600000000

/-- How long before the end a reminder is due, how wide its window is, and its text. -/
structure ReminderWindow where
  targetDelta : Int
  window : Int
  textKey : String
  deriving DecidableEq

def reminderWindows : List ReminderWindow :=
  [⟨3 * microsPerDay, microsPerHour, "remind_3d"⟩, ⟨1 * microsPerDay, microsPerHour, "remind_1d"⟩]

/-- A subscription that a run at `now` finds in the window. -/
def ReminderWindow.due (w : ReminderWindow) (now : Int) (sub : Subscription) : Bool :=
  let endTime := now + w.targetDelta
  let startTime := endTime - w.window
  decide (startTime < sub.expiresAt) && decide (sub.expiresAt ≤ endTime) && sub.isActive

/-- Whom a run reminds, in which language and of what. -/
def remindExpiringSubscriptions (language : User → String) (users : List User)
    (subscriptions : List Subscription) (now : Int) : List (Int × String × String) :=
  reminderWindows.flatMap fun w =>
    users.flatMap fun user =>
      (subscriptions.filter fun sub =>
        sub.userId == user.id && w.due now sub && !user.isBanned).map fun _ =>
          (user.tgId, language user, w.textKey)

/-- The run of each hour from `hour` on, so much after its full hour. -/
def runTimes : Int → List Int → List Int
  | _, [] => []
  | hour, delay :: delays => (hour * microsPerHour + delay) :: runTimes (hour + 1) delays

/-- By how much the run of an hour is late, when `first` is the hour of the first run. -/
def delayAt (first : Int) (delays : List Int) (hour : Int) : Int :=
  delays.getD (hour - first).toNat 0

/-- Each run falls into its own hour. -/
def Hourly (delays : List Int) : Prop := ∀ delay ∈ delays, 0 ≤ delay ∧ delay < microsPerHour

/-- The runs reach over the last three days of a subscription. -/
def CoversLastDays (first : Int) (delays : List Int) (sub : Subscription) : Prop :=
  first * microsPerHour ≤ sub.expiresAt - 3 * microsPerDay ∧
    sub.expiresAt ≤ (first + delays.length) * microsPerHour

/-- The runs of the moment's own hour and of the next hour are on the same side of its place in
the hour. -/
def SameSide (first : Int) (delays : List Int) (moment : Int) : Prop :=
  moment % microsPerHour ≤ delayAt first delays (moment / microsPerHour) ↔
    moment % microsPerHour ≤ delayAt first delays (moment / microsPerHour + 1)

/-- In how many runs the subscription falls into the window. -/
def dueCount (w : ReminderWindow) (times : List Int) (sub : Subscription) : Nat :=
  (times.filter fun now => w.due now sub).length

theorem mem_remindExpiringSubscriptions {users : List User} :
    (tgId, lang, key) ∈ remindExpiringSubscriptions language users subscriptions now ↔
      ∃ w ∈ reminderWindows, ∃ user ∈ users, ∃ sub ∈ subscriptions,
        (sub.userId = user.id ∧ w.due now sub = true ∧ user.isBanned = false) ∧
          user.tgId = tgId ∧ language user = lang ∧ w.textKey = key := by
  simp only [remindExpiringSubscriptions, List.mem_flatMap, List.mem_map, List.mem_filter,
    Bool.and_eq_true, beq_iff_eq, Bool.not_eq_true', Prod.mk.injEq, and_assoc]

theorem reminderWindows_hour_wide (hw : w ∈ reminderWindows) : w.window = microsPerHour := by
  simp only [reminderWindows, List.mem_cons, List.not_mem_nil, or_false] at hw
  obtain rfl | rfl := hw
  · rfl
  · rfl

theorem reminderWindows_in_days (hw : w ∈ reminderWindows) :
    microsPerDay ≤ w.targetDelta ∧ w.targetDelta ≤ 3 * microsPerDay := by
  simp only [reminderWindows, List.mem_cons, List.not_mem_nil, or_false] at hw
  obtain rfl | rfl := hw
  · exact ⟨by decide, by decide⟩
  · exact ⟨by decide, by decide⟩

theorem delayAt_self (first : Int) (delay : Int) (delays : List Int) :
    delayAt first (delay :: delays) first = delay := by
  simp only [delayAt, Int.sub_self, Int.toNat_zero, List.getD_cons_zero]

theorem delayAt_later (h : first < hour) :
    delayAt first (delay :: delays) hour = delayAt (first + 1) delays hour := by
  have hn : (hour - first).toNat = (hour - (first + 1)).toNat + 1 := by omega
  simp only [delayAt, hn, List.getD_cons_succ]

/-- The runs that see a moment within the hour before them. -/
def sawWithinHour (moment : Int) (times : List Int) : List Int :=
  times.filter fun now => decide (now - microsPerHour < moment ∧ moment ≤ now)

theorem sawWithinHour_later (moment first : Int) (hd : Hourly delays)
    (h : moment / microsPerHour + 1 < first) :
    sawWithinHour moment (runTimes first delays) = [] := by
  induction delays generalizing first with
  | nil => rfl
  | cons delay delays ih =>
    have hdelay := hd delay List.mem_cons_self
    have hhead : ¬(first * microsPerHour + delay - microsPerHour < moment ∧
        moment ≤ first * microsPerHour + delay) := by
      simp only [microsPerHour] at *
      omega
    have htail := ih (first + 1) (fun d hm => hd d (List.mem_cons_of_mem _ hm)) (by omega)
    simp only [sawWithinHour] at htail
    simp only [sawWithinHour, runTimes, List.filter_cons, hhead, decide_false,
      Bool.false_eq_true, if_false, htail]

/-- Only the runs of the moment's own hour and of the next one can see it within the hour before
them. -/
theorem sawWithinHour_length (hd : Hourly delays) (hfirst : first ≤ moment / microsPerHour)
    (hlast : moment / microsPerHour + 1 < first + delays.length) :
    (sawWithinHour moment (runTimes first delays)).length =
      (if moment % microsPerHour ≤ delayAt first delays (moment / microsPerHour) then 1 else 0) +
      if delayAt first delays (moment / microsPerHour + 1) < moment % microsPerHour
        then 1 else 0 := by
  induction delays generalizing first with
  | nil =>
    simp only [List.length_nil] at hlast
    omega
  | cons delay delays ih =>
    have hdelay := hd delay List.mem_cons_self
    have htails : Hourly delays := fun d hm => hd d (List.mem_cons_of_mem _ hm)
    simp only [List.length_cons] at hlast
    by_cases heq : first = moment / microsPerHour
    · -- the run of the moment's own hour comes first, and the next one after it
      subst heq
      cases delays with
      | nil =>
        simp only [List.length_nil] at hlast
        omega
      | cons delay' delays =>
        have hdelay' := htails delay' List.mem_cons_self
        have hrest := sawWithinHour_later moment (moment / microsPerHour + 1 + 1)
          (fun d hm => htails d (List.mem_cons_of_mem _ hm)) (by omega)
        have hown : (moment / microsPerHour * microsPerHour + delay - microsPerHour < moment ∧
            moment ≤ moment / microsPerHour * microsPerHour + delay) ↔
            moment % microsPerHour ≤ delay := by
          simp only [microsPerHour] at *
          omega
        have hnext : ((moment / microsPerHour + 1) * microsPerHour + delay' - microsPerHour <
            moment ∧ moment ≤ (moment / microsPerHour + 1) * microsPerHour + delay') ↔
            delay' < moment % microsPerHour := by
          simp only [microsPerHour] at *
          omega
        rw [delayAt_self, delayAt_later (by omega), delayAt_self]
        simp only [sawWithinHour] at hrest
        simp only [sawWithinHour, runTimes, List.filter_cons, hrest, hown, hnext,
          decide_eq_true_eq]
        split
        · split
          · rfl
          · rfl
        · split
          · rfl
          · rfl
    · have hlt : first < moment / microsPerHour := by omega
      have hhead : ¬(first * microsPerHour + delay - microsPerHour < moment ∧
          moment ≤ first * microsPerHour + delay) := by
        simp only [microsPerHour] at *
        omega
      have htail := ih htails (by omega : first + 1 ≤ _) (by omega)
      rw [delayAt_later hlt, delayAt_later (by omega), ← htail]
      simp only [sawWithinHour, runTimes, List.filter_cons, hhead, decide_false,
        Bool.false_eq_true, if_false]

theorem dueCount_eq (hw : w ∈ reminderWindows) (hactive : sub.isActive = true) :
    dueCount w times sub = (sawWithinHour (sub.expiresAt - w.targetDelta) times).length := by
  simp only [dueCount, sawWithinHour]
  congr 1
  apply List.filter_congr
  intro now _
  simp only [ReminderWindow.due, reminderWindows_hour_wide hw, hactive, Bool.and_true,
    ← Bool.decide_and]
  apply decide_eq_decide.2
  omega

/-- A reminder is due in exactly one run when the runs of the hour in which it falls due and of
the next one are late on the same side of its place in the hour. Else it is due in both or in
neither of the two. -/
theorem due_once_iff (first : Int) (delays : List Int) (sub : Subscription)
    (hactive : sub.isActive = true) (hd : Hourly delays)
    (hcovers : CoversLastDays first delays sub) :
    (∀ w ∈ reminderWindows, dueCount w (runTimes first delays) sub = 1) ↔
      ∀ w ∈ reminderWindows, SameSide first delays (sub.expiresAt - w.targetDelta) := by
  apply forall₂_congr
  intro w hw
  have hdays := reminderWindows_in_days hw
  have hfirst : first ≤ (sub.expiresAt - w.targetDelta) / microsPerHour := by
    have h := hcovers.1
    simp only [microsPerDay, microsPerHour] at *
    omega
  have hlast : (sub.expiresAt - w.targetDelta) / microsPerHour + 1 < first + delays.length := by
    have h := hcovers.2
    simp only [microsPerDay, microsPerHour] at *
    omega
  rw [dueCount_eq hw hactive, sawWithinHour_length hd hfirst hlast, SameSide]
  by_cases hown : (sub.expiresAt - w.targetDelta) % microsPerHour ≤
      delayAt first delays ((sub.expiresAt - w.targetDelta) / microsPerHour)
  · simp only [hown, if_true, true_iff, Nat.add_eq_left, ite_eq_right_iff, Nat.one_ne_zero,
      imp_false, Int.not_lt]
  · simp only [hown, if_false, false_iff, Nat.zero_add, ite_eq_left_iff, Nat.zero_ne_one,
      imp_false, not_not, Int.not_le]

def lateSubscription : Subscription :=
  { id := 1, userId := 1, subToken := "s", legacySubToken := none, clientUuid := "c",
    planDays := 30, startedAt := 0, expiresAt := 72 * microsPerHour + 300000, isActive := true }

/-- The run of the hour in which the reminder falls due comes too early, and the next one half a
second after its full hour, too late. -/
def lateDelays : List Int := 200000 :: 500000 :: List.replicate 71 200000

theorem reminder_missed : ¬∀ (first : Int) (delays : List Int) (sub : Subscription),
    sub.isActive = true → Hourly delays → CoversLastDays first delays sub →
      ∀ w ∈ reminderWindows, dueCount w (runTimes first delays) sub = 1 := by
  intro h
  have hd : Hourly lateDelays := by
    intro delay hm
    simp only [lateDelays, List.mem_cons, List.mem_replicate] at hm
    simp only [microsPerHour]
    omega
  have hcovers : CoversLastDays 0 lateDelays lateSubscription :=
    ⟨by decide, by decide⟩
  have hone := h 0 lateDelays lateSubscription rfl hd hcovers _ List.mem_cons_self
  have hnone : dueCount ⟨3 * microsPerDay, microsPerHour, "remind_3d"⟩ (runTimes 0 lateDelays)
      lateSubscription = 0 := by
    decide
  rw [hnone] at hone
  exact Nat.zero_ne_one hone

theorem due_once_steady : (∀ w ∈ reminderWindows,
    dueCount w (runTimes 0 (List.replicate 73 200000)) lateSubscription = 1) ↔
      ∀ w ∈ reminderWindows,
        SameSide 0 (List.replicate 73 200000) (lateSubscription.expiresAt - w.targetDelta) := by
  apply due_once_iff 0 (List.replicate 73 200000) lateSubscription rfl
  · intro delay hm
    simp only [List.mem_replicate] at hm
    simp only [microsPerHour]
    omega
  · exact ⟨by decide, by decide⟩

end AegisVPN
