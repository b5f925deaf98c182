import AegisVPN.Library.AdvisoryLocks
import AegisVPN.Library.Runs

namespace AegisVPN
open Library
set_option autoImplicit true

/-! ## Tasks that run under a lease -/

inductive LeaderKind
  | leaderWorker
  | singletonJob
  deriving DecidableEq

/-- The tasks of all processes: what each runs, under which name, and the key of a name. -/
structure LeaderTasks where
  kind : Nat → LeaderKind
  name : Nat → String
  advisoryLockKey : String → Int

/-- Where a task is in `leader_lease`, and the session of its connection. -/
inductive LeasePhase
  | waiting
  | connected (session : Nat)
  | leased (session : Nat) (acquired : Bool)
  | working (session : Nat)
  | leaving (session : Nat) (acquired : Bool)
  | returned
  deriving DecidableEq

def LeasePhase.session : LeasePhase → Option Nat
  | .waiting => none
  | .connected session => some session
  | .leased session _ => some session
  | .working session => some session
  | .leaving session _ => some session
  | .returned => none

/-- From the acquisition of the lease to the end of the worker. -/
def LeasePhase.leads : LeasePhase → Bool
  | .leased _ acquired => acquired
  | .working _ => true
  | _ => false

/-- `owner` is the task that has checked the connection of a session out. -/
structure LeaderWorld where
  phase : Nat → LeasePhase
  owner : Nat → Option Nat
  ended : Nat → Bool
  locks : AdvisoryLocks Int Nat

inductive LeaderEvent
  | connect (task session : Nat)
  | tryLock (task : Nat)
  | enter (task : Nat)
  | finish (task : Nat)
  | leave (task : Nat)
  | lose (session : Nat)

def LeaderWorld.start : LeaderWorld :=
  ⟨fun _ => .waiting, fun _ => none, fun _ => false, fun _ => none⟩

def LeaderWorld.go (w : LeaderWorld) (task : Nat) (phase : LeasePhase) : LeaderWorld :=
  { w with phase := Function.update w.phase task phase }

@[simp] theorem go_self (w : LeaderWorld) (task : Nat) (phase : LeasePhase) :
    (w.go task phase).phase task = phase := Function.update_self ..

theorem go_of_ne (w : LeaderWorld) (h : t ≠ task) (phase : LeasePhase) :
    (w.go task phase).phase t = w.phase t := Function.update_of_ne h ..

/-- The connection goes back to the pool. -/
def LeaderWorld.release (w : LeaderWorld) (session : Nat) : LeaderWorld :=
  { w with owner := Function.update w.owner session none }

@[simp] theorem release_self (w : LeaderWorld) (session : Nat) :
    (w.release session).owner session = none := Function.update_self ..

section Step
variable (tasks : LeaderTasks)

def LeaderTasks.key (task : Nat) : Int := tasks.advisoryLockKey (tasks.name task)

/-- A statement on a lost connection raises, which ends the task. After a lease that was not
acquired the worker waits and tries again, the job is skipped. -/
def LeaderWorld.step (w : LeaderWorld) : LeaderEvent → LeaderWorld
  | .connect task session =>
    if w.phase task = .waiting ∧ w.owner session = none ∧ w.ended session = false then
      { w.go task (.connected session) with owner := Function.update w.owner session (some task) }
    else w
  | .tryLock task =>
    match w.phase task with
    | .connected session =>
      if w.ended session then (w.go task .returned).release session
      else
        let (acquired, locks) := w.locks.tryLock (tasks.key task) session
        { w.go task (.leased session acquired) with locks := locks }
    | _ => w
  | .enter task =>
    match w.phase task with
    | .leased session acquired =>
      if acquired then w.go task (.working session) else w.go task (.leaving session false)
    | _ => w
  | .finish task =>
    match w.phase task with
    | .working session => w.go task (.leaving session true)
    | _ => w
  | .leave task =>
    match w.phase task with
    | .leaving session acquired =>
      if acquired then
        let locks := if w.ended session then w.locks else w.locks.unlock (tasks.key task) session
        { (w.go task .returned).release session with locks := locks }
      else
        (w.go task (if tasks.kind task = .leaderWorker then .waiting else .returned)).release
          session
    | _ => w
  | .lose session =>
    { w with
      ended := Function.update w.ended session true
      locks := w.locks.endSession session }

/-- No connection is lost from the acquisition of its lease to the end of the worker. -/
def LeaderWorld.KeepsLease (w : LeaderWorld) : LeaderEvent → Prop
  | .lose session => ∀ task, w.owner session = some task → (w.phase task).leads = false
  | _ => True

end Step

/-! ## At most one worker -/

/-- Each connection belongs to one task, and a task that leads holds its lock. -/
structure Leading (tasks : LeaderTasks) (w : LeaderWorld) : Prop where
  owns : ∀ task session, (w.phase task).session = some session → w.owner session = some task
  holds : ∀ task session, (w.phase task).leads = true → (w.phase task).session = some session →
    w.locks.Holds (tasks.key task) session

section Steps
variable {tasks : LeaderTasks} {w : LeaderWorld}

theorem Leading.other (h : Leading tasks w) (hp : (w.phase task).session = some session)
    (hp' : (w.phase task').session = some session') (hne : task ≠ task') : session ≠ session' := by
  rintro rfl
  exact hne (Option.some.inj ((h.owns task session hp).symm.trans (h.owns task' session hp')))

theorem Leading.go (h : Leading tasks w) (hs : (w.phase task).session = some session)
    (hphase : phase.session = some session)
    (hholds : phase.leads = true → w.locks.Holds (tasks.key task) session) :
    Leading tasks (w.go task phase) where
  owns t s ht := by
    by_cases heq : t = task
    · rw [heq, go_self, hphase] at ht
      cases ht
      rw [heq]
      exact h.owns task session hs
    · rw [go_of_ne w heq] at ht
      exact h.owns t s ht
  holds t s hl ht := by
    by_cases heq : t = task
    · rw [heq, go_self] at hl ht
      rw [hphase] at ht
      cases ht
      rw [heq]
      exact hholds hl
    · rw [go_of_ne w heq] at hl ht
      exact h.holds t s hl ht

/-- A task that gives its connection back is of no concern any more. -/
theorem Leading.release (h : Leading tasks w) (hs : (w.phase task).session = some session)
    (hphase : phase.session = none) : Leading tasks ((w.go task phase).release session) := by
  have hother : ∀ t s, ((w.go task phase).phase t).session = some s →
      t ≠ task ∧ (w.go task phase).phase t = w.phase t := by
    intro t s ht
    have hne : t ≠ task := by
      rintro rfl
      rw [go_self, hphase] at ht
      cases ht
    exact ⟨hne, go_of_ne w hne phase⟩
  constructor
  · intro t s ht
    obtain ⟨hne, hsame⟩ := hother t s ht
    have ht' : (w.phase t).session = some s := hsame ▸ ht
    exact (Function.update_of_ne (h.other ht' hs hne) ..).trans (h.owns t s ht')
  · intro t s hl ht
    obtain ⟨-, hsame⟩ := hother t s ht
    exact h.holds t s (hsame ▸ hl) (hsame ▸ ht)

theorem Leading.locks (h : Leading tasks w) (locks : AdvisoryLocks Int Nat)
    (hlocks : ∀ task session, (w.phase task).leads = true →
      (w.phase task).session = some session → w.owner session = some task →
      w.locks.Holds (tasks.key task) session → locks.Holds (tasks.key task) session) :
    Leading tasks { w with locks := locks } where
  owns := h.owns
  holds t s hl ht := hlocks t s hl ht (h.owns t s ht) (h.holds t s hl ht)

theorem Leading.connect (h : Leading tasks w) (howner : w.owner session = none) :
    Leading tasks { w.go task (.connected session) with
      owner := Function.update w.owner session (some task) } := by
  constructor
  · intro t s ht
    by_cases heq : t = task
    · rw [heq, go_self] at ht
      cases ht
      rw [heq]
      exact Function.update_self ..
    · rw [go_of_ne w heq] at ht
      have hne : s ≠ session := by
        rintro rfl
        rw [h.owns t s ht] at howner
        cases howner
      exact (Function.update_of_ne hne ..).trans (h.owns t s ht)
  · intro t s hl ht
    by_cases heq : t = task
    · rw [heq, go_self] at hl
      cases hl
    · rw [go_of_ne w heq] at hl ht
      exact h.holds t s hl ht

theorem Leading.step (h : Leading tasks w) (e : LeaderEvent) (hc : w.KeepsLease e) :
    Leading tasks (w.step tasks e) := by
  cases e with
  | connect task session =>
    simp only [LeaderWorld.step]
    split
    · rename_i hfree
      exact h.connect hfree.2.1
    · exact h
  | tryLock task =>
    simp only [LeaderWorld.step]
    split
    · rename_i session hphase
      have hs : (w.phase task).session = some session := by rw [hphase]; rfl
      split
      · exact h.release hs rfl
      · have hlocks := h.locks (w.locks.tryLock (tasks.key task) session).2
          fun t s _ _ _ hholds => hholds.tryLock _ _
        exact hlocks.go hs rfl fun hacquired => AdvisoryLocks.tryLock_holds hacquired
    · exact h
  | enter task =>
    simp only [LeaderWorld.step]
    split
    · rename_i session acquired hphase
      have hs : (w.phase task).session = some session := by rw [hphase]; rfl
      split
      · rename_i hacquired
        refine h.go hs rfl fun _ => h.holds task session ?_ hs
        rw [hphase]
        exact hacquired
      · exact h.go hs rfl nofun
    · exact h
  | finish task =>
    simp only [LeaderWorld.step]
    split
    · rename_i session hphase
      have hs : (w.phase task).session = some session := by rw [hphase]; rfl
      exact h.go hs rfl nofun
    · exact h
  | leave task =>
    simp only [LeaderWorld.step]
    split
    · rename_i session acquired hphase
      have hs : (w.phase task).session = some session := by rw [hphase]; rfl
      split
      · -- whoever still leads has another connection than the one given back
        refine (h.release hs rfl).locks _ fun t s _ _ howner hholds => ?_
        split
        · exact hholds
        · refine hholds.unlock ?_ _
          rintro rfl
          rw [release_self] at howner
          cases howner
      · refine h.release hs ?_
        split <;> rfl
    · exact h
  | lose session =>
    have hlocks : Leading tasks { w with locks := w.locks.endSession session } := by
      refine h.locks _ fun t s hl _ howner hholds => hholds.endSession ?_
      rintro rfl
      rw [hc t howner] at hl
      cases hl
    exact ⟨hlocks.owns, hlocks.holds⟩

theorem Leading.start : Leading tasks LeaderWorld.start where
  owns t s ht := by cases ht
  holds t s hl ht := by cases ht

end Steps

/-- As long as no lease is lost under its worker, at most one task of a name is executing it. -/
theorem one_leader (tasks : LeaderTasks) (events : List LeaderEvent)
    (h : Along (LeaderWorld.step tasks) LeaderWorld.KeepsLease LeaderWorld.start events)
    (task task' session session' : Nat) (hname : tasks.name task = tasks.name task')
    (hw : (events.foldl (LeaderWorld.step tasks) LeaderWorld.start).phase task = .working session)
    (hw' : (events.foldl (LeaderWorld.step tasks) LeaderWorld.start).phase task' =
      .working session') : task = task' := by
  have hleading : Leading tasks (events.foldl (LeaderWorld.step tasks) LeaderWorld.start) := by
    refine run_invariant Leading.start ?_ h
    intro w e hw hc
    exact hw.step e hc
  generalize events.foldl (LeaderWorld.step tasks) LeaderWorld.start = w at hleading hw hw'
  have hs : (w.phase task).session = some session := by rw [hw]; rfl
  have hs' : (w.phase task').session = some session' := by rw [hw']; rfl
  have hholds := hleading.holds task session (by rw [hw]; rfl) hs
  have hholds' := hleading.holds task' session' (by rw [hw']; rfl) hs'
  rw [LeaderTasks.key, hname] at hholds
  have hsession : session = session' := hholds.unique hholds'
  have howner := hleading.owns task session hs
  rw [hsession, hleading.owns task' session' hs'] at howner
  exact (Option.some.inj howner).symm

/-- Two processes that poll for the same bot. -/
def pollers : LeaderTasks := ⟨fun _ => .leaderWorker, fun _ => "telegram-main-polling", fun _ => 7⟩

/-- The first is polling, the second found the lease taken and waits. -/
def standbyEvents : List LeaderEvent :=
  [.connect 0 0, .tryLock 0, .enter 0, .connect 1 1, .tryLock 1, .enter 1, .leave 1]

theorem one_leader_standby :
    (standbyEvents.foldl (LeaderWorld.step pollers) LeaderWorld.start).phase 0 = .working 0 ∧
    ¬ (standbyEvents.foldl (LeaderWorld.step pollers) LeaderWorld.start).phase 1 = .working 1 := by
  have h : Along (LeaderWorld.step pollers) LeaderWorld.KeepsLease LeaderWorld.start
      standbyEvents := by
    simp only [standbyEvents, Along, LeaderWorld.KeepsLease, and_self]
  refine ⟨rfl, fun hw => ?_⟩
  have hone := one_leader pollers standbyEvents h 0 1 0 1 rfl rfl hw
  exact absurd hone (by decide)

/-- The first process loses its connection while it is polling, and goes on; the second takes the
lease, and polls as well. -/
theorem lost_lease_two_leaders : ∃ events : List LeaderEvent, pollers.name 0 = pollers.name 1 ∧
    (events.foldl (LeaderWorld.step pollers) LeaderWorld.start).phase 0 = .working 0 ∧
    (events.foldl (LeaderWorld.step pollers) LeaderWorld.start).phase 1 = .working 1 :=
  ⟨standbyEvents ++ [.lose 0, .connect 1 1, .tryLock 1, .enter 1], rfl, rfl, rfl⟩

end AegisVPN
