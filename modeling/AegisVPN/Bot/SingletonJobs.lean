import Mathlib.Algebra.Ring.Nat
import Mathlib.Logic.Function.Basic
import AegisVPN.Library.Runs

namespace AegisVPN
open Library
set_option autoImplicit true

/-! # A scheduler job on several processes -/

/-- How many ticks of the job each process has fired, the process that runs the job under the lease,
and how often each tick was executed. -/
structure JobWorld where
  fired : Nat → Nat
  running : Option Nat
  executed : Nat → Nat

/-- A process asks for the lease at its next tick, or the job that is running ends. -/
inductive JobEvent
  | fire (process : Nat)
  | finish

namespace JobWorld

def start : JobWorld := ⟨fun _ => 0, none, fun _ => 0⟩

/-- The job is executed if the lease is free, and skipped otherwise. -/
def singletonJob (w : JobWorld) (process : Nat) : JobWorld :=
  if w.running = none then
    { w with
      running := some process
      executed := Function.update w.executed (w.fired process)
        (w.executed (w.fired process) + 1) }
  else w

/-- The processes are numbered up to `standbys`. -/
def step (standbys : Nat) (w : JobWorld) : JobEvent → JobWorld
  | .fire process =>
    if process ≤ standbys then
      { w.singletonJob process with
        fired := Function.update w.fired process (w.fired process + 1) }
    else w
  | .finish => { w with running := none }

def run (standbys : Nat) (events : List JobEvent) : JobWorld := events.foldl (step standbys) start

/-- Every process has fired the tick. -/
def Complete (standbys : Nat) (w : JobWorld) (tick : Nat) : Prop :=
  ∀ process ≤ standbys, tick < w.fired process

/-- No tick is executed twice, and each that all processes have fired is executed. -/
def OncePerTick (standbys : Nat) (w : JobWorld) : Prop :=
  ∀ tick, w.executed tick ≤ 1 ∧ (w.Complete standbys tick → w.executed tick = 1)

/-- The executions of the first ticks. -/
def executions (w : JobWorld) (ticks : Nat) : Nat := ((List.range ticks).map w.executed).sum

/-- A process that comes to a tick after its execution finds the lease taken still, and the last
one that comes to a tick without any finds it free. -/
def Overlapping (standbys : Nat) (w : JobWorld) : JobEvent → Prop
  | .fire process => process ≤ standbys →
      (w.executed (w.fired process) = 1 → w.running ≠ none) ∧
        (w.executed (w.fired process) = 0 →
          (∀ other ≤ standbys, other ≠ process → w.fired process < w.fired other) →
            w.running = none)
  | .finish => True

/-! ## One step -/

section Step
variable {standbys process tick : Nat} {w : JobWorld}

theorem executed_fire (h : process ≤ standbys) :
    (w.step standbys (.fire process)).executed tick =
      if tick = w.fired process ∧ w.running = none then w.executed tick + 1
      else w.executed tick := by
  simp only [step, if_pos h, singletonJob]
  by_cases hfree : w.running = none
  · by_cases ht : tick = w.fired process
    · subst ht
      simp only [hfree, if_true, and_self, Function.update_self]
    · simp only [hfree, if_true, ht, false_and, if_false, Function.update_of_ne ht]
  · simp only [hfree, if_false, and_false]

theorem complete_fire (h : process ≤ standbys) :
    (w.step standbys (.fire process)).Complete standbys tick ↔
      tick ≤ w.fired process ∧
        ∀ other ≤ standbys, other ≠ process → tick < w.fired other := by
  have hfired : (w.step standbys (.fire process)).fired =
      Function.update w.fired process (w.fired process + 1) := by
    simp only [step, if_pos h]
  unfold Complete
  rw [hfired]
  constructor
  · intro hall
    constructor
    · have hown := hall process h
      rw [Function.update_self] at hown
      exact Nat.lt_succ_iff.1 hown
    · intro other hother hne
      have hlt := hall other hother
      rwa [Function.update_of_ne hne] at hlt
  · intro ⟨hown, hothers⟩ other hother
    by_cases hne : other = process
    · rw [hne, Function.update_self]
      exact Nat.lt_succ_iff.2 hown
    · rw [Function.update_of_ne hne]
      exact hothers other hother hne

theorem complete_iff (h : process ≤ standbys) : w.Complete standbys tick ↔
    tick < w.fired process ∧ ∀ other ≤ standbys, other ≠ process → tick < w.fired other := by
  constructor
  · exact fun hall => ⟨hall process h, fun other hother _ => hall other hother⟩
  · intro ⟨hown, hothers⟩ other hother
    by_cases hne : other = process
    · exact hne ▸ hown
    · exact hothers other hother hne

theorem oncePerTick_fire (hw : w.OncePerTick standbys) (h : process ≤ standbys) :
    (w.Overlapping standbys (.fire process) ↔
      (w.step standbys (.fire process)).OncePerTick standbys) := by
  constructor
  · intro ho tick
    obtain ⟨htaken, hfree⟩ := ho h
    rw [executed_fire h, complete_fire h]
    by_cases ht : tick = w.fired process
    · subst ht
      by_cases hrunning : w.running = none
      · have hzero : w.executed (w.fired process) = 0 := by
          have hle := (hw (w.fired process)).1
          have hne := mt htaken (not_not.2 hrunning)
          omega
        simp only [hrunning, and_self, if_true, hzero]
        exact ⟨Nat.le_refl 1, fun _ => trivial⟩
      · simp only [hrunning, and_false, if_false]
        apply And.intro (hw _).1
        intro hcomplete
        have hne : w.executed (w.fired process) ≠ 0 := by
          intro hzero
          exact hrunning (hfree hzero hcomplete.2)
        have hle := (hw (w.fired process)).1
        omega
    · simp only [ht, false_and, if_false]
      apply And.intro (hw tick).1
      intro hcomplete
      apply (hw tick).2
      apply (complete_iff h).2
      exact ⟨Nat.lt_of_le_of_ne hcomplete.1 ht, hcomplete.2⟩
  · intro ho _
    have hnow := ho (w.fired process)
    rw [executed_fire h, complete_fire h] at hnow
    constructor
    · intro hone hrunning
      simp only [hrunning, and_self, if_true, hone] at hnow
      exact absurd hnow.1 (by decide)
    · intro hzero hothers
      by_contra hrunning
      simp only [hrunning, and_false, if_false, hzero] at hnow
      exact absurd (hnow.2 ⟨Nat.le_refl _, hothers⟩) (by decide)

theorem oncePerTick_step (hw : w.OncePerTick standbys) (event : JobEvent) :
    w.Overlapping standbys event ↔ (w.step standbys event).OncePerTick standbys := by
  cases event with
  | fire process =>
    by_cases h : process ≤ standbys
    · exact oncePerTick_fire hw h
    · have hsame : w.step standbys (.fire process) = w := if_neg h
      rw [hsame]
      exact ⟨fun _ => hw, fun _ hle => absurd hle h⟩
  | finish => exact ⟨fun _ => hw, fun _ => trivial⟩

end Step

/-! ## Runs -/

theorem oncePerTick_start (standbys : Nat) : start.OncePerTick standbys := by
  intro tick
  apply And.intro (Nat.zero_le 1)
  intro hcomplete
  exact absurd (hcomplete 0 (Nat.zero_le standbys)) (Nat.not_lt_zero tick)

/-- As many executions as ticks, once all processes have fired them. -/
theorem OncePerTick.executions_eq (h : OncePerTick standbys w) (ticks : Nat)
    (hcomplete : ∀ tick < ticks, w.Complete standbys tick) : w.executions ticks = ticks := by
  induction ticks with
  | zero => rfl
  | succ ticks ih =>
    have hone := (h ticks).2 (hcomplete ticks (Nat.lt_succ_self ticks))
    have hrest := ih fun tick ht => hcomplete tick (Nat.lt_succ_of_lt ht)
    unfold executions at hrest ⊢
    rw [List.range_succ, List.map_append, List.sum_append, hrest, List.map_singleton,
      List.sum_singleton, hone]

end JobWorld

theorem once_per_tick_iff (standbys : Nat) (events : List JobEvent) :
    (∀ before, before <+: events → (JobWorld.run standbys before).OncePerTick standbys ∧
      ∀ ticks, (∀ tick < ticks, (JobWorld.run standbys before).Complete standbys tick) →
        (JobWorld.run standbys before).executions ticks = ticks) ↔
      Along (JobWorld.step standbys) (JobWorld.Overlapping standbys) .start events := by
  have hiff : (∀ before, before <+: events → (JobWorld.run standbys before).OncePerTick standbys) ↔
      Along (JobWorld.step standbys) (JobWorld.Overlapping standbys) .start events :=
    along_iff_invariant (JobWorld.oncePerTick_start standbys)
      fun w event hw => JobWorld.oncePerTick_step hw event
  rw [← hiff]
  constructor
  · exact fun h before hp => (h before hp).1
  · intro h before hp
    exact ⟨h before hp, fun ticks hcomplete => (h before hp).executions_eq ticks hcomplete⟩

/-- The second process comes to the tick after the first has done it. -/
theorem tick_executed_twice :
    (JobWorld.run 1 [.fire 0, .finish, .fire 1, .finish]).Complete 1 0 ∧
      (JobWorld.run 1 [.fire 0, .finish, .fire 1, .finish]).executions 1 = 2 := by
  constructor
  · unfold JobWorld.Complete
    decide
  · decide

end AegisVPN
