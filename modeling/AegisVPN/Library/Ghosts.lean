import AegisVPN.Library.Undisturbed

namespace Library
set_option autoImplicit true

/-- The same statements beside a record of their run that none of them reads. -/
def Semantics.noting (sem : Semantics S φ σ) (note : ∀ {β : Type}, S β → φ → σ → γ → γ) :
    Semantics S φ (σ × γ) := fun s f w =>
  (sem s f w.1).map fun r => (r.1, r.2, note s f w.1 w.2)

variable {sem : Semantics S φ σ} {note : ∀ {β : Type}, S β → φ → σ → γ → γ}

theorem Semantics.noting_some {s : S β} (h : sem.noting note s f w = some (b, w')) :
    sem s f w.1 = some (b, w'.1) ∧ w'.2 = note s f w.1 w.2 := by
  obtain ⟨r, hr, heq⟩ := Option.map_eq_some_iff.1 h
  cases heq
  exact ⟨hr, rfl⟩

namespace Prog

section Noting
variable (sem : Semantics S φ σ) (note : ∀ {β : Type}, S β → φ → σ → γ → γ)

theorem step_noting (p : Prog S ε α) (f : φ) (w : σ × γ) :
    (p.step (sem.noting note) f w).1 = (p.step sem f w.1).1 ∧
      (p.step (sem.noting note) f w).2.1 = (p.step sem f w.1).2 := by
  cases p with
  | ret a => exact ⟨rfl, rfl⟩
  | raise e => exact ⟨rfl, rfl⟩
  | stmt s k =>
    simp only [step, Semantics.noting]
    cases sem s f w.1 with
    | none => exact ⟨rfl, rfl⟩
    | some r => exact ⟨rfl, rfl⟩

/-- A record changes nothing about the run that it is a record of. -/
theorem advance_noting (p : Prog S ε α) (fs : List φ) (w : σ × γ) :
    (p.advance (sem.noting note) fs w).1 = (p.advance sem fs w.1).1 ∧
      (p.advance (sem.noting note) fs w).2.1 = (p.advance sem fs w.1).2 := by
  induction fs generalizing p w with
  | nil => exact ⟨rfl, rfl⟩
  | cons f fs ih =>
    obtain ⟨hp, hw⟩ := step_noting sem note p f w
    have h := ih (p.step (sem.noting note) f w).1 (p.step (sem.noting note) f w).2
    rw [hp, hw] at h
    rw [advance, advance, hp]
    exact h

end Noting

end Prog

end Library
