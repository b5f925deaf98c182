import Mathlib.Logic.Function.Basic

namespace Library
set_option autoImplicit true

/-! ## Locks that belong to sessions -/

/-- Which session holds a lock, and how often it has taken it. -/
abbrev AdvisoryLocks (κ σ : Type) := κ → Option (σ × Nat)

namespace AdvisoryLocks

/-- The session holds the lock. -/
def Holds (locks : AdvisoryLocks κ σ) (key : κ) (session : σ) : Prop :=
  ∃ n, locks key = some (session, n)

theorem Holds.unique {locks : AdvisoryLocks κ σ} (h : locks.Holds key session)
    (h' : locks.Holds key session') : session = session' := by
  obtain ⟨n, hn⟩ := h
  obtain ⟨n', hn'⟩ := h'
  rw [hn] at hn'
  exact congrArg Prod.fst (Option.some.inj hn')

/-- A session that ends gives back all of its locks. -/
def endSession [DecidableEq σ] (locks : AdvisoryLocks κ σ) (session : σ) : AdvisoryLocks κ σ :=
  fun key => (locks key).filter fun holder => holder.1 != session

theorem Holds.endSession [DecidableEq σ] {locks : AdvisoryLocks κ σ}
    (h : locks.Holds key session) (hne : session' ≠ session) :
    (locks.endSession session').Holds key session := by
  obtain ⟨n, hn⟩ := h
  refine ⟨n, ?_⟩
  rw [AdvisoryLocks.endSession, hn]
  simp [hne.symm]

variable [DecidableEq κ] [DecidableEq σ] (locks : AdvisoryLocks κ σ) (key : κ) (session : σ)

/-- Take a lock unless another session has it. -/
def tryLock : Bool × AdvisoryLocks κ σ :=
  match locks key with
  | none => (true, Function.update locks key (some (session, 1)))
  | some (holder, n) =>
    if holder = session then (true, Function.update locks key (some (session, n + 1)))
    else (false, locks)

/-- Give a lock back as often as it was taken. -/
def unlock : AdvisoryLocks κ σ :=
  match locks key with
  | some (holder, n) =>
    if holder = session then
      Function.update locks key (if n ≤ 1 then none else some (session, n - 1))
    else locks
  | none => locks

variable {locks key session}

theorem tryLock_holds (h : (locks.tryLock key session).1 = true) :
    (locks.tryLock key session).2.Holds key session := by
  rw [tryLock] at h ⊢
  split at h
  · exact ⟨1, Function.update_self ..⟩
  · split at h
    · rename_i holder n hholder hself
      simp only [hself, ↓reduceIte]
      exact ⟨n + 1, Function.update_self ..⟩
    · cases h

/-- What a session holds, no other session takes. -/
theorem Holds.tryLock (h : locks.Holds key session) (key' : κ) (session' : σ) :
    (locks.tryLock key' session').2.Holds key session := by
  obtain ⟨n, hn⟩ := h
  rw [AdvisoryLocks.tryLock]
  by_cases hkey : key = key'
  · rw [← hkey, hn]
    dsimp only
    split
    · rename_i hself
      rw [← hself]
      exact ⟨n + 1, Function.update_self ..⟩
    · exact ⟨n, hn⟩
  · have hother : ∀ v, (Function.update locks key' v) key = some (session, n) := by
      intro v
      rw [Function.update_of_ne hkey, hn]
    split
    · exact ⟨n, hother _⟩
    · split
      · exact ⟨n, hother _⟩
      · exact ⟨n, hn⟩

theorem Holds.unlock (h : locks.Holds key session) (hne : session' ≠ session) (key' : κ) :
    (locks.unlock key' session').Holds key session := by
  obtain ⟨n, hn⟩ := h
  rw [AdvisoryLocks.unlock]
  split
  · rename_i holder m hholder
    split
    · rename_i hself
      have hkey : key ≠ key' := by
        rintro rfl
        rw [hn] at hholder
        exact hne ((congrArg Prod.fst (Option.some.inj hholder)).trans hself).symm
      exact ⟨n, by rw [Function.update_of_ne hkey, hn]⟩
    · exact ⟨n, hn⟩
  · exact ⟨n, hn⟩

end AdvisoryLocks

end Library
