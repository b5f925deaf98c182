import AegisVPN.Library.Sessions

namespace Library
set_option autoImplicit true

/-- What happens next in a pool. -/
inductive Event (ω : Type)
  | tick (t : Int)
  | spawn (op : ω)
  | run (i : Nat) (f : Answer)

/-- Task `i` goes on by `n` statements; it is given `text`, and every request succeeds. -/
def Event.runs (i n : Nat) (text : String) : List (Event ω) :=
  List.replicate n (.run i ⟨0, text, true, true⟩)

namespace Pool
variable [DecidableEq κ] [DecidableEq ρ]

section Play
variable (program : ω → TaskProg σ η κ ρ ε) (act : ρ → τ → τ)
  (X : Pool σ η κ ρ τ ω ε → Nat → Prop) [∀ P i, Decidable (X P i)]

def next (P : Pool σ η κ ρ τ ω ε) : Event ω → Option (Pool σ η κ ρ τ ω ε)
  | .tick t => if P.now ≤ t then some { P with now := t } else none
  | .spawn op => some { P with tasks := P.tasks ++ [Task.new op (program op)] }
  | .run i f => if X P i then P.step act i f else none

/-- A run with the order of its steps given. -/
def play : List (Event ω) → Pool σ η κ ρ τ ω ε → Option (Pool σ η κ ρ τ ω ε)
  | [], P => some P
  | e :: es, P => (P.next program act X e).bind (play es)

variable {program act X} {P P' : Pool σ η κ ρ τ ω ε}

theorem step_of_next (h : P.next program act X e = some P') : Step program act X P P' := by
  cases e with
  | tick t =>
    simp only [next] at h
    split at h
    · rename_i ht
      cases h
      exact .tick ht
    · cases h
  | spawn op =>
    cases h
    exact .spawn op
  | run i f =>
    simp only [next] at h
    split at h
    · rename_i hx
      exact .run i f hx h
    · cases h

theorem steps_of_play (h : play program act X es P = some P') : Steps program act X P P' := by
  induction es generalizing P with
  | nil =>
    cases h
    exact .refl
  | cons e es ih =>
    obtain ⟨Q, hnext, hplay⟩ := Option.bind_eq_some_iff.1 h
    exact .head (step_of_next hnext) (ih hplay)

theorem exists_of_play (h : (play program act X es P).any b = true) :
    ∃ P', Steps program act X P P' ∧ b P' = true := by
  obtain ⟨P', hplay, hb⟩ := (Option.any_eq_true _ _).1 h
  exact ⟨P', steps_of_play hplay, hb⟩

end Play

/-! ## One task at a time -/

/-- The other tasks are in no transaction and have announced nothing. -/
def Alone (P : Pool σ η κ ρ τ ω ε) (i : Nat) : Prop :=
  ∀ j < P.tasks.length, j ≠ i → (P.tasks[j]?.all fun t => !t.isOpen && t.pledged.isEmpty) = true

instance (P : Pool σ η κ ρ τ ω ε) (i : Nat) : Decidable (P.Alone i) :=
  inferInstanceAs (Decidable (∀ j < P.tasks.length, j ≠ i →
    (P.tasks[j]?.all fun t => !t.isOpen && t.pledged.isEmpty) = true))

omit [DecidableEq κ] [DecidableEq ρ] in
theorem Alone.other {P : Pool σ η κ ρ τ ω ε} (h : P.Alone i) (hj : j ≠ i)
    (ht : P.tasks[j]? = some t) : t.isOpen = false ∧ t.pledged = [] := by
  have hother := h j (List.getElem?_eq_some_iff.1 ht).1 hj
  simpa [ht] using hother

end Pool

/-- What the task has read is still so. -/
structure Task.Stands (t : Task σ η κ ρ ω ε) (db : σ) : Prop where
  reads : ∀ watches, t.reads watches db
  closed : t.isOpen = false → ∀ watches d, t.reads watches d

namespace Task
variable {t : Task σ η κ ρ ω ε}

theorem Stands.of_closed (h : t.Stands d) (ho : t.isOpen = false) : t.Stands d' :=
  ⟨fun watches => h.closed ho watches d', h.closed⟩

theorem Stands.resume (h : t.Stands d) : (t.resume ends q a).Stands d := by
  unfold Task.resume
  split <;> exact ⟨h.reads, h.closed⟩

variable [DecidableEq κ] [DecidableEq ρ]

theorem Stands.perform {act : ρ → τ → τ} {P P' : Pool σ η κ ρ τ ω ε} {t' : Task σ η κ ρ ω ε}
    {s : Stmt σ η κ ρ β} (h : t.Stands P.db) (hs : P.perform act i t s f = some (b, a, P', t')) :
    t'.Stands P'.db := by
  cases s with
  | clock => cases hs; exact h
  | ask => cases hs; exact h
  | select source q =>
    cases hs
    exact ⟨fun watches => ⟨h.reads watches, fun _ => rfl⟩,
      fun h => absurd h.symm Bool.false_ne_true⟩
  | execute u =>
    simp only [Pool.perform] at hs
    split at hs
    · cases hs
      exact ⟨fun watches => ⟨h.reads watches, rfl⟩, fun h => absurd h.symm Bool.false_ne_true⟩
    · cases hs
  | commit next => cases hs; exact ⟨fun _ => trivial, fun _ _ _ => trivial⟩
  | rollback => cases hs; exact ⟨fun _ => trivial, fun _ _ _ => trivial⟩
  | acquire k =>
    simp only [Pool.perform] at hs
    split at hs
    · cases hs
    · cases hs
      exact h
  | release k => cases hs; exact h
  | call c => cases hs; exact ⟨h.reads, h.closed⟩

end Task

namespace Pool
variable [DecidableEq κ] [DecidableEq ρ]
variable {program : ω → TaskProg σ η κ ρ ε} {act : ρ → τ → τ} {P P' : Pool σ η κ ρ τ ω ε}

theorem run_stands (h : ∀ t ∈ P.tasks, t.Stands P.db) (halone : P.Alone i)
    (hs : P.step act i f = some P') : ∀ t ∈ P'.tasks, t.Stands P'.db := by
  have hset : ∀ {t' : Task σ η κ ρ ω ε} {d : σ}, t'.Stands d →
      ∀ t ∈ P.tasks.set i t', t.Stands d := by
    intro t' d ht' t hm
    obtain ⟨j, hj⟩ := List.mem_iff_getElem?.1 hm
    obtain ⟨rfl, rfl⟩ | ⟨hne, hj⟩ := set_getElem? hj
    · exact ht'
    · exact (h t (List.mem_of_getElem? hj)).of_closed (halone.other hne hj).1
  simp only [step] at hs
  cases ht : P.tasks[i]? with
  | none => rw [ht] at hs; cases hs
  | some t =>
    simp only [ht] at hs
    cases hp : t.prog with
    | ret u =>
      simp only [hp, Option.some.injEq] at hs
      subst hs
      exact hset ⟨fun _ => trivial, fun _ _ _ => trivial⟩
    | raise e =>
      simp only [hp, Option.some.injEq] at hs
      subst hs
      exact hset ⟨fun _ => trivial, fun _ _ _ => trivial⟩
    | stmt s k =>
      simp only [hp, Option.map_eq_some_iff] at hs
      obtain ⟨⟨b, a, Q, t'⟩, hperform, rfl⟩ := hs
      simp only [(perform_keeps hperform).1]
      exact hset ((h t (List.mem_of_getElem? ht)).perform hperform).resume

variable {C : Contract σ η ρ ω} {X : Pool σ η κ ρ τ ω ε → Nat → Prop}

/-- Tasks that take turns, one transaction after another, are careful. -/
theorem careful_of_alone (halone : ∀ P i, X P i → P.Alone i)
    (hmay : ∀ P i t next k, X P i → P.tasks[i]? = some t → t.prog = .stmt (.commit next) k →
      C.may t.op P.now P.db (t.writes P.db))
    (hs : Steps program act X (initial d n c) P) :
    Steps program act (Careful C) (initial d n c) P := by
  suffices hboth : Steps program act (Careful C) (initial d n c) P ∧
      ∀ t ∈ P.tasks, t.Stands P.db from hboth.1
  induction hs with
  | refl => exact ⟨.refl, nofun⟩
  | tail _ hstep ih =>
    obtain ⟨hsteps, hstands⟩ := ih
    cases hstep with
    | tick ht => exact ⟨hsteps.tail (.tick ht), hstands⟩
    | spawn op =>
      refine ⟨hsteps.tail (.spawn op), fun t ht => ?_⟩
      rcases List.mem_append.1 ht with ht | ht
      · exact hstands t ht
      · rw [List.mem_singleton.1 ht]
        exact ⟨fun _ => trivial, fun _ _ _ => trivial⟩
    | run i f hx hrun =>
      refine ⟨hsteps.tail (.run i f ?_ hrun), run_stands hstands (halone _ i hx) hrun⟩
      refine ⟨fun t next k ht hp => ⟨(hstands t (List.mem_of_getElem? ht)).reads _,
        hmay _ i t next k hx ht hp, fun j t' hj ht' c hc => ?_⟩, fun t c k ht _ _ =>
        (hstands t (List.mem_of_getElem? ht)).reads _⟩
      rw [((halone _ i hx).other hj ht').2] at hc
      cases hc
    | abandon i e =>
      refine ⟨hsteps.tail (.abandon i e), fun t ht => ?_⟩
      obtain ⟨j, hj⟩ := List.mem_iff_getElem?.1 ht
      rw [List.getElem?_modify] at hj
      obtain ⟨t', ht', rfl⟩ := Option.map_eq_some_iff.1 hj
      split
      · exact ⟨fun _ => trivial, fun _ _ _ => trivial⟩
      · exact hstands t' (List.mem_of_getElem? ht')
    | crash e =>
      refine ⟨hsteps.tail (.crash e), fun t ht => ?_⟩
      obtain ⟨t', _, rfl⟩ := List.mem_map.1 ht
      exact ⟨fun _ => trivial, fun _ _ _ => trivial⟩

end Pool

end Library
