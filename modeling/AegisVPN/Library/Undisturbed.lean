import AegisVPN.Library.Program

namespace Library
set_option autoImplicit true

namespace Prog

/-! ## What a triple says about a run -/

section Advance
variable {sem : Semantics S φ σ} {R G : σ → σ → Prop} {Q : α → σ → Prop} {X : ε → σ → Prop}

theorem wp_stepped {p : Prog S ε α} (h : p.wp sem Eq G Q X w) (hG : ∀ w, G w w) (f : φ) :
    G w (p.step sem f w).2 ∧ (p.step sem f w).1.wp sem Eq G Q X (p.step sem f w).2 := by
  cases p with
  | ret a => exact ⟨hG w, h⟩
  | raise e => exact ⟨hG w, h⟩
  | stmt s k =>
    simp only [step]
    split
    · exact ⟨hG w, h⟩
    · rename_i b w' hs
      exact wp_stmt.1 h f b w' hs

theorem wp_advance {p : Prog S ε α} (h : p.wp sem Eq G Q X w) (fs : List φ) :
    (p.advance sem fs w).1.wp sem Eq G Q X (p.advance sem fs w).2 := by
  induction fs generalizing p w with
  | nil => exact h
  | cons f fs ih =>
    refine ih ?_
    cases p with
    | ret a => exact h
    | raise e => exact h
    | stmt s k =>
      simp only [step]
      split
      · exact h
      · rename_i b w' hs
        exact (wp_stmt.1 h f b w' hs).2

theorem wp_returned {p : Prog S ε α} (h : p.wp sem Eq G Q X w)
    (hr : p.advance sem fs w = (.ret a, w')) : Q a w' := by
  have := wp_advance h fs
  rwa [hr] at this

def returned : Prog S ε α → Option α
  | .ret a => some a
  | _ => none

theorem eq_ret_of_returned {p : Prog S ε α} (h : p.returned = some a) : p = .ret a := by
  cases p with
  | ret b =>
    cases h
    rfl
  | raise e => cases h
  | stmt s k => cases h

/-- With fewer choices for the environment a triple still holds. -/
theorem wp_choices {sem' : Semantics S ψ σ} {p : Prog S ε α} (h : p.wp sem R G Q X w)
    (hsem : ∀ {β : Type} (s : S β) f w r, sem' s f w = some r → ∃ f', sem s f' w = some r) :
    p.wp sem' R G Q X w := by
  induction p generalizing w with
  | ret a => exact h
  | raise e => exact h
  | stmt s k ih =>
    intro w₁ hw f b w₂ hs
    obtain ⟨f', hf'⟩ := hsem s f w₁ _ hs
    obtain ⟨hg, hk⟩ := h w₁ hw f' b w₂ hf'
    exact ⟨hg, ih b hk⟩

end Advance

/-! ## Undisturbed runs -/

section Run
variable {S : Type → Type u} (act : ∀ {β : Type}, S β → σ → β × σ)

/-- Execute to the end where every statement has one outcome. -/
def run : Prog S ε α → σ → Except ε α × σ
  | .ret a, w => (.ok a, w)
  | .raise e, w => (.error e, w)
  | .stmt s k, w => (k (act s w).1).run (act s w).2

@[simp] theorem run_ret (a : α) (w : σ) : (Prog.ret a : Prog S ε α).run act w = (.ok a, w) := rfl

@[simp] theorem run_raise (e : ε) (w : σ) :
    (Prog.raise e : Prog S ε α).run act w = (.error e, w) := rfl

@[simp] theorem run_perform (s : S α) (w : σ) :
    (perform s : Prog S ε α).run act w = (.ok (act s w).1, (act s w).2) := rfl

@[simp] theorem run_ofExcept (x : Except ε α) (w : σ) :
    (ofExcept x : Prog S ε α).run act w = (x, w) := by
  cases x <;> rfl

@[simp] theorem run_performOrRaise (s : S (Except ε α)) (w : σ) :
    (performOrRaise s).run act w = act s w := by
  rw [performOrRaise, run, run_ofExcept]

theorem run_bind_ok {p : Prog S ε α} (f : α → Prog S ε β) (h : p.run act w = (.ok a, w')) :
    (p.bind f).run act w = (f a).run act w' := by
  induction p generalizing w with
  | ret b =>
    cases h
    rfl
  | raise e => cases h
  | stmt s k ih => exact ih _ h

theorem run_bind_error {p : Prog S ε α} (f : α → Prog S ε β)
    (h : p.run act w = (.error e, w')) : (p.bind f).run act w = (.error e, w') := by
  induction p generalizing w with
  | ret b => cases h
  | raise e' =>
    cases h
    rfl
  | stmt s k ih => exact ih _ h

@[simp] theorem run_attempt (p : Prog S ε α) (w : σ) :
    p.attempt.run act w = (.ok (p.run act w).1, (p.run act w).2) := by
  induction p generalizing w with
  | ret a => rfl
  | raise e => rfl
  | stmt s k ih => exact ih _ _

variable {act} {sem : Semantics S φ σ} {R G : σ → σ → Prop} {Q : α → σ → Prop} {X : ε → σ → Prop}

theorem exists_run_bind {p : Prog S ε α} {f : α → Prog S ε β}
    (h : (p.bind f).run act w = (.ok b, w'')) :
    ∃ a w', p.run act w = (.ok a, w') ∧ (f a).run act w' = (.ok b, w'') := by
  cases hp : p.run act w with
  | mk r w' =>
    cases r with
    | ok a => exact ⟨a, w', rfl, (run_bind_ok act f hp).symm.trans h⟩
    | error e =>
      rw [run_bind_error act f hp] at h
      cases h

theorem run_foldlM {body : γ → δ → Prog S ε γ} (I : List δ → γ → σ → Prop)
    (hbody : ∀ x xs c w c' w', I (x :: xs) c w → (body c x).run act w = (.ok c', w') → I xs c' w')
    {xs : List δ} {c : γ} (hI : I xs c w) (h : (xs.foldlM body c).run act w = (.ok c', w')) :
    I [] c' w' := by
  induction xs generalizing c w with
  | nil =>
    cases h
    exact hI
  | cons x xs ih =>
    rw [List.foldlM_cons] at h
    obtain ⟨c₁, w₁, hx, hrest⟩ := exists_run_bind h
    exact ih (hbody x xs c w c₁ w₁ hI hx) hrest

/-- An undisturbed run is one of the runs that a triple is about. -/
theorem wp_run {p : Prog S ε α} (h : p.wp sem R G Q X w) (hR : ∀ w, R w w)
    (hsem : ∀ {β : Type} (s : S β) w, ∃ f, sem s f w = some (act s w)) :
    (∀ a, (p.run act w).1 = .ok a → Q a (p.run act w).2) ∧
      ∀ e, (p.run act w).1 = .error e → X e (p.run act w).2 := by
  induction p generalizing w with
  | ret a =>
    refine ⟨fun b hb => ?_, fun e he => by cases he⟩
    cases hb
    exact h
  | raise e =>
    refine ⟨fun b hb => ?_, fun e' he => ?_⟩
    · cases hb
    · cases he
      exact h
  | stmt s k ih =>
    obtain ⟨f, hf⟩ := hsem s w
    exact ih _ (h w (hR w) f _ _ hf).2

theorem run_of_uses {P : ∀ {β : Type}, S β → Prop} {p : Prog S ε α} (h : p.Uses P)
    (hrefl : ∀ w, R w w) (htrans : ∀ a b c, R a b → R b c → R a c)
    (hP : ∀ {β : Type} (s : S β), P s → ∀ w, R w (act s w).2) : R w (p.run act w).2 := by
  induction p generalizing w with
  | ret a => exact hrefl w
  | raise e => exact hrefl w
  | stmt s k ih => exact htrans _ _ _ (hP s h.1 w) (ih _ (h.2 _))

/-- Enough steps of the one choice bring the program to the end of its undisturbed run. -/
theorem exists_advance {f : φ} (hsem : ∀ {β : Type} (s : S β) w, sem s f w = some (act s w))
    (p : Prog S ε α) (w : σ) : ∃ n, p.advance sem (List.replicate n f) w =
      (.ofExcept (p.run act w).1, (p.run act w).2) := by
  induction p generalizing w with
  | ret a => exact ⟨0, rfl⟩
  | raise e => exact ⟨0, rfl⟩
  | stmt s k ih =>
    obtain ⟨n, hn⟩ := ih (act s w).1 (act s w).2
    refine ⟨n + 1, ?_⟩
    rw [List.replicate_succ, advance, step, hsem]
    exact hn

/-! ## Runs of few statements -/

variable (act) (P : ∀ {β : Type}, S β → Prop)

/-- The statements that the run executes are of `P`. -/
def Along : Prog S ε α → σ → Prop
  | .ret _, _ => True
  | .raise _, _ => True
  | .stmt s k, w => P s ∧ (k (act s w).1).Along (act s w).2

/-- The run returns the value, leaves the state as it is, and executes statements of `P` alone. -/
structure Quiet (p : Prog S ε α) (w : σ) (a : α) : Prop where
  run : p.run act w = (.ok a, w)
  along : p.Along act P w

variable {act P}

theorem along_bind {p : Prog S ε α} {f : α → Prog S ε β} (hp : p.Along act P w)
    (hrun : p.run act w = (.ok a, w')) (hf : (f a).Along act P w') :
    (p.bind f).Along act P w := by
  induction p generalizing w with
  | ret b =>
    cases hrun
    exact hf
  | raise e => cases hrun
  | stmt s k ih => exact ⟨hp.1, ih _ hp.2 hrun⟩

theorem Quiet.ret (a : α) (w : σ) : (Prog.ret a : Prog S ε α).Quiet act P w a := ⟨rfl, trivial⟩

theorem Quiet.bind {p : Prog S ε α} {f : α → Prog S ε β} (hp : p.Quiet act P w a)
    (hf : (f a).Quiet act P w b) : (p.bind f).Quiet act P w b :=
  ⟨(run_bind_ok act f hp.run).trans hf.run, along_bind hp.along hp.run hf.along⟩

theorem Quiet.perform {s : S α} (hs : P s) (h : act s w = (a, w)) :
    (Prog.perform s : Prog S ε α).Quiet act P w a := by
  refine ⟨?_, hs, trivial⟩
  rw [run_perform, h]

theorem Quiet.performOrRaise {s : S (Except ε α)} (hs : P s) (h : act s w = (.ok a, w)) :
    (Prog.performOrRaise s : Prog S ε α).Quiet act P w a := by
  refine ⟨?_, hs, ?_⟩
  · rw [run_performOrRaise, h]
  · change (ofExcept (act s w).1 : Prog S ε α).Along act P (act s w).2
    rw [h]
    trivial

end Run

end Prog

end Library
