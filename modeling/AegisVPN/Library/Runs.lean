import Mathlib.Data.List.Basic

namespace Library
set_option autoImplicit true

/-- Every step of a run is taken where the condition holds. -/
def Along (step : σ → ι → σ) (C : σ → ι → Prop) : σ → List ι → Prop
  | _, [] => True
  | s, e :: es => C s e ∧ Along step C (step s e) es

theorem along_append {step : σ → ι → σ} {C : σ → ι → Prop} :
    Along step C s (es ++ es') ↔ Along step C s es ∧ Along step C (es.foldl step s) es' := by
  induction es generalizing s with
  | nil => simp only [List.nil_append, Along, List.foldl_nil, true_and]
  | cons e es ih => simp only [List.cons_append, Along, ih, List.foldl_cons, and_assoc]

instance decidableAlong {step : σ → ι → σ} {C : σ → ι → Prop} [∀ s e, Decidable (C s e)] :
    ∀ s es, Decidable (Along step C s es)
  | _, [] => inferInstanceAs (Decidable True)
  | s, e :: es =>
    have : Decidable (Along step C (step s e) es) := decidableAlong (step s e) es
    inferInstanceAs (Decidable (C s e ∧ Along step C (step s e) es))

/-- What each such step keeps, the run keeps. -/
theorem run_invariant {step : σ → ι → σ} {C : σ → ι → Prop} {I : σ → Prop} (hs : I s)
    (hstep : ∀ s e, I s → C s e → I (step s e)) (h : Along step C s es) :
    I (es.foldl step s) := by
  induction es generalizing s with
  | nil => exact hs
  | cons e es ih => exact ih (hstep s e hs h.1) h.2

/-- Where the condition says exactly which steps keep an invariant, the runs along it are those
that keep the invariant throughout. -/
theorem along_iff_invariant {step : σ → ι → σ} {C : σ → ι → Prop} {I : σ → Prop} (hs : I s)
    (hstep : ∀ s e, I s → (C s e ↔ I (step s e))) :
    (∀ es', es' <+: es → I (es'.foldl step s)) ↔ Along step C s es := by
  induction es generalizing s with
  | nil =>
    constructor
    · exact fun _ => trivial
    · intro _ es' h
      rw [List.prefix_nil.1 h]
      exact hs
  | cons e es ih =>
    constructor
    · intro h
      have he : I (step s e) := h [e] ⟨es, rfl⟩
      exact ⟨(hstep s e hs).2 he, (ih he).1 fun es' hp =>
        h (e :: es') ((List.prefix_cons_inj e).2 hp)⟩
    · intro h es' hp
      have he : I (step s e) := (hstep s e hs).1 h.1
      cases es' with
      | nil => exact hs
      | cons e' es' =>
        obtain ⟨rfl, htail⟩ := List.cons_prefix_cons.1 hp
        exact (ih he).2 h.2 es' htail

end Library
