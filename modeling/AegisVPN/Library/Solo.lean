import AegisVPN.Library.Sessions
import AegisVPN.Library.Undisturbed

namespace Library
set_option autoImplicit true

/-! ## A task that has its database to itself -/

/-- What a task is told from outside, in the order in which it asks. -/
structure Outside where
  times : Nat → Int
  texts : Nat → String
  replies : Nat → Bool

structure Solo (σ : Type) where
  committed : σ
  view : σ
  outside : Outside

namespace Solo

def start (db : σ) (outside : Outside) : Solo σ := ⟨db, db, outside⟩

def next (f : Nat → α) : Nat → α := fun n => f (n + 1)

/-- A statement of a task that nobody else disturbs. -/
def serve : Stmt σ η κ ρ β → Solo σ → β × Solo σ
  | .clock, w =>
    (w.outside.times 0, { w with outside.times := next w.outside.times })
  | .ask, w => (w.outside.texts 0, { w with outside.texts := next w.outside.texts })
  | .select _ q, w => (q w.view, w)
  | .execute u, w => ((u w.view).1, { w with view := (u w.view).2 })
  | .commit _, w => ((), { w with committed := w.view })
  | .rollback, w => ((), { w with view := w.committed })
  | .acquire _, w => ((), w)
  | .release _, w => ((), w)
  | .call _, w => (w.outside.replies 0, { w with outside.replies := next w.outside.replies })

theorem run_texts (p : Prog (Stmt σ η κ ρ) ε α) (w : Solo σ) :
    ∃ k, ∀ n, (p.run serve w).2.outside.texts n = w.outside.texts (n + k) := by
  induction p generalizing w with
  | ret a => exact ⟨0, fun n => rfl⟩
  | raise e => exact ⟨0, fun n => rfl⟩
  | stmt s k ih =>
    obtain ⟨m, hm⟩ := ih (serve s w).1 (serve s w).2
    cases s with
    | ask => exact ⟨m + 1, fun n => hm n⟩
    | _ => exact ⟨m, fun n => hm n⟩

/-- What a statement does to the view, `R` allows; it does not end a transaction. -/
def Moves (R : σ → σ → Prop) : Stmt σ η κ ρ β → Prop
  | .execute u => ∀ v, R v (u v).2
  | s => s.ends = false

theorem run_moves {R : σ → σ → Prop} {p : Prog (Stmt σ η κ ρ) ε α} (h : p.Uses (Moves R ·))
    (hrefl : ∀ v, R v v) (htrans : ∀ a b c, R a b → R b c → R a c) (w : Solo σ) :
    R w.view (p.run serve w).2.view := by
  refine Prog.run_of_uses (R := fun a b : Solo σ => R a.view b.view) h (fun w => hrefl w.view)
    (fun a b c => htrans a.view b.view c.view) fun s hs w => ?_
  cases s with
  | execute u => exact hs w.view
  | commit next => cases hs
  | rollback => cases hs
  | _ => exact hrefl w.view

variable {τ : Type}

/-- The same with those whom the task calls: every call has its effect, and `reply` for an
answer. -/
def serveAll (reply : Bool) (act : ρ → τ → τ) (s : Stmt σ η κ ρ β) (w : Solo σ × τ) :
    β × (Solo σ × τ) :=
  match s with
  | .call c => (reply, (w.1, act c w.2))
  | s => ((serve s w.1).1, ((serve s w.1).2, w.2))

/-- The statement calls nobody. -/
def Silent : Stmt σ η κ ρ β → Prop
  | .call _ => False
  | _ => True

theorem serveAll_silent {s : Stmt σ η κ ρ β} (h : Silent s) (reply : Bool) (act : ρ → τ → τ)
    (w : Solo σ × τ) :
    serveAll reply act s w = ((serve s w.1).1, ((serve s w.1).2, w.2)) := by
  cases s with
  | call c => cases h
  | _ => rfl

/-- Where nobody is called, nobody changes. -/
theorem run_silent {p : Prog (Stmt σ η κ ρ) ε α} (h : p.Uses (Silent ·)) (reply : Bool)
    (act : ρ → τ → τ) (w : Solo σ × τ) :
    p.run (serveAll reply act) w = ((p.run serve w.1).1, ((p.run serve w.1).2, w.2)) := by
  induction p generalizing w with
  | ret a => rfl
  | raise e => rfl
  | stmt s k ih =>
    rw [Prog.run, Prog.run, serveAll_silent h.1]
    exact ih _ (h.2 _) _

theorem run_moves_all {R : σ → σ → Prop} {p : Prog (Stmt σ η κ ρ) ε α} (h : p.Uses (Moves R ·))
    (hrefl : ∀ v, R v v) (htrans : ∀ a b c, R a b → R b c → R a c) (reply : Bool)
    (act : ρ → τ → τ) (w : Solo σ × τ) :
    R w.1.view (p.run (serveAll reply act) w).2.1.view := by
  induction p generalizing w with
  | ret a => exact hrefl w.1.view
  | raise e => exact hrefl w.1.view
  | stmt s k ih =>
    refine htrans _ _ _ ?_ (ih _ (h.2 _) _)
    have hs := h.1
    cases s with
    | execute u => exact hs w.1.view
    | commit next => cases hs
    | rollback => cases hs
    | _ => exact hrefl w.1.view

end Solo

end Library
