import Mathlib.Logic.Relation

namespace Library
set_option autoImplicit true

/-- A program is a tree of atomic statements; other parties may act between any two of them. -/
inductive Prog (S : Type → Type u) (ε α : Type) : Type (max 1 u)
  | ret (a : α)
  | raise (e : ε)
  | stmt {β : Type} (s : S β) (k : β → Prog S ε α)

namespace Prog

def bind : Prog S ε α → (α → Prog S ε β) → Prog S ε β
  | .ret a, f => f a
  | .raise e, _ => .raise e
  | .stmt s k, f => .stmt s fun b => (k b).bind f

instance : Monad (Prog S ε) where
  pure := .ret
  bind := Prog.bind

/-- Run a program to its end and hand its exception to the caller as a value. -/
def attempt : Prog S ε α → Prog S ε (Except ε α)
  | .ret a => .ret (.ok a)
  | .raise e => .ret (.error e)
  | .stmt s k => .stmt s fun b => (k b).attempt

def ofExcept : Except ε α → Prog S ε α
  | .ok a => .ret a
  | .error e => .raise e

def perform (s : S α) : Prog S ε α := .stmt s .ret

/-- A statement whose answer may be an exception. -/
def performOrRaise (s : S (Except ε α)) : Prog S ε α := .stmt s ofExcept

/-- Replace every statement by one of another kind. -/
def hoist (t : ∀ {β}, S β → T β) : Prog S ε α → Prog T ε α
  | .ret a => .ret a
  | .raise e => .raise e
  | .stmt s k => .stmt (t s) fun b => (k b).hoist t

def whenever (c : Prop) [Decidable c] (p : Prog S ε Unit) : Prog S ε Unit :=
  if c then p else .ret ()

def finished : Prog S ε α → Bool
  | .stmt _ _ => false
  | _ => true

theorem bind_assoc (p : Prog S ε α) (f : α → Prog S ε β) (g : β → Prog S ε γ) :
    (p.bind f).bind g = p.bind fun a => (f a).bind g := by
  induction p with
  | ret a => rfl
  | raise e => rfl
  | stmt s k ih => simp only [bind, ih]

theorem bind_ret (p : Prog S ε α) : p.bind .ret = p := by
  induction p with
  | ret a => rfl
  | raise e => rfl
  | stmt s k ih => simp only [bind, ih]

@[simp] theorem pure_eq (a : α) : (pure a : Prog S ε α) = .ret a := rfl

@[simp] theorem bind_eq (p : Prog S ε α) (f : α → Prog S ε β) : p >>= f = p.bind f := rfl

end Prog

/-- One statement against one choice of the environment; `none` is a statement that must wait. -/
abbrev Semantics (S : Type → Type u) (φ σ : Type) := ∀ {β : Type}, S β → φ → σ → Option (β × σ)

namespace Prog
variable (sem : Semantics S φ σ)

def step (f : φ) : Prog S ε α → σ → Prog S ε α × σ
  | .ret a, w => (.ret a, w)
  | .raise e, w => (.raise e, w)
  | .stmt s k, w =>
    match sem s f w with
    | none => (.stmt s k, w)
    | some (b, w') => (k b, w')

/-- Execute as many statements as there are choices: a shorter list is a run cut off there. -/
def advance : List φ → Prog S ε α → σ → Prog S ε α × σ
  | [], p, w => (p, w)
  | f :: fs, p, w => advance fs (p.step sem f w).1 (p.step sem f w).2

@[simp] theorem advance_ret (fs : List φ) (a : α) (w : σ) :
    (Prog.ret a : Prog S ε α).advance sem fs w = (.ret a, w) := by
  induction fs with
  | nil => rfl
  | cons f fs ih => exact ih

@[simp] theorem advance_raise (fs : List φ) (e : ε) (w : σ) :
    (Prog.raise e : Prog S ε α).advance sem fs w = (.raise e, w) := by
  induction fs with
  | nil => rfl
  | cons f fs ih => exact ih

/-- `R` bounds what the others do before each statement, `G` what each statement does itself;
`Q` holds after a return and `X` after an exception. -/
def wp (R G : σ → σ → Prop) (Q : α → σ → Prop) (X : ε → σ → Prop) : Prog S ε α → σ → Prop
  | .ret a, w => Q a w
  | .raise e, w => X e w
  | .stmt s k, w => ∀ w₁, R w w₁ → ∀ f b w₂, sem s f w₁ = some (b, w₂) →
      G w₁ w₂ ∧ (k b).wp R G Q X w₂

variable {sem} {R G : σ → σ → Prop} {X : ε → σ → Prop}

@[simp] theorem wp_ret {Q : α → σ → Prop} :
    (Prog.ret a : Prog S ε α).wp sem R G Q X w = Q a w := rfl

@[simp] theorem wp_raise {Q : α → σ → Prop} :
    (Prog.raise e : Prog S ε α).wp sem R G Q X w = X e w := rfl

@[simp] theorem wp_bind {Q : β → σ → Prop} (p : Prog S ε α) (f : α → Prog S ε β) (w : σ) :
    (p.bind f).wp sem R G Q X w = p.wp sem R G (fun a => (f a).wp sem R G Q X) X w := by
  induction p generalizing w with
  | ret a => rfl
  | raise e => rfl
  | stmt s k ih => simp only [bind, wp, ih]

@[simp] theorem wp_attempt {Q : Except ε α → σ → Prop} (p : Prog S ε α) (w : σ) :
    p.attempt.wp sem R G Q X w =
      p.wp sem R G (fun a => Q (.ok a)) (fun e => Q (.error e)) w := by
  induction p generalizing w with
  | ret a => rfl
  | raise e => rfl
  | stmt s k ih => simp only [attempt, wp, ih]

theorem wp_stmt {Q : α → σ → Prop} {s : S β} {k : β → Prog S ε α} :
    (Prog.stmt s k).wp sem Eq G Q X w ↔
      ∀ f b w₂, sem s f w = some (b, w₂) → G w w₂ ∧ (k b).wp sem Eq G Q X w₂ := by
  simp only [wp, forall_eq']

theorem wp_mono {R' G' : σ → σ → Prop} {Q Q' : α → σ → Prop} {X' : ε → σ → Prop}
    {p : Prog S ε α} (h : p.wp sem R G Q X w) (hR : ∀ a b, R' a b → R a b)
    (hG : ∀ a b, G a b → G' a b) (hQ : ∀ a w, Q a w → Q' a w) (hX : ∀ e w, X e w → X' e w) :
    p.wp sem R' G' Q' X' w := by
  induction p generalizing w with
  | ret a => exact hQ _ _ h
  | raise e => exact hX _ _ h
  | stmt s k ih =>
    intro w₁ hw f b w₂ hs
    obtain ⟨hg, hk⟩ := h w₁ (hR _ _ hw) f b w₂ hs
    exact ⟨hG _ _ hg, ih b hk⟩

theorem wp_whenever {Q : Unit → σ → Prop} {c : Prop} [Decidable c] {p : Prog S ε Unit}
    (hp : c → p.wp sem R G Q X w) (hskip : ¬ c → Q () w) : (whenever c p).wp sem R G Q X w := by
  by_cases hc : c
  · simp only [whenever, hc, ↓reduceIte]
    exact hp hc
  · simp only [whenever, hc, ↓reduceIte]
    exact hskip hc

theorem wp_ite {Q : α → σ → Prop} {c : Prop} [Decidable c] {p q : Prog S ε α}
    (hp : c → p.wp sem R G Q X w) (hq : ¬ c → q.wp sem R G Q X w) :
    (if c then p else q).wp sem R G Q X w := by
  by_cases hc : c
  · simp only [hc, ↓reduceIte]
    exact hp hc
  · simp only [hc, ↓reduceIte]
    exact hq hc

theorem wp_post {Q Q' : α → σ → Prop} {X' : ε → σ → Prop} {p : Prog S ε α}
    (h : p.wp sem R G Q X w) (hQ : ∀ a w, Q a w → Q' a w) (hX : ∀ e w, X e w → X' e w) :
    p.wp sem R G Q' X' w :=
  wp_mono h (fun _ _ h => h) (fun _ _ h => h) hQ hX

/-- A loop: the invariant is indexed by what remains of the list. -/
theorem wp_foldlM {body : γ → δ → Prog S ε γ} (I : List δ → γ → σ → Prop)
    (hbody : ∀ x xs c w, I (x :: xs) c w → (body c x).wp sem R G (I xs) X w)
    {xs : List δ} {c : γ} (h : I xs c w) :
    (xs.foldlM body c).wp sem R G (I []) X w := by
  induction xs generalizing c w with
  | nil => exact h
  | cons x xs ih =>
    simp only [List.foldlM_cons, bind_eq, wp_bind]
    exact wp_post (hbody x xs c w h) (fun _ _ hi => ih hi) (fun _ _ hx => hx)

theorem hoist_self (p : Prog S ε α) : p.hoist (fun s => s) = p := by
  induction p with
  | ret a => rfl
  | raise e => rfl
  | stmt s k ih => simp only [hoist, ih]

theorem wp_rely {Q : α → σ → Prop} {p : Prog S ε α} (h : p.wp sem R G Q X w)
    (htrans : ∀ a b c, R a b → R b c → R a c) (hQ : ∀ a b c, R b c → Q a b → Q a c)
    (hX : ∀ e b c, R b c → X e b → X e c) (hw : R w w') : p.wp sem R G Q X w' := by
  cases p with
  | ret a => exact hQ a _ _ hw h
  | raise e => exact hX e _ _ hw h
  | stmt s k => exact fun w₁ hw₁ => h w₁ (htrans _ _ _ hw hw₁)

theorem wp_step {Q : α → σ → Prop} {s : S β} {k : β → Prog S ε α}
    (h : (Prog.stmt s k).wp sem R G Q X w) (hw : R w w) (hs : sem s f w = some (b, w')) :
    G w w' ∧ (k b).wp sem R G Q X w' := h w hw f b w' hs

section Uses
variable (P : ∀ {β : Type}, S β → Prop)

/-- Every statement that the program may ever run is one of `P`. -/
def Uses : Prog S ε α → Prop
  | .ret _ => True
  | .raise _ => True
  | .stmt s k => P s ∧ ∀ b, (k b).Uses

variable {P}

@[simp] theorem uses_ret : (Prog.ret a : Prog S ε α).Uses P := trivial

@[simp] theorem uses_raise : (Prog.raise e : Prog S ε α).Uses P := trivial

theorem uses_ofExcept (x : Except ε α) : (ofExcept x : Prog S ε α).Uses P := by
  cases x with
  | ok a => trivial
  | error e => trivial

theorem uses_perform {s : S α} (h : P s) : (perform s : Prog S ε α).Uses P :=
  ⟨h, fun _ => trivial⟩

theorem uses_performOrRaise {s : S (Except ε α)} (h : P s) : (performOrRaise s).Uses P :=
  ⟨h, fun b => uses_ofExcept b⟩

theorem uses_bind {p : Prog S ε α} {f : α → Prog S ε β} (hp : p.Uses P)
    (hf : ∀ a, (f a).Uses P) : (p.bind f).Uses P := by
  induction p with
  | ret a => exact hf a
  | raise e => trivial
  | stmt s k ih => exact ⟨hp.1, fun b => ih b (hp.2 b)⟩

theorem uses_foldlM {body : κ → δ → Prog S ε κ} {xs : List δ} (c : κ)
    (hbody : ∀ x ∈ xs, ∀ c, (body c x).Uses P) : (xs.foldlM body c).Uses P := by
  induction xs generalizing c with
  | nil => trivial
  | cons x xs ih =>
    rw [List.foldlM_cons, bind_eq]
    exact uses_bind (hbody x List.mem_cons_self c) fun c' =>
      ih c' fun y hy => hbody y (List.mem_cons_of_mem _ hy)

theorem uses_attempt {p : Prog S ε α} (hp : p.Uses P) : p.attempt.Uses P := by
  induction p with
  | ret a => trivial
  | raise e => trivial
  | stmt s k ih => exact ⟨hp.1, fun b => ih b (hp.2 b)⟩

theorem uses_whenever {c : Prop} [Decidable c]
    {p : Prog S ε Unit} (h : c → p.Uses P) : (whenever c p).Uses P := by
  by_cases hc : c
  · simp only [whenever, hc, ↓reduceIte]
    exact h hc
  · simp only [whenever, hc, ↓reduceIte, Prog.uses_ret]

theorem uses_mono {P' : ∀ {β : Type}, S β → Prop} {p : Prog S ε α} (h : p.Uses P)
    (hP : ∀ {β : Type} {s : S β}, P s → P' s) : p.Uses P' := by
  induction p with
  | ret a => trivial
  | raise e => trivial
  | stmt s k ih => exact ⟨hP h.1, fun b => ih b (h.2 b)⟩

/-- What each statement keeps, the program keeps. -/
theorem wp_of_uses {I : σ → Prop} {p : Prog S ε α} (h : p.Uses P)
    (hP : ∀ {β : Type} (s : S β), P s → ∀ f w b w', I w → sem s f w = some (b, w') →
      G w w' ∧ I w') (hI : I w) : p.wp sem Eq G (fun _ => I) (fun _ => I) w := by
  induction p generalizing w with
  | ret a => exact hI
  | raise e => exact hI
  | stmt s k ih =>
    rw [wp_stmt]
    intro f b w' hs
    obtain ⟨hg, hi⟩ := hP s h.1 f w b w' hI hs
    exact ⟨hg, ih b (h.2 b) hi⟩

end Uses

/-! ## Conditions at the entry of a procedure -/

/-- The program is about to run `q`. -/
def Starts (q : Prog S ε γ) (p : Prog S ε α) : Prop := ∃ k, p = q.attempt.bind k

theorem attempt_bind (p : Prog S ε α) (f : α → Prog S ε β) :
    (p.bind f).attempt = p.attempt.bind fun
      | .ok a => (f a).attempt
      | .error e => .ret (.error e) := by
  induction p with
  | ret a => rfl
  | raise e => rfl
  | stmt s k ih => simp only [bind, attempt, ih]

theorem attempt_bind_ofExcept (p : Prog S ε α) : p.attempt.bind ofExcept = p := by
  induction p with
  | ret a => rfl
  | raise e => rfl
  | stmt s k ih => simp only [attempt, bind, ih]

theorem Starts.refl (q : Prog S ε γ) : Starts q q := ⟨ofExcept, (attempt_bind_ofExcept q).symm⟩

theorem Starts.bind {q : Prog S ε γ} {p : Prog S ε α} (h : Starts q p) (f : α → Prog S ε β) :
    Starts q (p.bind f) := by
  obtain ⟨k, rfl⟩ := h
  exact ⟨_, bind_assoc _ _ _⟩

theorem Starts.attempt {q : Prog S ε γ} {p : Prog S ε α} (h : Starts q p) :
    Starts q p.attempt := by
  obtain ⟨k, rfl⟩ := h
  rw [attempt_bind]
  have hq : ∀ r : Prog S ε γ, r.attempt.attempt = r.attempt.bind fun x => .ret (.ok x) := by
    intro r
    induction r with
    | ret a => rfl
    | raise e => rfl
    | stmt s k ih => simp only [Prog.attempt, Prog.bind, ih]
  rw [hq, bind_assoc]
  exact ⟨_, rfl⟩

/-- The first step of a program that is about to run a procedure is one of the procedure. -/
theorem Starts.step_state {q : Prog S ε γ} {p : Prog S ε α} (h : Starts q p)
    (hq : q.finished = false) (f : φ) (w : σ) :
    (p.step sem f w).2 = (q.step sem f w).2 := by
  obtain ⟨k, rfl⟩ := h
  cases q with
  | ret a => cases hq
  | raise e => cases hq
  | stmt s next =>
    simp only [Prog.attempt, Prog.bind, Prog.step]
    cases sem s f w <;> rfl

section Checked
variable (sem) {ι : Type} (q : ι → Prog S ε γ) (C : ι → σ → Prop)

/-- Where the program is about to run one of the procedures, its condition holds. -/
def Checked (p : Prog S ε α) (w : σ) : Prop := ∀ i, Starts (q i) p → C i w

/-- What holds of an undisturbed run that meets the conditions. -/
def wpChecked (G : σ → σ → Prop) (Q : α → σ → Prop) (X : ε → σ → Prop) :
    Prog S ε α → σ → Prop
  | .ret a, w => Q a w
  | .raise e, w => X e w
  | .stmt s k, w => Checked q C (.stmt s k) w → ∀ f b w', sem s f w = some (b, w') →
      G w w' ∧ (k b).wpChecked G Q X w'

variable {sem q C} {G : σ → σ → Prop} {X : ε → σ → Prop}

theorem wpChecked_of_wp {Q : α → σ → Prop} {p : Prog S ε α} (h : p.wp sem Eq G Q X w) :
    p.wpChecked sem q C G Q X w := by
  induction p generalizing w with
  | ret a => exact h
  | raise e => exact h
  | stmt s k ih =>
    intro _ f b w' hs
    obtain ⟨hg, hk⟩ := wp_stmt.1 h f b w' hs
    exact ⟨hg, ih b hk⟩

theorem wpChecked_bind {Q : β → σ → Prop} {p : Prog S ε α} {f : α → Prog S ε β}
    (h : p.wpChecked sem q C G (fun a => (f a).wpChecked sem q C G Q X) X w) :
    (p.bind f).wpChecked sem q C G Q X w := by
  induction p generalizing w with
  | ret a => exact h
  | raise e => exact h
  | stmt s k ih =>
    intro hc φ b w' hs
    obtain ⟨hg, hk⟩ := h (fun i hi => hc i (hi.bind f)) φ b w' hs
    exact ⟨hg, ih b hk⟩

theorem wpChecked_attempt {Q : Except ε α → σ → Prop} {p : Prog S ε α}
    (h : p.wpChecked sem q C G (fun a => Q (.ok a)) (fun e => Q (.error e)) w) :
    p.attempt.wpChecked sem q C G Q X w := by
  induction p generalizing w with
  | ret a => exact h
  | raise e => exact h
  | stmt s k ih =>
    intro hc φ b w' hs
    obtain ⟨hg, hk⟩ := h (fun i hi => hc i hi.attempt) φ b w' hs
    exact ⟨hg, ih b hk⟩

theorem wpChecked_post {Q Q' : α → σ → Prop} {X' : ε → σ → Prop} {p : Prog S ε α}
    (h : p.wpChecked sem q C G Q X w) (hQ : ∀ a w, Q a w → Q' a w) (hX : ∀ e w, X e w → X' e w) :
    p.wpChecked sem q C G Q' X' w := by
  induction p generalizing w with
  | ret a => exact hQ _ _ h
  | raise e => exact hX _ _ h
  | stmt s k ih =>
    intro hc φ b w' hs
    obtain ⟨hg, hk⟩ := h hc φ b w' hs
    exact ⟨hg, ih b hk⟩

theorem wpChecked_enter {Q : γ → σ → Prop} (i : ι) (hq : (q i).finished = false)
    (h : C i w → (q i).wpChecked sem q C G Q X w) : (q i).wpChecked sem q C G Q X w := by
  cases hp : q i with
  | ret a => rw [hp] at hq; cases hq
  | raise e => rw [hp] at hq; cases hq
  | stmt s k =>
    intro hc
    rw [hp] at h
    exact h (hc i (hp ▸ Starts.refl _)) hc

theorem wpChecked_step {Q : α → σ → Prop} {p : Prog S ε α} (h : p.wpChecked sem q C G Q X w)
    (hc : Checked q C p w) (hG : ∀ w, G w w) (f : φ) :
    G w (p.step sem f w).2 ∧ (p.step sem f w).1.wpChecked sem q C G Q X (p.step sem f w).2 := by
  cases p with
  | ret a => exact ⟨hG w, h⟩
  | raise e => exact ⟨hG w, h⟩
  | stmt s k =>
    rw [step]
    cases hs : sem s f w with
    | none => exact ⟨hG w, h⟩
    | some r => exact h hc f r.1 r.2 hs

end Checked

end Prog

end Library
