import AegisVPN.Library.Sessions

namespace Library
set_option autoImplicit true

namespace Contract
variable (C : Contract σ η ρ ω)

/-- The task is in a transaction over `db`. -/
structure Opened (db : σ) (w : View σ ρ) : Prop where
  committed : w.committed = db
  isOpen : w.isOpen = true
  inv : C.inv w.now db

variable {C} {op : ω}

theorem Opened.later {w : View σ ρ} (h : C.Opened db w) (ht : w.now ≤ t) :
    C.Opened db { w with now := t } := ⟨h.committed, h.isOpen, C.mono ht h.inv⟩

theorem Rely.of_opened {w w' : View σ ρ} (h : C.Opened db w) (hr : C.Rely w w') :
    ∃ t, w.now ≤ t ∧ w' = { w with now := t } := by
  cases hr with
  | later _ ht => exact ⟨_, ht, rfl⟩
  | others hc => exact absurd (h.isOpen.symm.trans hc) nofun

theorem ne_cons_self {l : List α} {a : α} : l ≠ a :: l := fun h => by
  have hl := congrArg List.length h
  rw [List.length_cons] at hl
  omega

theorem Guarantee.same {w w' : View σ ρ} (hc : w'.committed = w.committed)
    (hcalls : w'.calls = w.calls) : C.Guarantee op w w' :=
  ⟨.inl hc, fun _ h => absurd (hcalls.symm.trans h) ne_cons_self⟩

variable [DecidableEq ρ] (C)

/-- Part of a transaction over `db`, begun at view `v` and time `n`: it does not end the
transaction, and `Q` holds of its result, view and time. -/
def Within (op : ω) (p : Prog (Stmt σ η κ ρ) ε α) (Q : α → σ → Int → Prop) (db v : σ) (n : Int) :
    Prop :=
  ∀ w, C.Opened db w → w.view = v → w.now = n → p.wp (C.sem op) C.Rely (C.Guarantee op)
    (fun a w' => C.Opened db w' ∧ Q a w'.view w'.now) (fun _ w' => C.Opened db w') w

/-- The rest of a program that is in a transaction over `db`. -/
def KeepsOpen (op : ω) (p : TaskProg σ η κ ρ ε) (db v : σ) (n : Int) : Prop :=
  ∀ w, C.Opened db w → w.view = v → w.now = n → C.Keeps op p w

/-- The rest of a program that is in no transaction, from time `n` on. -/
def KeepsClosed (op : ω) (p : TaskProg σ η κ ρ ε) (n : Int) : Prop :=
  ∀ w, w.isOpen = false → w.view = w.committed → C.inv w.now w.committed → n ≤ w.now →
    C.Keeps op p w

variable {C}

/-! ## Within a transaction -/

section Within
variable {Q : α → σ → Int → Prop}

theorem within_ret (h : Q a v n) : C.Within op (.ret a : Prog (Stmt σ η κ ρ) ε α) Q db v n := by
  rintro w hw rfl rfl
  exact ⟨hw, h⟩

theorem within_raise : C.Within op (.raise e : Prog (Stmt σ η κ ρ) ε α) Q db v n :=
  fun _ hw _ _ => hw

theorem within_ofExcept {x : Except ε α} (h : ∀ a, x = .ok a → Q a v n) :
    C.Within op (Prog.ofExcept x : Prog (Stmt σ η κ ρ) ε α) Q db v n := by
  cases x with
  | ok a => exact within_ret (h a rfl)
  | error e => exact within_raise

theorem within_mono {Q' : α → σ → Int → Prop} {p : Prog (Stmt σ η κ ρ) ε α}
    (h : C.Within op p Q db v n) (hQ : ∀ a v n, Q a v n → Q' a v n) :
    C.Within op p Q' db v n := fun w hw hv hn =>
  Prog.wp_post (h w hw hv hn) (fun _ _ ⟨hw', hq⟩ => ⟨hw', hQ _ _ _ hq⟩) fun _ _ h => h

theorem within_bind {R : β → σ → Int → Prop} {p : Prog (Stmt σ η κ ρ) ε α}
    {f : α → Prog (Stmt σ η κ ρ) ε β}
    (h : C.Within op p (fun a v' n' => C.Within op (f a) R db v' n') db v n) :
    C.Within op (p.bind f) R db v n := by
  intro w hw hv hn
  rw [Prog.wp_bind]
  exact Prog.wp_post (h w hw hv hn) (fun a w' ⟨hw', hk⟩ => hk w' hw' rfl rfl) fun _ _ h => h

theorem within_attempt {p : Prog (Stmt σ η κ ρ) ε α} {R : Except ε α → σ → Int → Prop}
    (h : C.Within op p (fun a => R (.ok a)) db v n) (he : ∀ e v n, R (.error e) v n) :
    C.Within op p.attempt R db v n := by
  intro w hw hv hn
  rw [Prog.wp_attempt]
  exact Prog.wp_post (h w hw hv hn) (fun _ _ h => h) fun e _ hw' => ⟨hw', he e _ _⟩

theorem within_whenever {Q : Unit → σ → Int → Prop} {c : Prop} [Decidable c]
    {p : Prog (Stmt σ η κ ρ) ε Unit} (h : c → C.Within op p Q db v n) (hskip : ¬ c → Q () v n) :
    C.Within op (Prog.whenever c p) Q db v n := by
  by_cases hc : c
  · simp only [Prog.whenever, hc, ↓reduceIte]
    exact h hc
  · simp only [Prog.whenever, hc, ↓reduceIte]
    exact within_ret (hskip hc)

theorem within_perform {s : Stmt σ η κ ρ α}
    (h : ∀ w f a w', n ≤ w.now → C.Opened db w → w.view = v →
      alone C.watches s f w = some (a, w') →
      C.Guarantee op w w' ∧ C.Opened db w' ∧ Q a w'.view w'.now) (he : s.ends = false) :
    C.Within op (Prog.perform s : Prog (Stmt σ η κ ρ) ε α) Q db v n := by
  rintro w hw hv rfl w₁ hr f a w' hs
  obtain ⟨t, ht, rfl⟩ := hr.of_opened hw
  exact h _ f a w' ht (hw.later ht) hv ((sem_of_allows (allows_of_not_ends he)).symm.trans hs)

theorem within_clock {Q : Int → σ → Int → Prop} (h : ∀ n', n ≤ n' → ∀ t ≤ n', Q t v n') :
    C.Within op (Prog.perform .clock : Prog (Stmt σ η κ ρ) ε Int) Q db v n := by
  refine within_perform (fun w f a w' hn hw hv hs => ?_) rfl
  simp only [alone] at hs
  split at hs
  · rename_i ht
    cases hs
    exact ⟨.same rfl rfl, hw, hv ▸ h _ hn _ ht⟩
  · cases hs

theorem within_ask {Q : String → σ → Int → Prop} (h : ∀ n', n ≤ n' → ∀ text, Q text v n') :
    C.Within op (Prog.perform .ask : Prog (Stmt σ η κ ρ) ε String) Q db v n := by
  refine within_perform (fun w f a w' hn hw hv hs => ?_) rfl
  cases hs
  exact ⟨.same rfl rfl, hw, hv ▸ h _ hn _⟩

theorem within_select {source : η} {q : σ → α}
    (h : ∀ n', n ≤ n' → ∀ d, (C.watches source = true → d = v) → Q (q d) v n') :
    C.Within op (Prog.perform (.select source q) : Prog (Stmt σ η κ ρ) ε α) Q db v n := by
  refine within_perform (fun w f a w' hn hw hv hs => ?_) rfl
  simp only [alone, Option.some.injEq, Prod.mk.injEq] at hs
  obtain ⟨rfl, rfl⟩ := hs
  refine ⟨.same rfl rfl, ⟨hw.committed, rfl, hw.inv⟩, ?_⟩
  subst hv
  split
  · exact h _ hn _ fun _ => rfl
  · rename_i hns
    exact h _ hn _ fun hc => absurd hc hns

theorem within_execute {u : σ → α × σ} (h : ∀ n', n ≤ n' → Q (u v).1 (u v).2 n') :
    C.Within op (Prog.perform (.execute u) : Prog (Stmt σ η κ ρ) ε α) Q db v n := by
  refine within_perform (fun w f a w' hn hw hv hs => ?_) rfl
  cases hs
  exact ⟨.same rfl rfl, ⟨hw.committed, rfl, hw.inv⟩, hv ▸ h _ hn⟩

theorem within_acquire {Q : Unit → σ → Int → Prop} {k : κ} (h : ∀ n', n ≤ n' → Q () v n') :
    C.Within op (Prog.perform (.acquire k) : Prog (Stmt σ η κ ρ) ε Unit) Q db v n := by
  refine within_perform (fun w f a w' hn hw hv hs => ?_) rfl
  cases hs
  exact ⟨.same rfl rfl, hw, hv ▸ h _ hn⟩

theorem within_release {Q : Unit → σ → Int → Prop} {k : κ} (h : ∀ n', n ≤ n' → Q () v n') :
    C.Within op (Prog.perform (.release k) : Prog (Stmt σ η κ ρ) ε Unit) Q db v n := by
  refine within_perform (fun w f a w' hn hw hv hs => ?_) rfl
  cases hs
  exact ⟨.same rfl rfl, hw, hv ▸ h _ hn⟩

theorem within_call {Q : Bool → σ → Int → Prop} {c : ρ} (hc : C.guarded c → C.sends c db)
    (h : ∀ n', n ≤ n' → ∀ reply, Q reply v n') :
    C.Within op (Prog.perform (.call c) : Prog (Stmt σ η κ ρ) ε Bool) Q db v n := by
  refine within_perform (fun w f a w' hn hw hv hs => ?_) rfl
  cases hs
  refine ⟨⟨.inl rfl, fun c' hc' hg => ?_⟩, ⟨hw.committed, hw.isOpen, hw.inv⟩, hv ▸ h _ hn _⟩
  obtain rfl : c' = c := by
    simp only [List.cons.injEq, and_true] at hc'
    exact hc'.symm
  exact hw.committed ▸ hc hg

theorem within_orRaise {s : Stmt σ η κ ρ (Except ε α)}
    (h : C.Within op (Prog.perform s : Prog (Stmt σ η κ ρ) ε (Except ε α))
      (fun x v' n' => ∀ a, x = .ok a → Q a v' n') db v n) :
    C.Within op (Prog.performOrRaise s) Q db v n :=
  within_bind (f := Prog.ofExcept) (within_mono h fun _ _ _ => within_ofExcept)

end Within

/-! ## To the end of a transaction -/

theorem keepsOpen_ret : C.KeepsOpen op (.ret () : TaskProg σ η κ ρ ε) db v n :=
  fun _ _ _ _ => trivial

theorem keepsOpen_raise : C.KeepsOpen op (.raise e : TaskProg σ η κ ρ ε) db v n :=
  fun _ _ _ _ => trivial

theorem keepsOpen_bind {p : Prog (Stmt σ η κ ρ) ε α} {f : α → TaskProg σ η κ ρ ε}
    (h : C.Within op p (fun a v' n' => C.KeepsOpen op (f a) db v' n') db v n) :
    C.KeepsOpen op (p.bind f) db v n := by
  intro w hw hv hn
  unfold Keeps
  rw [Prog.wp_bind]
  exact Prog.wp_post (h w hw hv hn) (fun a w' ⟨hw', hk⟩ => hk w' hw' rfl rfl) fun _ _ _ => trivial

theorem keepsOpen_commit {k : Unit → TaskProg σ η κ ρ ε}
    (h : ∀ n', n ≤ n' → C.inv n' db → C.may op n' db v → C.inv n' v ∧ C.change op db v)
    (hk : ∀ n', n ≤ n' → C.inv n' v → C.Keeps op (k ()) (View.start v next n')) :
    C.KeepsOpen op ((Prog.perform (.commit next)).bind k) db v n := by
  rintro w hw rfl rfl w₁ hr f b w' hs
  obtain ⟨t, ht, rfl⟩ := hr.of_opened hw
  by_cases hmay : C.Allows op (.commit next : Stmt σ η κ ρ Unit) { w with now := t }
  · obtain hs := (sem_of_allows hmay).symm.trans hs
    cases hs
    obtain ⟨hi, hc⟩ := h t ht (C.mono ht hw.inv) (hw.committed ▸ allows_commit.1 hmay)
    exact ⟨⟨.inr ⟨hi, hw.committed.symm ▸ hc⟩, nofun⟩, hk t ht hi⟩
  · cases (sem_of_not_allows hmay).symm.trans hs

theorem KeepsClosed.start {p : TaskProg σ η κ ρ ε} (h : C.KeepsClosed op p n) (hn : n ≤ n')
    (hi : C.inv n' v) : C.Keeps op p (View.start v next n') := h _ rfl rfl hi hn

theorem keepsOpen_rollback {k : Unit → TaskProg σ η κ ρ ε} (hk : C.KeepsClosed op (k ()) n) :
    C.KeepsOpen op ((Prog.perform .rollback).bind k) db v n := by
  rintro w hw hv rfl w₁ hr f b w' hs
  obtain ⟨t, ht, rfl⟩ := hr.of_opened hw
  have hallows : C.Allows op (.rollback : Stmt σ η κ ρ Unit) { w with now := t } := trivial
  obtain hs := (sem_of_allows hallows).symm.trans hs
  cases hs
  refine ⟨⟨.inl rfl, nofun⟩, hk _ rfl rfl ?_ ht⟩
  exact C.mono ht (hw.committed.symm ▸ hw.inv)

/-! ## From outside a transaction -/

theorem keepsClosed_ret : C.KeepsClosed op (.ret () : TaskProg σ η κ ρ ε) n :=
  fun _ _ _ _ _ => trivial

theorem KeepsClosed.later {p : TaskProg σ η κ ρ ε} (h : C.KeepsClosed op p n) (hn : n ≤ n') :
    C.KeepsClosed op p n' := fun w hc hv hi ht => h w hc hv hi (Int.le_trans hn ht)

theorem KeepsClosed.from {p : TaskProg σ η κ ρ ε} (h : ∀ n, C.KeepsClosed op p n) :
    C.KeepsFrom op p := fun _ now hi => h now _ rfl rfl hi (Int.le_refl now)

theorem keepsClosed_perform {s : Stmt σ η κ ρ α} {k : α → TaskProg σ η κ ρ ε}
    (h : ∀ w f a w', w.isOpen = false → w.view = w.committed → C.inv w.now w.committed →
      n ≤ w.now → alone C.watches s f w = some (a, w') →
      C.Guarantee op w w' ∧ C.Keeps op (k a) w') (he : s.ends = false) :
    C.KeepsClosed op ((Prog.perform s).bind k) n := by
  intro w hc hv hi hn w₁ hr f a w' hs
  obtain hs := (sem_of_allows (allows_of_not_ends he)).symm.trans hs
  cases hr with
  | later ho => exact absurd (ho.symm.trans hc) nofun
  | others _ ht hdb _ => exact h _ f a w' hc rfl hdb (Int.le_trans hn ht) hs

theorem keepsClosed_clock {k : Int → TaskProg σ η κ ρ ε} (h : ∀ t, C.KeepsClosed op (k t) t) :
    C.KeepsClosed op ((Prog.perform .clock).bind k) n := by
  refine keepsClosed_perform (fun w f a w' hc hv hi hn hs => ?_) rfl
  simp only [alone] at hs
  split at hs
  · rename_i ht
    cases hs
    exact ⟨.same rfl rfl, h _ _ hc hv hi ht⟩
  · cases hs

theorem keepsClosed_ask {k : String → TaskProg σ η κ ρ ε}
    (h : ∀ text, C.KeepsClosed op (k text) n) :
    C.KeepsClosed op ((Prog.perform .ask).bind k) n := by
  refine keepsClosed_perform (fun w f a w' hc hv hi hn hs => ?_) rfl
  cases hs
  exact ⟨.same rfl rfl, h _ _ hc hv hi hn⟩

theorem keepsClosed_release {l : κ} {k : Unit → TaskProg σ η κ ρ ε}
    (h : C.KeepsClosed op (k ()) n) :
    C.KeepsClosed op ((Prog.perform (.release l)).bind k) n := by
  refine keepsClosed_perform (fun w f a w' hc hv hi hn hs => ?_) rfl
  cases hs
  exact ⟨.same rfl rfl, h _ hc hv hi hn⟩

theorem keepsClosed_select {source : η} {q : σ → α} {k : α → TaskProg σ η κ ρ ε}
    (h : ∀ db n', n ≤ n' → C.inv n' db → ∀ d, (C.watches source = true → d = db) →
      C.KeepsOpen op (k (q d)) db db n') :
    C.KeepsClosed op ((Prog.perform (.select source q)).bind k) n := by
  refine keepsClosed_perform (fun w f a w' hc hv hi hn hs => ?_) rfl
  simp only [alone, Option.some.injEq, Prod.mk.injEq] at hs
  obtain ⟨rfl, rfl⟩ := hs
  refine ⟨.same rfl rfl, ?_⟩
  split
  · exact h _ _ hn hi _ (fun _ => hv) _ ⟨rfl, rfl, hi⟩ hv rfl
  · rename_i hns
    exact h _ _ hn hi _ (fun hw => absurd hw hns) _ ⟨rfl, rfl, hi⟩ hv rfl

/-! ## What statements leave alone -/

/-- A statement that keeps `E` between views and makes no guarded call. -/
def Quiet (C : Contract σ η ρ ω) (E : σ → σ → Prop) (s : Stmt σ η κ ρ β) : Prop :=
  match s with
  | .execute u => ∀ db, E db (u db).2
  | .call c => ¬ C.guarded c
  | _ => True

omit [DecidableEq ρ] in
theorem quiet_commit : C.Quiet E (.commit next : Stmt σ η κ ρ Unit) := trivial

omit [DecidableEq ρ] in
theorem quiet_rollback : C.Quiet E (.rollback : Stmt σ η κ ρ Unit) := trivial

/-- Such a statement inside a transaction. -/
def Frames (C : Contract σ η ρ ω) (E : σ → σ → Prop) (s : Stmt σ η κ ρ β) : Prop :=
  s.ends = false ∧ C.Quiet E s

/-- Statements that keep `E` take a transaction to a view that `E` allows, at a later time. -/
theorem within_of_uses {E : σ → σ → Prop} (hrefl : ∀ d, E d d)
    (htrans : ∀ a b c, E a b → E b c → E a c) {p : Prog (Stmt σ η κ ρ) ε α}
    (h : p.Uses (C.Frames E)) :
    C.Within op p (fun _ v' n' => E v v' ∧ n ≤ n') db v n := by
  induction p generalizing v n with
  | ret a => exact within_ret ⟨hrefl v, Int.le_refl n⟩
  | raise e => exact within_raise
  | @stmt β s k ih =>
    obtain ⟨⟨he, hs⟩, hk⟩ := h
    change C.Within op ((Prog.perform s).bind k) _ db v n
    refine within_bind (within_mono (Q := fun _ v' n' => E v v' ∧ n ≤ n') ?_
      fun b v' n' ⟨hv, hn⟩ => ?_)
    · cases s with
      | clock => exact within_clock fun _ hn _ _ => ⟨hrefl v, hn⟩
      | ask => exact within_ask fun _ hn _ => ⟨hrefl v, hn⟩
      | select source q => exact within_select fun _ hn _ _ => ⟨hrefl v, hn⟩
      | execute u => exact within_execute fun _ hn => ⟨hs v, hn⟩
      | commit next => cases he
      | rollback => cases he
      | acquire l => exact within_acquire fun _ hn => ⟨hrefl v, hn⟩
      | release l => exact within_release fun _ hn => ⟨hrefl v, hn⟩
      | call c => exact within_call (fun hg => absurd hg hs) fun _ hn _ => ⟨hrefl v, hn⟩
    · exact within_mono (ih b (hk b)) fun _ _ _ ⟨hv', hn'⟩ =>
        ⟨htrans _ _ _ hv hv', Int.le_trans hn hn'⟩

/-- A program of quiet statements keeps the contract, with its commits and rollbacks. -/
theorem keepsFrom_of_quiet {E : σ → σ → Prop} (hrefl : ∀ d, E d d)
    (htrans : ∀ a b c, E a b → E b c → E a c)
    (hE : ∀ n a b, C.inv n a → E a b → C.inv n b ∧ C.change op a b)
    {p : TaskProg σ η κ ρ ε} (h : p.Uses (C.Quiet E)) : C.KeepsFrom op p := by
  have hall : ∀ w, (w.isOpen = false → w.view = w.committed) → C.inv w.now w.committed →
      E w.committed w.view → C.Keeps op p w := by
    induction p with
    | ret a => exact fun _ _ _ _ => trivial
    | raise e => exact fun _ _ _ _ => trivial
    | @stmt β s k ih =>
      intro w hc hi he w₁ hr f b w' hs
      have hw₁ : (w₁.isOpen = false → w₁.view = w₁.committed) ∧ C.inv w₁.now w₁.committed ∧
          E w₁.committed w₁.view := by
        cases hr with
        | later ho ht => exact ⟨fun h => absurd (ho.symm.trans h) (by decide), C.mono ht hi, he⟩
        | others _ _ hdb _ => exact ⟨fun _ => rfl, hdb, hrefl _⟩
      obtain ⟨hc₁, hi₁, he₁⟩ := hw₁
      by_cases hallows : C.Allows op s w₁
      · obtain hs := (sem_of_allows hallows).symm.trans hs
        have hnext := ih b (h.2 b) w'
        have hquiet := h.1
        cases s with
        | clock =>
          simp only [alone] at hs
          split at hs
          · cases hs
            exact ⟨.same rfl rfl, hnext hc₁ hi₁ he₁⟩
          · cases hs
        | ask => cases hs; exact ⟨.same rfl rfl, hnext hc₁ hi₁ he₁⟩
        | select source q =>
          cases hs
          exact ⟨.same rfl rfl, hnext (fun h => absurd h.symm Bool.false_ne_true) hi₁ he₁⟩
        | execute u =>
          cases hs
          exact ⟨.same rfl rfl, hnext (fun h => absurd h.symm Bool.false_ne_true) hi₁
            (htrans _ _ _ he₁ (hquiet _))⟩
        | commit next =>
          cases hs
          obtain ⟨hi', hchange⟩ := hE _ _ _ hi₁ he₁
          exact ⟨⟨.inr ⟨hi', hchange⟩, fun _ h => absurd h (List.cons_ne_nil _ _).symm⟩,
            hnext (fun _ => rfl) hi' (hrefl _)⟩
        | rollback =>
          cases hs
          exact ⟨⟨.inl rfl, fun _ h => absurd h (List.cons_ne_nil _ _).symm⟩,
            hnext (fun _ => rfl) hi₁ (hrefl _)⟩
        | acquire l => cases hs; exact ⟨.same rfl rfl, hnext hc₁ hi₁ he₁⟩
        | release l => cases hs; exact ⟨.same rfl rfl, hnext hc₁ hi₁ he₁⟩
        | call c =>
          cases hs
          refine ⟨⟨.inl rfl, fun c' hc' hg => ?_⟩, hnext hc₁ hi₁ he₁⟩
          simp only [List.cons.injEq, and_true] at hc'
          exact absurd (hc' ▸ hg) hquiet
      · cases (sem_of_not_allows hallows).symm.trans hs
  exact fun db now hi => hall _ (fun _ => rfl) hi (hrefl db)

theorem afterRollback_of_quiet {E : σ → σ → Prop} (hrefl : ∀ d, E d d)
    (htrans : ∀ a b c, E a b → E b c → E a c)
    (hE : ∀ n a b, C.inv n a → E a b → C.inv n b ∧ C.change op a b)
    {p : TaskProg σ η κ ρ ε} (h : p.Uses (C.Quiet E)) : p.AfterRollback (C.KeepsFrom op) := by
  induction p with
  | ret a => trivial
  | raise e => trivial
  | stmt s k ih =>
    exact fun b => ⟨fun _ => keepsFrom_of_quiet hrefl htrans hE (h.2 b), ih b (h.2 b)⟩

end Contract

/-! ## Rollbacks -/

/-- The program never rolls back by itself. -/
def NoRollback (s : Stmt σ η κ ρ β) : Prop := s.isRollback = false

theorem noRollback_execute {u : σ → α × σ} : NoRollback (.execute u : Stmt σ η κ ρ α) := rfl

theorem noRollback_commit : NoRollback (.commit next : Stmt σ η κ ρ Unit) := rfl

namespace Prog
variable {X : Prog (Stmt σ η κ ρ) ε α → Prop}

theorem afterRollback_of_uses {p : Prog (Stmt σ η κ ρ) ε α} (h : p.Uses NoRollback) :
    p.AfterRollback X := by
  induction p with
  | ret a => trivial
  | raise e => trivial
  | stmt s k ih =>
    exact fun b => ⟨fun hr => absurd (h.1.symm.trans hr) nofun, ih b (h.2 b)⟩

theorem afterRollback_bind {p : Prog (Stmt σ η κ ρ) ε β} {f : β → Prog (Stmt σ η κ ρ) ε α}
    (hp : p.AfterRollback fun q => X (q.bind f)) (hf : ∀ b, (f b).AfterRollback X) :
    (p.bind f).AfterRollback X := by
  induction p with
  | ret b => exact hf b
  | raise e => trivial
  | stmt s k ih => exact fun b => ⟨(hp b).1, ih b (hp b).2⟩

end Prog

end Library
