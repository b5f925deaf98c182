import AegisVPN.Library.Sessions

namespace Library
set_option autoImplicit true

/-! ## One lock and one transaction -/

/-- How far a task is that runs one transaction and takes one lock, before its first write or
after it. -/
inductive Stage (κ : Type)
  | outside
  | claimed
  | inside (l : κ)
  | writing (l : κ)
  | done (l : κ)
  | passed
  deriving DecidableEq

/-- A statement that neither ends the transaction nor takes or returns a lock. -/
def Stmt.inner : Stmt σ η κ ρ β → Bool
  | .commit _ => false
  | .rollback => false
  | .acquire _ => false
  | .release _ => false
  | _ => true

namespace Stage

def lock : Stage κ → Option κ
  | .inside l => some l
  | .writing l => some l
  | .done l => some l
  | _ => none

/-- It has written, and not ended its transaction. -/
def wrote : Stage κ → Bool
  | .claimed => true
  | .writing _ => true
  | _ => false

/-- It has ended its transaction, and writes no more. -/
def settled : Stage κ → Bool
  | .done _ => true
  | .passed => true
  | _ => false

def write : Stage κ → Option (Stage κ)
  | .outside => some .claimed
  | .inside l => some (.writing l)
  | .writing l => some (.writing l)
  | _ => none

def end? : Stage κ → Option (Stage κ)
  | .inside l => some (.done l)
  | .writing l => some (.done l)
  | .done l => some (.done l)
  | .passed => none
  | _ => some .passed

def acquire (l : κ) : Stage κ → Option (Stage κ)
  | .outside => some (.inside l)
  | .claimed => some (.writing l)
  | _ => none

/-- A statement that has its answer from outside. -/
def talk : Stage κ → Option (Stage κ)
  | .claimed => none
  | stage => some stage

/-- The stage after a statement; `none` if the statement is out of place. -/
def next [DecidableEq κ] (stage : Stage κ) : Stmt σ η κ ρ β → Option (Stage κ)
  | .select _ _ => some stage
  | .execute _ => stage.write
  | .commit _ => stage.end?
  | .rollback => stage.end?
  | .acquire l => stage.acquire l
  | .release l => if stage.lock = some l then some .passed else none
  | _ => stage.talk

theorem next_inner [DecidableEq κ] {s : Stmt σ η κ ρ β} (hs : s.inner = true) {stage : Stage κ}
    (h : stage = .inside l ∨ stage = .writing l) :
    ∃ stage', stage.next s = some stage' ∧ (stage' = .inside l ∨ stage' = .writing l) := by
  rcases h with rfl | rfl
  · cases s with
    | execute u => exact ⟨.writing l, rfl, .inr rfl⟩
    | commit next => cases hs
    | rollback => cases hs
    | acquire l => cases hs
    | release l => cases hs
    | _ => exact ⟨.inside l, rfl, .inl rfl⟩
  · cases s with
    | commit next => cases hs
    | rollback => cases hs
    | acquire l => cases hs
    | release l => cases hs
    | _ => exact ⟨.writing l, rfl, .inr rfl⟩

end Stage

/-! ## Programs that keep to the stages -/

namespace Prog
section Abides
variable [DecidableEq κ]

/-- Every statement is in its place; `Q` holds after a return and `X` after an exception. -/
def Abides (Q : α → Stage κ → Prop) (X : ε → Stage κ → Prop) :
    Prog (Stmt σ η κ ρ) ε α → Stage κ → Prop
  | .ret a, stage => Q a stage
  | .raise e, stage => X e stage
  | .stmt s k, stage => ∃ stage', stage.next s = some stage' ∧ ∀ b, (k b).Abides Q X stage'

/-- A program that ends without its lock. -/
abbrev Follows (p : Prog (Stmt σ η κ ρ) ε α) (stage : Stage κ) : Prop :=
  p.Abides (fun _ stage => stage.lock = none) (fun _ stage => stage.lock = none) stage

variable {X : ε → Stage κ → Prop} {stage : Stage κ}

theorem abides_bind {Q : β → Stage κ → Prop} {p : Prog (Stmt σ η κ ρ) ε α}
    {f : α → Prog (Stmt σ η κ ρ) ε β} (h : p.Abides (fun a => (f a).Abides Q X) X stage) :
    (p.bind f).Abides Q X stage := by
  induction p generalizing stage with
  | ret a => exact h
  | raise e => exact h
  | stmt s k ih =>
    obtain ⟨stage', hs, hk⟩ := h
    exact ⟨stage', hs, fun b => ih b (hk b)⟩

theorem abides_attempt {Q : Except ε α → Stage κ → Prop} {p : Prog (Stmt σ η κ ρ) ε α}
    (h : p.Abides (fun a => Q (.ok a)) (fun e => Q (.error e)) stage) :
    p.attempt.Abides Q X stage := by
  induction p generalizing stage with
  | ret a => exact h
  | raise e => exact h
  | stmt s k ih =>
    obtain ⟨stage', hs, hk⟩ := h
    exact ⟨stage', hs, fun b => ih b (hk b)⟩

theorem abides_perform {Q : α → Stage κ → Prop} {s : Stmt σ η κ ρ α}
    (stage' : Stage κ) (hs : stage.next s = some stage') (h : ∀ a, Q a stage') :
    (perform s : Prog (Stmt σ η κ ρ) ε α).Abides Q X stage := ⟨stage', hs, h⟩

theorem abides_ofExcept {Q : α → Stage κ → Prop} {x : Except ε α} (h : ∀ a, Q a stage)
    (hx : ∀ e, X e stage) : (ofExcept x : Prog (Stmt σ η κ ρ) ε α).Abides Q X stage := by
  cases x with
  | ok a => exact h a
  | error e => exact hx e

theorem abides_performOrRaise {Q : α → Stage κ → Prop} {s : Stmt σ η κ ρ (Except ε α)}
    (stage' : Stage κ) (hs : stage.next s = some stage') (h : ∀ a, Q a stage')
    (hx : ∀ e, X e stage') : (performOrRaise s).Abides Q X stage :=
  ⟨stage', hs, fun _ => abides_ofExcept h hx⟩

/-- Statements that stay within some stages. -/
theorem abides_of_uses {P : ∀ {β : Type}, Stmt σ η κ ρ β → Prop} {I : Stage κ → Prop}
    {p : Prog (Stmt σ η κ ρ) ε α} (h : p.Uses P)
    (hP : ∀ {β : Type} (s : Stmt σ η κ ρ β), P s → ∀ stage, I stage →
      ∃ stage', stage.next s = some stage' ∧ I stage') (hI : I stage) :
    p.Abides (fun _ => I) (fun _ => I) stage := by
  induction p generalizing stage with
  | ret a => exact hI
  | raise e => exact hI
  | stmt s k ih =>
    obtain ⟨stage', hs, hI'⟩ := hP s h.1 stage hI
    exact ⟨stage', hs, fun b => ih b (h.2 b) hI'⟩

theorem abides_mono {Q Q' : α → Stage κ → Prop} {X' : ε → Stage κ → Prop}
    {p : Prog (Stmt σ η κ ρ) ε α} (h : p.Abides Q X stage) (hQ : ∀ a s, Q a s → Q' a s)
    (hX : ∀ e s, X e s → X' e s) : p.Abides Q' X' stage := by
  induction p generalizing stage with
  | ret a => exact hQ a _ h
  | raise e => exact hX e _ h
  | stmt s k ih =>
    obtain ⟨stage', hs, hk⟩ := h
    exact ⟨stage', hs, fun b => ih b (hk b)⟩

end Abides

/-! ## What a program asks for -/

/-- The lock that a program asks for before it ends its transaction, or calls, or waits for an
answer from outside, if it finds `d`. -/
def wants : Prog (Stmt σ η κ ρ) ε α → σ → Option κ
  | .stmt (.acquire l) _, _ => some l
  | .stmt (.select _ q) k, d => (k (q d)).wants d
  | .stmt (.execute u) k, d => (k (u d).1).wants (u d).2
  | _, _ => none

/-- The lock that a program asks for now. -/
def asks : Prog (Stmt σ η κ ρ) ε α → Option κ
  | .stmt (.acquire l) _ => some l
  | _ => none

def writesNext : Prog (Stmt σ η κ ρ) ε α → Bool
  | .stmt (.execute _) _ => true
  | _ => false

theorem wants_of_asks {p : Prog (Stmt σ η κ ρ) ε α} (h : p.asks = some l) (d : σ) :
    p.wants d = some l := by
  cases p with
  | ret a => cases h
  | raise e => cases h
  | stmt s k =>
    cases s with
    | acquire l => exact h
    | _ => cases h

theorem stage_of_wants [DecidableEq κ] {Q : α → Stage κ → Prop} {X : ε → Stage κ → Prop}
    {p : Prog (Stmt σ η κ ρ) ε α} {stage : Stage κ} (h : p.Abides Q X stage)
    (hw : p.wants d = some l) : stage = .outside ∨ stage = .claimed := by
  induction p generalizing stage d with
  | ret a => cases hw
  | raise e => cases hw
  | stmt s k ih =>
    obtain ⟨stage', hs, hk⟩ := h
    cases s with
    | acquire l =>
      cases stage with
      | outside => exact .inl rfl
      | claimed => exact .inr rfl
      | _ => cases hs
    | select source q =>
      cases hs
      exact ih _ (hk _) hw
    | execute u =>
      rcases ih _ (hk _) hw with rfl | rfl
      · cases stage <;> cases hs
      · cases stage with
        | outside => exact .inl rfl
        | _ => cases hs
    | _ => cases hw

end Prog

/-! ## Pools -/

namespace Pool

/-- Some task is the writer and waits for a lock, and the task that has the lock waits to
write. -/
def CircularWait (P : Pool σ η κ ρ τ ω ε) : Prop :=
  ∃ i j t t' l, P.tasks[i]? = some t ∧ P.tasks[j]? = some t' ∧ i ≠ j ∧ P.writer = some i ∧
    t.prog.asks = some l ∧ (l, j) ∈ P.locks ∧ t'.prog.writesNext = true

/-- Task `i` has committed before. -/
def Committed (P : Pool σ η κ ρ τ ω ε) (i : Nat) : Prop := ∃ e ∈ P.log, e.task = i

/-- The condition on the next step of task `i`: it does not write on its way to a lock that is
taken by a task which has not committed yet, and it does not take the lock that the writer is on
its way to. -/
structure Orderly (P : Pool σ η κ ρ τ ω ε) (i : Nat) : Prop where
  write : ∀ t l j, P.tasks[i]? = some t → t.prog.writesNext = true →
    t.prog.wants (t.writes P.db) = some l → (l, j) ∈ P.locks → j ≠ i → P.Committed j
  lock : ∀ t l j t', P.tasks[i]? = some t → t.prog.asks = some l → P.writer = some j → j ≠ i →
    P.tasks[j]? = some t' → t'.prog.wants (t'.writes P.db) ≠ some l

/-- What a step of task `i` leaves to the others. -/
structure Apart (P P' : Pool σ η κ ρ τ ω ε) (i : Nat) : Prop where
  db : P.writer ≠ some i → P'.db = P.db
  locks : ∀ l j, j ≠ i → ((l, j) ∈ P'.locks ↔ (l, j) ∈ P.locks)
  writer : ∀ j, j ≠ i → (P'.writer = some j ↔ P.writer = some j)
  committed : ∀ j, j ≠ i → (P'.Committed j ↔ P.Committed j)
  kept : P.Committed i → P'.Committed i

variable {P P' : Pool σ η κ ρ τ ω ε}

theorem Apart.refl (P : Pool σ η κ ρ τ ω ε) (i : Nat) : Apart P P i :=
  ⟨fun _ => rfl, fun _ _ _ => .rfl, fun _ _ => .rfl, fun _ _ => .rfl, id⟩

theorem freeWriter_eq : P.freeWriter i = some j ↔ P.writer = some j ∧ j ≠ i := by
  unfold freeWriter
  split
  · rename_i h
    rw [h]
    constructor
    · exact nofun
    · rintro ⟨hj, hne⟩
      exact absurd (Option.some.inj hj).symm hne
  · rename_i h
    constructor
    · intro hj
      refine ⟨hj, ?_⟩
      rintro rfl
      exact h hj
    · exact And.left

theorem committed_append {e : Transaction σ η κ ρ ω ε} (hlog : P'.log = P.log ++ [e]) :
    P'.Committed j ↔ P.Committed j ∨ e.task = j := by
  simp only [Committed, hlog, List.mem_append, List.mem_singleton]
  constructor
  · rintro ⟨e', he | rfl, hj⟩
    · exact .inl ⟨e', he, hj⟩
    · exact .inr hj
  · rintro (⟨e', he, hj⟩ | hj)
    · exact ⟨e', .inl he, hj⟩
    · exact ⟨e, .inr rfl, hj⟩

section Placed
variable [DecidableEq κ]

/-- Where task `i` is. -/
structure Placed (P : Pool σ η κ ρ τ ω ε) (i : Nat) (t : Task σ η κ ρ ω ε) (stage : Stage κ) :
    Prop where
  follows : t.prog.Follows stage
  held : ∀ l, (l, i) ∈ P.locks → stage.lock = some l
  clean : P.writer ≠ some i → t.writes = id
  wrote : stage.wrote = true → P.writer = some i
  outside : stage = .outside → P.writer ≠ some i
  settled : P.Committed i → stage.settled = true

/-- Every task is at some stage, and who has the lock that the writer wants writes no more. -/
structure Ordered (P : Pool σ η κ ρ τ ω ε) : Prop where
  placed : ∀ i t, P.tasks[i]? = some t → ∃ stage, P.Placed i t stage
  owners : ∀ l i, (l, i) ∈ P.locks → i < P.tasks.length
  writer : ∀ i, P.writer = some i → i < P.tasks.length
  committed : ∀ i, P.Committed i → i < P.tasks.length
  wants : ∀ i t l j, P.writer = some i → P.tasks[i]? = some t →
    t.prog.wants (t.writes P.db) = some l → (l, j) ∈ P.locks → P.Committed j

theorem Placed.apart (h : P.Placed j t stage) (ha : Apart P P' i) (hne : j ≠ i) :
    P'.Placed j t stage where
  follows := h.follows
  held l hl := h.held l ((ha.locks l j hne).1 hl)
  clean hw := h.clean fun hold => hw ((ha.writer j hne).2 hold)
  wrote hs := (ha.writer j hne).2 (h.wrote hs)
  outside hs hw := h.outside hs ((ha.writer j hne).1 hw)
  settled hc := h.settled ((ha.committed j hne).1 hc)

theorem Placed.claimed (h : P.Placed i t stage) (hw : P.writer = some i)
    (hl : t.prog.wants d = some l) : stage = .claimed :=
  (Prog.stage_of_wants h.follows hl).resolve_left fun ho => h.outside ho hw

theorem placed_passed {t : Task σ η κ ρ ω ε} (hf : t.prog.finished = true) (hwrites : t.writes = id)
    (hlocks : ∀ l, (l, i) ∉ P.locks) : P.Placed i t .passed := by
  refine ⟨?_, fun l hl => absurd hl (hlocks l), fun _ => hwrites, nofun, nofun, fun _ => rfl⟩
  cases hp : t.prog with
  | stmt s k =>
    rw [hp] at hf
    cases hf
  | _ => rfl

theorem Ordered.set (h : P.Ordered) (ha : Apart P P' i) (hi : i < P.tasks.length)
    (htasks : P'.tasks = P.tasks.set i t₁) (hplaced : P'.Placed i t₁ stage₁)
    (hown : ∀ l j, P'.writer = some i → t₁.prog.wants (t₁.writes P'.db) = some l →
      (l, j) ∈ P'.locks → P'.Committed j)
    (hlock : ∀ l, (l, i) ∈ P'.locks → (l, i) ∉ P.locks → ∀ j t', P.writer = some j → j ≠ i →
      P.tasks[j]? = some t' → t'.prog.wants (t'.writes P.db) ≠ some l) : P'.Ordered := by
  have hlength : P'.tasks.length = P.tasks.length := by rw [htasks, List.length_set]
  refine ⟨fun j t hj => ?_, fun l j hl => ?_, fun j hw => ?_, fun j hc => ?_,
    fun j t l k hw hj hwants hl => ?_⟩
  · rw [htasks] at hj
    rcases set_getElem? hj with ⟨rfl, rfl⟩ | ⟨hne, hj⟩
    · exact ⟨stage₁, hplaced⟩
    · obtain ⟨stage, hs⟩ := h.placed j t hj
      exact ⟨stage, hs.apart ha hne⟩
  · rw [hlength]
    by_cases hj : j = i
    · exact hj ▸ hi
    · exact h.owners l j ((ha.locks l j hj).1 hl)
  · rw [hlength]
    by_cases hj : j = i
    · exact hj ▸ hi
    · exact h.writer j ((ha.writer j hj).1 hw)
  · rw [hlength]
    by_cases hj : j = i
    · exact hj ▸ hi
    · exact h.committed j ((ha.committed j hj).1 hc)
  · rw [htasks] at hj
    rcases set_getElem? hj with ⟨rfl, rfl⟩ | ⟨hne, ht⟩
    · exact hown l k hw hwants hl
    · -- the writer is another task, which sees the database as before
      have hw := (ha.writer j hne).1 hw
      have hdb : P'.db = P.db := ha.db fun hi => hne (Option.some.inj (hw.symm.trans hi))
      rw [hdb] at hwants
      by_cases hk : k = i
      · subst hk
        by_cases hold : (l, k) ∈ P.locks
        · exact ha.kept (h.wants j t l k hw ht hwants hold)
        · exact absurd hwants (hlock l hl hold j t hw hne ht)
      · exact (ha.committed k hk).2 (h.wants j t l k hw ht hwants ((ha.locks l k hk).1 hl))

theorem Ordered.spawn (h : P.Ordered) {op : ω} {prog : TaskProg σ η κ ρ ε}
    (hp : prog.Follows .outside) : { P with tasks := P.tasks ++ [Task.new op prog] }.Ordered := by
  have hlength : (P.tasks ++ [Task.new op prog]).length = P.tasks.length + 1 := by simp
  have hold : ∀ j t, (P.tasks ++ [Task.new op prog])[j]? = some t →
      P.tasks[j]? = some t ∨ j = P.tasks.length ∧ t = Task.new op prog := by
    intro j t hj
    rw [List.getElem?_append] at hj
    split at hj
    · exact .inl hj
    · rename_i hlt
      obtain ⟨hle, ht⟩ := List.getElem?_eq_some_iff.1 hj
      have hj' : j = P.tasks.length := by simp at hle; omega
      subst hj'
      simp at ht
      exact .inr ⟨rfl, ht.symm⟩
  refine ⟨fun j t hj => ?_, fun l j hl => ?_, fun j hw => ?_, fun j hc => ?_,
    fun j t l k hw hj => ?_⟩
  · rcases hold j t hj with hj | ⟨rfl, rfl⟩
    · obtain ⟨stage, hs⟩ := h.placed j t hj
      exact ⟨stage, hs.follows, hs.held, hs.clean, hs.wrote, hs.outside, hs.settled⟩
    · exact ⟨.outside, hp, fun l hl => absurd (h.owners l _ hl) (Nat.lt_irrefl _), fun _ => rfl,
        nofun, fun _ hw => absurd (h.writer _ hw) (Nat.lt_irrefl _),
        fun hc => absurd (h.committed _ hc) (Nat.lt_irrefl _)⟩
  · exact hlength ▸ Nat.lt_succ_of_lt (h.owners l j hl)
  · exact hlength ▸ Nat.lt_succ_of_lt (h.writer j hw)
  · exact hlength ▸ Nat.lt_succ_of_lt (h.committed j hc)
  · rcases hold j t hj with hj | ⟨rfl, -⟩
    · exact h.wants j t l k hw hj
    · exact absurd (h.writer _ hw) (Nat.lt_irrefl _)

theorem Ordered.tick (h : P.Ordered) (now : Int) : { P with now }.Ordered := by
  refine ⟨fun j t hj => ?_, h.owners, h.writer, h.committed, h.wants⟩
  obtain ⟨stage, hs⟩ := h.placed j t hj
  exact ⟨stage, hs.follows, hs.held, hs.clean, hs.wrote, hs.outside, hs.settled⟩

theorem Ordered.abandon (h : P.Ordered) (i : Nat) (e : ε) : { P with
    writer := P.freeWriter i
    locks := P.locks.filter (·.2 ≠ i)
    tasks := P.tasks.modify i (·.abandon e) }.Ordered := by
  have hlength : (P.tasks.modify i (·.abandon e)).length = P.tasks.length :=
    List.length_modify _ _ _
  have hold : ∀ j t, (P.tasks.modify i (·.abandon e))[j]? = some t → ∃ t', P.tasks[j]? = some t' ∧
      (i = j ∧ t = t'.abandon e ∨ i ≠ j ∧ t = t') := by
    intro j t hj
    rw [List.getElem?_modify] at hj
    obtain ⟨t', ht', rfl⟩ := Option.map_eq_some_iff.1 hj
    refine ⟨t', ht', ?_⟩
    split
    · exact .inl ⟨‹_›, rfl⟩
    · exact .inr ⟨‹_›, rfl⟩
  have hmem : ∀ l j, (l, j) ∈ P.locks.filter (·.2 ≠ i) ↔ (l, j) ∈ P.locks ∧ j ≠ i := by
    intro l j
    simp
  refine ⟨fun j t hj => ?_, fun l j hl => ?_, fun j hw => ?_, fun j hc => ?_,
    fun j t l k hw hj hwants hl => ?_⟩
  · obtain ⟨t', ht', ⟨rfl, rfl⟩ | ⟨hne, rfl⟩⟩ := hold j t hj
    · exact ⟨.passed, placed_passed rfl rfl fun l hl => ((hmem l i).1 hl).2 rfl⟩
    · obtain ⟨stage, hs⟩ := h.placed j t ht'
      have hwriter : P.freeWriter i = some j ↔ P.writer = some j :=
        freeWriter_eq.trans ⟨And.left, fun hw => ⟨hw, hne.symm⟩⟩
      exact ⟨stage, hs.follows, fun l hl => hs.held l ((hmem l j).1 hl).1,
        fun hw => hs.clean fun hw' => hw (hwriter.2 hw'), fun hw => hwriter.2 (hs.wrote hw),
        fun ho hw => hs.outside ho (hwriter.1 hw), hs.settled⟩
  · exact hlength.symm ▸ h.owners l j ((hmem l j).1 hl).1
  · exact hlength.symm ▸ h.writer j (freeWriter_eq.1 hw).1
  · exact hlength.symm ▸ h.committed j hc
  · obtain ⟨hw, hne⟩ := freeWriter_eq.1 hw
    obtain ⟨t', ht', ⟨hi, -⟩ | ⟨-, rfl⟩⟩ := hold j t hj
    · exact absurd hi.symm hne
    · exact h.wants j t l k hw ht' hwants ((hmem l k).1 hl).1

theorem Ordered.crash (h : P.Ordered) (e : ε) : { P with
    writer := none, locks := [], tasks := P.tasks.map (Task.abandon · e) }.Ordered := by
  refine ⟨fun j t hj => ?_, nofun, nofun, fun j hc => ?_, nofun⟩
  · rw [List.getElem?_map] at hj
    obtain ⟨t', -, rfl⟩ := Option.map_eq_some_iff.1 hj
    exact ⟨.passed, placed_passed rfl rfl nofun⟩
  · rw [List.length_map]
    exact h.committed j hc

theorem Ordered.initial (d : σ) (now : Int) (nodes : τ) :
    (Pool.initial d now nodes : Pool σ η κ ρ τ ω ε).Ordered := by
  refine ⟨fun j t hj => ?_, nofun, nofun, fun j hc => ?_, nofun⟩
  · cases hj
  · obtain ⟨e, he, -⟩ := hc
    cases he

theorem Ordered.no_circular_wait (h : P.Ordered) : ¬ P.CircularWait := by
  rintro ⟨i, j, t, t', l, hi, hj, hne, hw, hasks, hl, hwrites⟩
  have hc := h.wants i t l j hw hi (Prog.wants_of_asks hasks _) hl
  obtain ⟨stage, hplaced⟩ := h.placed j t' hj
  have hsettled := hplaced.settled hc
  have hfollows := hplaced.follows
  cases hp : t'.prog with
  | stmt s k =>
    rw [hp] at hfollows hwrites
    obtain ⟨stage', hnext, -⟩ := hfollows
    cases s with
    | execute u =>
      cases stage with
      | done l => cases hnext
      | passed => cases hnext
      | _ => cases hsettled
    | _ => cases hwrites
  | _ =>
    rw [hp] at hwrites
    cases hwrites

end Placed

section Steps
variable [DecidableEq κ] [DecidableEq ρ] {act : ρ → τ → τ}

theorem perform_apart {s : Stmt σ η κ ρ β} (hclean : P.writer ≠ some i → t.writes = id)
    (hs : P.perform act i t s f = some (b, a, P', t')) : Apart P P' i := by
  have hfree : ∀ j, j ≠ i → (P.freeWriter i = some j ↔ P.writer = some j) := fun j hne =>
    freeWriter_eq.trans ⟨And.left, fun h => ⟨h, hne⟩⟩
  cases s with
  | execute u =>
    simp only [perform] at hs
    split at hs
    · rename_i hw
      cases hs
      refine ⟨fun _ => rfl, fun _ _ _ => .rfl, fun j hne => ?_, fun _ _ => .rfl, id⟩
      constructor
      · intro h
        exact absurd (Option.some.inj h).symm hne
      · intro h
        rcases hw with hw | hw
        · rw [hw] at h
          cases h
        · rw [hw] at h
          exact absurd (Option.some.inj h).symm hne
    · cases hs
  | commit next =>
    cases hs
    refine ⟨fun hw => ?_, fun _ _ _ => .rfl, hfree, fun j hne => ?_,
      fun hc => (committed_append rfl).2 (.inl hc)⟩
    · rw [hclean hw]
      rfl
    · refine (committed_append rfl).trans ⟨fun h => h.resolve_right fun h => hne h.symm, .inl⟩
  | rollback =>
    cases hs
    exact ⟨fun _ => rfl, fun _ _ _ => .rfl, hfree, fun _ _ => .rfl, id⟩
  | acquire l =>
    simp only [perform] at hs
    split at hs
    · cases hs
    · cases hs
      refine ⟨fun _ => rfl, fun l' j hne => ?_, fun _ _ => .rfl, fun _ _ => .rfl, id⟩
      simp [hne]
  | release l =>
    cases hs
    refine ⟨fun _ => rfl, fun l' j hne => ?_, fun _ _ => .rfl, fun _ _ => .rfl, id⟩
    simp [hne]
  | clock => cases hs; exact .refl P i
  | ask => cases hs; exact .refl P i
  | select source q => cases hs; exact .refl P i
  | call c =>
    cases hs
    exact ⟨fun _ => rfl, fun _ _ _ => .rfl, fun _ _ => .rfl, fun _ _ => .rfl, id⟩

theorem Placed.perform {s : Stmt σ η κ ρ β} (h : P.Placed i t stage)
    (hp : t.prog = .stmt s k) (hs : P.perform act i t s f = some (b, a, P', t')) :
    ∃ stage', stage.next s = some stage' ∧ P'.Placed i (t'.resume s.ends (k b) a) stage' := by
  have hfollows := h.follows
  rw [hp] at hfollows
  obtain ⟨stage', hnext, hk⟩ := hfollows
  refine ⟨stage', hnext, ?_⟩
  have hfree : P.freeWriter i ≠ some i := fun hw => (freeWriter_eq.1 hw).2 rfl
  have hsame : stage' = stage → P'.locks = P.locks → P'.writer = P.writer → P'.log = P.log →
      t'.writes = t.writes → P'.Placed i (t'.resume s.ends (k b) a) stage' := by
    rintro rfl hlocks hwriter hlog hwrites
    refine ⟨?_, ?_, fun hw => ?_, ?_, ?_, ?_⟩
    · unfold Task.resume
      split <;> exact hk b
    · rw [hlocks]
      exact h.held
    · unfold Task.resume
      split <;> exact hwrites.trans (h.clean (hwriter ▸ hw))
    · rw [hwriter]
      exact h.wrote
    · rw [hwriter]
      exact h.outside
    · rw [Committed, hlog]
      exact h.settled
  have htalk : stage.talk = some stage' → stage' = stage := by
    intro ht
    cases stage <;> cases ht <;> rfl
  cases s with
  | clock => cases hs; exact hsame (htalk hnext) rfl rfl rfl rfl
  | ask => cases hs; exact hsame (htalk hnext) rfl rfl rfl rfl
  | select source q => cases hs; exact hsame (Option.some.inj hnext).symm rfl rfl rfl rfl
  | call c => cases hs; exact hsame (htalk hnext) rfl rfl rfl rfl
  | execute u =>
    simp only [Pool.perform] at hs
    split at hs
    · cases hs
      refine ⟨hk _, fun l hl => ?_, fun hw => absurd rfl hw, fun _ => rfl, ?_, fun hc => ?_⟩
      · have hl := h.held l hl
        cases stage <;> cases hnext <;> exact hl
      · rintro rfl
        cases stage <;> cases hnext
      · have hc := h.settled hc
        cases stage <;> cases hnext <;> exact hc
    · cases hs
  | commit next =>
    cases hs
    refine ⟨hk _, fun l hl => ?_, fun _ => rfl, ?_, fun _ => hfree, fun _ => ?_⟩
    · have hl := h.held l hl
      cases stage <;> cases hnext <;> exact hl
    · intro hw
      cases stage <;> cases hnext <;> cases hw
    · cases stage <;> cases hnext <;> rfl
  | rollback =>
    cases hs
    refine ⟨hk _, fun l hl => ?_, fun _ => rfl, ?_, fun _ => hfree, fun hc => ?_⟩
    · have hl := h.held l hl
      cases stage <;> cases hnext <;> exact hl
    · intro hw
      cases stage <;> cases hnext <;> cases hw
    · cases stage <;> cases hnext <;> rfl
  | acquire l =>
    simp only [Pool.perform] at hs
    split at hs
    · cases hs
    · cases hs
      refine ⟨hk _, fun l' hl => ?_, h.clean, fun hw => ?_, ?_, fun hc => ?_⟩
      · have hold : (l', i) ∈ P.locks → stage.lock = some l' := h.held l'
        rcases List.mem_cons.1 hl with hl | hl
        · cases hl
          cases stage <;> cases hnext <;> rfl
        · have hold := hold hl
          cases stage <;> cases hnext <;> cases hold
      · apply h.wrote
        cases stage with
        | claimed => rfl
        | outside => cases hnext; cases hw
        | _ => cases hnext
      · rintro rfl
        cases stage <;> cases hnext
      · have hc := h.settled hc
        cases stage <;> cases hnext <;> cases hc
  | release l =>
    cases hs
    simp only [Stage.next] at hnext
    split at hnext
    · rename_i hlock
      cases hnext
      refine ⟨hk _, fun l' hl => ?_, h.clean, ?_, ?_, fun _ => rfl⟩
      · obtain ⟨hl, hne⟩ := List.mem_filter.1 hl
        have hsame : l = l' := Option.some.inj (hlock.symm.trans (h.held l' hl))
        simp [hsame] at hne
      · intro hw
        cases hw
      · intro ho
        cases ho
    · cases hnext

theorem Ordered.perform {s : Stmt σ η κ ρ β} (h : P.Ordered) (hc : P.Orderly i)
    (ht : P.tasks[i]? = some t) (hp : t.prog = .stmt s k)
    (hs : P.perform act i t s f = some (b, a, P', t')) :
    { P' with tasks := P'.tasks.set i (t'.resume s.ends (k b) a) }.Ordered := by
  obtain ⟨stage, hplaced⟩ := h.placed i t ht
  obtain ⟨stage', hnext, hplaced'⟩ := hplaced.perform hp hs
  have hapart := perform_apart hplaced.clean hs
  obtain ⟨htasks, -⟩ := perform_keeps hs
  have hi : i < P.tasks.length := (List.getElem?_eq_some_iff.1 ht).1
  refine h.set (i := i) ⟨hapart.db, hapart.locks, hapart.writer, hapart.committed, hapart.kept⟩ hi
    (congrArg (List.set · i _) htasks) ⟨hplaced'.follows, hplaced'.held, hplaced'.clean,
      hplaced'.wrote, hplaced'.outside, hplaced'.settled⟩ (fun l j hw hwants hl => ?_)
    fun l hl hnew j t₁ hw hne hj => ?_
  · -- it has written and taken no lock
    obtain rfl := hplaced'.claimed hw hwants
    cases s with
    | select source q =>
      cases hs
      cases hnext
      exact h.wants i t l j hw ht (by rw [hp]; exact hwants) hl
    | execute u =>
      simp only [Pool.perform] at hs
      split at hs
      · cases hs
        refine hc.write t l j ht (by rw [hp]; rfl) (by rw [hp]; exact hwants) hl ?_
        rintro rfl
        cases hplaced'.held l hl
      · cases hs
    | commit next => cases stage <;> cases hnext
    | rollback => cases stage <;> cases hnext
    | acquire l => cases stage <;> cases hnext
    | release l =>
      simp only [Stage.next] at hnext
      split at hnext <;> cases hnext
    | _ => cases stage <;> cases hnext
  · cases s with
    | acquire l' =>
      simp only [Pool.perform] at hs
      split at hs
      · cases hs
      · cases hs
        rcases List.mem_cons.1 hl with hl | hl
        · cases hl
          exact hc.lock t l j t₁ ht (by rw [hp]; rfl) hw hne hj
        · exact absurd hl hnew
    | release l' =>
      cases hs
      exact absurd (List.mem_of_mem_filter hl) hnew
    | execute u =>
      simp only [Pool.perform] at hs
      split at hs
      · cases hs
        exact absurd hl hnew
      · cases hs
    | _ =>
      cases hs
      exact absurd hl hnew

theorem Ordered.run (h : P.Ordered) (hc : P.Orderly i) (hs : P.step act i f = some P') :
    P'.Ordered := by
  simp only [step] at hs
  cases ht : P.tasks[i]? with
  | none => rw [ht] at hs; cases hs
  | some t =>
    simp only [ht] at hs
    have hfinish : t.prog.finished = true → { P with
        writer := P.freeWriter i
        tasks := P.tasks.set i { t.closed [] with origin := t.prog, trace := [] } }.Ordered := by
      intro hf
      obtain ⟨stage, hplaced⟩ := h.placed i t ht
      have hlocks : ∀ l, (l, i) ∉ P.locks := by
        intro l hl
        have hlock := hplaced.held l hl
        have hfollows := hplaced.follows
        cases hp : t.prog with
        | stmt s k => rw [hp] at hf; cases hf
        | _ =>
          rw [hp] at hfollows
          rw [show stage.lock = none from hfollows] at hlock
          cases hlock
      refine h.set (i := i) ⟨fun _ => rfl, fun _ _ _ => .rfl, fun j hne => ?_, fun _ _ => .rfl, id⟩
        (List.getElem?_eq_some_iff.1 ht).1 rfl (placed_passed hf rfl hlocks)
        (fun l j hw => absurd rfl (freeWriter_eq.1 hw).2) fun l hl hnew => absurd hl hnew
      exact freeWriter_eq.trans ⟨And.left, fun hw => ⟨hw, hne⟩⟩
    cases hp : t.prog with
    | stmt s k =>
      simp only [hp, Option.map_eq_some_iff] at hs
      obtain ⟨⟨b, a, Q, t'⟩, hperform, rfl⟩ := hs
      exact h.perform hc ht hp hperform
    | _ =>
      simp only [hp, Option.some.injEq] at hs
      subst hs
      have hfinish := hfinish (by rw [hp]; rfl)
      rw [hp] at hfinish
      exact hfinish

theorem Ordered.steps {program : ω → TaskProg σ η κ ρ ε}
    (hprog : ∀ op, (program op).Follows .outside) (h : P.Ordered)
    (hs : Steps program act Orderly P P') : P'.Ordered := by
  induction hs with
  | refl => exact h
  | tail _ hstep ih =>
    cases hstep with
    | tick ht => exact ih.tick _
    | spawn op => exact ih.spawn (hprog op)
    | run i f hc hrun => exact ih.run hc hrun
    | abandon i e => exact ih.abandon i e
    | crash e => exact ih.crash e

theorem step_isSome (act : ρ → τ → τ) (f : Answer) (ht : P.tasks[i]? = some t)
    (hwriter : t.prog.writesNext = true → P.writer = none ∨ P.writer = some i)
    (hlock : ∀ l, t.prog.asks = some l → l ∉ P.locks.map Prod.fst) :
    (P.step act i f).isSome = true := by
  simp only [step, ht]
  cases hp : t.prog with
  | stmt s k =>
    rw [hp] at hwriter hlock
    cases s with
    | execute u => simp [perform, hwriter rfl]
    | acquire l => simp [perform, hlock l rfl]
    | _ => rfl
  | _ => rfl

omit [DecidableEq κ] [DecidableEq ρ] in
/-- A step that is alone with the writer and the locks is in order. -/
theorem orderly_of_free (hwriter : P.writer = none ∨ P.writer = some i)
    (hlocks : ∀ l ∈ P.locks, l.2 = i) : P.Orderly i where
  write _ l j _ _ _ hl hne := absurd (hlocks (l, j) hl) hne
  lock _ _ j _ _ _ hw hne := by
    rcases hwriter with h | h
    · rw [h] at hw
      cases hw
    · exact absurd (Option.some.inj (h.symm.trans hw)).symm hne

theorem Steps.weaken {program : ω → TaskProg σ η κ ρ ε} {X Y : Pool σ η κ ρ τ ω ε → Nat → Prop}
    (hxy : ∀ P i, X P i → Y P i) (hs : Steps program act X P P') : Steps program act Y P P' := by
  induction hs with
  | refl => exact .refl
  | tail _ hstep ih =>
    cases hstep with
    | tick h => exact ih.tail (.tick h)
    | spawn op => exact ih.tail (.spawn op)
    | run i f hx h => exact ih.tail (.run i f (hxy _ i hx) h)
    | abandon i e => exact ih.tail (.abandon i e)
    | crash e => exact ih.tail (.crash e)

/-- The writer goes on, or waits for a lock whose owner goes on. -/
theorem Ordered.writer_moves (h : P.Ordered) (act : ρ → τ → τ) (hw : P.writer = some i) :
    (∀ f, (P.step act i f).isSome = true) ∨ ∃ t l j, P.tasks[i]? = some t ∧
      t.prog.asks = some l ∧ (l, j) ∈ P.locks ∧ ∀ f, (P.step act j f).isSome = true := by
  obtain ⟨t, hi⟩ : ∃ t, P.tasks[i]? = some t := ⟨_, List.getElem?_eq_getElem (h.writer i hw)⟩
  by_cases hfree : ∀ l, t.prog.asks = some l → l ∉ P.locks.map Prod.fst
  · exact .inl fun f => step_isSome act f hi (fun _ => .inr hw) hfree
  · obtain ⟨l, htaken⟩ := not_forall.1 hfree
    obtain ⟨hasks, htaken⟩ := Classical.not_imp.1 htaken
    obtain ⟨⟨l', j⟩, hl, rfl⟩ := List.mem_map.1 (Classical.not_not.1 htaken)
    refine .inr ⟨t, _, j, hi, hasks, hl, fun f => ?_⟩
    obtain ⟨t', hj⟩ : ∃ t, P.tasks[j]? = some t := ⟨_, List.getElem?_eq_getElem (h.owners _ j hl)⟩
    obtain ⟨stage, hplaced⟩ := h.placed j t' hj
    have hheld := hplaced.held _ hl
    refine step_isSome act f hj (fun hwrites => ?_) fun l' hasks' => ?_
    · by_cases hij : i = j
      · exact .inr (hij ▸ hw)
      · exact absurd ⟨i, j, t, t', _, hi, hj, hij, hw, hasks, hl, hwrites⟩ h.no_circular_wait
    · -- who has a lock asks for no other
      rcases Prog.stage_of_wants hplaced.follows (Prog.wants_of_asks hasks' P.db) with rfl | rfl
      · cases hheld
      · cases hheld

end Steps

end Pool
end Library
