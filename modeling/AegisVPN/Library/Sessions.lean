import Mathlib.Data.List.Basic
import AegisVPN.Library.Program

namespace Library
set_option autoImplicit true

/-- One statement of a task that works on a database `σ`, takes locks `κ` and calls others with
`ρ`. A query names its source `η`. A commit announces the calls that the task is about to make,
which changes nothing. -/
inductive Stmt (σ η κ ρ : Type) : Type → Type 1
  | clock : Stmt σ η κ ρ Int
  | ask : Stmt σ η κ ρ String
  | select {α : Type} (source : η) (q : σ → α) : Stmt σ η κ ρ α
  | execute {α : Type} (u : σ → α × σ) : Stmt σ η κ ρ α
  | commit (next : List ρ) : Stmt σ η κ ρ Unit
  | rollback : Stmt σ η κ ρ Unit
  | acquire (k : κ) : Stmt σ η κ ρ Unit
  | release (k : κ) : Stmt σ η κ ρ Unit
  | call (c : ρ) : Stmt σ η κ ρ Bool

/-- What a task is told from outside at one statement. -/
structure Answer where
  time : Int
  text : String
  effect : Bool
  reply : Bool
  deriving DecidableEq

abbrev TaskProg (σ η κ ρ ε : Type) := Prog (Stmt σ η κ ρ) ε Unit

/-- Whether the statement ends a transaction. -/
def Stmt.ends : Stmt σ η κ ρ β → Bool
  | .commit _ => true
  | .rollback => true
  | _ => false

def Stmt.isRollback : Stmt σ η κ ρ β → Bool
  | .rollback => true
  | _ => false

/-! ## A task alone -/

/-- A task and its database when nobody else is there. -/
structure View (σ ρ : Type) where
  committed : σ
  view : σ
  isOpen : Bool
  calls : List ρ
  pledged : List ρ
  now : Int

def View.start (db : σ) (pledged : List ρ) (now : Int) : View σ ρ :=
  ⟨db, db, false, [], pledged, now⟩

/-- A query of a source that is not watched may find anything. -/
def alone [DecidableEq ρ] (watches : η → Bool) :
    Semantics (Stmt σ η κ ρ) (Answer × σ) (View σ ρ) := fun s f w =>
  match s with
  | .clock => if f.1.time ≤ w.now then some (f.1.time, w) else none
  | .ask => some (f.1.text, w)
  | .select source q =>
    some (if watches source then q w.view else q f.2, { w with isOpen := true })
  | .execute u => some ((u w.view).1, { w with view := (u w.view).2, isOpen := true })
  | .commit next => some ((), ⟨w.view, w.view, false, [], next, w.now⟩)
  | .rollback => some ((), ⟨w.committed, w.committed, false, [], [], w.now⟩)
  | .acquire _ => some ((), w)
  | .release _ => some ((), w)
  | .call c => some (f.1.reply, { w with
      calls := c :: w.calls
      pledged := if w.isOpen then w.pledged else w.pledged.erase c })

/-- What the tasks `ω` of a database promise: an invariant of what is committed at a time, what
a commit may change, and what holds when a guarded call is made. A commit of an operation needs
`may`, and of the sources only those that are watched have to be read as they are. -/
structure Contract (σ η ρ ω : Type) where
  watches : η → Bool
  inv : Int → σ → Prop
  mono : ∀ {t t' db}, t ≤ t' → inv t db → inv t' db
  may : ω → Int → σ → σ → Prop
  change : ω → σ → σ → Prop
  guarded : ρ → Prop
  sends : ρ → σ → Prop

namespace Contract
variable (C : Contract σ η ρ ω)

/-- Of the calls, those that were in order at `db` still are at `db'`. -/
def Kept (calls : List ρ) (db db' : σ) : Prop :=
  ∀ c ∈ calls, C.guarded c → C.sends c db → C.sends c db'

theorem Kept.refl {C : Contract σ η ρ ω} (calls : List ρ) (db : σ) : C.Kept calls db db :=
  fun _ _ _ h => h

theorem Kept.trans {C : Contract σ η ρ ω} (h : C.Kept calls d₁ d₂) (h' : C.Kept calls d₂ d₃) :
    C.Kept calls d₁ d₃ := fun c hm hg hs => h' c hm hg (h c hm hg hs)

/-- What others do to a task: time passes, and outside its transactions they commit, but not
against the calls it has announced. -/
inductive Rely : View σ ρ → View σ ρ → Prop
  | later (ho : w.isOpen = true) (ht : w.now ≤ t) : Rely w { w with now := t }
  | others (hc : w.isOpen = false) (ht : w.now ≤ t) (hdb : C.inv t db)
    (hp : C.Kept w.pledged w.committed db) :
    Rely w { w with committed := db, view := db, now := t }

/-- What a task does itself. -/
def Guarantee (op : ω) (w w' : View σ ρ) : Prop :=
  (w'.committed = w.committed ∨
    C.inv w.now w'.committed ∧ C.change op w.committed w'.committed) ∧
  ∀ c, w'.calls = c :: w.calls → C.guarded c → C.sends c w.committed

theorem Rely.trans {C : Contract σ η ρ ω} {w₁ w₂ w₃ : View σ ρ} (h : C.Rely w₁ w₂)
    (h' : C.Rely w₂ w₃) : C.Rely w₁ w₃ := by
  cases h with
  | later ho ht =>
    cases h' with
    | later _ ht' => exact .later ho (Int.le_trans ht ht')
    | others hc => exact absurd ho (by simpa using hc)
  | others hc ht hdb hp =>
    cases h' with
    | later ho => exact absurd ho (by simpa using hc)
    | others _ ht' hdb' hp' => exact .others hc (Int.le_trans ht ht') hdb' (hp.trans hp')

theorem Rely.refl {C : Contract σ η ρ ω} {w : View σ ρ}
    (h : w.isOpen = false → w.view = w.committed ∧ C.inv w.now w.committed) : C.Rely w w := by
  obtain ⟨committed, view, isOpen, calls, pledged, now⟩ := w
  cases isOpen with
  | true => exact .later rfl (Int.le_refl now)
  | false =>
    obtain ⟨hv, hi⟩ := h rfl
    obtain rfl : view = committed := hv
    exact .others rfl (Int.le_refl now) hi (.refl _ _)

/-- Whether an operation may run the statement there. -/
def Allows (op : ω) (s : Stmt σ η κ ρ β) (w : View σ ρ) : Prop :=
  match s with
  | .commit _ => C.may op w.now w.committed w.view
  | _ => True

theorem allows_commit {C : Contract σ η ρ ω} :
    C.Allows op (.commit next : Stmt σ η κ ρ Unit) w ↔ C.may op w.now w.committed w.view := .rfl

theorem allows_of_not_ends {C : Contract σ η ρ ω} {s : Stmt σ η κ ρ β} (he : s.ends = false) :
    C.Allows op s w := by
  cases s with
  | commit next => cases he
  | _ => trivial

variable [DecidableEq ρ]

open Classical in
/-- A task alone that commits only what it may. -/
noncomputable def sem (op : ω) : Semantics (Stmt σ η κ ρ) (Answer × σ) (View σ ρ) :=
  fun s f w => if C.Allows op s w then alone C.watches s f w else none

theorem sem_of_allows {C : Contract σ η ρ ω} {s : Stmt σ η κ ρ β} (h : C.Allows op s w) :
    C.sem op s f w = alone C.watches s f w := if_pos h

theorem sem_of_not_allows {C : Contract σ η ρ ω} {s : Stmt σ η κ ρ β} (h : ¬ C.Allows op s w) :
    C.sem op s f w = none := if_neg h

/-- The program of an operation keeps the contract from there on. -/
def Keeps (op : ω) (p : TaskProg σ η κ ρ ε) (w : View σ ρ) : Prop :=
  p.wp (C.sem op) C.Rely (C.Guarantee op) (fun _ _ => True) (fun _ _ => True) w

theorem Keeps.rely {C : Contract σ η ρ ω} {p : TaskProg σ η κ ρ ε} (h : C.Keeps op p w)
    (hw : C.Rely w w') : C.Keeps op p w' :=
  Prog.wp_rely h (fun _ _ _ => Rely.trans) (fun _ _ _ _ h => h) (fun _ _ _ _ h => h) hw

/-- The program keeps the contract whenever it starts. -/
def KeepsFrom (op : ω) (p : TaskProg σ η κ ρ ε) : Prop :=
  ∀ db now, C.inv now db → C.Keeps op p (View.start db [] now)

end Contract

/-- What follows a rollback, where nothing is known of what was read before, satisfies `X`. -/
def Prog.AfterRollback (X : Prog (Stmt σ η κ ρ) ε α → Prop) : Prog (Stmt σ η κ ρ) ε α → Prop
  | .ret _ => True
  | .raise _ => True
  | .stmt s k => ∀ b, (s.isRollback = true → X (k b)) ∧ (k b).AfterRollback X

/-! ## Tasks together -/

/-- A task with its open transaction. `reads` tells where all that it has read from watched
sources stands, and `writes` what it has written; from `origin`, where its transaction began,
it came to where it is by the answers in `trace`. -/
structure Task (σ η κ ρ ω ε : Type) where
  op : ω
  prog : TaskProg σ η κ ρ ε
  isOpen : Bool
  calls : List ρ
  pledged : List ρ
  reads : (η → Bool) → σ → Prop
  writes : σ → σ
  origin : TaskProg σ η κ ρ ε
  trace : List Answer

namespace Task

def new (op : ω) (prog : TaskProg σ η κ ρ ε) : Task σ η κ ρ ω ε :=
  ⟨op, prog, false, [], [], fun _ _ => True, id, prog, []⟩

/-- The session is closed: what has not been committed is lost. -/
def closed (t : Task σ η κ ρ ω ε) (pledged : List ρ) : Task σ η κ ρ ω ε :=
  { t with isOpen := false, calls := [], pledged, reads := fun _ _ => True, writes := id }

/-- The task goes on with `prog`, after the end of a transaction from a new origin. -/
def resume (t : Task σ η κ ρ ω ε) (ends : Bool) (prog : TaskProg σ η κ ρ ε) (a : Answer) :
    Task σ η κ ρ ω ε :=
  if ends then { t with prog, origin := prog, trace := [] }
  else { t with prog, trace := t.trace ++ [a] }

/-- The task is given up. -/
def abandon (t : Task σ η κ ρ ω ε) (e : ε) : Task σ η κ ρ ω ε :=
  { t.closed [] with prog := .raise e, origin := .raise e, trace := [] }

/-- What the task would see of a database. -/
def viewAt (t : Task σ η κ ρ ω ε) (db : σ) (now : Int) : View σ ρ :=
  ⟨db, t.writes db, t.isOpen, t.calls, t.pledged, now⟩

end Task

/-- A transaction that was committed by the task with that number. -/
structure Transaction (σ η κ ρ ω ε : Type) where
  task : Nat
  op : ω
  origin : TaskProg σ η κ ρ ε
  trace : List Answer

structure Pool (σ η κ ρ τ ω ε : Type) where
  db : σ
  now : Int
  writer : Option Nat
  locks : List (κ × Nat)
  nodes : τ
  tasks : List (Task σ η κ ρ ω ε)
  log : List (Transaction σ η κ ρ ω ε)

namespace Pool
variable [DecidableEq κ] [DecidableEq ρ]

def freeWriter (P : Pool σ η κ ρ τ ω ε) (i : Nat) : Option Nat :=
  if P.writer = some i then none else P.writer

/-- One statement of task `i`. A task reads what is committed and its own writes; its first
write makes it the only writer until its transaction ends. -/
def perform (act : ρ → τ → τ) (P : Pool σ η κ ρ τ ω ε) (i : Nat) (t : Task σ η κ ρ ω ε)
    (s : Stmt σ η κ ρ β) (f : Answer) :
    Option (β × Answer × Pool σ η κ ρ τ ω ε × Task σ η κ ρ ω ε) :=
  match s with
  | .clock => some (P.now, { f with time := P.now }, P, t)
  | .ask => some (f.text, f, P, t)
  | .select source q =>
    let answer := q (t.writes P.db)
    some (answer, f, P, { t with
      isOpen := true
      reads := fun watches db =>
        t.reads watches db ∧ (watches source = true → q (t.writes db) = answer) })
  | .execute u =>
    if P.writer = none ∨ P.writer = some i then
      let answer := (u (t.writes P.db)).1
      some (answer, f, { P with writer := some i }, { t with
        isOpen := true
        reads := fun watches db => t.reads watches db ∧ (u (t.writes db)).1 = answer
        writes := fun db => (u (t.writes db)).2 })
    else none
  | .commit next => some ((), f, { P with
      db := t.writes P.db
      writer := P.freeWriter i
      log := P.log ++ [⟨i, t.op, t.origin, t.trace ++ [f]⟩] }, t.closed next)
  | .rollback => some ((), f, { P with writer := P.freeWriter i }, t.closed [])
  | .acquire k =>
    if k ∈ P.locks.map Prod.fst then none
    else some ((), f, { P with locks := (k, i) :: P.locks }, t)
  | .release k => some ((), f, { P with locks := P.locks.filter (· ≠ (k, i)) }, t)
  | .call c => some (f.reply, f,
      { P with nodes := if f.effect then act c P.nodes else P.nodes },
      { t with
        calls := c :: t.calls
        pledged := if t.isOpen then t.pledged else t.pledged.erase c })

/-- Task `i` goes on by a statement; `none` if it has to wait. When it is through, its session
is closed. -/
def step (act : ρ → τ → τ) (i : Nat) (f : Answer) (P : Pool σ η κ ρ τ ω ε) :
    Option (Pool σ η κ ρ τ ω ε) :=
  match P.tasks[i]? with
  | none => none
  | some t =>
    match t.prog with
    | .stmt s k => (P.perform act i t s f).map fun (b, a, P', t') =>
        { P' with tasks := P'.tasks.set i (t'.resume s.ends (k b) a) }
    | _ => some { P with
        writer := P.freeWriter i
        tasks := P.tasks.set i { t.closed [] with origin := t.prog, trace := [] } }

/-- The condition on the next step of task `i`: what it has read still stands when it commits or
makes a guarded call, and its commit does not defeat the calls that others have announced. -/
structure Careful (C : Contract σ η ρ ω) (P : Pool σ η κ ρ τ ω ε) (i : Nat) : Prop where
  commit : ∀ t next k, P.tasks[i]? = some t → t.prog = .stmt (.commit next) k →
    t.reads C.watches P.db ∧ C.may t.op P.now P.db (t.writes P.db) ∧
      ∀ j t', j ≠ i → P.tasks[j]? = some t' → C.Kept t'.pledged P.db (t.writes P.db)
  call : ∀ t c k, P.tasks[i]? = some t → t.prog = .stmt (.call c) k → C.guarded c →
    t.reads C.watches P.db

variable (program : ω → TaskProg σ η κ ρ ε) (act : ρ → τ → τ)

/-- The steps of a pool: time passes, an operation is started, a task goes on where `X` holds,
is given up, or the process dies. -/
inductive Step (X : Pool σ η κ ρ τ ω ε → Nat → Prop) :
    Pool σ η κ ρ τ ω ε → Pool σ η κ ρ τ ω ε → Prop
  | tick (h : P.now ≤ t) : Step X P { P with now := t }
  | spawn (op : ω) : Step X P { P with tasks := P.tasks ++ [Task.new op (program op)] }
  | run (i : Nat) (f : Answer) (hx : X P i) (h : P.step act i f = some P') : Step X P P'
  | abandon (i : Nat) (e : ε) : Step X P { P with
      writer := P.freeWriter i
      locks := P.locks.filter (·.2 ≠ i)
      tasks := P.tasks.modify i (·.abandon e) }
  | crash (e : ε) : Step X P { P with
      writer := none, locks := [], tasks := P.tasks.map (·.abandon e) }

def initial (db : σ) (now : Int) (nodes : τ) : Pool σ η κ ρ τ ω ε :=
  ⟨db, now, none, [], nodes, [], []⟩

abbrev Steps (X : Pool σ η κ ρ τ ω ε → Nat → Prop) :
    Pool σ η κ ρ τ ω ε → Pool σ η κ ρ τ ω ε → Prop :=
  Relation.ReflTransGen (Step program act X)

/-! ## What a statement does to its task -/

variable {act : ρ → τ → τ}

theorem perform_keeps {P : Pool σ η κ ρ τ ω ε} {t : Task σ η κ ρ ω ε} {s : Stmt σ η κ ρ β}
    (h : P.perform act i t s f = some (b, a, P', t')) :
    P'.tasks = P.tasks ∧ P'.now = P.now ∧ t'.op = t.op ∧ t'.origin = t.origin ∧
      t'.trace = t.trace := by
  cases s with
  | execute u =>
    simp only [perform] at h
    split at h
    · cases h
      exact ⟨rfl, rfl, rfl, rfl, rfl⟩
    · cases h
  | acquire k =>
    simp only [perform] at h
    split at h
    · cases h
    · cases h
      exact ⟨rfl, rfl, rfl, rfl, rfl⟩
  | clock => cases h; exact ⟨rfl, rfl, rfl, rfl, rfl⟩
  | ask => cases h; exact ⟨rfl, rfl, rfl, rfl, rfl⟩
  | select source q => cases h; exact ⟨rfl, rfl, rfl, rfl, rfl⟩
  | commit next => cases h; exact ⟨rfl, rfl, rfl, rfl, rfl⟩
  | rollback => cases h; exact ⟨rfl, rfl, rfl, rfl, rfl⟩
  | release k => cases h; exact ⟨rfl, rfl, rfl, rfl, rfl⟩
  | call c => cases h; exact ⟨rfl, rfl, rfl, rfl, rfl⟩

/-- What a statement that ends no transaction does to the pool and its task. -/
structure Within (P P' : Pool σ η κ ρ τ ω ε) (t t' : Task σ η κ ρ ω ε) : Prop where
  db : P'.db = P.db
  log : P'.log = P.log
  closed : t'.isOpen = false → t.isOpen = false ∧ t'.writes = t.writes ∧ t'.reads = t.reads
  pledged : t'.isOpen = true → t'.pledged = t.pledged
  reads : ∀ watches d, t'.reads watches d → t.reads watches d

theorem perform_within {P : Pool σ η κ ρ τ ω ε} {t : Task σ η κ ρ ω ε} {s : Stmt σ η κ ρ β}
    (h : P.perform act i t s f = some (b, a, P', t')) (he : s.ends = false) :
    Within P P' t t' := by
  have hsame : Within P P t t :=
    ⟨rfl, rfl, fun h => ⟨h, rfl, rfl⟩, fun _ => rfl, fun _ _ h => h⟩
  cases s with
  | clock => cases h; exact hsame
  | ask => cases h; exact hsame
  | select source q =>
    cases h
    exact ⟨rfl, rfl, nofun, fun _ => rfl, fun _ _ h => h.1⟩
  | execute u =>
    simp only [perform] at h
    split at h
    · cases h
      exact ⟨rfl, rfl, nofun, fun _ => rfl, fun _ _ h => h.1⟩
    · cases h
  | commit next => cases he
  | rollback => cases he
  | acquire k =>
    simp only [perform] at h
    split at h
    · cases h
    · cases h
      exact ⟨rfl, rfl, hsame.closed, hsame.pledged, hsame.reads⟩
  | release k => cases h; exact ⟨rfl, rfl, hsame.closed, hsame.pledged, hsame.reads⟩
  | call c =>
    cases h
    exact ⟨rfl, rfl, hsame.closed, fun h => if_pos h, hsame.reads⟩

theorem perform_alone {P : Pool σ η κ ρ τ ω ε} {t : Task σ η κ ρ ω ε} {s : Stmt σ η κ ρ β}
    {d : σ} (h : P.perform act i t s f = some (b, a, P', t')) (he : s.ends = false)
    (hr : t'.reads watches d) (hn : P.now ≤ n) :
    alone watches s (a, t.writes P.db) (t.viewAt d n) = some (b, t'.viewAt d n) := by
  cases s with
  | clock =>
    cases h
    exact if_pos hn
  | ask => cases h; rfl
  | select source q =>
    cases h
    simp only [alone, Task.viewAt, Option.some.injEq, Prod.mk.injEq, and_true]
    split
    · rename_i hw
      exact hr.2 hw
    · rfl
  | execute u =>
    simp only [perform] at h
    split at h
    · cases h
      simp only [alone, Task.viewAt, hr.2]
    · cases h
  | commit next => cases he
  | rollback => cases he
  | acquire k =>
    simp only [perform] at h
    split at h
    · cases h
    · cases h
      rfl
  | release k => cases h; rfl
  | call c => cases h; rfl

end Pool

/-! ## Safety -/

section Safety
variable [DecidableEq ρ] (C : Contract σ η ρ ω)

/-- The task keeps the contract from where it is, on every database where its reads stand. -/
structure Task.Safe (now : Int) (db : σ) (t : Task σ η κ ρ ω ε) : Prop where
  closed : t.isOpen = false → t.writes = id ∧ ∀ watches d, t.reads watches d
  keeps : ∃ base, C.Kept t.pledged base db ∧ ∀ d n, now ≤ n → C.inv n d →
    C.Kept t.pledged base d → t.reads C.watches d → C.Keeps t.op t.prog (t.viewAt d n)
  rollback : t.prog.AfterRollback (C.KeepsFrom t.op)

/-- The invariant of a pool whose steps are all careful. -/
structure Pool.Safe (P : Pool σ η κ ρ τ ω ε) : Prop where
  inv : C.inv P.now P.db
  tasks : ∀ (i : Nat) (t : Task σ η κ ρ ω ε), P.tasks[i]? = some t → t.Safe C P.now P.db

variable {C}

namespace Task
variable {t : Task σ η κ ρ ω ε}

theorem Safe.keepsAt (h : t.Safe C now db) (hi : C.inv now db) (hr : t.reads C.watches db) :
    C.Keeps t.op t.prog (t.viewAt db now) := by
  obtain ⟨base, hbase, hk⟩ := h.keeps
  exact hk db now (Int.le_refl now) hi hbase hr

/-- Outside a transaction it is enough to look at the database as it is. -/
theorem Safe.of_closed (ho : t.isOpen = false) (hw : t.writes = id)
    (hr : ∀ watches d, t.reads watches d) (hk : C.Keeps t.op t.prog (t.viewAt db now))
    (hx : t.prog.AfterRollback (C.KeepsFrom t.op)) : t.Safe C now db where
  closed _ := ⟨hw, hr⟩
  keeps := by
    refine ⟨db, .refl _ _, fun d n hn hd hkept _ => ?_⟩
    have hrely := Contract.Rely.others (C := C) (w := t.viewAt db now) ho hn hd hkept
    have hview : t.viewAt d n =
        { t.viewAt db now with committed := d, view := d, now := n } := by
      simp only [viewAt, hw, id_eq]
    rw [hview]
    exact hk.rely hrely
  rollback := hx

theorem Safe.later (h : t.Safe C now db) (hn : now ≤ now') (hk : C.Kept t.pledged db db') :
    t.Safe C now' db' where
  closed := h.closed
  keeps := by
    obtain ⟨base, hbase, hkeeps⟩ := h.keeps
    exact ⟨base, hbase.trans hk, fun d n hle => hkeeps d n (Int.le_trans hn hle)⟩
  rollback := h.rollback

theorem Safe.finished (ho : t.isOpen = false) (hw : t.writes = id)
    (hr : ∀ watches d, t.reads watches d) (hf : t.prog.finished = true) :
    t.Safe C now db := by
  cases hp : t.prog with
  | stmt s k => rw [hp] at hf; cases hf
  | ret a => exact .of_closed ho hw hr (by rw [hp]; trivial) (by rw [hp]; trivial)
  | raise e => exact .of_closed ho hw hr (by rw [hp]; trivial) (by rw [hp]; trivial)

theorem Safe.abandon (t : Task σ η κ ρ ω ε) (e : ε) : (t.abandon e).Safe C now db :=
  .finished rfl rfl (fun _ _ => trivial) rfl

theorem Safe.new {op : ω} {prog : TaskProg σ η κ ρ ε} (hi : C.inv now db)
    (hk : C.KeepsFrom op prog) (hx : prog.AfterRollback (C.KeepsFrom op)) :
    (Task.new op prog).Safe C now db :=
  .of_closed rfl rfl (fun _ _ => trivial) (hk db now hi) hx

variable [DecidableEq κ]

theorem Safe.within {P : Pool σ η κ ρ τ ω ε} {act : ρ → τ → τ} {s : Stmt σ η κ ρ β}
    (h : t.Safe C P.now P.db) (hi : C.inv P.now P.db) (hp : t.prog = .stmt s k)
    (hs : P.perform act i t s f = some (b, a, P', t')) (he : s.ends = false) :
    (t'.resume s.ends (k b) a).Safe C P'.now P'.db := by
  obtain ⟨_, hnow, hop, _, _⟩ := Pool.perform_keeps hs
  have hwithin := Pool.perform_within hs he
  have hx : (k b).AfterRollback (C.KeepsFrom t.op) := by
    have hx := h.rollback
    rw [hp] at hx
    exact (hx b).2
  -- on a database where the new reads stand, the statement is a step of the task alone
  have hstep : ∀ {d n}, P.now ≤ n → C.inv n d → t'.reads C.watches d →
      C.Keeps t.op t.prog (t.viewAt d n) → C.Keeps t.op (k b) (t'.viewAt d n) := by
    intro d n hn hd hr hk
    rw [hp] at hk
    refine (Prog.wp_step hk (.refl fun ho => ?_)
      ((Contract.sem_of_allows (Contract.allows_of_not_ends he)).trans
        (Pool.perform_alone hs he hr hn))).2
    obtain ⟨hw, _⟩ := h.closed ho
    exact ⟨by simp only [viewAt, hw, id_eq], hd⟩
  simp only [resume, he, Bool.false_eq_true, ↓reduceIte, hnow, hwithin.db]
  rcases Bool.eq_false_or_eq_true t'.isOpen with ho | ho
  · obtain ⟨base, hbase, hk⟩ := h.keeps
    have hpledged := hwithin.pledged ho
    refine ⟨fun hc => absurd (ho.symm.trans hc) nofun, ⟨base, ?_, fun d n hn hd hkept hr => ?_⟩,
      hop.symm ▸ hx⟩
    · exact hpledged.symm ▸ hbase
    · have hk' := hstep hn hd hr (hk d n hn hd (hpledged ▸ hkept) (hwithin.reads _ _ hr))
      exact hop.symm ▸ hk'
  · obtain ⟨hclosed, hw, hr⟩ := hwithin.closed ho
    obtain ⟨hw', hr'⟩ := h.closed hclosed
    have hk' := hstep (Int.le_refl _) hi (hr.symm ▸ hr' _ _) (h.keepsAt hi (hr' _ _))
    exact .of_closed ho (hw.trans hw') (fun W d => hr.symm ▸ hr' W d) (hop.symm ▸ hk')
      (hop.symm ▸ hx)

end Task

namespace Pool
variable {P P' : Pool σ η κ ρ τ ω ε}

theorem Safe.initial {d : σ} (hi : C.inv n d) (nodes : τ) :
    (initial d n nodes : Pool σ η κ ρ τ ω ε).Safe C :=
  ⟨hi, fun i t ht => by cases ht⟩

theorem Safe.commit (h : P.Safe C) (hc : Careful C P i) (ht : P.tasks[i]? = some t)
    (hp : t.prog = .stmt (.commit next) k) :
    (t.writes P.db = P.db ∨ C.change t.op P.db (t.writes P.db)) ∧ C.inv P.now (t.writes P.db) ∧
      C.Keeps t.op (k ()) (View.start (t.writes P.db) next P.now) := by
  obtain ⟨hr, hmay, _⟩ := hc.commit t next k ht hp
  have hk := (h.tasks i t ht).keepsAt h.inv hr
  rw [hp] at hk
  have hrefl : C.Rely (t.viewAt P.db P.now) (t.viewAt P.db P.now) := .refl fun ho => by
    obtain ⟨hw, _⟩ := (h.tasks i t ht).closed ho
    exact ⟨by simp only [Task.viewAt, hw, id_eq], h.inv⟩
  obtain ⟨⟨hg, _⟩, hk'⟩ := Prog.wp_step (f := (⟨0, "", false, false⟩, P.db)) hk hrefl
    (Contract.sem_of_allows hmay)
  rcases hg with hsame | hg
  · obtain hsame : t.writes P.db = P.db := hsame
    exact ⟨.inl hsame, hsame.symm ▸ h.inv, hk'⟩
  · exact ⟨.inr hg.2, hg.1, hk'⟩

theorem Safe.call (h : P.Safe C) (hc : Careful C P i) (ht : P.tasks[i]? = some t)
    (hp : t.prog = .stmt (.call c) k) (hg : C.guarded c) : C.sends c P.db := by
  have hr := hc.call t c k ht hp hg
  have hk := (h.tasks i t ht).keepsAt h.inv hr
  rw [hp] at hk
  have hrefl : C.Rely (t.viewAt P.db P.now) (t.viewAt P.db P.now) := .refl fun ho => by
    obtain ⟨hw, _⟩ := (h.tasks i t ht).closed ho
    exact ⟨by simp only [Task.viewAt, hw, id_eq], h.inv⟩
  exact (Prog.wp_step (f := (⟨0, "", false, false⟩, P.db)) hk hrefl
    (Contract.sem_of_allows (Contract.allows_of_not_ends rfl))).1.2 c rfl hg

variable [DecidableEq κ] {program : ω → TaskProg σ η κ ρ ε} {act : ρ → τ → τ}

theorem set_getElem? {l : List α} {i j : Nat} {a b : α} (h : (l.set i a)[j]? = some b) :
    (j = i ∧ b = a) ∨ (j ≠ i ∧ l[j]? = some b) := by
  by_cases hj : i = j
  · subst hj
    rw [List.getElem?_set_self', Option.map_eq_map, Option.map_eq_some_iff] at h
    obtain ⟨_, _, rfl⟩ := h
    exact .inl ⟨rfl, rfl⟩
  · rw [List.getElem?_set_ne hj] at h
    exact .inr ⟨fun h => hj h.symm, h⟩

theorem Safe.run (h : P.Safe C) (hc : Careful C P i) (hs : P.step act i f = some P') :
    P'.Safe C := by
  simp only [step] at hs
  cases ht : P.tasks[i]? with
  | none => rw [ht] at hs; cases hs
  | some t =>
    simp only [ht] at hs
    have hsafe := h.tasks i t ht
    cases hp : t.prog with
    | ret u =>
      simp only [hp, Option.some.injEq] at hs
      subst hs
      refine ⟨h.inv, fun j t' hj => ?_⟩
      obtain ⟨rfl, rfl⟩ | ⟨_, hj⟩ := set_getElem? hj
      · exact .finished rfl rfl (fun _ _ => trivial) (congrArg Prog.finished hp)
      · exact h.tasks j t' hj
    | raise e =>
      simp only [hp, Option.some.injEq] at hs
      subst hs
      refine ⟨h.inv, fun j t' hj => ?_⟩
      obtain ⟨rfl, rfl⟩ | ⟨_, hj⟩ := set_getElem? hj
      · exact .finished rfl rfl (fun _ _ => trivial) (congrArg Prog.finished hp)
      · exact h.tasks j t' hj
    | @stmt β s k =>
      simp only [hp, Option.map_eq_some_iff] at hs
      obtain ⟨⟨b, a, Q, t₁⟩, hperform, rfl⟩ := hs
      obtain ⟨htasks, hnow, hop, _, _⟩ := perform_keeps hperform
      rcases Bool.eq_false_or_eq_true s.ends with he | he
      · have hx := hsafe.rollback
        rw [hp] at hx
        cases s with
        | commit next =>
          obtain ⟨_, hinv, hk⟩ := h.commit hc ht hp
          obtain ⟨_, _, hkept⟩ := hc.commit t next k ht hp
          cases hperform
          refine ⟨hinv, fun j t' hj => ?_⟩
          obtain ⟨rfl, rfl⟩ | ⟨hne, hj⟩ := set_getElem? hj
          · exact .of_closed rfl rfl (fun _ _ => trivial) hk (hx ()).2
          · exact (h.tasks j t' hj).later (Int.le_refl _) (hkept j t' hne hj)
        | rollback =>
          cases hperform
          refine ⟨h.inv, fun j t' hj => ?_⟩
          obtain ⟨rfl, rfl⟩ | ⟨_, hj⟩ := set_getElem? hj
          · exact .of_closed rfl rfl (fun _ _ => trivial) ((hx ()).1 rfl P.db P.now h.inv)
              (hx ()).2
          · exact h.tasks j t' hj
        | _ => cases he
      · have hwithin := perform_within hperform he
        have hnext := hsafe.within h.inv hp hperform he
        refine ⟨by simpa only [hnow, hwithin.db] using h.inv, fun j t' hj => ?_⟩
        simp only [htasks] at hj
        obtain ⟨rfl, rfl⟩ | ⟨_, hj⟩ := set_getElem? hj
        · exact hnext
        · simpa only [hnow, hwithin.db] using h.tasks j t' hj

/-- Operations that keep the contract alone keep it together, as long as they are careful. -/
theorem Safe.steps (hprog : ∀ op, C.KeepsFrom op (program op))
    (hroll : ∀ op, (program op).AfterRollback (C.KeepsFrom op)) (h : P.Safe C)
    (hs : Steps program act (Careful C) P P') : P'.Safe C := by
  induction hs with
  | refl => exact h
  | tail _ hstep ih =>
    cases hstep with
    | tick ht =>
      exact ⟨C.mono ht ih.inv, fun i t hi => (ih.tasks i t hi).later ht (.refl _ _)⟩
    | spawn op =>
      refine ⟨ih.inv, fun i t hi => ?_⟩
      rcases List.mem_append.1 (List.mem_of_getElem? hi) with hm | hm
      · obtain ⟨j, hj⟩ := List.mem_iff_getElem?.1 hm
        exact ih.tasks j t hj
      · rw [List.mem_singleton.1 hm]
        exact .new ih.inv (hprog op) (hroll op)
    | run i f hc hrun => exact ih.run hc hrun
    | abandon i e =>
      refine ⟨ih.inv, fun j t hj => ?_⟩
      rw [List.getElem?_modify] at hj
      obtain ⟨t', ht', rfl⟩ := Option.map_eq_some_iff.1 hj
      split
      · exact .abandon t' e
      · exact ih.tasks j t' ht'
    | crash e =>
      refine ⟨ih.inv, fun j t hj => ?_⟩
      rw [List.getElem?_map] at hj
      obtain ⟨t', _, rfl⟩ := Option.map_eq_some_iff.1 hj
      exact .abandon t' e

end Pool

end Safety

end Library
