import Mathlib.Data.List.Basic
import Mathlib.Logic.Function.Basic

namespace AegisVPN
set_option autoImplicit true

/-! # The base plan, set by calls that overlap -/

/-- How far a call of `set_base_plan` has come, with the flag that its session loaded. -/
inductive PlanPhase
  | start
  | loaded (isBase : Bool)
  | cleared (isBase : Bool)
  | flagged
  | committed
  | missing
  deriving DecidableEq

structure PlanSession where
  planId : Nat
  phase : PlanPhase
  deriving DecidableEq

/-- The rows that a session has written and not yet committed are locked. -/
def PlanSession.holds (s : PlanSession) (row : Nat) : Bool :=
  match s.phase with
  | .cleared _ => row != s.planId
  | .flagged => true
  | _ => false

/-- A commit as seen from outside: the flag that its session loaded, and the flag of the row when
it commits. -/
structure PlanCommit where
  planId : Nat
  loaded : Bool
  current : Bool
  deriving DecidableEq

/-- The committed rows, a session for each call, and the commits so far, the last one first. -/
structure PlanWorld where
  plans : List Nat
  isBase : Nat → Bool
  sessions : List PlanSession
  commits : List PlanCommit

/-- The statements of a call. -/
inductive PlanStmt
  | select
  | clear
  | flag
  | commit
  deriving DecidableEq

namespace PlanWorld

def start (plans : List Nat) (isBase : Nat → Bool) (calls : List Nat) : PlanWorld :=
  { plans := plans, isBase := isBase, sessions := calls.map fun p => ⟨p, .start⟩, commits := [] }

/-- Another session holds a row. -/
def locked (w : PlanWorld) (i : Nat) (row : Nat) : Bool :=
  (w.sessions.eraseIdx i).any fun s => s.holds row

def setPhase (w : PlanWorld) (i : Nat) (s : PlanSession) (phase : PlanPhase) : PlanWorld :=
  { w with sessions := w.sessions.set i { s with phase := phase } }

/-- The rows after a commit: the flag is cleared from every other plan, and set on this one if the
session wrote it. -/
def commitRows (w : PlanWorld) (planId : Nat) (wrote : Bool) (row : Nat) : Bool :=
  if row = planId then wrote || w.isBase row else false

def commit (w : PlanWorld) (i : Nat) (s : PlanSession) (loaded : Bool) : PlanWorld :=
  { w.setPhase i s .committed with
    isBase := w.commitRows s.planId !loaded
    commits := ⟨s.planId, loaded, w.isBase s.planId⟩ :: w.commits }

/-- A statement of session `i`. What is not its next statement, or waits for a lock, changes
nothing. -/
def exec (w : PlanWorld) (i : Nat) (s : PlanSession) (stmt : PlanStmt) : PlanWorld :=
  match stmt, s.phase with
  | .select, .start =>
    if s.planId ∈ w.plans then w.setPhase i s (.loaded (w.isBase s.planId))
    else w.setPhase i s .missing
  | .clear, .loaded isBase =>
    if w.plans.any fun row => row != s.planId && w.locked i row then w
    else w.setPhase i s (.cleared isBase)
  | .flag, .cleared false =>
    if w.locked i s.planId then w else w.setPhase i s .flagged
  -- an unchanged attribute is not written
  | .commit, .cleared true => w.commit i s true
  | .commit, .flagged => w.commit i s false
  | _, _ => w

def step (w : PlanWorld) (e : Nat × PlanStmt) : PlanWorld :=
  match w.sessions[e.1]? with
  | some s => w.exec e.1 s e.2
  | none => w

def Finished (w : PlanWorld) : Prop :=
  ∀ s ∈ w.sessions, s.phase = .committed ∨ s.phase = .missing

instance (w : PlanWorld) : Decidable w.Finished :=
  inferInstanceAs (Decidable (∀ s ∈ w.sessions, s.phase = .committed ∨ s.phase = .missing))

/-- Exactly one plan is the base, and a call has named it. -/
def OneBaseOf (w : PlanWorld) (calls : List Nat) : Prop :=
  ∃ p ∈ calls, p ∈ w.plans ∧ ∀ q ∈ w.plans, w.isBase q = true ↔ q = p

def getBasePlan (w : PlanWorld) : Option Nat := w.plans.find? fun p => w.isBase p

/-- The session wrote the flag, or had no need to. -/
def Fresh (c : PlanCommit) : Prop := c.loaded = false ∨ c.current = true

/-- Sessions belong to the calls and to existing plans, and the rows are as the last commit left
them. -/
structure Settled (plans calls : List Nat) (w : PlanWorld) : Prop where
  rows : w.plans = plans
  named : w.sessions.map PlanSession.planId = calls
  missing : ∀ s ∈ w.sessions, s.phase = .missing → s.planId ∉ plans
  present : ∀ s ∈ w.sessions, s.phase ≠ .start → s.phase ≠ .missing → s.planId ∈ plans
  counted : ∀ s ∈ w.sessions, s.phase = .committed → w.commits ≠ []
  last : ∀ c rest, w.commits = c :: rest → c.planId ∈ calls ∧ c.planId ∈ plans ∧
    ∀ row, w.isBase row = true ↔ row = c.planId ∧ Fresh c

section Settled
variable {plans calls : List Nat} {w : PlanWorld} {i : Nat} {s : PlanSession} {phase : PlanPhase}

theorem start_settled (plans : List Nat) (isBase : Nat → Bool) (calls : List Nat) :
    Settled plans calls (start plans isBase calls) := by
  have hstart : ∀ s ∈ (start plans isBase calls).sessions, s.phase = .start := by
    intro s hs
    obtain ⟨p, _, rfl⟩ := List.mem_map.1 hs
    rfl
  exact
    { rows := rfl
      named := by simp only [start, List.map_map, Function.comp_def, List.map_id']
      missing := fun s hs h => by cases (hstart s hs).symm.trans h
      present := fun s hs h => absurd (hstart s hs) h
      counted := fun s hs h => by cases (hstart s hs).symm.trans h
      last := fun c rest h => absurd h (List.cons_ne_nil _ _).symm }

theorem set_planId {sessions : List PlanSession} (hs : sessions[i]? = some s)
    (phase : PlanPhase) :
    (sessions.set i { s with phase := phase }).map PlanSession.planId =
      sessions.map PlanSession.planId := by
  apply List.ext_getElem?
  intro j
  rw [List.getElem?_map, List.getElem?_map, List.getElem?_set]
  split
  · next hij =>
    subst hij
    rw [hs]
    split
    · rfl
    · next hlen => exact absurd (List.getElem?_eq_some_iff.1 hs).1 hlen
  · rfl

theorem setPhase_settled (h : Settled plans calls w) (hs : w.sessions[i]? = some s)
    (hmissing : phase = .missing → s.planId ∉ plans)
    (hpresent : phase ≠ .missing → s.planId ∈ plans) (hopen : phase ≠ .committed) :
    Settled plans calls (w.setPhase i s phase) where
  rows := h.rows
  named := (set_planId hs phase).trans h.named
  missing := by
    intro t ht hphase
    obtain hmem | rfl := List.mem_or_eq_of_mem_set ht
    · exact h.missing t hmem hphase
    · exact hmissing hphase
  present := by
    intro t ht hstart hphase
    obtain hmem | rfl := List.mem_or_eq_of_mem_set ht
    · exact h.present t hmem hstart hphase
    · exact hpresent hphase
  counted := by
    intro t ht hphase
    obtain hmem | rfl := List.mem_or_eq_of_mem_set ht
    · exact h.counted t hmem hphase
    · exact absurd hphase hopen
  last := h.last

/-- A session that is past its lookup and goes on has found its plan. -/
theorem Settled.planned (h : Settled plans calls w) (hs : w.sessions[i]? = some s)
    (hphase : s.phase = phase) (hstart : phase ≠ .start) (hmissing : phase ≠ .missing) :
    s.planId ∈ plans := by
  subst hphase
  exact h.present s (List.mem_of_getElem? hs) hstart hmissing

theorem commit_settled (h : Settled plans calls w) (hs : w.sessions[i]? = some s)
    (hplan : s.planId ∈ plans) (loaded : Bool) :
    Settled plans calls (w.commit i s loaded) where
  rows := h.rows
  named := (set_planId hs _).trans h.named
  missing := by
    intro t ht hm
    obtain hmem | rfl := List.mem_or_eq_of_mem_set ht
    · exact h.missing t hmem hm
    · cases hm
  present := by
    intro t ht hstart' hphase'
    obtain hmem | rfl := List.mem_or_eq_of_mem_set ht
    · exact h.present t hmem hstart' hphase'
    · exact hplan
  counted := fun _ _ _ => List.cons_ne_nil _ _
  last := by
    intro c rest heq
    obtain ⟨rfl, rfl⟩ := List.cons_eq_cons.1 heq
    refine ⟨?_, hplan, ?_⟩
    · rw [← h.named]
      exact List.mem_map_of_mem (List.mem_of_getElem? hs)
    · intro row
      simp only [commit, commitRows, Fresh]
      split
      · next heq =>
        subst heq
        cases loaded <;> simp
      · next hne => simp [hne]

theorem step_settled (h : Settled plans calls w) (e : Nat × PlanStmt) :
    Settled plans calls (w.step e) := by
  obtain ⟨i, stmt⟩ := e
  rw [step]
  split
  · next s hs =>
    rw [exec.eq_def]
    split
    · -- the plan is looked up
      split
      · next hplan =>
        rw [h.rows] at hplan
        exact setPhase_settled h hs (fun hm => by cases hm) (fun _ => hplan)
          fun hc => by cases hc
      · next hplan =>
        rw [h.rows] at hplan
        exact setPhase_settled h hs (fun _ => hplan) (fun hm => absurd rfl hm)
          fun hc => by cases hc
    · next hphase =>
      split
      · exact h
      · apply setPhase_settled h hs (fun hm => by cases hm)
        · intro _
          exact h.planned hs hphase PlanPhase.noConfusion PlanPhase.noConfusion
        · exact PlanPhase.noConfusion
    · next hphase =>
      split
      · exact h
      · apply setPhase_settled h hs (fun hm => by cases hm)
        · intro _
          exact h.planned hs hphase PlanPhase.noConfusion PlanPhase.noConfusion
        · exact PlanPhase.noConfusion
    · next hphase =>
      apply commit_settled h hs
      exact h.planned hs hphase PlanPhase.noConfusion PlanPhase.noConfusion
    · next hphase =>
      apply commit_settled h hs
      exact h.planned hs hphase PlanPhase.noConfusion PlanPhase.noConfusion
    · exact h
  · exact h

theorem run_settled (h : Settled plans calls w) (run : List (Nat × PlanStmt)) :
    Settled plans calls (run.foldl step w) := by
  induction run generalizing w with
  | nil => exact h
  | cons e run ih => exact ih (step_settled h e)

theorem Settled.has_commit (h : Settled plans calls w) (hf : w.Finished)
    (hp : ∃ p ∈ calls, p ∈ plans) : ∃ c rest, w.commits = c :: rest := by
  obtain ⟨p, hcall, hplan⟩ := hp
  rw [← h.named] at hcall
  obtain ⟨s, hs, rfl⟩ := List.mem_map.1 hcall
  obtain hc | hm := hf s hs
  · exact List.exists_cons_of_ne_nil (h.counted s hs hc)
  · exact absurd hplan (h.missing s hs hm)

end Settled

/-- However the calls overlap, once all are finished exactly one plan is the base if and only if
the call that committed last wrote the flag, or its plan still had it. -/
theorem one_base_iff (plans : List Nat) (isBase : Nat → Bool) (calls : List Nat)
    (run : List (Nat × PlanStmt)) (hf : (run.foldl step (start plans isBase calls)).Finished)
    (hp : ∃ p ∈ calls, p ∈ plans) :
    (run.foldl step (start plans isBase calls)).OneBaseOf calls ↔
      ∃ c, (run.foldl step (start plans isBase calls)).commits.head? = some c ∧ Fresh c := by
  have h := run_settled (start_settled plans isBase calls) run
  obtain ⟨c, rest, hc⟩ := h.has_commit hf hp
  obtain ⟨hnamed, hplan, hrows⟩ := h.last c rest hc
  rw [hc, List.head?_cons]
  constructor
  · intro ⟨p, _, hp, hbase⟩
    have htrue := (hbase p hp).2 rfl
    exact ⟨c, rfl, ((hrows p).1 htrue).2⟩
  · intro ⟨c', heq, hfresh⟩
    obtain rfl := Option.some.inj heq
    refine ⟨c.planId, hnamed, ?_, ?_⟩
    · rw [h.rows]
      exact hplan
    · intro q _
      rw [hrows q]
      exact ⟨fun hq => hq.1, fun hq => ⟨hq, hfresh⟩⟩

/-- The first call loads its plan while it is the base, and writes only after the second has made
another plan the base. -/
def overtaken : List (Nat × PlanStmt) :=
  [(0, .select), (1, .select), (1, .clear), (1, .flag), (1, .commit), (0, .clear), (0, .commit)]

theorem no_base_left : ¬∀ (plans : List Nat) (isBase : Nat → Bool) (calls : List Nat)
    (run : List (Nat × PlanStmt)),
    (∀ p ∈ plans, ∀ q ∈ plans, isBase p = true → isBase q = true → p = q) →
    (run.foldl step (start plans isBase calls)).Finished → (∃ p ∈ calls, p ∈ plans) →
      (run.foldl step (start plans isBase calls)).OneBaseOf calls := by
  intro h
  obtain ⟨p, hp, _, hbase⟩ := h [1, 2] (fun p => p == 1) [1, 2] overtaken (by simp)
    (by decide) ⟨1, by decide, by decide⟩
  have hnone : ∀ q ∈ [1, 2], (overtaken.foldl step
      (start [1, 2] (fun p => p == 1) [1, 2])).isBase q = false := by
    decide
  exact Bool.false_ne_true ((hnone p hp).symm.trans ((hbase p hp).2 rfl))

/-- Two taps on different plans, one after the other. -/
theorem one_base_sequential :
    ([(0, PlanStmt.select), (0, .clear), (0, .flag), (0, .commit), (1, .select), (1, .clear),
      (1, .flag), (1, .commit)].foldl step
        (start [1, 2, 3] (fun p => p == 3) [1, 2])).OneBaseOf [1, 2] := by
  apply (one_base_iff _ _ _ _ (by decide) ⟨1, by decide, by decide⟩).2
  exact ⟨⟨2, false, false⟩, by decide, .inl rfl⟩

end PlanWorld

end AegisVPN
