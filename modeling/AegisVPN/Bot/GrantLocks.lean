import AegisVPN.Bot.Procedures
import AegisVPN.Library.LockOrder
import AegisVPN.Library.Schedules

namespace AegisVPN
open Library
set_option autoImplicit true

/-- The two ways in which a payment is granted. -/
inductive GrantRun
  | platega (payment : Payment)
  | stars (tgId : Int) (planId : Nat) (chargeId : String)

section Programs
variable [DecidableEq D] (settings : ControlSettings D)

def GrantRun.program : GrantRun → BotProg D Unit
  | .platega payment => do
    let _ ← confirmPlategaPayment settings payment
    .ret ()
  | .stars tgId planId chargeId => processSuccessfulPayment settings tgId planId chargeId

end Programs

abbrev GrantPool (D τ : Type) := Pool (Db D) Source Nat AgentCall τ GrantRun BotError

/-! ## The stages of a grant -/

section Stages
variable [DecidableEq D] {settings : ControlSettings D} {stage : Stage Nat}

/-- Whatever may run under the lock of a user. -/
abbrev Inner {β : Type} (s : BotStmt D β) : Prop := s.inner = true

theorem applyPaid_inner (pending : Pending D) (userId : Nat) (planDays : Int)
    (payment : PaymentProvider × String) :
    (applyPaidSubscription settings pending userId planDays payment).Uses Inner := by
  refine applyPaidSubscription_uses ⟨⟨rfl, rfl, ?_⟩, ⟨?_, ?_⟩, ?_, ?_⟩ ⟨?_, ?_⟩ userId planDays
  all_goals
    intros
    rfl

omit [DecidableEq D] in
/-- A transaction under the lock: whatever it does, it gives the lock back. -/
theorem abides_lockCommit {p : BotProg D Unit} (h : p.Uses Inner) (stage₁ : Stage Nat)
    (hacquire : stage.acquire l = some stage₁) (hstage : stage₁ = .inside l ∨ stage₁ = .writing l)
    {Q : Unit → Stage Nat → Prop} {X : BotError → Stage Nat → Prop} (hQ : Q () .passed)
    (hX : ∀ e, X e .passed) :
    (withLock l (p.bind fun _ => commit [])).Abides Q X stage := by
  have hrelease : ∀ (r : Except BotError Unit) (s : Stage Nat), s.lock = some l →
      (((Prog.perform (.release l) : BotProg D Unit)).bind fun _ => Prog.ofExcept r).Abides
        Q X s := by
    intro r s hs
    refine Prog.abides_bind (Prog.abides_perform .passed ?_ fun _ => ?_)
    · simp only [Stage.next, hs, ↓reduceIte]
    · exact Prog.abides_ofExcept (fun _ => hQ) hX
  refine Prog.abides_bind (Prog.abides_perform stage₁ hacquire fun _ => ?_)
  refine Prog.abides_bind (Prog.abides_attempt ?_)
  refine Prog.abides_bind (Prog.abides_mono (Prog.abides_of_uses h (fun s hs stage hin =>
    Stage.next_inner hs hin) hstage) (fun _ s hin => ?_) fun e s hin => ?_)
  · refine Prog.abides_perform (.done l) ?_ fun _ => hrelease _ _ rfl
    rcases hin with rfl | rfl <;> rfl
  · refine hrelease _ _ ?_
    rcases hin with rfl | rfl <;> rfl

theorem confirmPlategaPayment_abides (payment : Payment) :
    (confirmPlategaPayment settings payment).Follows .outside := by
  refine Prog.abides_bind (Prog.abides_performOrRaise .claimed rfl
    (fun claimed => ?_) fun _ => rfl)
  split
  · refine Prog.abides_bind (Prog.abides_perform .claimed rfl fun user => ?_)
    split
    · exact Prog.abides_bind (abides_lockCommit (applyPaid_inner _ _ _ _)
        (.writing payment.userId) rfl (.inr rfl) rfl fun _ => rfl)
    · exact Prog.abides_bind (Prog.abides_perform .passed rfl fun _ => rfl)
  · exact Prog.abides_bind (Prog.abides_perform .passed rfl fun _ => rfl)

theorem processSuccessfulPayment_abides (tgId : Int) (planId : Nat) (chargeId : String) :
    (processSuccessfulPayment settings tgId planId chargeId).Follows .outside := by
  refine Prog.abides_bind (Prog.abides_performOrRaise .outside rfl
    (fun user => ?_) fun _ => rfl)
  refine Prog.abides_bind (Prog.abides_perform .outside rfl fun plan => ?_)
  cases user with
  | none => rfl
  | some user =>
    cases plan with
    | none => rfl
    | some plan =>
      refine Prog.abides_bind (Prog.abides_perform .outside rfl fun createdAt => ?_)
      exact abides_lockCommit (applyPaid_inner _ _ _ _) (.inside user.id) rfl (.inl rfl) rfl
        fun _ => rfl

theorem program_follows (run : GrantRun) : (run.program settings).Follows .outside := by
  cases run with
  | platega payment =>
    exact Prog.abides_bind (Prog.abides_mono (confirmPlategaPayment_abides payment)
      (fun _ _ h => h) fun _ _ h => h)
  | stars tgId planId chargeId => exact processSuccessfulPayment_abides tgId planId chargeId

end Stages

/-! ## The order of the locks -/

/-- In every run in which no confirmation claims a payment on its way to a lock that another grant
has and has not committed under, and no grant takes the lock that a claiming confirmation is on its
way to, nobody waits in a circle, and whoever has the writer lock goes on, or waits for a grant
that does. -/
theorem grants_wait_in_order [DecidableEq D] (settings : ControlSettings D)
    (act : AgentCall → τ → τ) (db : Db D) (now : Int) (nodes : τ) {P : GrantPool D τ}
    (hs : Pool.Steps (GrantRun.program settings) act Pool.Orderly (Pool.initial db now nodes) P) :
    ¬ P.CircularWait ∧ ∀ i, P.writer = some i → (∀ f, (P.step act i f).isSome = true) ∨
      ∃ t l j, P.tasks[i]? = some t ∧ t.prog.asks = some l ∧ (l, j) ∈ P.locks ∧
        ∀ f, (P.step act j f).isSome = true := by
  have hordered := (Pool.Ordered.initial db now nodes).steps program_follows hs
  exact ⟨hordered.no_circular_wait, fun i hw => hordered.writer_moves act hw⟩

/-! ## Two payments of one user -/

def twoPayments : Db (List DesiredItem) := { Db.empty with
  users := [⟨1, 11, false, false, none⟩]
  plans := [⟨2, 90⟩]
  payments := [⟨1, 1, "platega_t", 30, .platega, some .pending, 0⟩] }

def plategaRun : GrantRun := .platega ⟨1, 1, "platega_t", 30, .platega, none, 0⟩

def starsRun : GrantRun := .stars 11 2 "charge"

/-- Nobody else has the writer lock, or a lock of a user. -/
def LocksFree (P : GrantPool D τ) (i : Nat) : Prop :=
  (P.writer = none ∨ P.writer = some i) ∧ ∀ l ∈ P.locks, l.2 = i

instance (P : GrantPool D τ) (i : Nat) : Decidable (LocksFree P i) :=
  inferInstanceAs (Decidable ((P.writer = none ∨ P.writer = some i) ∧ ∀ l ∈ P.locks, l.2 = i))

/-- The payment in Stars has been received, and waits until the confirmation is through. -/
theorem grants_wait_in_order_twice : ∃ P : GrantPool (List DesiredItem) Unit,
    Pool.Steps (GrantRun.program listSettings) (fun _ n => n) Pool.Orderly
      (Pool.initial twoPayments 0 ()) P ∧
    P.db.granted = [(.platega, "platega_t"), (.stars, "charge")] ∧ ¬ P.CircularWait := by
  have hrun : (Pool.play (GrantRun.program listSettings) (fun _ n => n) LocksFree
      ([.spawn plategaRun, .spawn starsRun] ++ Event.runs 1 3 "" ++ Event.runs 0 20 "f3a9" ++
        Event.runs 1 13 "f3a9") (Pool.initial twoPayments 0 () :
          GrantPool (List DesiredItem) Unit)).any
        (fun P => decide (P.db.granted = [(.platega, "platega_t"), (.stars, "charge")])) =
        true := by
    decide +kernel
  obtain ⟨P, hs, hgrant⟩ := Pool.exists_of_play hrun
  have horderly := Pool.Steps.weaken (Y := Pool.Orderly)
    (fun P i h => Pool.orderly_of_free h.1 h.2) hs
  exact ⟨P, horderly, of_decide_eq_true hgrant,
    (grants_wait_in_order listSettings (fun _ n => n) twoPayments 0 () horderly).1⟩

/-- The confirmation claims its payment and waits for the lock of the user, under which the payment
in Stars waits to write. -/
theorem grants_wait_in_a_circle : ∃ P : GrantPool (List DesiredItem) Unit,
    Pool.Steps (GrantRun.program listSettings) (fun _ n => n) (fun _ _ => True)
      (Pool.initial twoPayments 0 ()) P ∧ P.CircularWait := by
  have hrun : (Pool.play (GrantRun.program listSettings) (fun _ n => n) (fun _ _ => True)
      ([.spawn plategaRun, .spawn starsRun] ++ Event.runs 0 2 "" ++ Event.runs 1 10 "f3a9")
      (Pool.initial twoPayments 0 () : GrantPool (List DesiredItem) Unit)).any
        (fun P => decide (P.writer = some 0 ∧ (1, 1) ∈ P.locks ∧
          (P.tasks.map fun t => (t.prog.asks, t.prog.writesNext)) =
            [(some 1, false), (none, true)])) = true := by
    decide +kernel
  obtain ⟨P, hs, hwait⟩ := Pool.exists_of_play hrun
  obtain ⟨hwriter, hlock, htasks⟩ := of_decide_eq_true hwait
  refine ⟨P, hs, ?_⟩
  rcases h : P.tasks with _ | ⟨t, _ | ⟨t', rest⟩⟩
  · simp [h] at htasks
  · simp [h] at htasks
  · rw [h] at htasks
    simp only [List.map_cons, List.cons.injEq, Prod.mk.injEq] at htasks
    exact ⟨0, 1, t, t', 1, by rw [h]; rfl, by rw [h]; rfl, by decide, hwriter, htasks.1.1, hlock,
      htasks.2.1.2⟩

end AegisVPN
