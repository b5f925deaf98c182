import AegisVPN.Agent.ControlLoop
import AegisVPN.Control.Applicable
import AegisVPN.Control.NodeApi
import AegisVPN.Library.Runs

namespace AegisVPN
open Library
set_option autoImplicit true

/-! ## A node that reports to the control plane -/

/-- What one call of `send_telemetry` has to deliver, and the process that called it. -/
structure TelemetryMessage where
  life : Nat
  sequence : Nat
  payload : List (String × Json)
  deriving DecidableEq

/-- The agent and the control plane. `inFlight` are the requests that may still arrive; what follows
`plane` is history: the requests with the bound on the disk when they were sent, the messages that
were stored, and those that `send_telemetry` has returned for. -/
structure TelemetryWorld (D : Type) where
  node : Agent D
  life : Nat
  vars : LoopVars
  sending : Option TelemetryMessage
  inFlight : List TelemetryMessage
  plane : ControlPlane D
  sent : List (TelemetryMessage × Nat)
  stored : List TelemetryMessage
  returned : List TelemetryMessage

inductive TelemetryEvent (D : Type)
  | begin (payload : List (String × Json)) (write : Fate)
  | request
  | serve (i : Nat) (delivered : Bool)
  | lose (i : Nat)
  | giveUp
  | restart (read : Fate)
  | edit (db : Db D)
  | other (serverId sequence : Nat) (payload : List (String × Json))

/-- The request was stored. -/
def NodeResponse.isOk : NodeResponse D → Bool
  | .ok => true
  | _ => false

/-- The status of the response is 200. -/
def NodeResponse.isSuccess : NodeResponse D → Bool
  | .ok => true
  | .duplicate => true
  | _ => false

/-- The bound that is reserved on the disk. -/
def TelemetryWorld.bound (w : TelemetryWorld D) : Nat := w.node.telemetrySequence.getD 0

section World
variable (maxTelemetryBytes serverId : Nat)

/-- An iteration has its payload and reserves the number that it goes under. -/
def TelemetryWorld.begin (w : TelemetryWorld D) (payload : List (String × Json)) (write : Fate) :
    TelemetryWorld D :=
  if w.sending.isSome then w
  else
    let message : TelemetryMessage := ⟨w.life, w.vars.sequence + 1, payload⟩
    if w.vars.sequence + 1 > w.vars.reservedSequence then
      let saved := saveTelemetrySequence w.vars.reserve.reservedSequence write w.node
      match saved.1 with
      | .ok () => { w with vars := w.vars.reserve, node := saved.2, sending := some message }
      | .error _ => { w with vars := w.vars.reserve, node := saved.2 }
    else { w with sending := some message }

/-- One endpoint is asked; after a failover it is the next one. -/
def TelemetryWorld.request (w : TelemetryWorld D) : TelemetryWorld D :=
  match w.sending with
  | some message => { w with
      inFlight := w.inFlight ++ [message]
      sent := w.sent ++ [(message, w.bound)] }
  | none => w

/-- The process is given a response. -/
def TelemetryWorld.answered (w : TelemetryWorld D) (message : TelemetryMessage)
    (response : NodeResponse D) : TelemetryWorld D :=
  if response.isSuccess then { w with
    vars := { w.vars with sequence := w.vars.sequence + 1 }
    sending := none
    returned := w.returned ++ [message] }
  else { w with sending := none }

/-- The control plane works on a request, and its response arrives or is lost. -/
def TelemetryWorld.serve (w : TelemetryWorld D) (i : Nat) (delivered : Bool) : TelemetryWorld D :=
  match w.inFlight[i]? with
  | none => w
  | some message =>
    let served := receiveTelemetry maxTelemetryBytes serverId message.sequence message.payload
      w.plane
    let next : TelemetryWorld D := { w with
      plane := served.2
      inFlight := w.inFlight.eraseIdx i
      stored := if served.1.isOk then w.stored ++ [message] else w.stored }
    if delivered = true ∧ w.sending = some message then next.answered message served.1 else next

/-- The process dies, and the supervisor starts another. -/
def TelemetryWorld.restart (w : TelemetryWorld D) (read : Fate) : TelemetryWorld D :=
  let sequence := (loadTelemetrySequence read w.node).1
  { w with life := w.life + 1, vars := ⟨sequence, sequence⟩, sending := none }

def TelemetryWorld.step (w : TelemetryWorld D) : TelemetryEvent D → TelemetryWorld D
  | .begin payload write => w.begin payload write
  | .request => w.request
  | .serve i delivered => w.serve maxTelemetryBytes serverId i delivered
  | .lose i => { w with inFlight := w.inFlight.eraseIdx i }
  | .giveUp => { w with sending := none }
  | .restart read => w.restart read
  | .edit db => { w with plane := { w.plane with db := db } }
  | .other serverId' sequence payload =>
    if serverId' = serverId then w
    else { w with
      plane := (receiveTelemetry maxTelemetryBytes serverId' sequence payload w.plane).2 }

/-- A node that has not reported yet starts. -/
def TelemetryWorld.start (node : Agent D) (plane : ControlPlane D) : TelemetryWorld D where
  node := { node with telemetrySequence := none }
  life := 0
  vars := ⟨0, 0⟩
  sending := none
  inFlight := []
  plane := { plane with telemetry := plane.telemetry.filter fun t => t.serverId != serverId }
  sent := []
  stored := []
  returned := []

def telemetryRun (w : TelemetryWorld D) (events : List (TelemetryEvent D)) : TelemetryWorld D :=
  events.foldl (TelemetryWorld.step maxTelemetryBytes serverId) w

end World

/-! ## The row of the node -/

section Row
variable {maxTelemetryBytes serverId sequence : Nat} {payload : List (String × Json)}

def ControlPlane.row (plane : ControlPlane D) (serverId : Nat) : Option NodeTelemetry :=
  plane.telemetry.find? fun t => t.serverId == serverId

/-- A request is stored over a smaller number, or it changes nothing; it is a duplicate only of a
number that is not smaller. -/
theorem receiveTelemetry_cases (maxTelemetryBytes serverId sequence : Nat)
    (payload : List (String × Json)) (plane : ControlPlane D) :
    ((receiveTelemetry maxTelemetryBytes serverId sequence payload plane).1 = .ok ∧
      (∀ t ∈ plane.row serverId, t.sequence < sequence) ∧
      (receiveTelemetry maxTelemetryBytes serverId sequence payload plane).2.row serverId =
        some ⟨serverId, sequence, payload⟩) ∨
    ((receiveTelemetry maxTelemetryBytes serverId sequence payload plane).1.isOk = false ∧
      (receiveTelemetry maxTelemetryBytes serverId sequence payload plane).2 = plane ∧
      ((receiveTelemetry maxTelemetryBytes serverId sequence payload plane).1.isSuccess = true →
        ∃ t ∈ plane.row serverId, sequence ≤ t.sequence)) := by
  rw [ControlPlane.row, receiveTelemetry]
  split
  · exact .inr ⟨rfl, rfl, fun h => by cases h⟩
  cases plane.db.server serverId with
  | none => exact .inr ⟨rfl, rfl, fun h => by cases h⟩
  | some server =>
    cases hfind : plane.telemetry.find? fun t => t.serverId == serverId with
    | none =>
      refine .inl ⟨rfl, by simp, ?_⟩
      simp [ControlPlane.row, List.find?_append, hfind]
    | some t =>
      dsimp only
      split
      · rename_i hle
        exact .inr ⟨rfl, rfl, fun _ => ⟨t, rfl, hle⟩⟩
      · rename_i hlt
        refine .inl ⟨rfl, fun t' ht' => ?_, ?_⟩
        · obtain rfl := Option.some.inj ht'
          exact Nat.lt_of_not_le hlt
        · have hfound := List.find?_some hfind
          have hid : t.serverId = serverId := beq_iff_eq.1 hfound
          have hkeep : ((fun t : NodeTelemetry => t.serverId == serverId) ∘ fun t : NodeTelemetry =>
              t.renew serverId sequence payload) = fun t => t.serverId == serverId := by
            funext t
            rw [Function.comp_apply, renew_serverId]
          rw [ControlPlane.row, List.find?_map, hkeep, hfind, Option.map_some,
            NodeTelemetry.renew, if_pos hid]

theorem receiveTelemetry_other (plane : ControlPlane D) {serverId' : Nat}
    (h : serverId' ≠ serverId) :
    (receiveTelemetry maxTelemetryBytes serverId' sequence payload plane).2.row serverId =
      plane.row serverId := by
  have hspares := (receiveTelemetry_spares maxTelemetryBytes serverId' sequence payload
    plane).telemetry
  have hrow : ∀ telemetry : List NodeTelemetry, (telemetry.find? fun t => t.serverId == serverId) =
      (telemetry.filter fun t => t.serverId != serverId').find? fun t =>
        t.serverId == serverId := by
    intro telemetry
    rw [List.find?_filter]
    congr 1
    funext t
    by_cases hid : t.serverId = serverId
    · simp [hid, Ne.symm h]
    · simp [hid]
  rw [ControlPlane.row, ControlPlane.row, hrow, hspares, ← hrow]

end Row

/-! ## What a step can do -/

/-- A new message goes under the next number. Where the reservation has run out, a new one is noted
in memory, and the message is sent only once it is on the disk. -/
theorem begin_cases (w : TelemetryWorld D) (payload : List (String × Json)) (write : Fate) :
    w.begin payload write = w ∨
    (w.vars.sequence + 1 ≤ w.vars.reservedSequence ∧ w.begin payload write =
      { w with sending := some ⟨w.life, w.vars.sequence + 1, payload⟩ }) ∨
    (w.vars.reservedSequence < w.vars.sequence + 1 ∧ ∃ file sending, w.begin payload write =
        { w with
          node := { w.node with telemetrySequence := file }
          vars := ⟨w.vars.sequence, w.vars.sequence + telemetrySequenceBlock⟩
          sending := sending } ∧
      ((file = w.node.telemetrySequence ∧ sending = none) ∨
        (file = some (w.vars.sequence + telemetrySequenceBlock) ∧
          (sending = none ∨ sending = some ⟨w.life, w.vars.sequence + 1, payload⟩)))) := by
  rw [TelemetryWorld.begin]
  split
  · exact .inl rfl
  rename_i hidle
  have hsending : w.sending = none := by simpa using hidle
  split
  · rename_i hout
    have hreserve : w.vars.reserve =
        ⟨w.vars.sequence, w.vars.sequence + telemetrySequenceBlock⟩ := by
      rw [LoopVars.reserve, if_pos hout]
    rw [hreserve]
    refine .inr (.inr ⟨hout, ?_⟩)
    cases write with
    | ok => exact ⟨_, _, rfl, .inr ⟨rfl, .inr rfl⟩⟩
    | fail => exact ⟨w.node.telemetrySequence, none, by rw [← hsending]; rfl, .inl ⟨rfl, rfl⟩⟩
    | lost =>
      exact ⟨some (w.vars.sequence + telemetrySequenceBlock), none, by rw [← hsending]; rfl,
        .inr ⟨rfl, .inl rfl⟩⟩
  · rename_i hin
    exact .inr (.inl ⟨Nat.le_of_not_lt hin, rfl⟩)

theorem serve_cases (maxTelemetryBytes serverId : Nat) (w : TelemetryWorld D) (i : Nat)
    (delivered : Bool) :
    w.serve maxTelemetryBytes serverId i delivered = w ∨
    ∃ m ∈ w.inFlight, ∃ vars sending returned,
      w.serve maxTelemetryBytes serverId i delivered = { w with
        plane := (receiveTelemetry maxTelemetryBytes serverId m.sequence m.payload w.plane).2
        inFlight := w.inFlight.eraseIdx i
        stored := if (receiveTelemetry maxTelemetryBytes serverId m.sequence m.payload
          w.plane).1.isOk then w.stored ++ [m] else w.stored
        vars := vars
        sending := sending
        returned := returned } ∧
      ((vars = w.vars ∧ (sending = none ∨ sending = w.sending) ∧ returned = w.returned) ∨
        (w.sending = some m ∧ (receiveTelemetry maxTelemetryBytes serverId m.sequence m.payload
            w.plane).1.isSuccess = true ∧
          vars = { w.vars with sequence := w.vars.sequence + 1 } ∧ sending = none ∧
          returned = w.returned ++ [m])) := by
  rw [TelemetryWorld.serve]
  cases hm : w.inFlight[i]? with
  | none => exact .inl rfl
  | some m =>
    refine .inr ⟨m, List.mem_of_getElem? hm, ?_⟩
    dsimp only
    split
    · rename_i hgiven
      rw [TelemetryWorld.answered]
      split
      · rename_i hsuccess
        exact ⟨_, _, _, rfl, .inr ⟨hgiven.2, hsuccess, rfl, rfl, rfl⟩⟩
      · exact ⟨_, _, _, rfl, .inl ⟨rfl, .inl rfl, rfl⟩⟩
    · exact ⟨_, _, _, rfl, .inl ⟨rfl, .inr rfl, rfl⟩⟩

/-! ## What is stored -/

/-- The row of the node has the last number that was stored, and the numbers go up. -/
structure StoredUp (serverId : Nat) (w : TelemetryWorld D) : Prop where
  unstored : w.plane.row serverId = none → w.stored = []
  le : ∀ t ∈ w.plane.row serverId, ∀ m ∈ w.stored, m.sequence ≤ t.sequence
  mem : ∀ t ∈ w.plane.row serverId, ∃ m ∈ w.stored, m.sequence = t.sequence
  increasing : w.stored.Pairwise fun m m' => m.sequence < m'.sequence

section Stored
variable {maxTelemetryBytes serverId : Nat} {w : TelemetryWorld D}

theorem StoredUp.start (serverId : Nat) (node : Agent D) (plane : ControlPlane D) :
    StoredUp serverId (.start serverId node plane) := by
  have hrow : (TelemetryWorld.start serverId node plane).plane.row serverId = none := by
    refine List.find?_eq_none.2 fun t ht => ?_
    have hid := (List.mem_filter.1 ht).2
    simpa using hid
  constructor
  · exact fun _ => rfl
  · intro t _ m hm
    cases hm
  · intro t ht
    rw [hrow] at ht
    cases ht
  · exact .nil

theorem StoredUp.congr {w' : TelemetryWorld D} (h : StoredUp serverId w)
    (hrow : w'.plane.row serverId = w.plane.row serverId) (hstored : w'.stored = w.stored) :
    StoredUp serverId w' := by
  constructor
  · rw [hrow, hstored]
    exact h.unstored
  · rw [hrow, hstored]
    exact h.le
  · rw [hrow, hstored]
    exact h.mem
  · rw [hstored]
    exact h.increasing

theorem StoredUp.serve (h : StoredUp serverId w) (i : Nat) (delivered : Bool) :
    StoredUp serverId (w.serve maxTelemetryBytes serverId i delivered) := by
  rcases serve_cases maxTelemetryBytes serverId w i delivered with
    heq | ⟨m, -, vars, sending, returned, heq, -⟩
  · rw [heq]
    exact h
  rw [heq]
  rcases receiveTelemetry_cases maxTelemetryBytes serverId m.sequence m.payload w.plane with
    ⟨hok, hlt, hrow⟩ | ⟨hnot, hplane, -⟩
  · have hall : ∀ m' ∈ w.stored, m'.sequence < m.sequence := by
      intro m' hm'
      cases hfind : w.plane.row serverId with
      | none =>
        rw [h.unstored hfind] at hm'
        cases hm'
      | some t => exact Nat.lt_of_le_of_lt (h.le t hfind m' hm') (hlt t hfind)
    rw [hok]
    constructor
    · intro hnone
      rw [hrow] at hnone
      cases hnone
    · intro t ht m' hm'
      obtain rfl := Option.some.inj (hrow.symm.trans ht)
      rcases List.mem_append.1 hm' with hm' | hm'
      · exact Nat.le_of_lt (hall m' hm')
      · rw [List.mem_singleton.1 hm']
    · intro t ht
      obtain rfl := Option.some.inj (hrow.symm.trans ht)
      exact ⟨m, List.mem_append_right _ (List.mem_singleton_self m), rfl⟩
    · refine List.pairwise_append.2 ⟨h.increasing, List.pairwise_singleton _ _, ?_⟩
      intro m' hm' m'' hm''
      rw [List.mem_singleton.1 hm'']
      exact hall m' hm'
  · exact h.congr (by rw [hplane]) (by rw [hnot]; rfl)

theorem StoredUp.begin (h : StoredUp serverId w) (payload : List (String × Json)) (write : Fate) :
    StoredUp serverId (w.begin payload write) := by
  rcases begin_cases w payload write with heq | ⟨-, heq⟩ | ⟨-, file, sending, heq, -⟩
  · rw [heq]
    exact h
  · rw [heq]
    exact h.congr rfl rfl
  · rw [heq]
    exact h.congr rfl rfl

theorem StoredUp.step (h : StoredUp serverId w) (e : TelemetryEvent D) :
    StoredUp serverId (w.step maxTelemetryBytes serverId e) := by
  cases e with
  | begin payload write => exact h.begin payload write
  | request =>
    rw [TelemetryWorld.step, TelemetryWorld.request]
    cases w.sending with
    | none => exact h
    | some m => exact h.congr rfl rfl
  | serve i delivered => exact h.serve i delivered
  | lose i => exact h.congr rfl rfl
  | giveUp => exact h.congr rfl rfl
  | restart read => exact h.congr rfl rfl
  | edit db => exact h.congr rfl rfl
  | other serverId' sequence payload =>
    rw [TelemetryWorld.step]
    split
    · exact h
    · rename_i hother
      exact h.congr (receiveTelemetry_other w.plane hother) rfl

theorem StoredUp.run (h : StoredUp serverId w) (events : List (TelemetryEvent D)) :
    StoredUp serverId (telemetryRun maxTelemetryBytes serverId w events) := by
  induction events generalizing w with
  | nil => exact h
  | cons e events ih => exact ih (h.step e)

end Stored

/-! ## What is reserved -/

/-- Every number that is sent is reserved on the disk, and a process goes on after all numbers that
earlier ones have sent. -/
structure SentReserved (w : TelemetryWorld D) : Prop where
  bound_le : w.bound ≤ w.vars.reservedSequence
  sending : ∀ m ∈ w.sending,
    m.life = w.life ∧ m.sequence = w.vars.sequence + 1 ∧ m.sequence ≤ w.bound
  sent_bound : ∀ p ∈ w.sent, p.1.sequence ≤ p.2 ∧ p.2 ≤ w.bound
  sent_life : ∀ p ∈ w.sent, p.1.life ≤ w.life
  earlier : ∀ p ∈ w.sent, p.1.life < w.life → p.1.sequence ≤ w.vars.sequence
  ordered : ∀ p ∈ w.sent, ∀ q ∈ w.sent, p.1.life < q.1.life → p.1.sequence < q.1.sequence

/-- An iteration begins where the reservation in memory is on the disk or has run out, and a process
starts where it can read the file, if there is one. -/
def ReservationKept (w : TelemetryWorld D) : TelemetryEvent D → Prop
  | .begin _ _ => w.vars.reservedSequence ≤ w.bound ∨ w.vars.reservedSequence < w.vars.sequence + 1
  | .restart read => read = .ok ∨ w.node.telemetrySequence = none
  | _ => True

section Reserved
variable {maxTelemetryBytes serverId : Nat} {w : TelemetryWorld D}

theorem SentReserved.start (serverId : Nat) (node : Agent D) (plane : ControlPlane D) :
    SentReserved (.start serverId node plane) := by
  constructor <;> simp [TelemetryWorld.start, TelemetryWorld.bound]

theorem SentReserved.begin (h : SentReserved w) (payload : List (String × Json)) (write : Fate)
    (hkept : ReservationKept w (.begin payload write)) :
    SentReserved (w.begin payload write) := by
  have hblock : w.vars.sequence + 1 ≤ w.vars.sequence + telemetrySequenceBlock :=
    Nat.add_le_add_left (by decide) _
  rcases begin_cases w payload write with heq | ⟨hin, heq⟩ | ⟨hout, file, sending, heq, hcase⟩
  · rw [heq]
    exact h
  · have hreserved : w.vars.sequence + 1 ≤ w.bound :=
      hkept.elim hin.trans fun hout => absurd hin (Nat.not_le_of_lt hout)
    rw [heq]
    refine { h with sending := fun m hm => ?_ }
    obtain rfl := Option.some.inj hm
    exact ⟨rfl, rfl, hreserved⟩
  · rw [heq]
    have hfile : w.bound ≤ file.getD 0 ∧
        file.getD 0 ≤ w.vars.sequence + telemetrySequenceBlock := by
      have hbound : w.bound ≤ w.vars.sequence + telemetrySequenceBlock :=
        h.bound_le.trans ((Nat.le_of_lt_succ hout).trans (Nat.le_add_right _ _))
      rcases hcase with ⟨rfl, -⟩ | ⟨rfl, -⟩
      · exact ⟨Nat.le_refl _, hbound⟩
      · exact ⟨hbound, Nat.le_refl _⟩
    refine { h with bound_le := hfile.2, sending := fun m hm => ?_, sent_bound := fun p hp => ?_ }
    · rcases hcase with ⟨-, rfl⟩ | ⟨rfl, rfl | rfl⟩
      · cases hm
      · cases hm
      · obtain rfl := Option.some.inj hm
        exact ⟨rfl, rfl, hblock⟩
    · exact ⟨(h.sent_bound p hp).1, (h.sent_bound p hp).2.trans hfile.1⟩

theorem SentReserved.request (h : SentReserved w) : SentReserved w.request := by
  rw [TelemetryWorld.request]
  cases hsending : w.sending with
  | none => exact h
  | some m =>
    obtain ⟨hlife, hnext, hbound⟩ := h.sending m hsending
    have hsent : ∀ p ∈ w.sent ++ [(m, w.bound)], p ∈ w.sent ∨ p = (m, w.bound) := by simp
    constructor
    · exact h.bound_le
    · exact fun m' hm' => h.sending m' (hsending.trans hm')
    · intro p hp
      rcases hsent p hp with hp | rfl
      · exact h.sent_bound p hp
      · exact ⟨hbound, Nat.le_refl _⟩
    · intro p hp
      rcases hsent p hp with hp | rfl
      · exact h.sent_life p hp
      · exact Nat.le_of_eq hlife
    · intro p hp hp'
      rcases hsent p hp with hp | rfl
      · exact h.earlier p hp hp'
      · exact absurd hlife (Nat.ne_of_lt hp')
    · intro p hp q hq hlt
      rcases hsent p hp with hp | rfl
      · rcases hsent q hq with hq | rfl
        · exact h.ordered p hp q hq hlt
        · dsimp only at hlt ⊢
          rw [hlife] at hlt
          rw [hnext]
          exact Nat.lt_succ_of_le (h.earlier p hp hlt)
      · rcases hsent q hq with hq | rfl
        · dsimp only at hlt
          rw [hlife] at hlt
          exact absurd (h.sent_life q hq) (Nat.not_le_of_lt hlt)
        · exact absurd hlt (Nat.lt_irrefl _)

theorem SentReserved.serve (h : SentReserved w) (i : Nat) (delivered : Bool) :
    SentReserved (w.serve maxTelemetryBytes serverId i delivered) := by
  rcases serve_cases maxTelemetryBytes serverId w i delivered with
    heq | ⟨m, -, vars, sending, returned, heq, hcase⟩
  · rw [heq]
    exact h
  · rw [heq]
    rcases hcase with ⟨rfl, rfl | rfl, rfl⟩ | ⟨-, -, rfl, rfl, rfl⟩
    · exact { h with sending := fun m hm => by cases hm }
    · exact { h with }
    · refine { h with sending := fun m hm => (by cases hm), earlier := fun p hp hlt => ?_ }
      exact Nat.le_succ_of_le (h.earlier p hp hlt)

theorem SentReserved.restart (h : SentReserved w) (read : Fate)
    (hkept : ReservationKept w (.restart read)) : SentReserved (w.restart read) := by
  have hloaded : (loadTelemetrySequence read w.node).1 = w.bound := by
    rw [loadTelemetrySequence]
    split
    · rfl
    · rename_i hfailed
      rw [TelemetryWorld.bound, hkept.resolve_left hfailed]
      rfl
  rw [TelemetryWorld.restart, hloaded]
  refine { h with
    bound_le := Nat.le_refl _
    sending := fun m hm => by cases hm
    sent_life := fun p hp => Nat.le_succ_of_le (h.sent_life p hp)
    earlier := fun p hp _ => ?_ }
  exact (h.sent_bound p hp).1.trans (h.sent_bound p hp).2

theorem SentReserved.step (h : SentReserved w) (e : TelemetryEvent D)
    (hkept : ReservationKept w e) : SentReserved (w.step maxTelemetryBytes serverId e) := by
  cases e with
  | begin payload write => exact h.begin payload write hkept
  | request => exact h.request
  | serve i delivered => exact h.serve i delivered
  | lose i => exact { h with }
  | giveUp => exact { h with sending := fun m hm => by cases hm }
  | restart read => exact h.restart read hkept
  | edit db => exact { h with }
  | other serverId' sequence payload =>
    rw [TelemetryWorld.step]
    split
    · exact h
    · exact { h with }

end Reserved

/-- In every run in which no iteration begins on a reservation that is in memory only, and no
process starts without the file that there is: every number that is sent is reserved on the disk
before, what is stored goes up, and after a restart no message has the number of an earlier one. -/
theorem telemetry_sequences_reserved (maxTelemetryBytes serverId : Nat) (node : Agent D)
    (plane : ControlPlane D) (events : List (TelemetryEvent D))
    (hkept : Along (TelemetryWorld.step maxTelemetryBytes serverId) ReservationKept
      (.start serverId node plane) events) :
    let w := telemetryRun maxTelemetryBytes serverId (.start serverId node plane) events
    (∀ p ∈ w.sent, p.1.sequence ≤ p.2) ∧
    (w.stored.Pairwise fun m m' => m.sequence < m'.sequence) ∧
    ∀ p ∈ w.sent, ∀ q ∈ w.sent, p.1.life < q.1.life → p.1.sequence < q.1.sequence := by
  intro w
  have hreserved : SentReserved w := run_invariant (.start serverId node plane)
    (fun w e h hkept => h.step e hkept) hkept
  have hstored : StoredUp serverId w := (StoredUp.start serverId node plane).run events
  exact ⟨fun p hp => (hreserved.sent_bound p hp).1, hstored.increasing, hreserved.ordered⟩

instance decidableReservationKept (w : TelemetryWorld D) :
    ∀ e, Decidable (ReservationKept w e)
  | .begin _ _ => inferInstanceAs (Decidable (_ ∨ _))
  | .restart _ => inferInstanceAs (Decidable (_ ∨ _))
  | .request => inferInstanceAs (Decidable True)
  | .serve _ _ => inferInstanceAs (Decidable True)
  | .lose _ => inferInstanceAs (Decidable True)
  | .giveUp => inferInstanceAs (Decidable True)
  | .edit _ => inferInstanceAs (Decidable True)
  | .other _ _ _ => inferInstanceAs (Decidable True)

def reportingNode : Agent (List DesiredItem) :=
  ⟨⟨[], none, none, none⟩, 0, none, .missing, [], [], [], [], [], none, []⟩

def reportingPlane : ControlPlane (List DesiredItem) :=
  ⟨{ Db.empty with servers := [cascadeServer 1] }, [], []⟩

/-- A message of each of two processes, both of which arrive. -/
def twoReports : List (TelemetryEvent (List DesiredItem)) :=
  [.begin [] .ok, .request, .serve 0 true, .restart .ok, .begin [] .ok, .request, .serve 0 true]

theorem telemetry_sequences_reserved_twice :
    ((telemetryRun 1000 1 (.start 1 reportingNode reportingPlane) twoReports).sent =
      [(⟨0, 1, []⟩, 1024), (⟨1, 1025, []⟩, 2048)]) ∧
    (telemetryRun 1000 1 (.start 1 reportingNode reportingPlane) twoReports).stored.Pairwise
      fun m m' => m.sequence < m'.sequence :=
  ⟨by decide, (telemetry_sequences_reserved 1000 1 reportingNode reportingPlane twoReports
    (by decide)).2.1⟩

/-- The reservation is not written, and the next message goes under a number of it. -/
theorem telemetry_sequences_reused :
    ¬ ∀ events : List (TelemetryEvent (List DesiredItem)),
      let w := telemetryRun 1000 1 (.start 1 reportingNode reportingPlane) events
      (∀ p ∈ w.sent, p.1.sequence ≤ p.2) ∧
      (w.stored.Pairwise fun m m' => m.sequence < m'.sequence) ∧
      ∀ p ∈ w.sent, ∀ q ∈ w.sent, p.1.life < q.1.life → p.1.sequence < q.1.sequence := by
  intro hall
  have hsent : (⟨⟨0, 1, []⟩, 0⟩ : TelemetryMessage × Nat) ∈ (telemetryRun 1000 1 (.start 1
      reportingNode reportingPlane) [.begin [] .fail, .begin [] .ok, .request]).sent := by
    decide
  exact absurd ((hall _).1 _ hsent) (by decide)

/-! ## What the agent was told -/

/-- The messages that could be taken for the one that is sent are that message itself, and what the
agent was told is stored is. -/
structure ReturnedStored (serverId : Nat) (w : TelemetryWorld D) : Prop extends
    StoredUp serverId w where
  sending : ∀ m ∈ w.sending, ∀ r ∈ w.stored ++ w.inFlight, r.sequence < m.sequence ∨ r = m
  returned : ∀ m ∈ w.returned, m ∈ w.stored

/-- An iteration begins where no message under its number or a higher one has been stored or may
still arrive. -/
def NumberFree (w : TelemetryWorld D) : TelemetryEvent D → Prop
  | .begin _ _ => ∀ r ∈ w.stored ++ w.inFlight, r.sequence ≤ w.vars.sequence
  | _ => True

section Returned
variable {maxTelemetryBytes serverId : Nat} {w : TelemetryWorld D}

theorem ReturnedStored.begin (h : ReturnedStored serverId w) (payload : List (String × Json))
    (write : Fate) (hfree : NumberFree w (.begin payload write)) :
    ReturnedStored serverId (w.begin payload write) := by
  have hstored := h.toStoredUp.begin payload write
  have hnew : ∀ r ∈ w.stored ++ w.inFlight, r.sequence < w.vars.sequence + 1 :=
    fun r hr => Nat.lt_succ_of_le (hfree r hr)
  rcases begin_cases w payload write with heq | ⟨-, heq⟩ | ⟨-, file, sending, heq, hcase⟩
  · rw [heq]
    exact h
  · rw [heq] at hstored ⊢
    refine ⟨hstored, fun m hm r hr => ?_, h.returned⟩
    obtain rfl := Option.some.inj hm
    exact .inl (hnew r hr)
  · rw [heq] at hstored ⊢
    refine ⟨hstored, fun m hm r hr => ?_, h.returned⟩
    rcases hcase with ⟨-, rfl⟩ | ⟨-, rfl | rfl⟩
    · cases hm
    · cases hm
    · obtain rfl := Option.some.inj hm
      exact .inl (hnew r hr)

theorem ReturnedStored.request (h : ReturnedStored serverId w) :
    ReturnedStored serverId w.request := by
  rw [TelemetryWorld.request]
  cases hsending : w.sending with
  | none => exact h
  | some m =>
    refine ⟨h.toStoredUp.congr rfl rfl, fun m' hm' r hr => ?_, h.returned⟩
    have hsame : some m = some m' := hm'
    have harrives : r ∈ w.stored ++ (w.inFlight ++ [m]) := hr
    obtain rfl := Option.some.inj hsame
    rw [← List.append_assoc] at harrives
    rcases List.mem_append.1 harrives with hr | hr
    · exact h.sending m hsending r hr
    · exact .inr (List.mem_singleton.1 hr)

/-- What is stored and what may arrive after a request was served was there before. -/
theorem mem_served {m r : TelemetryMessage} {stored inFlight : List TelemetryMessage} {b : Bool}
    {i : Nat} (hm : m ∈ inFlight)
    (hr : r ∈ (if b then stored ++ [m] else stored) ++ inFlight.eraseIdx i) :
    r ∈ stored ++ inFlight := by
  rcases List.mem_append.1 hr with hr | hr
  · split at hr
    · rcases List.mem_append.1 hr with hr | hr
      · exact List.mem_append_left _ hr
      · rw [List.mem_singleton.1 hr]
        exact List.mem_append_right _ hm
    · exact List.mem_append_left _ hr
  · exact List.mem_append_right _ (List.mem_of_mem_eraseIdx hr)

/-- A message that is answered with success has been stored, now or before. -/
theorem ReturnedStored.success (h : ReturnedStored serverId w) {m : TelemetryMessage}
    (hsending : w.sending = some m)
    (hsuccess : (receiveTelemetry maxTelemetryBytes serverId m.sequence m.payload
      w.plane).1.isSuccess = true) :
    (receiveTelemetry maxTelemetryBytes serverId m.sequence m.payload w.plane).1.isOk = true ∨
      m ∈ w.stored := by
  rcases receiveTelemetry_cases maxTelemetryBytes serverId m.sequence m.payload w.plane with
    ⟨hok, -⟩ | ⟨-, -, hduplicate⟩
  · rw [hok]
    exact .inl rfl
  · obtain ⟨t, ht, hle⟩ := hduplicate hsuccess
    obtain ⟨r, hr, hsequence⟩ := h.mem t ht
    rcases h.sending m hsending r (List.mem_append_left _ hr) with hlt | rfl
    · rw [hsequence] at hlt
      exact absurd hle (Nat.not_le_of_lt hlt)
    · exact .inr hr

theorem ReturnedStored.serve (h : ReturnedStored serverId w) (i : Nat) (delivered : Bool) :
    ReturnedStored serverId (w.serve maxTelemetryBytes serverId i delivered) := by
  have hstored : StoredUp serverId (w.serve maxTelemetryBytes serverId i delivered) :=
    h.toStoredUp.serve i delivered
  rcases serve_cases maxTelemetryBytes serverId w i delivered with
    heq | ⟨m, hm, vars, sending, returned, heq, hcase⟩
  · rw [heq]
    exact h
  rw [heq] at hstored ⊢
  have hkeep : ∀ m' ∈ w.stored, m' ∈ if (receiveTelemetry maxTelemetryBytes serverId m.sequence
      m.payload w.plane).1.isOk then w.stored ++ [m] else w.stored := by
    intro m' hm'
    split
    · exact List.mem_append_left _ hm'
    · exact hm'
  rcases hcase with ⟨rfl, rfl | rfl, rfl⟩ | ⟨hsending, hsuccess, rfl, rfl, rfl⟩
  · exact ⟨hstored, fun m' hm' => (by cases hm'), fun m' hm' => hkeep m' (h.returned m' hm')⟩
  · exact ⟨hstored, fun m' hm' r hr => h.sending m' hm' r (mem_served hm hr),
      fun m' hm' => hkeep m' (h.returned m' hm')⟩
  · refine ⟨hstored, fun m' hm' => (by cases hm'), fun m' hm' => ?_⟩
    rcases List.mem_append.1 hm' with hm' | hm'
    · exact hkeep m' (h.returned m' hm')
    · rw [List.mem_singleton.1 hm']
      rcases h.success hsending hsuccess with hok | hmem
      · dsimp only
        rw [if_pos hok]
        exact List.mem_append_right _ (List.mem_singleton_self m)
      · exact hkeep m hmem

theorem ReturnedStored.step (h : ReturnedStored serverId w) (e : TelemetryEvent D)
    (hfree : NumberFree w e) :
    ReturnedStored serverId (w.step maxTelemetryBytes serverId e) := by
  cases e with
  | begin payload write => exact h.begin payload write hfree
  | request => exact h.request
  | serve i delivered => exact h.serve i delivered
  | lose i =>
    refine ⟨h.toStoredUp.congr rfl rfl, fun m hm r hr => h.sending m hm r ?_, h.returned⟩
    exact (List.mem_append.1 hr).elim (List.mem_append_left _) fun hr =>
      List.mem_append_right _ (List.mem_of_mem_eraseIdx hr)
  | giveUp => exact ⟨h.toStoredUp.congr rfl rfl, fun m hm => (by cases hm), h.returned⟩
  | restart read => exact ⟨h.toStoredUp.congr rfl rfl, fun m hm => (by cases hm), h.returned⟩
  | edit db => exact ⟨h.toStoredUp.congr rfl rfl, h.sending, h.returned⟩
  | other serverId' sequence payload =>
    rw [TelemetryWorld.step]
    split
    · exact h
    · rename_i hother
      exact ⟨h.toStoredUp.congr (receiveTelemetry_other w.plane hother) rfl, h.sending, h.returned⟩

end Returned

/-- In every run in which no iteration begins while an earlier message under its number or a higher
one has been stored or may still arrive: whatever `send_telemetry` has returned for is stored, with
its number and its payload. -/
theorem telemetry_returned_stored (maxTelemetryBytes serverId : Nat) (node : Agent D)
    (plane : ControlPlane D) (events : List (TelemetryEvent D))
    (hfree : Along (TelemetryWorld.step maxTelemetryBytes serverId) NumberFree
      (.start serverId node plane) events) :
    let w := telemetryRun maxTelemetryBytes serverId (.start serverId node plane) events
    ∀ m ∈ w.returned, m ∈ w.stored := by
  intro w
  have hstart : ReturnedStored serverId (.start serverId node plane) :=
    ⟨.start serverId node plane, fun m hm => (by cases hm), fun m hm => (by cases hm)⟩
  have hreturned : ReturnedStored serverId w :=
    run_invariant hstart (fun w e h hfree => h.step e hfree) hfree
  exact hreturned.returned

instance decidableNumberFree (w : TelemetryWorld D) : ∀ e, Decidable (NumberFree w e)
  | .begin _ _ => inferInstanceAs (Decidable (∀ r ∈ w.stored ++ w.inFlight, _))
  | .restart _ => inferInstanceAs (Decidable True)
  | .request => inferInstanceAs (Decidable True)
  | .serve _ _ => inferInstanceAs (Decidable True)
  | .lose _ => inferInstanceAs (Decidable True)
  | .giveUp => inferInstanceAs (Decidable True)
  | .edit _ => inferInstanceAs (Decidable True)
  | .other _ _ _ => inferInstanceAs (Decidable True)

/-- The response of the first endpoint is lost, and the second says that it is a duplicate. -/
def failedOver : List (TelemetryEvent (List DesiredItem)) :=
  [.begin [] .ok, .request, .serve 0 false, .request, .serve 0 true]

theorem telemetry_returned_stored_failover :
    (telemetryRun 1000 1 (.start 1 reportingNode reportingPlane) failedOver).returned =
      [⟨0, 1, []⟩] ∧
    ∀ m ∈ (telemetryRun 1000 1 (.start 1 reportingNode reportingPlane) failedOver).returned,
      m ∈ (telemetryRun 1000 1 (.start 1 reportingNode reportingPlane) failedOver).stored :=
  ⟨by decide, telemetry_returned_stored 1000 1 reportingNode reportingPlane failedOver
    (by decide)⟩

/-- The response is lost, and the next iteration has another payload for the number. -/
theorem telemetry_dropped : ¬ ∀ events : List (TelemetryEvent (List DesiredItem)),
    let w := telemetryRun 1000 1 (.start 1 reportingNode reportingPlane) events
    ∀ m ∈ w.returned, m ∈ w.stored := by
  intro hall
  have hrun : (telemetryRun 1000 1 (.start 1 reportingNode reportingPlane)
      [.begin [] .ok, .request, .serve 0 false, .giveUp, .begin [("online", .int 1)] .ok, .request,
        .serve 0 true]).returned = [⟨0, 1, [("online", .int 1)]⟩] ∧
    (telemetryRun 1000 1 (.start 1 reportingNode reportingPlane)
      [.begin [] .ok, .request, .serve 0 false, .giveUp, .begin [("online", .int 1)] .ok, .request,
        .serve 0 true]).stored = [⟨0, 1, []⟩] := by decide
  have hmem := hall _ _ (hrun.1 ▸ List.mem_singleton_self _)
  rw [hrun.2] at hmem
  exact absurd hmem (by decide)

end AegisVPN
