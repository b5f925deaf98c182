import AegisVPN.Library.Runs
import AegisVPN.Library.TextLines
import Mathlib.Logic.Function.Basic

namespace AegisVPN
open Library
set_option autoImplicit true

/-! # The conversations of the support bot -/

/-! ## Dialogues and tickets -/

inductive DialogueState
  | idle
  | title
  | body
  | reply
  deriving DecidableEq

/-- The state and the data of the dialogue with a user. A title goes with the new-ticket dialogue
that it was given in, and `dialogue` is the latest of these. -/
structure Dialogue where
  state : DialogueState
  title : Option (Nat × List Char)
  ticketId : Option Nat
  dialogue : Nat

def Dialogue.cleared (d : Dialogue) : Dialogue :=
  { d with state := .idle, title := none, ticketId := none }

/-- A ticket, with the dialogue that created it. -/
structure SupportTicket where
  id : Nat
  userId : Nat
  title : List Char
  isOpen : Bool
  dialogue : Nat

/-- A stored message, with who sent it and whether its ticket was open at the time. -/
structure SupportMessage where
  ticketId : Nat
  fromUser : Bool
  text : List Char
  sentBy : Nat
  whileOpen : Bool

def titleMax : Nat := 120

/-! ## Handlers -/

/-- What a handler still has to do, from one await to the next. -/
inductive SupportTask
  | finished
  | clearState (user : Nat)
  | newTicket (user : Nat)
  | setTitle (user dialogue : Nat) (title : List Char)
  | awaitBody (user : Nat)
  | readTitle (user : Nat) (body : List Char)
  | clearTitle (user : Nat) (title : Option (Nat × List Char)) (body : List Char)
  | createTicket (user : Nat) (title : Option (Nat × List Char)) (body : List Char)
  | openReply (user ticketId : Nat)
  | awaitReply (user ticketId : Nat)
  | keepTicket (user ticketId : Nat)
  | readReply (user : Nat) (text : List Char)
  | clearReply (user : Nat) (ticketId : Option Nat) (text : List Char)
  | checkReply (user : Nat) (ticketId : Option Nat) (text : List Char)
  | addReply (user ticketId : Nat) (text : List Char)
  | closeOwn (user ticketId : Nat)
  | operatorClear (operator ticketId : Nat) (text : List Char)
  | operatorCheck (operator ticketId : Nat) (text : List Char)
  | operatorAdd (operator ticketId : Nat) (text : List Char)
  | operatorClose (ticketId : Nat)
  | closeTicket (ticketId : Nat)

/-- The dialogues in memory, the tickets and their messages, the tasks, the dialogues whose title
was taken, and whether a handler has raised for lack of a title. -/
structure SupportWorld where
  dialogues : Nat → Dialogue
  tickets : List SupportTicket
  messages : List SupportMessage
  tasks : Nat → SupportTask
  nextTicket : Nat
  nextDialogue : Nat
  taken : List Nat
  raised : Bool

def SupportWorld.start : SupportWorld :=
  ⟨fun _ => ⟨.idle, none, none, 0⟩, [], [], fun _ => .finished, 1, 1, [], false⟩

def SupportWorld.setDialogue (w : SupportWorld) (user : Nat) (d : Dialogue) : SupportWorld :=
  { w with dialogues := Function.update w.dialogues user d }

def SupportWorld.ticket (w : SupportWorld) (id : Nat) : Option SupportTicket :=
  w.tickets.find? fun ticket => ticket.id = id

/-- An update from Telegram. -/
inductive SupportUpdate
  | menu (user : Nat)
  | new (user : Nat)
  | text (user : Nat) (text : List Char)
  | replyButton (user ticketId : Nat)
  | closeButton (user ticketId : Nat)
  | operatorReply (operator : Nat) (ticketId : Option Nat) (text : List Char)
  | operatorClose (operator ticketId : Nat)

/-- The handler of a text goes by the state of the dialogue. An empty text is answered only. -/
def SupportWorld.textTask (w : SupportWorld) (user : Nat) (text : List Char) : SupportTask :=
  let text := strip text
  match (w.dialogues user).state with
  | .idle => .finished
  | .title => if text = [] then .finished
      else .setTitle user (w.dialogues user).dialogue (text.take titleMax)
  | .body => if text = [] then .finished else .readTitle user text
  | .reply => if text = [] then .finished else .readReply user text

/-- The handler of an update. -/
def SupportWorld.taskOf (admins : List Nat) (w : SupportWorld) : SupportUpdate → SupportTask
  | .menu user => .clearState user
  | .new user => .newTicket user
  | .text user text => w.textTask user text
  | .replyButton user ticketId => .openReply user ticketId
  | .closeButton user ticketId => .closeOwn user ticketId
  | .operatorReply operator ticketId text =>
    if operator ∉ admins then w.textTask operator text
    else match ticketId with
    | none => .finished
    | some ticketId => .operatorClear operator ticketId (strip text)
  | .operatorClose operator ticketId =>
    if operator ∈ admins then .operatorClose ticketId else .finished

/-- The ticket is there and is the user's. -/
def SupportWorld.owns (w : SupportWorld) (user ticketId : Nat) : Bool :=
  (w.ticket ticketId).any fun ticket => decide (ticket.userId = user)

def SupportWorld.isOpen (w : SupportWorld) (ticketId : Nat) : Bool :=
  (w.ticket ticketId).any SupportTicket.isOpen

def SupportWorld.addMessage (w : SupportWorld) (ticketId : Nat) (fromUser : Bool)
    (text : List Char) (sentBy : Nat) : SupportWorld :=
  { w with messages := w.messages ++ [⟨ticketId, fromUser, text, sentBy, w.isOpen ticketId⟩] }

/-- The ticket and its first message are stored together. -/
def SupportWorld.createTicket (w : SupportWorld) (user dialogue : Nat) (title body : List Char) :
    SupportWorld :=
  { w with
    tickets := w.tickets ++ [⟨w.nextTicket, user, title, true, dialogue⟩]
    messages := w.messages ++ [⟨w.nextTicket, true, body, user, true⟩]
    nextTicket := w.nextTicket + 1 }

def SupportWorld.closeTicket (w : SupportWorld) (ticketId : Nat) : SupportWorld :=
  { w with tickets := w.tickets.map fun ticket =>
      if ticket.id = ticketId then { ticket with isOpen := false } else ticket }

/-- The dialogue of the title that is read is taken. -/
def SupportWorld.take (w : SupportWorld) (title : Option (Nat × List Char)) : SupportWorld :=
  { w with taken := (title.map Prod.fst).toList ++ w.taken }

/-- A task goes on to its next await. -/
def SupportTask.step (task : SupportTask) (w : SupportWorld) : SupportTask × SupportWorld :=
  match task with
  | .finished => (.finished, w)
  | .clearState user => (.finished, w.setDialogue user (w.dialogues user).cleared)
  | .newTicket user => (.finished,
      { w with
        dialogues := Function.update w.dialogues user
          { w.dialogues user with state := .title, dialogue := w.nextDialogue }
        nextDialogue := w.nextDialogue + 1 })
  | .setTitle user dialogue title => (.awaitBody user,
      w.setDialogue user { w.dialogues user with title := some (dialogue, title) })
  | .awaitBody user => (.finished, w.setDialogue user { w.dialogues user with state := .body })
  | .readTitle user body =>
    (.clearTitle user (w.dialogues user).title body, w.take (w.dialogues user).title)
  | .clearTitle user title body =>
    (.createTicket user title body, w.setDialogue user (w.dialogues user).cleared)
  | .createTicket user title body =>
    match title with
    | none => (.finished, { w with raised := true })
    | some (dialogue, title) => (.finished, w.createTicket user dialogue title body)
  | .openReply user ticketId =>
    if w.owns user ticketId && w.isOpen ticketId then (.awaitReply user ticketId, w)
    else (.finished, w)
  | .awaitReply user ticketId =>
    (.keepTicket user ticketId, w.setDialogue user { w.dialogues user with state := .reply })
  | .keepTicket user ticketId =>
    (.finished, w.setDialogue user { w.dialogues user with ticketId := some ticketId })
  | .readReply user text => (.clearReply user (w.dialogues user).ticketId text, w)
  | .clearReply user ticketId text =>
    (.checkReply user ticketId text, w.setDialogue user (w.dialogues user).cleared)
  | .checkReply user ticketId text =>
    match ticketId with
    | none => (.finished, w)
    | some ticketId =>
      if w.owns user ticketId && w.isOpen ticketId then (.addReply user ticketId text, w)
      else (.finished, w)
  | .addReply user ticketId text => (.finished, w.addMessage ticketId true text user)
  | .closeOwn user ticketId =>
    if w.owns user ticketId && w.isOpen ticketId then (.closeTicket ticketId, w) else (.finished, w)
  | .operatorClear operator ticketId text =>
    (.operatorCheck operator ticketId text, w.setDialogue operator (w.dialogues operator).cleared)
  | .operatorCheck operator ticketId text =>
    if (w.ticket ticketId).isSome && !text.isEmpty then (.operatorAdd operator ticketId text, w)
    else (.finished, w)
  | .operatorAdd operator ticketId text => (.finished, w.addMessage ticketId false text operator)
  | .operatorClose ticketId =>
    if w.isOpen ticketId then (.closeTicket ticketId, w) else (.finished, w)
  | .closeTicket ticketId => (.finished, w.closeTicket ticketId)

/-- An update is given to a handler in a free slot, a handler goes on, or it ends by an error of
Telegram or of the database. -/
inductive SupportEvent
  | update (slot : Nat) (update : SupportUpdate)
  | advance (slot : Nat)
  | fail (slot : Nat)

def SupportWorld.setTask (w : SupportWorld) (slot : Nat) (task : SupportTask) : SupportWorld :=
  { w with tasks := Function.update w.tasks slot task }

def SupportTask.isFinished : SupportTask → Bool
  | .finished => true
  | _ => false

def SupportWorld.step (admins : List Nat) (w : SupportWorld) : SupportEvent → SupportWorld
  | .update slot update =>
    if (w.tasks slot).isFinished then w.setTask slot (w.taskOf admins update) else w
  | .advance slot => ((w.tasks slot).step w).2.setTask slot ((w.tasks slot).step w).1
  | .fail slot => w.setTask slot .finished

def SupportWorld.run (admins : List Nat) (events : List SupportEvent) : SupportWorld :=
  events.foldl (SupportWorld.step admins) .start

/-! ## What the handlers hold -/

/-- What a handler has read of the dialogue's title and has not used yet. -/
def SupportTask.pendingTitle : SupportTask → Option (Option (Nat × List Char))
  | .clearTitle _ title _ => some title
  | .createTicket _ title _ => some title
  | _ => none

/-- The ticket that a handler found open for a reply of its owner. -/
def SupportTask.pendingReply : SupportTask → Option (Nat × Nat)
  | .addReply user ticketId _ => some (user, ticketId)
  | _ => none

/-- The dialogue has a title, and no handler has read it before. -/
def SupportWorld.titleFree (w : SupportWorld) (user : Nat) : Prop :=
  ∃ title ∈ (w.dialogues user).title, title.1 ∉ w.taken

/-- A handler that reads the title finds one that none has read before, and a ticket is closed
while no handler has found it open for a reply that it has yet to store. -/
def SupportWorld.Orderly (w : SupportWorld) : SupportEvent → Prop
  | .update _ _ => True
  | .fail _ => True
  | .advance slot =>
    match w.tasks slot with
    | .readTitle user _ => w.titleFree user
    | .closeTicket ticketId => ∀ slot' user, (w.tasks slot').pendingReply ≠ some (user, ticketId)
    | _ => True

/-! ## Tickets and their owners -/

theorem SupportWorld.ticket_createTicket {w : SupportWorld} {user dialogue id : Nat}
    {title body : List Char} {ticket : SupportTicket} (h : w.ticket id = some ticket) :
    (w.createTicket user dialogue title body).ticket id = some ticket := by
  unfold SupportWorld.ticket at h ⊢
  show (w.tickets ++ _).find? _ = _
  rw [List.find?_append, h]
  rfl

theorem SupportWorld.ticket_closeTicket {w : SupportWorld} {closed id : Nat} :
    (w.closeTicket closed).ticket id = (w.ticket id).map fun ticket =>
      if ticket.id = closed then { ticket with isOpen := false } else ticket := by
  unfold SupportWorld.ticket SupportWorld.closeTicket
  rw [List.find?_map]
  congr 1
  apply congrArg (fun p => w.tickets.find? p)
  funext ticket
  by_cases h : ticket.id = closed
  · simp [h]
  · simp [h]


theorem SupportWorld.owns_iff {w : SupportWorld} {user id : Nat} :
    w.owns user id = true ↔ ∃ ticket, w.ticket id = some ticket ∧ ticket.userId = user := by
  unfold SupportWorld.owns
  rw [Option.any_eq_true]
  constructor
  · intro ⟨ticket, h, hu⟩
    exact ⟨ticket, h, of_decide_eq_true hu⟩
  · intro ⟨ticket, h, hu⟩
    exact ⟨ticket, h, decide_eq_true hu⟩

theorem SupportWorld.isOpen_iff {w : SupportWorld} {id : Nat} :
    w.isOpen id = true ↔ ∃ ticket, w.ticket id = some ticket ∧ ticket.isOpen = true := by
  unfold SupportWorld.isOpen
  exact Option.any_eq_true _ _

theorem SupportWorld.owns_createTicket {w : SupportWorld} {user dialogue owner id : Nat}
    {title body : List Char} (h : w.owns owner id = true) :
    (w.createTicket user dialogue title body).owns owner id = true := by
  obtain ⟨ticket, ht, hu⟩ := SupportWorld.owns_iff.1 h
  exact SupportWorld.owns_iff.2 ⟨ticket, SupportWorld.ticket_createTicket ht, hu⟩

theorem SupportWorld.isOpen_createTicket {w : SupportWorld} {user dialogue id : Nat}
    {title body : List Char} (h : w.isOpen id = true) :
    (w.createTicket user dialogue title body).isOpen id = true := by
  obtain ⟨ticket, ht, hu⟩ := SupportWorld.isOpen_iff.1 h
  exact SupportWorld.isOpen_iff.2 ⟨ticket, SupportWorld.ticket_createTicket ht, hu⟩

theorem SupportWorld.owns_closeTicket {w : SupportWorld} {closed owner id : Nat}
    (h : w.owns owner id = true) : (w.closeTicket closed).owns owner id = true := by
  obtain ⟨ticket, ht, hu⟩ := SupportWorld.owns_iff.1 h
  apply SupportWorld.owns_iff.2
  rw [SupportWorld.ticket_closeTicket, ht]
  by_cases hc : ticket.id = closed
  · exact ⟨{ ticket with isOpen := false }, by simp [hc], hu⟩
  · exact ⟨ticket, by simp [hc], hu⟩

theorem SupportWorld.isOpen_closeTicket {w : SupportWorld} {closed id : Nat} (hne : id ≠ closed)
    (h : w.isOpen id = true) : (w.closeTicket closed).isOpen id = true := by
  obtain ⟨ticket, ht, ho⟩ := SupportWorld.isOpen_iff.1 h
  have hid : ticket.id = id := by
    unfold SupportWorld.ticket at ht
    exact of_decide_eq_true (List.find?_some ht :)
  apply SupportWorld.isOpen_iff.2
  rw [SupportWorld.ticket_closeTicket, ht]
  exact ⟨ticket, by simp [hid, hne], ho⟩

theorem SupportWorld.owns_new {w : SupportWorld} {user dialogue : Nat} {title body : List Char}
    (h : ∀ ticket ∈ w.tickets, ticket.id < w.nextTicket) :
    (w.createTicket user dialogue title body).owns user w.nextTicket = true := by
  have hnone : w.tickets.find? (fun ticket => decide (ticket.id = w.nextTicket)) = none := by
    apply List.find?_eq_none.2
    intro ticket ht hid
    exact absurd (of_decide_eq_true hid) (Nat.ne_of_lt (h ticket ht))
  apply SupportWorld.owns_iff.2
  exact ⟨⟨w.nextTicket, user, title, true, dialogue⟩, by
    unfold SupportWorld.ticket SupportWorld.createTicket
    simp [List.find?_append, hnone], rfl⟩

/-! ## What an orderly step keeps -/

/-- No handler lacks its title, a dialogue is read once and gives one ticket, and what users sent
went to open tickets of their own. -/
structure SupportWorld.Sound (w : SupportWorld) : Prop where
  notRaised : w.raised = false
  titled : ∀ slot, (w.tasks slot).pendingTitle ≠ some none
  pendingTaken : ∀ slot title, (w.tasks slot).pendingTitle = some (some title) → title.1 ∈ w.taken
  pendingNew : ∀ slot title, (w.tasks slot).pendingTitle = some (some title) →
    ∀ ticket ∈ w.tickets, ticket.dialogue ≠ title.1
  pendingApart : ∀ slot slot' title title', (w.tasks slot).pendingTitle = some (some title) →
    (w.tasks slot').pendingTitle = some (some title') → title.1 = title'.1 → slot = slot'
  ticketsTaken : ∀ ticket ∈ w.tickets, ticket.dialogue ∈ w.taken
  dialogues : (w.tickets.map SupportTicket.dialogue).Nodup
  ids : ∀ ticket ∈ w.tickets, ticket.id < w.nextTicket
  replies : ∀ slot user id, (w.tasks slot).pendingReply = some (user, id) →
    w.owns user id = true ∧ w.isOpen id = true
  messages : ∀ message ∈ w.messages, message.fromUser = true →
    message.whileOpen = true ∧ w.owns message.sentBy message.ticketId = true

theorem SupportWorld.sound_start : SupportWorld.start.Sound where
  notRaised := rfl
  titled _ h := by cases h
  pendingTaken _ _ h := by cases h
  pendingNew _ _ h := by cases h
  pendingApart _ _ _ _ h := by cases h
  ticketsTaken _ h := absurd h List.not_mem_nil
  dialogues := List.nodup_nil
  ids _ h := absurd h List.not_mem_nil
  replies _ _ _ h := by cases h
  messages _ h := absurd h List.not_mem_nil


/-- A step that stores nothing, and whose task holds no more of a title than before. -/
structure SupportWorld.SameStore (w' w : SupportWorld) : Prop where
  tasks : w'.tasks = w.tasks
  tickets : w'.tickets = w.tickets
  nextTicket : w'.nextTicket = w.nextTicket
  taken : w'.taken = w.taken
  raised : w'.raised = w.raised

theorem SupportWorld.SameStore.ticket {w' w : SupportWorld} (h : w'.SameStore w) (id : Nat) :
    w'.ticket id = w.ticket id := by
  unfold SupportWorld.ticket
  rw [h.tickets]

theorem SupportWorld.SameStore.owns {w' w : SupportWorld} (h : w'.SameStore w) (user id : Nat) :
    w'.owns user id = w.owns user id := by
  unfold SupportWorld.owns
  rw [h.ticket]

theorem SupportWorld.SameStore.isOpen {w' w : SupportWorld} (h : w'.SameStore w) (id : Nat) :
    w'.isOpen id = w.isOpen id := by
  unfold SupportWorld.isOpen
  rw [h.ticket]

theorem SupportWorld.setTask_tasks_self {w : SupportWorld} {slot : Nat} {task : SupportTask} :
    (w.setTask slot task).tasks slot = task := Function.update_self ..

theorem SupportWorld.setTask_tasks_ne {w : SupportWorld} {slot slot' : Nat} {task : SupportTask}
    (h : slot' ≠ slot) : (w.setTask slot task).tasks slot' = w.tasks slot' :=
  Function.update_of_ne h ..

/-- After a step in which only one slot's task changes, a slot holds a title that it held before,
or one that the changed task holds. -/
theorem SupportWorld.title_before {w : SupportWorld} {slot slot' : Nat} {task : SupportTask}
    {title : Option (Nat × List Char)}
    (ht : task.pendingTitle = none ∨ task.pendingTitle = (w.tasks slot).pendingTitle)
    (h : ((w.setTask slot task).tasks slot').pendingTitle = some title) :
    (w.tasks slot').pendingTitle = some title := by
  by_cases hs : slot' = slot
  · subst hs
    rw [setTask_tasks_self] at h
    rcases ht with ht | ht
    · rw [ht] at h
      cases h
    · exact ht ▸ h
  · rwa [setTask_tasks_ne hs] at h

theorem SupportWorld.reply_before {w : SupportWorld} {slot slot' : Nat} {task : SupportTask}
    {reply : Nat × Nat} (ht : task.pendingReply = none)
    (h : ((w.setTask slot task).tasks slot').pendingReply = some reply) :
    (w.tasks slot').pendingReply = some reply := by
  by_cases hs : slot' = slot
  · subst hs
    rw [setTask_tasks_self, ht] at h
    cases h
  · rwa [setTask_tasks_ne hs] at h

theorem SupportWorld.Sound.setTask {w w' : SupportWorld} {slot : Nat} {task : SupportTask}
    (h : w.Sound) (hw : w'.SameStore w)
    (ht : task.pendingTitle = none ∨ task.pendingTitle = (w.tasks slot).pendingTitle)
    (hr : ∀ user id, task.pendingReply = some (user, id) →
      w.owns user id = true ∧ w.isOpen id = true)
    (hm : ∀ message ∈ w'.messages, message.fromUser = true →
      message.whileOpen = true ∧ w.owns message.sentBy message.ticketId = true) :
    (w'.setTask slot task).Sound := by
  have hb : ∀ {slot' title}, ((w'.setTask slot task).tasks slot').pendingTitle = some title →
      (w.tasks slot').pendingTitle = some title := by
    intro slot' title hslot
    rw [← hw.tasks]
    apply title_before _ hslot
    rwa [hw.tasks]
  have hown : ∀ {user id}, w.owns user id = true → (w'.setTask slot task).owns user id = true := by
    intro user id ho
    exact (hw.owns user id).trans ho
  constructor
  case notRaised => exact hw.raised.trans h.notRaised
  case titled => exact fun slot' hs => h.titled slot' (hb hs)
  case pendingTaken =>
    intro slot' title hs
    show title.1 ∈ w'.taken
    exact hw.taken ▸ h.pendingTaken slot' title (hb hs)
  case pendingNew =>
    intro slot' title hs ticket hticket
    have hticket : ticket ∈ w'.tickets := hticket
    exact h.pendingNew slot' title (hb hs) ticket (hw.tickets ▸ hticket)
  case pendingApart =>
    intro slot₁ slot₂ title title' h₁ h₂ he
    exact h.pendingApart slot₁ slot₂ title title' (hb h₁) (hb h₂) he
  case ticketsTaken =>
    intro ticket hticket
    have hticket : ticket ∈ w'.tickets := hticket
    show ticket.dialogue ∈ w'.taken
    exact hw.taken ▸ h.ticketsTaken ticket (hw.tickets ▸ hticket)
  case dialogues =>
    show (w'.tickets.map SupportTicket.dialogue).Nodup
    exact hw.tickets ▸ h.dialogues
  case ids =>
    intro ticket hticket
    have hticket : ticket ∈ w'.tickets := hticket
    show ticket.id < w'.nextTicket
    exact hw.nextTicket ▸ h.ids ticket (hw.tickets ▸ hticket)
  case replies =>
    intro slot' user id hs
    have hold : w.owns user id = true ∧ w.isOpen id = true := by
      by_cases he : slot' = slot
      · subst he
        rw [setTask_tasks_self] at hs
        exact hr user id hs
      · rw [setTask_tasks_ne he, hw.tasks] at hs
        exact h.replies slot' user id hs
    exact ⟨hown hold.1, (hw.isOpen id).trans hold.2⟩
  case messages =>
    intro message hmessage hu
    have hmessage : message ∈ w'.messages := hmessage
    exact ⟨(hm message hmessage hu).1, hown (hm message hmessage hu).2⟩

theorem SupportWorld.Sound.readTitle {w : SupportWorld} {slot user : Nat} {body : List Char}
    (h : w.Sound) (hf : w.titleFree user) :
    ((w.take (w.dialogues user).title).setTask slot
      (.clearTitle user (w.dialogues user).title body)).Sound := by
  obtain ⟨title, htitle, hfree⟩ := hf
  rw [Option.mem_def] at htitle
  rw [htitle]
  have hcases : ∀ {slot' title'}, (((w.take (some title)).setTask slot
      (.clearTitle user (some title) body)).tasks slot').pendingTitle = some title' →
      slot' = slot ∧ title' = some title ∨
        slot' ≠ slot ∧ (w.tasks slot').pendingTitle = some title' := by
    intro slot' title' hs
    by_cases he : slot' = slot
    · subst he
      rw [setTask_tasks_self] at hs
      exact .inl ⟨rfl, (Option.some.inj hs).symm⟩
    · rw [setTask_tasks_ne he] at hs
      exact .inr ⟨he, hs⟩
  constructor
  case notRaised => exact h.notRaised
  case titled =>
    intro slot' hs
    rcases hcases hs with ⟨-, he⟩ | ⟨-, hold⟩
    · cases he
    · exact h.titled slot' hold
  case pendingTaken =>
    intro slot' title' hs
    rcases hcases hs with ⟨-, he⟩ | ⟨-, hold⟩
    · cases he
      exact List.mem_cons_self
    · exact List.mem_cons_of_mem _ (h.pendingTaken slot' title' hold)
  case pendingNew =>
    intro slot' title' hs ticket hticket hd
    rcases hcases hs with ⟨-, he⟩ | ⟨-, hold⟩
    · cases he
      exact hfree (hd ▸ h.ticketsTaken ticket hticket)
    · exact h.pendingNew slot' title' hold ticket hticket hd
  case pendingApart =>
    intro slot₁ slot₂ title₁ title₂ h₁ h₂ hd
    rcases hcases h₁ with ⟨rfl, he₁⟩ | ⟨-, hold₁⟩
    · cases he₁
      rcases hcases h₂ with ⟨rfl, -⟩ | ⟨-, hold₂⟩
      · rfl
      · exact absurd (hd ▸ h.pendingTaken slot₂ title₂ hold₂) hfree
    · rcases hcases h₂ with ⟨rfl, he₂⟩ | ⟨-, hold₂⟩
      · cases he₂
        exact absurd (hd ▸ h.pendingTaken slot₁ title₁ hold₁) hfree
      · exact h.pendingApart slot₁ slot₂ title₁ title₂ hold₁ hold₂ hd
  case ticketsTaken =>
    exact fun ticket hticket => List.mem_cons_of_mem _ (h.ticketsTaken ticket hticket)
  case dialogues => exact h.dialogues
  case ids => exact h.ids
  case replies =>
    intro slot' owner id hs
    exact h.replies slot' owner id (reply_before rfl hs)
  case messages => exact h.messages

/-- The ticket is the only one of the dialogue that the task holds. -/
theorem SupportWorld.Sound.createTicket {w : SupportWorld} {slot user : Nat}
    {title : Nat × List Char} {body : List Char} (h : w.Sound)
    (htask : (w.tasks slot).pendingTitle = some (some title)) :
    ((w.createTicket user title.1 title.2 body).setTask slot .finished).Sound := by
  have hold : ∀ {slot' title'}, (((w.createTicket user title.1 title.2 body).setTask slot
      .finished).tasks slot').pendingTitle = some title' →
      slot' ≠ slot ∧ (w.tasks slot').pendingTitle = some title' := by
    intro slot' title' hs
    by_cases he : slot' = slot
    · subst he
      rw [setTask_tasks_self] at hs
      cases hs
    · rw [setTask_tasks_ne he] at hs
      exact ⟨he, hs⟩
  have hmem : ∀ {ticket}, ticket ∈ (w.createTicket user title.1 title.2 body).tickets →
      ticket ∈ w.tickets ∨ ticket = ⟨w.nextTicket, user, title.2, true, title.1⟩ := by
    intro ticket hticket
    rcases List.mem_append.1 hticket with hticket | hticket
    · exact .inl hticket
    · exact .inr (List.mem_singleton.1 hticket)
  constructor
  case notRaised => exact h.notRaised
  case titled => exact fun slot' hs => h.titled slot' (hold hs).2
  case pendingTaken => exact fun slot' title' hs => h.pendingTaken slot' title' (hold hs).2
  case pendingNew =>
    intro slot' title' hs ticket hticket hd
    rcases hmem hticket with hticket | rfl
    · exact h.pendingNew slot' title' (hold hs).2 ticket hticket hd
    · exact (hold hs).1 (h.pendingApart slot' slot title' title (hold hs).2 htask hd.symm)
  case pendingApart =>
    intro slot₁ slot₂ title₁ title₂ h₁ h₂ hd
    exact h.pendingApart slot₁ slot₂ title₁ title₂ (hold h₁).2 (hold h₂).2 hd
  case ticketsTaken =>
    intro ticket hticket
    rcases hmem hticket with hticket | rfl
    · exact h.ticketsTaken ticket hticket
    · exact h.pendingTaken slot title htask
  case dialogues =>
    show ((w.tickets ++ [_]).map SupportTicket.dialogue).Nodup
    rw [List.map_append, List.nodup_append]
    apply And.intro h.dialogues
    apply And.intro (List.pairwise_singleton _ _)
    intro dialogue hdialogue dialogue' hdialogue' he
    obtain ⟨ticket, hticket, rfl⟩ := List.mem_map.1 hdialogue
    have hnew : dialogue' = title.1 := List.mem_singleton.1 hdialogue'
    exact h.pendingNew slot title htask ticket hticket (he.trans hnew)
  case ids =>
    intro ticket hticket
    rcases hmem hticket with hticket | rfl
    · exact Nat.lt_succ_of_lt (h.ids ticket hticket)
    · exact Nat.lt_succ_self _
  case replies =>
    intro slot' owner id hs
    have hs : (w.tasks slot').pendingReply = some (owner, id) := reply_before rfl hs
    show (w.createTicket user title.1 title.2 body).owns owner id = true ∧
      (w.createTicket user title.1 title.2 body).isOpen id = true
    exact ⟨owns_createTicket (h.replies slot' owner id hs).1,
      isOpen_createTicket (h.replies slot' owner id hs).2⟩
  case messages =>
    intro message hmessage hu
    rcases List.mem_append.1 hmessage with hmessage | hmessage
    · have hkept := h.messages message hmessage hu
      show message.whileOpen = true ∧
        (w.createTicket user title.1 title.2 body).owns message.sentBy message.ticketId = true
      exact ⟨hkept.1, owns_createTicket hkept.2⟩
    · obtain rfl := List.mem_singleton.1 hmessage
      show true = true ∧
        (w.createTicket user title.1 title.2 body).owns user w.nextTicket = true
      exact ⟨rfl, owns_new h.ids⟩

theorem SupportWorld.Sound.closeTicket {w : SupportWorld} {slot closed : Nat} (h : w.Sound)
    (hfree : ∀ slot' user, (w.tasks slot').pendingReply ≠ some (user, closed)) :
    ((w.closeTicket closed).setTask slot .finished).Sound := by
  have hold : ∀ {slot' title'}, (((w.closeTicket closed).setTask slot
      .finished).tasks slot').pendingTitle = some title' →
      (w.tasks slot').pendingTitle = some title' := by
    intro slot' title' hs
    exact title_before (w := w.closeTicket closed) (.inl rfl) hs
  have hmem : ∀ {ticket}, ticket ∈ (w.closeTicket closed).tickets →
      ∃ before ∈ w.tickets, ticket.dialogue = before.dialogue ∧ ticket.id = before.id := by
    intro ticket hticket
    obtain ⟨before, hbefore, rfl⟩ := List.mem_map.1 hticket
    apply Exists.intro before
    apply And.intro hbefore
    by_cases hc : before.id = closed
    · simp only [hc, if_true, and_self]
    · simp only [hc, if_false, and_self]
  constructor
  case notRaised => exact h.notRaised
  case titled => exact fun slot' hs => h.titled slot' (hold hs)
  case pendingTaken => exact fun slot' title' hs => h.pendingTaken slot' title' (hold hs)
  case pendingNew =>
    intro slot' title' hs ticket hticket hd
    obtain ⟨before, hbefore, he, -⟩ := hmem hticket
    exact h.pendingNew slot' title' (hold hs) before hbefore (he ▸ hd)
  case pendingApart =>
    intro slot₁ slot₂ title₁ title₂ h₁ h₂ hd
    exact h.pendingApart slot₁ slot₂ title₁ title₂ (hold h₁) (hold h₂) hd
  case ticketsTaken =>
    intro ticket hticket
    obtain ⟨before, hbefore, he, -⟩ := hmem hticket
    exact he ▸ h.ticketsTaken before hbefore
  case dialogues =>
    show ((w.tickets.map _).map SupportTicket.dialogue).Nodup
    have hsame : (SupportTicket.dialogue ∘ fun ticket : SupportTicket =>
        if ticket.id = closed then { ticket with isOpen := false } else ticket) =
        SupportTicket.dialogue := by
      funext ticket
      by_cases hc : ticket.id = closed
      · simp only [Function.comp, hc, if_true]
      · simp only [Function.comp, hc, if_false]
    rw [List.map_map, hsame]
    exact h.dialogues
  case ids =>
    intro ticket hticket
    obtain ⟨before, hbefore, -, he⟩ := hmem hticket
    exact he ▸ h.ids before hbefore
  case replies =>
    intro slot' user id hs
    have hs : (w.tasks slot').pendingReply = some (user, id) := reply_before rfl hs
    have hne : id ≠ closed := by
      intro he
      exact hfree slot' user (he ▸ hs)
    exact ⟨owns_closeTicket (h.replies slot' user id hs).1,
      isOpen_closeTicket hne (h.replies slot' user id hs).2⟩
  case messages =>
    intro message hmessage hu
    exact ⟨(h.messages message hmessage hu).1, owns_closeTicket (h.messages message hmessage hu).2⟩


theorem SupportWorld.Sound.quiet {w w' : SupportWorld} {slot : Nat} {task : SupportTask}
    (h : w.Sound) (hw : w'.SameStore w) (hm : w'.messages = w.messages)
    (ht : task.pendingTitle = none ∨ task.pendingTitle = (w.tasks slot).pendingTitle)
    (hr : task.pendingReply = none) : (w'.setTask slot task).Sound := by
  apply h.setTask hw ht
  · intro user id hs
    rw [hr] at hs
    cases hs
  · rw [hm]
    exact h.messages

theorem SupportWorld.sameStore_self (w : SupportWorld) : w.SameStore w :=
  ⟨rfl, rfl, rfl, rfl, rfl⟩

theorem SupportWorld.sameStore_setDialogue (w : SupportWorld) (user : Nat) (d : Dialogue) :
    (w.setDialogue user d).SameStore w :=
  ⟨rfl, rfl, rfl, rfl, rfl⟩

theorem SupportWorld.sameStore_addMessage (w : SupportWorld) (ticketId : Nat) (fromUser : Bool)
    (text : List Char) (sentBy : Nat) : (w.addMessage ticketId fromUser text sentBy).SameStore w :=
  ⟨rfl, rfl, rfl, rfl, rfl⟩

theorem SupportWorld.sound_advance {w : SupportWorld} {slot : Nat} (h : w.Sound)
    (ho : w.Orderly (.advance slot)) :
    (((w.tasks slot).step w).2.setTask slot ((w.tasks slot).step w).1).Sound := by
  simp only [SupportWorld.Orderly] at ho
  cases ht : w.tasks slot with
  | finished => exact h.quiet w.sameStore_self rfl (.inl rfl) rfl
  | clearState user => exact h.quiet (w.sameStore_setDialogue ..) rfl (.inl rfl) rfl
  | newTicket user => exact h.quiet ⟨rfl, rfl, rfl, rfl, rfl⟩ rfl (.inl rfl) rfl
  | setTitle user dialogue title => exact h.quiet (w.sameStore_setDialogue ..) rfl (.inl rfl) rfl
  | awaitBody user => exact h.quiet (w.sameStore_setDialogue ..) rfl (.inl rfl) rfl
  | readTitle user body =>
    rw [ht] at ho
    exact h.readTitle ho
  | clearTitle user title body =>
    apply h.quiet (w.sameStore_setDialogue ..) rfl _ rfl
    rw [ht]
    exact .inr rfl
  | createTicket user title body =>
    have htitle : (w.tasks slot).pendingTitle = some title := by rw [ht]; rfl
    cases title with
    | none => exact absurd htitle (h.titled slot)
    | some title => exact h.createTicket htitle
  | openReply user ticketId =>
    simp only [SupportTask.step]
    split
    · exact h.quiet w.sameStore_self rfl (.inl rfl) rfl
    · exact h.quiet w.sameStore_self rfl (.inl rfl) rfl
  | awaitReply user ticketId => exact h.quiet (w.sameStore_setDialogue ..) rfl (.inl rfl) rfl
  | keepTicket user ticketId => exact h.quiet (w.sameStore_setDialogue ..) rfl (.inl rfl) rfl
  | readReply user text => exact h.quiet w.sameStore_self rfl (.inl rfl) rfl
  | clearReply user ticketId text =>
    exact h.quiet (w.sameStore_setDialogue ..) rfl (.inl rfl) rfl
  | checkReply user ticketId text =>
    cases ticketId with
    | none => exact h.quiet w.sameStore_self rfl (.inl rfl) rfl
    | some ticketId =>
      simp only [SupportTask.step]
      split
      case isTrue hfound =>
        apply h.setTask w.sameStore_self (.inl rfl) _ h.messages
        intro owner id hs
        cases hs
        exact Bool.and_eq_true_iff.1 hfound
      case isFalse => exact h.quiet w.sameStore_self rfl (.inl rfl) rfl
  | addReply user ticketId text =>
    have hfound := h.replies slot user ticketId (by rw [ht]; rfl)
    show ((w.addMessage ticketId true text user).setTask slot .finished).Sound
    apply h.setTask (w.sameStore_addMessage ..) (.inl rfl)
    · intro owner id hs
      cases hs
    · intro message hmessage hu
      rcases List.mem_append.1 hmessage with hmessage | hmessage
      · exact h.messages message hmessage hu
      · obtain rfl := List.mem_singleton.1 hmessage
        exact ⟨hfound.2, hfound.1⟩
  | closeOwn user ticketId =>
    simp only [SupportTask.step]
    split
    · exact h.quiet w.sameStore_self rfl (.inl rfl) rfl
    · exact h.quiet w.sameStore_self rfl (.inl rfl) rfl
  | operatorClear operator ticketId text =>
    exact h.quiet (w.sameStore_setDialogue ..) rfl (.inl rfl) rfl
  | operatorCheck operator ticketId text =>
    simp only [SupportTask.step]
    split
    · exact h.quiet w.sameStore_self rfl (.inl rfl) rfl
    · exact h.quiet w.sameStore_self rfl (.inl rfl) rfl
  | operatorAdd operator ticketId text =>
    show ((w.addMessage ticketId false text operator).setTask slot .finished).Sound
    apply h.setTask (w.sameStore_addMessage ..) (.inl rfl)
    · intro owner id hs
      cases hs
    · intro message hmessage hu
      rcases List.mem_append.1 hmessage with hmessage | hmessage
      · exact h.messages message hmessage hu
      · obtain rfl := List.mem_singleton.1 hmessage
        cases hu
  | operatorClose ticketId =>
    simp only [SupportTask.step]
    split
    · exact h.quiet w.sameStore_self rfl (.inl rfl) rfl
    · exact h.quiet w.sameStore_self rfl (.inl rfl) rfl
  | closeTicket ticketId =>
    rw [ht] at ho
    exact h.closeTicket ho

theorem SupportWorld.textTask_holds {w : SupportWorld} {user : Nat} {text : List Char} :
    (w.textTask user text).pendingTitle = none ∧ (w.textTask user text).pendingReply = none := by
  simp only [SupportWorld.textTask]
  cases (w.dialogues user).state with
  | idle => exact ⟨rfl, rfl⟩
  | title => by_cases hs : strip text = [] <;> simp [hs, SupportTask.pendingTitle,
      SupportTask.pendingReply]
  | body => by_cases hs : strip text = [] <;> simp [hs, SupportTask.pendingTitle,
      SupportTask.pendingReply]
  | reply => by_cases hs : strip text = [] <;> simp [hs, SupportTask.pendingTitle,
      SupportTask.pendingReply]

theorem SupportWorld.taskOf_holds {admins : List Nat} {w : SupportWorld} {update : SupportUpdate} :
    (w.taskOf admins update).pendingTitle = none ∧
      (w.taskOf admins update).pendingReply = none := by
  cases update with
  | menu user => exact ⟨rfl, rfl⟩
  | new user => exact ⟨rfl, rfl⟩
  | text user text => exact textTask_holds
  | replyButton user ticketId => exact ⟨rfl, rfl⟩
  | closeButton user ticketId => exact ⟨rfl, rfl⟩
  | operatorReply operator ticketId text =>
    simp only [SupportWorld.taskOf]
    split
    · exact textTask_holds
    · cases ticketId with
      | none => exact ⟨rfl, rfl⟩
      | some ticketId => exact ⟨rfl, rfl⟩
  | operatorClose operator ticketId =>
    simp only [SupportWorld.taskOf]
    split
    · exact ⟨rfl, rfl⟩
    · exact ⟨rfl, rfl⟩

theorem SupportWorld.sound_step {admins : List Nat} {w : SupportWorld} {event : SupportEvent}
    (h : w.Sound) (ho : w.Orderly event) : (w.step admins event).Sound := by
  cases event with
  | update slot update =>
    simp only [SupportWorld.step]
    split
    · exact h.quiet w.sameStore_self rfl (.inl taskOf_holds.1) taskOf_holds.2
    · exact h
  | advance slot => exact sound_advance h ho
  | fail slot => exact h.quiet w.sameStore_self rfl (.inl rfl) rfl

/-! ## Orderly runs -/

/-- No handler raises for lack of a title, no two tickets are of one dialogue, and each message of a
user was sent by the owner of its ticket while the ticket was open. -/
structure SupportWorld.Consistent (w : SupportWorld) : Prop where
  notRaised : w.raised = false
  oneTicket : (w.tickets.map SupportTicket.dialogue).Nodup
  sentByOwner : ∀ message ∈ w.messages, message.fromUser = true →
    w.owns message.sentBy message.ticketId = true
  sentWhileOpen : ∀ message ∈ w.messages, message.fromUser = true → message.whileOpen = true

theorem conversations_consistent (admins : List Nat) (events before : List SupportEvent)
    (h : Along (SupportWorld.step admins) SupportWorld.Orderly .start events)
    (hp : before <+: events) : (SupportWorld.run admins before).Consistent := by
  obtain ⟨after, rfl⟩ := hp
  have hbefore := (along_append.1 h).1
  have hs : (SupportWorld.run admins before).Sound := by
    apply run_invariant SupportWorld.sound_start _ hbefore
    intro w event hw ho
    exact SupportWorld.sound_step hw ho
  constructor
  case notRaised => exact hs.notRaised
  case oneTicket => exact hs.dialogues
  case sentByOwner => exact fun message hm hu => (hs.messages message hm hu).2
  case sentWhileOpen => exact fun message hm hu => (hs.messages message hm hu).1

/-- A ticket is created, answered by its owner and closed. -/
theorem conversations_consistent_reply :
    (SupportWorld.run [1] [.update 0 (.new 7), .advance 0, .update 0 (.text 7 ['t']), .advance 0,
      .advance 0, .update 0 (.text 7 ['b']), .advance 0, .advance 0, .advance 0,
      .update 0 (.replyButton 7 1), .advance 0, .advance 0, .advance 0, .update 0 (.text 7 ['r']),
      .advance 0, .advance 0, .advance 0, .advance 0, .update 0 (.operatorClose 1 1), .advance 0,
      .advance 0]).Consistent := by
  apply conversations_consistent [1] _ _ _ List.prefix_rfl
  refine ⟨trivial, trivial, trivial, trivial, trivial, trivial, ?_, trivial, trivial, trivial,
    trivial, trivial, trivial, trivial, trivial, trivial, trivial, trivial, trivial, trivial, ?_,
    trivial⟩
  · exact ⟨(1, ['t']), rfl, List.not_mem_nil⟩
  · intro slot' user
    cases slot' with
    | zero => exact fun h => Option.some_ne_none (user, 1) h.symm
    | succ slot' => exact fun h => Option.some_ne_none (user, 1) h.symm

/-- The body of a ticket in two messages at once, of which the second finds no data. A ticket that
is closed between a reply's check and the reply. -/
theorem conversations_overlap :
    (SupportWorld.run [1] [.update 0 (.new 7), .advance 0, .update 0 (.text 7 ['t']), .advance 0,
      .advance 0, .update 0 (.text 7 ['b']), .update 1 (.text 7 ['c']), .advance 0, .advance 0,
      .advance 1, .advance 1, .advance 1]).raised = true ∧
    ∃ message ∈ (SupportWorld.run [1] [.update 0 (.new 7), .advance 0, .update 0 (.text 7 ['t']),
      .advance 0, .advance 0, .update 0 (.text 7 ['b']), .advance 0, .advance 0, .advance 0,
      .update 0 (.replyButton 7 1), .advance 0, .advance 0, .advance 0, .update 0 (.text 7 ['r']),
      .advance 0, .advance 0, .advance 0, .update 1 (.operatorClose 1 1), .advance 1,
      .advance 1, .advance 0]).messages, message.fromUser = true ∧ message.whileOpen = false := by
  apply And.intro
  · decide
  · decide

end AegisVPN
