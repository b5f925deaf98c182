import Mathlib.Data.List.Basic

namespace AegisVPN
set_option autoImplicit true

/-! # The texts of a support ticket -/

structure Ticket where
  id : Int
  userId : Int
  username : Option String
  fullName : String
  title : String
  status : String
  deriving DecidableEq

structure TicketMessage where
  sender : String
  text : String
  deriving DecidableEq

/-- A text as its characters. -/
abbrev Chars := List Char

def maxLen : Int := 3500

/-- The longest text that Telegram delivers. -/
def telegramCap : Nat := 4096

/-! ## Texts -/

structure ThreadTexts where
  threadTicket : String
  statusLabel : String
  stOpen : String
  stClosed : String
  whoYou : String
  whoSupport : String
  truncated : String

def ruTexts : ThreadTexts :=
  { threadTicket := "Тикет", statusLabel := "Статус", stOpen := "открыт", stClosed := "закрыт",
    whoYou := "Вы", whoSupport := "Поддержка", truncated := "… (ранние сообщения скрыты)" }

def enTexts : ThreadTexts :=
  { threadTicket := "Ticket", statusLabel := "Status", stOpen := "open", stClosed := "closed",
    whoYou := "You", whoSupport := "Support", truncated := "… (earlier messages hidden)" }

/-- What is no supported language is Russian. -/
def textsOf (lang : String) : ThreadTexts := if lang = "en" then enTexts else ruTexts

def statusWord (ticket : Ticket) (texts : ThreadTexts) : String :=
  if ticket.status = "open" then texts.stOpen else texts.stClosed

def adminHeader (ticket : Ticket) : Chars :=
  let handle := match ticket.username with
    | some name => if name = "" then "" else s!", @{name}"
    | none => ""
  let status := if ticket.status = "open" then "открыт" else "закрыт"
  (s!"Тикет #{ticket.id} — {ticket.title}\n" ++
    s!"От: {ticket.fullName} (ID: {ticket.userId}{handle})\n" ++
    s!"Статус: {status}").toList

def userHeader (ticket : Ticket) (texts : ThreadTexts) : Chars :=
  let status := statusWord ticket texts
  let threadTicket := texts.threadTicket
  let statusLabel := texts.statusLabel
  (s!"{threadTicket} #{ticket.id} — {ticket.title}\n{statusLabel}: {status}").toList

/-! ## Threads -/

def separator : Chars := ['\n', '\n']

def threadLine (whoUser whoSupport : String) (m : TicketMessage) : Chars :=
  (if m.sender = "user" then whoUser else whoSupport).toList ++ [':', ' '] ++ m.text.toList

/-- From the newest line on, those that are kept, and whether one was left out. The first is kept
in any case. -/
def keepNewest (budget : Int) : Bool → Int → List Chars → List Chars × Bool
  | _, _, [] => ([], false)
  | first, total, line :: older =>
    if !first && decide (total + line.length + 2 > budget) then ([], true)
    else
      let (kept, truncated) := keepNewest budget false (total + line.length + 2) older
      (line :: kept, truncated)

def joinLines (lines : List Chars) : Chars := separator.intercalate lines

def renderThread (lines : List Chars) (budget : Int) (truncatedLabel : Chars) : Chars :=
  let (kept, truncated) := keepNewest budget true 0 lines.reverse
  let body := joinLines kept.reverse
  if truncated then truncatedLabel ++ separator ++ body else body

/-- A header and a thread below it, within the default bound. -/
def renderUnder (header : Chars) (lines : List Chars) (truncatedLabel : Chars) : Chars :=
  header ++ separator ++ renderThread lines (maxLen - header.length - 2) truncatedLabel

def adminLines (messages : List TicketMessage) : List Chars :=
  messages.map (threadLine "Пользователь" "Поддержка")

def userLines (texts : ThreadTexts) (messages : List TicketMessage) : List Chars :=
  messages.map (threadLine texts.whoYou texts.whoSupport)

def adminTruncated : Chars := "… (ранние сообщения скрыты)".toList

def renderAdminHistory (ticket : Ticket) (messages : List TicketMessage) : Chars :=
  renderUnder (adminHeader ticket) (adminLines messages) adminTruncated

def renderUserThread (ticket : Ticket) (messages : List TicketMessage) (lang : String) : Chars :=
  let texts := textsOf lang
  renderUnder (userHeader ticket texts) (userLines texts messages) texts.truncated.toList

/-! ## What a text should be -/

/-- The lines, of which at most the newest is cut short. -/
def ShortenedTo (lines shown : List Chars) : Prop :=
  shown = lines ∨ ∃ older newest cut, lines = older ++ [newest] ∧ shown = older ++ [cut] ∧
    cut <+: newest

/-- The text fits, shows the newest lines, and marks exactly whether something was left out. -/
structure WellRendered (header : Chars) (lines : List Chars) (label text : Chars) : Prop where
  fits : text.length ≤ telegramCap
  shows : ∃ older newer shown, ∃ marked : Bool, lines = older ++ newer ∧
    (lines ≠ [] → newer ≠ []) ∧ ShortenedTo newer shown ∧
    (marked = true ↔ older ≠ [] ∨ shown ≠ newer) ∧
    text = header ++ separator ++ ((if marked then label ++ separator else []) ++ joinLines shown)

/-- The header and the newest line fit, with the label if there are older lines. -/
def NewestFits (header : Chars) (lines : List Chars) (label : Chars) : Prop :=
  match lines.reverse with
  | [] => header.length + 2 ≤ telegramCap
  | [newest] => header.length + 2 + newest.length ≤ telegramCap
  | newest :: _ :: _ => header.length + 2 + (label.length + 2 + newest.length) ≤ telegramCap

/-! ## Lengths -/

/-- What lines take up, each with its separator. -/
def cost : List Chars → Nat
  | [] => 0
  | line :: lines => line.length + 2 + cost lines

theorem cost_append (ls ms : List Chars) : cost (ls ++ ms) = cost ls + cost ms := by
  induction ls with
  | nil => rw [List.nil_append, cost, Nat.zero_add]
  | cons l ls ih =>
    rw [List.cons_append, cost, cost, ih]
    omega

theorem cost_reverse (ls : List Chars) : cost ls.reverse = cost ls := by
  induction ls with
  | nil => rfl
  | cons l ls ih =>
    rw [List.reverse_cons, cost_append, ih, cost, cost, cost]
    omega

theorem joinLines_length : ∀ {lines : List Chars}, lines ≠ [] →
    (joinLines lines).length + 2 = cost lines
  | [line], _ => by
    simp only [joinLines, List.intercalate_singleton, cost, Nat.add_zero]
  | line :: next :: lines, _ => by
    have ih := joinLines_length (List.cons_ne_nil next lines)
    rw [cost, ← ih]
    simp only [joinLines, List.intercalate_cons_cons, List.length_append, separator,
      List.length_cons, List.length_nil]
    omega

/-! ## What is kept -/

theorem keepNewest_split (budget : Int) (first : Bool) (total : Int) (lines : List Chars) :
    ∃ older, lines = (keepNewest budget first total lines).1 ++ older ∧
      ((keepNewest budget first total lines).2 = true ↔ older ≠ []) := by
  induction lines generalizing first total with
  | nil => exact ⟨[], rfl, by simp [keepNewest]⟩
  | cons line lines ih =>
    rw [keepNewest]
    split
    · exact ⟨line :: lines, rfl, by simp⟩
    · obtain ⟨older, hsplit, htruncated⟩ := ih false (total + line.length + 2)
      exact ⟨older, congrArg (line :: ·) hsplit, htruncated⟩

theorem keepNewest_first (budget total : Int) (line : Chars) (lines : List Chars) :
    (keepNewest budget true total (line :: lines)).1 =
      line :: (keepNewest budget false (total + line.length + 2) lines).1 := by
  rw [keepNewest]
  simp only [Bool.not_true, Bool.false_and, Bool.false_eq_true, if_false]

theorem keepNewest_within {budget total : Int} {lines : List Chars}
    (h : (keepNewest budget false total lines).1 ≠ []) :
    total + cost (keepNewest budget false total lines).1 ≤ budget := by
  induction lines generalizing total with
  | nil => exact absurd rfl h
  | cons line lines ih =>
    rw [keepNewest] at h ⊢
    split at h
    · exact absurd rfl h
    · next hfits =>
      rw [if_neg hfits]
      simp only [Bool.not_false, Bool.true_and, decide_eq_true_eq, Int.not_lt] at hfits
      simp only [cost]
      by_cases hmore : (keepNewest budget false (total + line.length + 2) lines).1 = []
      · rw [hmore, cost]
        omega
      · have hrest := ih hmore
        omega

theorem renderThread_parts (lines : List Chars) (budget : Int) (label : Chars) :
    ∃ older, lines = older ++ (keepNewest budget true 0 lines.reverse).1.reverse ∧
      ((keepNewest budget true 0 lines.reverse).2 = true ↔ older ≠ []) ∧
      renderThread lines budget label =
        (if (keepNewest budget true 0 lines.reverse).2 then label ++ separator else []) ++
          joinLines (keepNewest budget true 0 lines.reverse).1.reverse := by
  obtain ⟨older, hsplit, htruncated⟩ := keepNewest_split budget true 0 lines.reverse
  refine ⟨older.reverse, ?_, ?_, ?_⟩
  · rw [← List.reverse_append, ← hsplit, List.reverse_reverse]
  · rw [htruncated, ne_eq, ne_eq, List.reverse_eq_nil_iff]
  · cases hkept : keepNewest budget true 0 lines.reverse with
    | mk kept truncated =>
      simp only [renderThread, hkept]
      cases truncated with
      | true => simp only [if_true, List.append_assoc]
      | false => simp only [Bool.false_eq_true, if_false, List.nil_append]

theorem kept_ne_nil {lines : List Chars} (h : lines ≠ []) (budget : Int) :
    (keepNewest budget true 0 lines.reverse).1.reverse ≠ [] := by
  cases hlines : lines.reverse with
  | nil => exact absurd (List.reverse_eq_nil_iff.1 hlines) h
  | cons line older =>
    rw [keepNewest_first, List.reverse_cons]
    exact List.append_ne_nil_of_right_ne_nil _ (List.cons_ne_nil _ _)

theorem body_length {lines : List Chars} (h : lines.reverse = newest :: rest) (budget : Int) :
    (joinLines (keepNewest budget true 0 lines.reverse).1.reverse).length =
      newest.length + cost (keepNewest budget false (newest.length + 2) rest).1 := by
  have hlines : lines ≠ [] := by
    rintro rfl
    cases h
  have hjoined := joinLines_length (kept_ne_nil hlines budget)
  rw [cost_reverse] at hjoined
  rw [h, keepNewest_first, cost, Int.zero_add] at hjoined
  rw [h, keepNewest_first, Int.zero_add]
  omega

/-- A thread under its header fits exactly when its newest line does: all others are kept only
within the default bound. -/
theorem renderUnder_fits (header : Chars) (lines : List Chars) (label : Chars)
    (hlabel : label.length ≤ 596) :
    (renderUnder header lines label).length ≤ telegramCap ↔ NewestFits header lines label := by
  obtain ⟨older, hlines, htruncated, htext⟩ :=
    renderThread_parts lines (maxLen - header.length - 2) label
  have hlength : (renderUnder header lines label).length = header.length + 2 +
      ((if older ≠ [] then label.length + 2 else 0) +
        (joinLines (keepNewest (maxLen - header.length - 2) true 0 lines.reverse).1.reverse).length)
      := by
    simp only [renderUnder, htext, htruncated, List.length_append, separator, List.length_cons,
      List.length_nil]
    split
    · simp only [List.length_append, List.length_cons, List.length_nil]
    · rfl
  rw [hlength, NewestFits]
  have holder : older.length + (keepNewest (maxLen - header.length - 2) true 0
      lines.reverse).1.length = lines.reverse.length := by
    have hcount := congrArg List.length hlines
    rw [List.length_append, List.length_reverse] at hcount
    rw [List.length_reverse, hcount]
  cases hnew : lines.reverse with
  | nil =>
    rw [hnew] at holder
    have hnone : older = [] := List.eq_nil_of_length_eq_zero (by
      rw [List.length_nil] at holder
      omega)
    simp only [hnone, ne_eq, not_true_eq_false, if_false, keepNewest, List.reverse_nil, joinLines,
      List.intercalate_nil, List.length_nil, Nat.add_zero]
  | cons newest rest =>
    have hbody := body_length hnew (maxLen - header.length - 2)
    rw [hnew] at hbody
    rw [hbody]
    rw [hnew, keepNewest_first, List.length_cons, List.length_cons, Int.zero_add] at holder
    cases rest with
    | nil =>
      have hnone : older = [] := List.eq_nil_of_length_eq_zero (by
        rw [List.length_nil] at holder
        omega)
      simp only [hnone, ne_eq, not_true_eq_false, if_false, keepNewest, cost, Nat.zero_add,
        Nat.add_zero]
    | cons second rest =>
      by_cases hmore : (keepNewest (maxLen - header.length - 2) false (newest.length + 2)
          (second :: rest)).1 = []
      · -- only the newest line is kept, and the label is set
        have hsome : older ≠ [] := by
          rintro rfl
          simp only [hmore, List.length_nil, List.length_cons] at holder
          omega
        simp only [hmore, cost, Nat.add_zero, if_pos hsome]
      · -- more lines are kept, so that all of it is within the default bound
        have hwithin := keepNewest_within hmore
        have hcost : 0 < cost (keepNewest (maxLen - header.length - 2) false (newest.length + 2)
            (second :: rest)).1 := by
          obtain ⟨line, kept, hcons⟩ := List.exists_cons_of_ne_nil hmore
          rw [hcons, cost]
          omega
        simp only [maxLen, telegramCap] at *
        split
        · omega
        · omega

/-- However long the messages are: the text shows an unbroken end of them and says whether it is
all, and it fits exactly when the newest of them does. -/
theorem renderUnder_iff (header : Chars) (lines : List Chars) (label : Chars)
    (hlabel : label.length ≤ 596) :
    WellRendered header lines label (renderUnder header lines label) ↔
      NewestFits header lines label := by
  rw [← renderUnder_fits header lines label hlabel]
  constructor
  · exact fun h => h.fits
  · intro hfits
    obtain ⟨older, hlines, htruncated, htext⟩ :=
      renderThread_parts lines (maxLen - header.length - 2) label
    refine ⟨hfits, older, _, _, (keepNewest (maxLen - header.length - 2) true 0 lines.reverse).2,
      hlines, fun h => kept_ne_nil h _, .inl rfl, ?_, ?_⟩
    · rw [htruncated]
      simp
    · rw [renderUnder, htext]

theorem label_short (lang : String) : (textsOf lang).truncated.toList.length ≤ 596 := by
  rw [textsOf]
  split
  · decide
  · decide

/-- Both histories of a ticket are right exactly when the newest message fits under the header. -/
theorem histories_right_iff (ticket : Ticket) (messages : List TicketMessage) :
    (WellRendered (adminHeader ticket) (adminLines messages) adminTruncated
        (renderAdminHistory ticket messages) ↔
      NewestFits (adminHeader ticket) (adminLines messages) adminTruncated) ∧
    ∀ lang, WellRendered (userHeader ticket (textsOf lang)) (userLines (textsOf lang) messages)
        (textsOf lang).truncated.toList (renderUserThread ticket messages lang) ↔
      NewestFits (userHeader ticket (textsOf lang)) (userLines (textsOf lang) messages)
        (textsOf lang).truncated.toList := by
  constructor
  · exact renderUnder_iff _ _ _ (by decide)
  · intro lang
    exact renderUnder_iff _ _ _ (label_short lang)

def sampleTicket : Ticket :=
  { id := 7, userId := 42, username := some "ivan", fullName := "Ivan", title := "No connection",
    status := "open" }

/-- A message as long as Telegram delivers. -/
def longMessage : TicketMessage := ⟨"user", String.ofList (List.replicate 4096 'x')⟩

/-- With the header above it, the only message of the ticket is too long for the operators. -/
theorem history_too_long : ¬∀ (ticket : Ticket) (messages : List TicketMessage),
    ticket.title.length ≤ 120 → (∀ m ∈ messages, m.text.length ≤ telegramCap) →
      WellRendered (adminHeader ticket) (adminLines messages) adminTruncated
        (renderAdminHistory ticket messages) := by
  intro h
  have hlength : longMessage.text.length = telegramCap := by
    rw [longMessage, String.length_ofList, List.length_replicate, telegramCap]
  have htext : longMessage.text.length ≤ telegramCap := Nat.le_of_eq hlength
  have hright := h sampleTicket [longMessage] (by decide)
    (fun m hm => (List.mem_singleton.1 hm) ▸ htext)
  have hfits := (renderUnder_fits (adminHeader sampleTicket) (adminLines [longMessage])
    adminTruncated (by decide)).1 hright.fits
  have hline : (threadLine "Пользователь" "Поддержка" longMessage).length = 14 + 4096 := by
    have hwho : "Пользователь".toList.length = 12 := by decide
    simp only [threadLine, longMessage, if_true, List.length_append, hwho, List.length_cons,
      List.length_nil, String.toList_ofList, List.length_replicate]
  have hbound : (adminHeader sampleTicket).length + 2 +
      (threadLine "Пользователь" "Поддержка" longMessage).length ≤ telegramCap := hfits
  rw [hline, telegramCap] at hbound
  omega

end AegisVPN
