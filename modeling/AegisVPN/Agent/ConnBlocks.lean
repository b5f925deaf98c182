import AegisVPN.Agent.ConnLimit
import AegisVPN.Library.Runs

namespace AegisVPN
open Library
set_option autoImplicit true

/-! ## The block rule over many cycles -/

/-- What happens to the limiter and to the Xray with its block rule: a cycle, whose `sib` call may
fail and yet have replaced the rule, or a new agent process beside the same Xray. -/
inductive LimiterEvent
  | cycle (settings : ConnSettings) (answers : OnlineAnswers) (replaced : Bool)
  | restart

/-- The state after a cycle whose `sib` call has replaced the rule whatever it answered. -/
def replacedRule (settings : ConnSettings) (answers : OnlineAnswers) (s : ConnState) : ConnState :=
  { (enforceConnLimitOnce settings answers s).2 with
    blocked := (enforceConnLimitOnce settings { answers with sib := true } s).2.blocked }

def limiterStep (s : ConnState) : LimiterEvent → ConnState
  | .cycle settings answers replaced =>
    if replaced then replacedRule settings answers s
    else (enforceConnLimitOnce settings answers s).2
  | .restart => { s with prevHadExcess := false }

/-- If the cycle completes and its `sib` call, if any, succeeds, the rule blocks the excess
addresses of the cycle and no others. -/
def CycleClears (settings : ConnSettings) (answers : OnlineAnswers) (s : ConnState) : Prop :=
  ∀ limited, limitedEmails settings answers = .ok limited →
    (answers.Rewrites settings s → answers.sib = true) →
      ∀ ip, ip ∈ (enforceConnLimitOnce settings answers s).2.blocked ↔
        ip ∈ (overLimit answers limited).1

/-- The limiter knows of the addresses that are blocked. -/
def Remembers (s : ConnState) : Prop := s.prevHadExcess = true ∨ s.blocked = []

/-- A new process finds nothing blocked. A cycle without excess leaves nothing blocked, or had no
rule to clear. -/
def Tended (s : ConnState) : LimiterEvent → Prop
  | .cycle settings answers replaced => ∀ limited, limitedEmails settings answers = .ok limited →
    (overLimit answers limited).1 = [] →
      answers.sib = true ∨ replaced = true ∨ s.prevHadExcess = false ∨ s.blocked = []
  | .restart => s.blocked = []

section Cycles
variable {settings : ConnSettings} {answers : OnlineAnswers} {s : ConnState}

theorem enforce_error (h : limitedEmails settings answers = .error e) (s : ConnState) :
    enforceConnLimitOnce settings answers s = (.error e, { s with kicked := [] }) := by
  rw [enforceConnLimitOnce, h]

theorem enforce_idle (h : limitedEmails settings answers = .ok limited)
    (hidle : (overLimit answers limited).1 = []) (hs : s.prevHadExcess = false) :
    (enforceConnLimitOnce settings answers s).2.prevHadExcess = false ∧
      (enforceConnLimitOnce settings answers s).2.blocked = s.blocked := by
  rw [enforceConnLimitOnce, h]
  simp only [hidle, hs, and_self, ↓reduceIte]

theorem enforce_busy (h : limitedEmails settings answers = .ok limited)
    (hbusy : ¬ ((overLimit answers limited).1 = [] ∧ s.prevHadExcess = false)) :
    (enforceConnLimitOnce settings answers s).2.prevHadExcess =
        !(overLimit answers limited).1.isEmpty ∧
      (enforceConnLimitOnce settings answers s).2.blocked =
        if answers.sib then (overLimit answers limited).1 else s.blocked := by
  rw [enforceConnLimitOnce, h]
  simp only [hbusy, ↓reduceIte, and_self]

theorem cycle_error (h : limitedEmails settings answers = .error e) (s : ConnState)
    (replaced : Bool) :
    limiterStep s (.cycle settings answers replaced) = { s with kicked := [] } := by
  have h' : limitedEmails settings { answers with sib := true } = .error e := h
  cases replaced with
  | false => exact congrArg Prod.snd (enforce_error h s)
  | true => simp only [limiterStep, ↓reduceIte, replacedRule, enforce_error h, enforce_error h']

theorem cycle_idle (h : limitedEmails settings answers = .ok limited)
    (hidle : (overLimit answers limited).1 = []) (hs : s.prevHadExcess = false)
    (replaced : Bool) :
    (limiterStep s (.cycle settings answers replaced)).prevHadExcess = false ∧
      (limiterStep s (.cycle settings answers replaced)).blocked = s.blocked := by
  have h' : limitedEmails settings { answers with sib := true } = .ok limited := h
  cases replaced with
  | false => exact enforce_idle h hidle hs
  | true => exact ⟨(enforce_idle h hidle hs).1, (enforce_idle h' hidle hs).2⟩

theorem cycle_busy (h : limitedEmails settings answers = .ok limited)
    (hbusy : ¬ ((overLimit answers limited).1 = [] ∧ s.prevHadExcess = false))
    (replaced : Bool) :
    (limiterStep s (.cycle settings answers replaced)).prevHadExcess =
        !(overLimit answers limited).1.isEmpty ∧
      (limiterStep s (.cycle settings answers replaced)).blocked =
        if answers.sib = true ∨ replaced = true then (overLimit answers limited).1
        else s.blocked := by
  have h' : limitedEmails settings { answers with sib := true } = .ok limited := h
  cases replaced with
  | false =>
    simp only [Bool.false_eq_true, or_false]
    exact enforce_busy h hbusy
  | true =>
    simp only [or_true, ↓reduceIte]
    exact ⟨(enforce_busy h hbusy).1, (enforce_busy h' hbusy).2⟩

/-- A cycle in which nobody is online. -/
def nobodyOnline : OnlineAnswers := ⟨[], .ok [], fun _ => .ok [], true, true⟩

theorem limited_nobodyOnline (settings : ConnSettings) :
    limitedEmails settings nobodyOnline = .ok [] := rfl

/-- Every cycle clears the stale blocks exactly if the limiter remembers that there are any. -/
theorem remembers_iff :
    Remembers s ↔ ∀ settings answers, CycleClears settings answers s := by
  constructor
  · intro hs settings answers limited h hsib ip
    by_cases hidle : (overLimit answers limited).1 = [] ∧ s.prevHadExcess = false
    · have hnone : s.blocked = [] := by
        rcases hs with hflag | hnone
        · rw [hidle.2] at hflag
          cases hflag
        · exact hnone
      rw [(enforce_idle h hidle.1 hidle.2).2, hnone, hidle.1]
    · rw [(enforce_busy h hidle).2, if_pos (hsib ((rewrites_iff h).2 hidle))]
  · intro hall
    by_cases hflag : s.prevHadExcess = true
    · exact .inl hflag
    · have hoff : s.prevHadExcess = false := by simpa using hflag
      have hquiet := hall connSettings nobodyOnline [] (limited_nobodyOnline _) fun _ => rfl
      rw [(enforce_idle (limited_nobodyOnline connSettings) rfl hoff).2] at hquiet
      exact .inr (List.eq_nil_iff_forall_not_mem.2 fun ip hip => by cases (hquiet ip).1 hip)

/-- A step loses track of the blocked addresses exactly if it is not tended. -/
theorem tended_iff (s : ConnState) (e : LimiterEvent) (hs : Remembers s) :
    Tended s e ↔ Remembers (limiterStep s e) := by
  cases e with
  | restart =>
    constructor
    · exact fun h => .inr h
    · rintro (hflag | hnone)
      · cases hflag
      · exact hnone
  | cycle settings answers replaced =>
    cases h : limitedEmails settings answers with
    | error e =>
      rw [cycle_error h]
      simp only [Tended, h]
      exact ⟨fun _ => hs, fun _ _ hok => by cases hok⟩
    | ok limited =>
      have htended : Tended s (.cycle settings answers replaced) ↔
          ((overLimit answers limited).1 = [] →
            answers.sib = true ∨ replaced = true ∨ s.prevHadExcess = false ∨ s.blocked = []) := by
        simp only [Tended, h, Except.ok.injEq, forall_eq']
      rw [htended, Remembers]
      by_cases hidle : (overLimit answers limited).1 = [] ∧ s.prevHadExcess = false
      · obtain ⟨hflag, hblocked⟩ := cycle_idle h hidle.1 hidle.2 replaced
        rw [hflag, hblocked]
        have hnone : s.blocked = [] := hs.resolve_left (by simp [hidle.2])
        simp [hidle.2, hnone]
      · obtain ⟨hflag, hblocked⟩ := cycle_busy h hidle replaced
        rw [hflag, hblocked]
        by_cases hexcess : (overLimit answers limited).1 = []
        · have hon : s.prevHadExcess = true := by simpa using fun hoff => hidle ⟨hexcess, hoff⟩
          by_cases hcall : answers.sib = true ∨ replaced = true
          · simp only [hcall, hexcess, ↓reduceIte, or_true, iff_true]
            exact fun _ => hcall.elim .inl fun hr => .inr (.inl hr)
          · rw [not_or] at hcall
            simp [hcall.1, hcall.2, hexcess, hon]
        · simp [hexcess]

end Cycles

/-- All cycles of a run, and whichever cycle comes next, clear the stale blocks exactly if every
step of the run is tended. -/
theorem stale_blocks_cleared (es : List LimiterEvent) :
    (∀ es', es' <+: es → ∀ settings answers,
      CycleClears settings answers (es'.foldl limiterStep idleState)) ↔
        Along limiterStep Tended idleState es := by
  simp only [← remembers_iff]
  exact along_iff_invariant (.inr rfl) tended_iff

/-- The call that was to clear the rule fails, and the next cycle does not try again. -/
theorem failed_clear_forgotten :
    ¬ ∀ (es : List LimiterEvent) settings answers,
      CycleClears settings answers (es.foldl limiterStep idleState) := by
  intro hall
  have hclears := hall [.cycle connSettings sharedAddress false,
    .cycle connSettings { nobodyOnline with sib := false } false] connSettings nobodyOnline []
    (limited_nobodyOnline _) (fun _ => rfl) "192.0.2.1"
  have hblocked : "192.0.2.1" ∈ (enforceConnLimitOnce connSettings nobodyOnline
      ([LimiterEvent.cycle connSettings sharedAddress false,
        .cycle connSettings { nobodyOnline with sib := false } false].foldl limiterStep
          idleState)).2.blocked := by decide
  cases hclears.1 hblocked

/-! ## Users within their limit -/

section Within
variable (settings : ConnSettings) (answers : OnlineAnswers)

/-- The emails online of the user that an email belongs to; one that names no user stands for
itself. -/
def OnlineAnswers.ownEmails (email : String) : List String :=
  match userIdFromEmail settings email with
  | .ok (some userId) => answers.emailsOf settings userId
  | _ => answers.emails.filter fun e => e = email

/-- The distinct source addresses of the user of an email, and its Hysteria2 sessions. -/
def OnlineAnswers.combinedSessions (email : String) : Nat :=
  (((answers.ownEmails settings email).flatMap fun e =>
    (answers.addresses e).map Prod.fst).dedup).length +
      ((answers.ownEmails settings email).map answers.hy2).sum

/-- The user of the email is unlimited, or has no more sessions than its limit. -/
def OnlineAnswers.Within (email : String) : Prop :=
  settings.limit email ≤ 0 ∨
    (answers.combinedSessions settings email : Int) ≤ settings.limit email

instance (email : String) : Decidable (answers.Within settings email) :=
  inferInstanceAs (Decidable (_ ∨ _))

/-- No user within its limit was kicked or has an address that is blocked. -/
def ConnState.Spares (s : ConnState) : Prop :=
  ∀ email ∈ answers.emails, answers.Within settings email →
    email ∉ s.kicked ∧ ∀ ip ∈ (answers.addresses email).map Prod.fst, ip ∉ s.blocked

/-- The address is among the newest ones of everyone over its limit who reports it; or, where the
rule stays as it was, the rule does not have it. -/
def OnlineAnswers.Clear (s : ConnState) (ip : String) : Prop :=
  if answers.Rewrites settings s ∧ answers.sib = true then answers.Fits settings ip
  else ip ∉ s.blocked

instance (s : ConnState) (ip : String) : Decidable (answers.Clear settings s ip) := by
  unfold OnlineAnswers.Clear
  infer_instance

variable {settings answers}

theorem mem_ownEmails {email : String} (h : email ∈ answers.emails) :
    email ∈ answers.ownEmails settings email := by
  rw [OnlineAnswers.ownEmails]
  split
  · rename_i userId huser
    exact List.mem_filter.2 ⟨h, decide_eq_true huser⟩
  · exact List.mem_filter.2 ⟨h, decide_eq_true rfl⟩

theorem sessions_le_combined {email : String} (h : email ∈ answers.emails) :
    (answers.addresses email).length + answers.hy2 email ≤
      answers.combinedSessions settings email := by
  have hown : email ∈ answers.ownEmails settings email := mem_ownEmails h
  have haddresses : (answers.addresses email).length ≤
      (((answers.ownEmails settings email).flatMap fun e =>
        (answers.addresses e).map Prod.fst).dedup).length := by
    have hsub : (answers.addresses email).map Prod.fst ⊆
        ((answers.ownEmails settings email).flatMap fun e =>
          (answers.addresses e).map Prod.fst).dedup := by
      intro ip hip
      exact List.mem_dedup.2 (List.mem_flatMap.2 ⟨email, hown, hip⟩)
    have hle := (List.subperm_of_subset (addresses_nodup email) hsub).length_le
    rwa [List.length_map] at hle
  have hhy2 : answers.hy2 email ≤ ((answers.ownEmails settings email).map answers.hy2).sum :=
    List.le_sum_of_mem (List.mem_map_of_mem hown)
  exact Nat.add_le_add haddresses hhy2

theorem within_not_kicked (h : limitedEmails settings answers = .ok limited) {email : String}
    (hwithin : answers.Within settings email) : email ∉ (overLimit answers limited).2 := by
  intro hkick
  obtain ⟨hemail, hpos, hover, _⟩ := (mem_kicks h email).1 hkick
  have hsessions : (answers.addresses email).length + answers.hy2 email ≤
      answers.combinedSessions settings email := sessions_le_combined hemail
  rcases hwithin with hfree | hle <;> omega

theorem not_blocked_iff (h : limitedEmails settings answers = .ok limited) (s : ConnState)
    (ip : String) : ip ∉ (enforceConnLimitOnce settings answers s).2.blocked ↔
      answers.Clear settings s ip := by
  rw [OnlineAnswers.Clear]
  by_cases hidle : (overLimit answers limited).1 = [] ∧ s.prevHadExcess = false
  · have hw : ¬ answers.Rewrites settings s := fun hw => (rewrites_iff h).1 hw hidle
    rw [(enforce_idle h hidle.1 hidle.2).2, if_neg fun hc => hw hc.1]
  · have hw : answers.Rewrites settings s := (rewrites_iff h).2 hidle
    rw [(enforce_busy h hidle).2]
    by_cases hsib : answers.sib = true
    · rw [if_pos hsib, if_pos ⟨hw, hsib⟩, fits_iff h]
    · rw [if_neg hsib, if_neg fun hc => hsib hc.2]

/-- A cycle spares every user within its limit exactly if the addresses of all of them are clear:
no other user reports one beyond its newest. -/
theorem within_limit_spared (settings : ConnSettings) (answers : OnlineAnswers) (s : ConnState)
    (n : Nat) (hok : (enforceConnLimitOnce settings answers s).1 = .ok n) :
    (enforceConnLimitOnce settings answers s).2.Spares settings answers ↔
      ∀ email ∈ answers.emails, answers.Within settings email →
        ∀ ip ∈ (answers.addresses email).map Prod.fst, answers.Clear settings s ip := by
  cases h : limitedEmails settings answers with
  | error e =>
    rw [enforce_error h] at hok
    cases hok
  | ok limited =>
    have hkicked : (enforceConnLimitOnce settings answers s).2.kicked ⊆
        (overLimit answers limited).2 := by
      rw [enforceConnLimitOnce, h]
      cases answers.kick <;> dsimp only <;> split <;> simp
    constructor
    · intro hspares email hemail hwithin ip hip
      exact (not_blocked_iff h s ip).1 ((hspares email hemail hwithin).2 ip hip)
    · intro hclear email hemail hwithin
      refine ⟨fun hkick => within_not_kicked h hwithin (hkicked hkick), fun ip hip => ?_⟩
      exact (not_blocked_iff h s ip).2 (hclear email hemail hwithin ip hip)

end Within

/-- User 1 is over its limit of one, user 2 has one connection. -/
def twoUsers (address : String) : OnlineAnswers := ⟨[], .ok ["user_1_sub_1", "user_2_sub_2"],
  fun email => .ok (if email = "user_1_sub_1" then [("192.0.2.1", 10), ("192.0.2.2", 20)]
    else [(address, 30)]), true, true⟩

/-- The older address of the first user is blocked, the second user has another. -/
theorem within_limit_spared_apart :
    (enforceConnLimitOnce connSettings (twoUsers "192.0.2.3") idleState).2.blocked =
        ["192.0.2.1"] ∧
      (enforceConnLimitOnce connSettings (twoUsers "192.0.2.3") idleState).2.Spares connSettings
        (twoUsers "192.0.2.3") := by
  have hok : (enforceConnLimitOnce connSettings (twoUsers "192.0.2.3") idleState).1 = .ok 1 := by
    decide
  exact ⟨by decide, (within_limit_spared _ _ _ 1 hok).2 (by decide)⟩

/-- Both users come from one address: the one within its limit is blocked with the other. -/
theorem shared_address_blocked :
    (enforceConnLimitOnce connSettings (twoUsers "192.0.2.1") idleState).1 = .ok 1 ∧
      (twoUsers "192.0.2.1").Within connSettings "user_2_sub_2" ∧
      ¬ (enforceConnLimitOnce connSettings (twoUsers "192.0.2.1") idleState).2.Spares connSettings
        (twoUsers "192.0.2.1") := by
  have hblocked : (enforceConnLimitOnce connSettings (twoUsers "192.0.2.1") idleState).2.blocked =
      ["192.0.2.1"] := by decide
  have hwithin : (twoUsers "192.0.2.1").Within connSettings "user_2_sub_2" := by decide
  refine ⟨by decide, hwithin, fun hspares => ?_⟩
  have hnot := (hspares "user_2_sub_2" (by decide) hwithin).2 "192.0.2.1"
    (by decide)
  rw [hblocked] at hnot
  exact hnot List.mem_cons_self

end AegisVPN
