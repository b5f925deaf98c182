import Mathlib.Algebra.GroupWithZero.Nat
import Mathlib.Algebra.Order.BigOperators.Group.Finset
import Mathlib.Data.List.Dedup
import Mathlib.Data.List.Sort
import AegisVPN.Agent.ControlClient
import AegisVPN.Bot.Traffic
import AegisVPN.Control.State

namespace AegisVPN
open Library
set_option autoImplicit true

inductive ConnError
  | statsQuery (text : String)
  | value
  deriving DecidableEq

/-- What the limiter is configured with, and how characters read as digits: whether a text is all
digits, and which of them have a decimal value. -/
structure ConnSettings where
  isDigit : Char → Bool
  digit : Char → Option Nat
  connLimit : Int
  overrides : List (Nat × Int)

/-- What Xray and Hysteria2 answer in one cycle, and whether they take the kick and the block
rule. -/
structure OnlineAnswers where
  hy2Counts : List (String × Nat)
  users : Except ConnError (List String)
  ips : String → Except ConnError (List (String × Int))
  kick : Bool
  sib : Bool

/-- The source addresses that the block rule names, and the emails that were kicked. -/
structure ConnState where
  prevHadExcess : Bool
  blocked : List String
  kicked : List String
  deriving DecidableEq

/-! ## Emails -/

/-- The pieces of a text between its `>>>`. -/
def splitArrows : List Char → List (List Char)
  | '>' :: '>' :: '>' :: rest => [] :: splitArrows rest
  | [] => [[]]
  | c :: rest =>
    match splitArrows rest with
    | [] => [[c]]
    | piece :: pieces => (c :: piece) :: pieces

/-- An email, or the name of the online counter of an email. -/
def normalizeOnlineName (value : String) : Option String :=
  let named := match splitArrows value.toList with
    | [email] => some email
    | [user, email, online] =>
      if user = "user".toList ∧ online = "online".toList then some email else none
    | _ => none
  named.bind fun email => if email = [] then none else some (String.ofList email)

section Emails
variable (settings : ConnSettings)

/-- Emails look like `user_<id>_sub_<sid>`. -/
def userIdFromEmail (email : String) : Except ConnError (Option Nat) :=
  match email.toList.splitOn '_' with
  | user :: userId :: _ =>
    if user = "user".toList ∧ userId ≠ [] ∧ userId.all settings.isDigit = true then
      match decimalNumber settings.digit userId with
      | some n => .ok (some n)
      | none => .error .value
    else .ok none
  | _ => .ok none

def limitFor (email : String) : Except ConnError Int := do
  let userId ← userIdFromEmail settings email
  return (userId.bind fun n => settings.overrides.lookup n).getD settings.connLimit

end Emails

/-- The digits from 0 to 9 read as everywhere. -/
def ConnSettings.Plain (settings : ConnSettings) : Prop :=
  ∀ c : Char, c.isDigit = true →
    settings.isDigit c = true ∧ settings.digit c = some (c.toNat - '0'.toNat)

theorem decimalNumber_toDigits {settings : ConnSettings} (h : settings.Plain) (n : Nat) :
    decimalNumber settings.digit (Nat.toDigits 10 n) = some n := by
  have hfold : ∀ (text : List Char) (k : Nat), (∀ c ∈ text, c.isDigit = true) →
      text.foldlM (fun n c => (settings.digit c).map fun d => 10 * n + d) k =
        some (Nat.ofDigitChars 10 text k) := by
    intro text
    induction text with
    | nil => exact fun k _ => rfl
    | cons c text ih =>
      intro k hdigits
      rw [List.foldlM_cons, (h c (hdigits c List.mem_cons_self)).2, Nat.ofDigitChars_cons]
      exact ih _ fun c' hc' => hdigits c' (List.mem_cons_of_mem _ hc')
  have hne : Nat.toDigits 10 n ≠ [] := Nat.toDigits_ne_nil
  rw [decimalNumber, if_neg hne, hfold _ _ fun c hc =>
    Nat.isDigit_of_mem_toDigits (by decide) (by decide) hc, Nat.ofDigitChars_ten_toDigits]

/-- Every email that the bot makes for a subscription is one of its user. -/
theorem userIdFromEmail_subscription {settings : ConnSettings} (h : settings.Plain)
    (sub : Subscription) (suffix : String) :
    userIdFromEmail settings (subscriptionEmail sub ++ suffix) = .ok (some sub.userId) := by
  have hlist : (subscriptionEmail sub ++ suffix).toList = "user".toList ++ '_' ::
      (Nat.toDigits 10 sub.userId ++ '_' :: ("sub_".toList ++ Nat.toDigits 10 sub.id ++
        suffix.toList)) := by
    simp [subscriptionEmail, toString]
  have hdigits : ∀ c ∈ Nat.toDigits 10 sub.userId, c.isDigit = true := fun c hc =>
    Nat.isDigit_of_mem_toDigits (by decide) (by decide) hc
  have hsplit : (subscriptionEmail sub ++ suffix).toList.splitOn '_' = "user".toList ::
      Nat.toDigits 10 sub.userId :: ("sub_".toList ++ Nat.toDigits 10 sub.id ++
        suffix.toList).splitOn '_' := by
    rw [hlist, List.splitOn, List.splitOnP_append_cons_of_forall_mem (by simp) _ (by decide),
      List.splitOnP_append_cons_of_forall_mem (fun c hc => ?_) _ (by decide)]
    · rfl
    · have hc := hdigits c hc
      cases hu : c == '_' with
      | false => rfl
      | true =>
        rw [eq_of_beq hu] at hc
        cases hc
  have hall : (Nat.toDigits 10 sub.userId).all settings.isDigit = true :=
    List.all_eq_true.2 fun c hc => (h c (hdigits c hc)).1
  rw [userIdFromEmail, hsplit]
  simp only [Nat.toDigits_ne_nil, hall, decimalNumber_toDigits h, ne_eq, not_false_eq_true,
    and_self, ↓reduceIte]

/-! ## One cycle -/

section Cycle
variable (settings : ConnSettings) (answers : OnlineAnswers)

def OnlineAnswers.hy2 (email : String) : Nat := ((dictOf answers.hy2Counts).lookup email).getD 0

def onlineUsers : Except ConnError (List String) :=
  answers.users.map fun names => names.filterMap normalizeOnlineName

def onlineIps (email : String) : Except ConnError (List (String × Int)) :=
  (answers.ips email).map dictOf

/-- Every user seen on either protocol. -/
def onlineEmails : Except ConnError (List String) :=
  (onlineUsers answers).map fun users =>
    (users ++ (dictOf answers.hy2Counts).map Prod.fst).dedup

/-- The addresses of an email, the last seen first. -/
def newestFirst (ips : List (String × Int)) : List (String × Int) :=
  ips.insertionSort fun a b => b.2 ≤ a.2

/-- The addresses to block and whether to kick, for one email that has a limit. -/
def checkEmail (limit : Int) (hy2Count : Nat) (ips : List (String × Int)) : List String × Bool :=
  if (ips.length + hy2Count : Int) ≤ limit then ([], false)
  else
    let xrayKeep := (max 0 (limit - hy2Count)).toNat
    (if xrayKeep < ips.length then ((newestFirst ips).drop xrayKeep).map Prod.fst else [],
      decide (0 < hy2Count))

/-- The emails that have a limit, with it and with their addresses. -/
def limitedEmails : Except ConnError (List (String × Int × List (String × Int))) := do
  let emails ← onlineEmails answers
  let limits ← emails.mapM fun email => do
    let limit ← limitFor settings email
    return (email, limit)
  (limits.filter fun l => decide (0 < l.2)).mapM fun l => do
    let ips ← onlineIps answers l.1
    return (l.1, l.2, ips)

/-- The addresses to block and the emails to kick. -/
def overLimit (limited : List (String × Int × List (String × Int))) : List String × List String :=
  (limited.flatMap fun l => (checkEmail l.2.1 (answers.hy2 l.1) l.2.2).1,
    (limited.filter fun l => (checkEmail l.2.1 (answers.hy2 l.1) l.2.2).2).map Prod.fst)

def enforceConnLimitOnce (s : ConnState) : Except ConnError Nat × ConnState :=
  match limitedEmails settings answers with
  | .error e => (.error e, { s with kicked := [] })
  | .ok limited =>
    let (excess, hy2Kick) := overLimit answers limited
    let kicked := if answers.kick then hy2Kick else []
    if excess = [] ∧ s.prevHadExcess = false then (.ok 0, { s with kicked })
    else (.ok excess.length,
      ⟨!excess.isEmpty, if answers.sib then excess else s.blocked, kicked⟩)

end Cycle

/-! ## What a cycle leaves to a user -/

section Sessions
variable (settings : ConnSettings) (answers : OnlineAnswers)

def OnlineAnswers.emails : List String :=
  match onlineEmails answers with
  | .ok emails => emails
  | .error _ => []

def OnlineAnswers.addresses (email : String) : List (String × Int) :=
  match onlineIps answers email with
  | .ok ips => ips
  | .error _ => []

/-- The emails of a user that are online: the base email and those of the devices. -/
def OnlineAnswers.emailsOf (userId : Nat) : List String :=
  answers.emails.filter fun email => userIdFromEmail settings email = .ok (some userId)

def OnlineAnswers.addressesOf (userId : Nat) : List String :=
  ((answers.emailsOf settings userId).flatMap fun email =>
    (answers.addresses email).map Prod.fst).dedup

/-- The distinct source addresses of the user that are not blocked, and its Hysteria2 sessions that
were not kicked. -/
def ConnState.sessionsLeft (userId : Nat) (s : ConnState) : Nat :=
  (answers.addressesOf settings userId).countP (fun ip => decide (ip ∉ s.blocked)) +
    (((answers.emailsOf settings userId).filter fun email => decide (email ∉ s.kicked)).map
      answers.hy2).sum

def ConnSettings.limit (email : String) : Int :=
  match limitFor settings email with
  | .ok limit => limit
  | .error _ => 0

/-- What the limit of an email leaves to its addresses. -/
def OnlineAnswers.room (email : String) : Nat :=
  (settings.limit email - answers.hy2 email).toNat

/-- An address that no email with a limit reports beyond its newest ones. -/
def OnlineAnswers.Fits (ip : String) : Prop :=
  ∀ email ∈ answers.emails, 0 < settings.limit email →
    ip ∈ (answers.addresses email).map Prod.fst →
      ip ∈ ((newestFirst (answers.addresses email)).take (answers.room settings email)).map Prod.fst

instance (ip : String) : Decidable (answers.Fits settings ip) :=
  inferInstanceAs (Decidable (∀ email ∈ answers.emails, 0 < settings.limit email →
    ip ∈ (answers.addresses email).map Prod.fst →
      ip ∈ ((newestFirst (answers.addresses email)).take
        (answers.room settings email)).map Prod.fst))

/-- The block rule is written again when there is something to block, or was in the cycle
before. -/
def OnlineAnswers.Rewrites (s : ConnState) : Prop :=
  s.prevHadExcess = true ∨ ∃ email ∈ answers.emails, 0 < settings.limit email ∧
    answers.room settings email < (answers.addresses email).length

instance (s : ConnState) : Decidable (answers.Rewrites settings s) :=
  inferInstanceAs (Decidable (s.prevHadExcess = true ∨ ∃ email ∈ answers.emails,
    0 < settings.limit email ∧ answers.room settings email < (answers.addresses email).length))

/-- What the emails of the user keep when each of them is cut to the limit on its own. -/
def OnlineAnswers.sessionsKept (s : ConnState) (userId : Nat) : Nat :=
  (answers.addressesOf settings userId).countP (fun ip => decide (answers.Fits settings ip ∧
      (answers.Rewrites settings s ∨ ip ∉ s.blocked))) +
    (((answers.emailsOf settings userId).filter fun email => decide
      (((answers.addresses email).length + answers.hy2 email : Int) ≤ settings.limit email)).map
        answers.hy2).sum

end Sessions

/-! ## What a cycle does -/

theorem mapM_eq_map {f : α → Except ε β} {g : α → β} (hg : ∀ a b, f a = .ok b → b = g a)
    {l : List α} {l' : List β} (h : l.mapM f = .ok l') : l' = l.map g := by
  induction l generalizing l' with
  | nil =>
    cases h
    rfl
  | cons a l ih =>
    rw [List.mapM_cons] at h
    obtain ⟨b, ha, h⟩ := except_bind_ok.1 h
    obtain ⟨bs, hl, h⟩ := except_bind_ok.1 h
    cases h
    rw [hg a b ha, ih hl, List.map_cons]

theorem sum_filter_congr {p q : α → Bool} {f : α → Nat} {l : List α}
    (h : ∀ a ∈ l, p a = q a ∨ f a = 0) :
    ((l.filter p).map f).sum = ((l.filter q).map f).sum := by
  induction l with
  | nil => rfl
  | cons a l ih =>
    have ih := ih fun b hb => h b (List.mem_cons_of_mem _ hb)
    rw [List.filter_cons, List.filter_cons]
    rcases h a List.mem_cons_self with hpq | hzero
    · rw [hpq]
      split
      · rw [List.map_cons, List.sum_cons, List.map_cons, List.sum_cons, ih]
      · exact ih
    · split <;> split <;> simp [hzero, ih]

section Cut
variable {k : κ} {ips : List (κ × Int)}

theorem newestFirst_perm (ips : List (String × Int)) : (newestFirst ips).Perm ips :=
  List.perm_insertionSort _ _

theorem mem_drop_iff [DecidableEq κ] {l : List (κ × ν)} (h : (l.map Prod.fst).Nodup) (n : Nat) :
    k ∈ (l.drop n).map Prod.fst ↔ k ∈ l.map Prod.fst ∧ k ∉ (l.take n).map Prod.fst := by
  rw [← List.take_append_drop n l, List.map_append, List.nodup_append] at h
  have hsplit : k ∈ l.map Prod.fst ↔
      k ∈ (l.take n).map Prod.fst ∨ k ∈ (l.drop n).map Prod.fst := by
    rw [← List.mem_append, ← List.map_append, List.take_append_drop]
  rw [hsplit]
  constructor
  · intro hk
    exact ⟨.inr hk, fun ht => h.2.2 k ht k hk rfl⟩
  · rintro ⟨ht | hk, hnot⟩
    · exact absurd ht hnot
    · exact hk

theorem checkEmail_blocked (limit : Int) (hy2Count : Nat) (ips : List (String × Int)) :
    (checkEmail limit hy2Count ips).1 =
      ((newestFirst ips).drop (limit - hy2Count).toNat).map Prod.fst := by
  have hlength : (newestFirst ips).length = ips.length := (newestFirst_perm ips).length_eq
  have hempty : ips.length ≤ (limit - hy2Count).toNat →
      ((newestFirst ips).drop (limit - hy2Count).toNat).map Prod.fst = [] := by
    intro h
    rw [List.drop_eq_nil_of_le (hlength ▸ h), List.map_nil]
  have hkeep : (max 0 (limit - hy2Count)).toNat = (limit - hy2Count).toNat := by omega
  rw [checkEmail]
  split
  · rename_i h
    exact (hempty (by omega)).symm
  · dsimp only
    rw [hkeep]
    split
    · rfl
    · rename_i h
      exact (hempty (by omega)).symm

theorem checkEmail_kicked (limit : Int) (hy2Count : Nat) (ips : List (String × Int)) :
    (checkEmail limit hy2Count ips).2 = true ↔
      limit < (ips.length + hy2Count : Int) ∧ 0 < hy2Count := by
  rw [checkEmail]
  split
  · rename_i h
    simp [h]
  · rename_i h
    simp [Int.lt_of_not_ge h]

end Cut

section Enforce
variable {settings : ConnSettings} {answers : OnlineAnswers} {s : ConnState}

theorem addresses_nodup (email : String) : ((answers.addresses email).map Prod.fst).Nodup := by
  rw [OnlineAnswers.addresses, onlineIps]
  cases answers.ips email with
  | error e => exact List.nodup_nil
  | ok ips => exact dictOf_keys ips

theorem limitedEmails_eq (h : limitedEmails settings answers = .ok limited) :
    limited = (answers.emails.filter fun email => decide (0 < settings.limit email)).map
      fun email => (email, settings.limit email, answers.addresses email) := by
  rw [limitedEmails] at h
  obtain ⟨emails, hemails, h⟩ := except_bind_ok.1 h
  obtain ⟨limits, hlimits, h⟩ := except_bind_ok.1 h
  have hlimits := mapM_eq_map (g := fun email => (email, settings.limit email)) ?_ hlimits
  · have hlimited := mapM_eq_map (g := fun l => (l.1, l.2, answers.addresses l.1)) ?_ h
    · rw [hlimited, hlimits, List.filter_map, List.map_map, OnlineAnswers.emails, hemails]
      rfl
    · rintro ⟨email, limit⟩ b hb
      obtain ⟨ips, hips, hb⟩ := except_bind_ok.1 hb
      cases hb
      simp only [OnlineAnswers.addresses, hips]
  · intro email b hb
    obtain ⟨limit, hlimit, hb⟩ := except_bind_ok.1 hb
    cases hb
    simp only [ConnSettings.limit, hlimit]

/-- The addresses to block are those that some email with a limit reports beyond its newest. -/
theorem mem_excess (h : limitedEmails settings answers = .ok limited) (ip : String) :
    ip ∈ (overLimit answers limited).1 ↔ ∃ email ∈ answers.emails, 0 < settings.limit email ∧
      ip ∈ ((newestFirst (answers.addresses email)).drop
        (answers.room settings email)).map Prod.fst := by
  simp only [overLimit, limitedEmails_eq h, List.flatMap_map, checkEmail_blocked,
    List.mem_flatMap, List.mem_filter, decide_eq_true_eq, and_assoc, OnlineAnswers.room]

theorem mem_kicks (h : limitedEmails settings answers = .ok limited) (email : String) :
    email ∈ (overLimit answers limited).2 ↔ email ∈ answers.emails ∧ 0 < settings.limit email ∧
      settings.limit email < ((answers.addresses email).length + answers.hy2 email : Int) ∧
      0 < answers.hy2 email := by
  simp only [overLimit, limitedEmails_eq h, List.mem_map, List.mem_filter, checkEmail_kicked,
    decide_eq_true_eq, ↓existsAndEq, and_assoc, and_true]

theorem fits_iff (h : limitedEmails settings answers = .ok limited) (ip : String) :
    answers.Fits settings ip ↔ ip ∉ (overLimit answers limited).1 := by
  have hperm : ∀ email, ip ∈ (newestFirst (answers.addresses email)).map Prod.fst ↔
      ip ∈ (answers.addresses email).map Prod.fst := fun email =>
    ((newestFirst_perm _).map Prod.fst).mem_iff
  have hnodup : ∀ email, ((newestFirst (answers.addresses email)).map Prod.fst).Nodup :=
    fun email => ((newestFirst_perm _).map Prod.fst).nodup_iff.2 (addresses_nodup email)
  rw [mem_excess h]
  constructor
  · rintro hfits ⟨email, hemail, hlimit, hip⟩
    obtain ⟨hmem, hnot⟩ := (mem_drop_iff (hnodup email) _).1 hip
    exact hnot (hfits email hemail hlimit ((hperm email).1 hmem))
  · intro hnone email hemail hlimit hmem
    by_contra hnot
    exact hnone ⟨email, hemail, hlimit,
      (mem_drop_iff (hnodup email) _).2 ⟨(hperm email).2 hmem, hnot⟩⟩

theorem rewrites_iff (h : limitedEmails settings answers = .ok limited) :
    answers.Rewrites settings s ↔
      ¬ ((overLimit answers limited).1 = [] ∧ s.prevHadExcess = false) := by
  have hempty : (overLimit answers limited).1 = [] ↔ ¬ ∃ email ∈ answers.emails,
      0 < settings.limit email ∧
        answers.room settings email < (answers.addresses email).length := by
    rw [List.eq_nil_iff_forall_not_mem]
    constructor
    · rintro hnone ⟨email, hemail, hlimit, hroom⟩
      have hdrop : ((newestFirst (answers.addresses email)).drop
          (answers.room settings email)).map Prod.fst ≠ [] := by
        rw [ne_eq, List.map_eq_nil_iff, List.drop_eq_nil_iff,
          (newestFirst_perm (answers.addresses email)).length_eq]
        omega
      obtain ⟨ip, hip⟩ := List.exists_mem_of_ne_nil _ hdrop
      exact hnone ip ((mem_excess h ip).2 ⟨email, hemail, hlimit, hip⟩)
    · intro hnone ip hip
      obtain ⟨email, hemail, hlimit, hip⟩ := (mem_excess h ip).1 hip
      refine hnone ⟨email, hemail, hlimit, ?_⟩
      by_contra hroom
      rw [List.drop_eq_nil_of_le (by
        rw [(newestFirst_perm (answers.addresses email)).length_eq]
        omega)] at hip
      cases hip
  rw [OnlineAnswers.Rewrites, hempty]
  cases s.prevHadExcess <;> simp

theorem sessionsLeft_eq (hok : (enforceConnLimitOnce settings answers s).1 = .ok n)
    (hkick : answers.kick = true) (hsib : answers.sib = true)
    (hlimit : settings.overrides.lookup userId = some limit) (hpos : 0 < limit) :
    (enforceConnLimitOnce settings answers s).2.sessionsLeft settings answers userId =
      answers.sessionsKept settings s userId := by
  rw [enforceConnLimitOnce] at hok ⊢
  cases h : limitedEmails settings answers with
  | error e =>
    rw [h] at hok
    cases hok
  | ok limited =>
    have hown : ∀ email ∈ answers.emailsOf settings userId, settings.limit email = limit := by
      intro email hemail
      have huser := (List.mem_filter.1 hemail).2
      simp only [decide_eq_true_eq] at huser
      simp only [ConnSettings.limit, limitFor, huser]
      simp [bind, Except.bind, pure, Except.pure, hlimit]
    have hsum : (((answers.emailsOf settings userId).filter fun email =>
          decide (email ∉ (overLimit answers limited).2)).map answers.hy2).sum =
        (((answers.emailsOf settings userId).filter fun email => decide
          (((answers.addresses email).length + answers.hy2 email : Int) ≤
            settings.limit email)).map answers.hy2).sum := by
      refine sum_filter_congr fun email hemail => ?_
      have hmem := (List.mem_filter.1 hemail).1
      by_cases hzero : answers.hy2 email = 0
      · exact .inr hzero
      · left
        rw [decide_eq_decide, mem_kicks h, hown email hemail]
        have hhy2 : 0 < answers.hy2 email := Nat.pos_of_ne_zero hzero
        simp only [hmem, hpos, hhy2, true_and, and_true, Int.not_lt]
    have hcount : ∀ blocked,
        (answers.Rewrites settings s → blocked = (overLimit answers limited).1) →
        (¬ answers.Rewrites settings s → blocked = s.blocked) →
        (answers.addressesOf settings userId).countP (fun ip => decide (ip ∉ blocked)) =
          (answers.addressesOf settings userId).countP fun ip => decide
            (answers.Fits settings ip ∧ (answers.Rewrites settings s ∨ ip ∉ s.blocked)) := by
      intro blocked hrewritten hkept
      refine List.countP_congr fun ip _ => ?_
      rw [decide_eq_true_eq, decide_eq_true_eq, fits_iff h]
      by_cases hw : answers.Rewrites settings s
      · rw [hrewritten hw]
        simp only [hw, true_or, and_true]
      · have hnone := (not_not.1 (mt (rewrites_iff h).2 hw)).1
        rw [hkept hw, hnone]
        simp only [hw, false_or, List.not_mem_nil, not_false_eq_true, true_and]
    rw [ConnState.sessionsLeft, OnlineAnswers.sessionsKept, ← hsum]
    have hrewrites := rewrites_iff (s := s) h
    dsimp only
    split
    · rename_i hidle
      rw [hcount s.blocked (fun hw => absurd hidle (hrewrites.1 hw)) fun _ => rfl]
    · rename_i hbusy
      rw [hcount (overLimit answers limited).1 (fun _ => rfl)
        fun hw => absurd (hrewrites.2 hbusy) hw]

/-- One cycle keeps a user within its limit exactly when what its emails keep, each cut to the limit
on its own, is within the limit. -/
theorem conn_limit_per_user (settings : ConnSettings) (answers : OnlineAnswers) (s : ConnState)
    (userId n : Nat) (limit : Int) (hok : (enforceConnLimitOnce settings answers s).1 = .ok n)
    (hkick : answers.kick = true) (hsib : answers.sib = true)
    (hlimit : settings.overrides.lookup userId = some limit) (hpos : 0 < limit) :
    ((enforceConnLimitOnce settings answers s).2.sessionsLeft settings answers userId : Int) ≤
        limit ↔
      (answers.sessionsKept settings s userId : Int) ≤ limit := by
  rw [sessionsLeft_eq hok hkick hsib hlimit hpos]

/-- A user whose sessions all belong to one email is kept within its limit. -/
theorem one_email_within_limit (hlimit : settings.limit email = limit) (hpos : 0 < limit)
    (hone : answers.emailsOf settings userId = [email]) :
    (answers.sessionsKept settings s userId : Int) ≤ limit := by
  have hmem : email ∈ answers.emails := by
    have hmem : email ∈ answers.emailsOf settings userId := hone ▸ List.mem_singleton_self email
    exact (List.mem_filter.1 hmem).1
  have hnodup : (answers.addressesOf settings userId).Nodup := List.nodup_dedup _
  -- what fits is among the newest addresses of the email
  have hsub : (answers.addressesOf settings userId).filter (fun ip => decide
        (answers.Fits settings ip ∧ (answers.Rewrites settings s ∨ ip ∉ s.blocked))) ⊆
        ((newestFirst (answers.addresses email)).take
          (answers.room settings email)).map Prod.fst := by
    intro ip hip
    obtain ⟨hin, hfits⟩ := List.mem_filter.1 hip
    rw [OnlineAnswers.addressesOf, hone, List.mem_dedup, List.flatMap_singleton] at hin
    exact (of_decide_eq_true hfits).1 email hmem (hlimit ▸ hpos) hin
  have hcount := (List.subperm_of_subset (hnodup.filter _) hsub).length_le
  rw [List.length_map, List.length_take, (newestFirst_perm _).length_eq] at hcount
  rw [OnlineAnswers.sessionsKept, hone, List.countP_eq_length_filter, List.filter_cons,
    List.filter_nil, hlimit]
  rw [OnlineAnswers.room, hlimit] at hcount
  split
  · rename_i hwithin
    simp only [decide_eq_true_eq] at hwithin
    simp only [List.map_cons, List.map_nil, List.sum_cons, List.sum_nil]
    omega
  · simp only [List.map_nil, List.sum_nil]
    omega

end Enforce

/-! ## Two devices of one user -/

/-- User 1 may have one connection, everyone else five. -/
def connSettings : ConnSettings :=
  ⟨Char.isDigit, fun c => if c.isDigit then some (c.toNat - '0'.toNat) else none, 5, [(1, 1)]⟩

/-- Two devices at one address, one of which was at another before. -/
def sharedAddress : OnlineAnswers := ⟨[], .ok ["user_1_sub_1_dev_1", "user_1_sub_1_dev_2"],
  fun email => .ok (if email = "user_1_sub_1_dev_1" then [("192.0.2.1", 10), ("192.0.2.2", 20)]
    else [("192.0.2.2", 15)]), true, true⟩

def twoDeviceEmails : OnlineAnswers := ⟨[], .ok ["user_1_sub_1_dev_1", "user_1_sub_1_dev_2"],
  fun email => .ok (if email = "user_1_sub_1_dev_1" then [("192.0.2.1", 10)] else
    [("192.0.2.2", 20)]), true, true⟩

def idleState : ConnState := ⟨false, [], []⟩

/-- The address that was seen first is blocked, and both devices keep the other. -/
theorem conn_limit_per_user_one : (((enforceConnLimitOnce connSettings sharedAddress
    idleState).2.sessionsLeft connSettings sharedAddress 1 : Nat) : Int) ≤ 1 := by
  have hok : (enforceConnLimitOnce connSettings sharedAddress idleState).1 = .ok 1 := by
    decide
  have hkept : ((sharedAddress.sessionsKept connSettings idleState 1 : Nat) : Int) ≤ 1 := by
    decide
  exact (conn_limit_per_user connSettings sharedAddress idleState 1 1 1 hok rfl rfl rfl
    (by decide)).2 hkept

/-- Two devices, each within the limit of the user, together are not. -/
theorem devices_exceed_limit :
    (enforceConnLimitOnce connSettings twoDeviceEmails idleState).1 = .ok 0 ∧
    connSettings.overrides.lookup 1 = some 1 ∧
    ¬ (((enforceConnLimitOnce connSettings twoDeviceEmails idleState).2.sessionsLeft connSettings
      twoDeviceEmails 1 : Nat) : Int) ≤ 1 := by
  decide

end AegisVPN
