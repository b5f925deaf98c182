import AegisVPN.Bot.UserService
import AegisVPN.Library.Runs

namespace AegisVPN
open Library
set_option autoImplicit true

/-! ## Session cookies. Times are microseconds since the epoch. -/

def sessionMaxAgeSeconds : Nat := 30 * 86400

/-- The two halves of a cookie, as they are after base64 has been undone. -/
structure SessionCookie (σ : Type) where
  body : List Char
  sig : σ
  deriving DecidableEq

/-- `int` of a text of digits. No other text is ever signed. -/
def intOfDigits (text : List Char) : Option Nat :=
  if text ≠ [] ∧ text.all Char.isDigit = true then some (Nat.ofDigitChars 10 text 0) else none

/-- The text before the first colon, and the text after it. -/
def partitionColon (text : List Char) : List Char × List Char :=
  (text.takeWhile fun c => c != ':', (text.dropWhile fun c => c != ':').drop 1)

section Cookies
variable [DecidableEq σ] (mac : List Char → σ)

def sessionBody (userId expires : Nat) : List Char :=
  Nat.toDigits 10 userId ++ ':' :: Nat.toDigits 10 expires

def issueSession (now userId : Nat) : SessionCookie σ :=
  let body := sessionBody userId (now / 1000000 + sessionMaxAgeSeconds)
  ⟨body, mac body⟩

def readSession (now : Nat) (cookie : SessionCookie σ) : Option Nat :=
  if mac cookie.body = cookie.sig then do
    let texts := partitionColon cookie.body
    let expires ← intOfDigits texts.2
    if 1000000 * expires < now then none else intOfDigits texts.1
  else none

/-- The row that a request with a cookie is served from. -/
def currentUser (db : Db D) (now : Nat) (cookie : SessionCookie σ) : Option User := do
  let userId ← readSession mac now cookie
  db.users.find? fun u => u.id == userId

theorem intOfDigits_toDigits (n : Nat) : intOfDigits (Nat.toDigits 10 n) = some n := by
  have hdigits : (Nat.toDigits 10 n).all Char.isDigit = true :=
    List.all_eq_true.2 fun c hc => Nat.isDigit_of_mem_toDigits (by omega) (by omega) hc
  rw [intOfDigits, if_pos ⟨Nat.toDigits_ne_nil, hdigits⟩, Nat.ofDigitChars_ten_toDigits]

theorem partitionColon_digits (n : Nat) (rest : List Char) :
    partitionColon (Nat.toDigits 10 n ++ ':' :: rest) = (Nat.toDigits 10 n, rest) := by
  have hnone : ∀ c ∈ Nat.toDigits 10 n, (c != ':') = true := by
    intro c hc
    have hdigit : c.isDigit = true := Nat.isDigit_of_mem_toDigits (by omega) (by omega) hc
    apply bne_iff_ne.2
    rintro rfl
    cases hdigit
  rw [partitionColon, List.takeWhile_append_of_pos hnone, List.dropWhile_append_of_pos hnone]
  simp

theorem readSession_signed (now userId expires : Nat) :
    readSession mac now ⟨sessionBody userId expires, mac (sessionBody userId expires)⟩ =
      if 1000000 * expires < now then none else some userId := by
  have hbody : partitionColon (sessionBody userId expires) =
      (Nat.toDigits 10 userId, Nat.toDigits 10 expires) := partitionColon_digits _ _
  rw [readSession, if_pos rfl]
  simp only [hbody, intOfDigits_toDigits, Option.bind_eq_bind, Option.bind_some]

/-- A cookie opens the row id that it was issued for, until it expires. -/
theorem readSession_issueSession (issued now userId : Nat) :
    readSession mac now (issueSession mac issued userId) =
      if 1000000 * (issued / 1000000 + sessionMaxAgeSeconds) < now then none else some userId :=
  readSession_signed mac now userId _

/-- A cookie that can be read can be read at any time before. -/
theorem readSession_earlier (hle : now ≤ later) (h : readSession mac later cookie = some userId) :
    readSession mac now cookie = some userId := by
  unfold readSession at h ⊢
  split at h
  · rename_i hmac
    rw [if_pos hmac]
    dsimp only at h ⊢
    cases hexpires : intOfDigits (partitionColon cookie.body).2 with
    | none =>
      rw [hexpires] at h
      cases h
    | some expires =>
      simp only [hexpires, Option.bind_eq_bind, Option.bind_some] at h ⊢
      split at h
      · cases h
      · rwa [if_neg (by omega)]
  · cases h

end Cookies

/-! ## The site beside the bot -/

/-- How ids are given out: one more than the largest there is, or from a sequence. -/
inductive Dialect
  | sqlite
  | postgresql
  deriving DecidableEq

/-- A sign-in that has found or made its row and is yet to be answered. -/
structure SignIn where
  tgId : Int
  userId : Nat
  deriving DecidableEq

/-- A cookie, with the account that Telegram had verified for it. -/
structure Issued (σ : Type) where
  tgId : Int
  cookie : SessionCookie σ
  deriving DecidableEq

structure SiteWorld (D σ : Type) where
  dialect : Dialect
  db : Db D
  /-- What the sequence gives next. -/
  serial : Nat
  now : Nat
  signIns : List SignIn
  cookies : List (Issued σ)

/-- What happens to rows of users and to cookies. Both kinds of sign-in are a `login`, once Telegram
has been verified. -/
inductive SiteEvent
  | login (tgId : Int)
  | answer (i : Nat)
  | start (tgId : Int)
  | deleteAccount (tgId : Int)
  | wait (d : Nat)

def insertUserAs (id : Nat) (user : User) : DbAct D User := fun db =>
  let row := { user with id }
  if db.users.any fun u => u.tgId == user.tgId then (.error .integrity, db)
  else (.ok row, { db with users := db.users ++ [row] })

def SiteWorld.newId (site : SiteWorld D σ) : Nat :=
  match site.dialect with
  | .sqlite => nextId (site.db.users.map User.id)
  | .postgresql => site.serial

/-- An account that has no row is given one. -/
def SiteWorld.register (tgId : Int) (site : SiteWorld D σ) : SiteWorld D σ :=
  { site with
    db := (insertUserAs site.newId ⟨0, tgId, false, false, none⟩ site.db).2
    serial := site.serial + 1 }

/-- A banned account is not signed in. -/
def SiteWorld.login (tgId : Int) (site : SiteWorld D σ) : SiteWorld D σ :=
  let site := site.register tgId
  match site.db.userByTg tgId with
  | .ok (some user) =>
    if user.isBanned = true then site
    else { site with signIns := site.signIns ++ [⟨tgId, user.id⟩] }
  | _ => site

def SiteWorld.deleteAccount (tgId : Int) (site : SiteWorld D σ) : SiteWorld D σ :=
  match site.db.userByTg tgId with
  | .ok (some user) => { site with db := (deleteUser user.id site.db).2 }
  | _ => site

def SiteWorld.answer (mac : List Char → σ) (i : Nat) (site : SiteWorld D σ) : SiteWorld D σ :=
  match site.signIns[i]? with
  | some s =>
    { site with
      signIns := site.signIns.eraseIdx i
      cookies := site.cookies ++ [⟨s.tgId, issueSession mac site.now s.userId⟩] }
  | none => site

def SiteWorld.step (mac : List Char → σ) (site : SiteWorld D σ) : SiteEvent → SiteWorld D σ
  | .login tgId => site.login tgId
  | .answer i => site.answer mac i
  | .start tgId => site.register tgId
  | .deleteAccount tgId => site.deleteAccount tgId
  | .wait d => { site with now := site.now + d }

def SiteWorld.initial (dialect : Dialect) (db : Db D) (now : Nat) : SiteWorld D σ :=
  ⟨dialect, db, nextId (db.users.map User.id), now, [], []⟩

section Sessions
variable [DecidableEq σ] (mac : List Char → σ)

/-- Every cookie opens the account that it was issued to, or none. -/
def SiteWorld.OwnSessions (site : SiteWorld D σ) : Prop :=
  ∀ c ∈ site.cookies, ∀ user, currentUser mac site.db site.now c.cookie = some user →
    user.tgId = c.tgId

/-- The id that a new row takes is carried by no cookie in force and no sign-in under way of
another account. -/
def SiteWorld.NewIdFree (tgId : Int) (site : SiteWorld D σ) : Prop :=
  (∀ c ∈ site.cookies, readSession mac site.now c.cookie = some site.newId → c.tgId = tgId) ∧
    ∀ s ∈ site.signIns, s.userId = site.newId → s.tgId = tgId

instance (tgId : Int) (site : SiteWorld D σ) : Decidable (site.NewIdFree mac tgId) :=
  inferInstanceAs (Decidable (_ ∧ _))

/-- Only SQLite gives out an id again. -/
def SiteWorld.Careful (site : SiteWorld D σ) : SiteEvent → Prop
  | .login tgId | .start tgId =>
    site.dialect = .sqlite → (∀ u ∈ site.db.users, u.tgId ≠ tgId) → site.NewIdFree mac tgId
  | _ => True

instance (site : SiteWorld D σ) : ∀ e, Decidable (site.Careful mac e)
  | .login _ => inferInstanceAs (Decidable (_ → _ → _))
  | .start _ => inferInstanceAs (Decidable (_ → _ → _))
  | .answer _ => inferInstanceAs (Decidable True)
  | .deleteAccount _ => inferInstanceAs (Decidable True)
  | .wait _ => inferInstanceAs (Decidable True)

/-- Rows, cookies and sign-ins that carry an id are of one account. -/
structure SiteWorld.Honest (site : SiteWorld D σ) : Prop where
  ids : (site.db.users.map User.id).Nodup
  cookies : ∀ c ∈ site.cookies, ∀ u ∈ site.db.users,
    readSession mac site.now c.cookie = some u.id → u.tgId = c.tgId
  signIns : ∀ s ∈ site.signIns, ∀ u ∈ site.db.users, u.id = s.userId → u.tgId = s.tgId
  userSerial : site.dialect = .postgresql → ∀ u ∈ site.db.users, u.id < site.serial
  cookieSerial : site.dialect = .postgresql → ∀ c ∈ site.cookies, ∀ i,
    readSession mac site.now c.cookie = some i → i < site.serial
  signInSerial : site.dialect = .postgresql → ∀ s ∈ site.signIns, s.userId < site.serial

variable {mac}

theorem SiteWorld.Honest.ownSessions {site : SiteWorld D σ} (h : site.Honest mac) :
    site.OwnSessions mac := by
  intro c hc user huser
  obtain ⟨userId, hread, hfind⟩ := Option.bind_eq_some_iff.1 huser
  have hid : user.id = userId := by simpa using List.find?_some hfind
  exact h.cookies c hc user (List.mem_of_find?_eq_some hfind) (hid ▸ hread)

theorem SiteWorld.Honest.initial (dialect : Dialect) {db : Db D} (now : Nat)
    (hids : (db.users.map User.id).Nodup) :
    (SiteWorld.initial dialect db now : SiteWorld D σ).Honest mac where
  ids := hids
  cookies _ hc := by cases hc
  signIns _ hs := by cases hs
  userSerial _ _ hu := lt_nextId (List.mem_map_of_mem hu)
  cookieSerial _ _ hc := by cases hc
  signInSerial _ _ hs := by cases hs

theorem insertUserAs_cases (id : Nat) (user : User) (db : Db D) :
    (insertUserAs id user db).2 = db ∨
    (∀ u ∈ db.users, u.tgId ≠ user.tgId) ∧
      (insertUserAs id user db).2 = { db with users := db.users ++ [{ user with id }] } := by
  unfold insertUserAs
  split
  · exact .inl rfl
  · rename_i hnone
    refine .inr ⟨fun u hu htg => hnone ?_, rfl⟩
    exact List.any_eq_true.2 ⟨u, hu, beq_iff_eq.2 htg⟩

theorem SiteWorld.Honest.newId_ne {site : SiteWorld D σ} (h : site.Honest mac) {u : User}
    (hu : u ∈ site.db.users) : u.id < site.newId := by
  unfold SiteWorld.newId
  split
  · exact lt_nextId (List.mem_map_of_mem hu)
  · rename_i hd
    exact h.userSerial hd u hu

theorem SiteWorld.Honest.register {site : SiteWorld D σ} (h : site.Honest mac) (tgId : Int)
    (hc : site.dialect = .sqlite → (∀ u ∈ site.db.users, u.tgId ≠ tgId) →
      site.NewIdFree mac tgId) : (site.register tgId).Honest mac := by
  rcases insertUserAs_cases site.newId ⟨0, tgId, false, false, none⟩ site.db with hdb | ⟨hnew, hdb⟩
  · have hsite : site.register tgId = { site with serial := site.serial + 1 } := by
      rw [SiteWorld.register, hdb]
    rw [hsite]
    exact {
      ids := h.ids
      cookies := h.cookies
      signIns := h.signIns
      userSerial := fun hd u hu => Nat.lt_succ_of_lt (h.userSerial hd u hu)
      cookieSerial := fun hd c hc i hi => Nat.lt_succ_of_lt (h.cookieSerial hd c hc i hi)
      signInSerial := fun hd s hs => Nat.lt_succ_of_lt (h.signInSerial hd s hs) }
  · have hfree : site.NewIdFree mac tgId := by
      cases hd : site.dialect with
      | sqlite => exact hc hd hnew
      | postgresql =>
        have hserial : site.newId = site.serial := by rw [SiteWorld.newId, hd]
        refine ⟨fun c hcm hread => ?_, fun s hsm hs => ?_⟩
        · exact absurd (hserial ▸ h.cookieSerial hd c hcm _ hread) (Nat.lt_irrefl _)
        · exact absurd (hserial ▸ hs ▸ h.signInSerial hd s hsm) (Nat.lt_irrefl _)
    have hsite : site.register tgId =
        { site with
          db := { site.db with users := site.db.users ++ [⟨site.newId, tgId, false, false, none⟩] }
          serial := site.serial + 1 } := by
      rw [SiteWorld.register, hdb]
    rw [hsite]
    refine ⟨?_, fun c hcm u hu hread => ?_, fun s hsm u hu hs => ?_, fun hd u hu => ?_,
      fun hd c hcm i hi => Nat.lt_succ_of_lt (h.cookieSerial hd c hcm i hi),
      fun hd s hs => Nat.lt_succ_of_lt (h.signInSerial hd s hs)⟩
    · rw [List.map_append]
      refine List.nodup_append.2 ⟨h.ids, List.nodup_singleton _, fun i hi j hj => ?_⟩
      obtain ⟨u, hu, rfl⟩ := List.mem_map.1 hi
      rw [List.mem_singleton.1 hj]
      exact Nat.ne_of_lt (h.newId_ne hu)
    · rcases List.mem_append.1 hu with hu | hu
      · exact h.cookies c hcm u hu hread
      · cases List.mem_singleton.1 hu
        exact (hfree.1 c hcm hread).symm
    · rcases List.mem_append.1 hu with hu | hu
      · exact h.signIns s hsm u hu hs
      · cases List.mem_singleton.1 hu
        exact (hfree.2 s hsm hs.symm).symm
    · rcases List.mem_append.1 hu with hu | hu
      · exact Nat.lt_succ_of_lt (h.userSerial hd u hu)
      · cases List.mem_singleton.1 hu
        exact Nat.lt_succ_of_le (by rw [SiteWorld.newId, show site.dialect = .postgresql from hd])

theorem SiteWorld.Honest.login {site : SiteWorld D σ} (h : site.Honest mac) (tgId : Int)
    (hc : site.dialect = .sqlite → (∀ u ∈ site.db.users, u.tgId ≠ tgId) →
      site.NewIdFree mac tgId) : (site.login tgId).Honest mac := by
  have hr : (site.register tgId).Honest mac := h.register tgId hc
  unfold SiteWorld.login
  generalize site.register tgId = site at hr
  dsimp only
  split
  · rename_i user huser
    split
    · exact hr
    · obtain ⟨hmem, htg⟩ := userByTg_knows huser
      refine { hr with
        signIns := fun s hs u hu hid => ?_
        signInSerial := fun hd s hs => ?_ }
      · rcases List.mem_append.1 hs with hs | hs
        · exact hr.signIns s hs u hu hid
        · cases List.mem_singleton.1 hs
          rw [List.inj_on_of_nodup_map hr.ids hu hmem hid]
          exact htg
      · rcases List.mem_append.1 hs with hs | hs
        · exact hr.signInSerial hd s hs
        · cases List.mem_singleton.1 hs
          exact hr.userSerial hd user hmem
  · exact hr

theorem SiteWorld.Honest.answer {site : SiteWorld D σ} (h : site.Honest mac) (i : Nat) :
    (site.answer mac i).Honest mac := by
  unfold SiteWorld.answer
  split
  · rename_i s hs
    have hsm : s ∈ site.signIns := List.mem_of_getElem? hs
    have hread : ∀ j, readSession mac site.now (issueSession mac site.now s.userId) = some j →
        j = s.userId := by
      intro j hj
      rw [readSession_issueSession] at hj
      split at hj
      · cases hj
      · exact (Option.some.inj hj).symm
    refine { h with
      cookies := fun c hc u hu hread' => ?_
      signIns := fun t ht => h.signIns t (List.mem_of_mem_eraseIdx ht)
      cookieSerial := fun hd c hc j hj => ?_
      signInSerial := fun hd t ht => h.signInSerial hd t (List.mem_of_mem_eraseIdx ht) }
    · rcases List.mem_append.1 hc with hc | hc
      · exact h.cookies c hc u hu hread'
      · cases List.mem_singleton.1 hc
        exact h.signIns s hsm u hu (hread _ hread')
    · rcases List.mem_append.1 hc with hc | hc
      · exact h.cookieSerial hd c hc j hj
      · cases List.mem_singleton.1 hc
        rw [hread j hj]
        exact h.signInSerial hd s hsm
  · exact h

theorem deleteUser_users (userId : Nat) (db : Db D) :
    (deleteUser userId db).2.users.Sublist db.users := by
  unfold deleteUser
  split
  · exact List.filter_sublist
  · exact .refl _

theorem SiteWorld.Honest.deleteAccount {site : SiteWorld D σ} (h : site.Honest mac) (tgId : Int) :
    (site.deleteAccount tgId).Honest mac := by
  unfold SiteWorld.deleteAccount
  split
  · rename_i user huser
    have hsub := deleteUser_users user.id site.db
    exact { h with
      ids := h.ids.sublist (hsub.map _)
      cookies := fun c hc u hu => h.cookies c hc u (hsub.subset hu)
      signIns := fun s hs u hu => h.signIns s hs u (hsub.subset hu)
      userSerial := fun hd u hu => h.userSerial hd u (hsub.subset hu) }
  · exact h

theorem SiteWorld.Honest.wait {site : SiteWorld D σ} (h : site.Honest mac) (d : Nat) :
    ({ site with now := site.now + d } : SiteWorld D σ).Honest mac :=
  { h with
    cookies := fun c hc u hu hread =>
      h.cookies c hc u hu (readSession_earlier mac (Nat.le_add_right _ _) hread)
    cookieSerial := fun hd c hc i hi =>
      h.cookieSerial hd c hc i (readSession_earlier mac (Nat.le_add_right _ _) hi) }

theorem SiteWorld.Honest.step {site : SiteWorld D σ} (h : site.Honest mac) (e : SiteEvent)
    (hc : site.Careful mac e) : (site.step mac e).Honest mac := by
  cases e with
  | login tgId => exact h.login tgId hc
  | answer i => exact h.answer i
  | start tgId => exact h.register tgId hc
  | deleteAccount tgId => exact h.deleteAccount tgId
  | wait d => exact h.wait d

/-- With PostgreSQL, and with SQLite as long as no row takes the id that a cookie in force or a
sign-in under way of somebody else carries, every cookie opens the account of its owner. -/
theorem cookies_open_own_account {dialect : Dialect} {db : Db D} {now : Nat}
    {events : List SiteEvent} (hids : (db.users.map User.id).Nodup)
    (hs : Along (SiteWorld.step mac) (SiteWorld.Careful mac) (.initial dialect db now) events) :
    (events.foldl (SiteWorld.step mac) (.initial dialect db now)).OwnSessions mac := by
  have hrun := run_invariant (SiteWorld.Honest.initial dialect now hids)
    (fun _ e h hc => h.step e hc) hs
  exact hrun.ownSessions

end Sessions

/-! ## Runs with SQLite -/

/-- A cookie that outlives the account, while the next account comes after a third one. -/
theorem cookies_open_own_account_kept :
    (([.login 11, .answer 0, .start 22, .deleteAccount 11, .login 33, .answer 0, .wait 1000000] :
      List SiteEvent).foldl (SiteWorld.step id)
        (SiteWorld.initial .sqlite (Db.empty : Db Unit) 0)).OwnSessions id :=
  cookies_open_own_account List.nodup_nil (by decide)

/-- The account with the largest id signs in and is deleted. The next one to start the bot has its
id, and the cookie opens that. -/
theorem deleted_account_opens_next :
    ¬ ∀ events : List SiteEvent, (events.foldl (SiteWorld.step id)
      (SiteWorld.initial .sqlite (Db.empty : Db Unit) 0)).OwnSessions id := by
  intro h
  have hopen := h [.login 11, .answer 0, .deleteAccount 11, .start 22]
    ⟨11, issueSession id 0 1⟩ (by decide) ⟨1, 22, false, false, none⟩ (by decide)
  exact absurd hopen (by decide)

end AegisVPN
