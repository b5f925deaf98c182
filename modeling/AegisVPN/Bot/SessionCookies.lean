import AegisVPN.Library.Base64
import AegisVPN.Library.PyInts
import AegisVPN.Library.Urls
import AegisVPN.Bot.SiteSessions

namespace AegisVPN
open Library
set_option autoImplicit true

/-! # Session cookies as the texts that a browser sends. Times are microseconds since the epoch. -/

namespace CookieText

/-- The bytes of a text. -/
def encode (text : List Char) : List UInt8 := text.flatMap String.utf8EncodeChar

/-- The text of bytes, if they are UTF-8. -/
def decode (bytes : List UInt8) : Option (List Char) :=
  bytes.toByteArray.utf8Decode?.map Array.toList

/-- The second at which a session ends. -/
def expiresAt (now : Nat) : Nat := now / 1000000 + sessionMaxAgeSeconds

/-- What is signed. -/
def bodyUntil (userId : Int) (expires : Nat) : List UInt8 :=
  encode (pyStr userId ++ ':' :: pyStr expires)

def sessionBody (now : Nat) (userId : Int) : List UInt8 := bodyUntil userId (expiresAt now)

section Cookies
variable (mac : List UInt8 → List UInt8)

def issueSession (now : Nat) (userId : Int) : List Char :=
  let body := sessionBody now userId
  urlsafeB64encode body ++ '.' :: urlsafeB64encode (mac body)

/-- The body and the signature of a cookie, as its reader decodes them. -/
def parts (cookie : List Char) : Option (List UInt8 × List UInt8) :=
  if cookie = [] ∨ '.' ∉ cookie then none
  else do
    let body ← urlsafeB64decode (cookie.takeWhile (· != '.'))
    let sig ← urlsafeB64decode ((cookie.dropWhile (· != '.')).drop 1)
    return (body, sig)

/-- What the reader makes of a body whose signature is right. -/
def readBody (now : Nat) (body : List UInt8) : Option Int := do
  let text ← decode body
  let halves := partitionColon text
  let expires ← pyInt halves.2
  if 1000000 * expires < now then none else pyInt halves.1

def readSession (now : Nat) (cookie : Option (List Char)) : Option Int := do
  let text ← cookie
  let (body, sig) ← parts text
  if mac body = sig then readBody now body else none

/-! ## Reading what was issued -/

theorem decode_encode (text : List Char) : decode (encode text) = some text := by
  have h : (text.flatMap String.utf8EncodeChar).toByteArray.utf8Decode? = some text.toArray :=
    List.utf8Decode?_utf8Encode
  rw [decode, encode, h, Option.map_some]

theorem colon_not_mem_pyStr (n : Int) : ':' ∉ pyStr n := by
  have hdigits : ∀ n : Nat, ':' ∉ Nat.toDigits 10 n := by
    intro n hc
    have hdigit : ':'.isDigit = true := Nat.isDigit_of_mem_toDigits (by omega) (by omega) hc
    cases hdigit
  cases n with
  | ofNat n => exact hdigits n
  | negSucc n =>
    intro hc
    obtain heq | hc := List.mem_cons.1 hc
    · cases heq
    · exact hdigits (n + 1) hc

theorem partitionColon_before {text : List Char} (h : ':' ∉ text) (rest : List Char) :
    partitionColon (text ++ ':' :: rest) = (text, rest) := by
  rw [partitionColon, takeWhile_before h, dropWhile_before h, List.drop_one, List.tail_cons]

theorem readBody_bodyUntil (userId : Int) (expires now : Nat) :
    readBody now (bodyUntil userId expires) =
      if 1000000 * expires < now then none else some userId := by
  have hexpired : 1000000 * (expires : Int) < (now : Int) ↔ 1000000 * expires < now := by omega
  simp only [readBody, bodyUntil, decode_encode, Option.bind_eq_bind, Option.bind_some,
    partitionColon_before (colon_not_mem_pyStr userId), pyInt_pyStr, hexpired]

/-- A signed body is read as the user that it was signed for, until it expires. -/
theorem readBody_sessionBody (issued now : Nat) (userId : Int) :
    readBody now (sessionBody issued userId) =
      if 1000000 * expiresAt issued < now then none else some userId :=
  readBody_bodyUntil userId (expiresAt issued) now

theorem parts_issueSession (now : Nat) (userId : Int) :
    parts (issueSession mac now userId) =
      some (sessionBody now userId, mac (sessionBody now userId)) := by
  have hdot := dot_not_mem_encode (sessionBody now userId)
  have hsome : ¬(issueSession mac now userId = [] ∨ '.' ∉ issueSession mac now userId) := by
    rw [not_or, not_not]
    constructor
    · exact List.append_ne_nil_of_right_ne_nil _ (List.cons_ne_nil _ _)
    · exact List.mem_append_right _ List.mem_cons_self
  rw [parts, if_neg hsome, issueSession, takeWhile_before hdot, dropWhile_before hdot,
    List.drop_one, List.tail_cons, urlsafeB64decode_encode, urlsafeB64decode_encode]
  rfl

theorem readSession_issueSession (issued now : Nat) (userId : Int) :
    readSession mac now (some (issueSession mac issued userId)) =
      if 1000000 * expiresAt issued < now then none else some userId := by
  simp only [readSession, parts_issueSession, Option.bind_eq_bind, Option.bind_some, if_true,
    readBody_sessionBody]

theorem readSession_as_halves [DecidableEq σ] (mac' : List Char → σ) (issued now userId : Nat) :
    readSession mac now (some (issueSession mac issued userId)) =
      (AegisVPN.readSession mac' now (AegisVPN.issueSession mac' issued userId)).map Int.ofNat := by
  rw [readSession_issueSession, AegisVPN.readSession_issueSession, expiresAt]
  split
  · rfl
  · rfl

theorem readSession_some {cookie : List Char}
    (h : readSession mac now (some cookie) = some userId) :
    ∃ body sig, parts cookie = some (body, sig) ∧ mac body = sig ∧
      readBody now body = some userId := by
  simp only [readSession, Option.bind_eq_bind, Option.bind_some] at h
  cases hparts : parts cookie with
  | none =>
    rw [hparts] at h
    cases h
  | some halves =>
    obtain ⟨body, sig⟩ := halves
    simp only [hparts, Option.bind_some] at h
    split at h
    · next hmac => exact ⟨body, sig, rfl, hmac, h⟩
    · cases h

/-! ## The law -/

/-- Nobody else makes signatures: a cookie with a right signature has a body that was signed for
one of the sessions issued so far, each given by its time and its user. -/
def Unforged (issues : List (Nat × Int)) (cookie : List Char) : Prop :=
  ∀ body sig, parts cookie = some (body, sig) → mac body = sig →
    ∃ issue ∈ issues, body = sessionBody issue.1 issue.2

/-- A cookie is read only as the user of an issued session with the very same body, and only until
that session expires. What was issued is read until then. -/
theorem sessions_authentic (issues : List (Nat × Int)) (cookie : List Char) (now : Nat)
    (hideal : Unforged mac issues cookie) :
    (∀ userId, readSession mac now (some cookie) = some userId →
      ∃ issued, (issued, userId) ∈ issues ∧
        (∃ sig, parts cookie = some (sessionBody issued userId, sig)) ∧
        now ≤ 1000000 * expiresAt issued) ∧
    ∀ issued userId, readSession mac now (some (issueSession mac issued userId)) =
      if 1000000 * expiresAt issued < now then none else some userId := by
  constructor
  · intro userId h
    obtain ⟨body, sig, hparts, hmac, hread⟩ := readSession_some mac h
    obtain ⟨⟨issued, owner⟩, hissue, rfl⟩ := hideal body sig hparts hmac
    rw [readBody_sessionBody] at hread
    split at hread
    · cases hread
    · next hvalid =>
      obtain rfl := Option.some.inj hread
      exact ⟨issued, hissue, ⟨sig, hparts⟩, Nat.le_of_not_lt hvalid⟩
  · intro issued userId
    exact readSession_issueSession mac issued now userId

end Cookies

/-- Somebody changes the ignored bits of the padding of an issued cookie, and adds characters that
the decoder passes over. -/
theorem sessions_authentic_edited :
    (∀ userId, readSession (fun _ => [1, 2]) 5 (some ("!LTc6MjU5MjAwMA==.AQJ=".toList)) =
        some userId → ∃ issued, (issued, userId) ∈ [(0, -7)] ∧
        (∃ sig, parts ("!LTc6MjU5MjAwMA==.AQJ=".toList) = some (sessionBody issued userId, sig)) ∧
        5 ≤ 1000000 * expiresAt issued) ∧
    ∀ issued userId, readSession (fun _ => [1, 2]) 5
      (some (issueSession (fun _ => [1, 2]) issued userId)) =
        if 1000000 * expiresAt issued < 5 then none else some userId := by
  apply sessions_authentic
  intro body sig hparts _
  have hbody : parts ("!LTc6MjU5MjAwMA==.AQJ=".toList) = some (sessionBody 0 (-7), [1, 2]) := by
    decide
  rw [hbody] at hparts
  obtain ⟨rfl, -⟩ := Prod.mk.inj (Option.some.inj hparts)
  exact ⟨(0, -7), List.mem_cons_self, rfl⟩

end CookieText

end AegisVPN
