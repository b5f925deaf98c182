import AegisVPN.Library.Dicts
import AegisVPN.Library.JoinedLines
import AegisVPN.Library.JsonLoads
import AegisVPN.Library.PyInts
import AegisVPN.Library.Urls
import Mathlib.Data.List.Sort

/-! # Signed logins of Telegram -/

namespace AegisVPN
open Library
set_option autoImplicit true

/-- A day. -/
def authMaxAgeSeconds : Int := 86400

/-- How Python writes what is no text and no integer. A float is never written like an integer. -/
structure PyDisplay where
  float : List Char → List Char
  floatInt : List Char → Option Int
  container : Loaded → List Char
  marked : ∀ text, '.' ∈ float text ∨ 'e' ∈ float text ∨ 'n' ∈ float text
  unbroken : ∀ text, '\n' ∉ float text

/-- The characters of a text that can be encoded. -/
def charsOf (points : List Nat) : Option (List Char) :=
  points.mapM fun n => if n.isValidChar then some (Char.ofNat n) else none

/-- A value in a check string. -/
def PyDisplay.str (d : PyDisplay) : Loaded → Option (List Char)
  | .null => some "None".toList
  | .bool b => some (if b then "True".toList else "False".toList)
  | .int n => some (pyStr n)
  | .float text => some (d.float text)
  | .str points => charsOf points
  | value => some (d.container value)

/-- What `int` makes of a value. -/
def PyDisplay.int (d : PyDisplay) : Loaded → Option Int
  | .bool b => some (if b then 1 else 0)
  | .int n => some n
  | .float text => d.floatInt text
  | .str points => (charsOf points).bind pyInt
  | _ => none

def pointsOf (text : List Char) : List Nat := text.map Char.toNat

/-- The fields in the order of their names. -/
def sortFields (fields : List (List Char × List Char)) : List (List Char × List Char) :=
  fields.insertionSort fun a b => String.ofList a.1 ≤ String.ofList b.1

def dataCheckString (fields : List (List Char × List Char)) : List Char :=
  joinedLines ((sortFields fields).map fieldLine)

/-- A login is fresh for a day. Times are in microseconds. -/
def tooOld (now authDate : Int) : Bool := now - 1000000 * authDate > 1000000 * authMaxAgeSeconds

def isNull : Loaded → Bool
  | .null => true
  | _ => false

/-- The fields that are signed. -/
def loginFields (payload : List (List Nat × Loaded)) : List (List Nat × Loaded) :=
  payload.filter fun field => field.1 ≠ pointsOf "hash".toList && !isNull field.2

/-- The fields as they stand in the check string. Half of a surrogate pair cannot be encoded. -/
def PyDisplay.fields (d : PyDisplay) (payload : List (List Nat × Loaded)) :
    Option (List (List Char × List Char)) :=
  (loginFields payload).mapM fun field => do
    let name ← charsOf field.1
    let text ← d.str field.2
    some (name, text)

/-- The user of a payload, unless it is refused or an exception ends the call. `mac` is the
hexadecimal digest under the key of the login widget. -/
def verifyTelegramLogin (d : PyDisplay) (mac : List Char → List Char) (now : Int)
    (payload : List (List Nat × Loaded)) : Option Int :=
  match payload.lookup (pointsOf "hash".toList) with
  | some (.str received) =>
    if received = [] then none
    else do
      let id ← (loginFields payload).lookup (pointsOf "id".toList)
      let date ← (loginFields payload).lookup (pointsOf "auth_date".toList)
      let fields ← d.fields payload
      if pointsOf (mac (dataCheckString fields)) = received then do
        let authDate ← d.int date
        let tgId ← d.int id
        if tooOld now authDate then none else some tgId
      else none
  | _ => none

/-- The pairs of a query. The last pair of a name counts. -/
def initPairs (replaced : List UInt8 → String) (initData : List Char) :
    List (List Char × List Char) :=
  dictOf ((parseQsl replaced initData).map fun p => (p.1.toList, p.2.toList))

def isUser : Loaded → Bool
  | .obj fields =>
    match fields.lookup (pointsOf "id".toList) with
    | some (.int _) => true
    | some (.bool _) => true
    | _ => false
  | _ => false

/-- The user of the data of a Mini App. `mac` is the digest under the key of web apps. -/
def verifyTelegramWebapp (replaced : List UInt8 → String) (mac : List Char → List Char)
    (now : Int) (initData : List Char) : Option Loaded :=
  if initData = [] then none
  else
    let pairs := initPairs replaced initData
    let signed := pairs.filter fun p => p.1 ≠ "hash".toList
    match pairs.lookup "hash".toList with
    | none => none
    | some received =>
      if received = [] then none
      else do
        let date ← signed.lookup "auth_date".toList
        let text ← signed.lookup "user".toList
        if mac (dataCheckString signed) = received then do
          let authDate ← pyInt date
          if tooOld now authDate then none
          else do
            let user ← jsonLoads text
            if isUser user then some user else none
        else none

/-! ## What Telegram signs -/

def isIdentifier (name : List Char) : Bool :=
  !name.isEmpty && name.all fun c => c.isAlphanum || c == '_'

/-- Fields that Telegram signs together: under identifiers, one line each. Users and times are
integers. -/
structure SignedFields where
  fields : List (List Char × List Char)
  named : ∀ f ∈ fields, isIdentifier f.1 = true
  distinct : (fields.map Prod.fst).Nodup
  unbroken : ∀ f ∈ fields, '\n' ∉ f.2
  integers : ∀ f ∈ fields, f.1 = "id".toList ∨ f.1 = "auth_date".toList → ∃ n, f.2 = pyStr n

/-- Only check strings that Telegram signed have a digest that somebody else can send. -/
def OnlySigned (mac : List Char → List Char) (signed : List SignedFields) (received : List Nat) :
    Prop :=
  ∀ check, pointsOf (mac check) = received → ∃ s ∈ signed, check = dataCheckString s.fields

/-! ## Fields that are found again -/

theorem identifier_char (h : isIdentifier name = true) (hc : c ∈ name) :
    c.isAlphanum = true ∨ c = '_' := by
  rw [isIdentifier, Bool.and_eq_true, List.all_eq_true] at h
  have hone := h.2 c hc
  rwa [Bool.or_eq_true, beq_iff_eq] at hone

theorem identifier_not_mem (h : isIdentifier name = true)
    (hc : (c.isAlphanum || c == '_') = false) : c ∉ name := by
  intro hmem
  rw [Bool.or_eq_false_iff, beq_eq_false_iff_ne] at hc
  obtain hone | hone := identifier_char h hmem
  · rw [hc.1] at hone
    cases hone
  · exact hc.2 hone

theorem identifier_plain (h : isIdentifier name = true) :
    ∀ c ∈ name, JsonLoads.plain c = true := by
  intro c hc
  rw [JsonLoads.plain, Bool.and_eq_true, bne_iff_ne, bne_iff_ne]
  refine ⟨?_, ?_⟩
  · rintro rfl
    exact identifier_not_mem h (by decide) hc
  · rintro rfl
    exact identifier_not_mem h (by decide) hc

theorem mem_sortFields {fields : List (List Char × List Char)} :
    f ∈ sortFields fields ↔ f ∈ fields := List.mem_insertionSort _

theorem SignedFields.plain (s : SignedFields) : PlainFields (sortFields s.fields) where
  names f hf := by
    have hname := s.named f (mem_sortFields.1 hf)
    exact ⟨identifier_not_mem hname (by decide), identifier_not_mem hname (by decide)⟩
  values f hf := s.unbroken f (mem_sortFields.1 hf)

/-- However a signed check string is split into fields again, what stands under a name is the
signed value, or it goes on below that with a name and an equals sign. -/
theorem SignedFields.found (s : SignedFields) {fields : List (List Char × List Char)}
    (hsame : dataCheckString fields = dataCheckString s.fields) (hf : (name, text) ∈ fields)
    (hname : '=' ∉ name) : ∃ value, (name, value) ∈ s.fields ∧ (text = value ∨
      ∃ other rest, isIdentifier other = true ∧
        text = value ++ '\n' :: (other ++ '=' :: rest)) := by
  obtain ⟨value, hvalue, htext⟩ := field_of_joined s.plain hsame (mem_sortFields.2 hf) hname
  refine ⟨value, mem_sortFields.1 hvalue, ?_⟩
  obtain htext | ⟨f, hfield, rest, htext⟩ := htext
  · exact .inl htext
  · exact .inr ⟨f.1, rest, s.named f (mem_sortFields.1 hfield), htext⟩

theorem equals_below (value other rest : List Char) :
    '=' ∈ value ++ '\n' :: (other ++ '=' :: rest) :=
  List.mem_append_right _
    (List.mem_cons_of_mem _ (List.mem_append_right _ List.mem_cons_self))

theorem break_below (value below : List Char) : '\n' ∈ value ++ '\n' :: below :=
  List.mem_append_right _ List.mem_cons_self

theorem SignedFields.readInt (s : SignedFields) {fields : List (List Char × List Char)}
    (hsame : dataCheckString fields = dataCheckString s.fields) (hf : (name, text) ∈ fields)
    (hname : name = "id".toList ∨ name = "auth_date".toList) (hread : pyInt text = some n) :
    (name, pyStr n) ∈ s.fields := by
  have hequals : '=' ∉ name := by
    obtain rfl | rfl := hname
    · decide
    · decide
  obtain ⟨value, hvalue, rfl | ⟨other, rest, _, rfl⟩⟩ := s.found hsame hf hequals
  · obtain ⟨m, hm⟩ := s.integers _ hvalue hname
    dsimp only at hm
    rw [hm, pyInt_pyStr] at hread
    obtain rfl := Option.some_inj.1 hread
    rwa [← hm]
  · rw [pyInt_equals (equals_below value other rest)] at hread
    cases hread

theorem float_not_int (d : PyDisplay) (text : List Char) (n : Int) : d.float text ≠ pyStr n := by
  intro h
  obtain hmark | hmark | hmark := d.marked text
  · rw [h] at hmark
    exact not_mem_pyStr (by decide) (by decide) hmark
  · rw [h] at hmark
    exact not_mem_pyStr (by decide) (by decide) hmark
  · rw [h] at hmark
    exact not_mem_pyStr (by decide) (by decide) hmark

theorem SignedFields.oneLine (s : SignedFields) {fields : List (List Char × List Char)}
    (hsame : dataCheckString fields = dataCheckString s.fields) (hf : (name, text) ∈ fields)
    (hname : name = "id".toList ∨ name = "auth_date".toList) (hline : '\n' ∉ text) :
    ∃ n, text = pyStr n ∧ (name, pyStr n) ∈ s.fields := by
  have hequals : '=' ∉ name := by
    obtain rfl | rfl := hname
    · decide
    · decide
  obtain ⟨value, hvalue, rfl | ⟨other, rest, _, rfl⟩⟩ := s.found hsame hf hequals
  · obtain ⟨n, hn⟩ := s.integers _ hvalue hname
    dsimp only at hn
    refine ⟨n, hn, ?_⟩
    rwa [← hn]
  · exact absurd (break_below value _) hline

/-- Whatever value of a payload `int` takes, it takes it for the integer that was signed. -/
theorem SignedFields.readValue (s : SignedFields) {d : PyDisplay}
    {fields : List (List Char × List Char)}
    (hsame : dataCheckString fields = dataCheckString s.fields)
    (hname : name = "id".toList ∨ name = "auth_date".toList) (hf : (name, text) ∈ fields)
    (htext : d.str value = some text) (hread : d.int value = some n) :
    (name, pyStr n) ∈ s.fields := by
  cases value with
  | null => cases hread
  | bool b =>
    obtain rfl := Option.some_inj.1 htext
    have hline : '\n' ∉ (if b then "True".toList else "False".toList) := by
      cases b
      · decide
      · decide
    obtain ⟨m, hm, _⟩ := s.oneLine hsame hf hname hline
    exfalso
    have he : 'e' ∉ pyStr m := not_mem_pyStr (by decide) (by decide)
    rw [← hm] at he
    cases b
    · exact he (by decide)
    · exact he (by decide)
  | int m =>
    obtain rfl := Option.some_inj.1 htext
    obtain rfl := Option.some_inj.1 hread
    have hline : '\n' ∉ pyStr m := not_mem_pyStr (by decide) (by decide)
    obtain ⟨k, hk, hmem⟩ := s.oneLine hsame hf hname hline
    rwa [hk]
  | float source =>
    obtain rfl := Option.some_inj.1 htext
    obtain ⟨m, hm, _⟩ := s.oneLine hsame hf hname (d.unbroken source)
    exact absurd hm (float_not_int d source m)
  | str points =>
    obtain ⟨chars, hchars, hint⟩ := Option.bind_eq_some_iff.1 hread
    have hsame' : charsOf points = some text := htext
    rw [hchars] at hsame'
    obtain rfl := Option.some_inj.1 hsame'
    exact s.readInt hsame hf hname hint
  | arr values => cases hread
  | obj entries => cases hread

/-! ## Accepted logins -/

theorem mem_of_mapM {f : α → Option β} {l : List α} (h : l.mapM f = some l') (ha : a ∈ l) :
    ∃ b, f a = some b ∧ b ∈ l' := by
  induction l generalizing l' with
  | nil => exact absurd ha List.not_mem_nil
  | cons first l ih =>
    rw [List.mapM_cons] at h
    obtain ⟨b, hb, h⟩ := Option.bind_eq_some_iff.1 h
    obtain ⟨others, hothers, heq⟩ := Option.bind_eq_some_iff.1 h
    obtain rfl := Option.some_inj.1 heq
    obtain rfl | ha := List.mem_cons.1 ha
    · exact ⟨b, hb, List.mem_cons_self⟩
    · obtain ⟨b', hb', hmem⟩ := ih hothers ha
      exact ⟨b', hb', List.mem_cons_of_mem _ hmem⟩

theorem lookup_mem [BEq κ] [LawfulBEq κ] {l : List (κ × ν)} (h : l.lookup k = some v) :
    (k, v) ∈ l := by
  obtain ⟨before, after, rfl, _⟩ := List.lookup_eq_some_iff.1 h
  exact List.mem_append_right _ List.mem_cons_self

theorem field_of_lookup {d : PyDisplay} (h : d.fields payload = some fields)
    (hvalue : (loginFields payload).lookup key = some value) (hkey : charsOf key = some name) :
    ∃ text, d.str value = some text ∧ (name, text) ∈ fields := by
  obtain ⟨field, hfield, hmem⟩ := mem_of_mapM h (lookup_mem hvalue)
  dsimp only at hfield
  rw [hkey, Option.bind_eq_bind, Option.bind_some] at hfield
  obtain ⟨text, htext, heq⟩ := Option.bind_eq_some_iff.1 hfield
  obtain rfl := Option.some_inj.1 heq
  exact ⟨text, htext, hmem⟩

/-- The digest that came with a payload. -/
def loginHash (payload : List (List Nat × Loaded)) : List Nat :=
  match payload.lookup (pointsOf "hash".toList) with
  | some (.str received) => received
  | _ => []

/-- The time that a payload is as old as. -/
def loginDate (d : PyDisplay) (payload : List (List Nat × Loaded)) : Option Int :=
  ((loginFields payload).lookup (pointsOf "auth_date".toList)).bind d.int

theorem verifyTelegramLogin_some
    (h : verifyTelegramLogin d mac now payload = some tgId) :
    ∃ fields id date, d.fields payload = some fields ∧
      pointsOf (mac (dataCheckString fields)) = loginHash payload ∧
      (loginFields payload).lookup (pointsOf "id".toList) = some id ∧ d.int id = some tgId ∧
      (loginFields payload).lookup (pointsOf "auth_date".toList) = some date ∧
      ∃ authDate, d.int date = some authDate ∧ tooOld now authDate = false := by
  rw [verifyTelegramLogin] at h
  split at h
  · next received hhash =>
    have hreceived : loginHash payload = received := by rw [loginHash, hhash]
    split at h
    · cases h
    · obtain ⟨id, hid, h⟩ := Option.bind_eq_some_iff.1 h
      obtain ⟨date, hdate, h⟩ := Option.bind_eq_some_iff.1 h
      obtain ⟨fields, hfields, h⟩ := Option.bind_eq_some_iff.1 h
      split at h
      · next hmac =>
        obtain ⟨authDate, hauth, h⟩ := Option.bind_eq_some_iff.1 h
        obtain ⟨tgId', htg, h⟩ := Option.bind_eq_some_iff.1 h
        split at h
        · cases h
        · next hfresh =>
          obtain rfl := Option.some_inj.1 h
          rw [Bool.not_eq_true] at hfresh
          rw [← hreceived] at hmac
          exact ⟨fields, id, date, hfields, hmac, hid, htg, hdate, authDate, hauth, hfresh⟩
      · cases h
  · cases h

/-- The digest that came with the data of a Mini App. -/
def initHash (replaced : List UInt8 → String) (initData : List Char) : List Nat :=
  pointsOf (((initPairs replaced initData).lookup "hash".toList).getD [])

/-- The time that the data of a Mini App is as old as. -/
def initDate (replaced : List UInt8 → String) (initData : List Char) : Option Int :=
  (((initPairs replaced initData).filter fun p => p.1 ≠ "hash".toList).lookup
    "auth_date".toList).bind pyInt

theorem verifyTelegramWebapp_some
    (h : verifyTelegramWebapp replaced mac now initData = some user) :
    ∃ fields date text, fields = (initPairs replaced initData).filter (fun p =>
        p.1 ≠ "hash".toList) ∧
      pointsOf (mac (dataCheckString fields)) = initHash replaced initData ∧
      fields.lookup "user".toList = some text ∧ jsonLoads text = some user ∧
      fields.lookup "auth_date".toList = some date ∧
      ∃ authDate, pyInt date = some authDate ∧ tooOld now authDate = false := by
  rw [verifyTelegramWebapp] at h
  split at h
  · cases h
  · dsimp only at h
    split at h
    · cases h
    · next received hhash =>
      split at h
      · cases h
      · obtain ⟨date, hdate, h⟩ := Option.bind_eq_some_iff.1 h
        obtain ⟨text, htext, h⟩ := Option.bind_eq_some_iff.1 h
        split at h
        · next hmac =>
          obtain ⟨authDate, hauth, h⟩ := Option.bind_eq_some_iff.1 h
          split at h
          · cases h
          · next hfresh =>
            obtain ⟨user', huser, h⟩ := Option.bind_eq_some_iff.1 h
            split at h
            · obtain rfl := Option.some_inj.1 h
              rw [Bool.not_eq_true] at hfresh
              refine ⟨_, date, text, rfl, ?_, htext, huser, hdate, authDate, hauth, hfresh⟩
              rw [initHash, hhash, hmac]
              rfl
            · cases h
        · cases h

/-- A login that is accepted, by the widget or by a Mini App, gives the identity that stands in
fields that Telegram signed, and is as old as these fields are. -/
theorem logins_bound (d : PyDisplay) (replaced : List UInt8 → String)
    (loginMac webMac : List Char → List Char) (now : Int) :
    (∀ signed payload tgId, OnlySigned loginMac signed (loginHash payload) →
      verifyTelegramLogin d loginMac now payload = some tgId →
      ∃ s ∈ signed, ("id".toList, pyStr tgId) ∈ s.fields ∧
        ∃ authDate, loginDate d payload = some authDate ∧
          ("auth_date".toList, pyStr authDate) ∈ s.fields ∧ tooOld now authDate = false) ∧
    (∀ signed initData user, OnlySigned webMac signed (initHash replaced initData) →
      verifyTelegramWebapp replaced webMac now initData = some user →
      ∃ s ∈ signed, (∃ text, ("user".toList, text) ∈ s.fields ∧ jsonLoads text = some user) ∧
        ∃ authDate, initDate replaced initData = some authDate ∧
          ("auth_date".toList, pyStr authDate) ∈ s.fields ∧ tooOld now authDate = false) := by
  constructor
  · intro signed payload tgId hideal h
    obtain ⟨fields, id, date, hfields, hmac, hid, htg, hdate, authDate, hauth, hfresh⟩ :=
      verifyTelegramLogin_some h
    obtain ⟨s, hs, hsame⟩ := hideal _ hmac
    obtain ⟨idText, hidText, hidField⟩ :=
      field_of_lookup hfields hid (show charsOf _ = some "id".toList by decide +kernel)
    obtain ⟨dateText, hdateText, hdateField⟩ :=
      field_of_lookup hfields hdate (show charsOf _ = some "auth_date".toList by decide +kernel)
    refine ⟨s, hs, s.readValue hsame (.inl rfl) hidField hidText htg, authDate, ?_,
      s.readValue hsame (.inr rfl) hdateField hdateText hauth, hfresh⟩
    rw [loginDate, hdate]
    exact hauth
  · intro signed initData user hideal h
    obtain ⟨fields, date, text, rfl, hmac, htext, huser, hdate, authDate, hauth, hfresh⟩ :=
      verifyTelegramWebapp_some h
    obtain ⟨s, hs, hsame⟩ := hideal _ hmac
    have hdateField := s.readInt hsame (lookup_mem hdate) (.inr rfl) hauth
    have huserField : ("user".toList, text) ∈ s.fields := by
      obtain ⟨value, hvalue, rfl | ⟨other, rest, hother, rfl⟩⟩ :=
        s.found hsame (lookup_mem htext) (by decide)
      · exact hvalue
      · -- what stands below the signed line is no part of a JSON text
        rw [JsonLoads.jsonLoads_broken (identifier_plain hother)] at huser
        cases huser
    refine ⟨s, hs, ⟨text, huserField, huser⟩, authDate, ?_, hdateField, hfresh⟩
    rw [initDate, hdate]
    exact hauth

/-! ## Two logins -/

def sampleDisplay : PyDisplay where
  float text := text.filter (· != '\n') ++ ['.', '0']
  floatInt _ := none
  container _ := "[]".toList
  marked _ := .inl (List.mem_append_right _ List.mem_cons_self)
  unbroken text := by
    rw [List.mem_append, not_or, List.mem_filter]
    exact ⟨fun h => absurd h.2 (by decide), by decide⟩

def signedLogin : SignedFields where
  fields := [("id".toList, "42".toList), ("auth_date".toList, "100".toList),
    ("first_name".toList, "A".toList)]
  named := by decide +kernel
  distinct := by decide +kernel
  unbroken := by decide +kernel
  integers f hf hname := by
    obtain rfl | hf := List.mem_cons.1 hf
    · exact ⟨42, by decide +kernel⟩
    · obtain rfl | hf := List.mem_cons.1 hf
      · exact ⟨100, by decide +kernel⟩
      · obtain rfl := List.mem_singleton.1 hf
        exact absurd hname (by decide +kernel)

def signedInit : SignedFields where
  fields := [("auth_date".toList, "100".toList), ("user".toList, "\x7b\"id\":42\x7d".toList)]
  named := by decide +kernel
  distinct := by decide +kernel
  unbroken := by decide +kernel
  integers f hf hname := by
    obtain rfl | hf := List.mem_cons.1 hf
    · exact ⟨100, by decide +kernel⟩
    · obtain rfl := List.mem_singleton.1 hf
      exact absurd hname (by decide +kernel)

/-- The time is sent as a text, and a field without a value is added. -/
def sampleLogin : List (List Nat × Loaded) :=
  [(pointsOf "first_name".toList, .str (pointsOf "A".toList)), (pointsOf "id".toList, .int 42),
    (pointsOf "auth_date".toList, .str (pointsOf "100".toList)),
    (pointsOf "photo_url".toList, .null),
    (pointsOf "hash".toList, .str (pointsOf "auth_date=100\nfirst_name=A\nid=42".toList))]

def sampleInit : List Char :=
  ("user=%7B%22id%22%3A42%7D&auth_date=100" ++
    "&hash=auth_date%3D100%0Auser%3D%7B%22id%22%3A42%7D").toList

theorem pointsOf_inj (h : pointsOf a = pointsOf b) : a = b :=
  List.map_injective_iff.2 (fun _ _ hc => Char.toNat_inj.1 hc) h

/-- Where a text is its own digest, nobody finds another text for a digest. -/
theorem onlySigned_self (s : SignedFields)
    (h : received = pointsOf (dataCheckString s.fields)) :
    OnlySigned (fun check => check) [s] received := by
  intro check hcheck
  rw [h] at hcheck
  exact ⟨s, List.mem_singleton_self s, pointsOf_inj hcheck⟩

theorem logins_bound_sample :
    (verifyTelegramLogin sampleDisplay (fun check => check) 200000000 sampleLogin = some 42 ∧
      ∃ s ∈ [signedLogin], ("id".toList, pyStr 42) ∈ s.fields ∧
        ∃ authDate, loginDate sampleDisplay sampleLogin = some authDate ∧
          ("auth_date".toList, pyStr authDate) ∈ s.fields ∧
          tooOld 200000000 authDate = false) ∧
    ∃ user, verifyTelegramWebapp (fun _ => "") (fun check => check) 200000000 sampleInit =
        some user ∧
      ∃ s ∈ [signedInit], (∃ text, ("user".toList, text) ∈ s.fields ∧ jsonLoads text = some user) ∧
        ∃ authDate, initDate (fun _ => "") sampleInit = some authDate ∧
          ("auth_date".toList, pyStr authDate) ∈ s.fields ∧
          tooOld 200000000 authDate = false := by
  obtain ⟨hlogin, hinit⟩ := logins_bound sampleDisplay (fun _ => "") (fun check => check)
    (fun check => check) 200000000
  have haccepted : verifyTelegramLogin sampleDisplay (fun check => check) 200000000 sampleLogin =
      some 42 := by decide +kernel
  have huser : (verifyTelegramWebapp (fun _ => "") (fun check => check) 200000000
      sampleInit).isSome = true := by decide +kernel
  obtain ⟨user, huser⟩ := Option.isSome_iff_exists.1 huser
  refine ⟨⟨haccepted, ?_⟩, user, huser, ?_⟩
  · exact hlogin _ _ _ (onlySigned_self signedLogin (by decide +kernel)) haccepted
  · exact hinit _ _ _ (onlySigned_self signedInit (by decide +kernel)) huser

end AegisVPN
