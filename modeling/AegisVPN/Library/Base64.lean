import Mathlib.Data.List.Basic

/-! # The URL-safe base64 of Python -/

namespace Library
set_option autoImplicit true

def sextetChar (n : Nat) : Char :=
  if n < 26 then Char.ofNat (65 + n)
  else if n < 52 then Char.ofNat (71 + n)
  else if n < 62 then Char.ofNat (n - 4)
  else if n = 62 then '-'
  else '_'

/-- Both alphabets are read. -/
def sextetValue (c : Char) : Option Nat :=
  if 'A' ≤ c ∧ c ≤ 'Z' then some (c.toNat - 65)
  else if 'a' ≤ c ∧ c ≤ 'z' then some (c.toNat - 71)
  else if '0' ≤ c ∧ c ≤ '9' then some (c.toNat + 4)
  else if c = '-' ∨ c = '+' then some 62
  else if c = '_' ∨ c = '/' then some 63
  else none

def urlsafeB64encode : List UInt8 → List Char
  | [] => []
  | [a] => [sextetChar (a.toNat / 4), sextetChar (a.toNat % 4 * 16), '=', '=']
  | [a, b] =>
    [sextetChar (a.toNat / 4), sextetChar (a.toNat % 4 * 16 + b.toNat / 16),
      sextetChar (b.toNat % 16 * 4), '=']
  | a :: b :: c :: rest =>
    sextetChar (a.toNat / 4) :: sextetChar (a.toNat % 4 * 16 + b.toNat / 16) ::
      sextetChar (b.toNat % 16 * 4 + c.toNat / 64) :: sextetChar (c.toNat % 64) ::
      urlsafeB64encode rest

/-- The decoder that is not strict: `quad` characters of a group of four are read, of which `left`
is not yet used, and `pads` paddings have followed them. Other characters are passed over, and a
complete padding ends the text. -/
@[simp] def a2bBase64 : Nat → Nat → Nat → List Char → Option (List UInt8)
  | quad, _, _, [] => if quad = 0 then some [] else none
  | quad, left, pads, c :: rest =>
    if c = '=' then
      if 2 ≤ quad then
        if 4 ≤ quad + (pads + 1) then some [] else a2bBase64 quad left (pads + 1) rest
      else a2bBase64 quad left pads rest
    else match sextetValue c with
    | none => a2bBase64 quad left pads rest
    | some v =>
      match quad with
      | 0 => a2bBase64 1 v 0 rest
      | 1 => (a2bBase64 2 (v % 16) 0 rest).map (UInt8.ofNat (left * 4 + v / 16) :: ·)
      | 2 => (a2bBase64 3 (v % 4) 0 rest).map (UInt8.ofNat (left * 16 + v / 4) :: ·)
      | _ => (a2bBase64 0 0 0 rest).map (UInt8.ofNat (left * 64 + v) :: ·)

def urlsafeB64decode (text : List Char) : Option (List UInt8) := a2bBase64 0 0 0 text

/-! ## Reading what was written -/

theorem sextet_roundtrip : ∀ n < 64, sextetValue (sextetChar n) = some n ∧ sextetChar n ≠ '=' ∧
    sextetChar n ≠ '.' := by
  decide

section Sextets
variable (left pads : Nat) (rest : List Char)

theorem a2bBase64_first (hn : n < 64) :
    a2bBase64 0 left pads (sextetChar n :: rest) = a2bBase64 1 n 0 rest := by
  obtain ⟨hvalue, hpad, -⟩ := sextet_roundtrip n hn
  rw [a2bBase64, if_neg hpad]
  simp only [hvalue]

theorem a2bBase64_second (hn : n < 64) : a2bBase64 1 left pads (sextetChar n :: rest) =
    (a2bBase64 2 (n % 16) 0 rest).map (UInt8.ofNat (left * 4 + n / 16) :: ·) := by
  obtain ⟨hvalue, hpad, -⟩ := sextet_roundtrip n hn
  rw [a2bBase64, if_neg hpad]
  simp only [hvalue]

theorem a2bBase64_third (hn : n < 64) : a2bBase64 2 left pads (sextetChar n :: rest) =
    (a2bBase64 3 (n % 4) 0 rest).map (UInt8.ofNat (left * 16 + n / 4) :: ·) := by
  obtain ⟨hvalue, hpad, -⟩ := sextet_roundtrip n hn
  rw [a2bBase64, if_neg hpad]
  simp only [hvalue]

theorem a2bBase64_fourth (hn : n < 64) : a2bBase64 3 left pads (sextetChar n :: rest) =
    (a2bBase64 0 0 0 rest).map (UInt8.ofNat (left * 64 + n) :: ·) := by
  obtain ⟨hvalue, hpad, -⟩ := sextet_roundtrip n hn
  rw [a2bBase64, if_neg hpad]
  simp only [hvalue]

end Sextets

theorem byte_of (b : UInt8) (h : n = b.toNat) : UInt8.ofNat n = b := by
  rw [h, UInt8.ofNat_toNat]

/-- What was written is read as it was. -/
theorem urlsafeB64decode_encode : ∀ bytes : List UInt8,
    urlsafeB64decode (urlsafeB64encode bytes) = some bytes
  | [] => rfl
  | [a] => by
    have ha : a.toNat < 256 := a.toNat_lt
    rw [urlsafeB64decode, urlsafeB64encode, a2bBase64_first _ _ _ (by omega),
      a2bBase64_second _ _ _ (by omega), byte_of a (by omega)]
    rfl
  | [a, b] => by
    have ha : a.toNat < 256 := a.toNat_lt
    have hb : b.toNat < 256 := b.toNat_lt
    rw [urlsafeB64decode, urlsafeB64encode, a2bBase64_first _ _ _ (by omega),
      a2bBase64_second _ _ _ (by omega), a2bBase64_third _ _ _ (by omega), byte_of a (by omega),
      byte_of b (by omega)]
    rfl
  | a :: b :: c :: rest => by
    have ha : a.toNat < 256 := a.toNat_lt
    have hb : b.toNat < 256 := b.toNat_lt
    have hc : c.toNat < 256 := c.toNat_lt
    have hrest : a2bBase64 0 0 0 (urlsafeB64encode rest) = some rest :=
      urlsafeB64decode_encode rest
    rw [urlsafeB64decode, urlsafeB64encode, a2bBase64_first _ _ _ (by omega),
      a2bBase64_second _ _ _ (by omega), a2bBase64_third _ _ _ (by omega),
      a2bBase64_fourth _ _ _ (by omega), hrest, byte_of a (by omega), byte_of b (by omega),
      byte_of c (by omega)]
    rfl

theorem dot_not_mem_encode : ∀ bytes : List UInt8, '.' ∉ urlsafeB64encode bytes
  | [] => List.not_mem_nil
  | [a] => by
    have ha : a.toNat < 256 := a.toNat_lt
    have h₁ := (sextet_roundtrip (a.toNat / 4) (by omega)).2.2.symm
    have h₂ := (sextet_roundtrip (a.toNat % 4 * 16) (by omega)).2.2.symm
    simp only [urlsafeB64encode, List.mem_cons, List.not_mem_nil, or_false, not_or]
    exact ⟨h₁, h₂, by decide, by decide⟩
  | [a, b] => by
    have ha : a.toNat < 256 := a.toNat_lt
    have hb : b.toNat < 256 := b.toNat_lt
    have h₁ := (sextet_roundtrip (a.toNat / 4) (by omega)).2.2.symm
    have h₂ := (sextet_roundtrip (a.toNat % 4 * 16 + b.toNat / 16) (by omega)).2.2.symm
    have h₃ := (sextet_roundtrip (b.toNat % 16 * 4) (by omega)).2.2.symm
    simp only [urlsafeB64encode, List.mem_cons, List.not_mem_nil, or_false, not_or]
    exact ⟨h₁, h₂, h₃, by decide⟩
  | a :: b :: c :: rest => by
    have ha : a.toNat < 256 := a.toNat_lt
    have hb : b.toNat < 256 := b.toNat_lt
    have hc : c.toNat < 256 := c.toNat_lt
    have h₁ := (sextet_roundtrip (a.toNat / 4) (by omega)).2.2.symm
    have h₂ := (sextet_roundtrip (a.toNat % 4 * 16 + b.toNat / 16) (by omega)).2.2.symm
    have h₃ := (sextet_roundtrip (b.toNat % 16 * 4 + c.toNat / 64) (by omega)).2.2.symm
    have h₄ := (sextet_roundtrip (c.toNat % 64) (by omega)).2.2.symm
    simp only [urlsafeB64encode, List.mem_cons, not_or]
    exact ⟨h₁, h₂, h₃, h₄, dot_not_mem_encode rest⟩

/-! ## The standard alphabet -/

def standardChar (c : Char) : Char := if c = '-' then '+' else if c = '_' then '/' else c

def b64encode (bytes : List UInt8) : List Char := (urlsafeB64encode bytes).map standardChar

theorem sextetValue_standardChar (c : Char) : sextetValue (standardChar c) = sextetValue c := by
  unfold standardChar
  split
  case isTrue h =>
    rw [h]
    decide
  case isFalse =>
    split
    case isTrue h =>
      rw [h]
      decide
    case isFalse => rfl

theorem standardChar_eq_pad (c : Char) : standardChar c = '=' ↔ c = '=' := by
  unfold standardChar
  split
  case isTrue h =>
    rw [h]
    decide
  case isFalse =>
    split
    case isTrue h =>
      rw [h]
      decide
    case isFalse => exact Iff.rfl

theorem a2bBase64_standard (quad left pads : Nat) (text : List Char) :
    a2bBase64 quad left pads (text.map standardChar) = a2bBase64 quad left pads text := by
  induction text generalizing quad left pads with
  | nil => rfl
  | cons c text ih =>
    rw [List.map_cons, a2bBase64, a2bBase64, sextetValue_standardChar]
    simp only [standardChar_eq_pad, ih]

theorem b64encode_inj {a b : List UInt8} (h : b64encode a = b64encode b) : a = b := by
  have hread : urlsafeB64decode (b64encode a) = urlsafeB64decode (b64encode b) := congrArg _ h
  unfold urlsafeB64decode b64encode at hread
  rw [a2bBase64_standard, a2bBase64_standard] at hread
  have hsame : some a = some b := by
    rw [← urlsafeB64decode_encode, ← urlsafeB64decode_encode]
    exact hread
  exact Option.some.inj hsame

end Library
