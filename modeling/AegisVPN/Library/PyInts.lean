import Mathlib.Data.List.Basic

/-! # Integers in texts, as Python reads and writes them -/

namespace Library
set_option autoImplicit true

/-- The blanks around a number: those of ASCII and the spaces beyond it. -/
def isPySpace (c : Char) : Bool :=
  let n := c.toNat
  (9 ≤ n && n ≤ 13) || n == 32 || n == 0x85 || n == 0xA0 || n == 0x1680 ||
    (0x2000 ≤ n && n ≤ 0x200A) || n == 0x2028 || n == 0x2029 || n == 0x202F || n == 0x205F ||
    n == 0x3000

/-- The zeros of the decimal digits. The digits of a script follow its zero. -/
def decimalZeros : List Nat :=
  [0x30, 0x660, 0x6F0, 0x7C0, 0x966, 0x9E6, 0xA66, 0xAE6, 0xB66, 0xBE6, 0xC66, 0xCE6, 0xD66, 0xDE6,
    0xE50, 0xED0, 0xF20, 0x1040, 0x1090, 0x17E0, 0x1810, 0x1946, 0x19D0, 0x1A80, 0x1A90, 0x1B50,
    0x1BB0, 0x1C40, 0x1C50, 0xA620, 0xA8D0, 0xA900, 0xA9D0, 0xA9F0, 0xAA50, 0xABF0, 0xFF10,
    0x104A0, 0x10D30, 0x11066, 0x110F0, 0x11136, 0x111D0, 0x112F0, 0x11450, 0x114D0, 0x11650,
    0x116C0, 0x11730, 0x118E0, 0x11950, 0x11C50, 0x11D50, 0x11DA0, 0x11F50, 0x16A60, 0x16AC0,
    0x16B50, 0x1D7CE, 0x1D7D8, 0x1D7E2, 0x1D7EC, 0x1D7F6, 0x1E140, 0x1E2F0, 0x1E4F0, 0x1E950,
    0x1FBF0]

def decimalValue (c : Char) : Option Nat :=
  decimalZeros.findSome? fun z =>
    if z ≤ c.toNat ∧ c.toNat < z + 10 then some (c.toNat - z) else none

/-- Digits, of which single underscores may stand between two. -/
def digitsValue : Nat → Bool → List Char → Option Nat
  | value, afterDigit, [] => if afterDigit then some value else none
  | value, afterDigit, c :: rest =>
    if c = '_' then if afterDigit then digitsValue value false rest else none
    else match decimalValue c with
    | some d => digitsValue (10 * value + d) true rest
    | none => none

def pyStrip (text : List Char) : List Char :=
  ((text.dropWhile isPySpace).reverse.dropWhile isPySpace).reverse

/-- What `int` makes of a text. -/
def pyInt (text : List Char) : Option Int :=
  match pyStrip text with
  | '-' :: digits => (digitsValue 0 false digits).map fun n => -(n : Int)
  | '+' :: digits => (digitsValue 0 false digits).map fun n => (n : Int)
  | digits => (digitsValue 0 false digits).map fun n => (n : Int)

/-- What `str` makes of an integer. -/
def pyStr : Int → List Char
  | .ofNat n => Nat.toDigits 10 n
  | .negSucc n => '-' :: Nat.toDigits 10 (n + 1)

/-! ## Reading what was written -/

theorem decimalValue_digit (h : c.isDigit = true) : decimalValue c = some (c.toNat - 48) := by
  have hrange : 48 ≤ c.toNat ∧ c.toNat < 48 + 10 := by
    rw [Char.isDigit, Bool.and_eq_true, decide_eq_true_iff, decide_eq_true_iff] at h
    have hlow : (48 : Nat) ≤ c.toNat := h.1
    have hhigh : c.toNat ≤ 57 := h.2
    omega
  rw [decimalValue, decimalZeros, List.findSome?_cons, if_pos hrange]

theorem digit_not_space (h : c.isDigit = true) : isPySpace c = false := by
  rw [Char.isDigit, Bool.and_eq_true, decide_eq_true_iff, decide_eq_true_iff] at h
  have hlow : (48 : Nat) ≤ c.toNat := h.1
  have hhigh : c.toNat ≤ 57 := h.2
  simp only [isPySpace, Bool.or_eq_false_iff, Bool.and_eq_false_iff, decide_eq_false_iff_not,
    beq_eq_false_iff_ne]
  omega

theorem digitsValue_digits {digits : List Char} (h : ∀ c ∈ digits, c.isDigit = true) :
    ∀ value, digitsValue value true digits = some (Nat.ofDigitChars 10 digits value) := by
  induction digits with
  | nil => exact fun _ => rfl
  | cons c digits ih =>
    intro value
    have hc := h c List.mem_cons_self
    have hunderscore : c ≠ '_' := by
      rintro rfl
      cases hc
    rw [digitsValue, if_neg hunderscore, decimalValue_digit hc]
    exact ih (fun d hd => h d (List.mem_cons_of_mem _ hd)) _

theorem digitsValue_toDigits (n : Nat) : digitsValue 0 false (Nat.toDigits 10 n) = some n := by
  have hdigits : ∀ c ∈ Nat.toDigits 10 n, c.isDigit = true := fun c hc =>
    Nat.isDigit_of_mem_toDigits (by omega) (by omega) hc
  cases hn : Nat.toDigits 10 n with
  | nil => exact absurd hn Nat.toDigits_ne_nil
  | cons c digits =>
    rw [hn] at hdigits
    have hsome := digitsValue_digits hdigits 0
    rw [← hn, Nat.ofDigitChars_ten_toDigits, hn] at hsome
    rw [digitsValue] at hsome ⊢
    split
    · next hc =>
      have hdigit := hdigits c List.mem_cons_self
      rw [hc] at hdigit
      cases hdigit
    · next hc =>
      rw [if_neg hc] at hsome
      exact hsome

theorem pyStrip_self {text : List Char} (h : ∀ c ∈ text, isPySpace c = false) :
    pyStrip text = text := by
  have hdrop : ∀ l : List Char, (∀ c ∈ l, isPySpace c = false) → l.dropWhile isPySpace = l := by
    intro l hl
    cases l with
    | nil => rfl
    | cons c l =>
      exact List.dropWhile_cons_of_neg (by rw [hl c List.mem_cons_self]; exact Bool.false_ne_true)
  rw [pyStrip, hdrop text h, hdrop _ fun c hc => h c (List.mem_reverse.1 hc), List.reverse_reverse]

theorem pyInt_pyStr (n : Int) : pyInt (pyStr n) = some n := by
  have hdigits : ∀ n : Nat, ∀ c ∈ Nat.toDigits 10 n, c.isDigit = true := fun n c hc =>
    Nat.isDigit_of_mem_toDigits (by omega) (by omega) hc
  cases n with
  | ofNat n =>
    have hstrip : pyStrip (Nat.toDigits 10 n) = Nat.toDigits 10 n :=
      pyStrip_self fun c hc => digit_not_space (hdigits n c hc)
    rw [pyStr, pyInt, hstrip]
    split
    · next digits heq =>
      have hdash := hdigits n '-' (by rw [heq]; exact List.mem_cons_self)
      cases hdash
    · next digits heq =>
      have hplus := hdigits n '+' (by rw [heq]; exact List.mem_cons_self)
      cases hplus
    · rw [digitsValue_toDigits]
      rfl
  | negSucc n =>
    have hstrip : pyStrip ('-' :: Nat.toDigits 10 (n + 1)) = '-' :: Nat.toDigits 10 (n + 1) := by
      apply pyStrip_self
      intro c hc
      obtain rfl | hc := List.mem_cons.1 hc
      · decide
      · exact digit_not_space (hdigits (n + 1) c hc)
    rw [pyStr, pyInt, hstrip]
    simp only [digitsValue_toDigits]
    rfl

/-! ## Texts that are no integers -/

theorem mem_dropWhile {p : Char → Bool} {text : List Char} (hc : c ∈ text) (h : p c = false) :
    c ∈ text.dropWhile p := by
  induction text with
  | nil => exact absurd hc List.not_mem_nil
  | cons d text ih =>
    rw [List.dropWhile_cons]
    split
    · next hd =>
      obtain rfl | hc := List.mem_cons.1 hc
      · rw [h] at hd
        cases hd
      · exact ih hc
    · exact hc

theorem mem_pyStrip (hc : c ∈ text) (h : isPySpace c = false) : c ∈ pyStrip text :=
  List.mem_reverse.2 (mem_dropWhile (List.mem_reverse.2 (mem_dropWhile hc h)) h)

theorem digitsValue_equals {text : List Char} (h : '=' ∈ text) :
    ∀ value afterDigit, digitsValue value afterDigit text = none := by
  induction text with
  | nil => exact absurd h List.not_mem_nil
  | cons c text ih =>
    intro value afterDigit
    have hno : decimalValue '=' = none := by decide
    rw [digitsValue]
    obtain rfl | h := List.mem_cons.1 h
    · rw [if_neg (by decide), hno]
    · split
      · split
        · exact ih h _ _
        · rfl
      · split
        · exact ih h _ _
        · rfl

/-- An equals sign makes a text no integer, wherever it stands. -/
theorem pyInt_equals (h : '=' ∈ text) : pyInt text = none := by
  have hstrip : '=' ∈ pyStrip text := mem_pyStrip h (by decide)
  rw [pyInt]
  split
  · next digits heq =>
    rw [heq] at hstrip
    obtain hdash | hstrip := List.mem_cons.1 hstrip
    · cases hdash
    · rw [digitsValue_equals hstrip]
      rfl
  · next digits heq =>
    rw [heq] at hstrip
    obtain hplus | hstrip := List.mem_cons.1 hstrip
    · cases hplus
    · rw [digitsValue_equals hstrip]
      rfl
  · rw [digitsValue_equals hstrip]
    rfl

theorem mem_pyStr {n : Int} (h : c ∈ pyStr n) : c.isDigit = true ∨ c = '-' := by
  cases n with
  | ofNat n => exact .inl (Nat.isDigit_of_mem_toDigits (by omega) (by omega) h)
  | negSucc n =>
    obtain rfl | h := List.mem_cons.1 h
    · exact .inr rfl
    · exact .inl (Nat.isDigit_of_mem_toDigits (by omega) (by omega) h)

theorem not_mem_pyStr {n : Int} (hc : c.isDigit = false) (hdash : c ≠ '-') : c ∉ pyStr n := by
  intro h
  obtain h | h := mem_pyStr h
  · rw [hc] at h
    cases h
  · exact hdash h

end Library
