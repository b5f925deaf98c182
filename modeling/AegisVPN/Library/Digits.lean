import Mathlib.Algebra.Ring.Nat
import Mathlib.Data.List.Infix

/-! # Numbers in texts -/

namespace Library
set_option autoImplicit true

/-! ## Separators -/

/-- Texts without a separator are equal if what follows it does not matter. -/
theorem eq_of_prefix_separated {sep : α} {a b s t : List α} (ha : sep ∉ a) (hb : sep ∉ b)
    (h : a ++ sep :: s <+: b ++ sep :: t) : a = b := by
  induction a generalizing b with
  | nil =>
    cases b with
    | nil => rfl
    | cons y b =>
      obtain ⟨rfl, _⟩ := List.cons_prefix_cons.1 h
      exact absurd List.mem_cons_self hb
  | cons y a ih =>
    cases b with
    | nil =>
      obtain ⟨rfl, _⟩ := List.cons_prefix_cons.1 h
      exact absurd List.mem_cons_self ha
    | cons z b =>
      obtain ⟨rfl, htail⟩ := List.cons_prefix_cons.1 h
      rw [ih (fun hmem => ha (List.mem_cons_of_mem _ hmem))
        (fun hmem => hb (List.mem_cons_of_mem _ hmem)) htail]

theorem eq_of_separated {sep : α} {a b s t : List α} (ha : sep ∉ a) (hb : sep ∉ b)
    (h : a ++ sep :: s = b ++ sep :: t) : a = b ∧ s = t := by
  have hfirst : a = b := eq_of_prefix_separated ha hb ⟨[], (List.append_nil _).trans h⟩
  subst hfirst
  exact ⟨rfl, List.tail_eq_of_cons_eq (List.append_cancel_left h)⟩

/-! ## Decimal digits -/

theorem dash_not_digit (n : Nat) : '-' ∉ Nat.toDigits 10 n := fun h => by
  cases Nat.isDigit_of_mem_toDigits (by decide) (by decide) h

theorem toDigits_inj {m n : Nat} (h : Nat.toDigits 10 m = Nat.toDigits 10 n) : m = n := by
  rw [← Nat.ofDigitChars_ten_toDigits (n := m), h, Nat.ofDigitChars_ten_toDigits]

/-- Leading zeros do not matter. -/
theorem padded_inj {i j m n : Nat} (h : List.replicate i '0' ++ Nat.toDigits 10 m =
    List.replicate j '0' ++ Nat.toDigits 10 n) : m = n := by
  have hvalue : ∀ k n, Nat.ofDigitChars 10 (List.replicate k '0' ++ Nat.toDigits 10 n) 0 = n := by
    intro k n
    rw [Nat.ofDigitChars_append, Nat.ofDigitChars_replicate_zero, Nat.mul_zero,
      Nat.ofDigitChars_ten_toDigits]
  rw [← hvalue i m, h, hvalue]

/-! ## Padded numbers in the order of texts -/

theorem append_lt_append_iff {a b s t : List Char} (h : a.length = b.length) :
    a ++ s < b ++ t ↔ a < b ∨ a = b ∧ s < t := by
  induction a generalizing b with
  | nil =>
    rw [List.length_nil] at h
    rw [List.length_eq_zero_iff.1 h.symm]
    simp
  | cons c a ih =>
    cases b with
    | nil => cases h
    | cons d b =>
      rw [List.cons_append, List.cons_append, List.cons_lt_cons_iff, List.cons_lt_cons_iff,
        ih (Nat.succ.inj h), List.cons.injEq]
      constructor
      · rintro (hlt | ⟨heq, hlt | ⟨hsame, hlt⟩⟩)
        · exact .inl (.inl hlt)
        · exact .inl (.inr ⟨heq, hlt⟩)
        · exact .inr ⟨⟨heq, hsame⟩, hlt⟩
      · rintro ((hlt | ⟨heq, hlt⟩) | ⟨⟨heq, hsame⟩, hlt⟩)
        · exact .inl hlt
        · exact .inr ⟨heq, .inl hlt⟩
        · exact .inr ⟨heq, .inr ⟨hsame, hlt⟩⟩

/-- The last digits of a number, with zeros before them where it has less. -/
def padded : Nat → Nat → List Char
  | 0, _ => []
  | width + 1, n => padded width (n / 10) ++ [Nat.digitChar (n % 10)]

theorem length_padded (width n : Nat) : (padded width n).length = width := by
  induction width generalizing n with
  | zero => rfl
  | succ width ih => rw [padded, List.length_append, ih, List.length_singleton]

theorem digitChar_lt_iff (hm : m < 10) (hn : n < 10) :
    Nat.digitChar m < Nat.digitChar n ↔ m < n := by
  have hall : ∀ m < 10, ∀ n < 10, Nat.digitChar m < Nat.digitChar n ↔ m < n := by decide
  exact hall m hm n hn

theorem singleton_lt_iff {c d : Char} : [c] < [d] ↔ c < d := by
  rw [List.cons_lt_cons_iff]
  simp

/-- Padded numbers have the order of the numbers. -/
theorem padded_lt_iff {width : Nat} (hm : m < 10 ^ width) (hn : n < 10 ^ width) :
    padded width m < padded width n ↔ m < n := by
  induction width generalizing m n with
  | zero =>
    rw [Nat.pow_zero, Nat.lt_one_iff] at hm hn
    rw [hm, hn]
    simp [padded]
  | succ width ih =>
    have hm' : m / 10 < 10 ^ width := by omega
    have hn' : n / 10 < 10 ^ width := by omega
    have hsame : padded width (m / 10) = padded width (n / 10) ↔ m / 10 = n / 10 := by
      constructor
      · intro heq
        apply Nat.le_antisymm
        · rw [← Nat.not_lt, ← ih hn' hm', heq]
          exact List.lt_irrefl _
        · rw [← Nat.not_lt, ← ih hm' hn', heq]
          exact List.lt_irrefl _
      · exact congrArg _
    rw [padded, padded, append_lt_append_iff (by rw [length_padded, length_padded]), ih hm' hn',
      hsame, singleton_lt_iff, digitChar_lt_iff (Nat.mod_lt _ (by decide))
      (Nat.mod_lt _ (by decide))]
    omega

theorem padded_width_inj {width : Nat} (hm : m < 10 ^ width) (hn : n < 10 ^ width)
    (h : padded width m = padded width n) : m = n := by
  apply Nat.le_antisymm
  · rw [← Nat.not_lt, ← padded_lt_iff hn hm, h]
    exact List.lt_irrefl _
  · rw [← Nat.not_lt, ← padded_lt_iff hm hn, h]
    exact List.lt_irrefl _

end Library
