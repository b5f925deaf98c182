import Mathlib.Data.List.Basic
import Mathlib.Algebra.Order.Floor.Div

/-! # Pages of a list -/

namespace Library
set_option autoImplicit true

/-- The page with an index, of so many elements. -/
def pageOf (size : Nat) (l : List α) (i : Nat) : List α := (l.drop (i * size)).take size

theorem flatMap_pageOf (size : Nat) (l : List α) (n : Nat) :
    (List.range n).flatMap (pageOf size l) = l.take (n * size) := by
  induction n with
  | zero => simp
  | succ n ih =>
    rw [List.range_succ, List.flatMap_append, ih, List.flatMap_singleton, Nat.succ_mul,
      List.take_add]
    rfl

section Count
variable {size : Nat} {l : List α} (hsize : 1 ≤ size)
include hsize

/-- As many pages as the quotient, rounded up, hold the list. -/
theorem flatMap_pageOf_ceilDiv :
    (List.range (l.length ⌈/⌉ size)).flatMap (pageOf size l) = l := by
  rw [flatMap_pageOf]
  refine List.take_of_length_le ?_
  have hle : l.length ≤ size * (l.length ⌈/⌉ size) := (ceilDiv_le_iff_le_mul hsize).1 le_rfl
  rwa [Nat.mul_comm] at hle

end Count

end Library
