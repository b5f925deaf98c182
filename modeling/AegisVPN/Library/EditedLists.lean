import Mathlib.Data.List.Basic
import Mathlib.Data.List.DropRight
import Mathlib.Data.List.Pairwise

namespace Library
set_option autoImplicit true

/-! ## Insertion relative to what is there -/

/-- Right after the first entry with a property, or in front when there is none. -/
def insertAfterFirst (p : α → Bool) (new l : List α) : List α :=
  match l.findIdx? p with
  | some i => l.take (i + 1) ++ new ++ l.drop (i + 1)
  | none => new ++ l

/-- In front of the last entry. -/
def insertBeforeLast (a : α) (l : List α) : List α :=
  l.take (l.length - 1) ++ a :: l.drop (l.length - 1)

/-- The entries with a property first, both parts in their order. -/
def moveToFront (p : α → Bool) (l : List α) : List α :=
  l.filter p ++ l.filter fun a => !p a

section Insert
variable {p q : α → Bool} {new l a b : List α} {x : α}

theorem insertAfterFirst_none (h : ∀ y ∈ l, p y = false) :
    insertAfterFirst p new l = new ++ l := by
  rw [insertAfterFirst, List.findIdx?_eq_none_iff.2 h]

theorem insertAfterFirst_split (ha : ∀ y ∈ a, p y = false) (hx : p x = true) :
    insertAfterFirst p new (a ++ x :: b) = a ++ x :: (new ++ b) := by
  have hfind : (a ++ x :: b).findIdx? p = some a.length := by
    rw [List.findIdx?_append, List.findIdx?_eq_none_iff.2 ha, List.findIdx?_cons, hx]
    simp
  have htake : (a ++ x :: b).take (a.length + 1) = a ++ [x] := by
    rw [List.take_append, List.take_of_length_le (Nat.le_succ _)]
    simp
  have hdrop : (a ++ x :: b).drop (a.length + 1) = b := by
    rw [List.drop_append, List.drop_eq_nil_of_le (Nat.le_succ _)]
    simp
  simp only [insertAfterFirst, hfind, htake, hdrop, List.append_assoc, List.cons_append,
    List.nil_append]

theorem split_first (p : α → Bool) (l : List α) : (∀ y ∈ l, p y = false) ∨
    ∃ a x b, l = a ++ x :: b ∧ (∀ y ∈ a, p y = false) ∧ p x = true := by
  by_cases h : ∃ y ∈ l, p y = true
  · right
    obtain ⟨x, hx⟩ := Option.isSome_iff_exists.1 (List.find?_isSome.2 h)
    obtain ⟨hpx, a, b, rfl, ha⟩ := List.find?_eq_some_iff_append.1 hx
    exact ⟨a, x, b, rfl, fun y hy => by simpa using ha y hy, hpx⟩
  · left
    intro y hy
    by_contra hp
    exact h ⟨y, hy, by simpa using hp⟩

theorem split_last (p : α → Bool) (l : List α) : (∀ y ∈ l, p y = false) ∨
    ∃ a x b, l = a ++ x :: b ∧ p x = true ∧ ∀ y ∈ b, p y = false := by
  rcases split_first p l.reverse with hnone | ⟨a, x, b, heq, ha, hx⟩
  · exact .inl fun y hy => hnone y (List.mem_reverse.2 hy)
  · refine .inr ⟨b.reverse, x, a.reverse, ?_, hx, fun y hy => ha y (List.mem_reverse.1 hy)⟩
    rw [← List.reverse_reverse l, heq]
    simp

theorem mem_insertAfterFirst {y : α} : y ∈ insertAfterFirst p new l ↔ y ∈ new ∨ y ∈ l := by
  rcases split_first p l with h | ⟨a, x, b, rfl, ha, hx⟩
  · rw [insertAfterFirst_none h, List.mem_append]
  · rw [insertAfterFirst_split ha hx]
    simp only [List.mem_append, List.mem_cons]
    tauto

theorem filter_insertAfterFirst (hkeep : ∀ y ∈ l, p y = true → q y = true) :
    (insertAfterFirst p new l).filter q = insertAfterFirst p (new.filter q) (l.filter q) := by
  rcases split_first p l with h | ⟨a, x, b, rfl, ha, hx⟩
  · have hnone : ∀ y ∈ l.filter q, p y = false := fun y hy => h y (List.mem_filter.1 hy).1
    rw [insertAfterFirst_none h, insertAfterFirst_none hnone, List.filter_append]
  · have hqx : q x = true := hkeep x (List.mem_append_right _ List.mem_cons_self) hx
    have ha' : ∀ y ∈ a.filter q, p y = false := fun y hy => ha y (List.mem_filter.1 hy).1
    rw [insertAfterFirst_split ha hx, List.filter_append, List.filter_cons_of_pos hqx,
      List.filter_append, List.filter_append, List.filter_cons_of_pos hqx,
      insertAfterFirst_split ha' hx]

theorem insertAfterFirst_again {new' : List α} (hnew : ∀ y ∈ new, p y = false) :
    insertAfterFirst p new' (insertAfterFirst p new l) =
      insertAfterFirst p (new' ++ new) l := by
  rcases split_first p l with h | ⟨a, x, b, rfl, ha, hx⟩
  · have hnone : ∀ y ∈ new ++ l, p y = false := by
      intro y hy
      rcases List.mem_append.1 hy with hy | hy
      · exact hnew y hy
      · exact h y hy
    rw [insertAfterFirst_none h, insertAfterFirst_none hnone, insertAfterFirst_none h,
      List.append_assoc]
  · rw [insertAfterFirst_split ha hx, insertAfterFirst_split ha hx,
      insertAfterFirst_split ha hx, List.append_assoc]

theorem insertAfterFirst_nil : insertAfterFirst p [] l = l := by
  rcases split_first p l with h | ⟨a, x, b, rfl, ha, hx⟩
  · rw [insertAfterFirst_none h, List.nil_append]
  · rw [insertAfterFirst_split ha hx, List.nil_append]

/-- An insertion, a filter that keeps all that matters to it, and another insertion. -/
theorem insertAfterFirst_filter_again {new' : List α} (hkeep : ∀ y ∈ l, p y = true → q y = true)
    (hnew : ∀ y ∈ new, p y = false ∧ q y = true) :
    insertAfterFirst p new' ((insertAfterFirst p new l).filter q) =
      insertAfterFirst p (new' ++ new) (l.filter q) := by
  have hall : new.filter q = new := List.filter_eq_self.2 fun y hy => (hnew y hy).2
  rw [filter_insertAfterFirst hkeep, hall, insertAfterFirst_again fun y hy => (hnew y hy).1]

theorem filter_insertBeforeLast (hx : q x = false) (l : List α) :
    (insertBeforeLast x l).filter q = l.filter q := by
  have hsplit := List.filter_append (p := q) (l.take (l.length - 1)) (l.drop (l.length - 1))
  rw [List.take_append_drop] at hsplit
  rw [insertBeforeLast, List.filter_append, List.filter_cons_of_neg (by simp [hx]), hsplit]

theorem filter_moveToFront (l : List α) :
    (moveToFront p l).filter q = moveToFront p (l.filter q) := by
  simp only [moveToFront, List.filter_append, List.filter_filter, Bool.and_comm]

theorem insertBeforeLast_append_singleton (y x : α) (a : List α) :
    insertBeforeLast y (a ++ [x]) = a ++ [y, x] := by
  simp [insertBeforeLast]

theorem mem_insertBeforeLast {y : α} : y ∈ insertBeforeLast x l ↔ y = x ∨ y ∈ l := by
  have hsplit : y ∈ l ↔ y ∈ l.take (l.length - 1) ∨ y ∈ l.drop (l.length - 1) := by
    rw [← List.mem_append, List.take_append_drop]
  rw [insertBeforeLast, List.mem_append, List.mem_cons, hsplit]
  tauto

theorem insertBeforeLast_perm (x : α) (l : List α) : (insertBeforeLast x l).Perm (x :: l) := by
  refine List.perm_middle.trans ?_
  rw [List.take_append_drop]

theorem moveToFront_eq_self_iff :
    moveToFront p l = l ↔ l.Pairwise fun a b => p b = true → p a = true := by
  constructor
  · intro h
    rw [← h, moveToFront, List.pairwise_append]
    refine ⟨?_, ?_, ?_⟩
    · refine List.pairwise_of_forall_mem_list fun a ha b _ _ => ?_
      exact (List.mem_filter.1 ha).2
    · refine List.pairwise_of_forall_mem_list fun a _ b hb hpb => ?_
      simp [hpb] at hb
    · intro a ha b _ _
      exact (List.mem_filter.1 ha).2
  · intro h
    induction l with
    | nil => rfl
    | cons a l ih =>
      rw [List.pairwise_cons] at h
      by_cases hp : p a = true
      · rw [moveToFront, List.filter_cons_of_pos hp, List.filter_cons_of_neg (by simp [hp]),
          List.cons_append]
        exact congrArg (a :: ·) (ih h.2)
      · have hnone : ∀ b ∈ a :: l, ¬ p b = true := by
          intro b hb hpb
          rcases List.mem_cons.1 hb with rfl | hb
          · exact hp hpb
          · exact hp (h.1 b hb hpb)
        rw [moveToFront, List.filter_eq_nil_iff.2 hnone, List.nil_append]
        exact List.filter_eq_self.2 fun b hb => by simpa using hnone b hb

theorem moveToFront_append (h : ∀ y ∈ b, p y = false) :
    moveToFront p (a ++ b) = moveToFront p a ++ b := by
  have hnone : b.filter p = [] := List.filter_eq_nil_iff.2 fun y hy => by simp [h y hy]
  have hall : (b.filter fun y => !p y) = b := List.filter_eq_self.2 fun y hy => by simp [h y hy]
  simp only [moveToFront, List.filter_append, hnone, hall, List.append_nil, List.append_assoc]

theorem moveToFront_perm (p : α → Bool) (l : List α) : (moveToFront p l).Perm l :=
  List.filter_append_perm p l

end Insert

end Library
