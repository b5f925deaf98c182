import Mathlib.Data.List.Sort

/-! # Sorting by a key -/

namespace Library
set_option autoImplicit true

section Sorted
variable [LinearOrder κ] {r : α → α → Prop} [DecidableRel r] (key : α → κ) {l l' : List α}
  (hr : ∀ a b, r a b ↔ key a ≤ key b)
include hr

theorem pairwise_sorted (l : List α) : (l.insertionSort r).Pairwise fun a b => key a ≤ key b := by
  have htotal : Std.Total r := ⟨fun a b => by
    rw [hr, hr]
    exact le_total _ _⟩
  have htrans : IsTrans α r := ⟨fun a b c hab hbc => by
    rw [hr] at *
    exact hab.trans hbc⟩
  exact (List.pairwise_insertionSort r l).imp fun h => (hr _ _).1 h

theorem insertionSort_perm (hperm : l.Perm l')
    (hkey : ∀ a ∈ l, ∀ b ∈ l, key a = key b → a = b) : l.insertionSort r = l'.insertionSort r := by
  have hsame : (l.insertionSort r).Perm (l'.insertionSort r) :=
    (List.perm_insertionSort r l).trans (hperm.trans (List.perm_insertionSort r l').symm)
  refine List.Perm.eq_of_pairwise (fun a b ha hb hab hba => ?_) (pairwise_sorted key hr l)
    (pairwise_sorted key hr l') hsame
  have ha' : a ∈ l := (List.mem_insertionSort r).1 ha
  have hb' : b ∈ l := hperm.mem_iff.2 ((List.mem_insertionSort r).1 hb)
  exact hkey a ha' b hb' (le_antisymm hab hba)

/-- The last entries of a sorted list are those that fewer than so many others follow. -/
theorem mem_drop_sorted_iff (hinj : ∀ a ∈ l, ∀ b ∈ l, key a = key b → a = b) (hnodup : l.Nodup)
    (n : Nat) (a : α) : a ∈ (l.insertionSort r).drop (l.length - n) ↔
      a ∈ l ∧ l.countP (fun b => key a < key b) < n := by
  have hperm := List.perm_insertionSort r l
  have hmem : a ∈ l.insertionSort r ↔ a ∈ l := List.mem_insertionSort r
  by_cases ha : a ∈ l
  · obtain ⟨before, after, hsplit⟩ := List.append_of_mem (hmem.2 ha)
    have hsorted := pairwise_sorted key hr l
    have hdistinct := hperm.nodup_iff.2 hnodup
    have hlength : l.length = before.length + (after.length + 1) := by
      rw [← hperm.length_eq, hsplit, List.length_append, List.length_cons]
    rw [hsplit] at hsorted hdistinct
    obtain ⟨-, hafter, hbefore⟩ := List.pairwise_append.1 hsorted
    have hnot : a ∉ after := (List.nodup_cons.1 hdistinct.of_append_right).1
    have hlow : before.countP (fun b => key a < key b) = 0 := by
      rw [List.countP_eq_zero]
      intro b hb
      simpa using hbefore b hb a List.mem_cons_self
    have hhigh : after.countP (fun b => key a < key b) = after.length := by
      rw [List.countP_eq_length]
      intro b hb
      have hle := (List.pairwise_cons.1 hafter).1 b hb
      have hbl : b ∈ l := hperm.mem_iff.1 (hsplit ▸ by simp [hb])
      have hne : key a ≠ key b := fun heq => hnot (hinj a ha b hbl heq ▸ hb)
      simpa using lt_of_le_of_ne hle hne
    have hcount : l.countP (fun b => key a < key b) = after.length := by
      rw [← hperm.countP_eq, hsplit, List.countP_append, hlow, List.countP_cons_of_neg (by simp),
        hhigh, Nat.zero_add]
    rw [hsplit, hcount, hlength]
    by_cases hlt : after.length < n
    · refine ⟨fun _ => ⟨ha, hlt⟩, fun _ => ?_⟩
      rw [List.drop_append_of_le_length (by omega)]
      simp
    · refine ⟨fun hdrop => absurd hdrop ?_, fun h => absurd h.2 hlt⟩
      rw [List.drop_append, List.drop_eq_nil_of_le (by omega), List.nil_append,
        show before.length + (after.length + 1) - n - before.length = after.length - n + 1 by omega,
        List.drop_succ_cons]
      exact fun hdrop => hnot (List.mem_of_mem_drop hdrop)
  · constructor
    · exact fun hdrop => absurd (hmem.1 (List.mem_of_mem_drop hdrop)) ha
    · exact fun h => absurd h.1 ha

end Sorted

/-! ## Rows with a key -/

section Rows
variable [DecidableEq κ] {key : α → κ} {l l' : List α}

theorem find?_key {k : κ} (h : (l.find? fun a => key a == k) = some a) : a ∈ l ∧ key a = k := by
  have hkey : (key a == k) = true := (List.find?_some h :)
  exact ⟨List.mem_of_find?_eq_some h, eq_of_beq hkey⟩

theorem find?_key_of_mem (hinj : ∀ a ∈ l, ∀ b ∈ l, key a = key b → a = b) (ha : a ∈ l) :
    (l.find? fun b => key b == key a) = some a := by
  cases hfind : l.find? fun b => key b == key a with
  | none => exact absurd (beq_self_eq_true (key a)) (List.find?_eq_none.1 hfind a ha)
  | some b =>
    obtain ⟨hb, hkey⟩ := find?_key hfind
    rw [hinj b hb a ha hkey]

omit [DecidableEq κ] in
theorem rows_perm (hnodup : (l.map key).Nodup) (hnodup' : (l'.map key).Nodup)
    (h : ∀ a, a ∈ l ↔ a ∈ l') : l.Perm l' :=
  (List.perm_ext_iff_of_nodup (.of_map key hnodup) (.of_map key hnodup')).2 h

theorem find?_rows (hnodup' : (l'.map key).Nodup)
    (h : ∀ a, a ∈ l ↔ a ∈ l') (k : κ) :
    (l.find? fun a => key a == k) = l'.find? fun a => key a == k := by
  cases hfind : l.find? fun a => key a == k with
  | none =>
    refine (List.find?_eq_none.2 fun a ha => ?_).symm
    exact List.find?_eq_none.1 hfind a ((h a).2 ha)
  | some a =>
    have hkey : key a = k := by simpa using List.find?_some hfind
    have hmem : a ∈ l' := (h a).1 (List.mem_of_find?_eq_some hfind)
    cases hfind' : l'.find? fun a => key a == k with
    | none => exact absurd (beq_iff_eq.2 hkey) (List.find?_eq_none.1 hfind' a hmem)
    | some b =>
      have hkey' : key b = k := by simpa using List.find?_some hfind'
      have hmem' : b ∈ l' := List.mem_of_find?_eq_some hfind'
      exact congrArg some
        (List.inj_on_of_nodup_map hnodup' hmem hmem' (hkey.trans hkey'.symm))

end Rows

/-! ## What two lists are mapped to -/

/-- Where `g` tells apart no more than `f` does, equal values of `f` give equal values of `g`. -/
theorem perm_map_of {f : α → β} {g : α → γ} {l l' : List α}
    (h : ∀ a ∈ l, ∀ b ∈ l', f a = f b → g a = g b) (hperm : (l.map f).Perm (l'.map f)) :
    (l.map g).Perm (l'.map g) := by
  induction l generalizing l' with
  | nil =>
    have hnil : l' = [] := List.map_eq_nil_iff.1 hperm.symm.eq_nil
    rw [hnil]
  | cons a l ih =>
    have hmem : f a ∈ l'.map f := hperm.mem_iff.1 List.mem_cons_self
    obtain ⟨b, hb, hab⟩ := List.mem_map.1 hmem
    obtain ⟨before, after, rfl⟩ := List.append_of_mem hb
    have hmiddle : (before ++ b :: after).Perm (b :: (before ++ after)) := List.perm_middle
    have hrest : (l.map f).Perm ((before ++ after).map f) := by
      have hcons := hperm.trans (hmiddle.map f)
      rw [List.map_cons, List.map_cons, hab] at hcons
      exact hcons.cons_inv
    have hih := ih (fun a' ha' b' hb' => h a' (List.mem_cons_of_mem _ ha') b'
      (hmiddle.symm.subset (List.mem_cons_of_mem _ hb'))) hrest
    have hg : g a = g b := h a List.mem_cons_self b hb hab.symm
    rw [List.map_cons, hg]
    exact (hih.cons (g b)).trans (hmiddle.map g).symm

theorem perm_map_iff {f : α → β} {g : α → γ} {l l' : List α}
    (h : ∀ a ∈ l, ∀ b ∈ l', f a = f b ↔ g a = g b) :
    (l.map f).Perm (l'.map f) ↔ (l.map g).Perm (l'.map g) :=
  ⟨perm_map_of fun a ha b hb => (h a ha b hb).1, perm_map_of fun a ha b hb => (h a ha b hb).2⟩

end Library
