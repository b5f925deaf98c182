import Mathlib.Algebra.GroupWithZero.Nat
import Mathlib.Algebra.Order.BigOperators.Group.Finset
import AegisVPN.Library.Dicts

namespace Library
set_option autoImplicit true

theorem sum_lookup [DecidableEq κ] [AddCommMonoid μ] {l : List (κ × ν)} (h : (l.map Prod.fst).Nodup)
    {G : Finset κ} (hG : ∀ p ∈ l, p.1 ∈ G) (f : κ → ν → μ) :
    (l.map fun p => f p.1 p.2).sum = ∑ k ∈ G, (l.lookup k).elim 0 (f k) := by
  induction l generalizing G with
  | nil => simp
  | cons p l ih =>
    obtain ⟨key, v⟩ := p
    rw [List.map_cons, List.nodup_cons] at h
    have hkey : key ∈ G := hG (key, v) List.mem_cons_self
    have hrest : ∀ q ∈ l, q.1 ∈ G.erase key := by
      intro q hq
      refine Finset.mem_erase.2 ⟨?_, hG q (List.mem_cons_of_mem _ hq)⟩
      intro he
      exact h.1 (List.mem_map.2 ⟨q, hq, he⟩)
    have hsum : ∑ k ∈ G.erase key, (((key, v) :: l).lookup k).elim 0 (f k) =
        ∑ k ∈ G.erase key, (l.lookup k).elim 0 (f k) := by
      refine Finset.sum_congr rfl fun k hk => ?_
      have hne : (k == key) = false := by simpa using Finset.ne_of_mem_erase hk
      rw [List.lookup_cons, hne]
    rw [List.map_cons, List.sum_cons, ih h.2 hrest, ← Finset.add_sum_erase G _ hkey, hsum]
    simp

theorem filter_keys [DecidableEq κ] {l : List (κ × ν)} (h : (l.map Prod.fst).Nodup)
    (q : κ → Bool) : ((l.filter fun p => q p.1).map Prod.fst).Nodup :=
  h.sublist (List.filter_sublist.map _)

theorem sum_filter_lookup [DecidableEq κ] [AddCommMonoid μ] {l : List (κ × ν)}
    (h : (l.map Prod.fst).Nodup)
    {G : Finset κ} (hG : ∀ p ∈ l, p.1 ∈ G) (q : κ → Bool) (f : κ → ν → μ) :
    ((l.filter fun p => q p.1).map fun p => f p.1 p.2).sum =
      ∑ k ∈ G with q k, (l.lookup k).elim 0 (f k) := by
  rw [sum_lookup (filter_keys h q) (fun p hp => hG p (List.mem_of_mem_filter hp)) f,
    Finset.sum_filter]
  refine Finset.sum_congr rfl fun k _ => ?_
  rw [lookup_filter_key]
  by_cases hq : q k <;> simp [hq]

theorem sum_lookup_le [DecidableEq κ] {l : List (κ × ν)} (h : (l.map Prod.fst).Nodup)
    (G : Finset κ) (q : κ → Bool) (f : κ → ν → Nat) :
    ∑ k ∈ G with q k, (l.lookup k).elim 0 (f k) ≤
      ((l.filter fun p => q p.1).map fun p => f p.1 p.2).sum := by
  have hkeys : ∀ p ∈ l, p.1 ∈ G ∪ (l.map Prod.fst).toFinset := fun p hp =>
    Finset.mem_union_right _ (List.mem_toFinset.2 (List.mem_map_of_mem hp))
  rw [sum_filter_lookup h hkeys]
  exact Finset.sum_le_sum_of_subset (Finset.filter_subset_filter _ Finset.subset_union_left)

/-- Fibres over distinct values do not overlap. -/
theorem sum_fibres_le [DecidableEq ι] [DecidableEq κ] (g : κ → Option ι) (G : Finset κ)
    (f : κ → Nat) {values : List ι} (h : values.Nodup) :
    (values.map fun i => ∑ k ∈ G with g k == some i, f k).sum ≤
      ∑ k ∈ G with (g k).isSome, f k := by
  have hdisjoint : Set.PairwiseDisjoint (values.toFinset : Set ι)
      fun i => G.filter fun k => g k == some i := by
    intro i _ j _ hij
    refine Finset.disjoint_left.2 fun k hi hj => hij ?_
    have hi' := eq_of_beq (Finset.mem_filter.1 hi).2
    rw [eq_of_beq (Finset.mem_filter.1 hj).2] at hi'
    exact (Option.some.inj hi').symm
  rw [← List.sum_toFinset _ h, ← Finset.sum_biUnion hdisjoint]
  refine Finset.sum_le_sum_of_subset fun k hk => ?_
  obtain ⟨i, _, hi⟩ := Finset.mem_biUnion.1 hk
  obtain ⟨hmem, hi⟩ := Finset.mem_filter.1 hi
  exact Finset.mem_filter.2 ⟨hmem, by rw [eq_of_beq hi]; rfl⟩

/-! ## Groups -/

/-- An entry joins the group of its key, and one without a key joins none. -/
def groupEntry [DecidableEq κ] (key : α → Option κ) (groups : List (κ × List α)) (a : α) :
    List (κ × List α) :=
  match key a with
  | none => groups
  | some k => dictSet groups (k, (groups.lookup k).getD [] ++ [a])

def groupBy [DecidableEq κ] (key : α → Option κ) (l : List α) : List (κ × List α) :=
  l.foldl (groupEntry key) []

theorem lookup_groupBy [DecidableEq κ] (key : α → Option κ) (l : List α) (k : κ) :
    ((groupBy key l).lookup k).getD [] = l.filter fun a => key a == some k := by
  have hfold : ∀ groups, ((l.foldl (groupEntry key) groups).lookup k).getD [] =
      (groups.lookup k).getD [] ++ l.filter fun a => key a == some k := by
    induction l with
    | nil => simp
    | cons a l ih =>
      intro groups
      rw [List.foldl_cons, ih, groupEntry]
      cases hkey : key a with
      | none => simp [hkey]
      | some k' =>
        simp only [lookup_dictSet, List.filter_cons, hkey]
        by_cases hk : k = k'
        · simp [hk]
        · have hk' : ¬ k' = k := fun h => hk h.symm
          simp [hk, hk']
  exact hfold []

/-! ## Mapped values -/

theorem lookup_map_value [DecidableEq κ] (l : List (κ × ν)) (f : ν → μ) (k : κ) :
    (l.map fun p => (p.1, f p.2)).lookup k = (l.lookup k).map f := by
  induction l with
  | nil => rfl
  | cons p l ih =>
    rw [List.map_cons, List.lookup_cons, List.lookup_cons, ih]
    cases k == p.1 <;> rfl

theorem dictSet_map_value [DecidableEq κ] (d : List (κ × ν)) (f : ν → μ) (k : κ) (v : ν) :
    dictSet (d.map fun p => (p.1, f p.2)) (k, f v) =
      (dictSet d (k, v)).map fun p => (p.1, f p.2) := by
  have hkeys : (d.map fun p => (p.1, f p.2)).map Prod.fst = d.map Prod.fst := by
    rw [List.map_map]
    rfl
  rw [dictSet, dictSet, hkeys]
  by_cases h : k ∈ d.map Prod.fst
  · rw [if_pos h, if_pos h, List.map_map, List.map_map]
    apply List.map_congr_left
    intro p _
    by_cases hp : p.1 = k
    · simp [hp]
    · simp [hp]
  · rw [if_neg h, if_neg h, List.map_append]
    rfl

end Library
