import Mathlib.Data.List.Nodup

namespace Library
set_option autoImplicit true

/-- A repeated key keeps its place and takes the last value. -/
def dictSet [DecidableEq κ] (d : List (κ × ν)) (p : κ × ν) : List (κ × ν) :=
  if p.1 ∈ d.map Prod.fst then d.map fun q => if q.1 = p.1 then p else q else d ++ [p]

def dictOf [DecidableEq κ] (l : List (κ × ν)) : List (κ × ν) := l.foldl dictSet []

theorem foldl_dictSet [DecidableEq κ] {l d : List (κ × ν)} (h : ((d ++ l).map Prod.fst).Nodup) :
    l.foldl dictSet d = d ++ l := by
  induction l generalizing d with
  | nil => simp
  | cons p l ih =>
    have hp : p.1 ∉ d.map Prod.fst := by
      rw [List.map_append, List.nodup_append] at h
      intro hmem
      exact h.2.2 _ hmem p.1 (by simp) rfl
    rw [List.foldl_cons, dictSet, if_neg hp, ih (by simpa using h)]
    simp

theorem dictOf_eq [DecidableEq κ] {l : List (κ × ν)} (h : (l.map Prod.fst).Nodup) :
    dictOf l = l := by
  rw [dictOf, foldl_dictSet (by simpa using h), List.nil_append]

theorem lookup_eq_some_iff [DecidableEq κ] {l : List (κ × ν)} (h : (l.map Prod.fst).Nodup) :
    l.lookup k = some v ↔ (k, v) ∈ l := by
  induction l with
  | nil => simp
  | cons p l ih =>
    obtain ⟨k', v'⟩ := p
    rw [List.map_cons, List.nodup_cons] at h
    rw [List.lookup_cons, List.mem_cons, Prod.mk.injEq]
    by_cases hk : k = k'
    · subst hk
      simp only [beq_self_eq_true, Option.some.injEq, true_and]
      refine ⟨fun hv => .inl hv.symm, ?_⟩
      rintro (hv | hmem)
      · exact hv.symm
      · exact absurd (List.mem_map_of_mem (f := Prod.fst) hmem) h.1
    · have hk' : (k == k') = false := by simpa using hk
      rw [hk', ih h.2]
      simp [hk]

theorem foldl_dictSet_self [DecidableEq κ] {l d : List (κ × ν)} (h : (d.map Prod.fst).Nodup)
    (hl : ∀ p ∈ l, p ∈ d) : l.foldl dictSet d = d := by
  induction l with
  | nil => rfl
  | cons p l ih =>
    have hp : p ∈ d := hl p List.mem_cons_self
    have hmap : (d.map fun q => if q.1 = p.1 then p else q) = d := by
      conv_rhs => rw [← List.map_id d]
      refine List.map_congr_left fun q hq => ?_
      by_cases hkey : q.1 = p.1
      · rw [if_pos hkey]
        exact (List.inj_on_of_nodup_map h hq hp hkey).symm
      · rw [if_neg hkey]
        rfl
    rw [List.foldl_cons, dictSet, if_pos (List.mem_map_of_mem hp), hmap]
    exact ih fun q hq => hl q (List.mem_cons_of_mem _ hq)

theorem lookup_replace [DecidableEq κ] (d : List (κ × ν)) (key : κ) (v : ν) (k : κ) :
    (d.map fun q => if q.1 = key then (key, v) else q).lookup k =
      if k = key ∧ key ∈ d.map Prod.fst then some v else d.lookup k := by
  induction d with
  | nil => simp
  | cons q d ih =>
    obtain ⟨k', v'⟩ := q
    simp only [List.map_cons, List.lookup_cons, List.mem_cons]
    by_cases hq : k' = key
    · subst hq
      by_cases hk : k = k'
      · simp [hk]
      · have hkq : (k == k') = false := by simpa using hk
        simp only [↓reduceIte, List.lookup_cons, hkq, ih, hk, false_and]
    · by_cases hk : k = k'
      · subst hk
        simp [hq]
      · have hkq : (k == k') = false := by simpa using hk
        have hpq : key ≠ k' := fun h => hq h.symm
        simp only [hq, ↓reduceIte, List.lookup_cons, hkq, ih, hpq, false_or]

theorem lookup_dictSet [DecidableEq κ] (d : List (κ × ν)) (p : κ × ν) (k : κ) :
    (dictSet d p).lookup k = if k = p.1 then some p.2 else d.lookup k := by
  obtain ⟨key, v⟩ := p
  by_cases hmem : key ∈ d.map Prod.fst
  · rw [dictSet, if_pos hmem, lookup_replace]
    simp only [hmem, and_true]
  · rw [dictSet, if_neg hmem, List.lookup_append]
    by_cases hk : k = key
    · subst hk
      have hnone : d.lookup k = none := by
        refine List.lookup_eq_none_iff.2 fun q hq => ?_
        have hne : k ≠ q.1 := fun h => hmem (h ▸ List.mem_map_of_mem hq)
        simpa using hne
      simp [hnone]
    · have hkp : (k == key) = false := by simpa using hk
      simp [hk, List.lookup_cons, hkp]

theorem dictSet_keys [DecidableEq κ] {d : List (κ × ν)} (h : (d.map Prod.fst).Nodup)
    (p : κ × ν) : ((dictSet d p).map Prod.fst).Nodup := by
  by_cases hmem : p.1 ∈ d.map Prod.fst
  · have hkeys : (d.map fun q => if q.1 = p.1 then p else q).map Prod.fst = d.map Prod.fst := by
      rw [List.map_map]
      refine List.map_congr_left fun q _ => ?_
      by_cases hq : q.1 = p.1 <;> simp [hq]
    rw [dictSet, if_pos hmem, hkeys]
    exact h
  · rw [dictSet, if_neg hmem, List.map_append, List.map_singleton, ← List.concat_eq_append]
    exact h.concat hmem

theorem foldl_dictSet_spec [DecidableEq κ] {d l : List (κ × ν)} (h : (d.map Prod.fst).Nodup) :
    ((l.foldl dictSet d).map Prod.fst).Nodup ∧
      ∀ k, (l.foldl dictSet d).lookup k = (l.reverse.lookup k).or (d.lookup k) := by
  induction l generalizing d with
  | nil => exact ⟨h, fun k => rfl⟩
  | cons p l ih =>
    obtain ⟨key, v⟩ := p
    obtain ⟨hkeys, hlookup⟩ := ih (dictSet_keys h (key, v))
    refine ⟨hkeys, fun k => ?_⟩
    rw [List.foldl_cons, hlookup, lookup_dictSet, List.reverse_cons, List.lookup_append]
    by_cases hk : k = key
    · simp [hk]
    · have hkp : (k == key) = false := by simpa using hk
      simp [hk, List.lookup_cons, hkp]

theorem dictOf_keys [DecidableEq κ] (l : List (κ × ν)) : ((dictOf l).map Prod.fst).Nodup :=
  (foldl_dictSet_spec (d := []) List.nodup_nil).1

/-- A dict holds the last value of each key. -/
theorem lookup_dictOf [DecidableEq κ] (l : List (κ × ν)) (k : κ) :
    (dictOf l).lookup k = l.reverse.lookup k := by
  rw [dictOf, (foldl_dictSet_spec (d := []) List.nodup_nil).2, List.lookup_nil, Option.or_none]

theorem mem_dictOf [DecidableEq κ] {l : List (κ × ν)} :
    (k, v) ∈ dictOf l ↔ l.reverse.lookup k = some v := by
  rw [← lookup_dictOf, lookup_eq_some_iff (dictOf_keys l)]

theorem lookup_filter_key [DecidableEq κ] (q : κ → Bool) (l : List (κ × ν)) (k : κ) :
    (l.filter fun p => q p.1).lookup k = if q k then l.lookup k else none := by
  induction l with
  | nil => simp
  | cons p l ih =>
    obtain ⟨key, v⟩ := p
    by_cases hk : k = key
    · subst hk
      by_cases hq : q k
      · simp [hq]
      · simp [hq, ih]
    · have hkp : (k == key) = false := by simpa using hk
      by_cases hq : q key
      · simp only [List.filter_cons, hq, ↓reduceIte, List.lookup_cons, hkp, ih]
      · simp only [List.filter_cons, hq, Bool.false_eq_true, ↓reduceIte, List.lookup_cons, hkp, ih]

theorem mem_of_lookup [DecidableEq κ] {l : List (κ × ν)} (h : l.lookup k = some v) :
    (k, v) ∈ l := by
  obtain ⟨l₁, l₂, rfl, _⟩ := List.lookup_eq_some_iff.1 h
  simp

/-- Where every occurrence of a key has the same value, a lookup finds it. -/
theorem lookup_iff_mem [DecidableEq κ] {l : List (κ × ν)} {k : κ}
    (h : ∀ v v', (k, v) ∈ l → (k, v') ∈ l → v = v') : l.lookup k = some v ↔ (k, v) ∈ l := by
  refine ⟨mem_of_lookup, fun hmem => ?_⟩
  cases hlookup : l.lookup k with
  | none => exact absurd (List.lookup_eq_none_iff.1 hlookup _ hmem) (by simp)
  | some v' => rw [h v v' hmem (mem_of_lookup hlookup)]

end Library
