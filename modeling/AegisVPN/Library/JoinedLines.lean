import AegisVPN.Library.Digits

/-! # Texts that are joined from lines -/

namespace Library
set_option autoImplicit true

def joinedLines (lines : List (List Char)) : List Char := ['\n'].intercalate lines

theorem joinedLines_cons (line : List Char) {lines : List (List Char)} (h : lines ≠ []) :
    joinedLines (line :: lines) = line ++ '\n' :: joinedLines lines := by
  obtain ⟨next, rest, rfl⟩ := List.exists_cons_of_ne_nil h
  simp only [joinedLines, List.intercalate_cons_cons, List.append_assoc, List.singleton_append]

theorem joinedLines_singleton (line : List Char) : joinedLines [line] = line :=
  List.intercalate_singleton

theorem joinedLines_split {lines : List (List Char)} (hlines : ∀ l ∈ lines, '\n' ∉ l)
    (h : e ++ '\n' :: t = joinedLines lines) :
    ∃ front back, lines = front ++ back ∧ front ≠ [] ∧ back ≠ [] ∧ e = joinedLines front ∧
      t = joinedLines back := by
  induction lines generalizing e with
  | nil => exact absurd h (List.append_ne_nil_of_right_ne_nil _ (List.cons_ne_nil _ _))
  | cons line lines ih =>
    have hline := hlines line List.mem_cons_self
    by_cases hrest : lines = []
    · subst hrest
      rw [joinedLines_singleton] at h
      apply absurd _ hline
      rw [← h]
      exact List.mem_append_right _ List.mem_cons_self
    · rw [joinedLines_cons line hrest] at h
      by_cases hbreak : '\n' ∈ e
      · -- the first line ends inside of the first side
        obtain ⟨e₁, e₂, rfl, hfirst⟩ := List.eq_append_cons_of_mem hbreak
        rw [List.append_assoc, List.cons_append] at h
        obtain ⟨rfl, hlater⟩ := eq_of_separated hfirst hline h
        obtain ⟨front, back, rfl, hfront, hback, rfl, rfl⟩ :=
          ih (fun l hl => hlines l (List.mem_cons_of_mem _ hl)) hlater
        exact ⟨e₁ :: front, back, rfl, List.cons_ne_nil _ _, hback,
          (joinedLines_cons e₁ hfront).symm, rfl⟩
      · obtain ⟨rfl, rfl⟩ := eq_of_separated hbreak hline h
        exact ⟨[e], lines, rfl, List.cons_ne_nil _ _, hrest, (joinedLines_singleton e).symm, rfl⟩

theorem joinedLines_ne_nil {lines : List (List Char)} (hl : l ∈ lines) (hsome : l ≠ []) :
    joinedLines lines ≠ [] := by
  obtain ⟨line, rest, rfl⟩ := List.exists_cons_of_ne_nil (List.ne_nil_of_mem hl)
  by_cases hrest : rest = []
  · subst hrest
    rw [joinedLines_singleton, ← List.mem_singleton.1 hl]
    exact hsome
  · rw [joinedLines_cons line hrest]
    exact List.append_ne_nil_of_right_ne_nil _ (List.cons_ne_nil _ _)

theorem joinedLines_entry {entries lines : List (List Char)} (hlines : ∀ l ∈ lines, '\n' ∉ l)
    (hsome : lines ≠ []) (h : joinedLines entries = joinedLines lines) (he : e ∈ entries) :
    ∃ block, block ≠ [] ∧ (∀ l ∈ block, l ∈ lines) ∧ e = joinedLines block := by
  induction entries generalizing lines with
  | nil => exact absurd he List.not_mem_nil
  | cons entry entries ih =>
    by_cases hrest : entries = []
    · subst hrest
      obtain rfl := List.mem_singleton.1 he
      rw [joinedLines_singleton] at h
      exact ⟨lines, hsome, fun _ hl => hl, h⟩
    · rw [joinedLines_cons entry hrest] at h
      obtain ⟨front, back, rfl, hfront, hback, rfl, hlater⟩ := joinedLines_split hlines h
      obtain rfl | he := List.mem_cons.1 he
      · exact ⟨front, hfront, fun l hl => List.mem_append_left _ hl, rfl⟩
      · obtain ⟨block, hblock, hmem, rfl⟩ := ih
          (fun l hl => hlines l (List.mem_append_right _ hl)) hback hlater he
        exact ⟨block, hblock, fun l hl => List.mem_append_right _ (hmem l hl), rfl⟩

/-! ## Fields -/

/-- A field as a line. -/
def fieldLine (field : List Char × List Char) : List Char := field.1 ++ '=' :: field.2

/-- Fields whose names have no equals sign and that are lines each. -/
structure PlainFields (fields : List (List Char × List Char)) : Prop where
  names : ∀ f ∈ fields, '=' ∉ f.1 ∧ '\n' ∉ f.1
  values : ∀ f ∈ fields, '\n' ∉ f.2

theorem PlainFields.line (h : PlainFields fields) (hf : f ∈ fields) : '\n' ∉ fieldLine f := by
  rw [fieldLine, List.mem_append, List.mem_cons, not_or, not_or]
  exact ⟨(h.names f hf).2, by decide, h.values f hf⟩

/-- Whoever splits the lines of plain fields otherwise finds under a name what the fields have, or
this with further lines below it, the first of which begins with another field's name. -/
theorem field_of_joined {fields entries : List (List Char × List Char)} (h : PlainFields fields)
    (hsame : joinedLines (entries.map fieldLine) = joinedLines (fields.map fieldLine))
    (he : (name, text) ∈ entries) (hname : '=' ∉ name) :
    ∃ value, (name, value) ∈ fields ∧ (text = value ∨
      ∃ f ∈ fields, ∃ rest, text = value ++ '\n' :: (f.1 ++ '=' :: rest)) := by
  have hlines : ∀ l ∈ fields.map fieldLine, '\n' ∉ l := by
    intro l hl
    obtain ⟨f, hf, rfl⟩ := List.mem_map.1 hl
    exact h.line hf
  have hne : fields.map fieldLine ≠ [] := by
    intro hnil
    have hentry := List.mem_map_of_mem (f := fieldLine) he
    apply joinedLines_ne_nil hentry (List.append_ne_nil_of_right_ne_nil _ (List.cons_ne_nil _ _))
    rw [hsame, hnil]
    rfl
  obtain ⟨block, hblock, hmem, heq⟩ :=
    joinedLines_entry hlines hne hsame (List.mem_map_of_mem (f := fieldLine) he)
  obtain ⟨line, below, rfl⟩ := List.exists_cons_of_ne_nil hblock
  obtain ⟨f, hf, rfl⟩ := List.mem_map.1 (hmem line List.mem_cons_self)
  obtain ⟨fname, value⟩ := f
  have hfname : '=' ∉ fname := (h.names _ hf).1
  by_cases hbelow : below = []
  · subst hbelow
    rw [joinedLines_singleton] at heq
    obtain ⟨rfl, rfl⟩ := eq_of_separated hname hfname heq
    exact ⟨text, hf, .inl rfl⟩
  · rw [joinedLines_cons _ hbelow] at heq
    simp only [fieldLine, List.append_assoc, List.cons_append] at heq
    obtain ⟨rfl, rfl⟩ := eq_of_separated hname hfname heq
    refine ⟨value, hf, .inr ?_⟩
    obtain ⟨next, others, rfl⟩ := List.exists_cons_of_ne_nil hbelow
    obtain ⟨g, hg, rfl⟩ :=
      List.mem_map.1 (hmem next (List.mem_cons_of_mem _ List.mem_cons_self))
    by_cases hothers : others = []
    · subst hothers
      exact ⟨g, hg, g.2, by rw [joinedLines_singleton]; rfl⟩
    · refine ⟨g, hg, g.2 ++ '\n' :: joinedLines others, ?_⟩
      rw [joinedLines_cons _ hothers, fieldLine]
      simp only [List.append_assoc, List.cons_append]

end Library
