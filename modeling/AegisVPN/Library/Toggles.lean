import Mathlib.Data.List.Basic

namespace Library
set_option autoImplicit true

/-! ## What is turned on and off along a list -/

/-- The end of a list along which something is turned on at some places and off at others. -/
def Toggled (on off : α → Prop) : Prop → List α → Prop
  | h, [] => h
  | h, a :: l => Toggled on off ((h ∨ on a) ∧ ¬off a) l

theorem toggled_congr {on off : α → Prop} {h h' : Prop} (hiff : h ↔ h') (l : List α) :
    Toggled on off h l ↔ Toggled on off h' l := by
  rw [propext hiff]

theorem toggled_map {on off : β → Prop} {f : α → β} {h : Prop} (l : List α) :
    Toggled on off h (l.map f) ↔ Toggled (fun a => on (f a)) (fun a => off (f a)) h l := by
  induction l generalizing h with
  | nil => exact Iff.rfl
  | cons a l ih => exact ih

theorem toggled_untouched {on off : α → Prop} {h : Prop} (hnone : ∀ a ∈ l, ¬on a ∧ ¬off a) :
    Toggled on off h l ↔ h := by
  induction l generalizing h with
  | nil => exact Iff.rfl
  | cons b l ih =>
    obtain ⟨hon, hoff⟩ := hnone b List.mem_cons_self
    rw [Toggled, ih fun a ha => hnone a (List.mem_cons_of_mem _ ha), or_iff_left hon,
      and_iff_left hoff]

theorem not_toggled {on off : α → Prop} (hon : ∀ a ∈ l, ¬on a) {h : Prop}
    (hoff : h → ∃ a ∈ l, off a) : ¬Toggled on off h l := by
  induction l generalizing h with
  | nil =>
    intro hh
    obtain ⟨a, ha, -⟩ := hoff hh
    cases ha
  | cons b l ih =>
    refine ih (fun a ha => hon a (List.mem_cons_of_mem _ ha)) fun hb => ?_
    obtain ⟨a, ha, hoffa⟩ := hoff (hb.1.resolve_right (hon b List.mem_cons_self))
    rcases List.mem_cons.1 ha with rfl | ha
    · exact absurd hoffa hb.2
    · exact ⟨a, ha, hoffa⟩

theorem pair_sublist_cons {a b c : α} {l : List α} (hne : c ≠ a) :
    [a, b].Sublist (c :: l) ↔ [a, b].Sublist l := by
  refine ⟨fun h => ?_, fun h => h.cons c⟩
  cases h with
  | cons _ h => exact h
  | cons_cons _ h => exact absurd rfl hne

/-- What is on at first, or turned on somewhere, is on at the end if and only if it is turned on
after every place where it is turned off. -/
theorem toggled_iff {on off : α → Prop} {h : Prop} (hl : l.Nodup)
    (hsome : h ∨ ∃ a ∈ l, on a) :
    Toggled on off h l ↔ ∀ a ∈ l, off a → ∃ b, on b ∧ [a, b].Sublist l := by
  induction l generalizing h with
  | nil =>
    rcases hsome with hh | ⟨a, ha, -⟩
    · exact iff_of_true hh fun a ha => by cases ha
    · cases ha
  | cons c l ih =>
    obtain ⟨hc, hl⟩ := List.nodup_cons.1 hl
    have hrest : ∀ a ∈ l, (∃ b, on b ∧ [a, b].Sublist (c :: l)) ↔
        ∃ b, on b ∧ [a, b].Sublist l := by
      intro a ha
      have hne : c ≠ a := fun heq => hc (heq ▸ ha)
      exact exists_congr fun b => and_congr_right fun _ => pair_sublist_cons hne
    have hfirst : ∀ b, [c, b].Sublist (c :: l) ↔ b ∈ l := by
      intro b
      rw [List.cons_sublist_cons, List.singleton_sublist]
    rw [List.forall_mem_cons, Toggled]
    simp only [hfirst]
    have hcongr : (∀ a ∈ l, off a → ∃ b, on b ∧ [a, b].Sublist (c :: l)) ↔
        ∀ a ∈ l, off a → ∃ b, on b ∧ [a, b].Sublist l :=
      forall₂_congr fun a ha => imp_congr_right fun _ => hrest a ha
    rw [hcongr]
    by_cases hoff : off c
    · by_cases hlater : ∃ a ∈ l, on a
      · rw [ih hl (.inr hlater)]
        obtain ⟨b, hb, honb⟩ := hlater
        exact ⟨fun hall => ⟨fun _ => ⟨b, honb, hb⟩, hall⟩, fun hall => hall.2⟩
      · refine iff_of_false (not_toggled (fun a ha hon => hlater ⟨a, ha, hon⟩) ?_) fun hall => ?_
        · exact fun hb => absurd hoff hb.2
        · obtain ⟨b, hon, hb⟩ := hall.1 hoff
          exact hlater ⟨b, hb, hon⟩
    · rw [ih hl]
      · exact ⟨fun hall => ⟨fun hc => absurd hc hoff, hall⟩, fun hall => hall.2⟩
      · rcases hsome with hh | ⟨a, ha, hon⟩
        · exact .inl ⟨.inl hh, hoff⟩
        · rcases List.mem_cons.1 ha with rfl | ha
          · exact .inl ⟨.inr hon, hoff⟩
          · exact .inr ⟨a, ha, hon⟩

end Library
