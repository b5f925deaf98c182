import AegisVPN.Library.JoinedLines
import AegisVPN.Library.PyInts
import Mathlib.Data.List.DropRight

/-! # The lines of a text -/

namespace Library
set_option autoImplicit true

/-! ## Small letters -/

theorem toLower_char_again (c : Char) : c.toLower.toLower = c.toLower := by
  have hother : ∀ {c : Char}, ¬ (c.val ≥ 'A'.val ∧ c.val ≤ 'Z'.val) → c.toLower = c :=
    fun h => dif_neg h
  by_cases h : c.val ≥ 'A'.val ∧ c.val ≤ 'Z'.val
  · have hlower : c.toLower.val = c.val + 32 := congrArg Char.val (dif_pos h)
    apply hother
    rw [hlower]
    simp only [ge_iff_le, UInt32.le_iff_toNat_le, Char.reduceVal, UInt32.reduceToNat,
      UInt32.toNat_add] at h ⊢
    omega
  · rw [hother h, hother h]

theorem toLower_again (s : String) : s.toLower.toLower = s.toLower := by
  have hmap : s.toLower.toLower = s.map (Char.toLower ∘ Char.toLower) := String.map_map
  rw [hmap]
  exact congrArg (fun f => s.map f) (funext toLower_char_again)

/-- `str.lower`, which changes nothing a second time. -/
structure Lowering where
  apply : List Char → List Char
  again : ∀ text, apply (apply text) = apply text

/-- What it does to ASCII texts. -/
def asciiLower : Lowering where
  apply text := text.map Char.toLower
  again text := by
    rw [List.map_map]
    exact List.map_congr_left fun c _ => toLower_char_again c

/-! ## Blanks -/

/-- What is stripped from a text: the blanks around a number, and the ASCII separators. -/
def isTextBlank (c : Char) : Bool :=
  isPySpace c || (0x1C ≤ c.toNat && c.toNat ≤ 0x1F)

def strip (text : List Char) : List Char := (text.dropWhile isTextBlank).rdropWhile isTextBlank

theorem strip_nil : strip [] = [] := rfl

theorem strip_append_left (h : ∀ c ∈ blanks, isTextBlank c = true) :
    strip (blanks ++ text) = strip text := by
  rw [strip, List.dropWhile_append_of_pos h, ← strip]

theorem strip_split (text : List Char) : ∃ before after, text = before ++ (strip text ++ after) ∧
    (∀ c ∈ before, isTextBlank c = true) ∧ ∀ c ∈ after, isTextBlank c = true := by
  refine ⟨text.takeWhile isTextBlank, (text.dropWhile isTextBlank).rtakeWhile isTextBlank,
    ?_, ?_, ?_⟩
  · rw [strip, List.rdropWhile_append_rtakeWhile, List.takeWhile_append_dropWhile]
  · intro c hc
    exact List.mem_takeWhile_imp hc
  · intro c hc
    exact List.mem_rtakeWhile_imp hc

theorem strip_eq_self (hhead : ∀ c ∈ text.head?, isTextBlank c = false)
    (hlast : ∀ c ∈ text.getLast?, isTextBlank c = false) : strip text = text := by
  have hdrop : text.dropWhile isTextBlank = text := by
    cases text with
    | nil => rfl
    | cons c text => rw [List.dropWhile_cons_of_neg (by simp [hhead c rfl])]
  rw [strip, hdrop, List.rdropWhile_eq_self_iff]
  intro hne
  rw [hlast _ (List.getLast?_eq_some_getLast hne)]
  exact Bool.false_ne_true

theorem head_strip (hc : c ∈ (strip text).head?) : isTextBlank c = false := by
  have hfirst : c ∈ (text.dropWhile isTextBlank).head? := by
    obtain ⟨after, hafter⟩ := List.rdropWhile_prefix isTextBlank (text.dropWhile isTextBlank)
    rw [← hafter, List.head?_append, Option.mem_def]
    rw [strip, Option.mem_def] at hc
    rw [hc]
    rfl
  have hnot := List.head?_dropWhile_not isTextBlank text
  rw [hfirst] at hnot
  simpa using hnot

theorem last_strip (hc : c ∈ (strip text).getLast?) : isTextBlank c = false := by
  have hne : strip text ≠ [] := by
    rintro hnil
    rw [hnil] at hc
    cases hc
  rw [List.getLast?_eq_some_getLast hne, Option.mem_def, Option.some.injEq] at hc
  have hnot := List.rdropWhile_last_not isTextBlank (text.dropWhile isTextBlank) hne
  rw [← hc]
  simpa [strip] using hnot

theorem head_strip_cons (h : isTextBlank c = false) : (strip (c :: text)).head? = some c := by
  have hkept : (c :: text).rdropWhile isTextBlank ≠ [] := by
    intro hnil
    rw [List.rdropWhile_eq_nil_iff] at hnil
    rw [hnil c List.mem_cons_self] at h
    cases h
  rw [strip, List.dropWhile_cons_of_neg (by simp [h])]
  obtain ⟨after, hafter⟩ := List.rdropWhile_prefix isTextBlank (c :: text)
  obtain ⟨first, rest, heq⟩ := List.exists_cons_of_ne_nil hkept
  rw [heq] at hafter ⊢
  cases hafter
  rfl

theorem mem_strip (h : isTextBlank c = false) : c ∈ strip text ↔ c ∈ text := by
  obtain ⟨before, after, heq, hbefore, hafter⟩ := strip_split text
  constructor
  · intro hc
    rw [heq]
    exact List.mem_append_right _ (List.mem_append_left _ hc)
  · intro hc
    rw [heq, List.mem_append, List.mem_append] at hc
    rcases hc with hc | hc | hc
    · rw [hbefore c hc] at h
      cases h
    · exact hc
    · rw [hafter c hc] at h
      cases h

/-- What stands before a sign that is no blank is stripped alike from the stripped text. -/
theorem strip_takeWhile_strip (hsign : isTextBlank sign = false) (h : sign ∈ text) :
    strip ((strip text).takeWhile fun c => c != sign) =
      strip (text.takeWhile fun c => c != sign) := by
  obtain ⟨before, after, heq, hbefore, -⟩ := strip_split text
  have hmem : sign ∈ strip text := (mem_strip hsign).2 h
  have hdiffer : ∀ c ∈ before, (c != sign) = true := by
    intro c hc
    rw [bne_iff_ne]
    rintro rfl
    rw [hbefore c hc] at hsign
    cases hsign
  have hstop : (strip text ++ after).takeWhile (fun c => c != sign) =
      (strip text).takeWhile fun c => c != sign := by
    rw [List.takeWhile_append, if_neg]
    intro hlength
    have hall := List.takeWhile_eq_self_iff.1
      ((List.takeWhile_prefix fun c => c != sign).eq_of_length hlength) sign hmem
    simp at hall
  have htake : text.takeWhile (fun c => c != sign) =
      before ++ (strip text).takeWhile fun c => c != sign := by
    conv_lhs => rw [heq]
    rw [List.takeWhile_append_of_pos hdiffer, hstop]
  rw [htake, strip_append_left hbefore]

/-! ## Lines -/

/-- Where Python breaks a text into lines. -/
def isLineBreak (c : Char) : Bool :=
  [0x0A, 0x0B, 0x0C, 0x0D, 0x1C, 0x1D, 0x1E, 0x85, 0x2028, 0x2029].contains c.toNat

/-- The lines of a text. The break after the last line begins no further line. -/
def splitLines : List Char → List (List Char)
  | [] => []
  | '\r' :: '\n' :: text => [] :: splitLines text
  | c :: text =>
    if isLineBreak c then [] :: splitLines text
    else match splitLines text with
      | [] => [[c]]
      | line :: lines => (c :: line) :: lines

/-- A text is a part of one line. -/
def OneLine (text : List Char) : Prop := ∀ c ∈ text, isLineBreak c = false

theorem oneLine_of_all (h : text.all (fun c => !isLineBreak c) = true) : OneLine text := by
  intro c hc
  simpa using List.all_eq_true.1 h c hc

theorem splitLines_line (h : OneLine line) :
    splitLines (line ++ '\n' :: text) = line :: splitLines text := by
  induction line with
  | nil => rfl
  | cons c line ih =>
    have hc : isLineBreak c = false := h c List.mem_cons_self
    have hne : c ≠ '\r' := by
      rintro rfl
      cases hc
    rw [List.cons_append, splitLines, hc, ih fun d hd => h d (List.mem_cons_of_mem _ hd)]
    · rfl
    · intro text hr
      exact absurd hr hne

theorem oneLine_of_mem_splitLines (h : line ∈ splitLines text) : OneLine line := by
  induction text using splitLines.induct generalizing line with
  | case1 => cases h
  | case2 text ih =>
    rw [splitLines] at h
    cases h with
    | head => exact List.forall_mem_nil _
    | tail _ hmem => exact ih hmem
  | case3 c text hr hbreak ih =>
    rw [splitLines, if_pos hbreak] at h
    · cases h with
      | head => exact List.forall_mem_nil _
      | tail _ hmem => exact ih hmem
    · exact hr
  | case4 c text hr hbreak hnil ih =>
    rw [splitLines, if_neg hbreak, hnil] at h
    · rw [List.mem_singleton.1 h]
      intro d hd
      rw [List.mem_singleton.1 hd]
      simpa using hbreak
    · exact hr
  | case5 c text hr hbreak first lines hlines ih =>
    rw [splitLines, if_neg hbreak, hlines] at h
    · cases h with
      | head =>
        intro d hd
        cases hd with
        | head => simpa using hbreak
        | tail _ hmem => exact ih (hlines ▸ List.mem_cons_self) d hmem
      | tail _ hmem => exact ih (hlines ▸ List.mem_cons_of_mem _ hmem)
    · exact hr

theorem joinedLines_break (lines : List (List Char)) (h : lines ≠ []) :
    joinedLines lines ++ ['\n'] = lines.flatMap fun line => line ++ ['\n'] := by
  induction lines with
  | nil => exact absurd rfl h
  | cons line lines ih =>
    by_cases hrest : lines = []
    · rw [hrest, joinedLines_singleton]
      simp
    · rw [joinedLines_cons line hrest, List.append_assoc, List.cons_append, ih hrest,
        List.flatMap_cons, List.append_assoc]
      rfl

/-- Lines that are joined are split into the same again. -/
theorem splitLines_joined {lines : List (List Char)} (h : ∀ line ∈ lines, OneLine line) :
    splitLines (joinedLines lines ++ ['\n']) = if lines = [] then [[]] else lines := by
  by_cases hnil : lines = []
  · rw [hnil]
    rfl
  · rw [if_neg hnil, joinedLines_break lines hnil]
    clear hnil
    induction lines with
    | nil => rfl
    | cons line lines ih =>
      rw [List.flatMap_cons, List.append_assoc, List.singleton_append,
        splitLines_line (h line List.mem_cons_self),
        ih fun other hother => h other (List.mem_cons_of_mem _ hother)]

end Library
