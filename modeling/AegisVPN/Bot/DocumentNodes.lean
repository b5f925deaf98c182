import AegisVPN.Bot.Telegraph
import AegisVPN.Library.TextLines

/-! # The nodes of a document -/

namespace AegisVPN
open Library
set_option autoImplicit true

/-! ## Bold text -/

/-- What stands before the first mark, and what stands after it. -/
def cutAt (mark : List Char) : List Char → Option (List Char × List Char)
  | [] => none
  | c :: text =>
    if mark.isPrefixOf (c :: text) then some ([], (c :: text).drop mark.length)
    else (cutAt mark text).map fun cut => (c :: cut.1, cut.2)

theorem cutAt_spec (h : cutAt mark text = some cut) : text = cut.1 ++ mark ++ cut.2 := by
  induction text generalizing cut with
  | nil => cases h
  | cons c text ih =>
    rw [cutAt] at h
    split at h
    · rename_i hmark
      cases h
      obtain ⟨rest, hrest⟩ := List.isPrefixOf_iff_prefix.1 hmark
      rw [← hrest, List.drop_left, List.nil_append]
    · obtain ⟨later, hlater, rfl⟩ := Option.map_eq_some_iff.1 h
      rw [ih hlater]
      rfl

def stars : List Char := ['*', '*']
def boldStart : List Char := ['<', 'b', '>']
def boldEnd : List Char := ['<', '/', 'b', '>']

/-- A bold text in stars, which has one character at least, and what follows it. -/
def starredCut (text : List Char) : Option (List Char × List Char) :=
  if stars.isPrefixOf text then
    match text.drop 2 with
    | [] => none
    | c :: rest => (cutAt stars rest).map fun cut => (c :: cut.1, cut.2)
  else none

/-- A bold text in tags, and what follows it. -/
def taggedCut (text : List Char) : Option (List Char × List Char) :=
  if boldStart.isPrefixOf text then cutAt boldEnd (text.drop 3) else none

theorem starredCut_spec (h : starredCut text = some cut) :
    text = stars ++ cut.1 ++ stars ++ cut.2 := by
  rw [starredCut] at h
  split at h
  · rename_i hmark
    obtain ⟨rest, rfl⟩ := List.isPrefixOf_iff_prefix.1 hmark
    cases rest with
    | nil => cases h
    | cons c rest =>
      obtain ⟨later, hlater, rfl⟩ := Option.map_eq_some_iff.1 h
      rw [cutAt_spec hlater]
      simp only [List.append_assoc, List.cons_append]
  · cases h

theorem taggedCut_spec (h : taggedCut text = some cut) :
    text = boldStart ++ cut.1 ++ boldEnd ++ cut.2 := by
  rw [taggedCut] at h
  split at h
  · rename_i hmark
    obtain ⟨rest, rfl⟩ := List.isPrefixOf_iff_prefix.1 hmark
    have hcut : cutAt boldEnd rest = some cut := h
    rw [cutAt_spec hcut]
    simp only [List.append_assoc]
  · cases h

/-- Stars become tags. -/
def boldTags : List Char → List Char
  | [] => []
  | c :: text =>
    match _h : starredCut (c :: text) with
    | some cut => boldStart ++ cut.1 ++ boldEnd ++ boldTags cut.2
    | none => c :: boldTags text
termination_by text => text.length
decreasing_by
  · rw [starredCut_spec _h]
    simp only [stars, List.length_append, List.length_cons]
    omega
  · exact Nat.lt_succ_self _

/-! ## Nodes -/

def textNode (text : List Char) : Json := .str (String.ofList text)

def tagNode (tag : String) (children : List Json) : Json :=
  .obj [("tag", .str tag), ("children", .arr children)]

def plainChild (text : List Char) : List Json := if text = [] then [] else [textNode text]

/-- The texts before, between and after the bold ones, with the plain text so far. -/
def boldChildren (plain : List Char) : List Char → List Json
  | [] => plainChild plain
  | c :: text =>
    match _h : taggedCut (c :: text) with
    | some cut => plainChild plain ++ tagNode "strong" [textNode cut.1] :: boldChildren [] cut.2
    | none => boldChildren (plain ++ [c]) text
termination_by text => text.length
decreasing_by
  · rw [taggedCut_spec _h]
    simp only [boldStart, List.length_append, List.length_cons]
    omega
  · exact Nat.lt_succ_self _

def inlineChildren (line : List Char) : List Json :=
  let line := boldTags line
  if boldChildren [] line = [] then [textNode line] else boldChildren [] line

/-- The marks of a heading, and its text. -/
def headingOf (line : List Char) : Option (List Char × List Char) :=
  let marks := line.takeWhile fun c => c == '#'
  let rest := line.drop marks.length
  if 1 ≤ marks.length ∧ marks.length ≤ 6 ∧ rest.head?.any isTextBlank then
    some (marks, rest.dropWhile isTextBlank)
  else none

/-- The text of a line that is in bold tags as a whole. -/
def wholeBold (line : List Char) : Option (List Char) :=
  if boldStart.isPrefixOf line ∧ boldEnd.isSuffixOf (line.drop 3) then
    some ((line.drop 3).take (line.length - 7))
  else none

def isBulletMark (c : Char) : Bool := ['-', '*', '•'].contains c

def bulletOf : List Char → Option (List Char)
  | mark :: rest =>
    if isBulletMark mark && rest.head?.any isTextBlank then some (rest.dropWhile isTextBlank)
    else none
  | [] => none

def lineNode (line : List Char) : Json :=
  if 3 ≤ line.length ∧ line.all (fun c => c == '-') then .obj [("tag", .str "hr")]
  else
    match headingOf line with
    | some heading =>
      tagNode (if heading.1.length ≤ 2 then "h3" else "h4") (inlineChildren heading.2)
    | none =>
      match wholeBold line with
      | some text => tagNode "h4" [textNode text]
      | none =>
        if line.head? = some '>' then tagNode "blockquote" (inlineChildren (strip line.tail))
        else
          match bulletOf line with
          | some text => tagNode "p" (inlineChildren ('•' :: ' ' :: text))
          | none => tagNode "p" (inlineChildren line)

def toNodes (text : List Char) : List Json :=
  ((text.splitOn '\n').map strip).filterMap fun line =>
    if line = [] then none else some (lineNode line)

/-! ## What a reader sees -/

mutual
/-- The texts in a node, one after the other. -/
def shownText : Json → List Char
  | .str text => text.toList
  | .arr values => shownTexts values
  | .obj fields => shownChildren fields
  | _ => []

def shownTexts : List Json → List Char
  | [] => []
  | value :: values => shownText value ++ shownTexts values

def shownChildren : List (String × Json) → List Char
  | [] => []
  | (name, value) :: fields =>
    (if name = "children" then shownText value else []) ++ shownChildren fields
end

/-- The characters that can mark something, and so can be missing or added. -/
def markupChars : List Char := ['*', '<', '>', '/', 'b', '#', '-', '•']

def isKept (c : Char) : Bool := !isTextBlank c && !markupChars.contains c

def kept (text : List Char) : List Char := text.filter isKept

theorem kept_append (text more : List Char) : kept (text ++ more) = kept text ++ kept more :=
  List.filter_append text more

theorem kept_eq_nil (h : ∀ c ∈ text, isKept c = false) : kept text = [] := by
  rw [kept, List.filter_eq_nil_iff]
  intro c hc
  rw [h c hc]
  exact Bool.false_ne_true

theorem shownTexts_append (values more : List Json) :
    shownTexts (values ++ more) = shownTexts values ++ shownTexts more := by
  induction values with
  | nil => rfl
  | cons value values ih => rw [List.cons_append, shownTexts, ih, shownTexts, List.append_assoc]

theorem shownText_textNode (text : List Char) : shownText (textNode text) = text := by
  rw [textNode, shownText, String.toList_ofList]

theorem shownText_tagNode (tag : String) (children : List Json) :
    shownText (tagNode tag children) = shownTexts children := by
  simp [tagNode, shownText, shownChildren]

theorem shownTexts_plainChild (text : List Char) : shownTexts (plainChild text) = text := by
  rw [plainChild]
  split
  · rename_i hnil
    rw [hnil, shownTexts]
  · rw [shownTexts, shownText_textNode, shownTexts, List.append_nil]

theorem kept_stars : kept stars = [] := by decide

theorem kept_boldStart : kept boldStart = [] := by decide

theorem kept_boldEnd : kept boldEnd = [] := by decide

theorem kept_boldTags (line : List Char) : kept (boldTags line) = kept line := by
  fun_induction boldTags line with
  | case1 => rfl
  | case2 c text cut hcut ih =>
    rw [starredCut_spec hcut]
    simp only [kept_append, kept_stars, kept_boldStart, kept_boldEnd, ih, List.nil_append,
      List.append_nil]
  | case3 c text hcut ih =>
    rw [kept, List.filter_cons, ← kept, ih, kept, kept, List.filter_cons]

theorem kept_boldChildren (plain line : List Char) :
    kept (shownTexts (boldChildren plain line)) = kept (plain ++ line) := by
  fun_induction boldChildren plain line with
  | case1 plain => rw [shownTexts_plainChild, List.append_nil]
  | case2 plain c text cut hcut ih =>
    rw [taggedCut_spec hcut, shownTexts_append, shownTexts_plainChild, shownTexts,
      shownText_tagNode, shownTexts, shownText_textNode, shownTexts]
    simp only [kept_append, kept_boldStart, kept_boldEnd, ih, List.nil_append, List.append_nil]
  | case3 plain c text hcut ih => rw [ih, List.append_assoc, List.singleton_append]

theorem kept_inlineChildren (line : List Char) :
    kept (shownTexts (inlineChildren line)) = kept line := by
  have hchildren := kept_boldChildren [] (boldTags line)
  rw [List.nil_append, kept_boldTags] at hchildren
  rw [inlineChildren]
  split
  · rw [shownTexts, shownText_textNode, shownTexts, List.append_nil, kept_boldTags]
  · exact hchildren

/-! ## Lines -/

theorem isKept_blank (h : isTextBlank c = true) : isKept c = false := by
  rw [isKept, h]
  rfl

theorem kept_strip (text : List Char) : kept (strip text) = kept text := by
  obtain ⟨before, after, heq, hbefore, hafter⟩ := strip_split text
  have hnil : ∀ {blanks : List Char}, (∀ c ∈ blanks, isTextBlank c = true) → kept blanks = [] :=
    fun h => kept_eq_nil fun c hc => isKept_blank (h c hc)
  conv_rhs => rw [heq]
  rw [kept_append, kept_append, hnil hbefore, hnil hafter, List.nil_append, List.append_nil]

theorem kept_dropBlanks (text : List Char) : kept (text.dropWhile isTextBlank) = kept text := by
  have hblanks : kept (text.takeWhile isTextBlank) = [] :=
    kept_eq_nil fun c hc => isKept_blank (List.mem_takeWhile_imp hc)
  have hsplit : text.takeWhile isTextBlank ++ text.dropWhile isTextBlank = text :=
    List.takeWhile_append_dropWhile
  conv_rhs => rw [← hsplit]
  rw [kept_append, hblanks, List.nil_append]

theorem kept_headingOf (h : headingOf line = some heading) : kept heading.2 = kept line := by
  unfold headingOf at h
  dsimp only at h
  split at h
  · cases h
    have hmarks : kept (line.takeWhile fun c => c == '#') = [] := by
      refine kept_eq_nil fun c hc => ?_
      have hmark := List.mem_takeWhile_imp hc
      rw [beq_iff_eq] at hmark
      rw [hmark]
      decide
    have hsplit : (line.takeWhile fun c => c == '#') ++ (line.dropWhile fun c => c == '#') = line :=
      List.takeWhile_append_dropWhile
    have hdrop : line.drop (line.takeWhile fun c => c == '#').length =
        line.dropWhile fun c => c == '#' := by
      have hleft : ((line.takeWhile fun c => c == '#') ++
          (line.dropWhile fun c => c == '#')).drop (line.takeWhile fun c => c == '#').length =
          line.dropWhile fun c => c == '#' := List.drop_left
      rwa [hsplit] at hleft
    have hkept : kept line = kept (line.dropWhile fun c => c == '#') := by
      conv_lhs => rw [← hsplit]
      rw [kept_append, hmarks, List.nil_append]
    rw [kept_dropBlanks, hdrop, hkept]
  · cases h

theorem kept_wholeBold (h : wholeBold line = some text) : kept text = kept line := by
  rw [wholeBold] at h
  split at h
  · rename_i hbold
    obtain ⟨rest, rfl⟩ := List.isPrefixOf_iff_prefix.1 hbold.1
    have hdrop : (boldStart ++ rest).drop 3 = rest := rfl
    rw [hdrop] at hbold h
    obtain ⟨inner, rfl⟩ := List.isSuffixOf_iff_suffix.1 hbold.2
    have hlength : (boldStart ++ (inner ++ boldEnd)).length - 7 = inner.length := by
      simp only [boldStart, boldEnd, List.length_append, List.length_cons, List.length_nil]
      omega
    rw [hlength, List.take_left] at h
    cases h
    rw [kept_append, kept_append, kept_boldStart, kept_boldEnd, List.nil_append, List.append_nil]
  · cases h

theorem kept_bulletOf (h : bulletOf line = some text) : kept text = kept line := by
  cases line with
  | nil => cases h
  | cons mark rest =>
    rw [bulletOf] at h
    split at h
    · rename_i hbullet
      cases h
      rw [Bool.and_eq_true] at hbullet
      have hmark : isKept mark = false := by
        have hmem : mark ∈ ['-', '*', '•'] := by simpa [isBulletMark] using hbullet.1
        simp only [List.mem_cons, List.not_mem_nil, or_false] at hmem
        rcases hmem with rfl | rfl | rfl <;> decide
      rw [kept_dropBlanks, kept, kept, List.filter_cons_of_neg (by simp [hmark])]
    · cases h

theorem kept_lineNode (line : List Char) : kept (shownText (lineNode line)) = kept line := by
  rw [lineNode]
  split
  · rename_i hrule
    symm
    refine kept_eq_nil fun c hc => ?_
    have hdash := List.all_eq_true.1 hrule.2 c hc
    rw [beq_iff_eq] at hdash
    rw [hdash]
    decide
  · split
    · rename_i heading hheading
      rw [shownText_tagNode, kept_inlineChildren, kept_headingOf hheading]
    · split
      · rename_i text hbold
        rw [shownText_tagNode, shownTexts, shownText_textNode, shownTexts, List.append_nil,
          kept_wholeBold hbold]
      · split
        · rename_i hquote
          obtain ⟨rest, rfl⟩ := List.head?_eq_some_iff.1 hquote
          rw [shownText_tagNode, kept_inlineChildren, List.tail_cons, kept_strip]
          rfl
        · split
          · rename_i text hbullet
            rw [shownText_tagNode, kept_inlineChildren, ← kept_bulletOf hbullet]
            rfl
          · rw [shownText_tagNode, kept_inlineChildren]

/-- The nodes show the characters of the document in their order, up to blanks and marks. -/
theorem kept_toNodes (text : List Char) : kept (shownTexts (toNodes text)) = kept text := by
  have hlines : ∀ lines : List (List Char), kept (shownTexts ((lines.map strip).filterMap
      fun line => if line = [] then none else some (lineNode line))) =
      kept (['\n'].intercalate lines) := by
    intro lines
    induction lines with
    | nil => rfl
    | cons line lines ih =>
      have hline : kept (shownTexts ((if strip line = [] then none
          else some (lineNode (strip line)) : Option Json).toList)) = kept line := by
        split
        · rename_i hnil
          rw [← kept_strip line, hnil]
          rfl
        · rw [Option.toList_some, shownTexts, shownTexts, List.append_nil, kept_lineNode,
            kept_strip]
      have hcons : ∀ {α β : Type} (f : α → Option β) (a : α) (l : List α),
          (a :: l).filterMap f = (f a).toList ++ l.filterMap f := by
        intro α β f a l
        cases h : f a <;> simp [h]
      rw [List.map_cons, hcons, shownTexts_append, kept_append, hline, ih]
      cases lines with
      | nil => rw [List.intercalate_singleton, List.intercalate_nil]; exact List.append_nil _
      | cons next rest =>
        have hbreak : kept ['\n'] = [] := by decide
        rw [List.intercalate_cons_cons, kept_append, kept_append, hbreak, List.append_nil]
  rw [toNodes, hlines, List.intercalate_splitOn]

end AegisVPN
