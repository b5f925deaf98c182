import Mathlib.Algebra.Ring.Nat
import AegisVPN.Library.Json

/-! # Pages of a long document -/

namespace AegisVPN
open Library
set_option autoImplicit true

/-! ## Serialised nodes -/

def listSeparated (parts : List (List Char)) : List Char := [',', ' '].intercalate parts

mutual
/-- What `json.dumps` makes of a value, with blanks after the separators. -/
def dumps : Json → List Char
  | .null => "null".toList
  | .bool b => if b then "true".toList else "false".toList
  | .int n => (toString n).toList
  | .float text => text.toList
  | .str s => Json.quote s
  | .arr values => '[' :: listSeparated (dumpsValues values) ++ [']']
  | .obj fields => '\x7b' :: listSeparated (dumpsFields fields) ++ ['\x7d']

def dumpsValues : List Json → List (List Char)
  | [] => []
  | value :: values => dumps value :: dumpsValues values

def dumpsFields : List (String × Json) → List (List Char)
  | [] => []
  | (name, value) :: fields => (Json.quote name ++ ':' :: ' ' :: dumps value) :: dumpsFields fields
end

/-! ## Chunks -/

def maxContentChars : Nat := 14000

/-- With the comma. -/
def nodeSize (node : Json) : Nat := (dumps node).length + 1

/-- The finished chunks, the nodes of the current one, and its size so far. -/
structure Chunking where
  chunks : List (List Json)
  current : List Json
  size : Nat

def Chunking.add (c : Chunking) (node : Json) : Chunking :=
  if c.current ≠ [] ∧ c.size + nodeSize node > maxContentChars then
    ⟨c.chunks ++ [c.current], [node], 2 + nodeSize node⟩
  else ⟨c.chunks, c.current ++ [node], c.size + nodeSize node⟩

def chunkNodes (nodes : List Json) : List (List Json) :=
  let c := nodes.foldl Chunking.add ⟨[], [], 2⟩
  c.chunks ++ [c.current]

/-! ## Sizes -/

/-- What the loop takes for the size of a page. -/
def estimate (page : List Json) : Nat := 2 + (page.map nodeSize).sum

def serialized (page : List Json) : Nat := (dumps (.arr page)).length

theorem listSeparated_length {parts : List (List Char)} (h : parts ≠ []) :
    (listSeparated parts).length + 2 = (parts.map fun part => part.length + 2).sum := by
  induction parts with
  | nil => exact absurd rfl h
  | cons part parts ih =>
    cases parts with
    | nil => simp [listSeparated]
    | cons next parts =>
      have hrest := ih (List.cons_ne_nil _ _)
      rw [listSeparated, List.intercalate_cons_cons, List.map_cons, List.sum_cons, ← hrest]
      simp only [List.length_append, listSeparated, List.length_cons, List.length_nil]
      omega

theorem dumpsValues_eq (values : List Json) : dumpsValues values = values.map dumps := by
  induction values with
  | nil => rfl
  | cons value values ih => rw [dumpsValues, ih, List.map_cons]

/-- A separator takes two characters, of which the loop counts one for each node. -/
theorem serialized_eq {page : List Json} (h : page ≠ []) :
    serialized page + 2 = estimate page + page.length := by
  have hparts : page.map dumps ≠ [] := fun hnil => h (List.map_eq_nil_iff.1 hnil)
  have hlength := listSeparated_length hparts
  have hsum : ((page.map dumps).map fun part => part.length + 2).sum =
      (page.map nodeSize).sum + page.length := by
    clear h hparts hlength
    induction page with
    | nil => rfl
    | cons node page ih =>
      simp only [List.map_cons, List.sum_cons, List.length_cons, ih, nodeSize]
      omega
  rw [serialized, dumps, dumpsValues_eq, estimate]
  simp only [List.length_cons, List.length_append, List.length_nil]
  omega

theorem estimate_append (page rest : List Json) :
    estimate (page ++ rest) = estimate page + (rest.map nodeSize).sum := by
  rw [estimate, List.map_append, List.sum_append, estimate, Nat.add_assoc]

theorem estimate_le {page longer : List Json} (h : page <+: longer) :
    estimate page ≤ estimate longer := by
  obtain ⟨rest, rfl⟩ := h
  rw [estimate_append]
  exact Nat.le_add_right _ _

/-! ## The pages, one after the other -/

/-- The rest of the loop, from a current page on. -/
def pagesFrom : List Json → List Json → List (List Json)
  | current, [] => [current]
  | current, node :: rest =>
    if current ≠ [] ∧ estimate (current ++ [node]) > maxContentChars then
      current :: pagesFrom [node] rest
    else pagesFrom (current ++ [node]) rest

theorem estimate_snoc (page : List Json) (node : Json) :
    estimate (page ++ [node]) = estimate page + nodeSize node := estimate_append page [node]

theorem add_pagesFrom (nodes : List Json) {c : Chunking} (h : c.size = estimate c.current) :
    (nodes.foldl Chunking.add c).chunks ++ [(nodes.foldl Chunking.add c).current] =
      c.chunks ++ pagesFrom c.current nodes := by
  induction nodes generalizing c with
  | nil => rfl
  | cons node rest ih =>
    rw [List.foldl_cons, Chunking.add, pagesFrom, estimate_snoc, ← h]
    split
    · rw [ih rfl, List.append_assoc, List.singleton_append]
    · rw [ih (by rw [estimate_snoc, h])]

theorem chunkNodes_eq (nodes : List Json) : chunkNodes nodes = pagesFrom [] nodes :=
  add_pagesFrom nodes (c := ⟨[], [], 2⟩) rfl

theorem pagesFrom_flatten (current rest : List Json) :
    (pagesFrom current rest).flatten = current ++ rest := by
  induction rest generalizing current with
  | nil => simp only [pagesFrom, List.flatten_cons, List.flatten_nil]
  | cons node rest ih =>
    rw [pagesFrom]
    split
    · rw [List.flatten_cons, ih, List.singleton_append]
    · rw [ih, List.append_assoc, List.singleton_append]

theorem pagesFrom_nonempty {current rest : List Json} (h : current ≠ [] ∨ rest ≠ []) :
    ∀ page ∈ pagesFrom current rest, page ≠ [] := by
  induction rest generalizing current with
  | nil =>
    intro page hpage
    rw [List.mem_singleton.1 hpage]
    exact h.resolve_right (absurd rfl)
  | cons node rest ih =>
    intro page hpage
    rw [pagesFrom] at hpage
    split at hpage
    · next hcut =>
      obtain rfl | hpage := List.mem_cons.1 hpage
      · exact hcut.1
      · exact ih (.inl (List.cons_ne_nil _ _)) page hpage
    · exact ih (.inl (List.append_ne_nil_of_right_ne_nil _ (List.cons_ne_nil _ _))) page hpage

/-- A page that is one node, or within the budget as the loop counts it. -/
def WithinCount (page : List Json) : Prop := 2 ≤ page.length → estimate page ≤ maxContentChars

theorem WithinCount.shorter (h : WithinCount longer) (hp : page <+: longer) : WithinCount page :=
  fun hlength => Nat.le_trans (estimate_le hp) (h (Nat.le_trans hlength hp.length_le))

/-- While a page is within the budget, the loop goes on with it. -/
theorem pagesFrom_counted (current : List Json) {more : List Json}
    (h : WithinCount (current ++ more)) (rest : List Json) :
    pagesFrom current (more ++ rest) = pagesFrom (current ++ more) rest := by
  induction more generalizing current with
  | nil => rw [List.nil_append, List.append_nil]
  | cons node more ih =>
    have happend : current ++ node :: more = (current ++ [node]) ++ more := by
      rw [List.append_assoc, List.singleton_append]
    rw [happend] at h ⊢
    rw [List.cons_append, pagesFrom, if_neg, ih _ h]
    rintro ⟨hsome, hover⟩
    have hlength : 2 ≤ (current ++ [node]).length := by
      rw [List.length_append, List.length_singleton]
      have hpos := List.length_pos_iff.2 hsome
      omega
    have hwithin := h.shorter (List.prefix_append _ _) hlength
    omega

/-- Where a page starts: at the first node, and at each node that no longer goes on the page that
started before it. -/
inductive StartsPage (nodes : List Json) : List Json → Prop
  | first : StartsPage nodes nodes
  | next {page : List Json} (h : StartsPage nodes (page ++ node :: rest)) (hsome : page ≠ [])
      (hcounted : WithinCount page) (hover : maxContentChars < estimate (page ++ [node])) :
      StartsPage nodes (node :: rest)

theorem StartsPage.pages (h : StartsPage nodes rest) :
    ∃ before, pagesFrom [] nodes = before ++ pagesFrom [] rest := by
  induction h with
  | first => exact ⟨[], rfl⟩
  | @next node rest page _ hsome hcounted hover ih =>
    obtain ⟨before, hbefore⟩ := ih
    refine ⟨before ++ [page], ?_⟩
    rw [hbefore, pagesFrom_counted [] hcounted, List.nil_append, pagesFrom,
      if_pos ⟨hsome, hover⟩, List.append_assoc, List.singleton_append]
    rw [pagesFrom, if_neg fun hcut => hcut.1 rfl]
    rfl

theorem pagesFrom_head (current rest : List Json) :
    ∃ page more, pagesFrom current rest = page :: more ∧ current <+: page := by
  induction rest generalizing current with
  | nil => exact ⟨current, [], rfl, List.prefix_refl _⟩
  | cons node rest ih =>
    rw [pagesFrom]
    split
    · exact ⟨current, _, rfl, List.prefix_refl _⟩
    · obtain ⟨page, more, heq, hp⟩ := ih (current ++ [node])
      exact ⟨page, more, heq, (List.prefix_append _ _).trans hp⟩

theorem StartsPage.holds (h : StartsPage nodes (page ++ rest)) (hcounted : WithinCount page) :
    ∃ longer ∈ pagesFrom [] nodes, page <+: longer := by
  obtain ⟨before, hbefore⟩ := h.pages
  obtain ⟨longer, more, hlonger, hp⟩ := pagesFrom_head page rest
  rw [pagesFrom_counted [] hcounted, List.nil_append, hlonger] at hbefore
  refine ⟨longer, ?_, hp⟩
  rw [hbefore]
  exact List.mem_append_right _ List.mem_cons_self

theorem pagesFrom_starts {current rest : List Json} (hstart : StartsPage nodes (current ++ rest))
    (hcounted : WithinCount current) : ∀ page ∈ pagesFrom current rest,
      WithinCount page ∧ ∃ after, StartsPage nodes (page ++ after) := by
  induction rest generalizing current with
  | nil =>
    intro page hpage
    rw [List.mem_singleton.1 hpage]
    exact ⟨hcounted, [], hstart⟩
  | cons node rest ih =>
    intro page hpage
    rw [pagesFrom] at hpage
    split at hpage
    · next hcut =>
      obtain rfl | hpage := List.mem_cons.1 hpage
      · exact ⟨hcounted, _, hstart⟩
      · apply ih _ _ page hpage
        · exact .next hstart hcut.1 hcounted hcut.2
        · intro hlength
          exact absurd hlength (Nat.not_succ_le_self 1)
    · next hgoes =>
      apply ih _ _ page hpage
      · rwa [List.append_assoc, List.singleton_append]
      · intro hlength
        apply Nat.le_of_not_lt
        intro hover
        apply hgoes ⟨_, hover⟩
        rintro rfl
        exact Nat.not_succ_le_self 1 hlength

/-! ## The budget -/

/-- The pages are the nodes in their order, none is empty without need, and each page of more than
one node is within the budget. -/
structure Paged (nodes : List Json) (pages : List (List Json)) : Prop where
  flatten : pages.flatten = nodes
  nonempty : nodes ≠ [] → ∀ page ∈ pages, page ≠ []
  budget : ∀ page ∈ pages, 1 < page.length → serialized page ≤ maxContentChars

/-- The loop counts one character for a separator of two: a page of n nodes is longer by n - 2 than
it takes it for. -/
def SeparatorsFit (nodes : List Json) : Prop :=
  ∀ page rest, StartsPage nodes (page ++ rest) → 3 ≤ page.length →
    estimate page ≤ maxContentChars → estimate page + (page.length - 2) ≤ maxContentChars

theorem chunkNodes_paged_iff (nodes : List Json) :
    Paged nodes (chunkNodes nodes) ↔ SeparatorsFit nodes := by
  rw [chunkNodes_eq]
  constructor
  · intro h page rest hstart hlength hwithin
    obtain ⟨longer, hlonger, hp⟩ := hstart.holds fun _ => hwithin
    have hlengths := hp.length_le
    have hsome : longer ≠ [] := List.ne_nil_of_length_pos (by omega)
    have hbudget := h.budget longer hlonger (by omega)
    have hserialized := serialized_eq hsome
    have hestimates := estimate_le hp
    omega
  · intro h
    refine ⟨pagesFrom_flatten [] nodes, fun hsome => pagesFrom_nonempty (.inr hsome), ?_⟩
    intro page hpage hlength
    have hcounted : WithinCount [] := fun hlength => absurd hlength (by decide)
    obtain ⟨hwithin, rest, hstart⟩ := pagesFrom_starts (.first : StartsPage nodes ([] ++ nodes))
      hcounted page hpage
    have hestimate := hwithin hlength
    have hserialized := serialized_eq (List.ne_nil_of_length_pos (by omega : 0 < page.length))
    by_cases hthree : 3 ≤ page.length
    · have hfits := h page rest hstart hthree hestimate
      omega
    · omega

def paragraph (n : Nat) : Json :=
  .obj [("tag", .str "p"), ("children", .arr [.str (String.ofList (List.replicate n 'x'))])]

theorem paragraph_size (n : Nat) : nodeSize (paragraph n) = n + 31 := by
  have hescape : ((List.replicate n 'x').flatMap Json.escape).length = n := by
    induction n with
    | zero => rfl
    | succ n ih =>
      rw [List.replicate_succ, List.flatMap_cons, List.length_append, ih]
      exact Nat.add_comm 1 n
  have htag : (Json.quote "tag").length = 5 ∧ (Json.quote "p").length = 3 ∧
      (Json.quote "children").length = 10 := by decide
  simp only [nodeSize, paragraph, dumps, dumpsFields, dumpsValues, listSeparated,
    List.intercalate_cons_cons, List.intercalate_singleton, List.length_append, List.length_cons,
    List.length_nil, htag]
  simp only [Json.quote, String.toList_ofList, List.length_append, List.length_cons, hescape,
    List.length_nil]
  omega

theorem three_over (h : nodeSize node = 4666) : ¬SeparatorsFit [node, node, node] := by
  intro hfits
  have hestimate : estimate [node, node, node] = 14000 := by
    simp only [estimate, List.map_cons, List.map_nil, List.sum_cons, List.sum_nil, h, Nat.reduceAdd]
  have hover : ¬14000 + (List.length [node, node, node] - 2) ≤ 14000 := by
    simp only [List.length_cons, List.length_nil]
    omega
  apply hover
  rw [← hestimate]
  apply Nat.le_trans (hfits [node, node, node] [] .first (by simp) _)
  · rw [maxContentChars, hestimate]
  · rw [maxContentChars, hestimate]

theorem page_too_long : ¬∀ nodes, Paged nodes (chunkNodes nodes) := by
  intro h
  exact three_over (paragraph_size 4635) ((chunkNodes_paged_iff _).1 (h _))

end AegisVPN
