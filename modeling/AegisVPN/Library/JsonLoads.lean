import AegisVPN.Library.Dicts

/-! # JSON texts, as Python reads them -/

namespace Library
set_option autoImplicit true

/-- A value that was read. The characters of a text are code points, as an escape may stand for
half of a surrogate pair. -/
inductive Loaded
  | null
  | bool (b : Bool)
  | int (n : Int)
  | float (text : List Char)
  | str (points : List Nat)
  | arr (values : List Loaded)
  | obj (fields : List (List Nat × Loaded))

namespace JsonLoads

def isBlank (c : Char) : Bool := [' ', '\t', '\n', '\r'].contains c

def skipBlanks (text : List Char) : List Char := text.dropWhile isBlank

def expect (c : Char) (text : List Char) : Option (List Char) :=
  if text.head? = some c then some text.tail else none

/-! ## Texts -/

/-- What stands before the closing quote, and what follows it. -/
def closeString : List Char → Option (List Char × List Char)
  | [] => none
  | c :: rest =>
    if c = '"' then some ([], rest)
    else if c.toNat < 32 then none
    else if c = '\\' then
      match rest with
      | [] => none
      | e :: rest =>
        if e.toNat < 32 then none
        else (closeString rest).map fun p => (c :: e :: p.1, p.2)
    else (closeString rest).map fun p => (c :: p.1, p.2)

def escapes : List (Char × Nat) :=
  [('"', 34), ('\\', 92), ('/', 47), ('b', 8), ('f', 12), ('n', 10), ('r', 13), ('t', 9)]

def hexValue (c : Char) : Option Nat :=
  if c.isDigit then some (c.toNat - 48)
  else if 'a' ≤ c ∧ c ≤ 'f' then some (c.toNat - 87)
  else if 'A' ≤ c ∧ c ≤ 'F' then some (c.toNat - 55)
  else none

def unescape : List Char → Option (List Nat)
  | [] => some []
  | '\\' :: 'u' :: a :: b :: c :: d :: rest => do
    let a ← hexValue a
    let b ← hexValue b
    let c ← hexValue c
    let d ← hexValue d
    (unescape rest).map fun points => (4096 * a + 256 * b + 16 * c + d) :: points
  | '\\' :: e :: rest => do
    let n ← escapes.lookup e
    (unescape rest).map fun points => n :: points
  | c :: rest => (unescape rest).map fun points => c.toNat :: points

def joinSurrogates : List Nat → List Nat
  | high :: low :: rest =>
    if 0xD800 ≤ high ∧ high ≤ 0xDBFF ∧ 0xDC00 ≤ low ∧ low ≤ 0xDFFF then
      (0x10000 + (high - 0xD800) * 1024 + (low - 0xDC00)) :: joinSurrogates rest
    else high :: joinSurrogates (low :: rest)
  | points => points

/-- A text whose opening quote was read. -/
def parseString (text : List Char) : Option (List Nat × List Char) := do
  let (body, rest) ← closeString text
  let points ← unescape body
  some (joinSurrogates points, rest)

/-! ## Literals and numbers -/

def literals : List (List Char × Loaded) :=
  [("null".toList, .null), ("true".toList, .bool true), ("false".toList, .bool false),
    ("NaN".toList, .float "NaN".toList), ("Infinity".toList, .float "Infinity".toList),
    ("-Infinity".toList, .float "-Infinity".toList)]

def parseLiteral (text : List Char) : Option (Loaded × List Char) :=
  literals.findSome? fun literal =>
    if literal.1 <+: text then some (literal.2, text.drop literal.1.length) else none

def signPart (text : List Char) : List Char × List Char :=
  if text.head? = some '-' then (['-'], text.tail) else ([], text)

/-- A zero stands alone. -/
def wholePart (text : List Char) : Option (List Char × List Char) :=
  if text.head? = some '0' then some (['0'], text.tail)
  else if (text.takeWhile Char.isDigit).isEmpty then none
  else some (text.takeWhile Char.isDigit, text.dropWhile Char.isDigit)

def fractionPart (text : List Char) : List Char × List Char :=
  if text.head? = some '.' ∧ (text.tail.takeWhile Char.isDigit).isEmpty = false then
    ('.' :: text.tail.takeWhile Char.isDigit, text.tail.dropWhile Char.isDigit)
  else ([], text)

def exponentSign (text : List Char) : List Char × List Char :=
  if text.head? = some '+' then (['+'], text.tail) else signPart text

def exponentPart (text : List Char) : List Char × List Char :=
  let (sign, digits) := exponentSign text.tail
  if text.head? = some 'e' ∧ (digits.takeWhile Char.isDigit).isEmpty = false then
    ('e' :: sign ++ digits.takeWhile Char.isDigit, digits.dropWhile Char.isDigit)
  else if text.head? = some 'E' ∧ (digits.takeWhile Char.isDigit).isEmpty = false then
    ('E' :: sign ++ digits.takeWhile Char.isDigit, digits.dropWhile Char.isDigit)
  else ([], text)

def numberOf (sign whole fraction exponent : List Char) : Loaded :=
  if fraction.isEmpty ∧ exponent.isEmpty then
    let n : Int := Nat.ofDigitChars 10 whole 0
    .int (if sign.isEmpty then n else -n)
  else .float (sign ++ whole ++ fraction ++ exponent)

def parseNumber (text : List Char) : Option (Loaded × List Char) := do
  let sign := signPart text
  let whole ← wholePart sign.2
  let fraction := fractionPart whole.2
  let exponent := exponentPart fraction.2
  some (numberOf sign.1 whole.1 fraction.1 exponent.1, exponent.2)

def parseScalar (text : List Char) : Option (Loaded × List Char) :=
  (parseLiteral text).or (parseNumber text)

/-! ## Values -/

mutual
def parseValue : Nat → List Char → Option (Loaded × List Char)
  | 0, _ => none
  | fuel + 1, text =>
    if text.head? = some '"' then
      (parseString text.tail).map fun p => (.str p.1, p.2)
    else if text.head? = some '\x7b' then
      let inner := skipBlanks text.tail
      if inner.head? = some '\x7d' then some (.obj [], inner.tail)
      else (parseMembers fuel inner).map fun p => (.obj (dictOf p.1), p.2)
    else if text.head? = some '[' then
      let inner := skipBlanks text.tail
      if inner.head? = some ']' then some (.arr [], inner.tail)
      else (parseElements fuel inner).map fun p => (.arr p.1, p.2)
    else parseScalar text

/-- The entries of an object, up to its closing brace. -/
def parseMembers : Nat → List Char → Option (List (List Nat × Loaded) × List Char)
  | 0, _ => none
  | fuel + 1, text => do
    let text ← expect '"' text
    let (name, text) ← parseString text
    let text ← expect ':' (skipBlanks text)
    let (value, text) ← parseValue fuel (skipBlanks text)
    let text := skipBlanks text
    if text.head? = some '\x7d' then some ([(name, value)], text.tail)
    else
      let text ← expect ',' text
      let (fields, text) ← parseMembers fuel (skipBlanks text)
      some ((name, value) :: fields, text)

/-- The entries of a list, up to its closing bracket. -/
def parseElements : Nat → List Char → Option (List Loaded × List Char)
  | 0, _ => none
  | fuel + 1, text => do
    let (value, text) ← parseValue fuel text
    let text := skipBlanks text
    if text.head? = some ']' then some ([value], text.tail)
    else
      let text ← expect ',' text
      let (values, text) ← parseElements fuel (skipBlanks text)
      some (value :: values, text)
end

end JsonLoads

open JsonLoads in
/-- What `json.loads` makes of a text. -/
def jsonLoads (text : List Char) : Option Loaded :=
  if text.head? = some '\uFEFF' then none
  else do
    let (value, rest) ← parseValue (2 * text.length + 1) (skipBlanks text)
    if (skipBlanks rest).isEmpty then some value else none

namespace JsonLoads

/-! ## Where a text can go on -/

/-- Outside and inside of a quoted text, and right after a backslash in it. -/
inductive Lex
  | outside
  | inside
  | escaped

/-- No equals sign stands outside of a quoted text, and no line break stands inside of one. -/
def Lex.step : Lex → Char → Option Lex
  | .outside, c => if c = '"' then some .inside else if c = '=' then none else some .outside
  | .inside, c =>
    if c = '"' then some .outside
    else if c = '\n' then none
    else if c = '\\' then some .escaped
    else some .inside
  | .escaped, c => if c = '\n' then none else some .inside

def scan : Lex → List Char → Option Lex
  | lex, [] => some lex
  | lex, c :: text => (lex.step c).bind fun lex => scan lex text

theorem scan_append (lex : Lex) (a b : List Char) :
    scan lex (a ++ b) = (scan lex a).bind fun lex => scan lex b := by
  induction a generalizing lex with
  | nil => rfl
  | cons c a ih =>
    simp only [List.cons_append, scan]
    cases lex.step c with
    | none => rfl
    | some lex => exact ih lex

/-- Reading goes from one text to what is left of it. -/
def Scans (lex : Lex) (text rest : List Char) (lex' : Lex) : Prop :=
  ∃ used, text = used ++ rest ∧ scan lex used = some lex'

theorem Scans.refl (lex : Lex) (text : List Char) : Scans lex text text lex := ⟨[], rfl, rfl⟩

theorem Scans.trans (h : Scans l₁ t₁ t₂ l₂) (h' : Scans l₂ t₂ t₃ l₃) : Scans l₁ t₁ t₃ l₃ := by
  obtain ⟨a, rfl, ha⟩ := h
  obtain ⟨b, rfl, hb⟩ := h'
  refine ⟨a ++ b, (List.append_assoc _ _ _).symm, ?_⟩
  rw [scan_append, ha]
  exact hb

theorem Scans.char (h : lex.step c = some lex') (text : List Char) :
    Scans lex (c :: text) text lex' := ⟨[c], rfl, by rw [scan, h]; rfl⟩

theorem Scans.length (h : Scans lex text rest lex') : rest.length ≤ text.length := by
  obtain ⟨used, rfl, _⟩ := h
  rw [List.length_append]
  omega

/-- Neither a quote nor an equals sign. -/
def plain (c : Char) : Bool := c != '"' && c != '='

theorem Scans.plain {used : List Char} (h : ∀ c ∈ used, plain c = true) (rest : List Char) :
    Scans .outside (used ++ rest) rest .outside := by
  refine ⟨used, rfl, ?_⟩
  induction used with
  | nil => rfl
  | cons c used ih =>
    have hc := h c List.mem_cons_self
    rw [JsonLoads.plain, Bool.and_eq_true, bne_iff_ne, bne_iff_ne] at hc
    rw [scan, Lex.step, if_neg hc.1, if_neg hc.2]
    exact ih fun d hd => h d (List.mem_cons_of_mem _ hd)

theorem Scans.dropWhile {p : Char → Bool} (h : ∀ c, p c = true → JsonLoads.plain c = true)
    (text : List Char) : Scans .outside text (text.dropWhile p) .outside := by
  have hused : ∀ c ∈ text.takeWhile p, JsonLoads.plain c = true := fun c hc =>
    h c (List.all_eq_true.1 List.all_takeWhile c hc)
  have hplain := Scans.plain hused (text.dropWhile p)
  rwa [List.takeWhile_append_dropWhile] at hplain

theorem eq_cons_of_head (h : text.head? = some c) : text = c :: text.tail := by
  cases text with
  | nil => cases h
  | cons d text =>
    obtain rfl := Option.some_inj.1 h
    rfl

theorem Scans.head (lex : Lex) (h : text.head? = some c) (hlex : lex.step c = some lex') :
    Scans lex text text.tail lex' := by
  have hchar := Scans.char hlex text.tail
  rwa [← eq_cons_of_head h] at hchar

theorem Scans.expected (lex : Lex) (h : expect c text = some rest)
    (hlex : lex.step c = some lex') :
    Scans lex text rest lex' ∧ rest.length < text.length := by
  rw [expect] at h
  split at h
  · next hc =>
    obtain rfl := Option.some_inj.1 h
    refine ⟨Scans.head lex hc hlex, ?_⟩
    rw [eq_cons_of_head hc]
    exact Nat.lt_succ_self _
  · cases h

theorem blank_plain (h : isBlank c = true) : plain c = true := by
  have hall : [' ', '\t', '\n', '\r'].all plain = true := by decide
  rw [isBlank, List.contains_iff_mem] at h
  exact List.all_eq_true.1 hall c h

theorem digit_plain (h : c.isDigit = true) : plain c = true := by
  rw [plain, Bool.and_eq_true, bne_iff_ne, bne_iff_ne]
  refine ⟨?_, ?_⟩
  · rintro rfl
    cases h
  · rintro rfl
    cases h

theorem Scans.blanks (text : List Char) : Scans .outside text (skipBlanks text) .outside :=
  Scans.dropWhile (fun _ => blank_plain) text

/-! ### What each part reads -/

theorem low_ne {c : Char} (h : ¬c.toNat < 32) : c ≠ '\n' := by
  rintro rfl
  exact h (by decide)

theorem closeString_scans (h : closeString text = some (body, rest)) :
    Scans .inside text rest .outside := by
  fun_induction closeString text generalizing body with
  | case1 => cases h
  | case2 text =>
    cases h
    exact Scans.char rfl _
  | case3 => cases h
  | case4 => cases h
  | case5 => cases h
  | case6 e text he _ _ ih =>
    obtain ⟨⟨later, rest'⟩, hclose, heq⟩ := Option.map_eq_some_iff.1 h
    cases heq
    have hescape : Lex.step .escaped e = some .inside := if_neg (low_ne he)
    exact (Scans.char rfl _).trans ((Scans.char hescape _).trans (ih hclose))
  | case7 c text hquote hlow hback ih =>
    obtain ⟨⟨later, rest'⟩, hclose, heq⟩ := Option.map_eq_some_iff.1 h
    cases heq
    have hstay : Lex.step .inside c = some .inside := by
      rw [Lex.step, if_neg hquote, if_neg (low_ne hlow), if_neg hback]
    exact (Scans.char hstay _).trans (ih hclose)

theorem parseString_scans (h : parseString text = some (points, rest)) :
    Scans .inside text rest .outside := by
  obtain ⟨⟨body, rest'⟩, hclose, h⟩ := Option.bind_eq_some_iff.1 h
  obtain ⟨_, _, heq⟩ := Option.bind_eq_some_iff.1 h
  cases heq
  exact closeString_scans hclose

theorem parseLiteral_scans (h : parseLiteral text = some (value, rest)) :
    Scans .outside text rest .outside ∧ rest.length < text.length := by
  obtain ⟨⟨word, _⟩, hword, h⟩ := List.exists_of_findSome?_eq_some h
  split at h
  · next hpre =>
    cases h
    obtain ⟨later, rfl⟩ := hpre
    rw [List.drop_left]
    have hall : ∀ literal ∈ literals, literal.1.all plain = true ∧ literal.1 ≠ [] := by
      decide
    obtain ⟨hplain, hsome⟩ := hall _ hword
    refine ⟨Scans.plain (List.all_eq_true.1 hplain) later, ?_⟩
    have hpos := List.length_pos_iff.2 hsome
    rw [List.length_append]
    omega
  · cases h

theorem signPart_scans (text : List Char) : Scans .outside text (signPart text).2 .outside := by
  rw [signPart]
  split
  · next h => exact Scans.head .outside h rfl
  · exact Scans.refl _ _

theorem exponentSign_scans (text : List Char) :
    Scans .outside text (exponentSign text).2 .outside := by
  rw [exponentSign]
  split
  · next h => exact Scans.head .outside h rfl
  · exact signPart_scans text

theorem Scans.digits (text : List Char) :
    Scans .outside text (text.dropWhile Char.isDigit) .outside :=
  Scans.dropWhile (fun _ => digit_plain) text

theorem wholePart_scans (h : wholePart text = some whole) :
    Scans .outside text whole.2 .outside ∧ whole.2.length < text.length := by
  rw [wholePart] at h
  split at h
  · next hzero =>
    cases h
    refine ⟨Scans.head .outside hzero rfl, ?_⟩
    rw [eq_cons_of_head hzero]
    exact Nat.lt_succ_self _
  · split at h
    · cases h
    · next hdigits =>
      cases h
      refine ⟨Scans.digits text, ?_⟩
      have hlength := congrArg List.length
        (List.takeWhile_append_dropWhile (p := Char.isDigit) (l := text))
      rw [List.isEmpty_iff] at hdigits
      have hpos := List.length_pos_iff.2 hdigits
      rw [List.length_append] at hlength
      dsimp only
      omega

theorem fractionPart_scans (text : List Char) :
    Scans .outside text (fractionPart text).2 .outside := by
  rw [fractionPart]
  split
  · next h => exact (Scans.head .outside h.1 rfl).trans (Scans.digits _)
  · exact Scans.refl _ _

theorem exponentPart_scans (text : List Char) :
    Scans .outside text (exponentPart text).2 .outside := by
  have hdigits : Scans .outside text.tail
      ((exponentSign text.tail).2.dropWhile Char.isDigit) .outside :=
    (exponentSign_scans _).trans (Scans.digits _)
  rw [exponentPart]
  dsimp only
  split
  · next h => exact (Scans.head .outside h.1 rfl).trans hdigits
  · split
    · next h => exact (Scans.head .outside h.1 rfl).trans hdigits
    · exact Scans.refl _ _

theorem parseNumber_scans (h : parseNumber text = some (value, rest)) :
    Scans .outside text rest .outside ∧ rest.length < text.length := by
  obtain ⟨whole, hwhole, heq⟩ := Option.bind_eq_some_iff.1 h
  cases heq
  obtain ⟨hscans, hless⟩ := wholePart_scans hwhole
  have hsign := signPart_scans text
  have hrest := (fractionPart_scans whole.2).trans (exponentPart_scans _)
  refine ⟨(hsign.trans hscans).trans hrest, ?_⟩
  have h₁ := hsign.length
  have h₂ := hrest.length
  omega

theorem parseScalar_scans (h : parseScalar text = some (value, rest)) :
    Scans .outside text rest .outside ∧ rest.length < text.length := by
  obtain h | ⟨_, h⟩ := Option.or_eq_some_iff.1 h
  · exact parseLiteral_scans h
  · exact parseNumber_scans h

/-- What a reader of values, of entries of an object or of entries of a list does. -/
def Advances (read : List Char → Option (α × List Char)) : Prop :=
  ∀ text value rest, read text = some (value, rest) →
    Scans .outside text rest .outside ∧ rest.length < text.length

theorem Scans.head_less {text : List Char} (h : text.head? = some c) :
    text.tail.length < text.length := by
  rw [eq_cons_of_head h]
  exact Nat.lt_succ_self _

theorem skipBlanks_length (text : List Char) : (skipBlanks text).length ≤ text.length :=
  (Scans.blanks text).length

theorem parseString_length (h : parseString text = some (points, rest)) :
    rest.length ≤ text.length :=
  (parseString_scans h).length

theorem parseValue_advances (hmembers : Advances (parseMembers fuel))
    (helements : Advances (parseElements fuel)) : Advances (parseValue (fuel + 1)) := by
  intro text value rest h
  have hblanks := skipBlanks_length text.tail
  rw [parseValue] at h
  split at h
  · next hquote =>
    obtain ⟨⟨points, rest'⟩, hstring, heq⟩ := Option.map_eq_some_iff.1 h
    obtain rfl : rest' = rest := congrArg Prod.snd heq
    have hless := Scans.head_less hquote
    have hlength := parseString_length hstring
    exact ⟨(Scans.head .outside hquote rfl).trans (parseString_scans hstring), by omega⟩
  · split at h
    · next hbrace =>
      have hless := Scans.head_less hbrace
      have hinner := (Scans.head .outside hbrace rfl).trans (Scans.blanks text.tail)
      dsimp only at h
      split at h
      · next hclose =>
        cases h
        have hend := Scans.head_less hclose
        exact ⟨hinner.trans (Scans.head .outside hclose rfl), by omega⟩
      · obtain ⟨⟨fields, rest'⟩, hread, heq⟩ := Option.map_eq_some_iff.1 h
        obtain rfl : rest' = rest := congrArg Prod.snd heq
        obtain ⟨hscans, hfewer⟩ := hmembers _ _ _ hread
        exact ⟨hinner.trans hscans, by omega⟩
    · split at h
      · next hbracket =>
        have hless := Scans.head_less hbracket
        have hinner := (Scans.head .outside hbracket rfl).trans (Scans.blanks text.tail)
        dsimp only at h
        split at h
        · next hclose =>
          cases h
          have hend := Scans.head_less hclose
          exact ⟨hinner.trans (Scans.head .outside hclose rfl), by omega⟩
        · obtain ⟨⟨values, rest'⟩, hread, heq⟩ := Option.map_eq_some_iff.1 h
          obtain rfl : rest' = rest := congrArg Prod.snd heq
          obtain ⟨hscans, hfewer⟩ := helements _ _ _ hread
          exact ⟨hinner.trans hscans, by omega⟩
      · exact parseScalar_scans h

theorem parseMembers_advances (hvalue : Advances (parseValue fuel))
    (hmembers : Advances (parseMembers fuel)) : Advances (parseMembers (fuel + 1)) := by
  intro text fields rest h
  rw [parseMembers] at h
  obtain ⟨t₁, hquote, h⟩ := Option.bind_eq_some_iff.1 h
  obtain ⟨⟨name, t₂⟩, hname, h⟩ := Option.bind_eq_some_iff.1 h
  obtain ⟨t₃, hcolon, h⟩ := Option.bind_eq_some_iff.1 h
  obtain ⟨⟨value, t₄⟩, hread, h⟩ := Option.bind_eq_some_iff.1 h
  obtain ⟨hscans₁, hless₁⟩ := Scans.expected .outside hquote rfl
  obtain ⟨hscans₃, hless₃⟩ := Scans.expected .outside hcolon rfl
  obtain ⟨hscans₄, hless₄⟩ := hvalue _ _ _ hread
  have hentry : Scans .outside text (skipBlanks t₄) .outside :=
    (((((hscans₁.trans (parseString_scans hname)).trans (Scans.blanks _)).trans hscans₃).trans
      (Scans.blanks _)).trans hscans₄).trans (Scans.blanks _)
  have hless : (skipBlanks t₄).length < text.length := by
    have h₂ := parseString_length hname
    have h₃ := skipBlanks_length t₂
    have h₄ := skipBlanks_length t₃
    have h₅ := skipBlanks_length t₄
    omega
  dsimp only at h
  split at h
  · next hclose =>
    cases h
    have hend := Scans.head_less hclose
    exact ⟨hentry.trans (Scans.head .outside hclose rfl), by omega⟩
  · obtain ⟨t₅, hcomma, h⟩ := Option.bind_eq_some_iff.1 h
    obtain ⟨⟨others, t₆⟩, hothers, heq⟩ := Option.bind_eq_some_iff.1 h
    obtain rfl : t₆ = rest := congrArg Prod.snd (Option.some_inj.1 heq)
    obtain ⟨hscans₅, hless₅⟩ := Scans.expected .outside hcomma rfl
    obtain ⟨hscans₆, hless₆⟩ := hmembers _ _ _ hothers
    have h₅ := skipBlanks_length t₅
    exact ⟨((hentry.trans hscans₅).trans (Scans.blanks _)).trans hscans₆, by omega⟩

theorem parseElements_advances (hvalue : Advances (parseValue fuel))
    (helements : Advances (parseElements fuel)) : Advances (parseElements (fuel + 1)) := by
  intro text values rest h
  rw [parseElements] at h
  obtain ⟨⟨value, t₁⟩, hread, h⟩ := Option.bind_eq_some_iff.1 h
  obtain ⟨hscans, hless⟩ := hvalue _ _ _ hread
  have hentry := hscans.trans (Scans.blanks t₁)
  have h₁ := skipBlanks_length t₁
  dsimp only at h
  split at h
  · next hclose =>
    cases h
    have hend := Scans.head_less hclose
    exact ⟨hentry.trans (Scans.head .outside hclose rfl), by omega⟩
  · obtain ⟨t₂, hcomma, h⟩ := Option.bind_eq_some_iff.1 h
    obtain ⟨⟨others, t₃⟩, hothers, heq⟩ := Option.bind_eq_some_iff.1 h
    obtain rfl : t₃ = rest := congrArg Prod.snd (Option.some_inj.1 heq)
    obtain ⟨hscans₂, hless₂⟩ := Scans.expected .outside hcomma rfl
    obtain ⟨hscans₃, hless₃⟩ := helements _ _ _ hothers
    have h₂ := skipBlanks_length t₂
    exact ⟨((hentry.trans hscans₂).trans (Scans.blanks _)).trans hscans₃, by omega⟩

theorem parse_advances (fuel : Nat) : Advances (parseValue fuel) ∧
    Advances (parseMembers fuel) ∧ Advances (parseElements fuel) := by
  induction fuel with
  | zero =>
    refine ⟨?_, ?_, ?_⟩ <;>
    · intro _ _ _ h
      cases h
  | succ fuel ih =>
    exact ⟨parseValue_advances ih.2.1 ih.2.2, parseMembers_advances ih.1 ih.2.1,
      parseElements_advances ih.1 ih.2.2⟩

/-! ### Fuel -/

/-- What is read with some fuel is read with any fuel that is proportional to the text. -/
def Enough (read : Nat → List Char → Option α) (extra fuel : Nat) : Prop :=
  ∀ text value fuel', read fuel text = some value → 2 * text.length + extra ≤ fuel' →
    read fuel' text = some value

theorem parseValue_enough (hmembers : Enough parseMembers 1 fuel)
    (helements : Enough parseElements 1 fuel) : Enough parseValue 0 (fuel + 1) := by
  intro text value fuel' h hfuel
  have hless := ((parse_advances _).1 _ _ _ h).2
  obtain ⟨fuel', rfl⟩ : ∃ n, fuel' = n + 1 := ⟨fuel' - 1, by omega⟩
  have hblanks := skipBlanks_length text.tail
  rw [parseValue] at h ⊢
  split at h
  · next hquote =>
    rw [if_pos hquote]
    exact h
  · next hquote =>
    rw [if_neg hquote]
    split at h
    · next hbrace =>
      rw [if_pos hbrace]
      have htail := Scans.head_less hbrace
      dsimp only at h ⊢
      split at h
      · next hclose =>
        rw [if_pos hclose]
        exact h
      · next hclose =>
        rw [if_neg hclose]
        obtain ⟨_, hread, heq⟩ := Option.map_eq_some_iff.1 h
        rw [hmembers _ _ fuel' hread (by omega), Option.map_some, heq]
    · next hbrace =>
      rw [if_neg hbrace]
      split at h
      · next hbracket =>
        rw [if_pos hbracket]
        have htail := Scans.head_less hbracket
        dsimp only at h ⊢
        split at h
        · next hclose =>
          rw [if_pos hclose]
          exact h
        · next hclose =>
          rw [if_neg hclose]
          obtain ⟨_, hread, heq⟩ := Option.map_eq_some_iff.1 h
          rw [helements _ _ fuel' hread (by omega), Option.map_some, heq]
      · next hbracket =>
        rw [if_neg hbracket]
        exact h

theorem parseMembers_enough (hvalue : Enough parseValue 0 fuel)
    (hmembers : Enough parseMembers 1 fuel) : Enough parseMembers 1 (fuel + 1) := by
  intro text fields fuel' h hfuel
  obtain ⟨fuel', rfl⟩ : ∃ n, fuel' = n + 1 := ⟨fuel' - 1, by omega⟩
  rw [parseMembers] at h ⊢
  obtain ⟨t₁, hquote, h⟩ := Option.bind_eq_some_iff.1 h
  obtain ⟨⟨name, t₂⟩, hname, h⟩ := Option.bind_eq_some_iff.1 h
  obtain ⟨t₃, hcolon, h⟩ := Option.bind_eq_some_iff.1 h
  obtain ⟨⟨value, t₄⟩, hread, h⟩ := Option.bind_eq_some_iff.1 h
  have hless : t₃.length < text.length ∧ t₄.length < t₃.length := by
    have h₁ := (Scans.expected .outside hquote rfl).2
    have h₂ := parseString_length hname
    have h₃ := skipBlanks_length t₂
    have h₄ := (Scans.expected .outside hcolon rfl).2
    have h₅ := skipBlanks_length t₃
    have h₆ := ((parse_advances _).1 _ _ _ hread).2
    omega
  have h₃ := skipBlanks_length t₃
  have hvalue' := hvalue _ _ fuel' hread (by omega)
  refine Option.bind_eq_some_iff.2 ⟨t₁, hquote, ?_⟩
  refine Option.bind_eq_some_iff.2 ⟨(name, t₂), hname, ?_⟩
  refine Option.bind_eq_some_iff.2 ⟨t₃, hcolon, Option.bind_eq_some_iff.2 ⟨_, hvalue', ?_⟩⟩
  dsimp only at h ⊢
  split at h
  · next hclose =>
    rw [if_pos hclose]
    exact h
  · next hclose =>
    rw [if_neg hclose]
    obtain ⟨t₅, hcomma, h⟩ := Option.bind_eq_some_iff.1 h
    obtain ⟨others, hothers, heq⟩ := Option.bind_eq_some_iff.1 h
    have h₄ := skipBlanks_length t₄
    have h₅ := (Scans.expected .outside hcomma rfl).2
    have h₆ := skipBlanks_length t₅
    have hothers' := hmembers _ _ fuel' hothers (by omega)
    exact Option.bind_eq_some_iff.2 ⟨t₅, hcomma, Option.bind_eq_some_iff.2 ⟨_, hothers', heq⟩⟩

theorem parseElements_enough (hvalue : Enough parseValue 0 fuel)
    (helements : Enough parseElements 1 fuel) : Enough parseElements 1 (fuel + 1) := by
  intro text values fuel' h hfuel
  obtain ⟨fuel', rfl⟩ : ∃ n, fuel' = n + 1 := ⟨fuel' - 1, by omega⟩
  rw [parseElements] at h ⊢
  obtain ⟨⟨value, t₁⟩, hread, h⟩ := Option.bind_eq_some_iff.1 h
  have hless := ((parse_advances _).1 _ _ _ hread).2
  have hvalue' := hvalue _ _ fuel' hread (by omega)
  refine Option.bind_eq_some_iff.2 ⟨_, hvalue', ?_⟩
  dsimp only at h ⊢
  split at h
  · next hclose =>
    rw [if_pos hclose]
    exact h
  · next hclose =>
    rw [if_neg hclose]
    obtain ⟨t₂, hcomma, h⟩ := Option.bind_eq_some_iff.1 h
    obtain ⟨others, hothers, heq⟩ := Option.bind_eq_some_iff.1 h
    have h₁ := skipBlanks_length t₁
    have h₂ := (Scans.expected .outside hcomma rfl).2
    have h₃ := skipBlanks_length t₂
    have hothers' := helements _ _ fuel' hothers (by omega)
    exact Option.bind_eq_some_iff.2 ⟨t₂, hcomma, Option.bind_eq_some_iff.2 ⟨_, hothers', heq⟩⟩

/-- The fuel of a whole text does not cut a value off. -/
theorem parse_enough (fuel : Nat) : Enough parseValue 0 fuel ∧
    Enough parseMembers 1 fuel ∧ Enough parseElements 1 fuel := by
  induction fuel with
  | zero =>
    refine ⟨?_, ?_, ?_⟩ <;>
    · intro _ _ _ h
      cases h
  | succ fuel ih =>
    exact ⟨parseValue_enough ih.2.1 ih.2.2, parseMembers_enough ih.1 ih.2.1,
      parseElements_enough ih.1 ih.2.2⟩

/-! ### Whole texts -/

theorem jsonLoads_iff (hstart : text.head? ≠ some '\uFEFF') : jsonLoads text = some value ↔
    ∃ fuel rest, parseValue fuel (skipBlanks text) = some (value, rest) ∧ skipBlanks rest = [] := by
  rw [jsonLoads, if_neg hstart]
  refine ⟨?_, ?_⟩
  · intro h
    obtain ⟨⟨value', rest⟩, hread, hend⟩ := Option.bind_eq_some_iff.1 h
    dsimp only at hend
    split at hend
    · next hempty =>
      obtain rfl := Option.some_inj.1 hend
      exact ⟨_, rest, hread, List.isEmpty_iff.1 hempty⟩
    · cases hend
  · rintro ⟨fuel, rest, hread, hempty⟩
    have hlength := skipBlanks_length text
    have henough := (parse_enough fuel).1 _ _ (2 * text.length + 1) hread (by omega)
    refine Option.bind_eq_some_iff.2 ⟨_, henough, ?_⟩
    exact if_pos (List.isEmpty_iff.2 hempty)

/-- A line break and a name with an equals sign never follow a text that was to be read. -/
theorem jsonLoads_broken {name : List Char} (hname : ∀ c ∈ name, plain c = true)
    (text rest : List Char) : jsonLoads (text ++ '\n' :: (name ++ '=' :: rest)) = none := by
  have hstuck : ∀ lex, scan lex ('\n' :: (name ++ '=' :: rest)) = none := by
    have hafter : scan .outside (name ++ '=' :: rest) = none := by
      obtain ⟨used, hused, hscan⟩ := Scans.plain hname ('=' :: rest)
      rw [scan_append]
      obtain rfl := List.append_cancel_right hused
      rw [hscan]
      rfl
    intro lex
    cases lex with
    | outside => exact hafter
    | inside => rfl
    | escaped => rfl
  cases h : jsonLoads (text ++ '\n' :: (name ++ '=' :: rest)) with
  | none => rfl
  | some value =>
    exfalso
    have hstart : (text ++ '\n' :: (name ++ '=' :: rest)).head? ≠ some '\uFEFF' := by
      intro hstart
      rw [jsonLoads, if_pos hstart] at h
      cases h
    obtain ⟨_, left, hread, hempty⟩ := (jsonLoads_iff hstart).1 h
    have hscans := ((Scans.blanks _).trans ((parse_advances _).1 _ _ _ hread).1).trans
      (Scans.blanks left)
    rw [hempty] at hscans
    obtain ⟨used, hused, hscan⟩ := hscans
    rw [List.append_nil] at hused
    rw [← hused, scan_append] at hscan
    obtain ⟨lex, _, hlater⟩ := Option.bind_eq_some_iff.1 hscan
    rw [hstuck] at hlater
    cases hlater

end JsonLoads

end Library
