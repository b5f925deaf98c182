import Mathlib.Data.String.Basic
import AegisVPN.Library.Digits
import AegisVPN.Library.Json

/-! # A canonical JSON text tells its value -/

namespace Library
set_option autoImplicit true

namespace Json

/-! ## Quoted texts -/

def readHex (c : Char) : Nat := if c.toNat < 58 then c.toNat - 48 else c.toNat - 87

def readEscape (c : Char) : Char :=
  if c = 'n' then '\n'
  else if c = 'r' then '\r'
  else if c = 't' then '\t'
  else if c = 'b' then Char.ofNat 8
  else if c = 'f' then Char.ofNat 12
  else c

/-- The character that a quoted text goes on with. -/
def readChar : List Char → Option (Char × List Char)
  | [] => none
  | c :: rest =>
    if c = '\\' then
      match rest with
      | [] => none
      | e :: rest =>
        if e = 'u' then
          some (Char.ofNat (16 * readHex ((rest.drop 2).headD '0') +
            readHex ((rest.drop 3).headD '0')), rest.drop 4)
        else some (readEscape e, rest)
    else some (c, rest)

theorem readHex_hexDigit : ∀ n < 16, readHex (hexDigit n) = n := by decide

theorem readChar_escape (c : Char) (rest : List Char) :
    readChar (escape c ++ rest) = some (c, rest) := by
  by_cases h₁ : c = '"'
  · subst h₁
    rfl
  by_cases h₂ : c = '\\'
  · subst h₂
    rfl
  by_cases h₃ : c = '\n'
  · subst h₃
    rfl
  by_cases h₄ : c = '\r'
  · subst h₄
    rfl
  by_cases h₅ : c = '\t'
  · subst h₅
    rfl
  by_cases h₆ : c.toNat = 8
  · have hc : c = Char.ofNat 8 := by rw [← h₆, Char.ofNat_toNat]
    subst hc
    rfl
  by_cases h₇ : c.toNat = 12
  · have hc : c = Char.ofNat 12 := by rw [← h₇, Char.ofNat_toNat]
    subst hc
    rfl
  by_cases h₈ : c.toNat < 32
  · have hescape : escape c =
        ['\\', 'u', '0', '0', hexDigit (c.toNat / 16), hexDigit (c.toNat % 16)] := by
      simp only [escape, h₁, h₂, h₃, h₄, h₅, h₆, h₇, h₈, if_true, if_false]
    have hread : readChar (['\\', 'u', '0', '0', hexDigit (c.toNat / 16),
        hexDigit (c.toNat % 16)] ++ rest) = some (Char.ofNat (16 * readHex
          (hexDigit (c.toNat / 16)) + readHex (hexDigit (c.toNat % 16))), rest) := rfl
    rw [hescape, hread, readHex_hexDigit _ (by omega), readHex_hexDigit _ (by omega),
      Nat.div_add_mod, Char.ofNat_toNat]
  · have hescape : escape c = [c] := by
      simp only [escape, h₁, h₂, h₃, h₄, h₅, h₆, h₇, h₈, if_false]
    rw [hescape]
    exact if_neg h₂

theorem escape_ne_quote (c : Char) (rest text : List Char) : escape c ++ rest ≠ '"' :: text := by
  intro h
  have hread := readChar_escape c rest
  rw [h] at hread
  have hc : c = '"' := (Prod.mk.inj (Option.some.inj hread)).1.symm
  subst hc
  cases h

/-- A quoted text ends at the first quote that no backslash escapes. -/
theorem quoted_inj {s t x y : List Char}
    (h : s.flatMap escape ++ '"' :: x = t.flatMap escape ++ '"' :: y) : s = t ∧ x = y := by
  induction s generalizing t with
  | nil =>
    cases t with
    | nil => exact ⟨rfl, (List.cons.inj h).2⟩
    | cons d t =>
      rw [List.flatMap_cons, List.append_assoc] at h
      exact absurd h.symm (escape_ne_quote d _ _)
  | cons c s ih =>
    rw [List.flatMap_cons, List.append_assoc] at h
    cases t with
    | nil => exact absurd h (escape_ne_quote c _ _)
    | cons d t =>
      rw [List.flatMap_cons, List.append_assoc] at h
      have hread := readChar_escape c (s.flatMap escape ++ '"' :: x)
      rw [h, readChar_escape] at hread
      obtain ⟨rfl, hrest⟩ := Prod.mk.inj (Option.some.inj hread)
      obtain ⟨rfl, hxy⟩ := ih hrest.symm
      exact ⟨rfl, hxy⟩

theorem quote_append (s : String) (x : List Char) :
    quote s ++ x = '"' :: (s.toList.flatMap escape ++ '"' :: x) := by
  simp [quote]

theorem quote_inj {s t : String} {x y : List Char} (h : quote s ++ x = quote t ++ y) :
    s = t ∧ x = y := by
  rw [quote_append, quote_append] at h
  obtain ⟨hst, hxy⟩ := quoted_inj (List.cons.inj h).2
  exact ⟨String.toList_inj.1 hst, hxy⟩

/-! ## Numbers -/

def isNumberChar (c : Char) : Bool :=
  c.isDigit || c == '-' || c == '+' || c == '.' || c == 'e' || c == 'E'

/-- A number with a fraction or an exponent. -/
def FloatText (text : List Char) : Prop :=
  (∀ c ∈ text, isNumberChar c = true) ∧ (∃ c ∈ text.head?, c.isDigit = true ∨ c = '-') ∧
    ∃ c ∈ text, c.isDigit = false ∧ c ≠ '-'

/-- No number goes on here. -/
def Stops (text : List Char) : Prop := ∀ c ∈ text.head?, isNumberChar c = false

theorem number_split {u v s t : List Char} (hu : ∀ c ∈ u, isNumberChar c = true)
    (hv : ∀ c ∈ v, isNumberChar c = true) (hs : Stops s) (ht : Stops t) (h : u ++ s = v ++ t) :
    u = v ∧ s = t := by
  have hstop : ∀ {s : List Char}, Stops s → s.takeWhile isNumberChar = [] := by
    intro s hs
    cases s with
    | nil => rfl
    | cons c s => exact List.takeWhile_cons_of_neg (by rw [hs c rfl]; exact Bool.false_ne_true)
  have huv : u = v := by
    have htake := congrArg (List.takeWhile isNumberChar) h
    rw [List.takeWhile_append_of_pos hu, List.takeWhile_append_of_pos hv, hstop hs, hstop ht,
      List.append_nil, List.append_nil] at htake
    exact htake
  subst huv
  exact ⟨rfl, List.append_cancel_left h⟩

theorem int_toList (n : Int) : (toString n).toList =
    match n with
    | .ofNat m => Nat.toDigits 10 m
    | .negSucc m => '-' :: Nat.toDigits 10 (m + 1) := by
  cases n with
  | ofNat m => exact Nat.toList_repr
  | negSucc m =>
    show ("-" ++ Nat.repr (m + 1)).toList = _
    rw [String.toList_append, Nat.toList_repr]
    rfl

theorem int_chars (n : Int) : ∀ c ∈ (toString n).toList, c.isDigit = true ∨ c = '-' := by
  intro c hc
  rw [int_toList] at hc
  cases n with
  | ofNat m => exact .inl (Nat.isDigit_of_mem_toDigits (by decide) (by decide) hc)
  | negSucc m =>
    rcases List.mem_cons.1 hc with rfl | hc
    · exact .inr rfl
    · exact .inl (Nat.isDigit_of_mem_toDigits (by decide) (by decide) hc)

theorem int_head (n : Int) : ∃ c ∈ (toString n).toList.head?, c.isDigit = true ∨ c = '-' := by
  cases h : (toString n).toList with
  | nil =>
    rw [int_toList] at h
    cases n with
    | ofNat m => exact absurd h Nat.toDigits_ne_nil
    | negSucc m => cases h
  | cons c text => exact ⟨c, rfl, int_chars n c (h ▸ List.mem_cons_self)⟩

theorem int_text_inj {m n : Int} (h : (toString m).toList = (toString n).toList) : m = n := by
  rw [int_toList, int_toList] at h
  cases m with
  | ofNat m =>
    cases n with
    | ofNat n => rw [toDigits_inj h]
    | negSucc n =>
      have hdash : '-' ∈ Nat.toDigits 10 m := by
        show '-' ∈ Nat.toDigits 10 m
        have h : Nat.toDigits 10 m = '-' :: Nat.toDigits 10 (n + 1) := h
        rw [h]
        exact List.mem_cons_self
      exact absurd hdash (dash_not_digit m)
  | negSucc m =>
    cases n with
    | ofNat n =>
      have h : '-' :: Nat.toDigits 10 (m + 1) = Nat.toDigits 10 n := h
      exact absurd (h ▸ List.mem_cons_self) (dash_not_digit n)
    | negSucc n =>
      have h : '-' :: Nat.toDigits 10 (m + 1) = '-' :: Nat.toDigits 10 (n + 1) := h
      rw [Nat.succ.inj (toDigits_inj (List.cons.inj h).2)]

theorem isNumberChar_of {c : Char} (h : c.isDigit = true ∨ c = '-') : isNumberChar c = true := by
  rcases h with h | rfl
  · simp only [isNumberChar, h, Bool.true_or]
  · rfl

/-! ## Values in canonical form -/

mutual
/-- Floats are written as floats, and the names of an object stand in order. -/
def Canonical : Json → Prop
  | .float text => FloatText text.toList
  | .arr values => CanonicalValues values
  | .obj fields => (fields.map Prod.fst).Pairwise (· < ·) ∧ CanonicalFields fields
  | _ => True

def CanonicalValues : List Json → Prop
  | [] => True
  | value :: values => Canonical value ∧ CanonicalValues values

def CanonicalFields : List (String × Json) → Prop
  | [] => True
  | (_, value) :: fields => Canonical value ∧ CanonicalFields fields
end

theorem canonicalFields_names (fields : List (String × Json)) :
    (canonicalFields fields).map Prod.fst = fields.map Prod.fst := by
  induction fields with
  | nil => rfl
  | cons field fields ih =>
    obtain ⟨name, value⟩ := field
    rw [canonicalFields, List.map_cons, List.map_cons, ih]

theorem obj_chars {fields : List (String × Json)}
    (h : (fields.map Prod.fst).Pairwise (· < ·)) : canonicalChars (.obj fields) =
      '\x7b' :: separated ((canonicalFields fields).map Prod.snd) ++ ['\x7d'] := by
  have hsorted : sortByName (canonicalFields fields) = canonicalFields fields := by
    apply List.Pairwise.insertionSort_eq
    have hnames : ((canonicalFields fields).map Prod.fst).Pairwise (· < ·) :=
      canonicalFields_names fields ▸ h
    exact (List.pairwise_map.1 hnames).imp fun h => le_of_lt h
  rw [canonicalChars, hsorted]

/-- What kind of a value starts with a character. -/
def lead (c : Char) : Nat :=
  if c = 'n' then 0
  else if c = 't' ∨ c = 'f' then 1
  else if c = '"' then 2
  else if c = '[' then 3
  else if c = '\x7b' then 4
  else if c.isDigit = true ∨ c = '-' then 5
  else 6

def kind : Json → Nat
  | .null => 0
  | .bool _ => 1
  | .str _ => 2
  | .arr _ => 3
  | .obj _ => 4
  | .int _ => 5
  | .float _ => 5

theorem lead_number {c : Char} (h : c.isDigit = true ∨ c = '-') : lead c = 5 := by
  rcases h with h | rfl
  · have hne : ∀ d : Char, d.isDigit = false → c ≠ d := by
      intro d hd hcd
      rw [hcd, hd] at h
      cases h
    simp only [lead, hne 'n' rfl, hne 't' rfl, hne 'f' rfl, hne '"' rfl, hne '[' rfl,
      hne '\x7b' rfl, h, or_self, if_false, true_or, if_true]
  · rfl

theorem number_lead {text : List Char} (h : ∃ c ∈ text.head?, c.isDigit = true ∨ c = '-') :
    ∃ c rest, text = c :: rest ∧ lead c = 5 := by
  obtain ⟨c, hc, hnumber⟩ := h
  cases text with
  | nil => cases hc
  | cons d rest =>
    have hd : d = c := Option.some.inj hc
    exact ⟨d, rest, rfl, hd ▸ lead_number hnumber⟩

theorem chars_lead (v : Json) (h : v.Canonical) :
    ∃ c rest, canonicalChars v = c :: rest ∧ lead c = kind v := by
  cases v with
  | null => exact ⟨'n', _, rfl, rfl⟩
  | bool b =>
    cases b with
    | true => exact ⟨'t', _, rfl, rfl⟩
    | false => exact ⟨'f', _, rfl, rfl⟩
  | int n =>
    rw [canonicalChars]
    exact number_lead (int_head n)
  | float text =>
    rw [canonicalChars]
    rw [Canonical] at h
    exact number_lead h.2.1
  | str s => exact ⟨'"', _, by rw [canonicalChars, quote]; rfl, rfl⟩
  | arr values => exact ⟨'[', _, by rw [canonicalChars]; rfl, rfl⟩
  | obj fields => exact ⟨'\x7b', _, by rw [canonicalChars]; rfl, rfl⟩

theorem kind_eq {a b : Json} {s t : List Char} (ha : a.Canonical) (hb : b.Canonical)
    (h : canonicalChars a ++ s = canonicalChars b ++ t) : kind b = kind a := by
  obtain ⟨c, x, hc, hlead⟩ := chars_lead a ha
  obtain ⟨d, y, hd, hlead'⟩ := chars_lead b hb
  rw [hc, hd] at h
  rw [← hlead, ← hlead', (List.cons.inj h).1]

/-! ## Lists of values -/

/-- What follows the first part of a list, up to its closing character. -/
def restOf (close : Char) (parts : List (List Char)) (s : List Char) : List Char :=
  match parts with
  | [] => close :: s
  | part :: parts => ',' :: (separated (part :: parts) ++ close :: s)

theorem separated_cons (close : Char) (part : List Char) (parts : List (List Char))
    (s : List Char) : separated (part :: parts) ++ close :: s = part ++ restOf close parts s := by
  cases parts with
  | nil => simp [separated, restOf]
  | cons part' parts => simp [separated, restOf]

theorem stops_restOf {close : Char} (hclose : isNumberChar close = false)
    (parts : List (List Char)) (s : List Char) : Stops (restOf close parts s) := by
  intro c hc
  cases parts with
  | nil =>
    cases hc
    exact hclose
  | cons part parts =>
    cases hc
    rfl

theorem closed_ne {close : Char} {part s t : List Char} {parts : List (List Char)}
    (hclose : lead close = 6) (hpart : ∃ c x, part = c :: x ∧ lead c ≠ 6) :
    separated [] ++ close :: s ≠ separated (part :: parts) ++ close :: t := by
  intro h
  obtain ⟨c, x, rfl, hlead⟩ := hpart
  rw [separated_cons] at h
  have hc : close = c := (List.cons.inj h).1
  exact hlead (hc ▸ hclose)

theorem lead_value {v : Json} (h : v.Canonical) :
    ∃ c x, canonicalChars v = c :: x ∧ lead c ≠ 6 := by
  obtain ⟨c, x, hc, hlead⟩ := chars_lead v h
  refine ⟨c, x, hc, ?_⟩
  rw [hlead]
  cases v <;> simp [kind]

/-! ## The text tells the value -/

mutual
theorem chars_inj : ∀ (a b : Json) {s t : List Char}, a.Canonical → b.Canonical → Stops s →
    Stops t → canonicalChars a ++ s = canonicalChars b ++ t → a = b ∧ s = t
  | .null, b, s, t, ha, hb, hs, ht, h => by
    have hk := kind_eq ha hb h
    cases b with
    | null => exact ⟨rfl, List.append_cancel_left h⟩
    | _ => cases hk
  | .bool x, b, s, t, ha, hb, hs, ht, h => by
    have hk := kind_eq ha hb h
    cases b with
    | bool y =>
      cases x with
      | true =>
        cases y with
        | true => exact ⟨rfl, List.append_cancel_left h⟩
        | false => exact absurd (List.cons.inj h).1 (by decide)
      | false =>
        cases y with
        | true => exact absurd (List.cons.inj h).1 (by decide)
        | false => exact ⟨rfl, List.append_cancel_left h⟩
    | _ => cases hk
  | .int m, b, s, t, ha, hb, hs, ht, h => by
    have hk := kind_eq ha hb h
    have hm : ∀ c ∈ (toString m).toList, isNumberChar c = true := fun c hc =>
      isNumberChar_of (int_chars m c hc)
    cases b with
    | int n =>
      rw [canonicalChars, canonicalChars] at h
      obtain ⟨htext, hst⟩ := number_split hm (fun c hc => isNumberChar_of (int_chars n c hc))
        hs ht h
      exact ⟨congrArg Json.int (int_text_inj htext), hst⟩
    | float text =>
      rw [canonicalChars, canonicalChars] at h
      rw [Canonical] at hb
      obtain ⟨htext, -⟩ := number_split hm hb.1 hs ht h
      obtain ⟨c, hc, hdigit, hdash⟩ := hb.2.2
      rcases int_chars m c (htext ▸ hc) with hd | hd
      · rw [hd] at hdigit
        cases hdigit
      · exact absurd hd hdash
    | _ => cases hk
  | .float x, b, s, t, ha, hb, hs, ht, h => by
    have hk := kind_eq ha hb h
    rw [Canonical] at ha
    cases b with
    | int n =>
      rw [canonicalChars, canonicalChars] at h
      obtain ⟨htext, -⟩ := number_split ha.1 (fun c hc => isNumberChar_of (int_chars n c hc))
        hs ht h
      obtain ⟨c, hc, hdigit, hdash⟩ := ha.2.2
      rcases int_chars n c (htext ▸ hc) with hd | hd
      · rw [hd] at hdigit
        cases hdigit
      · exact absurd hd hdash
    | float y =>
      rw [canonicalChars, canonicalChars] at h
      rw [Canonical] at hb
      obtain ⟨htext, hst⟩ := number_split ha.1 hb.1 hs ht h
      exact ⟨congrArg Json.float (String.toList_inj.1 htext), hst⟩
    | _ => cases hk
  | .str x, b, s, t, ha, hb, hs, ht, h => by
    have hk := kind_eq ha hb h
    cases b with
    | str y =>
      rw [canonicalChars, canonicalChars] at h
      obtain ⟨rfl, hst⟩ := quote_inj h
      exact ⟨rfl, hst⟩
    | _ => cases hk
  | .arr xs, b, s, t, ha, hb, hs, ht, h => by
    have hk := kind_eq ha hb h
    rw [Canonical] at ha
    cases b with
    | arr ys =>
      rw [canonicalChars, canonicalChars] at h
      rw [Canonical] at hb
      rw [List.cons_append, List.cons_append, List.append_assoc, List.append_assoc] at h
      obtain ⟨rfl, hst⟩ := values_inj xs ys ha hb (List.cons.inj h).2
      exact ⟨rfl, hst⟩
    | _ => cases hk
  | .obj fs, b, s, t, ha, hb, hs, ht, h => by
    have hk := kind_eq ha hb h
    rw [Canonical] at ha
    cases b with
    | obj gs =>
      rw [Canonical] at hb
      rw [obj_chars ha.1, obj_chars hb.1] at h
      rw [List.cons_append, List.cons_append, List.append_assoc, List.append_assoc] at h
      obtain ⟨rfl, hst⟩ := fields_inj fs gs ha.2 hb.2 (List.cons.inj h).2
      exact ⟨rfl, hst⟩
    | _ => cases hk

theorem values_inj : ∀ (xs ys : List Json) {s t : List Char}, CanonicalValues xs →
    CanonicalValues ys → separated (canonicalValues xs) ++ ']' :: s =
      separated (canonicalValues ys) ++ ']' :: t → xs = ys ∧ s = t
  | [], [], s, t, hx, hy, h => ⟨rfl, (List.cons.inj h).2⟩
  | [], y :: ys, s, t, hx, hy, h => by
    rw [canonicalValues, canonicalValues] at h
    exact absurd h (closed_ne rfl (lead_value hy.1))
  | x :: xs, [], s, t, hx, hy, h => by
    rw [canonicalValues, canonicalValues] at h
    exact absurd h.symm (closed_ne rfl (lead_value hx.1))
  | x :: xs, y :: ys, s, t, hx, hy, h => by
    rw [canonicalValues, canonicalValues, separated_cons, separated_cons] at h
    obtain ⟨rfl, hrest⟩ := chars_inj x y hx.1 hy.1 (stops_restOf rfl _ _) (stops_restOf rfl _ _) h
    cases xs with
    | nil =>
      cases ys with
      | nil => exact ⟨rfl, (List.cons.inj hrest).2⟩
      | cons y' ys => exact absurd (List.cons.inj hrest).1 (by decide)
    | cons x' xs =>
      cases ys with
      | nil => exact absurd (List.cons.inj hrest).1 (by decide)
      | cons y' ys =>
        obtain ⟨htail, hst⟩ := values_inj (x' :: xs) (y' :: ys) hx.2 hy.2 (List.cons.inj hrest).2
        exact ⟨congrArg _ htail, hst⟩

theorem fields_inj : ∀ (fs gs : List (String × Json)) {s t : List Char}, CanonicalFields fs →
    CanonicalFields gs → separated ((canonicalFields fs).map Prod.snd) ++ '\x7d' :: s =
      separated ((canonicalFields gs).map Prod.snd) ++ '\x7d' :: t → fs = gs ∧ s = t
  | [], [], s, t, hf, hg, h => ⟨rfl, (List.cons.inj h).2⟩
  | [], (name, y) :: gs, s, t, hf, hg, h => by
    rw [canonicalFields, canonicalFields, List.map_cons] at h
    exact absurd h (closed_ne rfl ⟨'"', _, rfl, by decide⟩)
  | (name, x) :: fs, [], s, t, hf, hg, h => by
    rw [canonicalFields, canonicalFields, List.map_cons] at h
    exact absurd h.symm (closed_ne rfl ⟨'"', _, rfl, by decide⟩)
  | (name, x) :: fs, (name', y) :: gs, s, t, hf, hg, h => by
    rw [canonicalFields, canonicalFields, List.map_cons, List.map_cons, separated_cons,
      separated_cons, List.append_assoc, List.append_assoc] at h
    obtain ⟨rfl, hvalue⟩ := quote_inj h
    obtain ⟨rfl, hrest⟩ := chars_inj x y hf.1 hg.1 (stops_restOf rfl _ _) (stops_restOf rfl _ _)
      (List.cons.inj hvalue).2
    cases fs with
    | nil =>
      cases gs with
      | nil => exact ⟨rfl, (List.cons.inj hrest).2⟩
      | cons g gs => exact absurd (List.cons.inj hrest).1 (by decide)
    | cons f fs =>
      cases gs with
      | nil => exact absurd (List.cons.inj hrest).1 (by decide)
      | cons g gs =>
        obtain ⟨htail, hst⟩ := fields_inj (f :: fs) (g :: gs) hf.2 hg.2 (List.cons.inj hrest).2
        exact ⟨congrArg _ htail, hst⟩
end

theorem canonicalChars_inj {a b : Json} (ha : a.Canonical) (hb : b.Canonical)
    (h : canonicalChars a = canonicalChars b) : a = b := by
  have hstop : Stops [] := by
    intro c hc
    cases hc
  have happend : canonicalChars a ++ [] = canonicalChars b ++ [] := by
    rw [h]
  exact (chars_inj a b ha hb hstop hstop happend).1

end Json
end Library
