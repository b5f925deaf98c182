import Mathlib.Data.List.Basic
import Mathlib.Data.List.TakeWhile

namespace Library
set_option autoImplicit true

/-! ## Percent-encoding -/

def hexDigit (n : Nat) : Char :=
  (['0', '1', '2', '3', '4', '5', '6', '7', '8', '9', 'A', 'B', 'C', 'D', 'E', 'F'][n]?).getD '0'

def hexValue (c : Char) : Option Nat :=
  if '0' ≤ c ∧ c ≤ '9' then some (c.toNat - '0'.toNat)
  else if 'A' ≤ c ∧ c ≤ 'F' then some (c.toNat - 'A'.toNat + 10)
  else if 'a' ≤ c ∧ c ≤ 'f' then some (c.toNat - 'a'.toNat + 10)
  else none

/-- The characters that are never encoded. -/
def isUnreserved (c : Char) : Bool := c.isAlphanum || ['_', '.', '-', '~'].contains c

def quoteByte (b : UInt8) : List Char :=
  if isUnreserved (Char.ofNat b.toNat) then [Char.ofNat b.toNat]
  else ['%', hexDigit (b.toNat / 16), hexDigit (b.toNat % 16)]

/-- A blank is written as a plus. -/
def quotePlusByte (b : UInt8) : List Char := if b = 32 then ['+'] else quoteByte b

def quotePlus (text : String) : List Char :=
  (text.toList.flatMap String.utf8EncodeChar).flatMap quotePlusByte

/-- The bytes of a text: a percent that no two hex digits follow stays. -/
@[simp] def unquoteToBytes : List Char → List UInt8
  | [] => []
  | '%' :: hi :: lo :: rest =>
    match hexValue hi, hexValue lo with
    | some a, some b => UInt8.ofNat (16 * a + b) :: unquoteToBytes rest
    | _, _ => String.utf8EncodeChar '%' ++ unquoteToBytes (hi :: lo :: rest)
  | c :: rest => String.utf8EncodeChar c ++ unquoteToBytes rest

/-- `replaced` is the text of bytes that are no UTF-8. -/
def unquote (replaced : List UInt8 → String) (text : List Char) : String :=
  let bytes := unquoteToBytes text
  match bytes.toByteArray.utf8Decode? with
  | some chars => String.ofList chars.toList
  | none => replaced bytes

def unquotePlus (replaced : List UInt8 → String) (text : List Char) : String :=
  unquote replaced (text.map fun c => if c = '+' then ' ' else c)

theorem unquoteToBytes_hex : ∀ n < 256, (hexValue (hexDigit (n / 16)) = some (n / 16) ∧
    hexValue (hexDigit (n % 16)) = some (n % 16)) ∧
    hexDigit (n / 16) ≠ '+' ∧ hexDigit (n % 16) ≠ '+' := by
  decide +kernel

theorem unreserved_ascii : ∀ n < 256, isUnreserved (Char.ofNat n) = true →
    String.utf8EncodeChar (Char.ofNat n) = [UInt8.ofNat n] ∧ Char.ofNat n ≠ '%' ∧
      Char.ofNat n ≠ '+' := by
  decide +kernel

theorem unquoteToBytes_cons (h : c ≠ '%') (rest : List Char) :
    unquoteToBytes (c :: rest) = String.utf8EncodeChar c ++ unquoteToBytes rest := by
  rw [unquoteToBytes]
  intro hi lo rest' hc
  exact absurd hc h

theorem unquoteToBytes_quotePlusByte (b : UInt8) (rest : List Char) :
    unquoteToBytes ((quotePlusByte b).map (fun c => if c = '+' then ' ' else c) ++ rest) =
      b :: unquoteToBytes rest := by
  have hb : b.toNat < 256 := b.toNat_lt
  rw [quotePlusByte]
  by_cases hblank : b = 32
  · rw [if_pos hblank, hblank]
    exact unquoteToBytes_cons (by decide) rest
  · rw [if_neg hblank, quoteByte]
    by_cases h : isUnreserved (Char.ofNat b.toNat) = true
    · obtain ⟨hutf8, hpercent, hplus⟩ := unreserved_ascii b.toNat hb h
      rw [if_pos h, List.map_cons, if_neg hplus, List.map_nil, List.singleton_append,
        unquoteToBytes_cons hpercent, hutf8, UInt8.ofNat_toNat]
      rfl
    · obtain ⟨⟨hhi, hlo⟩, hplus, hplus'⟩ := unquoteToBytes_hex b.toNat hb
      have hpercent : ('%' : Char) ≠ '+' := by decide
      rw [if_neg h, List.map_cons, List.map_cons, List.map_cons, List.map_nil, if_neg hpercent,
        if_neg hplus, if_neg hplus', List.cons_append, List.cons_append, List.cons_append,
        List.nil_append, unquoteToBytes]
      simp only [hhi, hlo]
      rw [Nat.div_add_mod, UInt8.ofNat_toNat]

theorem unquoteToBytes_quotePlus (bytes : List UInt8) :
    unquoteToBytes ((bytes.flatMap quotePlusByte).map fun c => if c = '+' then ' ' else c) =
      bytes := by
  induction bytes with
  | nil => rfl
  | cons b bytes ih =>
    rw [List.flatMap_cons, List.map_append, unquoteToBytes_quotePlusByte, ih]

/-- A text that was written is read as it was. -/
theorem unquotePlus_quotePlus (replaced : List UInt8 → String) (text : String) :
    unquotePlus replaced (quotePlus text) = text := by
  have hdecode : (text.toList.flatMap String.utf8EncodeChar).toByteArray.utf8Decode? =
      some text.toList.toArray := List.utf8Decode?_utf8Encode
  simp only [unquotePlus, unquote, quotePlus, unquoteToBytes_quotePlus, hdecode]
  exact String.ofList_toList

theorem quotePlusByte_chars : ∀ n < 256, (quotePlusByte (UInt8.ofNat n)).all (fun c =>
    isUnreserved c || c == '%' || c == '+') = true := by
  decide +kernel

theorem mem_quotePlus {text : String} (h : c ∈ quotePlus text) :
    isUnreserved c = true ∨ c = '%' ∨ c = '+' := by
  obtain ⟨b, _, hc⟩ := List.mem_flatMap.1 h
  have hall := List.all_eq_true.1 (quotePlusByte_chars b.toNat b.toNat_lt) c
    (by rw [UInt8.ofNat_toNat]; exact hc)
  simpa [or_assoc] using hall

/-! ## Queries -/

def urlencode (query : List (String × String)) : List Char :=
  ['&'].intercalate (query.map fun p => quotePlus p.1 ++ '=' :: quotePlus p.2)

/-- Blank values are kept. -/
def parseQsl (replaced : List UInt8 → String) (text : List Char) : List (String × String) :=
  (text.splitOn '&').filterMap fun pair =>
    if pair = [] then none
    else some (unquotePlus replaced (pair.takeWhile (· != '=')),
      unquotePlus replaced ((pair.dropWhile (· != '=')).drop 1))

theorem takeWhile_before {l : List Char} {c : Char} (h : c ∉ l) (rest : List Char) :
    (l ++ c :: rest).takeWhile (· != c) = l := by
  have hl : ∀ d ∈ l, (d != c) = true := by
    intro d hd
    simpa using fun he : d = c => h (he ▸ hd)
  rw [List.takeWhile_append_of_pos hl, List.takeWhile_cons_of_neg (by simp), List.append_nil]

theorem dropWhile_before {l : List Char} {c : Char} (h : c ∉ l) (rest : List Char) :
    (l ++ c :: rest).dropWhile (· != c) = c :: rest := by
  have hl : ∀ d ∈ l, (d != c) = true := by
    intro d hd
    simpa using fun he : d = c => h (he ▸ hd)
  rw [List.dropWhile_append_of_pos hl, List.dropWhile_cons_of_neg (by simp)]

theorem not_mem_quotePlus {c : Char} (h : (isUnreserved c || c == '%' || c == '+') = false)
    (text : String) : c ∉ quotePlus text := by
  intro hc
  simp only [Bool.or_eq_false_iff, beq_eq_false_iff_ne] at h
  rcases mem_quotePlus hc with hc | hc | hc
  · exact Bool.false_ne_true (h.1.1.symm.trans hc)
  · exact h.1.2 hc
  · exact h.2 hc

/-- A query that was written is read as it was. -/
theorem parseQsl_urlencode (replaced : List UInt8 → String) (query : List (String × String)) :
    parseQsl replaced (urlencode query) = query := by
  rw [parseQsl, urlencode]
  by_cases hq : query = []
  · rw [hq]
    rfl
  · rw [List.splitOn_intercalate, List.filterMap_map]
    · have hpair : ∀ p : String × String, (fun pair : List Char =>
          if pair = [] then none
          else some (unquotePlus replaced (pair.takeWhile (· != '=')),
            unquotePlus replaced ((pair.dropWhile (· != '=')).drop 1)))
            (quotePlus p.1 ++ '=' :: quotePlus p.2) = some p := by
        intro p
        have hname : '=' ∉ quotePlus p.1 := not_mem_quotePlus (by decide) p.1
        simp only [List.append_eq_nil_iff, reduceCtorEq, and_false, if_false]
        rw [takeWhile_before hname, dropWhile_before hname, List.drop_one, List.tail_cons,
          unquotePlus_quotePlus, unquotePlus_quotePlus]
      exact (List.filterMap_congr fun p _ => hpair p).trans List.filterMap_some
    · intro l hl
      obtain ⟨p, _, rfl⟩ := List.mem_map.1 hl
      simp only [List.mem_append, List.mem_cons, not_or]
      exact ⟨not_mem_quotePlus (by decide) _, by decide, not_mem_quotePlus (by decide) _⟩
    · simpa using hq

theorem mem_intercalate {sep : List α} {ls : List (List α)} (h : a ∈ sep.intercalate ls) :
    a ∈ sep ∨ ∃ l ∈ ls, a ∈ l := by
  induction ls with
  | nil => simp at h
  | cons l ls ih =>
    by_cases hls : ls = []
    · subst hls
      rw [List.intercalate_singleton] at h
      exact .inr ⟨l, List.mem_cons_self, h⟩
    · rw [List.intercalate_cons_of_ne_nil hls, List.mem_append, List.mem_append] at h
      rcases h with (h | h) | h
      · exact .inr ⟨l, List.mem_cons_self, h⟩
      · exact .inl h
      · rcases ih h with h | ⟨l', hl', h⟩
        · exact .inl h
        · exact .inr ⟨l', List.mem_cons_of_mem _ hl', h⟩

theorem mem_urlencode {c : Char} {query : List (String × String)} (h : c ∈ urlencode query) :
    isUnreserved c = true ∨ c = '%' ∨ c = '+' ∨ c = '=' ∨ c = '&' := by
  rcases mem_intercalate h with h | ⟨l, hl, h⟩
  · exact .inr (.inr (.inr (.inr (List.mem_singleton.1 h))))
  · obtain ⟨p, _, rfl⟩ := List.mem_map.1 hl
    rcases List.mem_append.1 h with h | h
    · rcases mem_quotePlus h with h | h | h
      · exact .inl h
      · exact .inr (.inl h)
      · exact .inr (.inr (.inl h))
    · rcases List.mem_cons.1 h with h | h
      · exact .inr (.inr (.inr (.inl h)))
      · rcases mem_quotePlus h with h | h | h
        · exact .inl h
        · exact .inr (.inl h)
        · exact .inr (.inr (.inl h))

/-! ## URLs -/

structure SplitUrl where
  scheme : List Char
  netloc : List Char
  path : List Char
  query : List Char
  fragment : List Char

/-- For a network location that is not empty. -/
def urlunsplit (u : SplitUrl) : List Char :=
  u.scheme ++ ':' :: '/' :: '/' :: (u.netloc ++
    ((if u.path = [] ∨ u.path.head? = some '/' then u.path else '/' :: u.path) ++
      ((if u.query = [] then [] else '?' :: u.query) ++
        if u.fragment = [] then [] else '#' :: u.fragment)))

def isSchemeChar (c : Char) : Bool := c.isAlphanum || ['+', '-', '.'].contains c

/-- The scheme in lower case, and what stands behind it. -/
def splitScheme (url : List Char) : List Char × List Char :=
  let name := url.takeWhile (· != ':')
  if ':' ∈ url ∧ (name.head?.any Char.isAlpha) = true ∧ name.all isSchemeChar = true then
    (name.map Char.toLower, (url.dropWhile (· != ':')).drop 1)
  else ([], url)

def isLineEnd (c : Char) : Bool := ['\t', '\r', '\n'].contains c

def endsNetloc (c : Char) : Bool := ['/', '?', '#'].contains c

/-- What stands before a separator, and what stands behind it. -/
def partitionAt (c : Char) (url : List Char) : List Char × List Char :=
  (url.takeWhile (· != c), (url.dropWhile (· != c)).drop 1)

/-- An address in brackets is not read. -/
def urlsplit (url : List Char) : Option SplitUrl :=
  let url := (url.dropWhile fun c => decide (c ≤ ' ')).filter fun c => !isLineEnd c
  let (scheme, url) := splitScheme url
  let (netloc, url) := if ['/', '/'].isPrefixOf url then
    ((url.drop 2).takeWhile fun c => !endsNetloc c, (url.drop 2).dropWhile fun c => !endsNetloc c)
    else ([], url)
  if '[' ∈ netloc ∨ ']' ∈ netloc then none
  else
    let (url, fragment) := partitionAt '#' url
    let (path, query) := partitionAt '?' url
    some ⟨scheme, netloc, path, query, fragment⟩

theorem partitionAt_before {l : List Char} {c : Char} (h : c ∉ l) (rest : List Char) :
    partitionAt c (l ++ c :: rest) = (l, rest) := by
  rw [partitionAt, takeWhile_before h, dropWhile_before h]
  rfl

theorem partitionAt_none {l : List Char} {c : Char} (h : c ∉ l) :
    partitionAt c l = (l, []) := by
  have hl : ∀ d ∈ l, (d != c) = true := by
    intro d hd
    simpa using fun he : d = c => h (he ▸ hd)
  rw [partitionAt, List.takeWhile_eq_self_iff.2 hl, List.dropWhile_eq_nil_iff.2 hl]
  rfl

/-- What a network location is made of that can be read again. -/
def PlainNetloc (netloc : List Char) : Prop :=
  ∀ c ∈ netloc, endsNetloc c = false ∧ c ≠ '[' ∧ c ≠ ']' ∧ isLineEnd c = false

theorem splitScheme_before {scheme rest : List Char}
    (hscheme : scheme.head?.any Char.isAlpha = true) (hchars : scheme.all isSchemeChar = true)
    (hlower : scheme.map Char.toLower = scheme) :
    splitScheme (scheme ++ ':' :: rest) = (scheme, rest) := by
  have hcolon : ':' ∉ scheme := by
    intro h
    have hc := List.all_eq_true.1 hchars ':' h
    exact absurd hc (by decide)
  have hmem : ':' ∈ scheme ++ ':' :: rest := List.mem_append_right _ List.mem_cons_self
  rw [splitScheme, takeWhile_before hcolon, dropWhile_before hcolon]
  simp only [hmem, hscheme, hchars, hlower, and_self, if_true, List.drop_one, List.tail_cons]

theorem isLineEnd_eq_false {q : Char → Bool} (h : q c = true)
    (hq : q '\t' = false ∧ q '\r' = false ∧ q '\n' = false) : isLineEnd c = false := by
  cases hc : isLineEnd c with
  | false => rfl
  | true =>
  have hmem : c ∈ ['\t', '\r', '\n'] := by simpa [isLineEnd] using hc
  have hends : c = '\t' ∨ c = '\r' ∨ c = '\n' := by simpa using hmem
  rcases hends with rfl | rfl | rfl
  · exact absurd (hq.1.symm.trans h) Bool.false_ne_true
  · exact absurd (hq.2.1.symm.trans h) Bool.false_ne_true
  · exact absurd (hq.2.2.symm.trans h) Bool.false_ne_true

theorem filter_plain {l : List Char} (h : ∀ c ∈ l, isLineEnd c = false) :
    (l.filter fun c => !isLineEnd c) = l := by
  apply List.filter_eq_self.2
  intro c hc
  rw [h c hc]
  rfl

/-- A URL without path that was put together is read as it was; the fragment loses its line ends. -/
theorem urlsplit_urlunsplit {scheme netloc query fragment : List Char}
    (hscheme : scheme.head?.any Char.isAlpha = true) (hchars : scheme.all isSchemeChar = true)
    (hlower : scheme.map Char.toLower = scheme) (hnetloc : PlainNetloc netloc)
    (hquery : query ≠ []) (hq : ∀ c ∈ query, c ≠ '#' ∧ isLineEnd c = false) :
    urlsplit (urlunsplit ⟨scheme, netloc, [], query, fragment⟩) =
      some ⟨scheme, netloc, [], query, fragment.filter fun c => !isLineEnd c⟩ := by
  have hfirst : (urlunsplit ⟨scheme, netloc, [], query, fragment⟩).dropWhile
      (fun c => decide (c ≤ ' ')) = urlunsplit ⟨scheme, netloc, [], query, fragment⟩ := by
    cases scheme with
    | nil => exact absurd hscheme (by simp)
    | cons c scheme =>
      have hc : c.isAlpha = true := by simpa using hscheme
      have hblank : decide (c ≤ ' ') = false := by
        apply decide_eq_false
        intro hle
        have hval : c.toNat ≤ 32 := hle
        have hsmall : ∀ n < 33, (Char.ofNat n).isAlpha = false := by decide
        have halpha := hsmall c.toNat (Nat.lt_succ_of_le hval)
        rw [Char.ofNat_toNat] at halpha
        exact Bool.false_ne_true (halpha.symm.trans hc)
      rw [urlunsplit, List.cons_append, List.dropWhile_cons_of_neg (by simp [hblank])]
  have hclean : ((urlunsplit ⟨scheme, netloc, [], query, fragment⟩).filter fun c => !isLineEnd c) =
      scheme ++ ':' :: ('/' :: '/' :: (netloc ++ '?' :: (query ++
        (if fragment = [] then [] else '#' :: fragment.filter fun c => !isLineEnd c)))) := by
    have hscheme' : ∀ c ∈ scheme, isLineEnd c = false := fun c hc =>
      isLineEnd_eq_false (List.all_eq_true.1 hchars c hc) (by decide)
    have hnetloc' : ∀ c ∈ netloc, isLineEnd c = false := fun c hc => (hnetloc c hc).2.2.2
    simp only [urlunsplit, List.filter_append, List.filter_cons, filter_plain hscheme',
      filter_plain hnetloc', filter_plain fun c hc => (hq c hc).2, if_neg hquery]
    by_cases hf : fragment = []
    · simp [hf, isLineEnd]
    · simp [hf, isLineEnd]
  have hnet : ∀ rest, ((netloc ++ '?' :: rest).takeWhile fun c => !endsNetloc c) = netloc ∧
      ((netloc ++ '?' :: rest).dropWhile fun c => !endsNetloc c) = '?' :: rest := by
    intro rest
    have hl : ∀ c ∈ netloc, (!endsNetloc c) = true := by
      intro c hc
      rw [(hnetloc c hc).1]
      rfl
    rw [List.takeWhile_append_of_pos hl, List.dropWhile_append_of_pos hl,
      List.takeWhile_cons_of_neg (by decide), List.dropWhile_cons_of_neg (by decide),
      List.append_nil]
    exact ⟨rfl, rfl⟩
  have hbracket : ¬ ('[' ∈ netloc ∨ ']' ∈ netloc) := by
    rintro (h | h)
    · exact (hnetloc _ h).2.1 rfl
    · exact (hnetloc _ h).2.2.1 rfl
  have hhash : partitionAt '#' ('?' :: (query ++
      (if fragment = [] then [] else '#' :: fragment.filter fun c => !isLineEnd c))) =
      ('?' :: query, fragment.filter fun c => !isLineEnd c) := by
    have hno : '#' ∉ '?' :: query := by
      intro h
      rcases List.mem_cons.1 h with h | h
      · exact absurd h (by decide)
      · exact (hq _ h).1 rfl
    by_cases hf : fragment = []
    · rw [if_pos hf, List.append_nil, hf]
      exact partitionAt_none hno
    · rw [if_neg hf]
      exact partitionAt_before hno _
  have hmark : partitionAt '?' ('?' :: query) = ([], query) :=
    partitionAt_before (l := []) (by simp) query
  have hprefix : ∀ rest : List Char, ['/', '/'].isPrefixOf ('/' :: '/' :: rest) = true :=
    fun rest => by simp
  simp only [urlsplit, hfirst, hclean, splitScheme_before hscheme hchars hlower, hprefix, if_true,
    List.drop_succ_cons, List.drop_zero, (hnet _).1, (hnet _).2, if_neg hbracket, hhash, hmark]

/-! ## Network locations -/

/-- What stands before the last at sign, if there is one, and what stands behind it. -/
def splitUserinfo (netloc : List Char) : Option (List Char) × List Char :=
  if '@' ∈ netloc then
    (some ((netloc.reverse.dropWhile (· != '@')).drop 1).reverse,
      (netloc.reverse.takeWhile (· != '@')).reverse)
  else (none, netloc)

/-- A port that is missing, or one that is a number; any other is refused. -/
def readPort (text : List Char) : Option (Option Nat) :=
  if text = [] then some none
  else if text.all Char.isDigit ∧ Nat.ofDigitChars 10 text 0 ≤ 65535 then
    some (some (Nat.ofDigitChars 10 text 0))
  else none

theorem splitUserinfo_at {hostinfo : List Char} (h : '@' ∉ hostinfo) (userinfo : List Char) :
    splitUserinfo (userinfo ++ '@' :: hostinfo) = (some userinfo, hostinfo) := by
  have hmem : '@' ∈ userinfo ++ '@' :: hostinfo := List.mem_append_right _ List.mem_cons_self
  have hreverse : (userinfo ++ '@' :: hostinfo).reverse =
      hostinfo.reverse ++ '@' :: userinfo.reverse := by simp
  have hhost : '@' ∉ hostinfo.reverse := fun hc => h (List.mem_reverse.1 hc)
  rw [splitUserinfo, if_pos hmem, hreverse, takeWhile_before hhost, dropWhile_before hhost]
  simp

theorem toDigits_isDigit {n : Nat} (h : c ∈ Nat.toDigits 10 n) : c.isDigit = true :=
  Nat.isDigit_of_mem_toDigits (by decide) (by decide) h

theorem readPort_toDigits {n : Nat} (h : n ≤ 65535) :
    readPort (Nat.toDigits 10 n) = some (some n) := by
  have hne : Nat.toDigits 10 n ≠ [] := Nat.toDigits_ne_nil
  have hall : (Nat.toDigits 10 n).all Char.isDigit = true :=
    List.all_eq_true.2 fun c hc => toDigits_isDigit hc
  rw [readPort, if_neg hne, Nat.ofDigitChars_ten_toDigits, if_pos ⟨hall, h⟩]

end Library
