import Mathlib.Data.Multiset.Basic
import AegisVPN.Library.Base64
import AegisVPN.Library.JsonText
import AegisVPN.Library.SortedBy

namespace AegisVPN
open Library
set_option autoImplicit true

/-! # The digest of the rows of a table -/

/-! ## Values -/

structure CalendarDate where
  year : Nat
  month : Nat
  day : Nat
  valid : year < 10000 ∧ month < 13 ∧ day < 32
  deriving DecidableEq

structure ClockTime where
  hour : Nat
  minute : Nat
  second : Nat
  microsecond : Nat
  valid : hour < 24 ∧ minute < 60 ∧ second < 60 ∧ microsecond < 1000000
  deriving DecidableEq

/-- A value of a JSON column. An object is a dictionary, so its fields stand in the order of their
names, and the null of JSON is read as no value at all. -/
structure JsonValue where
  value : Json
  canonical : value.Canonical
  notNull : value ≠ .null
  deriving DecidableEq

/-- A value of a row, as SQLAlchemy reads it. -/
inductive DbValue
  | null
  | int (n : Int)
  | text (s : String)
  | bool (b : Bool)
  | date (date : CalendarDate)
  | datetime (date : CalendarDate) (time : ClockTime)
  | bytes (bytes : List UInt8)
  | json (value : JsonValue)
  deriving DecidableEq

def CalendarDate.isoformat (d : CalendarDate) : List Char :=
  padded 4 d.year ++ '-' :: (padded 2 d.month ++ '-' :: padded 2 d.day)

def ClockTime.isoformat (t : ClockTime) : List Char :=
  padded 2 t.hour ++ ':' :: (padded 2 t.minute ++ ':' :: (padded 2 t.second ++
    if t.microsecond = 0 then [] else '.' :: padded 6 t.microsecond))

def jsonValue : DbValue → Json
  | .null => .null
  | .int n => .int n
  | .text s => .str s
  | .bool b => .bool b
  | .date date => .str (String.ofList date.isoformat)
  | .datetime date time => .str (String.ofList (date.isoformat ++ 'T' :: time.isoformat))
  | .bytes bytes => .obj [("$bytes", .str (String.ofList (b64encode bytes)))]
  | .json value => value.value

/-! ## Digests -/

/-- A row with its columns in order. -/
def rowJson (row : List (String × DbValue)) : Json :=
  .obj (Json.sortByName (row.map fun entry => (entry.1, jsonValue entry.2)))

def canonicalRows (rows : List (List (String × DbValue))) : List Json :=
  (rows.map rowJson).insertionSort fun a b => a.canonical ≤ b.canonical

def rowsPayload (rows : List (List (String × DbValue))) : String :=
  (Json.arr (canonicalRows rows)).canonical

def canonicalRowsDigest (sha256 : String → D) (rows : List (List (String × DbValue))) : D :=
  sha256 (rowsPayload rows)

/-! ## Tables -/

inductive ColumnType
  | int
  | text
  | bool
  | date
  | datetime
  | bytes
  | json
  deriving DecidableEq

def DbValue.hasType : DbValue → ColumnType → Bool
  | .null, _ => true
  | .int _, .int => true
  | .text _, .text => true
  | .bool _, .bool => true
  | .date _, .date => true
  | .datetime _ _, .datetime => true
  | .bytes _, .bytes => true
  | .json _, .json => true
  | _, _ => false

structure ModelTable where
  name : String
  columns : List (String × ColumnType)
  nodup : (columns.map Prod.fst).Nodup
  deriving DecidableEq

/-- A row has each column once, with values of the type of the column. -/
structure TableRow (table : ModelTable) where
  entries : List (String × DbValue)
  names : (entries.map Prod.fst).Perm (table.columns.map Prod.fst)
  typed : ∀ entry ∈ entries, ∀ column ∈ table.columns, entry.1 = column.1 →
    entry.2.hasType column.2 = true

/-- A row is a dictionary: what it is does not depend on the order of its columns. -/
def TableRow.content (row : TableRow table) : Multiset (String × DbValue) := row.entries

/-! ## What a value is written as -/

theorem isoformat_date_inj {d e : CalendarDate} {x y : List Char}
    (h : d.isoformat ++ x = e.isoformat ++ y) : d = e ∧ x = y := by
  obtain ⟨dyear, dmonth, dday, hdy, hdm, hdd⟩ := d
  obtain ⟨eyear, emonth, eday, hey, hem, hed⟩ := e
  simp only [CalendarDate.isoformat, List.append_assoc, List.cons_append] at h
  obtain ⟨hyear, h₁⟩ := List.append_inj h (by rw [length_padded, length_padded])
  obtain ⟨hmonth, h₂⟩ := List.append_inj (List.cons.inj h₁).2
    (by rw [length_padded, length_padded])
  obtain ⟨hday, h₃⟩ := List.append_inj (List.cons.inj h₂).2
    (by rw [length_padded, length_padded])
  obtain rfl := padded_width_inj (by omega) (by omega) hyear
  obtain rfl := padded_width_inj (by omega) (by omega) hmonth
  obtain rfl := padded_width_inj (by omega) (by omega) hday
  exact ⟨rfl, h₃⟩

theorem isoformat_time_inj {t u : ClockTime} (h : t.isoformat = u.isoformat) : t = u := by
  obtain ⟨thour, tminute, tsecond, tmicro, hth, htm, hts, htu⟩ := t
  obtain ⟨uhour, uminute, usecond, umicro, huh, hum, hus, huu⟩ := u
  simp only [ClockTime.isoformat] at h
  obtain ⟨hhour, h₁⟩ := List.append_inj h (by rw [length_padded, length_padded])
  obtain ⟨hminute, h₂⟩ := List.append_inj (List.cons.inj h₁).2
    (by rw [length_padded, length_padded])
  obtain ⟨hsecond, h₃⟩ := List.append_inj (List.cons.inj h₂).2
    (by rw [length_padded, length_padded])
  obtain rfl := padded_width_inj (by omega) (by omega) hhour
  obtain rfl := padded_width_inj (by omega) (by omega) hminute
  obtain rfl := padded_width_inj (by omega) (by omega) hsecond
  have hmicro : tmicro = umicro := by
    by_cases ht : tmicro = 0
    · by_cases hu : umicro = 0
      · rw [ht, hu]
      · rw [if_pos ht, if_neg hu] at h₃
        cases h₃
    · by_cases hu : umicro = 0
      · rw [if_neg ht, if_pos hu] at h₃
        cases h₃
      · rw [if_neg ht, if_neg hu] at h₃
        exact padded_width_inj htu huu (List.cons.inj h₃).2
  obtain rfl := hmicro
  rfl

/-- Within the type of one column, no two values are written alike. -/
theorem jsonValue_inj {v w : DbValue} {ty : ColumnType} (hv : v.hasType ty = true)
    (hw : w.hasType ty = true) (h : jsonValue v = jsonValue w) : v = w := by
  cases v with
  | null =>
    cases w with
    | null => rfl
    | json value => exact absurd h.symm value.notNull
    | _ => cases h
  | int m =>
    cases w with
    | int n => exact congrArg DbValue.int (Json.int.inj h)
    | null => cases h
    | _ =>
      cases ty <;> cases hv
      cases hw
  | text s =>
    cases w with
    | text t => exact congrArg DbValue.text (Json.str.inj h)
    | null => cases h
    | _ =>
      cases ty <;> cases hv
      cases hw
  | bool b =>
    cases w with
    | bool c => exact congrArg DbValue.bool (Json.bool.inj h)
    | null => cases h
    | _ =>
      cases ty <;> cases hv
      cases hw
  | date d =>
    cases w with
    | date e =>
      have htext := String.ofList_injective (Json.str.inj h)
      rw [(isoformat_date_inj (congrArg (· ++ []) htext)).1]
    | null => cases h
    | _ =>
      cases ty <;> cases hv
      cases hw
  | datetime d t =>
    cases w with
    | datetime e u =>
      have htext := String.ofList_injective (Json.str.inj h)
      obtain ⟨hdate, htime⟩ := isoformat_date_inj htext
      rw [hdate, isoformat_time_inj (List.cons.inj htime).2]
    | null => cases h
    | _ =>
      cases ty <;> cases hv
      cases hw
  | bytes a =>
    cases w with
    | bytes b =>
      have hfield := (List.cons.inj (Json.obj.inj h)).1
      have htext := String.ofList_injective (Json.str.inj (Prod.mk.inj hfield).2)
      exact congrArg DbValue.bytes (b64encode_inj htext)
    | null => cases h
    | _ =>
      cases ty <;> cases hv
      cases hw
  | json x =>
    cases w with
    | json y =>
      obtain ⟨x, hx, hx'⟩ := x
      obtain ⟨y, hy, hy'⟩ := y
      have hxy : x = y := h
      subst hxy
      rfl
    | null => exact absurd h x.notNull
    | _ =>
      cases ty <;> cases hv
      cases hw

/-! ## What a row is written as -/

theorem canonicalFields_iff (fields : List (String × Json)) :
    Json.CanonicalFields fields ↔ ∀ field ∈ fields, field.2.Canonical := by
  induction fields with
  | nil => exact ⟨fun _ field h => absurd h List.not_mem_nil, fun _ => trivial⟩
  | cons field fields ih =>
    rw [Json.CanonicalFields, ih, List.forall_mem_cons]

theorem canonicalValues_iff (values : List Json) :
    Json.CanonicalValues values ↔ ∀ value ∈ values, value.Canonical := by
  induction values with
  | nil => exact ⟨fun _ value h => absurd h List.not_mem_nil, fun _ => trivial⟩
  | cons value values ih =>
    rw [Json.CanonicalValues, ih, List.forall_mem_cons]

theorem jsonValue_canonical (v : DbValue) : (jsonValue v).Canonical := by
  cases v with
  | null => trivial
  | int n => trivial
  | text s => trivial
  | bool b => trivial
  | date d => trivial
  | datetime d t => trivial
  | bytes b =>
    rw [jsonValue, Json.Canonical]
    exact ⟨List.pairwise_singleton _ _, trivial, trivial⟩
  | json value => exact value.canonical

theorem sortByName_increasing {fields : List (String × β)} (h : (fields.map Prod.fst).Nodup) :
    ((Json.sortByName fields).map Prod.fst).Pairwise (· < ·) := by
  have hperm : ((Json.sortByName fields).map Prod.fst).Perm (fields.map Prod.fst) :=
    (List.perm_insertionSort _ fields).map Prod.fst
  have hsorted := pairwise_sorted (r := fun a b : String × β => a.1 ≤ b.1) Prod.fst
    (fun a b => Iff.rfl) fields
  have hle : ((Json.sortByName fields).map Prod.fst).Pairwise (· ≤ ·) := List.pairwise_map.2 hsorted
  have hne : ((Json.sortByName fields).map Prod.fst).Pairwise (· ≠ ·) := hperm.nodup_iff.2 h
  exact (hle.and hne).imp fun hboth => lt_of_le_of_ne hboth.1 hboth.2

section Rows
variable {table : ModelTable}

theorem TableRow.nodup (row : TableRow table) : (row.entries.map Prod.fst).Nodup :=
  row.names.nodup_iff.2 table.nodup

theorem names_jsonValue (entries : List (String × DbValue)) :
    (entries.map fun entry => (entry.1, jsonValue entry.2)).map Prod.fst =
      entries.map Prod.fst := by
  rw [List.map_map]
  rfl

theorem rowJson_canonical (row : TableRow table) : (rowJson row.entries).Canonical := by
  rw [rowJson, Json.Canonical]
  constructor
  · apply sortByName_increasing
    rw [names_jsonValue]
    exact row.nodup
  · apply (canonicalFields_iff _).2
    intro field hfield
    have hmem := (List.mem_insertionSort _).1 hfield
    obtain ⟨entry, -, rfl⟩ := List.mem_map.1 hmem
    exact jsonValue_canonical entry.2

theorem TableRow.column {row : TableRow table} {entry : String × DbValue}
    (h : entry ∈ row.entries) : ∃ column ∈ table.columns, entry.1 = column.1 := by
  have hname : entry.1 ∈ table.columns.map Prod.fst :=
    row.names.subset (List.mem_map_of_mem h)
  obtain ⟨column, hcolumn, he⟩ := List.mem_map.1 hname
  exact ⟨column, hcolumn, he.symm⟩

theorem rowJson_eq_iff (row row' : TableRow table) :
    rowJson row.entries = rowJson row'.entries ↔ row.content = row'.content := by
  have hentry : ∀ a ∈ row.entries, ∀ b ∈ row'.entries,
      (a.1, jsonValue a.2) = (b.1, jsonValue b.2) ↔ id a = id b := by
    intro a ha b hb
    constructor
    · intro he
      obtain ⟨hname, hvalue⟩ := Prod.mk.inj he
      obtain ⟨column, hcolumn, hc⟩ := TableRow.column ha
      have hv := jsonValue_inj (row.typed a ha column hcolumn hc)
        (row'.typed b hb column hcolumn (hname.symm.trans hc)) hvalue
      exact Prod.ext hname hv
    · intro he
      have hab : a = b := he
      rw [hab]
  have hperm := perm_map_iff hentry
  rw [List.map_id, List.map_id] at hperm
  rw [TableRow.content, TableRow.content, Multiset.coe_eq_coe, ← hperm]
  constructor
  · intro h
    have hsorted := Json.obj.inj h
    have hleft := List.perm_insertionSort (fun a b : String × Json => a.1 ≤ b.1)
      (row.entries.map fun entry => (entry.1, jsonValue entry.2))
    have hright := List.perm_insertionSort (fun a b : String × Json => a.1 ≤ b.1)
      (row'.entries.map fun entry => (entry.1, jsonValue entry.2))
    exact hleft.symm.trans ((List.Perm.of_eq hsorted).trans hright)
  · intro h
    apply congrArg Json.obj
    apply insertionSort_perm Prod.fst (fun a b => Iff.rfl) h
    intro a ha b hb hname
    have hnodup : ((row.entries.map fun entry => (entry.1, jsonValue entry.2)).map
        Prod.fst).Nodup := by
      rw [names_jsonValue]
      exact row.nodup
    exact List.inj_on_of_nodup_map hnodup ha hb hname

/-! ## What a table is written as -/

def TableRow.rows (rows : List (TableRow table)) : List (List (String × DbValue)) :=
  rows.map TableRow.entries

theorem canonical_text_inj {a b : Json} (ha : a.Canonical) (hb : b.Canonical)
    (h : a.canonical = b.canonical) : a = b :=
  Json.canonicalChars_inj ha hb (String.ofList_injective h)

theorem canonicalRows_eq_iff (rows rows' : List (TableRow table)) :
    canonicalRows (TableRow.rows rows) = canonicalRows (TableRow.rows rows') ↔
      (rows.map TableRow.content).Perm (rows'.map TableRow.content) := by
  have hjson : ∀ rows : List (TableRow table), ∀ a ∈ (TableRow.rows rows).map rowJson,
      a.Canonical := by
    intro rows a ha
    obtain ⟨entries, hentries, rfl⟩ := List.mem_map.1 ha
    obtain ⟨row, -, rfl⟩ := List.mem_map.1 hentries
    exact rowJson_canonical row
  have hrows := perm_map_iff fun a (_ : a ∈ rows) b (_ : b ∈ rows') => rowJson_eq_iff a b
  rw [← hrows]
  have hmap : ∀ rows : List (TableRow table), (TableRow.rows rows).map rowJson =
      rows.map fun row => rowJson row.entries := by
    intro rows
    rw [TableRow.rows, List.map_map]
    rfl
  rw [← hmap, ← hmap]
  constructor
  · intro h
    have hleft := List.perm_insertionSort (fun a b : Json => a.canonical ≤ b.canonical)
      ((TableRow.rows rows).map rowJson)
    have hright := List.perm_insertionSort (fun a b : Json => a.canonical ≤ b.canonical)
      ((TableRow.rows rows').map rowJson)
    exact hleft.symm.trans ((List.Perm.of_eq h).trans hright)
  · intro h
    apply insertionSort_perm Json.canonical (fun a b => Iff.rfl) h
    intro a ha b hb
    exact canonical_text_inj (hjson rows a ha) (hjson rows b hb)

theorem canonicalRows_canonical (rows : List (TableRow table)) :
    (Json.arr (canonicalRows (TableRow.rows rows))).Canonical := by
  rw [Json.Canonical]
  apply (canonicalValues_iff _).2
  intro value hvalue
  have hmem := (List.mem_insertionSort _).1 hvalue
  obtain ⟨entries, hentries, rfl⟩ := List.mem_map.1 hmem
  obtain ⟨row, -, rfl⟩ := List.mem_map.1 hentries
  exact rowJson_canonical row

/-- The digests of two lists of rows of a table are equal just when the rows are, in any order of
rows and columns. -/
theorem digest_eq_iff {sha256 : String → D} (hsha : Function.Injective sha256)
    (rows rows' : List (TableRow table)) :
    canonicalRowsDigest sha256 (TableRow.rows rows) =
      canonicalRowsDigest sha256 (TableRow.rows rows') ↔
        (rows.map TableRow.content).Perm (rows'.map TableRow.content) := by
  rw [← canonicalRows_eq_iff]
  constructor
  · intro h
    exact Json.arr.inj (canonical_text_inj (canonicalRows_canonical rows)
      (canonicalRows_canonical rows') (hsha h))
  · intro h
    rw [canonicalRowsDigest, canonicalRowsDigest, rowsPayload, rowsPayload, h]

end Rows

end AegisVPN
