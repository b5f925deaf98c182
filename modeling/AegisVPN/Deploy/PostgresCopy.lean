import Mathlib.Logic.Function.Basic
import AegisVPN.Deploy.RowsDigest

namespace AegisVPN
open Library
set_option autoImplicit true

/-! # The copy from SQLite to PostgreSQL -/

inductive MigrateError
  | insert
  | undefinedColumn
  | value
  | outOfRange
  | verification
  deriving DecidableEq

/-- The counter of a serial column. -/
structure PgSequence where
  lastValue : Int
  isCalled : Bool
  deriving DecidableEq

def PgSequence.nextId (s : PgSequence) : Int := if s.isCalled then s.lastValue + 1 else s.lastValue

structure PostgresDb where
  rows : (table : ModelTable) → List (TableRow table)
  sequence : ModelTable → Option PgSequence

structure CopyReport (D : Type) where
  table : String
  rows : Nat
  sha256 : D

/-! ## One table -/

/-- The ids of a row: what `int` makes of the value of its `id` column, if it has one. -/
def DbValue.toId : DbValue → Except MigrateError (List Int)
  | .null => .ok []
  | .int n => .ok [n]
  | .bool b => .ok [if b then 1 else 0]
  | _ => .error .value

def TableRow.ids (row : TableRow table) : Except MigrateError (List Int) :=
  match row.entries.find? fun entry => entry.1 == "id" with
  | none => .ok []
  | some entry => entry.2.toId

/-- The sequence goes on after the largest id, and its ids start at 1. -/
def setSequence (table : ModelTable) (ids : List Int) (db : PostgresDb) :
    Except MigrateError PostgresDb :=
  match ids with
  | [] => .error .value
  | id :: rest =>
    if rest.foldl max id < 1 then .error .outOfRange
    else .ok { db with
      sequence := Function.update db.sequence table (some ⟨rest.foldl max id, true⟩) }

/-- A table without an `id` column has no sequence to ask for. -/
def copySequence (table : ModelTable) (rows : List (TableRow table)) (db : PostgresDb) :
    Except MigrateError PostgresDb :=
  if (table.columns.map Prod.fst).contains "id" then
    match db.sequence table with
    | none => .ok db
    | some _ =>
      if rows.any fun row => (row.entries.map Prod.fst).contains "id" then do
        let ids ← rows.mapM TableRow.ids
        setSequence table ids.flatten db
      else .ok db
  else .error .undefinedColumn

section Migrate
variable [DecidableEq D] (sha256 : String → D)
  (store : (table : ModelTable) → TableRow table → Option (TableRow table))
  (source : (table : ModelTable) → List (TableRow table))

/-- What PostgreSQL keeps of a row, or that it refuses the row, is up to it. -/
def insertRows (table : ModelTable) (db : PostgresDb) : Except MigrateError PostgresDb :=
  match (source table).mapM (store table) with
  | none => .error .insert
  | some stored => .ok { db with rows := Function.update db.rows table (db.rows table ++ stored) }

def copyTable (table : ModelTable) (db : PostgresDb) :
    Except MigrateError (CopyReport D × PostgresDb) := do
  let db ← insertRows store source table db
  let db ← copySequence table (source table) db
  let sourceDigest := canonicalRowsDigest sha256 (TableRow.rows (source table))
  let targetDigest := canonicalRowsDigest sha256 (TableRow.rows (db.rows table))
  if (source table).length ≠ (db.rows table).length ∨ sourceDigest ≠ targetDigest then
    .error .verification
  else .ok (⟨table.name, (source table).length, sourceDigest⟩, db)

/-! ## All tables -/

def copyTables : List ModelTable → PostgresDb →
    Except MigrateError (List (CopyReport D) × PostgresDb)
  | [], db => .ok ([], db)
  | table :: tables, db => do
    let (report, db) ← copyTable sha256 store source table db
    let (reports, db) ← copyTables tables db
    .ok (report :: reports, db)

def deleteAll (tables : List ModelTable) (db : PostgresDb) : PostgresDb :=
  { db with rows := fun table => if table ∈ tables then [] else db.rows table }

def PostgresDb.migrate (tables : List ModelTable) (target : PostgresDb) :
    Except MigrateError (List (CopyReport D) × PostgresDb) :=
  copyTables sha256 store source tables (deleteAll tables target)

end Migrate

/-! ## What a returned report says -/

/-- The table has the rows of the source, and its next id is larger than each of them has. -/
structure CopiedTable (source : (table : ModelTable) → List (TableRow table)) (db : PostgresDb)
    (table : ModelTable) : Prop where
  rows : ((source table).map TableRow.content).Perm ((db.rows table).map TableRow.content)
  ids : ∀ sequence, db.sequence table = some sequence → ∀ row ∈ source table, ∀ n,
    ("id", DbValue.int n) ∈ row.entries → n < sequence.nextId

theorem le_foldl_max {ids : List Int} {id n : Int} (h : n ∈ id :: ids) : n ≤ ids.foldl max id := by
  induction ids generalizing id n with
  | nil => exact le_of_eq (List.mem_singleton.1 h)
  | cons id' ids ih =>
    rw [List.foldl_cons]
    rcases List.mem_cons.1 h with rfl | h
    · exact le_trans (le_max_left n id') (ih List.mem_cons_self)
    · rcases List.mem_cons.1 h with rfl | h
      · exact le_trans (le_max_right id n) (ih List.mem_cons_self)
      · exact ih (List.mem_cons_of_mem _ h)

theorem ids_of_mem {row : TableRow table} (h : ("id", DbValue.int n) ∈ row.entries) :
    row.ids = .ok [n] := by
  have hfind : row.entries.find? (fun entry => entry.1 == "id") = some ("id", .int n) := by
    apply find?_key_of_mem _ h
    intro a ha b hb hname
    exact List.inj_on_of_nodup_map row.nodup ha hb hname
  rw [TableRow.ids, hfind]
  rfl

theorem mapM_mem {f : α → Except ε β} {l : List α} {out : List β} (h : l.mapM f = .ok out)
    (ha : a ∈ l) (hb : f a = .ok b) : b ∈ out := by
  induction l generalizing out with
  | nil => cases ha
  | cons x l ih =>
    rw [List.mapM_cons] at h
    cases hx : f x with
    | error e =>
      rw [hx] at h
      cases h
    | ok y =>
      rw [hx] at h
      cases hl : l.mapM f with
      | error e =>
        rw [hl] at h
        cases h
      | ok ys =>
        rw [hl] at h
        obtain rfl := Except.ok.inj h
        rcases List.mem_cons.1 ha with rfl | ha
        · rw [hx] at hb
          rw [Except.ok.inj hb]
          exact List.mem_cons_self
        · exact List.mem_cons_of_mem _ (ih hl ha)

theorem setSequence_spec {table : ModelTable} {ids : List Int} {db db' : PostgresDb}
    (h : setSequence table ids db = .ok db') :
    db'.rows = db.rows ∧ (∀ other, other ≠ table → db'.sequence other = db.sequence other) ∧
      ∀ sequence, db'.sequence table = some sequence → ∀ n ∈ ids, n < sequence.nextId := by
  cases ids with
  | nil => cases h
  | cons id rest =>
    simp only [setSequence] at h
    split at h
    case isTrue => cases h
    case isFalse =>
      obtain rfl := Except.ok.inj h
      refine ⟨rfl, fun other hne => Function.update_of_ne hne .., fun sequence hs n hn => ?_⟩
      have hset : Function.update db.sequence table (some ⟨rest.foldl max id, true⟩) table =
          some sequence := hs
      rw [Function.update_self] at hset
      rw [← Option.some.inj hset]
      exact Int.lt_add_one_iff.2 (le_foldl_max hn)

theorem copySequence_spec {table : ModelTable} {rows : List (TableRow table)} {db db' : PostgresDb}
    (h : copySequence table rows db = .ok db') :
    db'.rows = db.rows ∧ (∀ other, other ≠ table → db'.sequence other = db.sequence other) ∧
      ∀ sequence, db'.sequence table = some sequence → ∀ row ∈ rows, ∀ n,
        ("id", DbValue.int n) ∈ row.entries → n < sequence.nextId := by
  unfold copySequence at h
  split at h
  case isFalse => cases h
  case isTrue =>
    split at h
    case h_1 hnone =>
      obtain rfl := Except.ok.inj h
      refine ⟨rfl, fun _ _ => rfl, fun sequence hs => ?_⟩
      rw [hnone] at hs
      cases hs
    case h_2 =>
      split at h
      case isFalse hany =>
        obtain rfl := Except.ok.inj h
        refine ⟨rfl, fun _ _ => rfl, fun sequence _ row hrow n hid => ?_⟩
        -- no row has an id, so there is none to exceed
        have hhas : (row.entries.map Prod.fst).contains "id" = true :=
          List.contains_iff_mem.2 (List.mem_map_of_mem hid)
        exact absurd (List.any_eq_true.2 ⟨row, hrow, hhas⟩) hany
      case isTrue =>
        cases hids : rows.mapM TableRow.ids with
        | error e =>
          rw [hids] at h
          cases h
        | ok ids =>
          rw [hids] at h
          have h : setSequence table ids.flatten db = .ok db' := h
          obtain ⟨hrows, hothers, hids'⟩ := setSequence_spec h
          refine ⟨hrows, hothers, fun sequence hs row hrow n hid => hids' sequence hs n ?_⟩
          exact List.mem_flatten.2 ⟨[n], mapM_mem hids hrow (ids_of_mem hid),
            List.mem_singleton_self n⟩

section Migrate
variable [DecidableEq D] {sha256 : String → D}
  {store : (table : ModelTable) → TableRow table → Option (TableRow table)}
  {source : (table : ModelTable) → List (TableRow table)}

theorem insertRows_other {table other : ModelTable} {db db' : PostgresDb}
    (h : insertRows store source table db = .ok db') (hne : other ≠ table) :
    db'.rows other = db.rows other ∧ db'.sequence other = db.sequence other := by
  unfold insertRows at h
  cases hstored : (source table).mapM (store table) with
  | none =>
    rw [hstored] at h
    cases h
  | some stored =>
    rw [hstored] at h
    obtain rfl := Except.ok.inj h
    exact ⟨Function.update_of_ne hne .., rfl⟩

/-- A table that passes the check is copied, whatever PostgreSQL has made of the rows, and the other
tables are as they were. -/
theorem copyTable_spec (hsha : Function.Injective sha256) {table : ModelTable}
    {db db' : PostgresDb} {report : CopyReport D}
    (h : copyTable sha256 store source table db = .ok (report, db')) :
    CopiedTable source db' table ∧ ∀ other, other ≠ table →
      db'.rows other = db.rows other ∧ db'.sequence other = db.sequence other := by
  unfold copyTable at h
  cases hinsert : insertRows store source table db with
  | error e =>
    rw [hinsert] at h
    cases h
  | ok db₁ =>
    rw [hinsert] at h
    cases hsequence : copySequence table (source table) db₁ with
    | error e =>
      have h : (copySequence table (source table) db₁ >>= _) = _ := h
      rw [hsequence] at h
      cases h
    | ok db₂ =>
      have h : (copySequence table (source table) db₁ >>= _) = _ := h
      rw [hsequence] at h
      have h : (if (source table).length ≠ (db₂.rows table).length ∨
          canonicalRowsDigest sha256 (TableRow.rows (source table)) ≠
            canonicalRowsDigest sha256 (TableRow.rows (db₂.rows table)) then
          Except.error MigrateError.verification
        else .ok (⟨table.name, (source table).length,
          canonicalRowsDigest sha256 (TableRow.rows (source table))⟩, db₂)) =
            .ok (report, db') := h
      split at h
      case isTrue => cases h
      case isFalse hcheck =>
        obtain ⟨-, rfl⟩ := Prod.mk.inj (Except.ok.inj h)
        obtain ⟨hrows, hothers, hids⟩ := copySequence_spec hsequence
        have hdigest := Decidable.not_not.1 fun hne => hcheck (.inr hne)
        constructor
        · exact ⟨(digest_eq_iff hsha _ _).1 hdigest, hids⟩
        · intro other hne
          obtain ⟨hrow, hseq⟩ := insertRows_other hinsert hne
          rw [hrows, hothers other hne]
          exact ⟨hrow, hseq⟩

theorem copyTables_spec (hsha : Function.Injective sha256) {tables : List ModelTable}
    {db db' : PostgresDb} {reports : List (CopyReport D)} (hnodup : tables.Nodup)
    (h : copyTables sha256 store source tables db = .ok (reports, db')) :
    (∀ table ∈ tables, CopiedTable source db' table) ∧ ∀ other, other ∉ tables →
      db'.rows other = db.rows other ∧ db'.sequence other = db.sequence other := by
  induction tables generalizing db reports with
  | nil =>
    obtain ⟨-, rfl⟩ := Prod.mk.inj (Except.ok.inj h)
    exact ⟨fun table ht => absurd ht List.not_mem_nil, fun _ _ => ⟨rfl, rfl⟩⟩
  | cons table tables ih =>
    obtain ⟨hfresh, hnodup⟩ := List.nodup_cons.1 hnodup
    unfold copyTables at h
    cases hcopy : copyTable sha256 store source table db with
    | error e =>
      rw [hcopy] at h
      cases h
    | ok copied =>
      obtain ⟨report, db₁⟩ := copied
      rw [hcopy] at h
      cases hrest : copyTables sha256 store source tables db₁ with
      | error e =>
        have h : (copyTables sha256 store source tables db₁ >>= _) = _ := h
        rw [hrest] at h
        cases h
      | ok rest =>
        obtain ⟨reports', db₂⟩ := rest
        have h : (copyTables sha256 store source tables db₁ >>= _) = _ := h
        rw [hrest] at h
        obtain ⟨-, rfl⟩ := Prod.mk.inj (Except.ok.inj h)
        obtain ⟨hcopied, hothers⟩ := copyTable_spec hsha hcopy
        obtain ⟨hall, hkept⟩ := ih hnodup hrest
        constructor
        · intro t ht
          rcases List.mem_cons.1 ht with rfl | ht
          · -- the tables that follow leave it alone
            obtain ⟨hrows, hsequence⟩ := hkept t hfresh
            exact ⟨hrows ▸ hcopied.rows, hsequence ▸ hcopied.ids⟩
          · exact hall t ht
        · intro other hother
          obtain ⟨hne, hrest⟩ := not_or.1 (mt List.mem_cons.2 hother)
          obtain ⟨hrows, hsequence⟩ := hkept other hrest
          obtain ⟨hrows', hsequence'⟩ := hothers other hne
          exact ⟨hrows.trans hrows', hsequence.trans hsequence'⟩

end Migrate

theorem copy_verified [DecidableEq D] {sha256 : String → D} (hsha : Function.Injective sha256) :
    (∀ (table : ModelTable) (rows rows' : List (TableRow table)),
      canonicalRowsDigest sha256 (TableRow.rows rows) =
        canonicalRowsDigest sha256 (TableRow.rows rows') ↔
          (rows.map TableRow.content).Perm (rows'.map TableRow.content)) ∧
    ∀ (store : (table : ModelTable) → TableRow table → Option (TableRow table))
      (source : (table : ModelTable) → List (TableRow table)) (tables : List ModelTable)
      (target target' : PostgresDb) (reports : List (CopyReport D)), tables.Nodup →
      PostgresDb.migrate sha256 store source tables target = .ok (reports, target') →
        ∀ table ∈ tables, CopiedTable source target' table := by
  constructor
  · intro table rows rows'
    exact digest_eq_iff hsha rows rows'
  · intro store source tables target target' reports hnodup h
    exact (copyTables_spec hsha hnodup h).1

def idTable : ModelTable := ⟨"plans", [("id", .int)], List.pairwise_singleton _ _⟩

def idRow (n : Int) : TableRow idTable where
  entries := [("id", .int n)]
  names := .refl _
  typed := by
    intro entry hentry column hcolumn _
    rw [List.mem_singleton.1 hentry, List.mem_singleton.1 hcolumn]
    rfl

/-- One table has these rows, and the others are empty. -/
def onlyIn (table : ModelTable) (rows : List (TableRow table)) (other : ModelTable) :
    List (TableRow other) :=
  if h : table = other then h ▸ rows else []

theorem copy_verified_plans : ∃ reports target',
    PostgresDb.migrate id (fun _ row => some row) (onlyIn idTable [idRow 7, idRow 3]) [idTable]
      ⟨onlyIn idTable [idRow 1], fun _ => some ⟨2, true⟩⟩ = .ok (reports, target') ∧
    CopiedTable (onlyIn idTable [idRow 7, idRow 3]) target' idTable := by
  refine ⟨_, _, rfl, ?_⟩
  exact (copy_verified Function.injective_id).2 (fun _ row => some row) _ [idTable]
    ⟨onlyIn idTable [idRow 1], fun _ => some ⟨2, true⟩⟩ _ _ (List.pairwise_singleton _ _) rfl
    idTable List.mem_cons_self

/-- Without the types of the columns, a date is written as its text is, and bytes as a JSON value
is. -/
theorem other_types_alike :
    (canonicalRowsDigest id [[("at", .date ⟨2026, 1, 2, by decide⟩)]] =
        canonicalRowsDigest id [[("at", .text "2026-01-02")]] ∧
      ¬ [[("at", DbValue.date ⟨2026, 1, 2, by decide⟩)]].Perm [[("at", .text "2026-01-02")]]) ∧
    canonicalRowsDigest id [[("data", .bytes [1])]] = canonicalRowsDigest id
        [[("data", .json ⟨.obj [("$bytes", .str "AQ==")],
          ⟨List.pairwise_singleton _ _, trivial, trivial⟩, Json.noConfusion⟩)]] := by
  decide

end AegisVPN
