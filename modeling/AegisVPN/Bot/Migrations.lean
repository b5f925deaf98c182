import Mathlib.Data.List.Basic

/-! # Migrations at startup -/

namespace AegisVPN
set_option autoImplicit true

inductive SqlDialect
  | sqlite
  | postgres
deriving DecidableEq

/-! ## Data statements -/

inductive SqlType
  | boolean
  | number
  | other
  /-- A literal text or a null takes the type of what it stands beside. -/
  | unknown
deriving DecidableEq

inductive SqlTerm
  | null
  | int (n : Nat)
  | text (s : String)
  | column (name : String)
  | qualified (table name : String)
  | sum (e : SqlTerm)
  | coalesce (a b : SqlTerm)
  | select (e : SqlTerm) (table : String) (condition : SqlTerm) (order : String)
  | isNull (e : SqlTerm)
  | eq (a b : SqlTerm)
  | and (a b : SqlTerm)
  | notExists (e : SqlTerm)

structure SqlUpdate where
  table : String
  sets : List (String × SqlTerm)
  condition : Option SqlTerm

namespace SqlTerm

def render : SqlTerm → String
  | .null => "NULL"
  | .int n => toString n
  | .text s => "'" ++ s ++ "'"
  | .column name => name
  | .qualified table name => table ++ "." ++ name
  | .sum e => "SUM(" ++ e.render ++ ")"
  | .coalesce a b => "COALESCE(" ++ a.render ++ ", " ++ b.render ++ ")"
  | .select e table condition order =>
    "(SELECT " ++ e.render ++ " FROM " ++ table ++ " WHERE " ++ condition.render ++ order ++ ")"
  | .isNull e => e.render ++ " IS NULL"
  | .eq a b => a.render ++ " = " ++ b.render
  | .and a b => a.render ++ " AND " ++ b.render
  | .notExists e => "NOT EXISTS " ++ e.render

end SqlTerm

def SqlUpdate.render (u : SqlUpdate) : String :=
  "UPDATE " ++ u.table ++ " SET " ++
    ", ".intercalate (u.sets.map fun p => p.1 ++ " = " ++ p.2.render) ++
    match u.condition with
    | some condition => " WHERE " ++ condition.render
    | none => ""

/-! ## Columns -/

/-- `postSql` runs right after the column is added. -/
structure MigrationColumn where
  name : String
  sqliteDdl : String
  pgDdl : String
  postSql : Option SqlUpdate

def MigrationColumn.ddl (d : SqlDialect) (c : MigrationColumn) : String :=
  match d with
  | .sqlite => c.sqliteDdl
  | .postgres => c.pgDdl

def fillNull (table column : String) (value : SqlTerm) : SqlUpdate :=
  ⟨table, [(column, value)], some (.isNull (.column column))⟩

/-- The reference plan is the oldest active plan of a month, if none is marked yet. -/
def markBasePlan : SqlUpdate :=
  ⟨"plans", [("is_base", .int 1)], some (.and
    (.eq (.column "id") (.select (.column "id") "plans"
      (.and (.eq (.column "days") (.int 30)) (.eq (.column "is_active") (.int 1)))
      " ORDER BY id LIMIT 1"))
    (.notExists (.select (.int 1) "plans" (.eq (.column "is_base") (.int 1)) "")))⟩

/-- A server starts with the traffic of the links that it still has. -/
def sumOfLinks (column : String) : SqlUpdate :=
  ⟨"servers", [(column, .coalesce (.select (.sum (.column column)) "subscription_servers"
    (.eq (.qualified "subscription_servers" "server_id") (.qualified "servers" "id")) "")
    (.int 0))], none⟩

example : markBasePlan.render = "UPDATE plans SET is_base = 1 WHERE id = (" ++
    "SELECT id FROM plans WHERE days = 30 AND is_active = 1 " ++
    "ORDER BY id LIMIT 1) AND NOT EXISTS (SELECT 1 FROM plans WHERE is_base = 1)" := by
  decide +kernel

example : (sumOfLinks "traffic_up_bytes").render = "UPDATE servers SET traffic_up_bytes = " ++
    "COALESCE((SELECT SUM(traffic_up_bytes) FROM subscription_servers " ++
    "WHERE subscription_servers.server_id = servers.id), 0)" := by
  decide +kernel

/-- The columns that may be missing on older databases. -/
def migrations : List (String × List MigrationColumn) :=
  [
    ("users", [
      ⟨"language", "VARCHAR(8) DEFAULT 'ru'", "VARCHAR(8) DEFAULT 'ru'", none⟩,
      ⟨"trial_used", "BOOLEAN DEFAULT 0", "BOOLEAN DEFAULT FALSE", none⟩,
      ⟨"privacy_accepted", "BOOLEAN DEFAULT 0", "BOOLEAN DEFAULT FALSE", none⟩,
      ⟨"conn_limit", "INTEGER", "INTEGER", none⟩,
      ⟨"accepted_terms_at", "TIMESTAMP", "TIMESTAMP", none⟩,
      ⟨"accepted_terms_version", "VARCHAR(32)", "VARCHAR(32)", none⟩,
      ⟨"first_name", "VARCHAR(128)", "VARCHAR(128)", none⟩,
      ⟨"last_name", "VARCHAR(128)", "VARCHAR(128)", none⟩,
      ⟨"photo_url", "VARCHAR(512)", "VARCHAR(512)", none⟩,
      ⟨"avatar_data", "BLOB", "BYTEA", none⟩,
      ⟨"avatar_mime", "VARCHAR(64)", "VARCHAR(64)", none⟩]),
    ("plans", [
      ⟨"rub_price", "INTEGER", "INTEGER", none⟩,
      ⟨"is_base", "BOOLEAN DEFAULT 0", "BOOLEAN DEFAULT FALSE",
        some markBasePlan⟩]),
    ("payments", [
      ⟨"provider", "VARCHAR(16) DEFAULT 'stars'", "VARCHAR(16) DEFAULT 'stars'", none⟩,
      ⟨"rub_amount", "INTEGER", "INTEGER", none⟩,
      ⟨"status", "VARCHAR(16)", "VARCHAR(16)", none⟩]),
    ("subscriptions", [
      ⟨"legacy_sub_token", "VARCHAR(255)", "VARCHAR(255)", none⟩,
      ⟨"traffic_up_bytes", "BIGINT DEFAULT 0", "BIGINT DEFAULT 0", none⟩,
      ⟨"traffic_down_bytes", "BIGINT DEFAULT 0", "BIGINT DEFAULT 0", none⟩]),
    ("subscription_servers", [
      ⟨"traffic_last_up", "BIGINT DEFAULT 0", "BIGINT DEFAULT 0", none⟩,
      ⟨"traffic_last_down", "BIGINT DEFAULT 0", "BIGINT DEFAULT 0", none⟩,
      ⟨"traffic_up_bytes", "BIGINT DEFAULT 0", "BIGINT DEFAULT 0", none⟩,
      ⟨"traffic_down_bytes", "BIGINT DEFAULT 0", "BIGINT DEFAULT 0", none⟩,
      ⟨"traffic_cursors", "JSON", "JSONB", none⟩]),
    ("devices", [
      ⟨"is_suspended", "BOOLEAN DEFAULT 0", "BOOLEAN DEFAULT FALSE", none⟩,
      ⟨"last_server_id", "INTEGER", "INTEGER", none⟩,
      ⟨"traffic_up_bytes", "BIGINT DEFAULT 0", "BIGINT DEFAULT 0", none⟩,
      ⟨"traffic_down_bytes", "BIGINT DEFAULT 0", "BIGINT DEFAULT 0", none⟩,
      ⟨"os_label", "VARCHAR(64)", "VARCHAR(64)", none⟩,
      ⟨"build_number", "VARCHAR(32)", "VARCHAR(32)", none⟩,
      ⟨"added_location", "VARCHAR(128)", "VARCHAR(128)", none⟩,
      ⟨"added_country_code", "VARCHAR(2)", "VARCHAR(2)", none⟩]),
    ("servers", [
      ⟨"node_role", "VARCHAR(16) DEFAULT 'both'", "VARCHAR(16) DEFAULT 'both'",
        some (fillNull "servers" "node_role" (.text "both"))⟩,
      ⟨"control_mode", "VARCHAR(16) DEFAULT 'push'", "VARCHAR(16) DEFAULT 'push'",
        some (fillNull "servers" "control_mode" (.text "push"))⟩,
      ⟨"control_token_hash", "VARCHAR(64)", "VARCHAR(64)", none⟩,
      ⟨"control_cert_fingerprint", "VARCHAR(128)", "VARCHAR(128)", none⟩,
      ⟨"control_previous_token_hash", "VARCHAR(64)", "VARCHAR(64)", none⟩,
      ⟨"control_previous_cert_fingerprint", "VARCHAR(128)", "VARCHAR(128)", none⟩,
      ⟨"control_previous_credential_expires_at", "TIMESTAMP", "TIMESTAMP", none⟩,
      ⟨"desired_generation", "BIGINT DEFAULT 0", "BIGINT DEFAULT 0", none⟩,
      ⟨"applied_generation", "BIGINT DEFAULT 0", "BIGINT DEFAULT 0", none⟩,
      ⟨"applied_digest", "VARCHAR(64)", "VARCHAR(64)", none⟩,
      ⟨"control_last_seen_at", "TIMESTAMP", "TIMESTAMP", none⟩,
      ⟨"control_last_reconciled_at", "TIMESTAMP", "TIMESTAMP", none⟩,
      ⟨"control_last_error", "VARCHAR(512)", "VARCHAR(512)", none⟩,
      ⟨"control_agent_version", "VARCHAR(64)", "VARCHAR(64)", none⟩,
      ⟨"control_capabilities", "JSON", "JSONB", none⟩,
      ⟨"subscription_group", "VARCHAR(16) DEFAULT 'safe'", "VARCHAR(16) DEFAULT 'safe'",
        some (fillNull "servers" "subscription_group" (.text "safe"))⟩,
      ⟨"display_order", "INTEGER DEFAULT 0", "INTEGER DEFAULT 0", none⟩,
      ⟨"hidden_from_subscription", "BOOLEAN DEFAULT 0", "BOOLEAN DEFAULT FALSE",
        some (fillNull "servers" "hidden_from_subscription" (.int 0))⟩,
      ⟨"last_seen_online_clients", "INTEGER", "INTEGER", none⟩,
      ⟨"traffic_up_bytes", "BIGINT DEFAULT 0", "BIGINT DEFAULT 0",
        some (sumOfLinks "traffic_up_bytes")⟩,
      ⟨"traffic_down_bytes", "BIGINT DEFAULT 0", "BIGINT DEFAULT 0",
        some (sumOfLinks "traffic_down_bytes")⟩,
      ⟨"country_code", "VARCHAR(2)", "VARCHAR(2)", none⟩,
      ⟨"mtproxy_secret", "VARCHAR(64)", "VARCHAR(64)", none⟩,
      ⟨"mtproxy_port", "INTEGER", "INTEGER", none⟩,
      ⟨"tcp_port", "INTEGER", "INTEGER", none⟩,
      ⟨"hy2_enabled", "BOOLEAN DEFAULT 0", "BOOLEAN DEFAULT FALSE", none⟩,
      ⟨"hy2_port", "INTEGER", "INTEGER", none⟩,
      ⟨"hy2_hop_start", "INTEGER", "INTEGER", none⟩,
      ⟨"hy2_hop_end", "INTEGER", "INTEGER", none⟩,
      ⟨"hy2_obfs_password", "VARCHAR(255)", "VARCHAR(255)", none⟩,
      ⟨"hy2_congestion", "VARCHAR(16)", "VARCHAR(16)", none⟩,
      ⟨"hy2_camouflage_sni", "VARCHAR(255)", "VARCHAR(255)", none⟩,
      ⟨"hy2_up", "VARCHAR(32)", "VARCHAR(32)", none⟩,
      ⟨"hy2_down", "VARCHAR(32)", "VARCHAR(32)", none⟩,
      ⟨"hy2_sni", "VARCHAR(255)", "VARCHAR(255)", none⟩]),
    ("node_snapshots", [
      ⟨"schema_version", "INTEGER DEFAULT 1 NOT NULL", "INTEGER DEFAULT 1 NOT NULL", none⟩]),
    ("node_snapshot_pages", [
      ⟨"schema_version", "INTEGER DEFAULT 1 NOT NULL", "INTEGER DEFAULT 1 NOT NULL", none⟩]),
    ("cascade_route_acks", [
      ⟨"config_digest", "VARCHAR(64)", "VARCHAR(64)", none⟩])]

/-- Each runs once for a database, after all columns are there. -/
def oneShotDataMigrations : List (String × SqlUpdate) :=
  [("force_terms_reacceptance_2026_06_22", ⟨"users", [("accepted_terms_version", .null),
    ("accepted_terms_at", .null), ("privacy_accepted", .int 0)], none⟩)]

def dropColumns : List (String × List String) := [("servers", ["static_uri"])]

/-! ## Types -/

def typeOfDdl (ddl : String) : SqlType :=
  if "BOOLEAN".toList <+: ddl.toList then .boolean
  else if "INTEGER".toList <+: ddl.toList ∨ "BIGINT".toList <+: ddl.toList then .number
  else .other

/-- The other columns that the statements use are numbers, but for one. -/
def columnType (table name : String) : SqlType :=
  match ((migrations.lookup table).getD []).find? fun c => c.name = name with
  | some c => typeOfDdl c.pgDdl
  | none => if table = "plans" ∧ name = "is_active" then .boolean else .number

def compatible (a b : SqlType) : Bool := a = .unknown || b = .unknown || a = b

/-- The type that PostgreSQL gives a term in a table, if it takes it at all. -/
def SqlTerm.type (table : String) : SqlTerm → Option SqlType
  | .null => some .unknown
  | .int _ => some .number
  | .text _ => some .unknown
  | .column name => some (columnType table name)
  | .qualified table name => some (columnType table name)
  | .sum e => if e.type table = some .number then some .number else none
  | .coalesce a b => do
    let s ← a.type table
    let t ← b.type table
    if compatible s t then some s else none
  | .select e from' condition _ =>
    if condition.type from' = some .boolean then e.type from' else none
  | .isNull e => (e.type table).map fun _ => .boolean
  | .eq a b => do
    let s ← a.type table
    let t ← b.type table
    if compatible s t then some .boolean else none
  | .and a b =>
    if a.type table = some .boolean ∧ b.type table = some .boolean then some .boolean else none
  | .notExists e => (e.type table).map fun _ => .boolean

/-- An integer is not taken for a truth value. SQLite takes everything. -/
def SqlUpdate.fits (u : SqlUpdate) : SqlDialect → Bool
  | .sqlite => true
  | .postgres =>
    (u.sets.all fun p =>
      ((p.2.type u.table).map fun t => compatible (columnType u.table p.1) t).getD false) &&
    match u.condition with
    | some condition => condition.type u.table = some .boolean
    | none => true

/-! ## The database -/

/-- `schemaMeta` are the keys of the marker table, if it exists. Besides, what was done to the data:
the columns that were added, the backfills and the one-shots that ran on it. -/
structure MigratedDb where
  columns : String → String → Bool
  schemaMeta : Option (List String)
  added : List (String × String)
  backfilled : List (String × String)
  oneShots : List String

def MigratedDb.keys (db : MigratedDb) : List String := db.schemaMeta.getD []

inductive MigrationStmt
  | readColumns (table : String)
  | addColumn (table name ddl : String)
  | backfill (table name : String) (sql : SqlUpdate)
  | dropColumn (table name : String)
  | createMeta
  | readKeys
  | oneShot (key : String) (sql : SqlUpdate)
  | insertKey (key : String)
  | commit

namespace MigrationStmt

def isDdl : MigrationStmt → Bool
  | .addColumn .. => true
  | .dropColumn .. => true
  | .createMeta => true
  | _ => false

def writesRows : MigrationStmt → Bool
  | .backfill .. => true
  | .oneShot .. => true
  | .insertKey _ => true
  | _ => false

def fits (d : SqlDialect) : MigrationStmt → Bool
  | .backfill _ _ sql => sql.fits d
  | .oneShot _ sql => sql.fits d
  | _ => true

def apply (db : MigratedDb) : MigrationStmt → MigratedDb
  | .addColumn table name _ =>
    { db with
      columns := fun t n => if t = table ∧ n = name then true else db.columns t n
      added := db.added ++ [(table, name)] }
  | .backfill table name _ => { db with backfilled := db.backfilled ++ [(table, name)] }
  | .dropColumn table name =>
    { db with columns := fun t n => if t = table ∧ n = name then false else db.columns t n }
  | .createMeta => { db with schemaMeta := some db.keys }
  | .oneShot key _ => { db with oneShots := db.oneShots ++ [key] }
  | .insertKey key => { db with schemaMeta := some (db.keys ++ [key]) }
  | .readColumns _ => db
  | .readKeys => db
  | .commit => db

end MigrationStmt

/-! ## A boot -/

/-- What is committed, and what the session of the boot sees. -/
structure BootSession where
  committed : MigratedDb
  working : MigratedDb
  inTransaction : Bool

def BootSession.start (db : MigratedDb) : BootSession := ⟨db, db, false⟩

/-- SQLite commits a change of the schema at once, unless rows were written before. -/
def BootSession.exec (d : SqlDialect) (s : BootSession) (stmt : MigrationStmt) : BootSession :=
  match stmt with
  | .commit => ⟨s.working, s.working, false⟩
  | stmt =>
    if d = .sqlite ∧ stmt.isDdl ∧ s.inTransaction = false then
      ⟨stmt.apply s.working, stmt.apply s.working, false⟩
    else ⟨s.committed, stmt.apply s.working,
      s.inTransaction || stmt.writesRows || d = .postgres⟩

/-- A statement that is refused ends the boot. -/
def BootSession.run (d : SqlDialect) : BootSession → List MigrationStmt → BootSession × Bool
  | s, [] => (s, true)
  | s, stmt :: rest => if stmt.fits d then (s.exec d stmt).run d rest else (s, false)

def addStatements (d : SqlDialect) (db : MigratedDb) : List MigrationStmt :=
  migrations.flatMap fun m => .readColumns m.1 :: m.2.flatMap fun c =>
    if db.columns m.1 c.name then []
    else .addColumn m.1 c.name (c.ddl d) ::
      match c.postSql with
      | some sql => [.backfill m.1 c.name sql]
      | none => []

def dropStatements (db : MigratedDb) : List MigrationStmt :=
  dropColumns.flatMap fun m => .readColumns m.1 :: m.2.flatMap fun name =>
    if db.columns m.1 name then [.dropColumn m.1 name] else []

def pendingOneShots (db : MigratedDb) : List (String × SqlUpdate) :=
  oneShotDataMigrations.filter fun p => p.1 ∉ db.keys

def oneShotStatements (db : MigratedDb) : List MigrationStmt :=
  .createMeta :: .readKeys ::
    (pendingOneShots db).flatMap fun p => [.oneShot p.1 p.2, .insertKey p.1]

def migrationBody (d : SqlDialect) (db : MigratedDb) : List MigrationStmt :=
  addStatements d db ++ dropStatements db ++ oneShotStatements db

/-- The statements of a boot that nothing ends. What they read is as it was before the boot: the
columns of a table are read before any is added to it, and later only for columns that are never
added. -/
def migrationStatements (d : SqlDialect) (db : MigratedDb) : List MigrationStmt :=
  migrationBody d db ++ [.commit]

/-- The statements up to a crash. -/
def performed (d : SqlDialect) (db : MigratedDb) : Option Nat → List MigrationStmt
  | none => migrationStatements d db
  | some k => (migrationStatements d db).take k

/-- What a boot leaves behind, and whether it went through. -/
def runMigrations (d : SqlDialect) (db : MigratedDb) (crash : Option Nat) : MigratedDb × Bool :=
  let r := (BootSession.start db).run d (performed d db crash)
  (r.1.committed, r.2 && crash.isNone)

/-! ## Moving the database -/

def MigratedDb.complete (db : MigratedDb) : Bool :=
  migrations.all fun m => m.2.all fun c => db.columns m.1 c.name

/-- The rows of the models are copied. The marker table is not among them. A model column that is
missing on either side ends the copy. -/
def migrate (source target : MigratedDb) : Option MigratedDb :=
  if source.complete ∧ target.complete then
    some { source with columns := target.columns, schemaMeta := target.schemaMeta }
  else none

/-- A logical database: at first a file of SQLite, or PostgreSQL from the beginning. -/
structure MigratedWorld where
  dialect : SqlDialect
  sqlite : MigratedDb
  postgres : MigratedDb

namespace MigratedWorld

def db (w : MigratedWorld) : MigratedDb :=
  match w.dialect with
  | .sqlite => w.sqlite
  | .postgres => w.postgres

def setDb (w : MigratedWorld) (db : MigratedDb) : MigratedWorld :=
  match w.dialect with
  | .sqlite => { w with sqlite := db }
  | .postgres => { w with postgres := db }

end MigratedWorld

inductive MigrationEvent
  | boot (crash : Option Nat)
  | move

def MigratedWorld.step (w : MigratedWorld) : MigrationEvent → MigratedWorld
  | .boot crash => w.setDb (runMigrations w.dialect w.db crash).1
  | .move =>
    match w.dialect, migrate w.sqlite w.postgres with
    | .sqlite, some moved => { w with dialect := .postgres, postgres := moved }
    | _, _ => w

def MigratedWorld.run (w : MigratedWorld) (events : List MigrationEvent) : MigratedWorld :=
  events.foldl step w

end AegisVPN
