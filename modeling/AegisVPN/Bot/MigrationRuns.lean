import AegisVPN.Bot.Migrations
import Mathlib.Data.List.TakeWhile

/-! # Boots, crashes and a move -/

namespace AegisVPN
set_option autoImplicit true

/-- The column has a statement that fills it. -/
def hasBackfill (table name : String) : Bool :=
  migrations.any fun m => m.1 = table && m.2.any fun c => c.name = name && c.postSql.isSome

def oneShotKeys : List String := oneShotDataMigrations.map Prod.fst

/-- What was done to the data agrees with what the schema says was done. -/
structure MigratedDb.Consistent (db : MigratedDb) : Prop where
  backfills : ∀ p ∈ db.added, hasBackfill p.1 p.2 = true → p ∈ db.backfilled
  once : ∀ key ∈ oneShotKeys, db.oneShots.count key = if key ∈ db.keys then 1 else 0

/-- PostgreSQL is spared the statements that take an integer for a truth value. -/
structure MigratedDb.PostgresReady (db : MigratedDb) : Prop where
  marked : ∀ key ∈ oneShotKeys, key ∈ db.keys
  base : db.columns "plans" "is_base" = true
  hidden : db.columns "servers" "hidden_from_subscription" = true

namespace MigrationStmt

def addedBy : MigrationStmt → Option (String × String)
  | .addColumn table name _ => some (table, name)
  | _ => none

def backfilledBy : MigrationStmt → Option (String × String)
  | .backfill table name _ => some (table, name)
  | _ => none

def droppedBy : MigrationStmt → Option (String × String)
  | .dropColumn table name => some (table, name)
  | _ => none

def shotBy : MigrationStmt → Option String
  | .oneShot key _ => some key
  | _ => none

def keyBy : MigrationStmt → Option String
  | .insertKey key => some key
  | _ => none

/-- The statement adds a column that is yet to be filled. -/
def startsBackfill : MigrationStmt → Bool
  | .addColumn table name _ => hasBackfill table name
  | _ => false

end MigrationStmt

open MigrationStmt

/-! ## What a list of statements does -/

theorem foldl_added (l : List MigrationStmt) (db : MigratedDb) :
    (l.foldl MigrationStmt.apply db).added = db.added ++ l.filterMap addedBy := by
  induction l generalizing db with
  | nil => exact (List.append_nil _).symm
  | cons stmt l ih =>
    rw [List.foldl_cons, ih]
    cases stmt <;> simp only [MigrationStmt.apply, addedBy, List.filterMap_cons, List.append_assoc,
      List.singleton_append]

theorem foldl_backfilled (l : List MigrationStmt) (db : MigratedDb) :
    (l.foldl MigrationStmt.apply db).backfilled = db.backfilled ++ l.filterMap backfilledBy := by
  induction l generalizing db with
  | nil => exact (List.append_nil _).symm
  | cons stmt l ih =>
    rw [List.foldl_cons, ih]
    cases stmt <;> simp only [MigrationStmt.apply, backfilledBy, List.filterMap_cons,
      List.append_assoc, List.singleton_append]

theorem foldl_oneShots (l : List MigrationStmt) (db : MigratedDb) :
    (l.foldl MigrationStmt.apply db).oneShots = db.oneShots ++ l.filterMap shotBy := by
  induction l generalizing db with
  | nil => exact (List.append_nil _).symm
  | cons stmt l ih =>
    rw [List.foldl_cons, ih]
    cases stmt <;> simp only [MigrationStmt.apply, shotBy, List.filterMap_cons,
      List.append_assoc, List.singleton_append]

theorem apply_keys (stmt : MigrationStmt) (db : MigratedDb) :
    (stmt.apply db).keys = db.keys ++ (keyBy stmt).toList := by
  cases stmt with
  | insertKey key => rfl
  | _ => exact (List.append_nil _).symm

theorem foldl_markers (l : List MigrationStmt) (db : MigratedDb) :
    (l.foldl MigrationStmt.apply db).keys = db.keys ++ l.filterMap keyBy := by
  induction l generalizing db with
  | nil => exact (List.append_nil _).symm
  | cons stmt l ih =>
    rw [List.foldl_cons, ih, apply_keys, List.append_assoc, List.filterMap_cons]
    cases keyBy stmt with
    | none => rfl
    | some key => rfl

theorem foldl_columns {l : List MigrationStmt} {db : MigratedDb}
    (hdrop : (table, name) ∉ l.filterMap droppedBy)
    (h : db.columns table name = true ∨ (table, name) ∈ l.filterMap addedBy) :
    (l.foldl MigrationStmt.apply db).columns table name = true := by
  induction l generalizing db with
  | nil => exact h.resolve_right List.not_mem_nil
  | cons stmt l ih =>
    rw [List.foldl_cons]
    cases stmt with
    | addColumn t n ddl =>
      apply ih hdrop
      by_cases hsame : table = t ∧ name = n
      · exact .inl (if_pos hsame)
      · obtain h | h := h
        · exact .inl ((if_neg hsame).trans h)
        · obtain h | h := List.mem_cons.1 h
          · exact absurd (Prod.mk.inj h) hsame
          · exact .inr h
    | dropColumn t n =>
      obtain ⟨hfirst, hlater⟩ := not_or.1 (mt List.mem_cons.2 hdrop)
      apply ih hlater
      have hother : ¬(table = t ∧ name = n) := by
        rintro ⟨rfl, rfl⟩
        exact hfirst rfl
      exact h.imp_left (if_neg hother).trans
    | _ => exact ih hdrop h

/-! ## What a boot is made of -/

/-- The columns of a table are listed once each, and none of them is ever dropped. -/
theorem migrations_listed : ∀ m ∈ migrations, ∀ c ∈ m.2,
    hasBackfill m.1 c.name = c.postSql.isSome ∧
      ∀ x ∈ dropColumns, m.1 = x.1 → c.name ∉ x.2 := by
  decide +kernel

/-- A statement of a boot before its commit, with why it is there. -/
inductive BodyStmt (d : SqlDialect) (db : MigratedDb) : MigrationStmt → Prop
  | readColumns (table : String) : BodyStmt d db (.readColumns table)
  | added {m : String × List MigrationColumn} (hm : m ∈ migrations) (hc : c ∈ m.2)
      (hmissing : db.columns m.1 c.name = false) : BodyStmt d db (.addColumn m.1 c.name (c.ddl d))
  | filled {m : String × List MigrationColumn} (hm : m ∈ migrations) (hc : c ∈ m.2)
      (hmissing : db.columns m.1 c.name = false) (hsql : c.postSql = some sql) :
      BodyStmt d db (.backfill m.1 c.name sql)
  | dropped (hx : x ∈ dropColumns) (hname : name ∈ x.2) : BodyStmt d db (.dropColumn x.1 name)
  | createMeta : BodyStmt d db .createMeta
  | readKeys : BodyStmt d db .readKeys
  | shot (hp : p ∈ pendingOneShots db) : BodyStmt d db (.oneShot p.1 p.2)
  | marked (hp : p ∈ pendingOneShots db) : BodyStmt d db (.insertKey p.1)

theorem mem_addStatements : stmt ∈ addStatements d db ↔ ∃ m ∈ migrations,
    stmt = .readColumns m.1 ∨ ∃ c ∈ m.2, db.columns m.1 c.name = false ∧
      (stmt = .addColumn m.1 c.name (c.ddl d) ∨
        ∃ sql, c.postSql = some sql ∧ stmt = .backfill m.1 c.name sql) := by
  rw [addStatements, List.mem_flatMap]
  apply exists_congr
  intro m
  apply and_congr_right
  intro _
  rw [List.mem_cons, List.mem_flatMap]
  apply or_congr_right
  apply exists_congr
  intro c
  apply and_congr_right
  intro _
  cases db.columns m.1 c.name with
  | true => simp only [if_true, List.not_mem_nil, Bool.true_eq_false, false_and]
  | false =>
    cases c.postSql with
    | none => simp only [Bool.false_eq_true, if_false, List.mem_singleton, true_and,
        reduceCtorEq, false_and, exists_false, or_false]
    | some sql => simp only [Bool.false_eq_true, if_false, List.mem_cons, List.not_mem_nil,
        or_false, true_and, Option.some_inj, exists_eq_left']

theorem mem_dropStatements (h : stmt ∈ dropStatements db) : ∃ m ∈ dropColumns,
    stmt = .readColumns m.1 ∨ ∃ name ∈ m.2, stmt = .dropColumn m.1 name := by
  obtain ⟨m, hm, h⟩ := List.mem_flatMap.1 h
  refine ⟨m, hm, ?_⟩
  obtain h | h := List.mem_cons.1 h
  · exact .inl h
  · obtain ⟨name, hname, h⟩ := List.mem_flatMap.1 h
    split at h
    · exact .inr ⟨name, hname, List.mem_singleton.1 h⟩
    · exact absurd h List.not_mem_nil

theorem mem_migrationBody : stmt ∈ migrationBody d db ↔
    stmt ∈ addStatements d db ∨ stmt ∈ dropStatements db ∨ stmt ∈ oneShotStatements db := by
  rw [migrationBody, List.mem_append, List.mem_append, or_assoc]

theorem bodyStmt (h : stmt ∈ migrationBody d db) : BodyStmt d db stmt := by
  obtain h | h | h := mem_migrationBody.1 h
  · obtain ⟨m, hm, rfl | ⟨c, hc, hmissing, rfl | ⟨sql, hsql, rfl⟩⟩⟩ := mem_addStatements.1 h
    · exact .readColumns _
    · exact .added hm hc hmissing
    · exact .filled hm hc hmissing hsql
  · obtain ⟨m, hm, rfl | ⟨name, hname, rfl⟩⟩ := mem_dropStatements h
    · exact .readColumns _
    · exact .dropped hm hname
  · obtain rfl | h := List.mem_cons.1 h
    · exact .createMeta
    · obtain rfl | h := List.mem_cons.1 h
      · exact .readKeys
      · obtain ⟨p, hp, h⟩ := List.mem_flatMap.1 h
        obtain rfl | h := List.mem_cons.1 h
        · exact .shot hp
        · rw [List.mem_singleton.1 h]
          exact .marked hp

theorem mem_body_added {m : String × List MigrationColumn} (hm : m ∈ migrations) (hc : c ∈ m.2)
    (hmissing : db.columns m.1 c.name = false) :
    .addColumn m.1 c.name (c.ddl d) ∈ migrationBody d db := by
  apply mem_migrationBody.2 (.inl _)
  exact mem_addStatements.2 ⟨m, hm, .inr ⟨c, hc, hmissing, .inl rfl⟩⟩

theorem mem_body_filled {m : String × List MigrationColumn} (hm : m ∈ migrations) (hc : c ∈ m.2)
    (hmissing : db.columns m.1 c.name = false) (hsql : c.postSql = some sql) :
    .backfill m.1 c.name sql ∈ migrationBody d db := by
  apply mem_migrationBody.2 (.inl _)
  exact mem_addStatements.2 ⟨m, hm, .inr ⟨c, hc, hmissing, .inr ⟨sql, hsql, rfl⟩⟩⟩

theorem mem_body_shot (hp : p ∈ pendingOneShots db) :
    .oneShot p.1 p.2 ∈ migrationBody d db := by
  apply mem_migrationBody.2 (.inr (.inr _))
  apply List.mem_cons_of_mem _ (List.mem_cons_of_mem _ _)
  exact List.mem_flatMap.2 ⟨p, hp, List.mem_cons_self⟩

theorem added_backfilled (h : p ∈ (migrationBody d db).filterMap addedBy)
    (hfill : hasBackfill p.1 p.2 = true) : p ∈ (migrationBody d db).filterMap backfilledBy := by
  obtain ⟨stmt, hstmt, hp⟩ := List.mem_filterMap.1 h
  cases bodyStmt hstmt with
  | @added c m hm hc hmissing =>
    obtain rfl := Option.some_inj.1 hp
    rw [(migrations_listed m hm c hc).1] at hfill
    obtain ⟨sql, hsql⟩ := Option.isSome_iff_exists.1 hfill
    exact List.mem_filterMap.2 ⟨_, mem_body_filled hm hc hmissing hsql, rfl⟩
  | _ => cases hp

theorem not_mem_dropped {m : String × List MigrationColumn} (hm : m ∈ migrations)
    (hc : c ∈ m.2) : (m.1, c.name) ∉ (migrationBody d db).filterMap droppedBy := by
  intro h
  obtain ⟨stmt, hstmt, hp⟩ := List.mem_filterMap.1 h
  cases bodyStmt hstmt with
  | @dropped x name hx hname =>
    obtain ⟨htable, rfl⟩ := Prod.mk.inj (Option.some_inj.1 hp)
    exact (migrations_listed m hm c hc).2 x hx htable.symm hname
  | _ => cases hp

theorem filterMap_body {f : MigrationStmt → Option String}
    (hread : ∀ table, f (.readColumns table) = none)
    (hadd : ∀ table name ddl, f (.addColumn table name ddl) = none)
    (hfill : ∀ table name sql, f (.backfill table name sql) = none)
    (hdrop : ∀ table name, f (.dropColumn table name) = none) :
    (migrationBody d db).filterMap f = (oneShotStatements db).filterMap f := by
  have hcolumns : (addStatements d db ++ dropStatements db).filterMap f = [] := by
    apply List.filterMap_eq_nil_iff.2
    intro stmt hstmt
    obtain hstmt | hstmt := List.mem_append.1 hstmt
    · obtain ⟨_, _, rfl | ⟨_, _, _, rfl | ⟨_, _, rfl⟩⟩⟩ := mem_addStatements.1 hstmt
      · exact hread _
      · exact hadd _ _ _
      · exact hfill _ _ _
    · obtain ⟨_, _, rfl | ⟨_, _, rfl⟩⟩ := mem_dropStatements hstmt
      · exact hread _
      · exact hdrop _ _
  rw [migrationBody, List.filterMap_append, hcolumns, List.nil_append]

/-- Each one-shot that runs is marked, and nothing else is. -/
theorem shots_of_body (d : SqlDialect) (db : MigratedDb) :
    (migrationBody d db).filterMap shotBy = (pendingOneShots db).map Prod.fst ∧
    (migrationBody d db).filterMap keyBy = (pendingOneShots db).map Prod.fst := by
  have hshots : ∀ l : List (String × SqlUpdate),
      (l.flatMap fun p => [MigrationStmt.oneShot p.1 p.2, .insertKey p.1]).filterMap shotBy =
        l.map Prod.fst ∧
      (l.flatMap fun p => [MigrationStmt.oneShot p.1 p.2, .insertKey p.1]).filterMap keyBy =
        l.map Prod.fst := by
    intro l
    induction l with
    | nil => exact ⟨rfl, rfl⟩
    | cons p l ih =>
      constructor
      · exact congrArg (p.1 :: ·) ih.1
      · exact congrArg (p.1 :: ·) ih.2
  constructor
  · rw [filterMap_body (fun _ => rfl) (fun _ _ _ => rfl) (fun _ _ _ => rfl) (fun _ _ => rfl)]
    exact (hshots _).1
  · rw [filterMap_body (fun _ => rfl) (fun _ _ _ => rfl) (fun _ _ _ => rfl) (fun _ _ => rfl)]
    exact (hshots _).2

theorem mem_pending {key : String} (h : key ∈ oneShotKeys) :
    key ∈ (pendingOneShots db).map Prod.fst ↔ key ∉ db.keys := by
  obtain ⟨p, hp, rfl⟩ := List.mem_map.1 h
  refine ⟨?_, ?_⟩
  · intro hpending
    obtain ⟨q, hq, hkey⟩ := List.mem_map.1 hpending
    have hunmarked := (List.mem_filter.1 hq).2
    rw [decide_eq_true_iff, hkey] at hunmarked
    exact hunmarked
  · intro hunmarked
    exact List.mem_map_of_mem (List.mem_filter.2 ⟨hp, decide_eq_true hunmarked⟩)

theorem pending_nodup (db : MigratedDb) : ((pendingOneShots db).map Prod.fst).Nodup := by
  have hkeys : oneShotKeys.Nodup := by decide +kernel
  exact hkeys.sublist (List.filter_sublist.map Prod.fst)

/-! ## A boot that nothing ends -/

def migrated (d : SqlDialect) (db : MigratedDb) : MigratedDb :=
  (migrationBody d db).foldl MigrationStmt.apply db

theorem migrated_columns (d : SqlDialect) (db : MigratedDb) {m : String × List MigrationColumn}
    (hm : m ∈ migrations) (hc : c ∈ m.2) : (migrated d db).columns m.1 c.name = true := by
  apply foldl_columns (not_mem_dropped hm hc)
  cases hthere : db.columns m.1 c.name with
  | true => exact .inl rfl
  | false =>
    exact .inr (List.mem_filterMap.2 ⟨_, mem_body_added hm hc hthere, rfl⟩)

theorem migrated_complete (d : SqlDialect) (db : MigratedDb) :
    (migrated d db).complete = true := by
  rw [MigratedDb.complete, List.all_eq_true]
  intro m hm
  rw [List.all_eq_true]
  intro c hc
  exact migrated_columns d db hm hc

theorem migrated_marked (d : SqlDialect) (db : MigratedDb) (hkey : key ∈ oneShotKeys) :
    key ∈ (migrated d db).keys := by
  rw [migrated, foldl_markers, (shots_of_body d db).2, List.mem_append, mem_pending hkey]
  exact Decidable.em _

theorem migrated_consistent (h : db.Consistent) : (migrated d db).Consistent where
  backfills p hp hfill := by
    rw [migrated, foldl_added, List.mem_append] at hp
    rw [migrated, foldl_backfilled, List.mem_append]
    obtain hp | hp := hp
    · exact .inl (h.backfills p hp hfill)
    · exact .inr (added_backfilled hp hfill)
  once key hkey := by
    rw [if_pos (migrated_marked d db hkey), migrated, foldl_oneShots, (shots_of_body d db).1,
      List.count_append, h.once key hkey, (pending_nodup db).count]
    by_cases hmarked : key ∈ db.keys
    · rw [if_pos hmarked, if_neg fun hpending => (mem_pending hkey).1 hpending hmarked]
    · rw [if_neg hmarked, if_pos ((mem_pending hkey).2 hmarked)]

/-! ## The session of a boot -/

theorem BootSession.run_eq (d : SqlDialect) (s : BootSession) (l : List MigrationStmt) :
    s.run d l = ((l.takeWhile (MigrationStmt.fits d)).foldl (BootSession.exec d) s,
      l.all (MigrationStmt.fits d)) := by
  induction l generalizing s with
  | nil => rfl
  | cons stmt l ih =>
    rw [BootSession.run, List.takeWhile_cons, List.all_cons]
    cases stmt.fits d with
    | true =>
      rw [if_pos rfl, if_pos rfl, ih]
      rfl
    | false => rfl

theorem exec_other (d : SqlDialect) (s : BootSession) (h : stmt ≠ .commit) :
    s.exec d stmt = if d = .sqlite ∧ stmt.isDdl ∧ s.inTransaction = false then
      ⟨stmt.apply s.working, stmt.apply s.working, false⟩
    else ⟨s.committed, stmt.apply s.working,
      s.inTransaction || stmt.writesRows || d = .postgres⟩ := by
  cases stmt with
  | commit => exact absurd rfl h
  | _ => rfl

theorem exec_working (d : SqlDialect) (s : BootSession) (stmt : MigrationStmt) :
    (s.exec d stmt).working = stmt.apply s.working := by
  by_cases hcommit : stmt = .commit
  · subst hcommit
    rfl
  · rw [exec_other d s hcommit]
    split <;> rfl

theorem foldl_working (d : SqlDialect) (s : BootSession) (l : List MigrationStmt) :
    (l.foldl (BootSession.exec d) s).working = l.foldl MigrationStmt.apply s.working := by
  induction l generalizing s with
  | nil => rfl
  | cons stmt l ih =>
    rw [List.foldl_cons, ih, exec_working]
    rfl

/-- Outside of a transaction the session sees what is committed. -/
def BootSession.Synced (s : BootSession) : Prop :=
  s.inTransaction = false → s.working = s.committed

theorem apply_read (db : MigratedDb) (hddl : ¬isDdl stmt = true)
    (hrows : writesRows stmt = false) : stmt.apply db = db := by
  cases stmt with
  | addColumn => exact absurd rfl hddl
  | dropColumn => exact absurd rfl hddl
  | createMeta => exact absurd rfl hddl
  | backfill => cases hrows
  | oneShot => cases hrows
  | insertKey => cases hrows
  | readColumns => rfl
  | readKeys => rfl
  | commit => rfl

theorem exec_synced (d : SqlDialect) (h : s.Synced) (stmt : MigrationStmt) :
    (BootSession.exec d s stmt).Synced := by
  intro hnone
  by_cases hcommit : stmt = .commit
  · subst hcommit
    rfl
  · rw [exec_other d s hcommit] at hnone ⊢
    by_cases hatonce : d = .sqlite ∧ stmt.isDdl ∧ s.inTransaction = false
    · rw [if_pos hatonce]
    · rw [if_neg hatonce] at hnone ⊢
      rw [Bool.or_eq_false_iff, Bool.or_eq_false_iff, decide_eq_false_iff_not] at hnone
      obtain ⟨⟨houtside, hrows⟩, hdialect⟩ := hnone
      have hsqlite : d = .sqlite := by
        cases d with
        | sqlite => rfl
        | postgres => exact absurd rfl hdialect
      have hread : ¬stmt.isDdl = true := fun hddl => hatonce ⟨hsqlite, hddl, houtside⟩
      exact (apply_read s.working hread hrows).trans (h houtside)

theorem ddl_consistent (hddl : isDdl stmt = true) (hcalm : startsBackfill stmt = false)
    (h : db.Consistent) : (stmt.apply db).Consistent := by
  cases stmt with
  | addColumn table name ddl =>
    refine ⟨?_, h.once⟩
    intro p hp hfill
    obtain hp | hp := List.mem_append.1 hp
    · exact h.backfills p hp hfill
    · rw [List.mem_singleton.1 hp] at hfill
      have hnone : hasBackfill table name = false := hcalm
      rw [hnone] at hfill
      cases hfill
  | dropColumn => exact ⟨h.backfills, h.once⟩
  | createMeta => exact ⟨h.backfills, h.once⟩
  | _ => cases hddl

theorem exec_consistent (d : SqlDialect) (hsync : s.Synced) (hcommit : stmt ≠ .commit)
    (hcalm : d = .postgres ∨ startsBackfill stmt = false) (h : s.committed.Consistent) :
    (BootSession.exec d s stmt).committed.Consistent := by
  rw [exec_other d s hcommit]
  split
  · next hatonce =>
    obtain ⟨rfl, hddl, houtside⟩ := hatonce
    obtain hcalm | hcalm := hcalm
    · cases hcalm
    · rw [← hsync houtside] at h
      exact ddl_consistent hddl hcalm h
  · exact h

theorem foldl_consistent (d : SqlDialect) (l : List MigrationStmt) (hsync : s.Synced)
    (hcommit : .commit ∉ l) (hcalm : d = .postgres ∨ l.any startsBackfill = false)
    (h : s.committed.Consistent) : (l.foldl (BootSession.exec d) s).committed.Consistent := by
  induction l generalizing s with
  | nil => exact h
  | cons stmt l ih =>
    obtain ⟨hfirst, hlater⟩ := not_or.1 (mt List.mem_cons.2 hcommit)
    rw [List.any_cons, Bool.or_eq_false_iff] at hcalm
    have hone := exec_consistent d hsync (fun heq => hfirst heq.symm)
      (hcalm.imp_right And.left) h
    exact ih (exec_synced d hsync stmt) hlater (hcalm.imp_right And.right) hone

/-! ## One boot -/

/-- On SQLite, no boot is cut off after a column was added that has a backfill, unless it was
committed. PostgreSQL is booted through only where it is ready for it. -/
def BootSafe (d : SqlDialect) (db : MigratedDb) (crash : Option Nat) : Prop :=
  match d with
  | .sqlite => .commit ∈ performed d db crash ∨ (performed d db crash).any startsBackfill = false
  | .postgres => crash = none → db.PostgresReady

theorem commit_not_mem_body (d : SqlDialect) (db : MigratedDb) :
    .commit ∉ migrationBody d db := by
  intro h
  cases bodyStmt h

theorem performed_begins (d : SqlDialect) (db : MigratedDb) (crash : Option Nat) :
    performed d db crash <+: migrationStatements d db := by
  cases crash with
  | none => exact List.prefix_refl _
  | some k => exact List.take_prefix k _

theorem fits_sqlite (stmt : MigrationStmt) : stmt.fits .sqlite = true := by
  cases stmt <;> rfl

/-- A boot commits everything, or its statements before the commit are all that happens. -/
theorem runMigrations_cases (d : SqlDialect) (db : MigratedDb) (crash : Option Nat) :
    (runMigrations d db crash).1 = migrated d db ∨ ∃ executed,
      executed <+: performed d db crash ∧ .commit ∉ executed ∧
      (d = .sqlite → executed = performed d db crash) ∧
      (runMigrations d db crash).1 =
        (executed.foldl (BootSession.exec d) (BootSession.start db)).committed := by
  rw [runMigrations, BootSession.run_eq]
  have hexecuted : (performed d db crash).takeWhile (MigrationStmt.fits d) <+:
      performed d db crash := List.takeWhile_prefix _
  obtain hall | hbody := List.prefix_concat_iff.1 (hexecuted.trans (performed_begins d db crash))
  · left
    rw [hall, List.foldl_append]
    exact foldl_working d (BootSession.start db) (migrationBody d db)
  · refine .inr ⟨_, hexecuted, fun h => commit_not_mem_body d db (hbody.subset h), ?_, rfl⟩
    rintro rfl
    rw [List.takeWhile_eq_self_iff]
    intro stmt _
    exact fits_sqlite stmt

theorem boot_consistent (h : db.Consistent) (hsafe : BootSafe d db crash) :
    (runMigrations d db crash).1.Consistent := by
  obtain heq | ⟨executed, _, hcommit, hsqlite, heq⟩ := runMigrations_cases d db crash
  · rw [heq]
    exact migrated_consistent h
  · rw [heq]
    apply foldl_consistent d executed (fun _ => rfl) hcommit _ h
    cases d with
    | postgres => exact .inl rfl
    | sqlite =>
      rw [hsqlite rfl] at hcommit ⊢
      exact .inr (hsafe.resolve_left hcommit)

theorem misfits : (∀ m ∈ migrations, ∀ c ∈ m.2,
      (c.postSql.map fun sql => sql.fits .postgres) = some false ↔
        (m.1, c.name) = ("plans", "is_base") ∨
          (m.1, c.name) = ("servers", "hidden_from_subscription")) ∧
    (∃ m ∈ migrations, ∃ c ∈ m.2, (m.1, c.name) = ("plans", "is_base")) ∧
    (∃ m ∈ migrations, ∃ c ∈ m.2, (m.1, c.name) = ("servers", "hidden_from_subscription")) ∧
    ∀ p ∈ oneShotDataMigrations, p.2.fits .postgres = false := by
  decide +kernel

theorem backfill_fits (hfits : ∀ stmt ∈ migrationBody d db, stmt.fits d = true)
    {m : String × List MigrationColumn} (hm : m ∈ migrations) (hc : c ∈ m.2)
    (hsql : (c.postSql.map fun sql => sql.fits d) = some false) :
    db.columns m.1 c.name = true := by
  by_contra hmissing
  obtain ⟨sql, hpost, hmisfit⟩ := Option.map_eq_some_iff.1 hsql
  rw [Bool.not_eq_true] at hmissing
  have hfit : sql.fits d = true := hfits _ (mem_body_filled hm hc hmissing hpost)
  rw [hmisfit] at hfit
  cases hfit

theorem body_fits_iff (db : MigratedDb) :
    (∀ stmt ∈ migrationBody .postgres db, stmt.fits .postgres = true) ↔ db.PostgresReady := by
  obtain ⟨hcolumns, hbase, hhidden, hshots⟩ := misfits
  refine ⟨?_, ?_⟩
  · intro hfits
    refine ⟨?_, ?_, ?_⟩
    · intro key hkey
      by_contra hunmarked
      obtain ⟨p, hp, rfl⟩ := List.mem_map.1 ((mem_pending hkey).2 hunmarked)
      have hfit : p.2.fits .postgres = true := hfits _ (mem_body_shot hp)
      rw [hshots p (List.mem_filter.1 hp).1] at hfit
      cases hfit
    · obtain ⟨m, hm, c, hc, heq⟩ := hbase
      obtain ⟨htable, hname⟩ := Prod.mk.inj heq
      have hthere := backfill_fits hfits hm hc ((hcolumns m hm c hc).2 (.inl heq))
      rwa [htable, hname] at hthere
    · obtain ⟨m, hm, c, hc, heq⟩ := hhidden
      obtain ⟨htable, hname⟩ := Prod.mk.inj heq
      have hthere := backfill_fits hfits hm hc ((hcolumns m hm c hc).2 (.inr heq))
      rwa [htable, hname] at hthere
  · intro hready stmt hstmt
    cases bodyStmt hstmt with
    | @filled c sql m hm hc hmissing hpost =>
      by_contra hmisfit
      have hsql : (c.postSql.map fun sql => sql.fits .postgres) = some false := by
        rw [hpost, Option.map_some]
        exact congrArg some (Bool.not_eq_true _ ▸ hmisfit)
      obtain heq | heq := (hcolumns m hm c hc).1 hsql
      · obtain ⟨htable, hname⟩ := Prod.mk.inj heq
        rw [htable, hname, hready.base] at hmissing
        cases hmissing
      · obtain ⟨htable, hname⟩ := Prod.mk.inj heq
        rw [htable, hname, hready.hidden] at hmissing
        cases hmissing
    | @shot p hp =>
      exfalso
      have hkey := List.mem_map_of_mem (f := Prod.fst) (List.mem_filter.1 hp).1
      exact (mem_pending hkey).1 (List.mem_map_of_mem hp) (hready.marked _ hkey)
    | _ => rfl

theorem bootSafe_sqlite (db : MigratedDb) : BootSafe .sqlite db none :=
  .inl (List.mem_append_right _ List.mem_cons_self)

/-- A boot that nothing cuts off goes through on SQLite, and on PostgreSQL where it is ready. -/
theorem boot_succeeds_iff (d : SqlDialect) (db : MigratedDb) :
    (runMigrations d db none).2 = true ↔ BootSafe d db none := by
  have hall : (runMigrations d db none).2 = (migrationStatements d db).all (fits d) := by
    rw [runMigrations, BootSession.run_eq]
    exact Bool.and_true _
  rw [hall, List.all_eq_true]
  cases d with
  | sqlite =>
    exact ⟨fun _ => bootSafe_sqlite db, fun _ stmt _ => fits_sqlite stmt⟩
  | postgres =>
    have hbody : (∀ stmt ∈ migrationStatements .postgres db, stmt.fits .postgres = true) ↔
        ∀ stmt ∈ migrationBody .postgres db, stmt.fits .postgres = true := by
      refine ⟨fun h stmt hstmt => h stmt (List.mem_append_left _ hstmt), ?_⟩
      intro h stmt hstmt
      obtain hstmt | hstmt := List.mem_append.1 hstmt
      · exact h stmt hstmt
      · rw [List.mem_singleton.1 hstmt]
        rfl
    rw [hbody, body_fits_iff]
    exact ⟨fun h _ => h, fun h => h rfl⟩

theorem boot_migrated (h : (runMigrations d db none).2 = true) :
    (runMigrations d db none).1 = migrated d db := by
  have hall : (migrationStatements d db).all (fits d) = true := by
    rw [runMigrations, BootSession.run_eq] at h
    exact (Bool.and_eq_true_iff.1 h).1
  have hself : (performed d db none).takeWhile (fits d) = migrationStatements d db :=
    List.takeWhile_eq_self_iff.2 (List.all_eq_true.1 hall)
  rw [runMigrations, BootSession.run_eq, hself, migrationStatements, List.foldl_append]
  exact foldl_working d (BootSession.start db) (migrationBody d db)

/-! ## Runs -/

namespace MigratedWorld

/-- The first boot from here on that nothing cuts off does all that a migration is for. -/
structure Converges (w : MigratedWorld) : Prop where
  succeeds : (runMigrations w.dialect w.db none).2 = true
  complete : (runMigrations w.dialect w.db none).1.complete = true
  backfills : ∀ p ∈ (runMigrations w.dialect w.db none).1.added, hasBackfill p.1 p.2 = true →
    p ∈ (runMigrations w.dialect w.db none).1.backfilled
  once : ∀ key ∈ oneShotKeys, (runMigrations w.dialect w.db none).1.oneShots.count key = 1

/-- The database is moved only to a server whose marker table says the same. -/
def SafeEvent (w : MigratedWorld) : MigrationEvent → Prop
  | .boot crash => BootSafe w.dialect w.db crash
  | .move => w.dialect = .sqlite →
    ∀ key ∈ oneShotKeys, key ∈ w.postgres.keys ↔ key ∈ w.sqlite.keys

def SafeRun : MigratedWorld → List MigrationEvent → Prop
  | _, [] => True
  | w, e :: events => w.SafeEvent e ∧ SafeRun (w.step e) events

theorem setDb_db (w : MigratedWorld) (db : MigratedDb) : (w.setDb db).db = db := by
  obtain ⟨dialect, _, _⟩ := w
  cases dialect <;> rfl

theorem step_consistent {w : MigratedWorld} (h : w.db.Consistent) (hsafe : w.SafeEvent e) :
    (w.step e).db.Consistent := by
  cases e with
  | boot crash =>
    rw [step, setDb_db]
    exact boot_consistent h hsafe
  | move =>
    obtain ⟨dialect, sqlite, postgres⟩ := w
    cases dialect with
    | postgres => exact h
    | sqlite =>
      cases hmoved : migrate sqlite postgres with
      | none =>
        simp only [step, hmoved]
        exact h
      | some moved =>
        simp only [step, hmoved]
        rw [migrate] at hmoved
        split at hmoved
        · obtain rfl := Option.some_inj.1 hmoved
          refine ⟨h.backfills, ?_⟩
          intro key hkey
          have hmarked : key ∈ postgres.keys ↔ key ∈ sqlite.keys := hsafe rfl key hkey
          have honce := h.once key hkey
          exact honce.trans (if_congr hmarked.symm rfl rfl)
        · cases hmoved

theorem run_consistent {w : MigratedWorld} {events : List MigrationEvent}
    (h : w.db.Consistent) (hsafe : w.SafeRun events) : (w.run events).db.Consistent := by
  induction events generalizing w with
  | nil => exact h
  | cons e events ih => exact ih (step_consistent h hsafe.1) hsafe.2

/-- After any safe run of boots, crashes and a move, the next boot that nothing cuts off converges
exactly when PostgreSQL, if the database is there, is ready for it. -/
theorem migrations_converge (w : MigratedWorld) (events : List MigrationEvent)
    (h : w.db.Consistent) (hsafe : w.SafeRun events) :
    (w.run events).Converges ↔ (w.run events).SafeEvent (.boot none) := by
  have hkept := run_consistent h hsafe
  refine ⟨fun hconverges => (boot_succeeds_iff _ _).1 hconverges.succeeds, ?_⟩
  intro hboot
  have hsucceeds := (boot_succeeds_iff _ _).2 hboot
  have heq := boot_migrated hsucceeds
  have hafter : (runMigrations (w.run events).dialect (w.run events).db none).1.Consistent := by
    rw [heq]
    exact migrated_consistent hkept
  refine ⟨hsucceeds, ?_, hafter.backfills, ?_⟩
  · rw [heq]
    exact migrated_complete _ _
  · intro key hkey
    rw [hafter.once key hkey, heq]
    exact if_pos (migrated_marked _ _ hkey)

/-! ## Where it fails -/

/-- A database of an older version, to which no boot has added anything. -/
def oldDb (missing : List (String × String)) : MigratedDb :=
  ⟨fun table name => !missing.contains (table, name), none, [], [], []⟩

theorem oldDb_consistent (missing : List (String × String)) : (oldDb missing).Consistent where
  backfills _ hp := absurd hp List.not_mem_nil
  once _ _ := rfl

def oldWorld (missing : List (String × String)) : MigratedWorld :=
  ⟨.sqlite, oldDb missing, oldDb []⟩

/-- A boot is cut off while it reads the columns of the users, and the next one goes through. -/
theorem migrations_converge_old :
    ((oldWorld [("servers", "node_role")]).run [.boot (some 1), .boot none]).Converges := by
  have hsafe : (oldWorld [("servers", "node_role")]).SafeRun [.boot (some 1), .boot none] := by
    refine ⟨.inr ?_, bootSafe_sqlite _, trivial⟩
    decide +kernel
  exact (migrations_converge (oldWorld [("servers", "node_role")]) [.boot (some 1), .boot none]
    (oldDb_consistent _) hsafe).2 (bootSafe_sqlite _)

/-- Moved to PostgreSQL after a boot, a database cannot be booted. And a crash right after a column
was added leaves the column unfilled for good. -/
theorem boots_diverge :
    ¬(∀ w events, w.db.Consistent → (MigratedWorld.run w events).Converges) ∧
    ¬((oldWorld []).run [.boot none, .move]).Converges ∧
    ¬((oldWorld [("servers", "node_role")]).run [.boot (some 8)]).Converges := by
  have hmoved : ¬((oldWorld []).run [.boot none, .move]).Converges := by
    intro h
    have hrefused : (runMigrations ((oldWorld []).run [.boot none, .move]).dialect
        ((oldWorld []).run [.boot none, .move]).db none).2 = false := by decide +kernel
    rw [h.succeeds] at hrefused
    cases hrefused
  refine ⟨fun h => hmoved (h _ _ (oldDb_consistent _)), hmoved, ?_⟩
  intro h
  have hlost := h.backfills ("servers", "node_role") (by decide +kernel) (by decide +kernel)
  revert hlost
  decide +kernel

end MigratedWorld

end AegisVPN
