import AegisVPN.Library.Dicts
import AegisVPN.Library.Runs

namespace AegisVPN
open Library
set_option autoImplicit true

/-! ## What a node reports -/

structure Counters where
  uplink : Nat
  downlink : Nat
  deriving DecidableEq

inductive Direction
  | up
  | down
  deriving DecidableEq

instance decidableForallDirection (P : Direction → Prop) [DecidablePred P] :
    Decidable (∀ d, P d) :=
  decidable_of_iff (P .up ∧ P .down)
    ⟨fun h d => match d with | .up => h.1 | .down => h.2, fun h => ⟨h .up, h .down⟩⟩

def Counters.get (c : Counters) : Direction → Nat
  | .up => c.uplink
  | .down => c.downlink

def Counters.zero : Counters := ⟨0, 0⟩

def Counters.add (a b : Counters) : Counters := ⟨a.uplink + b.uplink, a.downlink + b.downlink⟩

@[simp] theorem Counters.get_zero (d : Direction) : Counters.zero.get d = 0 := by
  cases d <;> rfl

@[simp] theorem Counters.get_add (a b : Counters) (d : Direction) :
    (a.add b).get d = a.get d + b.get d := by
  cases d <;> rfl

abbrev TrafficStats := List (String × Counters)

def TrafficStats.of (stats : TrafficStats) (email : String) : Counters :=
  (stats.lookup email).getD .zero

/-- The bucket of an email, made where it is missing, takes what is added. -/
def addCounters (stats : TrafficStats) (entry : String × Counters) : TrafficStats :=
  dictSet stats (entry.1, (stats.of entry.1).add entry.2)

/-- A query of Hysteria that fails looks like a node without Hysteria. -/
def hysteriaTraffic (hy2Enabled : Bool) (raw : Option TrafficStats) : TrafficStats :=
  if hy2Enabled then raw.getD [] else []

theorem of_addCounters (stats : TrafficStats) (entry : String × Counters) (email : String) :
    (addCounters stats entry).of email =
      if email = entry.1 then (stats.of email).add entry.2 else stats.of email := by
  rw [TrafficStats.of, addCounters, lookup_dictSet]
  by_cases h : email = entry.1
  · rw [if_pos h, if_pos h, h]
    rfl
  · rw [if_neg h, if_neg h]
    rfl

theorem addCounters_keys {stats : TrafficStats} (h : (stats.map Prod.fst).Nodup)
    (entry : String × Counters) : ((addCounters stats entry).map Prod.fst).Nodup :=
  dictSet_keys h _

/-- The counters that the agent reports are the sums of both processes. -/
def mergeStats (stats hy2Stats : TrafficStats) : TrafficStats := hy2Stats.foldl addCounters stats

/-! ## What the bot counts -/

section Count
variable (digit : Char → Option Nat)

/-- The user and the subscription whose traffic an email counts. -/
structure TrafficKey where
  userId : Nat
  subscriptionId : Nat
  deriving DecidableEq

def decimalNumber (text : List Char) : Option Nat :=
  if text = [] then none
  else text.foldlM (fun n c => (digit c).map fun k => 10 * n + k) 0

def deviceSuffix : List (List Char) → Bool
  | [] => true
  | [dev, device] => dev == "dev".toList && (decimalNumber digit device).isSome
  | _ => false

/-- Emails have the form `user_X_sub_Y` or `user_X_sub_Y_dev_Z`. -/
def trafficEmailKey (email : String) : Option TrafficKey :=
  match email.toList.splitOn '_' with
  | user :: userId :: sub :: subId :: rest =>
    if user = "user".toList ∧ sub = "sub".toList ∧ deviceSuffix digit rest then do
      let x ← decimalNumber digit userId
      let y ← decimalNumber digit subId
      return ⟨x, y⟩
    else none
  | _ => none

def indexEntry (indexed : List (TrafficKey × TrafficStats)) (entry : String × Counters) :
    List (TrafficKey × TrafficStats) :=
  match trafficEmailKey digit entry.1 with
  | none => indexed
  | some key => dictSet indexed (key, (indexed.lookup key).getD [] ++ [entry])

def indexStatsBySubscription (stats : TrafficStats) : List (TrafficKey × TrafficStats) :=
  stats.foldl (indexEntry digit) []

/-- A counter below its cursor is taken for one that restarted. -/
def countedDelta (cur last : Nat) : Nat := if cur < last then cur else cur - last

abbrev TrafficCursors := List (String × Counters)

def countEntry (acc : TrafficCursors × Counters) (entry : String × Counters) :
    TrafficCursors × Counters :=
  match acc.1.lookup entry.1 with
  | none => (dictSet acc.1 entry, acc.2)
  | some last => (dictSet acc.1 entry, acc.2.add
      ⟨countedDelta entry.2.uplink last.uplink, countedDelta entry.2.downlink last.downlink⟩)

/-- The row of a subscription on the server, with its columns of traffic. -/
structure TrafficLink where
  cursors : TrafficCursors
  traffic : Counters
  deriving DecidableEq

/-- A subscription with what this server added to its traffic, and its link to the server. -/
structure TrafficSubscription where
  id : Nat
  userId : Nat
  traffic : Counters
  link : Option TrafficLink
  deriving DecidableEq

def TrafficSubscription.key (sub : TrafficSubscription) : TrafficKey := ⟨sub.userId, sub.id⟩

def countLink (indexed : List (TrafficKey × TrafficStats)) (sub : TrafficSubscription)
    (link : TrafficLink) : TrafficLink × Counters :=
  let counted := ((indexed.lookup sub.key).getD []).foldl countEntry (link.cursors, .zero)
  (⟨counted.1, link.traffic.add counted.2⟩, counted.2)

/-- What the poll adds for a subscription, to its link and to itself. -/
def countSubscription (indexed : List (TrafficKey × TrafficStats)) (sub : TrafficSubscription) :
    TrafficSubscription × Counters :=
  match sub.link with
  | none => (sub, .zero)
  | some link =>
    let counted := countLink indexed sub link
    ({ sub with traffic := sub.traffic.add counted.2, link := some counted.1 }, counted.2)

/-- The server with its subscriptions; a subscription has at most one link to it. -/
structure TrafficDb where
  subs : List TrafficSubscription
  distinct : (subs.map TrafficSubscription.id).Nodup
  traffic : Counters
  isActive : Bool

theorem countSubscription_id (indexed : List (TrafficKey × TrafficStats))
    (sub : TrafficSubscription) : (countSubscription indexed sub).1.id = sub.id := by
  rw [countSubscription]
  split <;> rfl

theorem counted_distinct (indexed : List (TrafficKey × TrafficStats)) (db : TrafficDb) :
    ((db.subs.map fun sub => (countSubscription indexed sub).1).map
      TrafficSubscription.id).Nodup := by
  have hids : ((db.subs.map fun sub => (countSubscription indexed sub).1).map
      TrafficSubscription.id) = db.subs.map TrafficSubscription.id := by
    rw [List.map_map]
    exact List.map_congr_left fun sub _ => countSubscription_id indexed sub
  rw [hids]
  exact db.distinct

def applyTrafficStats (stats : TrafficStats) (db : TrafficDb) : TrafficDb :=
  if stats = [] ∨ db.isActive = false then db
  else
    let indexed := indexStatsBySubscription digit stats
    { db with
      subs := db.subs.map fun sub => (countSubscription indexed sub).1
      distinct := counted_distinct indexed db
      traffic := db.subs.foldl (fun t sub => t.add (countSubscription indexed sub).2) db.traffic }

end Count

/-! ## The node, its agent and the polls -/

/-- A process of the node: what it counts since its restart, and what it moved ever. -/
structure Process where
  restarts : Nat
  counters : TrafficStats
  moved : TrafficStats
  counters_keys : (counters.map Prod.fst).Nodup
  moved_keys : (moved.map Prod.fst).Nodup

def Process.fresh : Process := ⟨0, [], [], List.nodup_nil, List.nodup_nil⟩

def Process.transfer (p : Process) (entry : String × Counters) : Process where
  restarts := p.restarts
  counters := addCounters p.counters entry
  moved := addCounters p.moved entry
  counters_keys := addCounters_keys p.counters_keys entry
  moved_keys := addCounters_keys p.moved_keys entry

def Process.restart (p : Process) : Process where
  restarts := p.restarts + 1
  counters := []
  moved := p.moved
  counters_keys := List.nodup_nil
  moved_keys := p.moved_keys

inductive ProcessName
  | xray
  | hysteria
  deriving DecidableEq

/-- What a report was made of: each process as it was when it was queried. -/
structure TrafficReport where
  xray : Process
  hysteria : Process
  answered : Bool

/-- How the server's agent is reached, and whether it serves Hysteria. -/
structure TrafficSettings where
  digit : Char → Option Nat
  hy2Enabled : Bool
  pull : Bool

def TrafficReport.stats (settings : TrafficSettings) (r : TrafficReport) : TrafficStats :=
  mergeStats r.xray.counters (hysteriaTraffic settings.hy2Enabled
    (if r.answered then some r.hysteria.counters else none))

/-- The node with the telemetry that its agent sent, what the bot stores and counts of it, and
the report behind the cursors of each email. -/
structure TrafficState where
  xray : Process
  hysteria : Process
  xrayRead : Option Process
  hysteriaRead : Option (Process × Bool)
  sequence : Nat
  sent : List (Nat × TrafficReport)
  telemetry : Option (Nat × TrafficReport)
  fetched : Option TrafficReport
  db : TrafficDb
  origin : String → Option TrafficReport

def TrafficState.fresh : TrafficState where
  xray := .fresh
  hysteria := .fresh
  xrayRead := none
  hysteriaRead := none
  sequence := 0
  sent := []
  telemetry := none
  fetched := none
  db := ⟨[], List.nodup_nil, .zero, true⟩
  origin := fun _ => none

inductive TrafficEvent
  | transfer (name : ProcessName) (email : String) (bytes : Counters)
  | restart (name : ProcessName)
  | queryXray
  | queryHysteria (answered : Bool)
  | sendTelemetry
  | advanceSequence (n : Nat)
  | receiveTelemetry (i : Nat)
  | fetchTelemetry
  | getStats
  | applyStats
  | addSubscription (id userId : Nat)
  | deleteSubscription (id : Nat)
  | link (id : Nat)
  | unlink (id : Nat)
  | setActive (active : Bool)
  deriving DecidableEq

/-- The report that the queries of the agent make up. -/
def TrafficState.report (s : TrafficState) : Option TrafficReport :=
  match s.xrayRead, s.hysteriaRead with
  | some xray, some (hysteria, answered) => some ⟨xray, hysteria, answered⟩
  | _, _ => none

def TrafficDb.setLink (db : TrafficDb) (id : Nat) (f : Option TrafficLink → Option TrafficLink) :
    TrafficDb :=
  { db with
    subs := db.subs.map fun sub => if sub.id = id then { sub with link := f sub.link } else sub
    distinct := by
      have hids : (db.subs.map fun sub => if sub.id = id then { sub with link := f sub.link }
          else sub).map TrafficSubscription.id = db.subs.map TrafficSubscription.id := by
        rw [List.map_map]
        refine List.map_congr_left fun sub _ => ?_
        by_cases h : sub.id = id <;> simp [h]
      rw [hids]
      exact db.distinct }

def TrafficDb.addSubscription (db : TrafficDb) (id userId : Nat) : TrafficDb :=
  if h : id ∈ db.subs.map TrafficSubscription.id then db
  else
    { db with
      subs := ⟨id, userId, .zero, none⟩ :: db.subs
      distinct := List.nodup_cons.2 ⟨h, db.distinct⟩ }

def TrafficDb.deleteSubscription (db : TrafficDb) (id : Nat) : TrafficDb :=
  { db with
    subs := db.subs.filter fun sub => sub.id != id
    distinct := db.distinct.sublist (List.filter_sublist.map _) }

variable (settings : TrafficSettings)

def TrafficState.step (s : TrafficState) : TrafficEvent → TrafficState
  | .transfer .xray email bytes => { s with xray := s.xray.transfer (email, bytes) }
  | .transfer .hysteria email bytes => { s with hysteria := s.hysteria.transfer (email, bytes) }
  | .restart .xray => { s with xray := s.xray.restart }
  | .restart .hysteria => { s with hysteria := s.hysteria.restart }
  | .queryXray => { s with xrayRead := some s.xray }
  | .queryHysteria answered => { s with hysteriaRead := some (s.hysteria, answered) }
  | .sendTelemetry =>
    match settings.pull, s.report with
    | true, some r => { s with
        xrayRead := none, hysteriaRead := none, sent := s.sent ++ [(s.sequence + 1, r)] }
    | _, _ => s
  | .advanceSequence n => { s with sequence := s.sequence + n }
  | .receiveTelemetry i =>
    match s.sent[i]? with
    | none => s
    | some message =>
      match s.telemetry with
      | none => { s with telemetry := some message }
      | some stored =>
        if message.1 ≤ stored.1 then s else { s with telemetry := some message }
  | .fetchTelemetry =>
    match settings.pull && s.db.isActive, s.telemetry with
    | true, some stored => { s with fetched := some stored.2 }
    | _, _ => s
  | .getStats =>
    match !settings.pull && s.db.isActive, s.report with
    | true, some r => { s with xrayRead := none, hysteriaRead := none, fetched := some r }
    | _, _ => s
  | .applyStats =>
    match s.fetched with
    | none => s
    | some r => { s with
        db := applyTrafficStats settings.digit (r.stats settings) s.db
        origin := fun email =>
          if s.db.isActive ∧ ((r.stats settings).lookup email).isSome then some r
          else s.origin email
        fetched := none }
  | .addSubscription id userId => { s with db := s.db.addSubscription id userId }
  | .deleteSubscription id => { s with db := s.db.deleteSubscription id }
  | .link id => { s with db := s.db.setLink id fun link => link.or (some ⟨[], .zero⟩) }
  | .unlink id => { s with db := s.db.setLink id fun _ => none }
  | .setActive active => { s with db := { s.db with isActive := active } }

end AegisVPN
