import Mathlib.Algebra.Ring.Int.Defs
import AegisVPN.Bot.TrafficBound

namespace AegisVPN
open Library
set_option autoImplicit true

/-! ## Payloads with any numbers

A bot takes the payload of a node as it is: a field may be missing, and a number may have any
sign. -/

structure Amounts where
  uplink : Int
  downlink : Int
  deriving DecidableEq

def Amounts.get (a : Amounts) : Direction → Int
  | .up => a.uplink
  | .down => a.downlink

def Amounts.zero : Amounts := ⟨0, 0⟩

def Amounts.add (a b : Amounts) : Amounts := ⟨a.uplink + b.uplink, a.downlink + b.downlink⟩

@[simp] theorem Amounts.get_zero (d : Direction) : Amounts.zero.get d = 0 := by
  cases d <;> rfl

@[simp] theorem Amounts.get_add (a b : Amounts) (d : Direction) :
    (a.add b).get d = a.get d + b.get d := by
  cases d <;> rfl

/-- The counters of an email, where a field may be missing or null. -/
structure ReportedCounters where
  uplink : Option Int
  downlink : Option Int
  deriving DecidableEq

def ReportedCounters.amounts (c : ReportedCounters) : Amounts :=
  ⟨c.uplink.getD 0, c.downlink.getD 0⟩

/-- The stats of a payload: a dict, where a value that is no dict has no counters. -/
structure ReportedStats where
  entries : List (String × Option ReportedCounters)
  keys : (entries.map Prod.fst).Nodup

/-- The entries whose value is a dict. -/
def ReportedStats.counters (stats : ReportedStats) : List (String × ReportedCounters) :=
  stats.entries.filterMap fun p => p.2.map fun c => (p.1, c)

def ReportedStats.NonNegative (stats : ReportedStats) : Prop :=
  ∀ p ∈ stats.counters, ∀ d, 0 ≤ p.2.amounts.get d

/-- A counter below its cursor is taken for one that restarted. -/
def reportedDelta (cur last : Int) : Int := if cur - last < 0 then cur else cur - last

abbrev AmountCursors := List (String × Amounts)

def countReported (acc : AmountCursors × Amounts) (entry : String × ReportedCounters) :
    AmountCursors × Amounts :=
  let cur := entry.2.amounts
  match acc.1.lookup entry.1 with
  | none => (dictSet acc.1 (entry.1, cur), acc.2)
  | some last => (dictSet acc.1 (entry.1, cur), acc.2.add
      ⟨reportedDelta cur.uplink last.uplink, reportedDelta cur.downlink last.downlink⟩)

/-- A delta of zero leaves its column. -/
def addTraffic (columns delta : Amounts) : Amounts where
  uplink := if delta.uplink = 0 then columns.uplink else columns.uplink + delta.uplink
  downlink := if delta.downlink = 0 then columns.downlink else columns.downlink + delta.downlink

@[simp] theorem get_addTraffic (columns delta : Amounts) (d : Direction) :
    (addTraffic columns delta).get d = columns.get d + delta.get d := by
  cases d with
  | up =>
    by_cases h : delta.uplink = 0
    · simp [addTraffic, Amounts.get, h]
    · simp [addTraffic, Amounts.get, h]
  | down =>
    by_cases h : delta.downlink = 0
    · simp [addTraffic, Amounts.get, h]
    · simp [addTraffic, Amounts.get, h]

/-- The row of a subscription on the server. -/
structure AccountLink where
  cursors : AmountCursors
  traffic : Amounts
  deriving DecidableEq

structure AccountSubscription where
  id : Nat
  userId : Nat
  traffic : Amounts
  link : Option AccountLink
  deriving DecidableEq

def AccountSubscription.key (sub : AccountSubscription) : TrafficKey := ⟨sub.userId, sub.id⟩

section Count
variable (digit : Char → Option Nat)

def indexReported (stats : ReportedStats) :
    List (TrafficKey × List (String × ReportedCounters)) :=
  groupBy (fun p => trafficEmailKey digit p.1) stats.counters

def countAccountLink (indexed : List (TrafficKey × List (String × ReportedCounters)))
    (sub : AccountSubscription) (link : AccountLink) : AccountLink × Amounts :=
  let counted := ((indexed.lookup sub.key).getD []).foldl countReported (link.cursors, .zero)
  (⟨counted.1, addTraffic link.traffic counted.2⟩, counted.2)

/-- What the poll adds for a subscription, to its link and to itself. -/
def countAccount (indexed : List (TrafficKey × List (String × ReportedCounters)))
    (sub : AccountSubscription) : AccountSubscription × Amounts :=
  match sub.link with
  | none => (sub, .zero)
  | some link =>
    let counted := countAccountLink indexed sub link
    ({ sub with traffic := addTraffic sub.traffic counted.2, link := some counted.1 }, counted.2)

theorem countAccount_id (indexed : List (TrafficKey × List (String × ReportedCounters)))
    (sub : AccountSubscription) : (countAccount indexed sub).1.id = sub.id := by
  rw [countAccount]
  split <;> rfl

/-- The server with its subscriptions; a subscription has at most one link to it. -/
structure AccountDb where
  subs : List AccountSubscription
  distinct : (subs.map AccountSubscription.id).Nodup
  traffic : Amounts
  isActive : Bool

/-- A change of the rows that keeps who they are. -/
def AccountDb.mapSubs (db : AccountDb) (f : AccountSubscription → AccountSubscription)
    (hf : ∀ sub, (f sub).id = sub.id) : AccountDb :=
  { db with
    subs := db.subs.map f
    distinct := by
      have hids : (db.subs.map f).map AccountSubscription.id =
          db.subs.map AccountSubscription.id := by
        rw [List.map_map]
        exact List.map_congr_left fun sub _ => hf sub
      rw [hids]
      exact db.distinct }

/-- `_apply_traffic_stats` on the rows of one server. -/
def AccountDb.poll (db : AccountDb) (stats : ReportedStats) : AccountDb :=
  if stats.entries = [] ∨ db.isActive = false then db
  else
    let indexed := indexReported digit stats
    { db.mapSubs (fun sub => (countAccount indexed sub).1) (countAccount_id indexed) with
      traffic := db.subs.foldl (fun t sub => addTraffic t (countAccount indexed sub).2)
        db.traffic }

theorem AccountDb.poll_skipped {stats : ReportedStats} {db : AccountDb}
    (h : stats.entries = [] ∨ db.isActive = false) : db.poll digit stats = db := by
  rw [poll, if_pos h]

def AccountDb.setLink (db : AccountDb) (id : Nat)
    (f : Option AccountLink → Option AccountLink) : AccountDb :=
  db.mapSubs (fun sub => if sub.id = id then { sub with link := f sub.link } else sub) fun sub => by
    by_cases h : sub.id = id
    · rw [if_pos h]
    · rw [if_neg h]

def AccountDb.addSubscription (db : AccountDb) (id userId : Nat) : AccountDb :=
  if h : id ∈ db.subs.map AccountSubscription.id then db
  else
    { db with
      subs := ⟨id, userId, .zero, none⟩ :: db.subs
      distinct := List.nodup_cons.2 ⟨h, db.distinct⟩ }

def AccountDb.deleteSubscription (db : AccountDb) (id : Nat) : AccountDb :=
  { db with
    subs := db.subs.filter fun sub => sub.id != id
    distinct := db.distinct.sublist (List.filter_sublist.map _) }

inductive PollEvent
  | poll (stats : ReportedStats)
  | addSubscription (id userId : Nat)
  | deleteSubscription (id : Nat)
  | link (id : Nat)
  | unlink (id : Nat)
  | setActive (active : Bool)

def AccountDb.step (db : AccountDb) : PollEvent → AccountDb
  | .poll stats => db.poll digit stats
  | .addSubscription id userId => db.addSubscription id userId
  | .deleteSubscription id => db.deleteSubscription id
  | .link id => db.setLink id fun link => link.or (some ⟨[], .zero⟩)
  | .unlink id => db.setLink id fun _ => none
  | .setActive active => { db with isActive := active }

/-! ## What a poll adds -/

/-- The entries of a subscription's own emails. -/
def ReportedStats.own (stats : ReportedStats) (key : TrafficKey) :
    List (String × ReportedCounters) :=
  stats.counters.filter fun p => trafficEmailKey digit p.1 == some key

/-- What an entry adds, given the cursors before the poll. -/
def reportedGain (cursors : AmountCursors) (d : Direction) (email : String)
    (c : ReportedCounters) : Int :=
  match cursors.lookup email with
  | none => 0
  | some last => reportedDelta (c.amounts.get d) (last.get d)

/-- What a payload adds to a subscription that is linked to the server. -/
def accountGain (stats : ReportedStats) (sub : AccountSubscription) (link : AccountLink)
    (d : Direction) : Int :=
  ((stats.own digit sub.key).map fun p => reportedGain link.cursors d p.1 p.2).sum

theorem counters_keys (stats : ReportedStats) : (stats.counters.map Prod.fst).Nodup := by
  have hsub : (stats.counters.map Prod.fst).Sublist (stats.entries.map Prod.fst) := by
    rw [ReportedStats.counters]
    induction stats.entries with
    | nil => exact .slnil
    | cons p l ih =>
      obtain ⟨email, c⟩ := p
      cases c with
      | none => exact ih.cons email
      | some c => exact ih.cons_cons email
  exact stats.keys.sublist hsub

theorem lookup_indexReported (stats : ReportedStats) (key : TrafficKey) :
    ((indexReported digit stats).lookup key).getD [] = stats.own digit key :=
  lookup_groupBy _ _ _

theorem countReported_one (cursors : AmountCursors) (delta : Amounts) (email : String)
    (c : ReportedCounters) : ∃ delta', countReported (cursors, delta) (email, c) =
      (dictSet cursors (email, c.amounts), delta') ∧
      ∀ d, delta'.get d = delta.get d + reportedGain cursors d email c := by
  simp only [countReported, reportedGain]
  cases hlast : cursors.lookup email with
  | none => exact ⟨delta, rfl, fun d => (Int.add_zero _).symm⟩
  | some last =>
    refine ⟨_, rfl, fun d => ?_⟩
    rw [Amounts.get_add]
    cases d <;> rfl

theorem countReported_fold {entries : List (String × ReportedCounters)}
    (h : (entries.map Prod.fst).Nodup) (cursors : AmountCursors) (delta : Amounts) :
    (∀ email, (entries.foldl countReported (cursors, delta)).1.lookup email =
      ((entries.lookup email).map ReportedCounters.amounts).or (cursors.lookup email)) ∧
    ∀ d, (entries.foldl countReported (cursors, delta)).2.get d =
      delta.get d + (entries.map fun p => reportedGain cursors d p.1 p.2).sum := by
  induction entries generalizing cursors delta with
  | nil => exact ⟨fun _ => rfl, fun d => (Int.add_zero _).symm⟩
  | cons entry entries ih =>
    obtain ⟨key, c⟩ := entry
    rw [List.map_cons, List.nodup_cons] at h
    obtain ⟨delta', hone, hdelta⟩ := countReported_one cursors delta key c
    obtain ⟨hlookup, hsum⟩ := ih h.2 (dictSet cursors (key, c.amounts)) delta'
    have hrest : ∀ p ∈ entries, p.1 ≠ key := by
      intro p hp he
      exact h.1 (List.mem_map.2 ⟨p, hp, he⟩)
    rw [List.foldl_cons, hone]
    constructor
    · intro email
      rw [hlookup, lookup_dictSet, List.lookup_cons]
      by_cases he : email = key
      · have hnone : entries.lookup email = none := by
          apply List.lookup_eq_none_iff.2
          intro p hp
          have hne : email ≠ p.1 := fun heq => hrest p hp (heq ▸ he)
          simpa using hne
        simp [he ▸ hnone, he]
      · have he' : (email == key) = false := by simpa using he
        simp [he, he']
    · intro d
      have hsame : (entries.map fun p => reportedGain (dictSet cursors (key, c.amounts)) d p.1 p.2)
          = entries.map fun p => reportedGain cursors d p.1 p.2 := by
        apply List.map_congr_left
        intro p hp
        rw [reportedGain, lookup_dictSet, if_neg (hrest p hp), reportedGain]
      rw [hsum, hdelta, hsame, List.map_cons, List.sum_cons, Int.add_assoc]

theorem own_keys (stats : ReportedStats) (key : TrafficKey) :
    ((stats.own digit key).map Prod.fst).Nodup :=
  filter_keys (counters_keys stats) fun email => trafficEmailKey digit email == some key

/-- What a payload adds to a link, and the cursors that it leaves. -/
theorem countAccountLink_spec (stats : ReportedStats) (sub : AccountSubscription)
    (link : AccountLink) :
    (∀ d, (countAccountLink (indexReported digit stats) sub link).2.get d =
      accountGain digit stats sub link d) ∧
    ∀ email, (countAccountLink (indexReported digit stats) sub link).1.cursors.lookup email =
      (((stats.own digit sub.key).lookup email).map ReportedCounters.amounts).or
        (link.cursors.lookup email) := by
  obtain ⟨hlookup, hsum⟩ := countReported_fold (own_keys digit stats sub.key) link.cursors .zero
  constructor
  · intro d
    rw [countAccountLink, lookup_indexReported, hsum, Amounts.get_zero, Int.zero_add, accountGain]
  · intro email
    rw [countAccountLink, lookup_indexReported, hlookup]

theorem reportedDelta_nonneg {cur : Int} (h : 0 ≤ cur) (last : Int) :
    0 ≤ reportedDelta cur last := by
  rw [reportedDelta]
  split
  · exact h
  · omega

theorem accountGain_nonneg {stats : ReportedStats} (h : stats.NonNegative)
    (sub : AccountSubscription) (link : AccountLink) (d : Direction) :
    0 ≤ accountGain digit stats sub link d := by
  apply List.sum_nonneg
  intro x hx
  obtain ⟨p, hp, rfl⟩ := List.mem_map.1 hx
  rw [reportedGain]
  cases link.cursors.lookup p.1 with
  | none => exact le_rfl
  | some last => exact reportedDelta_nonneg (h p (List.mem_of_mem_filter hp) d) _

/-- What a poll adds for a subscription; one that has no link is added nothing. -/
def accountAdded (stats : ReportedStats) (sub : AccountSubscription) (d : Direction) : Int :=
  sub.link.elim 0 fun link => accountGain digit stats sub link d

theorem countAccount_spec (stats : ReportedStats) (sub : AccountSubscription) (d : Direction) :
    (countAccount (indexReported digit stats) sub).2.get d = accountAdded digit stats sub d ∧
    (countAccount (indexReported digit stats) sub).1.traffic.get d =
      sub.traffic.get d + accountAdded digit stats sub d ∧
    ((countAccount (indexReported digit stats) sub).1.link.elim 0 fun link => link.traffic.get d) =
      (sub.link.elim 0 fun link => link.traffic.get d) + accountAdded digit stats sub d := by
  rw [countAccount, accountAdded]
  cases hlink : sub.link with
  | none => simp [hlink]
  | some link =>
    have hgain := (countAccountLink_spec digit stats sub link).1 d
    refine ⟨hgain, ?_, ?_⟩
    · exact (get_addTraffic _ _ d).trans (congrArg (sub.traffic.get d + ·) hgain)
    · exact (get_addTraffic _ _ d).trans (congrArg (link.traffic.get d + ·) hgain)

end Count

/-! ## Counters that are not negative

On these the account is the one of the polls above. -/

def Counters.amounts (c : Counters) : Amounts := ⟨c.uplink, c.downlink⟩

def TrafficStats.reported (stats : TrafficStats) (h : (stats.map Prod.fst).Nodup) :
    ReportedStats where
  entries := stats.map fun p => (p.1, some ⟨some p.2.uplink, some p.2.downlink⟩)
  keys := by
    rw [List.map_map]
    exact h

def TrafficLink.account (link : TrafficLink) : AccountLink :=
  ⟨link.cursors.map fun p => (p.1, p.2.amounts), link.traffic.amounts⟩

def TrafficSubscription.account (sub : TrafficSubscription) : AccountSubscription :=
  ⟨sub.id, sub.userId, sub.traffic.amounts, sub.link.map TrafficLink.account⟩

def TrafficDb.account (db : TrafficDb) : AccountDb where
  subs := db.subs.map TrafficSubscription.account
  distinct := by
    rw [List.map_map]
    exact db.distinct
  traffic := db.traffic.amounts
  isActive := db.isActive

theorem reportedDelta_cast (cur last : Nat) :
    reportedDelta cur last = countedDelta cur last := by
  rw [reportedDelta, countedDelta]
  split
  · rw [if_pos (by omega)]
  · rw [if_neg (by omega)]
    omega

theorem amounts_add (a b : Counters) : (a.add b).amounts = a.amounts.add b.amounts := by
  simp [Counters.amounts, Counters.add, Amounts.add]

theorem addTraffic_amounts (a b : Counters) :
    addTraffic a.amounts b.amounts = (a.add b).amounts := by
  have hup := get_addTraffic a.amounts b.amounts .up
  have hdown := get_addTraffic a.amounts b.amounts .down
  rw [amounts_add]
  simp only [Amounts.get] at hup hdown
  rw [Amounts.add, ← hup, ← hdown]

theorem countReported_amounts (acc : TrafficCursors × Counters) (entry : String × Counters) :
    countReported (acc.1.map (fun p => (p.1, p.2.amounts)), acc.2.amounts)
        (entry.1, ⟨some entry.2.uplink, some entry.2.downlink⟩) =
      ((countEntry acc entry).1.map (fun p => (p.1, p.2.amounts)),
        (countEntry acc entry).2.amounts) := by
  have hset := dictSet_map_value acc.1 Counters.amounts entry.1 entry.2
  simp only [countReported, countEntry, lookup_map_value]
  cases acc.1.lookup entry.1 with
  | none => exact congrArg (·, acc.2.amounts) hset
  | some last =>
    have hdelta : (⟨reportedDelta entry.2.uplink last.uplink,
        reportedDelta entry.2.downlink last.downlink⟩ : Amounts) = Counters.amounts
          ⟨countedDelta entry.2.uplink last.uplink,
            countedDelta entry.2.downlink last.downlink⟩ := by
      simp only [Counters.amounts, reportedDelta_cast]
    exact Prod.ext hset ((congrArg acc.2.amounts.add hdelta).trans (amounts_add _ _).symm)

theorem countReported_foldl (entries : TrafficStats) (acc : TrafficCursors × Counters) :
    (entries.map fun p =>
        (p.1, (⟨some p.2.uplink, some p.2.downlink⟩ : ReportedCounters))).foldl
      countReported (acc.1.map (fun p => (p.1, p.2.amounts)), acc.2.amounts) =
      ((entries.foldl countEntry acc).1.map (fun p => (p.1, p.2.amounts)),
        (entries.foldl countEntry acc).2.amounts) := by
  induction entries generalizing acc with
  | nil => rfl
  | cons entry entries ih =>
    rw [List.map_cons, List.foldl_cons, List.foldl_cons, countReported_amounts acc entry]
    exact ih (countEntry acc entry)

section Count
variable (digit : Char → Option Nat)

theorem own_reported {stats : TrafficStats} (h : (stats.map Prod.fst).Nodup) (key : TrafficKey) :
    (stats.reported h).own digit key =
      (stats.filter fun p => trafficEmailKey digit p.1 == some key).map fun p =>
        (p.1, ⟨some p.2.uplink, some p.2.downlink⟩) := by
  rw [ReportedStats.own, ReportedStats.counters, TrafficStats.reported]
  induction stats with
  | nil => rfl
  | cons p stats ih =>
    rw [List.map_cons, List.nodup_cons] at h
    simp only [List.map_cons, List.filterMap_cons, Option.map_some, List.filter_cons] at ih ⊢
    rw [ih h.2]
    split <;> rfl

theorem countAccountLink_reported {stats : TrafficStats} (h : (stats.map Prod.fst).Nodup)
    (sub : TrafficSubscription) (link : TrafficLink) :
    countAccountLink (indexReported digit (stats.reported h)) sub.account link.account =
      ((countLink (indexStatsBySubscription digit stats) sub link).1.account,
        (countLink (indexStatsBySubscription digit stats) sub link).2.amounts) := by
  have hown : ((indexReported digit (stats.reported h)).lookup sub.account.key).getD [] = _ :=
    (lookup_indexReported digit _ _).trans (own_reported digit h sub.key)
  have hfold : List.foldl countReported (link.account.cursors, .zero) _ = _ :=
    countReported_foldl
      (stats.filter fun p => trafficEmailKey digit p.1 == some sub.key) (link.cursors, .zero)
  rw [countAccountLink, countLink, lookup_indexStats, hown, hfold]
  exact Prod.ext (congrArg (AccountLink.mk _) (addTraffic_amounts _ _)) rfl

theorem countAccount_reported {stats : TrafficStats} (h : (stats.map Prod.fst).Nodup)
    (sub : TrafficSubscription) :
    countAccount (indexReported digit (stats.reported h)) sub.account =
      ((countSubscription (indexStatsBySubscription digit stats) sub).1.account,
        (countSubscription (indexStatsBySubscription digit stats) sub).2.amounts) := by
  obtain ⟨id, userId, traffic, link⟩ := sub
  cases link with
  | none => rfl
  | some link =>
    have hlink := countAccountLink_reported digit h ⟨id, userId, traffic, some link⟩ link
    simp only [countAccount, countSubscription]
    rw [show (TrafficSubscription.account ⟨id, userId, traffic, some link⟩).link =
      some link.account from rfl]
    simp only [hlink]
    exact Prod.ext (congrArg (AccountSubscription.mk id userId · _) (addTraffic_amounts _ _)) rfl

theorem foldl_account (subs : List TrafficSubscription) (delta : TrafficSubscription → Counters)
    (delta' : AccountSubscription → Amounts)
    (h : ∀ sub, delta' sub.account = (delta sub).amounts) (t : Counters) :
    (subs.map TrafficSubscription.account).foldl (fun t sub => addTraffic t (delta' sub))
        t.amounts =
      (subs.foldl (fun t sub => t.add (delta sub)) t).amounts := by
  induction subs generalizing t with
  | nil => rfl
  | cons sub subs ih =>
    rw [List.map_cons, List.foldl_cons, List.foldl_cons, h, addTraffic_amounts, ih]

theorem poll_account (db : TrafficDb) {stats : TrafficStats}
    (h : (stats.map Prod.fst).Nodup) :
    db.account.poll digit (stats.reported h) = (applyTrafficStats digit stats db).account := by
  have hempty : (stats.reported h).entries = [] ↔ stats = [] := List.map_eq_nil_iff
  by_cases hskip : stats = [] ∨ db.isActive = false
  · rw [applyTrafficStats, if_pos hskip]
    exact AccountDb.poll_skipped digit (hskip.imp_left hempty.2)
  · rw [applyTrafficStats, if_neg hskip, AccountDb.poll,
      if_neg fun hskip' => hskip (hskip'.imp_left hempty.1)]
    have hsubs : (db.subs.map TrafficSubscription.account).map (fun sub =>
        (countAccount (indexReported digit (stats.reported h)) sub).1) =
        (db.subs.map fun sub =>
          (countSubscription (indexStatsBySubscription digit stats) sub).1).map
          TrafficSubscription.account := by
      rw [List.map_map, List.map_map]
      apply List.map_congr_left
      intro sub _
      exact congrArg Prod.fst (countAccount_reported digit h sub)
    have htraffic := foldl_account db.subs
      (fun sub => (countSubscription (indexStatsBySubscription digit stats) sub).2)
      (fun sub => (countAccount (indexReported digit (stats.reported h)) sub).2)
      (fun sub => congrArg Prod.snd (countAccount_reported digit h sub)) db.traffic
    simp only [AccountDb.mapSubs, TrafficDb.account, AccountDb.mk.injEq, and_true]
    exact ⟨hsubs, htraffic⟩

end Count

end AegisVPN
