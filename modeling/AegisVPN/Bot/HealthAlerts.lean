import Mathlib.Logic.Function.Basic
import AegisVPN.Library.Runs

namespace AegisVPN
open Library
set_option autoImplicit true

/-! # The alerts about nodes that fail and recover -/

/-! ## One run -/

def healthFailThreshold : Nat := 2

structure HealthServer where
  id : Nat
  name : String
  host : String
  port : Nat
  isActive : Bool
  deriving DecidableEq

structure CheckResult where
  ok : Bool
  reason : String
  clients : Option Nat
  deriving DecidableEq

/-- A failed check is made once more. -/
def checkWithRetry (first second : CheckResult) : CheckResult :=
  if first.ok then first else second

inductive HealthEdge
  | down
  | recovered
  deriving DecidableEq

structure HealthAlert where
  edge : HealthEdge
  text : String
  deriving DecidableEq

/-- What a process remembers between its runs: `_down_servers` and `_fail_counts`. -/
structure HealthRecord where
  downServers : Nat → Bool
  failCounts : Nat → Nat

def recoveredText (server : HealthServer) : String :=
  s!"Нода снова в строю: {server.name}\n{server.host}:{server.port}"

def downText (server : HealthServer) (result : CheckResult) (fails : Nat) : String :=
  let clientsLine := match result.clients with
    | some clients => s!"\nКлиентов было: {clients}"
    | none => ""
  s!"Нода НЕ отвечает: {server.name}\n{server.host}:{server.port}\n" ++
    s!"Причина: {result.reason}\nНеудачных проверок подряд: {fails}{clientsLine}"

/-- What the loop over the results does with one of them. -/
def HealthRecord.handle (record : HealthRecord) (server : HealthServer) (result : CheckResult) :
    HealthRecord × Option HealthAlert :=
  let wasDown := record.downServers server.id
  if result.ok then
    let popped := { record with failCounts := Function.update record.failCounts server.id 0 }
    if wasDown then
      ({ popped with downServers := Function.update record.downServers server.id false },
        some ⟨.recovered, recoveredText server⟩)
    else (popped, none)
  else
    let fails := record.failCounts server.id + 1
    let counted := { record with failCounts := Function.update record.failCounts server.id fails }
    if healthFailThreshold ≤ fails && !wasDown then
      ({ counted with downServers := Function.update record.downServers server.id true },
        some ⟨.down, downText server result fails⟩)
    else (counted, none)

/-- A check as seen from outside: its result and the alert sent on it. -/
structure HealthCheck where
  ok : Bool
  alert : Option HealthEdge
  deriving DecidableEq

def HealthRecord.handleAll (record : HealthRecord) :
    List (HealthServer × CheckResult) → HealthRecord × List (Nat × HealthCheck)
  | [] => (record, [])
  | (server, result) :: rest =>
    let (handled, alert) := record.handle server result
    let (final, checks) := handled.handleAll rest
    (final, (server.id, ⟨result.ok, alert.map HealthAlert.edge⟩) :: checks)

/-- The rows of the servers have distinct ids. Each check and its retry answer what they like. -/
structure HealthRun (P : Type) where
  process : P
  servers : List HealthServer
  distinct : (servers.map HealthServer.id).Nodup
  answers : Nat → CheckResult × CheckResult

def HealthRun.result (r : HealthRun P) (server : HealthServer) : CheckResult :=
  checkWithRetry (r.answers server.id).1 (r.answers server.id).2

def HealthRun.checked (r : HealthRun P) : List HealthServer :=
  r.servers.filter HealthServer.isActive

def checkServersHealth (r : HealthRun P) (record : HealthRecord) :
    HealthRecord × List (Nat × HealthCheck) :=
  record.handleAll (r.checked.map fun server => (server, r.result server))

/-! ## Runs of several processes -/

/-- The records of the processes, and for each server its checks so far, the last one first. -/
structure HealthWorld (P : Type) where
  records : P → HealthRecord
  log : Nat → List HealthCheck

def HealthWorld.start : HealthWorld P :=
  { records := fun _ => ⟨fun _ => false, fun _ => 0⟩, log := fun _ => [] }

def HealthWorld.run [DecidableEq P] (w : HealthWorld P) (r : HealthRun P) : HealthWorld P :=
  let (record, checks) := checkServersHealth r (w.records r.process)
  { records := Function.update w.records r.process record,
    log := fun id =>
      ((checks.filter fun c => c.1 == id).map Prod.snd).reverse ++ w.log id }

/-! ## What the alerts should be -/

def alertsOf (log : List HealthCheck) : List HealthEdge := log.filterMap HealthCheck.alert

/-- The last alert first: no two neighbours are equal, and the first of all is DOWN. -/
def Alternating : List HealthEdge → Prop
  | [] => True
  | [a] => a = .down
  | a :: b :: as => a ≠ b ∧ Alternating (b :: as)

def failedInARow : List HealthCheck → Nat
  | [] => 0
  | check :: log => if check.ok then 0 else failedInARow log + 1

/-- The DOWN alerts since the last check that succeeded. -/
def downsOfOutage : List HealthCheck → Nat
  | [] => 0
  | check :: log =>
    if check.ok then 0 else downsOfOutage log + if check.alert = some .down then 1 else 0

structure RightlyAlerted (log : List HealthCheck) : Prop where
  alternating : Alternating (alertsOf log)
  afterFailures : ∀ check earlier, check :: earlier <:+ log → check.alert = some .down →
    healthFailThreshold ≤ failedInARow (check :: earlier)
  once : healthFailThreshold ≤ failedInARow log → downsOfOutage log = 1

/-- The record knows of the outage what this result needs: on success whether the server is down,
and on failure whether just now the threshold is reached. -/
def Informed (down : Bool) (fails : Nat) (log : List HealthCheck) (ok : Bool) : Prop :=
  if ok then down = true ↔ healthFailThreshold ≤ failedInARow log
  else (healthFailThreshold ≤ fails + 1 ∧ down = false) ↔
    failedInARow log + 1 = healthFailThreshold

def HealthWorld.Informs (w : HealthWorld P) (r : HealthRun P) : Prop :=
  ∀ server ∈ r.checked,
    Informed ((w.records r.process).downServers server.id)
      ((w.records r.process).failCounts server.id) (w.log server.id) (r.result server).ok

/-! ## One check -/

/-- The alert that a record sends on a result. -/
def edgeOn (down : Bool) (fails : Nat) (ok : Bool) : Option HealthEdge :=
  if ok then if down then some .recovered else none
  else if healthFailThreshold ≤ fails + 1 && !down then some .down else none

theorem handle_alert (record : HealthRecord) (server : HealthServer) (result : CheckResult) :
    (record.handle server result).2.map HealthAlert.edge =
      edgeOn (record.downServers server.id) (record.failCounts server.id) result.ok := by
  simp only [HealthRecord.handle, edgeOn]
  cases result.ok with
  | true => cases record.downServers server.id <;> rfl
  | false =>
    simp only [Bool.false_eq_true, if_false]
    split
    · rfl
    · rfl

theorem handle_other {record : HealthRecord} {server : HealthServer} {id : Nat}
    (h : id ≠ server.id) :
    (record.handle server result).1.downServers id = record.downServers id ∧
      (record.handle server result).1.failCounts id = record.failCounts id := by
  simp only [HealthRecord.handle]
  split
  · split
    · exact ⟨Function.update_of_ne h _ _, Function.update_of_ne h _ _⟩
    · exact ⟨rfl, Function.update_of_ne h _ _⟩
  · split
    · exact ⟨Function.update_of_ne h _ _, Function.update_of_ne h _ _⟩
    · exact ⟨rfl, Function.update_of_ne h _ _⟩

/-- A run writes for each checked server the one entry that the record at its start gives. -/
theorem handleAll_checks {record : HealthRecord} {pairs : List (HealthServer × CheckResult)}
    (hd : (pairs.map fun p => p.1.id).Nodup) :
    (record.handleAll pairs).2 = pairs.map fun p =>
      (p.1.id, ⟨p.2.ok, edgeOn (record.downServers p.1.id) (record.failCounts p.1.id) p.2.ok⟩) := by
  induction pairs generalizing record with
  | nil => rfl
  | cons p pairs ih =>
    rw [List.map_cons, List.nodup_cons] at hd
    simp only [HealthRecord.handleAll, List.map_cons, handle_alert, ih hd.2]
    congr 1
    apply List.map_congr_left
    intro q hq
    have hne : q.1.id ≠ p.1.id :=
      ne_of_mem_of_not_mem (List.mem_map_of_mem (f := fun p => p.1.id) hq) hd.1
    rw [(handle_other hne).1, (handle_other hne).2]

theorem checked_distinct (r : HealthRun P) : (r.checked.map HealthServer.id).Nodup :=
  r.distinct.sublist (List.filter_sublist.map HealthServer.id)

theorem filter_checked {servers : List HealthServer} {server : HealthServer}
    (hd : (servers.map HealthServer.id).Nodup) (hs : server ∈ servers) :
    servers.filter (fun s => s.id == server.id) = [server] := by
  induction servers with
  | nil => exact absurd hs List.not_mem_nil
  | cons s servers ih =>
    rw [List.map_cons, List.nodup_cons] at hd
    obtain rfl | hmem := List.mem_cons.1 hs
    · have hrest : servers.filter (fun s => s.id == server.id) = [] := by
        apply List.filter_eq_nil_iff.2
        intro s hm heq
        apply hd.1
        rw [← beq_iff_eq.1 heq]
        exact List.mem_map_of_mem hm
      rw [List.filter_cons, if_pos (beq_self_eq_true _), hrest]
    · have hne : server.id ≠ s.id := ne_of_mem_of_not_mem (List.mem_map_of_mem hmem) hd.1
      rw [List.filter_cons, if_neg (by simpa using hne.symm), ih hd.2 hmem]

theorem run_log [DecidableEq P] (w : HealthWorld P) (r : HealthRun P) (id : Nat) :
    (∃ server ∈ r.checked, server.id = id ∧
      (w.run r).log id = ⟨(r.result server).ok,
        edgeOn ((w.records r.process).downServers id) ((w.records r.process).failCounts id)
          (r.result server).ok⟩ :: w.log id) ∨
    (∀ server ∈ r.checked, server.id ≠ id) ∧ (w.run r).log id = w.log id := by
  have hd : ((r.checked.map fun server => (server, r.result server)).map
      fun p => p.1.id).Nodup := by
    rw [List.map_map]
    exact checked_distinct r
  simp only [HealthWorld.run, checkServersHealth, handleAll_checks hd, List.map_map,
    List.filter_map]
  by_cases h : ∃ server ∈ r.checked, server.id = id
  · obtain ⟨server, hs, rfl⟩ := h
    left
    refine ⟨server, hs, rfl, ?_⟩
    have hone := filter_checked (checked_distinct r) hs
    simp only [Function.comp_def, hone, List.map_cons, List.map_nil, List.reverse_cons,
      List.reverse_nil, List.nil_append, List.singleton_append]
  · right
    have hnone : r.checked.filter (fun s => s.id == id) = [] := by
      apply List.filter_eq_nil_iff.2
      intro s hs heq
      exact h ⟨s, hs, beq_iff_eq.1 heq⟩
    have hnot : ∀ server ∈ r.checked, server.id ≠ id := fun s hs heq => h ⟨s, hs, heq⟩
    simp only [Function.comp_def, hnone, List.map_nil, List.reverse_nil, List.nil_append, and_true]
    exact hnot

/-! ## The law -/

theorem alternating_down : Alternating (.down :: as) ↔
    Alternating as ∧ as.head? ≠ some .down := by
  cases as with
  | nil => simp [Alternating]
  | cons a as => cases a <;> simp [Alternating]

theorem alternating_recovered : Alternating (.recovered :: as) ↔
    Alternating as ∧ as.head? = some .down := by
  cases as with
  | nil => simp [Alternating]
  | cons a as => cases a <;> simp [Alternating]

/-- With it the law is kept: a server is announced as down exactly while its failures reach the
threshold, and before that its outage has no alert. -/
structure Announced (log : List HealthCheck) : Prop extends RightlyAlerted log where
  standing : (alertsOf log).head? = some .down ↔ healthFailThreshold ≤ failedInARow log
  quiet : failedInARow log < healthFailThreshold → downsOfOutage log = 0

theorem announced_nil : Announced [] where
  alternating := trivial
  afterFailures := fun _ _ h => absurd (List.eq_nil_of_suffix_nil h) (List.cons_ne_nil _ _)
  once := fun h => absurd h (by decide)
  standing := ⟨fun h => absurd h (by decide), fun h => absurd h (by decide)⟩
  quiet := fun _ => rfl

theorem afterFailures_cons (h : RightlyAlerted log)
    (hnew : check.alert = some .down → healthFailThreshold ≤ failedInARow (check :: log)) :
    ∀ c earlier, c :: earlier <:+ check :: log → c.alert = some .down →
      healthFailThreshold ≤ failedInARow (c :: earlier) := by
  intro c earlier hsuffix halert
  obtain heq | hlater := List.suffix_cons_iff.1 hsuffix
  · obtain ⟨rfl, rfl⟩ := List.cons_eq_cons.1 heq
    exact hnew halert
  · exact h.afterFailures c earlier hlater halert

theorem announced_success (h : Announced log) (hi : Informed down fails log true) :
    Announced (⟨true, edgeOn down fails true⟩ :: log) := by
  simp only [Informed, if_true] at hi
  cases down with
  | true =>
    have hstands := h.standing.2 (hi.1 rfl)
    exact
      { alternating := alternating_recovered.2 ⟨h.alternating, hstands⟩
        afterFailures := afterFailures_cons h.toRightlyAlerted fun hd => by cases hd
        once := fun hn => absurd hn (by simp [failedInARow, healthFailThreshold])
        standing := by
          simp [alertsOf, edgeOn, failedInARow, healthFailThreshold]
        quiet := fun _ => rfl }
  | false =>
    have hstands : ¬(alertsOf log).head? = some .down := by
      rw [h.standing, ← hi]
      exact Bool.false_ne_true
    exact
      { alternating := h.alternating
        afterFailures := afterFailures_cons h.toRightlyAlerted fun hd => by cases hd
        once := fun hn => absurd hn (by simp [failedInARow, healthFailThreshold])
        standing := by
          constructor
          · intro hd
            exact absurd hd hstands
          · intro hn
            exact absurd hn (by simp [failedInARow, healthFailThreshold])
        quiet := fun _ => rfl }

theorem announced_failure (h : Announced log) (hi : Informed down fails log false) :
    Announced (⟨false, edgeOn down fails false⟩ :: log) := by
  simp only [Informed, Bool.false_eq_true, if_false] at hi
  by_cases hreached : failedInARow log + 1 = healthFailThreshold
  · -- this failure reaches the threshold, and the alert is sent now
    obtain ⟨hfails, hdown⟩ := hi.2 hreached
    have hedge : edgeOn down fails false = some .down := by
      simp only [edgeOn, Bool.false_eq_true, if_false, hfails, hdown, decide_true, Bool.not_false,
        Bool.and_self, if_true]
    have hstands : (alertsOf log).head? ≠ some .down := by
      intro hd
      have := h.standing.1 hd
      omega
    have hquiet := h.quiet (by omega)
    rw [hedge]
    exact
      { alternating := alternating_down.2 ⟨h.alternating, hstands⟩
        afterFailures := afterFailures_cons h.toRightlyAlerted fun _ => by
          simp only [failedInARow, Bool.false_eq_true, if_false]
          omega
        once := fun _ => by
          simp only [downsOfOutage, Bool.false_eq_true, if_false, hquiet, if_true]
        standing := by
          simp only [alertsOf, List.filterMap_cons, List.head?_cons, true_iff, failedInARow,
            Bool.false_eq_true, if_false]
          omega
        quiet := fun hn => by
          simp only [failedInARow, Bool.false_eq_true, if_false] at hn
          omega }
  · have hedge : edgeOn down fails false = none := by
      have hno : ¬(healthFailThreshold ≤ fails + 1 ∧ down = false) := fun hc => hreached (hi.1 hc)
      simp only [edgeOn, Bool.false_eq_true, if_false, Bool.and_eq_true, decide_eq_true_eq,
        Bool.not_eq_true', if_neg hno]
    rw [hedge]
    exact
      { alternating := h.alternating
        afterFailures := afterFailures_cons h.toRightlyAlerted fun hd => by cases hd
        once := fun hn => by
          simp only [failedInARow, Bool.false_eq_true, if_false] at hn
          have := h.once (by omega)
          simpa [downsOfOutage] using this
        standing := by
          have hsame : healthFailThreshold ≤ failedInARow log + 1 ↔
              healthFailThreshold ≤ failedInARow log := by omega
          simp only [failedInARow, Bool.false_eq_true, if_false, hsame]
          exact h.standing
        quiet := fun hn => by
          simp only [failedInARow, Bool.false_eq_true, if_false] at hn
          have := h.quiet (by omega)
          simpa [downsOfOutage] using this }

theorem run_announced [DecidableEq P] {w : HealthWorld P} (h : ∀ id, Announced (w.log id))
    (hi : w.Informs r) : ∀ id, Announced ((w.run r).log id) := by
  intro id
  obtain ⟨server, hs, rfl, hlog⟩ | ⟨-, hlog⟩ := run_log w r id
  · rw [hlog]
    have hinformed := hi server hs
    cases hok : (r.result server).ok with
    | true =>
      rw [hok] at hinformed
      exact announced_success (h server.id) hinformed
    | false =>
      rw [hok] at hinformed
      exact announced_failure (h server.id) hinformed
  · rw [hlog]
    exact h id

/-- However many processes take part: while each of them knows of the outage what it needs, the
alerts about every server are right. -/
theorem alerts_right [DecidableEq P] (runs : List (HealthRun P))
    (h : Along HealthWorld.run HealthWorld.Informs HealthWorld.start runs) (id : Nat) :
    RightlyAlerted ((runs.foldl HealthWorld.run HealthWorld.start).log id) := by
  have hall : ∀ id, Announced ((runs.foldl HealthWorld.run HealthWorld.start).log id) :=
    run_invariant (I := fun w => ∀ id, Announced (w.log id)) (fun _ => announced_nil)
      (fun w r hw hr => run_announced hw hr) h
  exact (hall id).toRightlyAlerted

/-- A run of a process that finds one server, which answers or not. -/
def healthRunOf (process : Bool) (ok : Bool) : HealthRun Bool where
  process := process
  servers := [⟨1, "ams", "198.51.100.1", 443, true⟩]
  distinct := by decide
  answers := fun _ => (⟨ok, "xray port 443 closed", none⟩, ⟨ok, "xray port 443 closed", none⟩)

/-- The outage goes on while the lease passes to the other process. -/
theorem second_down : ¬∀ (runs : List (HealthRun Bool)) (id : Nat),
    RightlyAlerted ((runs.foldl HealthWorld.run HealthWorld.start).log id) := by
  intro h
  have hlaw := (h [healthRunOf false false, healthRunOf false false, healthRunOf true false,
    healthRunOf true false] 1).alternating
  have htwo : alertsOf ((([healthRunOf false false, healthRunOf false false,
      healthRunOf true false, healthRunOf true false] : List (HealthRun Bool)).foldl
      HealthWorld.run HealthWorld.start).log 1) = [.down, .down] := by
    decide
  rw [htwo] at hlaw
  exact hlaw.1 rfl

/-- One process sees the outage and its end, and only then the other takes over. -/
theorem alerts_right_outage : RightlyAlerted (([healthRunOf false false, healthRunOf false false,
    healthRunOf false true, healthRunOf true true].foldl HealthWorld.run
      HealthWorld.start).log 1) := by
  apply alerts_right
  refine ⟨?_, ?_, ?_, ?_, trivial⟩
  all_goals
    intro server hs
    obtain rfl := List.mem_singleton.1 hs
    simp only [Informed]
    decide

/-! ## One process -/

/-- What a process remembers of a server after a result. -/
def recordOn (down : Bool) (fails : Nat) (ok : Bool) : Bool × Nat :=
  if ok then (false, 0) else (down || healthFailThreshold ≤ fails + 1, fails + 1)

def HealthRecord.about (record : HealthRecord) (id : Nat) : Bool × Nat :=
  (record.downServers id, record.failCounts id)

theorem handle_about (record : HealthRecord) (server : HealthServer) (result : CheckResult) :
    (record.handle server result).1.about server.id =
      recordOn (record.downServers server.id) (record.failCounts server.id) result.ok := by
  simp only [HealthRecord.handle, HealthRecord.about, recordOn]
  cases result.ok with
  | true =>
    cases hdown : record.downServers server.id with
    | true => simp
    | false => simp [hdown]
  | false =>
    cases hdown : record.downServers server.id with
    | true => simp [hdown]
    | false =>
      by_cases hfails : healthFailThreshold ≤ record.failCounts server.id + 1
      · simp [hfails]
      · simp [hfails, hdown]

theorem handleAll_other {record : HealthRecord} {pairs : List (HealthServer × CheckResult)}
    {id : Nat} (h : id ∉ pairs.map fun p => p.1.id) :
    (record.handleAll pairs).1.about id = record.about id := by
  induction pairs generalizing record with
  | nil => rfl
  | cons p pairs ih =>
    simp only [List.map_cons, List.mem_cons, not_or] at h
    simp only [HealthRecord.handleAll, ih h.2]
    simp only [HealthRecord.about, handle_other h.1]

theorem handleAll_about {record : HealthRecord} {pairs : List (HealthServer × CheckResult)}
    (hd : (pairs.map fun p => p.1.id).Nodup) (hp : p ∈ pairs) :
    (record.handleAll pairs).1.about p.1.id =
      recordOn (record.downServers p.1.id) (record.failCounts p.1.id) p.2.ok := by
  induction pairs generalizing record with
  | nil => exact absurd hp List.not_mem_nil
  | cons q pairs ih =>
    rw [List.map_cons, List.nodup_cons] at hd
    simp only [HealthRecord.handleAll]
    obtain rfl | hmem := List.mem_cons.1 hp
    · rw [handleAll_other hd.1, handle_about]
    · have hne : p.1.id ≠ q.1.id :=
        ne_of_mem_of_not_mem (List.mem_map_of_mem (f := fun p => p.1.id) hmem) hd.1
      rw [ih hd.2 hmem, (handle_other hne).1, (handle_other hne).2]

/-- The record follows the log of the server. -/
def Follows (about : Bool × Nat) (log : List HealthCheck) : Prop :=
  about = (decide (healthFailThreshold ≤ failedInARow log), failedInARow log)

theorem follows_informed (h : Follows (down, fails) log) (ok : Bool) :
    Informed down fails log ok := by
  obtain ⟨rfl, rfl⟩ := Prod.mk.inj h
  cases ok with
  | true => simp only [Informed, if_true, decide_eq_true_eq]
  | false =>
    simp only [Informed, Bool.false_eq_true, if_false, decide_eq_false_iff_not]
    omega

theorem follows_recordOn (h : Follows (down, fails) log) (ok : Bool) (alert : Option HealthEdge) :
    Follows (recordOn down fails ok) (⟨ok, alert⟩ :: log) := by
  obtain ⟨rfl, rfl⟩ := Prod.mk.inj h
  cases ok with
  | true => rfl
  | false =>
    simp only [Follows, recordOn, failedInARow, Bool.false_eq_true, if_false, Prod.mk.injEq,
      and_true]
    rw [← Bool.decide_or]
    apply decide_eq_decide.2
    omega

theorem run_follows [DecidableEq P] {w : HealthWorld P} {r : HealthRun P}
    (h : ∀ id, Follows ((w.records r.process).about id) (w.log id)) (id : Nat) :
    Follows (((w.run r).records r.process).about id) ((w.run r).log id) := by
  have hd : ((r.checked.map fun server => (server, r.result server)).map
      fun p => p.1.id).Nodup := by
    rw [List.map_map]
    exact checked_distinct r
  have hrecord : (w.run r).records r.process =
      (checkServersHealth r (w.records r.process)).1 := Function.update_self _ _ _
  rw [hrecord, checkServersHealth]
  obtain ⟨server, hs, rfl, hlog⟩ | ⟨hnot, hlog⟩ := run_log w r id
  · rw [hlog, handleAll_about hd (List.mem_map_of_mem hs)]
    exact follows_recordOn (h server.id) _ _
  · have hkept : id ∉ (r.checked.map fun server => (server, r.result server)).map
        fun p => p.1.id := by
      rw [List.map_map]
      intro hm
      obtain ⟨server, hs, rfl⟩ := List.mem_map.1 hm
      exact hnot server hs rfl
    rw [hlog, handleAll_other hkept]
    exact h id

/-- A process that makes all the runs is always informed. -/
theorem informs_of_one_process [DecidableEq P] {p : P} {w : HealthWorld P}
    (hw : ∀ id, Follows ((w.records p).about id) (w.log id))
    (h : ∀ r ∈ runs, HealthRun.process r = p) :
    Along HealthWorld.run HealthWorld.Informs w runs := by
  induction runs generalizing w with
  | nil => trivial
  | cons r runs ih =>
    obtain rfl := h r List.mem_cons_self
    constructor
    · intro server _
      exact follows_informed (hw server.id) _
    · apply ih
      · exact run_follows hw
      · intro r' hr'
        exact h r' (List.mem_cons_of_mem _ hr')

end AegisVPN
