import AegisVPN.Agent.LoadProbe
import AegisVPN.Library.DictSums
import AegisVPN.Library.EditedLists
import Mathlib.Algebra.Order.Ring.Rat
import Mathlib.Tactic.Linarith

namespace AegisVPN
open Library
set_option autoImplicit true

/-! ## The window of a history -/

/-- The time of a refresh, and what the counters of an email came to at it. -/
abbrev TrafficSample := ℚ × Int

/-- The sample is too old at a time. -/
def TrafficSample.Stale (now : ℚ) (sample : TrafficSample) : Prop :=
  (activeWindowSeconds : ℚ) < now - sample.1

instance (now : ℚ) (sample : TrafficSample) : Decidable (sample.Stale now) :=
  inferInstanceAs (Decidable ((activeWindowSeconds : ℚ) < now - sample.1))

/-- The loop that pops the oldest samples. A history that it empties has no first sample to look
at, and the loop raises. -/
def popStale (now : ℚ) : List TrafficSample → Option (List TrafficSample)
  | [] => none
  | oldest :: history =>
    if oldest.Stale now then popStale now history else some (oldest :: history)

/-- The samples are dropped where the counters were reset. -/
def clearedOnReset (total : Int) (history : List TrafficSample) : List TrafficSample :=
  if history.getLast?.any fun last => decide (total < last.2) then [] else history

def refreshHistory (now : ℚ) (total : Int) (history : List TrafficSample) :
    Option (List TrafficSample) :=
  popStale now (clearedOnReset total history ++ [(now, total)])

theorem not_stale_now (now : ℚ) (total : Int) : ¬ TrafficSample.Stale now (now, total) := by
  simp [TrafficSample.Stale, activeWindowSeconds]

theorem TrafficSample.Stale.mono {sample : TrafficSample} (h : sample.Stale now)
    (hle : now ≤ later) : sample.Stale later := by
  simp only [TrafficSample.Stale] at h ⊢
  linarith

/-- The loop stops at the first sample that is not too old, if there is one. -/
theorem popStale_append (now : ℚ) (history : List TrafficSample)
    (h : ∃ sample ∈ history, ¬ sample.Stale now) :
    ∃ stale oldest later, history = stale ++ oldest :: later ∧
      (∀ sample ∈ stale, sample.Stale now) ∧ ¬ oldest.Stale now ∧
      popStale now history = some (oldest :: later) := by
  induction history with
  | nil =>
    obtain ⟨sample, hsample, -⟩ := h
    cases hsample
  | cons oldest history ih =>
    by_cases hstale : oldest.Stale now
    · have hlater : ∃ sample ∈ history, ¬ sample.Stale now := by
        obtain ⟨sample, hsample, hnot⟩ := h
        cases hsample with
        | head => exact absurd hstale hnot
        | tail _ hmem => exact ⟨sample, hmem, hnot⟩
      obtain ⟨stale, first, later, heq, hall, hfirst, hpop⟩ := ih hlater
      refine ⟨oldest :: stale, first, later, by rw [heq, List.cons_append], ?_, hfirst, ?_⟩
      · intro sample hsample
        cases hsample with
        | head => exact hstale
        | tail _ hmem => exact hall sample hmem
      · rw [popStale, if_pos hstale, hpop]
    · exact ⟨[], oldest, history, rfl, by simp, hstale, by rw [popStale, if_neg hstale]⟩

/-! ## What a history holds -/

/-- The samples after a list start where the counters were reset, or with the first of all. -/
def StartsAtReset (before since : List TrafficSample) : Prop :=
  ∀ last ∈ before.getLast?, ∀ first ∈ since.head?, first.2 < last.2

/-- The totals of the samples do not fall. -/
def Climbing (samples : List TrafficSample) : Prop :=
  samples.Pairwise fun earlier later => earlier.2 ≤ later.2

/-- Of the samples of an email, the history has those since the last reset but for some that are
too old. -/
structure HistoryOf (now : ℚ) (samples history : List TrafficSample) : Prop where
  nonempty : samples ≠ [] → history ≠ []
  times : samples.Pairwise fun earlier later => earlier.1 ≤ later.1
  past : ∀ sample ∈ samples, sample.1 ≤ now
  split : ∃ before stale, samples = before ++ (stale ++ history) ∧
    StartsAtReset before (stale ++ history) ∧ Climbing (stale ++ history) ∧
    ∀ sample ∈ stale, sample.Stale now

/-- The oldest of the samples that is inside the window and after the last reset. -/
def OldestCounted (now : ℚ) (samples : List TrafficSample) (oldest : TrafficSample) : Prop :=
  ∃ before stale later, samples = before ++ (stale ++ oldest :: later) ∧
    StartsAtReset before (stale ++ oldest :: later) ∧ Climbing (stale ++ oldest :: later) ∧
    (∀ sample ∈ stale, sample.Stale now) ∧ ¬ oldest.Stale now

theorem historyOf_nil (now : ℚ) : HistoryOf now [] [] :=
  { nonempty := fun h => h
    times := List.Pairwise.nil
    past := by simp
    split := ⟨[], [], rfl, by simp [StartsAtReset], List.Pairwise.nil, by simp⟩ }

theorem HistoryOf.mono (h : HistoryOf now samples history) (hle : now ≤ later) :
    HistoryOf later samples history := by
  obtain ⟨before, stale, hsamples, hreset, hclimb, hstale⟩ := h.split
  exact
    { nonempty := h.nonempty
      times := h.times
      past := fun sample hsample => (h.past sample hsample).trans hle
      split := ⟨before, stale, hsamples, hreset, hclimb, fun sample hsample =>
        (hstale sample hsample).mono hle⟩ }

theorem StartsAtReset.append (h : StartsAtReset before since) (hne : since ≠ []) :
    StartsAtReset before (since ++ more) := by
  intro last hlast first hfirst
  rw [List.head?_append_of_ne_nil _ hne] at hfirst
  exact h last hlast first hfirst

theorem Climbing.concat (h : Climbing (samples ++ [last])) (hle : last.2 ≤ total) :
    Climbing (samples ++ [last] ++ [(now, total)]) := by
  apply List.pairwise_append.2
  refine ⟨h, List.pairwise_singleton _ _, fun sample hsample next hnext => ?_⟩
  rw [List.mem_singleton.1 hnext]
  rcases List.mem_append.1 hsample with hmem | hmem
  · exact ((List.pairwise_append.1 h).2.2 sample hmem last (List.mem_singleton_self _)).trans hle
  · rw [List.mem_singleton.1 hmem]
    exact hle

theorem HistoryOf.cleared (h : HistoryOf now samples history) (total : Int) :
    ∃ before stale, samples = before ++ (stale ++ clearedOnReset total history) ∧
      StartsAtReset before (stale ++ clearedOnReset total history ++ [(now, total)]) ∧
      Climbing (stale ++ clearedOnReset total history ++ [(now, total)]) ∧
      ∀ sample ∈ stale, sample.Stale now := by
  obtain ⟨before, stale, hsamples, hreset, hclimb, hstale⟩ := h.split
  rcases List.eq_nil_or_concat' history with rfl | ⟨init, last, rfl⟩
  · have hnil : samples = [] := by
      by_contra hne
      exact h.nonempty hne rfl
    refine ⟨[], [], by simp [hnil, clearedOnReset], by simp [StartsAtReset], ?_, by simp⟩
    exact List.pairwise_singleton _ _
  · have hlast : samples.getLast? = some last := by
      rw [hsamples, ← List.append_assoc, ← List.append_assoc, List.getLast?_concat]
    by_cases hfell : total < last.2
    · have hcleared : clearedOnReset total (init ++ [last]) = [] := by
        simp [clearedOnReset, hfell]
      rw [hcleared]
      refine ⟨samples, [], by simp, ?_, List.pairwise_singleton _ _, by simp⟩
      intro previous hprevious first hfirst
      rw [hlast] at hprevious
      cases hprevious
      cases hfirst
      exact hfell
    · have hkept : clearedOnReset total (init ++ [last]) = init ++ [last] := by
        simp [clearedOnReset, hfell]
      rw [hkept]
      refine ⟨before, stale, hsamples, hreset.append (by simp), ?_, hstale⟩
      rw [← List.append_assoc] at hclimb ⊢
      exact hclimb.concat (Int.not_lt.1 hfell)

/-- A refresh takes its sample into the history, and the loop stops at the oldest sample that
counts. -/
theorem HistoryOf.refresh (h : HistoryOf now samples history) (total : Int) :
    ∃ oldest later, refreshHistory now total history = some (oldest :: later) ∧
      HistoryOf now (samples ++ [(now, total)]) (oldest :: later) ∧
      OldestCounted now (samples ++ [(now, total)]) oldest := by
  obtain ⟨before, stale, hsamples, hreset, hclimb, hstale⟩ := h.cleared total
  obtain ⟨popped, oldest, later, heq, hpopped, holdest, hpop⟩ :=
    popStale_append now (clearedOnReset total history ++ [(now, total)])
      ⟨(now, total), by simp, not_stale_now now total⟩
  have hsince : stale ++ clearedOnReset total history ++ [(now, total)] =
      stale ++ popped ++ oldest :: later := by
    rw [List.append_assoc, heq, ← List.append_assoc]
  have hall : samples ++ [(now, total)] = before ++ (stale ++ popped ++ oldest :: later) := by
    rw [← hsince, hsamples]
    simp only [List.append_assoc]
  have hold : ∀ sample ∈ stale ++ popped, sample.Stale now := by
    intro sample hsample
    rcases List.mem_append.1 hsample with hmem | hmem
    · exact hstale sample hmem
    · exact hpopped sample hmem
  rw [hsince] at hreset hclimb
  refine ⟨oldest, later, hpop, ?_, before, stale ++ popped, later, hall, hreset, hclimb, hold,
    holdest⟩
  exact
    { nonempty := fun _ => List.cons_ne_nil _ _
      times := List.pairwise_append.2 ⟨h.times, List.pairwise_singleton _ _,
        fun sample hsample last hlast => by
          rw [List.mem_singleton.1 hlast]
          exact h.past sample hsample⟩
      past := fun sample hsample => by
        rcases List.mem_append.1 hsample with hmem | hmem
        · exact h.past sample hmem
        · rw [List.mem_singleton.1 hmem]
      split := ⟨before, stale ++ popped, hall, hreset, hclimb, hold⟩ }

/-! ## The refreshes -/

/-- What the traffic statistics have of an email. -/
structure TrafficCounters where
  uplink : Option Int
  downlink : Option Int

def TrafficCounters.total (counters : TrafficCounters) : Int :=
  counters.uplink.getD 0 + counters.downlink.getD 0

/-- What the probe knows of who is on the node. -/
structure ActivityProbe where
  probeIds : List (String × String)
  history : List (String × List TrafficSample)
  recentBytes : List (String × Int)

/-- What one refresh reads: the config, the clock and the statistics. -/
structure ActivityRefresh where
  config : XrayConfig
  now : ℚ
  stats : List (String × TrafficCounters)

/-- The counters of one email are taken. Where the history runs empty the first sample is not
there, and the refresh raises. -/
def ActivityProbe.take (now : ℚ) (probe : ActivityProbe) (entry : String × TrafficCounters) :
    Option ActivityProbe := do
  let total := entry.2.total
  let history ← refreshHistory now total ((probe.history.lookup entry.1).getD [])
  let oldest ← history.head?
  some { probe with
    history := dictSet probe.history (entry.1, history)
    recentBytes := match probe.probeIds.lookup entry.1 with
      | some id => dictSet probe.recentBytes (id, total - oldest.2)
      | none => probe.recentBytes }

def ActivityProbe.refreshActivity (texts : TextOps) (probe : ActivityProbe)
    (refresh : ActivityRefresh) : Option ActivityProbe :=
  refresh.stats.foldlM (ActivityProbe.take refresh.now)
    ⟨probeIdsOf texts refresh.config, probe.history, []⟩

/-- The probe after the refreshes, from its start. -/
def ActivityProbe.after (texts : TextOps) (refreshes : List ActivityRefresh) :
    Option ActivityProbe :=
  refreshes.foldlM (ActivityProbe.refreshActivity texts) ⟨[], [], []⟩

/-- The bytes of late that the delay of a probe is computed with. -/
def ActivityProbe.recent (probe : ActivityProbe) (id : String) : Int :=
  (probe.recentBytes.lookup id).getD 0

/-- The samples that some refreshes took of an email. -/
def samplesOf (email : String) (refreshes : List ActivityRefresh) : List TrafficSample :=
  refreshes.flatMap fun refresh =>
    (refresh.stats.filter fun entry => entry.1 = email).map fun entry =>
      (refresh.now, entry.2.total)

/-! ## What the probe holds -/

/-- The samples with those that one more entry gives. -/
def withEntry (now : ℚ) (samples : String → List TrafficSample)
    (entry : String × TrafficCounters) (email : String) : List TrafficSample :=
  samples email ++ if entry.1 = email then [(now, entry.2.total)] else []

/-- The histories of the probe are those of the samples. -/
structure ActivityProbe.Holds (probe : ActivityProbe) (now : ℚ)
    (samples : String → List TrafficSample) : Prop where
  histories : ∀ email, HistoryOf now (samples email) ((probe.history.lookup email).getD [])
  nonempty : ∀ email history, probe.history.lookup email = some history → history ≠ []

/-- The bytes of late are those of the last entries of the ids. -/
structure ActivityProbe.Counts (probe : ActivityProbe) (now : ℚ)
    (samples : String → List TrafficSample) (stats : List (String × TrafficCounters)) :
    Prop where
  unseen : ∀ id, (∀ entry ∈ stats, probe.probeIds.lookup entry.1 ≠ some id) →
    probe.recentBytes.lookup id = none
  last : ∀ id earlier entry later, stats = earlier ++ entry :: later →
    probe.probeIds.lookup entry.1 = some id →
    (∀ other ∈ later, probe.probeIds.lookup other.1 ≠ some id) →
    ∃ oldest, (samples entry.1).getLast? = some (now, entry.2.total) ∧
      OldestCounted now (samples entry.1) oldest ∧
      probe.recentBytes.lookup id = some (entry.2.total - oldest.2)

theorem take_spec {probe : ActivityProbe} (h : probe.Holds now samples)
    (entry : String × TrafficCounters) :
    ∃ history oldest, probe.take now entry = some
        { probe with
          history := dictSet probe.history (entry.1, history)
          recentBytes := match probe.probeIds.lookup entry.1 with
            | some id => dictSet probe.recentBytes (id, entry.2.total - oldest.2)
            | none => probe.recentBytes } ∧
      HistoryOf now (samples entry.1 ++ [(now, entry.2.total)]) history ∧ history ≠ [] ∧
      OldestCounted now (samples entry.1 ++ [(now, entry.2.total)]) oldest := by
  obtain ⟨oldest, later, hrefresh, hhistory, hcounted⟩ :=
    (h.histories entry.1).refresh entry.2.total
  refine ⟨oldest :: later, oldest, ?_, hhistory, List.cons_ne_nil _ _, hcounted⟩
  rw [ActivityProbe.take, hrefresh]
  rfl

theorem lookup_recent (found : Option String) (recent : List (String × Int)) (bytes : Int)
    (id : String) :
    (match found with
      | some id => dictSet recent (id, bytes)
      | none => recent).lookup id = if found = some id then some bytes else recent.lookup id := by
  cases found with
  | none => rfl
  | some id' =>
    dsimp only
    rw [lookup_dictSet]
    by_cases hid : id = id'
    · rw [if_pos hid, if_pos (congrArg some hid.symm)]
    · rw [if_neg hid, if_neg fun heq => hid (Option.some.inj heq).symm]

theorem take_holds {probe : ActivityProbe} (h : probe.Holds now samples)
    (hcounts : probe.Counts now samples stats) (entry : String × TrafficCounters) :
    ∃ probe', probe.take now entry = some probe' ∧ probe'.probeIds = probe.probeIds ∧
      probe'.Holds now (withEntry now samples entry) ∧
      probe'.Counts now (withEntry now samples entry) (stats ++ [entry]) := by
  obtain ⟨history, oldest, htake, hhistory, hne, hcounted⟩ := take_spec h entry
  refine ⟨_, htake, rfl, ⟨fun email => ?_, fun email found => ?_⟩, fun id => ?_,
    fun id earlier last later hstats hid hlater => ?_⟩
  · dsimp only
    rw [lookup_dictSet, withEntry]
    by_cases hemail : email = entry.1
    · rw [if_pos hemail, if_pos hemail.symm, hemail]
      exact hhistory
    · rw [if_neg hemail, if_neg (Ne.symm hemail), List.append_nil]
      exact h.histories email
  · dsimp only
    rw [lookup_dictSet]
    intro hfound
    by_cases hemail : email = entry.1
    · rw [if_pos hemail] at hfound
      cases hfound
      exact hne
    · rw [if_neg hemail] at hfound
      exact h.nonempty email found hfound
  · intro hunseen
    dsimp only at hunseen ⊢
    rw [lookup_recent, if_neg (hunseen entry (by simp))]
    apply hcounts.unseen
    intro other hother
    exact hunseen other (List.mem_append_left _ hother)
  · dsimp only at hid hlater ⊢
    rw [lookup_recent]
    rcases List.eq_nil_or_concat' later with rfl | ⟨later, other, rfl⟩
    · obtain ⟨-, hlast⟩ := List.append_inj' hstats rfl
      cases hlast
      rw [withEntry, if_pos rfl, if_pos hid]
      exact ⟨oldest, List.getLast?_concat, hcounted, rfl⟩
    · rw [← List.cons_append, ← List.append_assoc] at hstats
      obtain ⟨hearlier, hother⟩ := List.append_inj' hstats rfl
      cases hother
      have hentry := hlater entry (by simp)
      have hsame : withEntry now samples entry last.1 = samples last.1 := by
        rw [withEntry, if_neg, List.append_nil]
        intro heq
        exact hentry (heq ▸ hid)
      rw [if_neg hentry, hsame]
      exact hcounts.last id earlier last later hearlier hid fun other hother =>
        hlater other (List.mem_append_left _ hother)

theorem takes_holds (entries : List (String × TrafficCounters)) {probe : ActivityProbe}
    {samples : String → List TrafficSample} {stats : List (String × TrafficCounters)}
    (h : probe.Holds now samples) (hcounts : probe.Counts now samples stats) :
    ∃ probe', entries.foldlM (ActivityProbe.take now) probe = some probe' ∧
      probe'.probeIds = probe.probeIds ∧
      probe'.Holds now (entries.foldl (withEntry now) samples) ∧
      probe'.Counts now (entries.foldl (withEntry now) samples) (stats ++ entries) := by
  induction entries generalizing probe samples stats with
  | nil => exact ⟨probe, rfl, rfl, h, by rwa [List.append_nil]⟩
  | cons entry entries ih =>
    obtain ⟨taken, htake, hids, hholds, htaken⟩ := take_holds h hcounts entry
    obtain ⟨probe', hfold, hids', hholds', hcounts'⟩ := ih hholds htaken
    refine ⟨probe', ?_, hids'.trans hids, hholds', ?_⟩
    · rw [List.foldlM_cons, htake]
      exact hfold
    · rw [List.append_assoc] at hcounts'
      exact hcounts'

theorem foldl_withEntry (now : ℚ) (entries : List (String × TrafficCounters))
    (samples : String → List TrafficSample) (email : String) :
    entries.foldl (withEntry now) samples email = samples email ++
      (entries.filter fun entry => entry.1 = email).map fun entry => (now, entry.2.total) := by
  induction entries generalizing samples with
  | nil => simp
  | cons entry entries ih =>
    rw [List.foldl_cons, ih, withEntry]
    by_cases hemail : entry.1 = email
    · simp [hemail]
    · simp [hemail]

theorem refreshActivity_holds (texts : TextOps) {probe : ActivityProbe} {now : ℚ}
    {refreshes : List ActivityRefresh} (refresh : ActivityRefresh)
    (h : probe.Holds now fun email => samplesOf email refreshes) (hnow : now ≤ refresh.now) :
    ∃ probe', probe.refreshActivity texts refresh = some probe' ∧
      probe'.probeIds = probeIdsOf texts refresh.config ∧
      (probe'.Holds refresh.now fun email => samplesOf email (refreshes ++ [refresh])) ∧
      probe'.Counts refresh.now (fun email => samplesOf email (refreshes ++ [refresh]))
        refresh.stats := by
  have hstart : ActivityProbe.Holds ⟨probeIdsOf texts refresh.config, probe.history, []⟩
      refresh.now fun email => samplesOf email refreshes :=
    { histories := fun email => (h.histories email).mono hnow
      nonempty := h.nonempty }
  have hempty : ActivityProbe.Counts ⟨probeIdsOf texts refresh.config, probe.history, []⟩
      refresh.now (fun email => samplesOf email refreshes) [] :=
    { unseen := fun _ _ => rfl
      last := by simp }
  obtain ⟨probe', hfold, hids, hholds, hcounts⟩ := takes_holds refresh.stats hstart hempty
  have hsamples : refresh.stats.foldl (withEntry refresh.now)
      (fun email => samplesOf email refreshes) =
        fun email => samplesOf email (refreshes ++ [refresh]) := by
    funext email
    rw [foldl_withEntry]
    simp [samplesOf]
  rw [hsamples] at hholds hcounts
  exact ⟨probe', hfold, hids, hholds, hcounts⟩

/-- The refreshes come at times that do not fall. -/
def InOrder (refreshes : List ActivityRefresh) : Prop :=
  refreshes.Pairwise fun earlier later => earlier.now ≤ later.now

theorem after_holds (texts : TextOps) (refreshes : List ActivityRefresh) (h : InOrder refreshes) :
    ∃ probe, ActivityProbe.after texts refreshes = some probe ∧
      (∀ now, (∀ refresh ∈ refreshes, refresh.now ≤ now) →
        probe.Holds now fun email => samplesOf email refreshes) ∧
      (refreshes = [] → probe.recentBytes = []) ∧
      ∀ earlier last, refreshes = earlier ++ [last] →
        probe.probeIds = probeIdsOf texts last.config ∧
        probe.Counts last.now (fun email => samplesOf email refreshes) last.stats := by
  induction refreshes using List.reverseRecOn with
  | nil =>
    refine ⟨⟨[], [], []⟩, rfl, fun now _ => ?_, fun _ => rfl, by simp⟩
    exact { histories := fun _ => historyOf_nil now, nonempty := by simp }
  | append_singleton refreshes refresh ih =>
    obtain ⟨hbefore, -, hle⟩ := List.pairwise_append.1 h
    obtain ⟨probe, hafter, hholds, -, -⟩ := ih hbefore
    have hnow : ∀ earlier ∈ refreshes, earlier.now ≤ refresh.now := fun earlier hearlier =>
      hle earlier hearlier refresh (List.mem_singleton_self _)
    obtain ⟨probe', hrefresh, hids, hholds', hcounts⟩ :=
      refreshActivity_holds texts refresh (hholds refresh.now hnow) le_rfl
    refine ⟨probe', ?_, fun now hlast => ?_, by simp, fun earlier last heq => ?_⟩
    · rw [ActivityProbe.after, List.foldlM_append, ← ActivityProbe.after, hafter]
      simp [hrefresh]
    · exact
        { histories := fun email => (hholds'.histories email).mono (hlast refresh (by simp))
          nonempty := hholds'.nonempty }
    · obtain ⟨-, hlast⟩ := List.append_inj' heq rfl
      cases hlast
      exact ⟨hids, hcounts⟩

theorem OldestCounted.le_last (h : OldestCounted now samples oldest)
    (hlast : samples.getLast? = some last) : oldest.2 ≤ last.2 := by
  obtain ⟨before, stale, later, rfl, -, hclimb, -, -⟩ := h
  have hmem : last ∈ oldest :: later := by
    rw [← List.append_assoc, List.getLast?_append_of_ne_nil _ (List.cons_ne_nil _ _)] at hlast
    exact List.mem_of_getLast? hlast
  cases hmem with
  | head => exact le_rfl
  | tail _ hlater =>
    exact (List.pairwise_cons.1 (List.pairwise_append.1 hclimb).2.1).1 last hlater

theorem HistoryOf.sorted (h : HistoryOf now samples history) :
    (history.Pairwise fun earlier later => earlier.1 ≤ later.1) ∧ Climbing history := by
  obtain ⟨before, stale, hsamples, -, hclimb, -⟩ := h.split
  have hsub : history.Sublist samples := by
    rw [hsamples, ← List.append_assoc]
    exact List.sublist_append_right _ _
  exact ⟨h.times.sublist hsub, hclimb.sublist (List.sublist_append_right _ _)⟩

theorem InOrder.bounded (h : InOrder refreshes) :
    ∃ now, ∀ refresh ∈ refreshes, refresh.now ≤ now := by
  rcases List.eq_nil_or_concat' refreshes with rfl | ⟨earlier, last, rfl⟩
  · exact ⟨0, by simp⟩
  · refine ⟨last.now, fun refresh hrefresh => ?_⟩
    rcases List.mem_append.1 hrefresh with hmem | hmem
    · exact (List.pairwise_append.1 h).2.2 refresh hmem last (List.mem_singleton_self _)
    · rw [List.mem_singleton.1 hmem]

/-- The bytes of late of an id are never negative. -/
theorem ActivityProbe.Counts.recent_nonneg {probe : ActivityProbe}
    (h : probe.Counts now samples stats) (id : String) : 0 ≤ probe.recent id := by
  rcases split_last (fun entry => decide (probe.probeIds.lookup entry.1 = some id)) stats with
    hnone | ⟨earlier, entry, later, hstats, hid, hlater⟩
  · rw [ActivityProbe.recent, h.unseen id fun entry hentry =>
      of_decide_eq_false (hnone entry hentry)]
    rfl
  · obtain ⟨oldest, hlast, hcounted, hrecent⟩ := h.last id earlier entry later hstats
      (of_decide_eq_true hid) fun other hother => of_decide_eq_false (hlater other hother)
    rw [ActivityProbe.recent, hrecent]
    exact Int.sub_nonneg_of_le (hcounted.le_last hlast)

/-- Refreshes at times that do not fall all go through. No history is empty or falls, in its
times or its totals, and an id has the bytes from the oldest sample that counts to the last. -/
theorem after_activity (texts : TextOps) (refreshes : List ActivityRefresh)
    (h : InOrder refreshes) :
    ∃ probe, ActivityProbe.after texts refreshes = some probe ∧
      (∀ email history, probe.history.lookup email = some history → history ≠ [] ∧
        (history.Pairwise fun earlier later => earlier.1 ≤ later.1) ∧ Climbing history) ∧
      (∀ id, 0 ≤ probe.recent id) ∧
      ∀ earlier last, refreshes = earlier ++ [last] →
        (∀ id, (∀ entry ∈ last.stats,
            (probeIdsOf texts last.config).lookup entry.1 ≠ some id) →
          probe.recent id = 0) ∧
        ∀ id before entry later, last.stats = before ++ entry :: later →
          (probeIdsOf texts last.config).lookup entry.1 = some id →
          (∀ other ∈ later, (probeIdsOf texts last.config).lookup other.1 ≠ some id) →
          ∃ oldest, (samplesOf entry.1 refreshes).getLast? = some (last.now, entry.2.total) ∧
            OldestCounted last.now (samplesOf entry.1 refreshes) oldest ∧
            probe.recent id = entry.2.total - oldest.2 := by
  obtain ⟨probe, hafter, hholds, hstart, hlast⟩ := after_holds texts refreshes h
  refine ⟨probe, hafter, fun email history hfound => ?_, fun id => ?_, fun earlier last heq => ?_⟩
  · obtain ⟨now, hnow⟩ := h.bounded
    have hhistory := (hholds now hnow).histories email
    rw [hfound] at hhistory
    exact ⟨(hholds now hnow).nonempty email history hfound, hhistory.sorted⟩
  · rcases List.eq_nil_or_concat' refreshes with hnil | ⟨earlier, last, heq⟩
    · rw [ActivityProbe.recent, hstart hnil]
      rfl
    · exact (hlast earlier last heq).2.recent_nonneg id
  · obtain ⟨hids, hcounts⟩ := hlast earlier last heq
    refine ⟨fun id hunseen => ?_, fun id before entry later hstats hid hlater => ?_⟩
    · rw [ActivityProbe.recent, hcounts.unseen id (hids ▸ hunseen)]
      rfl
    · obtain ⟨oldest, hend, hcounted, hrecent⟩ :=
        hcounts.last id before entry later hstats (hids ▸ hid) (hids ▸ hlater)
      exact ⟨oldest, hend, hcounted, by rw [ActivityProbe.recent, hrecent]; rfl⟩

/-- A user whose counters are reset, who is not there for a while, and who returns. -/
def resetRefreshes : List ActivityRefresh :=
  let config : XrayConfig :=
    ⟨[⟨none, none, "vless", none, [⟨"uuid", "a", none, []⟩]⟩], none, none, none⟩
  [⟨config, 0, [("a", ⟨some 9, none⟩)]⟩, ⟨config, 10, [("a", ⟨some 1, some 3⟩)]⟩,
    ⟨config, 20, []⟩, ⟨config, 600, [("a", ⟨some 4, some 3⟩)]⟩]

theorem after_activity_reset :
    (ActivityProbe.after ⟨id, id, id, id, id⟩ resetRefreshes).map
      (fun probe => probe.recent "uuid") = some 3 ∧
    ∃ probe, ActivityProbe.after ⟨id, id, id, id, id⟩ resetRefreshes = some probe ∧
      ∀ id, 0 ≤ probe.recent id := by
  refine ⟨by decide +kernel, ?_⟩
  obtain ⟨probe, hafter, -, hrecent, -⟩ :=
    after_activity ⟨id, id, id, id, id⟩ resetRefreshes (by norm_num [InOrder, resetRefreshes])
  exact ⟨probe, hafter, hrecent⟩

/-! ## The probe of the node -/

/-- A sample in whole seconds. -/
def wholeSample (sample : Nat × Nat) : TrafficSample := (sample.1, sample.2)

/-- The load probe with whole seconds as one of any times. -/
def LoadProbe.activity (probe : LoadProbe) : ActivityProbe :=
  ⟨probe.probeIds, probe.history.map fun entry => (entry.1, entry.2.map wholeSample),
    probe.recentBytes⟩

theorem stale_wholeSample (now : Nat) (sample : Nat × Nat) :
    (wholeSample sample).Stale now ↔ activeWindowSeconds < now - sample.1 := by
  rw [TrafficSample.Stale, wholeSample, lt_sub_iff_add_lt]
  dsimp only
  rw [← Nat.cast_add, Nat.cast_lt]
  omega

theorem popStale_map (now : Nat) (history : List (Nat × Nat))
    (h : ∃ sample ∈ history, ¬ activeWindowSeconds < now - sample.1) :
    popStale now (history.map wholeSample) =
      some ((history.dropWhile fun sample =>
        decide (activeWindowSeconds < now - sample.1)).map wholeSample) := by
  induction history with
  | nil =>
    obtain ⟨sample, hsample, -⟩ := h
    cases hsample
  | cons oldest history ih =>
    rw [List.map_cons, popStale]
    by_cases hstale : activeWindowSeconds < now - oldest.1
    · rw [if_pos ((stale_wholeSample now oldest).2 hstale),
        List.dropWhile_cons_of_pos (by simpa using hstale)]
      obtain ⟨sample, hsample, hnot⟩ := h
      cases hsample with
      | head => exact absurd hstale hnot
      | tail _ hmem => exact ih ⟨sample, hmem, hnot⟩
    · rw [if_neg fun hpop => hstale ((stale_wholeSample now oldest).1 hpop),
        List.dropWhile_cons_of_neg (by simpa using hstale), List.map_cons]

theorem clearedOnReset_map (total : Nat) (history : List (Nat × Nat)) :
    clearedOnReset total (history.map wholeSample) =
      (if history.getLast?.any fun last => decide (total < last.2) then []
        else history).map wholeSample := by
  rw [clearedOnReset, List.getLast?_map]
  cases history.getLast? with
  | none => rfl
  | some last =>
    simp only [Option.map_some, Option.any_some, wholeSample, Int.ofNat_lt]
    split <;> rfl

/-- The history that the load probe gets from a counter. -/
def wholeHistory (now total : Nat) (history : List (Nat × Nat)) : List (Nat × Nat) :=
  ((if history.getLast?.any fun last => decide (total < last.2) then [] else history) ++
    [(now, total)]).dropWhile fun sample => decide (activeWindowSeconds < now - sample.1)

theorem refreshHistory_map (now total : Nat) (history : List (Nat × Nat)) :
    refreshHistory now total (history.map wholeSample) =
      some ((wholeHistory now total history).map wholeSample) := by
  rw [refreshHistory, clearedOnReset_map, wholeHistory, ← popStale_map now _
    ⟨(now, total), by simp, by simp⟩, List.map_append]
  rfl

theorem wholeHistory_ne_nil (now total : Nat) (history : List (Nat × Nat)) :
    wholeHistory now total history ≠ [] := by
  rw [wholeHistory, Ne, List.dropWhile_eq_nil_iff]
  intro hall
  have hlast := hall (now, total) (by simp)
  simp at hlast

theorem take_activity (now : Nat) (probe : LoadProbe) (counter : String × Nat × Nat) :
    probe.activity.take now (counter.1, ⟨some counter.2.1, some counter.2.2⟩) =
      some (probe.sample now counter).activity := by
  obtain ⟨email, uplink, downlink⟩ := counter
  have hlookup : (probe.activity.history.lookup email).getD [] =
      ((probe.history.lookup email).getD []).map wholeSample := by
    rw [LoadProbe.activity, lookup_map_value]
    cases probe.history.lookup email <;> rfl
  have htotal : TrafficCounters.total ⟨some uplink, some downlink⟩ = (uplink + downlink : Nat) := by
    simp [TrafficCounters.total]
  have hsample : probe.sample now (email, uplink, downlink) =
      { probe with
        history := dictSet probe.history (email, wholeHistory now (uplink + downlink)
          ((probe.history.lookup email).getD []))
        recentBytes := match probe.probeIds.lookup email with
          | some id => dictSet probe.recentBytes (id, ((uplink + downlink : Nat) : Int) -
            ((wholeHistory now (uplink + downlink)
              ((probe.history.lookup email).getD [])).head?.getD (now, uplink + downlink)).2)
          | none => probe.recentBytes } := rfl
  obtain ⟨first, later, hwhole⟩ := List.exists_cons_of_ne_nil
    (wholeHistory_ne_nil now (uplink + downlink) ((probe.history.lookup email).getD []))
  rw [ActivityProbe.take, hlookup, hsample]
  simp only [htotal, refreshHistory_map, LoadProbe.activity, hwhole, ← dictSet_map_value]
  rfl

theorem refreshActivity_activity (texts : TextOps) (config : XrayConfig)
    (stats : List (String × Nat × Nat)) (now : Nat) (probe : LoadProbe) :
    probe.activity.refreshActivity texts ⟨config, now, stats.map fun counter =>
        (counter.1, ⟨some counter.2.1, some counter.2.2⟩)⟩ =
      some (probe.refreshActivity texts config stats now).activity := by
  have hfold : ∀ (stats : List (String × Nat × Nat)) (probe : LoadProbe),
      (stats.map fun counter => (counter.1, (⟨some counter.2.1, some counter.2.2⟩ :
        TrafficCounters))).foldlM (ActivityProbe.take now) probe.activity =
      some (stats.foldl (LoadProbe.sample now) probe).activity := by
    intro stats
    induction stats with
    | nil => exact fun _ => rfl
    | cons counter stats ih =>
      intro probe
      rw [List.map_cons, List.foldlM_cons, take_activity]
      exact ih (probe.sample now counter)
  exact hfold stats ⟨probeIdsOf texts config, probe.history, []⟩

end AegisVPN
