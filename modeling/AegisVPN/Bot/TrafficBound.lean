import AegisVPN.Bot.TrafficOrder
import AegisVPN.Library.DictSums

namespace AegisVPN
open Library
set_option autoImplicit true

/-! ## What one report adds -/

section Count
variable (digit : Char → Option Nat)

theorem lookup_indexStats (stats : TrafficStats) (key : TrafficKey) :
    ((indexStatsBySubscription digit stats).lookup key).getD [] =
      stats.filter fun p => trafficEmailKey digit p.1 == some key := by
  have hindex : indexStatsBySubscription digit stats =
      groupBy (fun p => trafficEmailKey digit p.1) stats := by
    have hentry : indexEntry digit = groupEntry fun p => trafficEmailKey digit p.1 := by
      funext indexed entry
      rw [indexEntry, groupEntry]
      cases trafficEmailKey digit entry.1 <;> rfl
    rw [indexStatsBySubscription, hentry]
    rfl
  rw [hindex, lookup_groupBy]

theorem mergeStats_keys {stats hy2Stats : TrafficStats} (h : (stats.map Prod.fst).Nodup) :
    ((mergeStats stats hy2Stats).map Prod.fst).Nodup := by
  induction hy2Stats generalizing stats with
  | nil => exact h
  | cons entry hy2Stats ih => exact ih (addCounters_keys h entry)

theorem get_mergeStats {stats hy2Stats : TrafficStats} (h : (hy2Stats.map Prod.fst).Nodup)
    (email : String) (d : Direction) : ((mergeStats stats hy2Stats).of email).get d =
      (stats.of email).get d + (hy2Stats.of email).get d := by
  rw [mergeStats]
  induction hy2Stats generalizing stats with
  | nil => simp [TrafficStats.of]
  | cons entry hy2Stats ih =>
    obtain ⟨key, c⟩ := entry
    rw [List.map_cons, List.nodup_cons] at h
    rw [List.foldl_cons, ih h.2, of_addCounters]
    by_cases he : email = key
    · have hnone : hy2Stats.lookup email = none := by
        refine List.lookup_eq_none_iff.2 fun p hp => ?_
        have hne : email ≠ p.1 := fun heq => h.1 (List.mem_map.2 ⟨p, hp, heq ▸ he⟩)
        simpa using hne
      subst he
      simp [TrafficStats.of, hnone]
    · have he' : (email == key) = false := by simpa using he
      simp [TrafficStats.of, he, List.lookup_cons, he']

/-- What an entry adds, given the cursors before the poll. -/
def gained (cursors : TrafficCursors) (d : Direction) (email : String) (cur : Counters) : Nat :=
  match cursors.lookup email with
  | none => 0
  | some last => countedDelta (cur.get d) (last.get d)

theorem countEntry_fold {entries : TrafficStats} (h : (entries.map Prod.fst).Nodup)
    (cursors : TrafficCursors) (delta : Counters) :
    (∀ email, (entries.foldl countEntry (cursors, delta)).1.lookup email =
      (entries.lookup email).or (cursors.lookup email)) ∧
    ∀ d, (entries.foldl countEntry (cursors, delta)).2.get d =
      delta.get d + (entries.map fun p => gained cursors d p.1 p.2).sum := by
  induction entries generalizing cursors delta with
  | nil => exact ⟨fun _ => rfl, fun _ => rfl⟩
  | cons entry entries ih =>
    obtain ⟨key, cur⟩ := entry
    rw [List.map_cons, List.nodup_cons] at h
    obtain ⟨delta', hone, hdelta⟩ : ∃ delta', countEntry (cursors, delta) (key, cur) =
        (dictSet cursors (key, cur), delta') ∧
        ∀ d, delta'.get d = delta.get d + gained cursors d key cur := by
      rw [countEntry]
      cases hlast : cursors.lookup key with
      | none => exact ⟨delta, rfl, fun d => by simp [gained, hlast]⟩
      | some last =>
        refine ⟨_, rfl, fun d => ?_⟩
        rw [Counters.get_add, gained, hlast]
        cases d <;> rfl
    obtain ⟨hlookup, hsum⟩ := ih h.2 (dictSet cursors (key, cur)) delta'
    have hrest : ∀ p ∈ entries, p.1 ≠ key := fun p hp he =>
      h.1 (List.mem_map.2 ⟨p, hp, he⟩)
    rw [List.foldl_cons, hone]
    constructor
    · intro email
      rw [hlookup, lookup_dictSet, List.lookup_cons]
      by_cases he : email = key
      · have hnone : entries.lookup email = none := by
          refine List.lookup_eq_none_iff.2 fun p hp => ?_
          have hne : email ≠ p.1 := fun heq => hrest p hp (heq ▸ he)
          simpa using hne
        simp [he ▸ hnone, he]
      · have he' : (email == key) = false := by simpa using he
        simp [he, he']
    · intro d
      have hsame : (entries.map fun p => gained (dictSet cursors (key, cur)) d p.1 p.2) =
          entries.map fun p => gained cursors d p.1 p.2 := by
        refine List.map_congr_left fun p hp => ?_
        rw [gained, lookup_dictSet, if_neg (hrest p hp), gained]
      rw [hsum, hdelta, hsame, List.map_cons, List.sum_cons, Nat.add_assoc]

/-- What a report adds to a subscription that is linked to the server. -/
def gainedBy (stats : TrafficStats) (sub : TrafficSubscription) (link : TrafficLink)
    (d : Direction) : Nat :=
  ((stats.filter fun p => trafficEmailKey digit p.1 == some sub.key).map fun p =>
    gained link.cursors d p.1 p.2).sum

/-- The link after a report, with what it added. -/
structure Counted (stats : TrafficStats) (sub : TrafficSubscription) (link link' : TrafficLink)
    (delta : Counters) : Prop where
  delta : ∀ d, delta.get d = gainedBy digit stats sub link d
  traffic : ∀ d, link'.traffic.get d = link.traffic.get d + gainedBy digit stats sub link d
  cursors : ∀ email, link'.cursors.lookup email =
    if trafficEmailKey digit email = some sub.key then
      (stats.lookup email).or (link.cursors.lookup email)
    else link.cursors.lookup email

theorem countLink_counted {stats : TrafficStats} (h : (stats.map Prod.fst).Nodup)
    (sub : TrafficSubscription) (link : TrafficLink) :
    Counted digit stats sub link (countLink (indexStatsBySubscription digit stats) sub link).1
      (countLink (indexStatsBySubscription digit stats) sub link).2 := by
  obtain ⟨hlookup, hsum⟩ := countEntry_fold
    (filter_keys h fun email => trafficEmailKey digit email == some sub.key) link.cursors .zero
  have hdelta : ∀ d, (countLink (indexStatsBySubscription digit stats) sub link).2.get d =
      gainedBy digit stats sub link d := by
    intro d
    rw [countLink, lookup_indexStats, hsum, Counters.get_zero, Nat.zero_add, gainedBy]
  refine ⟨hdelta, fun d => ?_, fun email => ?_⟩
  · rw [← hdelta d]
    exact Counters.get_add _ _ d
  · rw [countLink, lookup_indexStats, hlookup,
      lookup_filter_key fun email => trafficEmailKey digit email == some sub.key]
    by_cases hk : trafficEmailKey digit email = some sub.key
    · simp [hk]
    · simp [hk]

end Count

/-! ## Runs -/

variable {settings : TrafficSettings}

/-- The bytes of an email that were really moved when the report was made. -/
def TrafficReport.moved (r : TrafficReport) (email : String) (d : Direction) : Nat :=
  (r.xray.moved.of email).get d + (r.hysteria.moved.of email).get d

/-- A report that has all that Hysteria counted for the email. -/
def TrafficReport.Complete (settings : TrafficSettings) (r : TrafficReport) (email : String) :
    Prop :=
  (settings.hy2Enabled = true ∧ r.answered = true) ∨ r.hysteria.counters.of email = .zero

/-- The report has all of the email's bytes, and its counter is below the cursor only where both
processes ended what they had counted. -/
def TrafficReport.Sound (settings : TrafficSettings) (r : TrafficReport) (s : TrafficState)
    (link : TrafficLink) (email : String) (cur : Counters) : Prop :=
  r.Complete settings email ∧
    ∀ last ∈ link.cursors.lookup email, ∀ r' ∈ s.origin email, ∀ d, cur.get d < last.get d →
      r'.xray.Ended r.xray email d ∧ r'.hysteria.Ended r.hysteria email d

/-- A poll whose report is sound for each linked subscription. -/
def TrafficState.SoundPoll (settings : TrafficSettings) (s : TrafficState) (e : TrafficEvent) :
    Prop :=
  e = .applyStats → ∀ r ∈ s.fetched, s.db.isActive = true → ∀ sub ∈ s.db.subs,
    ∀ link ∈ sub.link, ∀ p ∈ r.stats settings,
      trafficEmailKey settings.digit p.1 = some sub.key → r.Sound settings s link p.1 p.2

instance decidableComplete (settings : TrafficSettings) (r : TrafficReport) (email : String) :
    Decidable (r.Complete settings email) :=
  inferInstanceAs (Decidable (_ ∨ _))

instance decidableSound (settings : TrafficSettings) (r : TrafficReport) (s : TrafficState)
    (link : TrafficLink) (email : String) (cur : Counters) :
    Decidable (r.Sound settings s link email cur) :=
  inferInstanceAs (Decidable (_ ∧ _))

instance decidableSoundPoll (settings : TrafficSettings) (s : TrafficState) (e : TrafficEvent) :
    Decidable (s.SoundPoll settings e) :=
  inferInstanceAs (Decidable (_ → _))

theorem stats_keys (r : TrafficReport) : ((r.stats settings).map Prod.fst).Nodup :=
  mergeStats_keys r.xray.counters_keys

theorem TrafficReport.Before.moved {r r' : TrafficReport} (h : r.Before r') (email : String)
    (d : Direction) : r.moved email d ≤ r'.moved email d :=
  Nat.add_le_add (h.xray.moved email d) (h.hysteria.moved email d)

theorem get_stats {r : TrafficReport} (h : r.Complete settings email)
    (hcur : (r.stats settings).lookup email = some cur) (d : Direction) :
    cur.get d = (r.xray.counters.of email).get d + (r.hysteria.counters.of email).get d := by
  have hof : (r.stats settings).of email = cur := by rw [TrafficStats.of, hcur]; rfl
  rw [← hof, TrafficReport.stats, get_mergeStats]
  · congr 2
    rw [hysteriaTraffic]
    rcases h with ⟨henabled, hanswered⟩ | hzero
    · rw [if_pos henabled, if_pos hanswered]
      rfl
    · have hempty : TrafficStats.of [] email = .zero := rfl
      by_cases henabled : settings.hy2Enabled = true <;> by_cases ha : r.answered = true <;>
        simp [henabled, ha, hzero, hempty]
  · rw [hysteriaTraffic]
    by_cases henabled : settings.hy2Enabled = true <;> by_cases ha : r.answered = true <;>
      simp [henabled, ha, r.hysteria.counters_keys]

namespace TrafficState

/-- The bytes of an email that were moved when the report behind its cursors was made. -/
def seen (s : TrafficState) (email : String) (d : Direction) : Nat :=
  (s.origin email).elim 0 fun r => r.moved email d

/-- The cursors of a link hold what the reports behind them said. -/
structure Traced (settings : TrafficSettings) (s : TrafficState) (sub : TrafficSubscription)
    (link : TrafficLink) : Prop where
  key : ∀ email last, link.cursors.lookup email = some last →
    trafficEmailKey settings.digit email = some sub.key
  report : ∀ email last, link.cursors.lookup email = some last →
    ∃ r, s.origin email = some r ∧ r.Complete settings email ∧
      (r.stats settings).lookup email = some last

/-- What is counted was moved when the reports were made. -/
structure Accounted (settings : TrafficSettings) (s : TrafficState) (G : Finset String) :
    Prop where
  sub : ∀ sub ∈ s.db.subs, ∀ d, sub.traffic.get d ≤
    ∑ email ∈ G with trafficEmailKey settings.digit email == some sub.key, s.seen email d
  link : ∀ sub ∈ s.db.subs, ∀ link, sub.link = some link → ∀ d, link.traffic.get d ≤
    ∑ email ∈ G with trafficEmailKey settings.digit email == some sub.key, s.seen email d
  server : ∀ d, s.db.traffic.get d ≤
    ∑ email ∈ G with (trafficEmailKey settings.digit email).isSome, s.seen email d
  traced : ∀ sub ∈ s.db.subs, ∀ link, sub.link = some link → s.Traced settings sub link

theorem Ordered.seen_le {s : TrafficState} (h : s.Ordered settings) (hr : s.fetched = some r)
    (email : String) (d : Direction) : s.seen email d ≤ r.moved email d := by
  rw [seen]
  cases ho : s.origin email with
  | none => exact Nat.zero_le _
  | some r' => exact (h.fetched r hr email r' ho).moved email d

/-- A sound report adds no more than was moved since the report behind the cursor. -/
theorem gained_le {s : TrafficState} (h : s.Ordered settings) (hr : s.fetched = some r)
    (ht : s.Traced settings sub link) (hs : r.Sound settings s link email cur)
    (hcur : (r.stats settings).lookup email = some cur) (d : Direction) :
    gained link.cursors d email cur + s.seen email d ≤ r.moved email d := by
  have hseen := h.seen_le hr email d
  rw [gained]
  cases hlast : link.cursors.lookup email with
  | none =>
    simp only [Nat.zero_add]
    exact hseen
  | some last =>
    obtain ⟨r', ho, hcomplete, hlast'⟩ := ht.report email last hlast
    have hbefore := h.fetched r hr email r' ho
    have hcur' := get_stats hs.1 hcur d
    have hlast'' := get_stats hcomplete hlast' d
    have hseen' : s.seen email d = r'.moved email d := by rw [seen, ho]; rfl
    simp only [hseen', TrafficReport.moved, countedDelta]
    split
    · rename_i hlt
      obtain ⟨hx, hh⟩ := hs.2 last hlast r' ho d hlt
      have hxm := hbefore.xray.ended hx
      have hhm := hbefore.hysteria.ended hh
      omega
    · have hxm := hbefore.xray.grown email d
      have hhm := hbefore.hysteria.grown email d
      omega

theorem seen_applyStats {s : TrafficState} (hr : s.fetched = some r) (email : String)
    (d : Direction) : (s.step settings .applyStats).seen email d =
      if s.db.isActive ∧ ((r.stats settings).lookup email).isSome then r.moved email d
      else s.seen email d := by
  simp only [seen, step, hr]
  split <;> rfl

/-- What a sound report adds to a subscription fits between what was moved before and now. -/
theorem gainedBy_le {s : TrafficState} (h : s.Ordered settings) (hr : s.fetched = some r)
    (hactive : s.db.isActive = true) (ht : s.Traced settings sub link)
    (hs : ∀ email cur, trafficEmailKey settings.digit email = some sub.key →
      (r.stats settings).lookup email = some cur → r.Sound settings s link email cur)
    {G : Finset String} (hG : ∀ p ∈ r.stats settings, p.1 ∈ G) (d : Direction) :
    gainedBy settings.digit (r.stats settings) sub link d ≤
      ∑ email ∈ G with trafficEmailKey settings.digit email == some sub.key,
        ((s.step settings .applyStats).seen email d - s.seen email d) := by
  rw [gainedBy, sum_filter_lookup (stats_keys r) hG
    (fun email => trafficEmailKey settings.digit email == some sub.key)]
  refine Finset.sum_le_sum fun email hmem => ?_
  have hkey := eq_of_beq (Finset.mem_filter.1 hmem).2
  cases hcur : (r.stats settings).lookup email with
  | none => exact Nat.zero_le _
  | some cur =>
    have hle := gained_le h hr ht (hs email cur hkey hcur) hcur d
    rw [seen_applyStats hr, if_pos ⟨hactive, by rw [hcur]; rfl⟩]
    exact Nat.le_sub_of_add_le hle

theorem seen_le_applyStats {s : TrafficState} (h : s.Ordered settings)
    (hr : s.fetched = some r) (email : String) (d : Direction) :
    s.seen email d ≤ (s.step settings .applyStats).seen email d := by
  rw [seen_applyStats hr]
  split
  · exact h.seen_le hr email d
  · exact le_rfl

theorem add_le_seen {s : TrafficState} (h : s.Ordered settings) (hr : s.fetched = some r)
    {G G' : Finset String} (hG : G ⊆ G') (q : String → Bool)
    (hbefore : a ≤ ∑ email ∈ G with q email, s.seen email d)
    (hadded : b ≤ ∑ email ∈ G' with q email,
      ((s.step settings .applyStats).seen email d - s.seen email d)) :
    a + b ≤ ∑ email ∈ G' with q email, (s.step settings .applyStats).seen email d := by
  calc a + b
      ≤ (∑ email ∈ G' with q email, s.seen email d) +
          ∑ email ∈ G' with q email,
            ((s.step settings .applyStats).seen email d - s.seen email d) :=
        Nat.add_le_add (hbefore.trans (Finset.sum_le_sum_of_subset
          (Finset.filter_subset_filter _ hG))) hadded
    _ = ∑ email ∈ G' with q email, (s.step settings .applyStats).seen email d := by
        rw [← Finset.sum_add_distrib]
        exact Finset.sum_congr rfl fun email _ =>
          Nat.add_sub_cancel' (seen_le_applyStats h hr email d)

theorem Traced.applyStats {s : TrafficState} {sub : TrafficSubscription}
    {link link' : TrafficLink} (hr : s.fetched = some r)
    (hactive : s.db.isActive = true) (ht : s.Traced settings sub link)
    (hs : ∀ email cur, trafficEmailKey settings.digit email = some sub.key →
      (r.stats settings).lookup email = some cur → r.Sound settings s link email cur)
    (hc : Counted settings.digit (r.stats settings) sub link link' delta) :
    (s.step settings .applyStats).Traced settings sub link' := by
  have horigin : ∀ email, (s.step settings .applyStats).origin email =
      if s.db.isActive ∧ ((r.stats settings).lookup email).isSome then some r
      else s.origin email := by
    intro email
    simp only [TrafficState.step, hr]
  refine ⟨fun email last hlast => ?_, fun email last hlast => ?_⟩ <;>
    rw [hc.cursors] at hlast <;> split at hlast
  · assumption
  · exact ht.key email last hlast
  · rename_i hkey
    rw [horigin]
    cases hcur : (r.stats settings).lookup email with
    | none =>
      rw [hcur, Option.none_or] at hlast
      rw [if_neg (by simp)]
      exact ht.report email last hlast
    | some cur =>
      rw [hcur, Option.some_or] at hlast
      cases hlast
      rw [if_pos ⟨hactive, rfl⟩]
      exact ⟨r, rfl, (hs email _ hkey hcur).1, hcur⟩
  · rename_i hkey
    exact absurd (ht.key email last hlast) hkey

theorem get_foldl_add {α : Type} (f : α → Counters) (l : List α) (t : Counters)
    (d : Direction) :
    (l.foldl (fun t a => t.add (f a)) t).get d = t.get d + (l.map fun a => (f a).get d).sum := by
  induction l generalizing t with
  | nil => rfl
  | cons a l ih => rw [List.foldl_cons, ih, Counters.get_add, List.map_cons, List.sum_cons,
      Nat.add_assoc]

theorem mem_applyTrafficStats {stats : TrafficStats} (h : (stats.map Prod.fst).Nodup)
    {db : TrafficDb} (hif : ¬ (stats = [] ∨ db.isActive = false))
    (hmem : sub' ∈ (applyTrafficStats digit stats db).subs) : ∃ sub ∈ db.subs,
      (sub.link = none ∧ sub' = sub) ∨ ∃ link link' delta, sub.link = some link ∧
        Counted digit stats sub link link' delta ∧
        sub' = { sub with traffic := sub.traffic.add delta, link := some link' } := by
  rw [applyTrafficStats, if_neg hif] at hmem
  obtain ⟨sub, hsub, rfl⟩ := List.mem_map.1 hmem
  refine ⟨sub, hsub, ?_⟩
  rw [countSubscription]
  cases hlink : sub.link with
  | none => exact .inl ⟨rfl, rfl⟩
  | some link => exact .inr ⟨link, _, _, rfl, countLink_counted digit h sub link, rfl⟩

/-- The server takes what its subscriptions take; no email counts for two of them. -/
theorem server_added_le {stats : TrafficStats} (h : (stats.map Prod.fst).Nodup) (db : TrafficDb)
    {G : Finset String} (f : String → Nat) (d : Direction)
    (hadded : ∀ sub ∈ db.subs, ∀ link, sub.link = some link → gainedBy digit stats sub link d ≤
      ∑ email ∈ G with trafficEmailKey digit email == some sub.key, f email) :
    (db.subs.map fun sub =>
      (countSubscription (indexStatsBySubscription digit stats) sub).2.get d).sum ≤
        ∑ email ∈ G with (trafficEmailKey digit email).isSome, f email := by
  have hpart : ∀ sub ∈ db.subs,
      (countSubscription (indexStatsBySubscription digit stats) sub).2.get d ≤
        ∑ email ∈ G with trafficEmailKey digit email == some sub.key, f email := by
    intro sub hmem
    rw [countSubscription]
    cases hlink : sub.link with
    | none =>
      rw [Counters.get_zero]
      exact Nat.zero_le _
    | some link =>
      exact ((countLink_counted digit h sub link).delta d).le.trans (hadded sub hmem link hlink)
  have hdistinct : (db.subs.map TrafficSubscription.key).Nodup := by
    refine List.Nodup.of_map TrafficKey.subscriptionId ?_
    rw [List.map_map]
    exact db.distinct
  refine (List.sum_le_sum hpart).trans ?_
  have hfibres := sum_fibres_le (trafficEmailKey digit) G f hdistinct
  rwa [List.map_map] at hfibres

theorem Accounted.applyStats {s : TrafficState} {G : Finset String}
    (ha : s.Accounted settings G) (h : s.Ordered settings)
    (hs : s.SoundPoll settings .applyStats) (hr : s.fetched = some r)
    (hactive : s.db.isActive = true) (hstats : r.stats settings ≠ []) :
    (s.step settings .applyStats).Accounted settings
      (G ∪ ((r.stats settings).map Prod.fst).toFinset) := by
  have hsub : G ⊆ G ∪ ((r.stats settings).map Prod.fst).toFinset := Finset.subset_union_left
  have hkeys : ∀ p ∈ r.stats settings,
      p.1 ∈ G ∪ ((r.stats settings).map Prod.fst).toFinset := fun p hp =>
    Finset.mem_union_right _ (List.mem_toFinset.2 (List.mem_map_of_mem hp))
  generalize G ∪ ((r.stats settings).map Prod.fst).toFinset = G' at hsub hkeys
  have hsound : ∀ sub ∈ s.db.subs, ∀ link, sub.link = some link → ∀ email cur,
      trafficEmailKey settings.digit email = some sub.key →
      (r.stats settings).lookup email = some cur → r.Sound settings s link email cur :=
    fun sub hmem link hlink email cur hkey hcur =>
      hs rfl r hr hactive sub hmem link hlink (email, cur) (mem_of_lookup hcur) hkey
  have hdb : (s.step settings .applyStats).db =
      applyTrafficStats settings.digit (r.stats settings) s.db := by
    simp only [TrafficState.step, hr]
  have hif : ¬ (r.stats settings = [] ∨ s.db.isActive = false) := by simp [hstats, hactive]
  have hadded : ∀ d, ∀ sub ∈ s.db.subs, ∀ link, sub.link = some link →
      gainedBy settings.digit (r.stats settings) sub link d ≤
        ∑ email ∈ G' with trafficEmailKey settings.digit email == some sub.key,
          ((s.step settings .applyStats).seen email d - s.seen email d) :=
    fun d sub hmem link hlink => gainedBy_le h hr hactive (ha.traced sub hmem link hlink)
      (hsound sub hmem link hlink) hkeys d
  constructor
  case sub =>
    intro sub' hmem d
    obtain ⟨sub, hsubs, ⟨-, rfl⟩ | ⟨link, link', delta, hlink, hc, rfl⟩⟩ :=
      mem_applyTrafficStats (stats_keys r) hif (hdb ▸ hmem)
    · exact add_le_seen (b := 0) h hr hsub _ (ha.sub _ hsubs d) (Nat.zero_le _)
    · rw [Counters.get_add, hc.delta]
      exact add_le_seen h hr hsub _ (ha.sub _ hsubs d) (hadded d _ hsubs link hlink)
  case link =>
    intro sub' hmem link₁ hlink₁ d
    obtain ⟨sub, hsubs, ⟨hnone, rfl⟩ | ⟨link, link', delta, hlink, hc, rfl⟩⟩ :=
      mem_applyTrafficStats (stats_keys r) hif (hdb ▸ hmem)
    · rw [hnone] at hlink₁
      cases hlink₁
    · cases hlink₁
      rw [hc.traffic]
      exact add_le_seen h hr hsub _ (ha.link _ hsubs link hlink d) (hadded d _ hsubs link hlink)
  case server =>
    intro d
    rw [hdb, applyTrafficStats, if_neg hif]
    simp only [get_foldl_add]
    exact add_le_seen h hr hsub _ (ha.server d)
      (server_added_le (stats_keys r) s.db _ d (hadded d))
  case traced =>
    intro sub' hmem link₁ hlink₁
    obtain ⟨sub, hsubs, ⟨hnone, rfl⟩ | ⟨link, link', delta, hlink, hc, rfl⟩⟩ :=
      mem_applyTrafficStats (stats_keys r) hif (hdb ▸ hmem)
    · rw [hnone] at hlink₁
      cases hlink₁
    · cases hlink₁
      have ht := (ha.traced _ hsubs link hlink).applyStats hr hactive
        (hsound _ hsubs link hlink) hc
      exact ⟨ht.key, ht.report⟩

theorem Accounted.of_db {s s' : TrafficState} {G : Finset String} (ha : s.Accounted settings G)
    (ho : s'.origin = s.origin) (hserver : s'.db.traffic = s.db.traffic)
    (hsubs : ∀ sub' ∈ s'.db.subs, (sub'.traffic = .zero ∧ sub'.link = none) ∨
      ∃ sub ∈ s.db.subs, sub.key = sub'.key ∧ sub.traffic = sub'.traffic ∧
        ∀ link, sub'.link = some link → link = ⟨[], .zero⟩ ∨ sub.link = some link) :
    s'.Accounted settings G := by
  have hseen : s'.seen = s.seen := by
    funext email d
    rw [seen, seen, ho]
  constructor
  case sub =>
    intro sub' hmem d
    rw [hseen]
    obtain ⟨hzero, -⟩ | ⟨sub, hsub, hkey, htraffic, -⟩ := hsubs sub' hmem
    · rw [hzero, Counters.get_zero]
      exact Nat.zero_le _
    · rw [← hkey, ← htraffic]
      exact ha.sub sub hsub d
  case link =>
    intro sub' hmem link hlink d
    rw [hseen]
    obtain ⟨-, hnone⟩ | ⟨sub, hsub, hkey, -, hlinks⟩ := hsubs sub' hmem
    · rw [hnone] at hlink
      cases hlink
    · rcases hlinks link hlink with rfl | hlink
      · exact (Counters.get_zero d).le.trans (Nat.zero_le _)
      · rw [← hkey]
        exact ha.link sub hsub link hlink d
  case server =>
    intro d
    rw [hseen, hserver]
    exact ha.server d
  case traced =>
    intro sub' hmem link hlink
    obtain ⟨-, hnone⟩ | ⟨sub, hsub, hkey, -, hlinks⟩ := hsubs sub' hmem
    · rw [hnone] at hlink
      cases hlink
    · rcases hlinks link hlink with rfl | hlink
      · refine ⟨fun email last h => ?_, fun email last h => ?_⟩ <;> cases h
      · have ht := ha.traced sub hsub link hlink
        exact ⟨fun email last h => hkey ▸ ht.key email last h, fun email last h =>
          ho ▸ ht.report email last h⟩

theorem Accounted.same {s s' : TrafficState} {G : Finset String} (ha : s.Accounted settings G)
    (ho : s'.origin = s.origin) (hdb : s'.db = s.db) : s'.Accounted settings G := by
  refine ha.of_db ho (by rw [hdb]) fun sub hsub => .inr ⟨sub, hdb ▸ hsub, rfl, rfl, ?_⟩
  exact fun link hlink => .inr hlink

theorem Accounted.setLink {s : TrafficState} {G : Finset String} (ha : s.Accounted settings G)
    (id : Nat) {f : Option TrafficLink → Option TrafficLink}
    (hf : ∀ link link', f link = some link' → link' = ⟨[], .zero⟩ ∨ link = some link') :
    TrafficState.Accounted settings { s with db := s.db.setLink id f } G := by
  refine ha.of_db rfl rfl fun sub' hmem => ?_
  obtain ⟨sub, hsub, rfl⟩ := List.mem_map.1 hmem
  refine .inr ⟨sub, hsub, ?_⟩
  by_cases h : sub.id = id
  · rw [if_pos h]
    exact ⟨rfl, rfl, fun link hlink => hf sub.link link hlink⟩
  · rw [if_neg h]
    exact ⟨rfl, rfl, fun link hlink => .inr hlink⟩

theorem Accounted.step {s : TrafficState} {G : Finset String} (ha : s.Accounted settings G)
    (h : s.Ordered settings) (e : TrafficEvent) (hs : s.SoundPoll settings e) :
    ∃ G', (s.step settings e).Accounted settings G' := by
  cases e with
  | transfer name email bytes =>
    cases name with
    | xray => exact ⟨G, ha.same rfl rfl⟩
    | hysteria => exact ⟨G, ha.same rfl rfl⟩
  | restart name =>
    cases name with
    | xray => exact ⟨G, ha.same rfl rfl⟩
    | hysteria => exact ⟨G, ha.same rfl rfl⟩
  | queryXray => exact ⟨G, ha.same rfl rfl⟩
  | queryHysteria answered => exact ⟨G, ha.same rfl rfl⟩
  | sendTelemetry =>
    rw [TrafficState.step]
    split <;> exact ⟨G, ha.same rfl rfl⟩
  | advanceSequence n => exact ⟨G, ha.same rfl rfl⟩
  | receiveTelemetry i =>
    rw [TrafficState.step]
    split
    · exact ⟨G, ha⟩
    · split
      · exact ⟨G, ha.same rfl rfl⟩
      · split <;> exact ⟨G, ha.same rfl rfl⟩
  | fetchTelemetry =>
    rw [TrafficState.step]
    split <;> exact ⟨G, ha.same rfl rfl⟩
  | getStats =>
    rw [TrafficState.step]
    split <;> exact ⟨G, ha.same rfl rfl⟩
  | applyStats =>
    cases hr : s.fetched with
    | none =>
      simp only [TrafficState.step, hr]
      exact ⟨G, ha⟩
    | some r =>
      by_cases hif : r.stats settings = [] ∨ s.db.isActive = false
      · refine ⟨G, ha.same ?_ ?_⟩
        · funext email
          rcases hif with hempty | hinactive
          · simp [TrafficState.step, hr, hempty]
          · simp [TrafficState.step, hr, hinactive]
        · simp only [TrafficState.step, hr, applyTrafficStats, if_pos hif]
      · rw [not_or] at hif
        exact ⟨_, ha.applyStats h hs hr (by simpa using hif.2) hif.1⟩
  | addSubscription id userId =>
    refine ⟨G, ha.of_db rfl ?_ fun sub' hmem => ?_⟩
    · simp only [TrafficState.step, TrafficDb.addSubscription]
      split <;> rfl
    · simp only [TrafficState.step, TrafficDb.addSubscription] at hmem
      split at hmem
      · exact .inr ⟨sub', hmem, rfl, rfl, fun link hlink => .inr hlink⟩
      · rcases List.mem_cons.1 hmem with rfl | hmem
        · exact .inl ⟨rfl, rfl⟩
        · exact .inr ⟨sub', hmem, rfl, rfl, fun link hlink => .inr hlink⟩
  | deleteSubscription id =>
    exact ⟨G, ha.of_db rfl rfl fun sub' hmem =>
      .inr ⟨sub', List.mem_of_mem_filter hmem, rfl, rfl, fun link hlink => .inr hlink⟩⟩
  | link id =>
    refine ⟨G, ha.setLink id fun link link' hlink => ?_⟩
    cases link with
    | none => exact .inl (Option.some.inj hlink).symm
    | some link => exact .inr hlink
  | unlink id =>
    refine ⟨G, ha.setLink id fun link link' hlink => ?_⟩
    cases hlink
  | setActive active =>
    exact ⟨G, ha.of_db rfl rfl fun sub' hmem =>
      .inr ⟨sub', hmem, rfl, rfl, fun link hlink => .inr hlink⟩⟩

/-- The bytes that the node really moved for some emails. -/
def moved (s : TrafficState) (q : String → Bool) (d : Direction) : Nat :=
  ((s.xray.moved.filter fun p => q p.1).map fun p => p.2.get d).sum +
    ((s.hysteria.moved.filter fun p => q p.1).map fun p => p.2.get d).sum

theorem Ordered.sum_seen_le {s : TrafficState} (h : s.Ordered settings) (G : Finset String)
    (q : String → Bool) (d : Direction) :
    ∑ email ∈ G with q email, s.seen email d ≤ s.moved q d := by
  have hof : ∀ (stats : TrafficStats) email,
      (stats.of email).get d = (stats.lookup email).elim 0 fun c => c.get d := by
    intro stats email
    rw [TrafficStats.of]
    cases stats.lookup email with
    | none => exact Counters.get_zero d
    | some c => rfl
  have hseen : ∀ email, s.seen email d ≤
      (s.xray.moved.of email).get d + (s.hysteria.moved.of email).get d := by
    intro email
    rw [seen]
    cases ho : s.origin email with
    | none => exact Nat.zero_le _
    | some r =>
      have hnow := h.known r (.inr (.inr ⟨email, ho⟩))
      refine (hnow.moved email d).trans (Nat.add_le_add ?_ ?_)
      · rw [now]
        cases hr : s.xrayRead with
        | none => exact le_rfl
        | some p => exact (h.xrayRead p hr).moved email d
      · rw [now]
        cases hr : s.hysteriaRead with
        | none => exact le_rfl
        | some p => exact (h.hysteriaRead p hr).moved email d
  calc ∑ email ∈ G with q email, s.seen email d
      ≤ ∑ email ∈ G with q email,
          ((s.xray.moved.of email).get d + (s.hysteria.moved.of email).get d) :=
        Finset.sum_le_sum fun email _ => hseen email
    _ ≤ s.moved q d := by
        rw [Finset.sum_add_distrib]
        simp only [hof]
        exact Nat.add_le_add
          (sum_lookup_le s.xray.moved_keys G q fun _ c => c.get d)
          (sum_lookup_le s.hysteria.moved_keys G q fun _ c => c.get d)

theorem accounted_fresh : TrafficState.fresh.Accounted settings ∅ where
  sub _ h := by cases h
  link _ h := by cases h
  server d := (Counters.get_zero d).le
  traced _ h := by cases h

/-- No more is counted than was really moved, if every poll finds a sound report. -/
theorem counted_within_moved (es : List TrafficEvent)
    (h : Along (step settings) (SoundPoll settings) .fresh es) (d : Direction) :
    (∀ sub ∈ (es.foldl (step settings) .fresh).db.subs,
      sub.traffic.get d ≤ (es.foldl (step settings) .fresh).moved
        (fun email => trafficEmailKey settings.digit email == some sub.key) d ∧
      ∀ link, sub.link = some link → link.traffic.get d ≤
        (es.foldl (step settings) .fresh).moved
          (fun email => trafficEmailKey settings.digit email == some sub.key) d) ∧
    (es.foldl (step settings) .fresh).db.traffic.get d ≤ (es.foldl (step settings) .fresh).moved
      (fun email => (trafficEmailKey settings.digit email).isSome) d := by
  have hinv := run_invariant (I := fun s => s.Ordered settings ∧ ∃ G, s.Accounted settings G)
    (C := SoundPoll settings) ⟨ordered_fresh, ∅, accounted_fresh⟩
    (fun s e hs hc => ⟨hs.1.step e, hs.2.elim fun G ha => ha.step hs.1 e hc⟩) h
  obtain ⟨hordered, G, ha⟩ := hinv
  refine ⟨fun sub hsub => ⟨?_, fun link hlink => ?_⟩, ?_⟩
  · exact (ha.sub sub hsub d).trans (hordered.sum_seen_le G _ d)
  · exact (ha.link sub hsub link hlink d).trans (hordered.sum_seen_le G _ d)
  · exact (ha.server d).trans (hordered.sum_seen_le G _ d)

end TrafficState

/-- A pushed node with Hysteria, whose emails are written in plain digits. -/
def pushedSettings : TrafficSettings :=
  ⟨fun c => if c.isDigit then some (c.toNat - '0'.toNat) else none, true, false⟩

def pollEvents (answered : Bool) : List TrafficEvent :=
  [.queryXray, .queryHysteria answered, .getStats, .applyStats]

def linkedEvents : List TrafficEvent :=
  [.addSubscription 1 1, .link 1, .transfer .xray "user_1_sub_1" ⟨5, 7⟩,
    .transfer .hysteria "user_1_sub_1_dev_2" ⟨100, 30⟩] ++ pollEvents true

/-- After its cursors are set, the subscription is counted what it moves. -/
theorem counted_within_moved_linked :
    let events := linkedEvents ++ [.transfer .hysteria "user_1_sub_1" ⟨20, 0⟩,
      .transfer .xray "user_1_sub_1" ⟨1, 1⟩] ++ pollEvents true
    ∀ sub ∈ (events.foldl (TrafficState.step pushedSettings) .fresh).db.subs,
      sub.traffic.get .up = 21 ∧ sub.traffic.get .up ≤
        (events.foldl (TrafficState.step pushedSettings) .fresh).moved (fun email =>
          trafficEmailKey pushedSettings.digit email == some sub.key) .up := by
  intro events sub hsub
  have hsound : Along (TrafficState.step pushedSettings)
      (TrafficState.SoundPoll pushedSettings) .fresh events := by decide
  have htraffic : ∀ sub ∈ (events.foldl (TrafficState.step pushedSettings) .fresh).db.subs,
      sub.traffic.get .up = 21 := by decide
  exact ⟨htraffic sub hsub,
    (TrafficState.counted_within_moved events hsound .up).1 sub hsub |>.1⟩

/-- Hysteria moved 100 bytes of a device; two queries of it that fail, and the subscription is
counted 200. -/
theorem failed_query_counts_twice :
    let events := linkedEvents ++ [.transfer .xray "user_1_sub_1_dev_2" ⟨0, 0⟩] ++
      pollEvents false ++ pollEvents true ++ pollEvents false ++ pollEvents true
    ∃ sub ∈ (events.foldl (TrafficState.step pushedSettings) .fresh).db.subs,
      sub.traffic.get .up = 200 ∧
      (events.foldl (TrafficState.step pushedSettings) .fresh).moved (fun email =>
        trafficEmailKey pushedSettings.digit email == some sub.key) .up = 105 := by
  decide

end AegisVPN
