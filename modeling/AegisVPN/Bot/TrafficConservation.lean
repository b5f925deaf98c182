import AegisVPN.Bot.TrafficAccounts

namespace AegisVPN
open Library
set_option autoImplicit true

/-! ## Totals -/

section Count
variable (digit : Char → Option Nat)

namespace AccountDb

def subsTotal (db : AccountDb) (d : Direction) : Int :=
  (db.subs.map fun sub => sub.traffic.get d).sum

def linksTotal (db : AccountDb) (d : Direction) : Int :=
  (db.subs.map fun sub => sub.link.elim 0 fun link => link.traffic.get d).sum

/-- What a poll adds for all subscriptions. -/
def added (db : AccountDb) (stats : ReportedStats) (d : Direction) : Int :=
  (db.subs.map fun sub => accountAdded digit stats sub d).sum

theorem added_nonneg {stats : ReportedStats} (h : stats.NonNegative) (db : AccountDb)
    (d : Direction) : 0 ≤ db.added digit stats d := by
  apply List.sum_nonneg
  intro x hx
  obtain ⟨sub, _, rfl⟩ := List.mem_map.1 hx
  rw [accountAdded]
  cases sub.link with
  | none => exact le_rfl
  | some link => exact accountGain_nonneg digit h sub link d

theorem foldl_addTraffic (delta : AccountSubscription → Amounts)
    (subs : List AccountSubscription) (t : Amounts) (d : Direction) :
    (subs.foldl (fun t sub => addTraffic t (delta sub)) t).get d =
      t.get d + (subs.map fun sub => (delta sub).get d).sum := by
  induction subs generalizing t with
  | nil => exact (Int.add_zero _).symm
  | cons sub subs ih =>
    rw [List.foldl_cons, ih, get_addTraffic, List.map_cons, List.sum_cons, Int.add_assoc]

/-- A poll that is applied adds the same to the server, to its links and to the subscriptions. -/
theorem poll_totals {stats : ReportedStats} {db : AccountDb} (hstats : stats.entries ≠ [])
    (hactive : db.isActive = true) (d : Direction) :
    (db.poll digit stats).traffic.get d = db.traffic.get d + db.added digit stats d ∧
    (db.poll digit stats).linksTotal d = db.linksTotal d + db.added digit stats d ∧
    (db.poll digit stats).subsTotal d = db.subsTotal d + db.added digit stats d := by
  have hpoll : ¬ (stats.entries = [] ∨ db.isActive = false) := by simp [hstats, hactive]
  rw [poll, if_neg hpoll]
  refine ⟨?_, ?_, ?_⟩
  · refine (foldl_addTraffic _ db.subs db.traffic d).trans (congrArg (_ + ·) ?_)
    exact congrArg List.sum (List.map_congr_left fun sub _ =>
      (countAccount_spec digit stats sub d).1)
  · rw [linksTotal, linksTotal, added, ← List.sum_map_add]
    refine (congrArg List.sum List.map_map).trans (congrArg List.sum ?_)
    exact List.map_congr_left fun sub _ => (countAccount_spec digit stats sub d).2.2
  · rw [subsTotal, subsTotal, added, ← List.sum_map_add]
    refine (congrArg List.sum List.map_map).trans (congrArg List.sum ?_)
    exact List.map_congr_left fun sub _ => (countAccount_spec digit stats sub d).2.1

/-! ## The row of a subscription -/

def subscription (db : AccountDb) (id : Nat) : Option AccountSubscription :=
  db.subs.find? fun sub => sub.id == id

theorem subscription_mapSubs (db : AccountDb) (f : AccountSubscription → AccountSubscription)
    (hf : ∀ sub, (f sub).id = sub.id) (id : Nat) :
    (db.mapSubs f hf).subscription id = (db.subscription id).map f := by
  have hid : ((fun sub : AccountSubscription => sub.id == id) ∘ f) = fun sub => sub.id == id := by
    funext sub
    exact congrArg (· == id) (hf sub)
  rw [subscription, mapSubs, List.find?_map, hid, subscription]

theorem subscription_poll {stats : ReportedStats} {db : AccountDb} (hstats : stats.entries ≠ [])
    (hactive : db.isActive = true) (id : Nat) : (db.poll digit stats).subscription id =
      (db.subscription id).map fun sub => (countAccount (indexReported digit stats) sub).1 := by
  have hpoll : ¬ (stats.entries = [] ∨ db.isActive = false) := by simp [hstats, hactive]
  rw [poll, if_neg hpoll]
  exact db.subscription_mapSubs _ (countAccount_id (indexReported digit stats)) id

theorem countAccount_own {stats stats' : ReportedStats} {sub : AccountSubscription}
    (h : stats.own digit sub.key = stats'.own digit sub.key) :
    countAccount (indexReported digit stats) sub =
      countAccount (indexReported digit stats') sub := by
  rw [countAccount, countAccount]
  cases sub.link with
  | none => rfl
  | some link => simp only [countAccountLink, lookup_indexReported, h]

theorem countAccount_foreign {stats : ReportedStats} {sub : AccountSubscription}
    (h : stats.own digit sub.key = []) :
    (countAccount (indexReported digit stats) sub).1 = sub := by
  have hzero : ∀ columns : Amounts, addTraffic columns .zero = columns := fun _ => rfl
  rw [countAccount]
  cases hlink : sub.link with
  | none => rfl
  | some link =>
    simp only [countAccountLink, lookup_indexReported, h, List.foldl_nil, hzero, ← hlink]

theorem own_eq_nil {stats : ReportedStats} (h : stats.entries = []) (key : TrafficKey) :
    stats.own digit key = [] := by
  rw [ReportedStats.own, ReportedStats.counters, h]
  rfl

theorem subscription_poll_active {stats : ReportedStats} {db : AccountDb}
    (hactive : db.isActive = true) (id : Nat) : (db.poll digit stats).subscription id =
      (db.subscription id).map fun sub => (countAccount (indexReported digit stats) sub).1 := by
  by_cases hstats : stats.entries = []
  · rw [poll_skipped digit (.inl hstats)]
    cases db.subscription id with
    | none => rfl
    | some sub =>
      exact congrArg some (countAccount_foreign digit (own_eq_nil digit hstats sub.key)).symm
  · exact subscription_poll digit hstats hactive id

theorem poll_own (db : AccountDb) (stats stats' : ReportedStats) (id : Nat)
    (h : ∀ sub ∈ db.subscription id, stats.own digit sub.key = stats'.own digit sub.key) :
    (db.poll digit stats).subscription id = (db.poll digit stats').subscription id := by
  by_cases hactive : db.isActive = true
  · rw [subscription_poll_active digit hactive, subscription_poll_active digit hactive]
    cases hsub : db.subscription id with
    | none => rfl
    | some sub => exact congrArg (some ·.1) (countAccount_own digit (h sub hsub))
  · have hskip : db.isActive = false := by simpa using hactive
    rw [poll_skipped digit (.inr hskip), poll_skipped digit (.inr hskip)]

/-! ## Runs -/

/-- The entry of an email that a step finds, where a poll of an active server has one. -/
def sampled (db : AccountDb) (e : PollEvent) (email : String) : Option ReportedCounters :=
  match e with
  | .poll stats => if db.isActive then stats.counters.lookup email else none
  | _ => none

def linkOf (db : AccountDb) (id : Nat) : Option AccountLink :=
  (db.subscription id).bind fun sub => sub.link

/-- What a step adds to the link of a subscription for one email. -/
def gainOf (db : AccountDb) (e : PollEvent) (id : Nat) (email : String) (d : Direction) : Int :=
  match db.sampled e email, db.linkOf id with
  | some c, some link => reportedGain link.cursors d email c
  | _, _ => 0

/-- What a run adds for one email. -/
def accounted (id : Nat) (email : String) (d : Direction) : AccountDb → List PollEvent → Int
  | _, [] => 0
  | db, e :: events =>
    db.gainOf e id email d + accounted id email d (db.step digit e) events

/-- The values of an email's counter that a run finds. -/
def samples (email : String) (d : Direction) : AccountDb → List PollEvent → List Int
  | _, [] => []
  | db, e :: events =>
    ((db.sampled e email).map fun c => c.amounts.get d).toList ++
      samples email d (db.step digit e) events

end AccountDb

/-- A step that takes no link from the subscription. -/
def PollEvent.Keeps (e : PollEvent) (id : Nat) : Prop :=
  (∀ id', e = .unlink id' → id' ≠ id) ∧ ∀ id', e = .deleteSubscription id' → id' ≠ id

/-- The emails that a payload has counters of. -/
def PollEvent.EmailsIn (e : PollEvent) (G : Finset String) : Prop :=
  ∀ stats, e = .poll stats → ∀ p ∈ stats.counters, p.1 ∈ G

/-- A payload whose counters are not negative. -/
def PollEvent.NonNegative (e : PollEvent) : Prop :=
  ∀ stats, e = .poll stats → stats.NonNegative

namespace AccountDb

theorem find?_filter_ne (subs : List AccountSubscription) {id id' : Nat} (h : id' ≠ id) :
    ((subs.filter fun sub => sub.id != id').find? fun sub => sub.id == id) =
      subs.find? fun sub => sub.id == id := by
  rw [List.find?_filter]
  congr 1
  funext sub
  by_cases hid : sub.id = id
  · simp [hid, h.symm]
  · simp [hid]

/-- The link after a step: the cursors that its emails have, and what it was added for them. -/
structure Kept (db : AccountDb) (e : PollEvent) (id : Nat) (key : TrafficKey)
    (link link' : AccountLink) : Prop where
  cursors : ∀ email, trafficEmailKey digit email = some key →
    link'.cursors.lookup email =
      ((db.sampled e email).map ReportedCounters.amounts).or (link.cursors.lookup email)
  traffic : ∀ G : Finset String, e.EmailsIn G → ∀ d, link'.traffic.get d =
    link.traffic.get d + ∑ email ∈ G with trafficEmailKey digit email == some key,
      db.gainOf e id email d

theorem step_kept {db : AccountDb} {e : PollEvent} {id : Nat} (h : e.Keeps id)
    (hsub : db.subscription id = some sub) (hlink : sub.link = some link) :
    ∃ sub' link', (db.step digit e).subscription id = some sub' ∧ sub'.key = sub.key ∧
      sub'.link = some link' ∧ db.Kept digit e id sub.key link link' := by
  have hsame : (db.step digit e).subscription id = some sub →
      (∀ email, db.sampled e email = none) →
      ∃ sub' link', (db.step digit e).subscription id = some sub' ∧ sub'.key = sub.key ∧
        sub'.link = some link' ∧ db.Kept digit e id sub.key link link' := by
    intro hstep hnone
    refine ⟨sub, link, hstep, rfl, hlink, ?_, ?_⟩
    · intro email _
      rw [hnone email]
      rfl
    · intro G _ d
      have hzero : ∀ email, db.gainOf e id email d = 0 := by
        intro email
        rw [gainOf, hnone email]
      simp only [hzero, Finset.sum_const_zero, Int.add_zero]
  have hid : sub.id = id := by simpa using List.find?_some hsub
  cases e with
  | poll stats =>
    by_cases hactive : db.isActive = true
    · refine ⟨{ sub with
          traffic := addTraffic sub.traffic
            (countAccountLink (indexReported digit stats) sub link).2
          link := some (countAccountLink (indexReported digit stats) sub link).1 },
        (countAccountLink (indexReported digit stats) sub link).1, ?_, rfl, rfl, ?_, ?_⟩
      · rw [step, subscription_poll_active digit hactive, hsub, Option.map_some, countAccount,
          hlink]
      · intro email hkey
        rw [(countAccountLink_spec digit stats sub link).2 email, sampled, if_pos hactive,
          ReportedStats.own,
          lookup_filter_key fun email => trafficEmailKey digit email == some sub.key]
        simp [hkey]
      · intro G hG d
        have hlinkOf : db.linkOf id = some link := by rw [linkOf, hsub, Option.bind_some, hlink]
        have hsum : accountGain digit stats sub link d =
            ∑ email ∈ G with trafficEmailKey digit email == some sub.key,
              db.gainOf (.poll stats) id email d := by
          rw [accountGain, ReportedStats.own, sum_filter_lookup (counters_keys stats)
            (hG stats rfl) (fun email => trafficEmailKey digit email == some sub.key)]
          apply Finset.sum_congr rfl
          intro email _
          rw [gainOf, hlinkOf, sampled, if_pos hactive]
          cases stats.counters.lookup email with
          | none => rfl
          | some c => rfl
        rw [← hsum, ← (countAccountLink_spec digit stats sub link).1 d]
        exact get_addTraffic _ _ d
    · have hskip : db.isActive = false := by simpa using hactive
      apply hsame
      · rw [step, poll_skipped digit (.inr hskip)]
        exact hsub
      · intro email
        rw [sampled, if_neg hactive]
  | addSubscription id' userId =>
    apply hsame _ fun _ => rfl
    rw [step, addSubscription]
    split
    · exact hsub
    · rename_i hnew
      have hne : id' ≠ id := by
        rintro rfl
        exact hnew (List.mem_map.2 ⟨sub, List.mem_of_find?_eq_some hsub, hid⟩)
      rw [subscription, List.find?_cons_of_neg (by simpa using hne)]
      exact hsub
  | deleteSubscription id' =>
    apply hsame _ fun _ => rfl
    rw [step, deleteSubscription, subscription, find?_filter_ne db.subs (h.2 id' rfl)]
    exact hsub
  | link id' =>
    apply hsame _ fun _ => rfl
    rw [step, setLink, subscription_mapSubs, hsub]
    by_cases hid' : sub.id = id'
    · rw [Option.map_some, if_pos hid', hlink, Option.some_or, ← hlink]
    · rw [Option.map_some, if_neg hid']
  | unlink id' =>
    apply hsame _ fun _ => rfl
    rw [step, setLink, subscription_mapSubs, hsub]
    have hne : sub.id ≠ id' := fun he => h.1 id' rfl (he.symm.trans hid)
    rw [Option.map_some, if_neg hne]
  | setActive active => exact hsame hsub fun _ => rfl

/-- Where no sampled value falls, what is added for an email is its last value less its first. -/
theorem accounted_telescopes {db : AccountDb} {events : List PollEvent} {id : Nat}
    (hkeeps : ∀ e ∈ events, e.Keeps id) (hsub : db.subscription id = some sub)
    (hlink : sub.link = some link) (hkey : trafficEmailKey digit email = some sub.key)
    (hrise : (((link.cursors.lookup email).map fun last => last.get d).toList ++
      db.samples digit email d events).IsChain (· ≤ ·)) :
    db.accounted digit id email d events =
      (((link.cursors.lookup email).map fun last => last.get d).toList ++
        db.samples digit email d events).getLastD 0 -
      (((link.cursors.lookup email).map fun last => last.get d).toList ++
        db.samples digit email d events).headD 0 := by
  induction events generalizing db sub link with
  | nil =>
    cases hlast : link.cursors.lookup email with
    | none => rfl
    | some last => exact (Int.sub_self _).symm
  | cons e events ih =>
    obtain ⟨sub', link', hsub', hkey', hlink', hkept⟩ :=
      step_kept digit (hkeeps e List.mem_cons_self) hsub hlink
    have hgain : db.gainOf e id email d = (db.sampled e email).elim 0
        fun c => reportedGain link.cursors d email c := by
      have hlinkOf : db.linkOf id = some link := by rw [linkOf, hsub, Option.bind_some, hlink]
      rw [gainOf, hlinkOf]
      cases db.sampled e email with
      | none => rfl
      | some c => rfl
    have hrest := ih (fun e' he' => hkeeps e' (List.mem_cons_of_mem _ he')) hsub' hlink'
      (hkey.trans (congrArg some hkey'.symm))
    rw [hkept.cursors email hkey] at hrest
    rw [samples] at hrise ⊢
    rw [accounted, hgain]
    cases hc : db.sampled e email with
    | none =>
      rw [hc] at hrest hrise
      simpa using hrest (by simpa using hrise)
    | some c =>
      rw [hc] at hrest hrise
      simp only [Option.map_some, Option.some_or, Option.toList_some, List.singleton_append]
        at hrest hrise ⊢
      rw [Option.elim_some, reportedGain]
      cases hlast : link.cursors.lookup email with
      | none =>
        rw [hlast] at hrise
        simpa using hrest (by simpa using hrise)
      | some last =>
        rw [hlast, Option.map_some, Option.toList_some, List.singleton_append,
          List.isChain_cons_cons] at hrise
        have hdelta : reportedDelta (c.amounts.get d) (last.get d) =
            c.amounts.get d - last.get d := by
          rw [reportedDelta, if_neg]
          have hle := hrise.1
          omega
        rw [hrest hrise.2]
        simp only [hdelta, Option.map_some, Option.toList_some, List.singleton_append,
          List.getLastD_cons, List.headD_cons]
        omega

theorem run_kept {db : AccountDb} {events : List PollEvent} {id : Nat}
    (hkeeps : ∀ e ∈ events, e.Keeps id) {G : Finset String} (hG : ∀ e ∈ events, e.EmailsIn G)
    (hsub : db.subscription id = some sub) (hlink : sub.link = some link) :
    ∃ sub' link', (events.foldl (step digit) db).subscription id = some sub' ∧
      sub'.link = some link' ∧ ∀ d, link'.traffic.get d = link.traffic.get d +
        ∑ email ∈ G with trafficEmailKey digit email == some sub.key,
          db.accounted digit id email d events := by
  induction events generalizing db sub link with
  | nil =>
    refine ⟨sub, link, hsub, hlink, ?_⟩
    intro d
    simp only [accounted, Finset.sum_const_zero, Int.add_zero]
  | cons e events ih =>
    obtain ⟨sub', link', hsub', hkey', hlink', hkept⟩ :=
      step_kept digit (hkeeps e List.mem_cons_self) hsub hlink
    obtain ⟨sub'', link'', hsub'', hlink'', hrest⟩ :=
      ih (fun e' he' => hkeeps e' (List.mem_cons_of_mem _ he'))
        (fun e' he' => hG e' (List.mem_cons_of_mem _ he')) hsub' hlink'
    refine ⟨sub'', link'', hsub'', hlink'', ?_⟩
    intro d
    rw [hrest d, hkept.traffic G (hG e List.mem_cons_self) d, hkey']
    simp only [accounted, Finset.sum_add_distrib, Int.add_assoc]

theorem traffic_step {e : PollEvent} (h : e.NonNegative) (db : AccountDb) (d : Direction) :
    db.traffic.get d ≤ (db.step digit e).traffic.get d := by
  cases e with
  | poll stats =>
    rw [step]
    by_cases hskip : stats.entries = [] ∨ db.isActive = false
    · rw [poll_skipped digit hskip]
    · rw [not_or] at hskip
      rw [(poll_totals digit hskip.1 (by simpa using hskip.2) d).1]
      exact le_add_of_nonneg_right (added_nonneg digit (h stats rfl) db d)
  | addSubscription id userId =>
    rw [step, addSubscription]
    split <;> exact le_rfl
  | deleteSubscription id => exact le_rfl
  | link id => exact le_rfl
  | unlink id => exact le_rfl
  | setActive active => exact le_rfl

theorem traffic_run {events : List PollEvent} (h : ∀ e ∈ events, e.NonNegative)
    (db : AccountDb) (d : Direction) :
    db.traffic.get d ≤ (events.foldl (step digit) db).traffic.get d := by
  induction events generalizing db with
  | nil => exact le_rfl
  | cons e events ih =>
    exact (traffic_step digit (h e List.mem_cons_self) db d).trans
      (ih (fun e' he' => h e' (List.mem_cons_of_mem _ he')) _)

/-- What holds of the accounts of a server, whatever its node reports. -/
structure Conserved (db : AccountDb) : Prop where
  totals : ∀ stats : ReportedStats, stats.NonNegative → ∀ d, ∃ amount, 0 ≤ amount ∧
    (db.poll digit stats).traffic.get d = db.traffic.get d + amount ∧
    (db.poll digit stats).linksTotal d = db.linksTotal d + amount ∧
    (db.poll digit stats).subsTotal d = db.subsTotal d + amount
  rows : ∀ stats id sub link, db.subscription id = some sub → sub.link = some link →
    ∃ sub' link', (db.poll digit stats).subscription id = some sub' ∧ sub'.link = some link' ∧
      ∀ d, ∃ amount, (stats.NonNegative → 0 ≤ amount) ∧
        link'.traffic.get d = link.traffic.get d + amount ∧
        sub'.traffic.get d = sub.traffic.get d + amount
  foreign : ∀ (stats stats' : ReportedStats) id,
    (∀ sub ∈ db.subscription id, stats.own digit sub.key = stats'.own digit sub.key) →
    (db.poll digit stats).subscription id = (db.poll digit stats').subscription id
  emails : ∀ (events : List PollEvent) id, (∀ e ∈ events, e.Keeps id) →
    ∀ G : Finset String, (∀ e ∈ events, e.EmailsIn G) →
    ∀ sub link, db.subscription id = some sub → sub.link = some link →
      ∃ sub' link', (events.foldl (step digit) db).subscription id = some sub' ∧
        sub'.link = some link' ∧ ∀ d, link'.traffic.get d = link.traffic.get d +
          ∑ email ∈ G with trafficEmailKey digit email == some sub.key,
            db.accounted digit id email d events
  telescopes : ∀ (events : List PollEvent) id, (∀ e ∈ events, e.Keeps id) →
    ∀ sub link, db.subscription id = some sub → sub.link = some link →
    ∀ email, trafficEmailKey digit email = some sub.key → ∀ d values,
      values = ((link.cursors.lookup email).map fun last => last.get d).toList ++
        db.samples digit email d events →
      values.IsChain (· ≤ ·) →
      db.accounted digit id email d events = values.getLastD 0 - values.headD 0
  monotone : ∀ events : List PollEvent, (∀ e ∈ events, e.NonNegative) → ∀ d,
    db.traffic.get d ≤ (events.foldl (step digit) db).traffic.get d

theorem poll_totals_any (db : AccountDb) {stats : ReportedStats} (h : stats.NonNegative)
    (d : Direction) : ∃ amount, 0 ≤ amount ∧
      (db.poll digit stats).traffic.get d = db.traffic.get d + amount ∧
      (db.poll digit stats).linksTotal d = db.linksTotal d + amount ∧
      (db.poll digit stats).subsTotal d = db.subsTotal d + amount := by
  by_cases hskip : stats.entries = [] ∨ db.isActive = false
  · refine ⟨0, le_rfl, ?_⟩
    rw [poll_skipped digit hskip]
    simp only [Int.add_zero, and_self]
  · rw [not_or] at hskip
    exact ⟨db.added digit stats d, added_nonneg digit h db d,
      poll_totals digit hskip.1 (by simpa using hskip.2) d⟩

theorem poll_rows {db : AccountDb} (stats : ReportedStats) (hsub : db.subscription id' = some sub)
    (hlink : sub.link = some link) : ∃ sub' link',
      (db.poll digit stats).subscription id' = some sub' ∧ sub'.link = some link' ∧
      ∀ d, ∃ amount, (stats.NonNegative → 0 ≤ amount) ∧
        link'.traffic.get d = link.traffic.get d + amount ∧
        sub'.traffic.get d = sub.traffic.get d + amount := by
  by_cases hactive : db.isActive = true
  · have hsub' : (db.poll digit stats).subscription id' = _ :=
      subscription_poll_active digit hactive id'
    rw [hsub, Option.map_some, countAccount, hlink] at hsub'
    refine ⟨_, _, hsub', rfl, ?_⟩
    intro d
    refine ⟨accountGain digit stats sub link d, fun h => accountGain_nonneg digit h sub link d, ?_⟩
    rw [← (countAccountLink_spec digit stats sub link).1 d]
    exact ⟨get_addTraffic _ _ d, get_addTraffic _ _ d⟩
  · have hskip : db.isActive = false := by simpa using hactive
    rw [poll_skipped digit (.inr hskip)]
    refine ⟨sub, link, hsub, hlink, ?_⟩
    intro d
    exact ⟨0, fun _ => le_rfl, (Int.add_zero _).symm, (Int.add_zero _).symm⟩

/-- Over every sequence of payloads and of changes of the rows. -/
theorem traffic_conserved (db : AccountDb) (events : List PollEvent) :
    (events.foldl (step digit) db).Conserved digit where
  totals _ h d := poll_totals_any digit _ h d
  rows stats _ _ _ hsub hlink := poll_rows digit stats hsub hlink
  foreign stats stats' id h := poll_own digit _ stats stats' id h
  emails _ _ hkeeps _ hG _ _ hsub hlink := run_kept digit hkeeps hG hsub hlink
  telescopes _ _ hkeeps _ _ hsub hlink _ hkey _ _ hvalues hrise := by
    subst hvalues
    exact accounted_telescopes digit hkeeps hsub hlink hkey hrise
  monotone _ h d := traffic_run digit h _ d

end AccountDb

end Count

def AccountDb.fresh : AccountDb := ⟨[], List.nodup_nil, .zero, true⟩

/-- A payload with one email's uplink. -/
def uplinkStats (email : String) (bytes : Int) : ReportedStats :=
  ⟨[(email, some ⟨some bytes, none⟩)], List.nodup_singleton _⟩

/-- A link that goes and comes back loses what its email moved meanwhile, and a counter below zero
lowers the server. -/
theorem relinked_not_accounted :
    let linked : List PollEvent := [.addSubscription 1 7, .link 1]
    let relinked := linked ++ [.poll (uplinkStats "user_7_sub_1" 10),
      .poll (uplinkStats "user_7_sub_1" 50), .unlink 1, .link 1,
      .poll (uplinkStats "user_7_sub_1" 70), .poll (uplinkStats "user_7_sub_1" 100)]
    let negative := linked ++ [.poll (uplinkStats "user_7_sub_1" 0),
      .poll (uplinkStats "user_7_sub_1" (-5))]
    let digit := pushedSettings.digit
    let values := AccountDb.fresh.samples digit "user_7_sub_1" .up relinked
    values = [10, 50, 70, 100] ∧ values.getLastD 0 - values.headD 0 = 90 ∧
      AccountDb.fresh.accounted digit 1 "user_7_sub_1" .up relinked = 70 ∧
      (relinked.foldl (AccountDb.step digit) .fresh).traffic.get .up = 70 ∧
      (negative.foldl (AccountDb.step digit) .fresh).traffic.get .up = -5 := by
  decide

end AegisVPN
