import Mathlib.Order.Nat
import AegisVPN.Bot.Traffic

namespace AegisVPN
open Library
set_option autoImplicit true

/-! ## Reports in the order of time -/

/-- One process, earlier and later. -/
structure Process.Before (p q : Process) : Prop where
  restarts : p.restarts ≤ q.restarts
  moved : ∀ email d, (p.moved.of email).get d ≤ (q.moved.of email).get d
  same : p.restarts = q.restarts → ∀ email d, (q.moved.of email).get d +
    (p.counters.of email).get d = (p.moved.of email).get d + (q.counters.of email).get d
  later : p.restarts < q.restarts → ∀ email d,
    (p.moved.of email).get d + (q.counters.of email).get d ≤ (q.moved.of email).get d

/-- What the process counted for the email before is not in its later counter. -/
def Process.Ended (p q : Process) (email : String) (d : Direction) : Prop :=
  p.restarts < q.restarts ∨ (p.counters.of email).get d = 0

instance decidableEnded (p q : Process) (email : String) (d : Direction) :
    Decidable (p.Ended q email d) :=
  inferInstanceAs (Decidable (_ ∨ _))

theorem Process.Before.refl (p : Process) : p.Before p :=
  ⟨le_rfl, fun _ _ => le_rfl, fun _ _ _ => rfl, fun h => absurd h (lt_irrefl _)⟩

theorem Process.Before.trans {p q r : Process} (h : p.Before q) (h' : q.Before r) :
    p.Before r where
  restarts := h.restarts.trans h'.restarts
  moved email d := (h.moved email d).trans (h'.moved email d)
  same hr email d := by
    have hpq : p.restarts = q.restarts :=
      le_antisymm h.restarts (hr ▸ h'.restarts)
    have h₁ := h.same hpq email d
    have h₂ := h'.same (hpq ▸ hr) email d
    omega
  later hr email d := by
    have hm := h.moved email d
    have hm' := h'.moved email d
    rcases h'.restarts.lt_or_eq with hqr | hqr
    · have h₂ := h'.later hqr email d
      omega
    · have h₁ := h.later (hqr ▸ hr) email d
      have h₂ := h'.same hqr email d
      omega

theorem Process.before_transfer (p : Process) (entry : String × Counters) :
    p.Before (p.transfer entry) where
  restarts := le_rfl
  moved email d := by
    simp only [Process.transfer, of_addCounters]
    split
    · rw [Counters.get_add]
      omega
    · exact le_rfl
  same _ email d := by
    simp only [Process.transfer, of_addCounters]
    split
    · simp only [Counters.get_add]
      omega
    · rfl
  later h := absurd h (lt_irrefl _)

theorem Process.before_restart (p : Process) : p.Before p.restart where
  restarts := Nat.le_succ _
  moved _ _ := le_rfl
  same h := absurd h (Nat.ne_of_lt (Nat.lt_succ_self _))
  later _ email d := by
    have hzero : (p.restart.counters.of email).get d = 0 := Counters.get_zero d
    rw [hzero]
    exact le_rfl

theorem Process.Before.grown {p q : Process} (h : p.Before q) (email : String) (d : Direction) :
    (p.moved.of email).get d + (q.counters.of email).get d ≤
      (q.moved.of email).get d + (p.counters.of email).get d := by
  rcases h.restarts.lt_or_eq with hr | hr
  · have := h.later hr email d
    omega
  · have := h.same hr email d
    omega

theorem Process.Before.ended {p q : Process} (h : p.Before q) (he : p.Ended q email d) :
    (p.moved.of email).get d + (q.counters.of email).get d ≤ (q.moved.of email).get d := by
  rcases he with hr | hz
  · exact h.later hr email d
  · have := h.grown email d
    omega

structure TrafficReport.Before (r r' : TrafficReport) : Prop where
  xray : r.xray.Before r'.xray
  hysteria : r.hysteria.Before r'.hysteria

theorem TrafficReport.Before.refl (r : TrafficReport) : r.Before r := ⟨.refl _, .refl _⟩

theorem TrafficReport.Before.trans {r₁ r₂ r₃ : TrafficReport} (h : r₁.Before r₂)
    (h' : r₂.Before r₃) : r₁.Before r₃ := ⟨h.xray.trans h'.xray, h.hysteria.trans h'.hysteria⟩

/-- The processes as the agent's next report can know them at the earliest. -/
def TrafficState.now (s : TrafficState) : TrafficReport where
  xray := s.xrayRead.getD s.xray
  hysteria := (s.hysteriaRead.map Prod.fst).getD s.hysteria
  answered := true

/-- A report that was made, whether or not the bot received it. -/
def TrafficState.Known (s : TrafficState) (r : TrafficReport) : Prop :=
  (∃ n, (n, r) ∈ s.sent) ∨ s.fetched = some r ∨ ∃ email, s.origin email = some r

/-- The bot meets the reports in the order in which the agent made them. -/
structure TrafficState.Ordered (settings : TrafficSettings) (s : TrafficState) : Prop where
  xrayRead : ∀ p, s.xrayRead = some p → p.Before s.xray
  hysteriaRead : ∀ q, s.hysteriaRead = some q → q.1.Before s.hysteria
  known : ∀ r, s.Known r → r.Before s.now
  sequence : ∀ m ∈ s.sent, m.1 ≤ s.sequence + 1
  sent : ∀ m ∈ s.sent, ∀ m' ∈ s.sent, m.1 < m'.1 → m.2.Before m'.2
  telemetry : ∀ t, s.telemetry = some t → t ∈ s.sent
  fetched : ∀ r, s.fetched = some r → ∀ email r', s.origin email = some r' → r'.Before r
  pull : settings.pull = true → ∀ r, (s.fetched = some r ∨ ∃ email, s.origin email = some r) →
    ∃ t, s.telemetry = some t ∧ r.Before t.2
  push : settings.pull = false → s.sent = []

variable {settings : TrafficSettings}

theorem TrafficState.ordered_fresh : TrafficState.fresh.Ordered settings where
  xrayRead _ h := by cases h
  hysteriaRead _ h := by cases h
  known r h := by
    rcases h with ⟨n, h⟩ | h | ⟨email, h⟩ <;> cases h
  sequence _ h := by cases h
  sent _ h := by cases h
  telemetry _ h := by cases h
  fetched _ h := by cases h
  pull _ r h := by
    rcases h with h | ⟨email, h⟩ <;> cases h
  push _ := rfl

namespace TrafficState

/-- Steps that neither make nor move a report. -/
theorem Ordered.of_now {s s' : TrafficState} (h : s.Ordered settings)
    (hseq : s.sequence ≤ s'.sequence) (hsent : s'.sent = s.sent)
    (htelemetry : s'.telemetry = s.telemetry) (hfetched : s'.fetched = s.fetched)
    (horigin : s'.origin = s.origin)
    (hx : ∀ p, s'.xrayRead = some p → p.Before s'.xray)
    (hh : ∀ q, s'.hysteriaRead = some q → q.1.Before s'.hysteria)
    (hnow : s.now.Before s'.now) : s'.Ordered settings where
  xrayRead := hx
  hysteriaRead := hh
  known r hr := by
    rw [Known, hsent, hfetched, horigin] at hr
    exact (h.known r hr).trans hnow
  sequence m hm := (h.sequence m (hsent ▸ hm)).trans (Nat.add_le_add_right hseq 1)
  sent m hm m' hm' := h.sent m (hsent ▸ hm) m' (hsent ▸ hm')
  telemetry t ht := hsent ▸ h.telemetry t (htelemetry ▸ ht)
  fetched r hr email r' ho := h.fetched r (hfetched ▸ hr) email r' (horigin ▸ ho)
  pull hp r hr := by
    rw [hfetched, horigin] at hr
    rw [htelemetry]
    exact h.pull hp r hr
  push hp := hsent ▸ h.push hp

theorem report_eq_some {s : TrafficState} {r : TrafficReport} (h : s.report = some r) :
    s.xrayRead = some r.xray ∧ s.hysteriaRead = some (r.hysteria, r.answered) := by
  rw [report] at h
  split at h
  · rename_i xray hysteria answered hx hh
    cases h
    exact ⟨hx, hh⟩
  · cases h

theorem Ordered.before_report {s : TrafficState} (h : s.Ordered settings)
    (hr : s.report = some r) (hk : s.Known r') : r'.Before r := by
  obtain ⟨hx, hh⟩ := report_eq_some hr
  obtain ⟨hx', hh'⟩ := h.known r' hk
  simp only [now, hx, Option.getD_some] at hx'
  simp only [now, hh, Option.map_some, Option.getD_some] at hh'
  exact ⟨hx', hh'⟩

theorem Ordered.report_before {s : TrafficState} (h : s.Ordered settings)
    (hr : s.report = some r) : r.Before ⟨s.xray, s.hysteria, true⟩ := by
  obtain ⟨hx, hh⟩ := report_eq_some hr
  exact ⟨h.xrayRead _ hx, h.hysteriaRead _ hh⟩

theorem Ordered.sendTelemetry {s : TrafficState} (h : s.Ordered settings)
    (hp : settings.pull = true) (hr : s.report = some r) :
    TrafficState.Ordered settings { s with
      xrayRead := none, hysteriaRead := none, sent := s.sent ++ [(s.sequence + 1, r)] } where
  xrayRead p hx := by cases hx
  hysteriaRead q hq := by cases hq
  known r' hk := by
    have hcases : s.Known r' ∨ r' = r := by
      rcases hk with ⟨n, hn⟩ | hf | ho
      · rcases List.mem_append.1 hn with hn | hn
        · exact .inl (.inl ⟨n, hn⟩)
        · exact .inr (Prod.mk.inj (List.mem_singleton.1 hn)).2
      · exact .inl (.inr (.inl hf))
      · exact .inl (.inr (.inr ho))
    rcases hcases with hk | rfl
    · exact (h.before_report hr hk).trans (h.report_before hr)
    · exact h.report_before hr
  sequence m hm := by
    rcases List.mem_append.1 hm with hm | hm
    · exact h.sequence m hm
    · rw [List.mem_singleton.1 hm]
  sent m hm m' hm' hlt := by
    rcases List.mem_append.1 hm with hm | hm <;> rcases List.mem_append.1 hm' with hm' | hm'
    · exact h.sent m hm m' hm' hlt
    · rw [List.mem_singleton.1 hm']
      exact h.before_report hr (.inl ⟨m.1, hm⟩)
    · have hle := h.sequence m' hm'
      rw [List.mem_singleton.1 hm] at hlt
      exact absurd hlt (Nat.not_lt.2 hle)
    · rw [List.mem_singleton.1 hm, List.mem_singleton.1 hm'] at hlt
      exact absurd hlt (lt_irrefl _)
  telemetry t ht := List.mem_append_left _ (h.telemetry t ht)
  fetched := h.fetched
  pull := h.pull
  push hp' := by rw [hp] at hp'; cases hp'

/-- Telemetry is only replaced by later telemetry. -/
theorem Ordered.receiveTelemetry {s : TrafficState} (h : s.Ordered settings)
    (hm : m ∈ s.sent) (hnew : ∀ t, s.telemetry = some t → t.1 < m.1) :
    TrafficState.Ordered settings { s with telemetry := some m } where
  xrayRead := h.xrayRead
  hysteriaRead := h.hysteriaRead
  known := h.known
  sequence := h.sequence
  sent := h.sent
  telemetry t ht := Option.some.inj ht ▸ hm
  fetched := h.fetched
  pull hp r hr := by
    obtain ⟨t, ht, hbefore⟩ := h.pull hp r hr
    exact ⟨m, rfl, hbefore.trans (h.sent t (h.telemetry t ht) m hm (hnew t ht))⟩
  push := h.push

theorem Ordered.fetchTelemetry {s : TrafficState} (h : s.Ordered settings)
    (hp : settings.pull = true) (ht : s.telemetry = some t) :
    TrafficState.Ordered settings { s with fetched := some t.2 } where
  xrayRead := h.xrayRead
  hysteriaRead := h.hysteriaRead
  known r hk := by
    rcases hk with hs | hf | ho
    · exact h.known r (.inl hs)
    · exact h.known r (.inl ⟨t.1, Option.some.inj hf ▸ h.telemetry t ht⟩)
    · exact h.known r (.inr (.inr ho))
  sequence := h.sequence
  sent := h.sent
  telemetry := h.telemetry
  fetched r hr email r' ho := by
    obtain ⟨t', ht', hbefore⟩ := h.pull hp r' (.inr ⟨email, ho⟩)
    rw [ht] at ht'
    cases ht'
    cases hr
    exact hbefore
  pull _ r hr := by
    rcases hr with hf | ho
    · cases hf
      exact ⟨t, ht, .refl _⟩
    · exact h.pull hp r (.inr ho)
  push := h.push

theorem Ordered.getStats {s : TrafficState} (h : s.Ordered settings)
    (hp : settings.pull = false) (hr : s.report = some r) :
    TrafficState.Ordered settings
      { s with xrayRead := none, hysteriaRead := none, fetched := some r } where
  xrayRead p hx := by cases hx
  hysteriaRead q hq := by cases hq
  known r' hk := by
    rcases hk with hs | hf | ho
    · exact (h.before_report hr (.inl hs)).trans (h.report_before hr)
    · cases hf
      exact h.report_before hr
    · exact (h.before_report hr (.inr (.inr ho))).trans (h.report_before hr)
  sequence := h.sequence
  sent := h.sent
  telemetry := h.telemetry
  fetched r' hf email r'' ho := by
    cases hf
    exact h.before_report hr (.inr (.inr ⟨email, ho⟩))
  pull hp' := by rw [hp] at hp'; cases hp'
  push := h.push

theorem Ordered.applyStats {s : TrafficState} (h : s.Ordered settings)
    (hr : s.fetched = some r) {db : TrafficDb} {origin : String → Option TrafficReport}
    (ho : ∀ email r', origin email = some r' → r' = r ∨ s.origin email = some r') :
    TrafficState.Ordered settings { s with db := db, origin := origin, fetched := none } where
  xrayRead := h.xrayRead
  hysteriaRead := h.hysteriaRead
  known r' hk := by
    rcases hk with hs | hf | ⟨email, hk⟩
    · exact h.known r' (.inl hs)
    · cases hf
    · rcases ho email r' hk with rfl | hk
      · exact h.known r' (.inr (.inl hr))
      · exact h.known r' (.inr (.inr ⟨email, hk⟩))
  sequence := h.sequence
  sent := h.sent
  telemetry := h.telemetry
  fetched r' hf := by cases hf
  pull hp r' hk := by
    rcases hk with hf | ⟨email, hk⟩
    · cases hf
    · rcases ho email r' hk with rfl | hk
      · exact h.pull hp r' (.inl hr)
      · exact h.pull hp r' (.inr ⟨email, hk⟩)
  push := h.push

theorem Ordered.grow {s : TrafficState} (h : s.Ordered settings) {xray hysteria : Process}
    (hx : s.xray.Before xray) (hh : s.hysteria.Before hysteria) :
    TrafficState.Ordered settings { s with xray := xray, hysteria := hysteria } := by
  refine h.of_now le_rfl rfl rfl rfl rfl (fun p hp => (h.xrayRead p hp).trans hx)
    (fun q hq => (h.hysteriaRead q hq).trans hh) ⟨?_, ?_⟩
  · cases hr : s.xrayRead with
    | none =>
      simp only [now, hr]
      exact hx
    | some p =>
      simp only [now, hr]
      exact Process.Before.refl p
  · cases hr : s.hysteriaRead with
    | none =>
      simp only [now, hr]
      exact hh
    | some q =>
      simp only [now, hr]
      exact Process.Before.refl q.1

theorem Ordered.queryXray {s : TrafficState} (h : s.Ordered settings) :
    TrafficState.Ordered settings { s with xrayRead := some s.xray } := by
  refine h.of_now le_rfl rfl rfl rfl rfl ?_ h.hysteriaRead ⟨?_, .refl _⟩
  · rintro p hp
    cases hp
    exact .refl _
  · cases hr : s.xrayRead with
    | none =>
      simp only [now, hr]
      exact Process.Before.refl s.xray
    | some p =>
      simp only [now, hr]
      exact h.xrayRead p hr

theorem Ordered.queryHysteria {s : TrafficState} (h : s.Ordered settings) (answered : Bool) :
    TrafficState.Ordered settings { s with hysteriaRead := some (s.hysteria, answered) } := by
  refine h.of_now le_rfl rfl rfl rfl rfl h.xrayRead ?_ ⟨.refl _, ?_⟩
  · rintro q hq
    cases hq
    exact .refl _
  · cases hr : s.hysteriaRead with
    | none =>
      simp only [now, hr]
      exact Process.Before.refl s.hysteria
    | some q =>
      simp only [now, hr]
      exact h.hysteriaRead q hr

theorem Ordered.withDb {s : TrafficState} (h : s.Ordered settings) (db : TrafficDb) :
    TrafficState.Ordered settings { s with db := db } :=
  h.of_now le_rfl rfl rfl rfl rfl h.xrayRead h.hysteriaRead (.refl _)

theorem Ordered.step {s : TrafficState} (h : s.Ordered settings) (e : TrafficEvent) :
    (s.step settings e).Ordered settings := by
  cases e with
  | transfer name email bytes =>
    cases name with
    | xray => exact h.grow (s.xray.before_transfer _) (.refl _)
    | hysteria => exact h.grow (.refl _) (s.hysteria.before_transfer _)
  | restart name =>
    cases name with
    | xray => exact h.grow s.xray.before_restart (.refl _)
    | hysteria => exact h.grow (.refl _) s.hysteria.before_restart
  | queryXray => exact h.queryXray
  | queryHysteria answered => exact h.queryHysteria answered
  | sendTelemetry =>
    rw [TrafficState.step]
    split
    · rename_i r hp hr
      exact h.sendTelemetry hp hr
    · exact h
  | advanceSequence n =>
    exact h.of_now (Nat.le_add_right _ _) rfl rfl rfl rfl h.xrayRead h.hysteriaRead (.refl _)
  | receiveTelemetry i =>
    rw [TrafficState.step]
    split
    · exact h
    · rename_i message hm
      have hsent := List.mem_of_getElem? hm
      split
      · rename_i ht
        exact h.receiveTelemetry hsent (by rw [ht]; rintro t ⟨⟩)
      · rename_i stored ht
        split
        · exact h
        · rename_i hlt
          refine h.receiveTelemetry hsent fun t ht' => ?_
          rw [ht] at ht'
          cases ht'
          exact Nat.lt_of_not_le hlt
  | fetchTelemetry =>
    rw [TrafficState.step]
    split
    · rename_i stored hp ht
      exact h.fetchTelemetry (Bool.and_eq_true_iff.1 hp).1 ht
    · exact h
  | getStats =>
    rw [TrafficState.step]
    split
    · rename_i r hp hr
      exact h.getStats (by simpa using (Bool.and_eq_true_iff.1 hp).1) hr
    · exact h
  | applyStats =>
    rw [TrafficState.step]
    split
    · exact h
    · rename_i r hr
      refine h.applyStats hr fun email r' ho => ?_
      split at ho
      · exact .inl (Option.some.inj ho).symm
      · exact .inr ho
  | addSubscription id userId => exact h.withDb _
  | deleteSubscription id => exact h.withDb _
  | link id => exact h.withDb _
  | unlink id => exact h.withDb _
  | setActive active => exact h.withDb _

end TrafficState

end AegisVPN
