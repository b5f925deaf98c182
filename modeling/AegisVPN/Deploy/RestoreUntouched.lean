import AegisVPN.Deploy.Failover

namespace AegisVPN
open Library
set_option autoImplicit true

/-! # What a restore changes before it refuses its snapshot -/

section Entries
variable (api : DnsApi Z) (intOfText : Json → Option Int) (c : FailoverConfig)

/-- An entry of an allow-listed record with all its fields. -/
def wellFormed (entry : Json) : Bool :=
  match entryKey c entry with
  | .ok key =>
    match entryPayload intOfText entry key with
    | .ok _ => true
    | .error _ => false
  | .error _ => false

/-- The record of an entry is in the zone as the entry has it. -/
def AsLive (z : Z) (entry : Json) : Prop :=
  ∃ key current payload, entryKey c entry = .ok key ∧ api.records z key.1 key.2 = [current] ∧
    entryPayload intOfText entry key = .ok payload ∧ current.agrees payload = true

/-- In a snapshot of this zone, every entry before the first that is refused is as in the zone. -/
def EarlierAsLive (z : Z) (snapshot : Option Json) : Prop :=
  ∀ fields entries, snapshot = some (.obj fields) →
    fields.lookup "zone_id" = some (.str c.zoneId) →
    fields.lookup "zone_name" = some (.str c.zoneName) →
    snapshotEntries (.obj fields) = .ok entries →
    ∀ entry ∈ entries.takeWhile (wellFormed intOfText c), AsLive api intOfText c z entry

end Entries

/-- No record was overwritten on the way. -/
def DnsState.Untouched (d d' : DnsState Z) : Prop := d'.applied = d.applied ∧ d'.zone = d.zone

section Restore
variable {api : DnsApi Z} {intOfText : Json → Option Int} {c : FailoverConfig}

/-- A look-up changes nothing, and fails for no reason that lies in a snapshot. -/
theorem getRecord_spec (h : getRecord api type name d = (result, d')) :
    d' = d.spent ∧ (∀ current, result = .ok current → api.records d.zone type name = [current]) ∧
      ∀ e, result = .error e → e.ofSnapshot = false := by
  rw [getRecord] at h
  split at h
  · split at h
    · next record hone =>
      obtain ⟨rfl, rfl⟩ := Prod.mk.inj h
      refine ⟨rfl, ?_, ?_⟩
      · intro current hc
        rw [hone, Except.ok.inj hc]
      · intro e he
        cases he
    · obtain ⟨rfl, rfl⟩ := Prod.mk.inj h
      refine ⟨rfl, ?_, ?_⟩
      · intro _ hc
        cases hc
      · intro e he
        rw [← Except.error.inj he]
        rfl
  · obtain ⟨rfl, rfl⟩ := Prod.mk.inj h
    refine ⟨rfl, ?_, ?_⟩
    · intro _ hc
      cases hc
    · intro e he
      rw [← Except.error.inj he]
      rfl

theorem putRecord_spec (h : putRecord api record payload d = (result, d')) :
    (result = .ok () ∧ d' = d.spent.overwrite api record.id payload) ∨
      result = .error .request ∧
        (d' = d.spent ∨ d' = d.spent.overwrite api record.id payload) := by
  rw [putRecord] at h
  split at h
  · obtain ⟨rfl, rfl⟩ := Prod.mk.inj h
    exact .inl ⟨rfl, rfl⟩
  · obtain ⟨rfl, rfl⟩ := Prod.mk.inj h
    exact .inr ⟨rfl, .inl rfl⟩
  · obtain ⟨rfl, rfl⟩ := Prod.mk.inj h
    exact .inr ⟨rfl, .inr rfl⟩

theorem spent_untouched (d : DnsState Z) : d.Untouched d.spent := ⟨rfl, rfl⟩

/-- What one entry can do. -/
inductive EntryOutcome (api : DnsApi Z) (intOfText : Json → Option Int) (c : FailoverConfig)
    (entry : Json) (d : DnsState Z) : Except FailoverError Bool → DnsState Z → Prop
  | refused (hbad : wellFormed intOfText c entry = false) (hd : d.Untouched d') :
    EntryOutcome api intOfText c entry d (.error e) d'
  | failed (he : e.ofSnapshot = false) : EntryOutcome api intOfText c entry d (.error e) d'
  | kept (hgood : wellFormed intOfText c entry = true)
    (hlive : AsLive api intOfText c d.zone entry) (hd : d.Untouched d') :
    EntryOutcome api intOfText c entry d (.ok false) d'
  | overwritten (hgood : wellFormed intOfText c entry = true)
    (hlive : ¬AsLive api intOfText c d.zone entry)
    (hd : ∃ put, d'.applied = put :: d.applied) :
    EntryOutcome api intOfText c entry d (.ok true) d'

theorem restoreEntry_outcome (h : restoreEntry api intOfText c entry d = (result, d')) :
    EntryOutcome api intOfText c entry d result d' := by
  rw [restoreEntry] at h
  cases hkey : entryKey c entry with
  | error e =>
    simp only [hkey] at h
    obtain ⟨rfl, rfl⟩ := Prod.mk.inj h
    apply EntryOutcome.refused
    · rw [wellFormed, hkey]
    · exact ⟨rfl, rfl⟩
  | ok key =>
    cases hget : getRecord api key.1 key.2 d with
    | mk got d₁ =>
      obtain ⟨rfl, hone, hfailed⟩ := getRecord_spec hget
      cases got with
      | error e =>
        simp only [hkey, hget] at h
        obtain ⟨rfl, rfl⟩ := Prod.mk.inj h
        exact .failed (hfailed e rfl)
      | ok current =>
        have hcurrent := hone current rfl
        cases hpayload : entryPayload intOfText entry key with
        | error e =>
          simp only [hkey, hget, hpayload] at h
          obtain ⟨rfl, rfl⟩ := Prod.mk.inj h
          apply EntryOutcome.refused
          · simp only [wellFormed, hkey, hpayload]
          · exact spent_untouched d
        | ok payload =>
          have hgood : wellFormed intOfText c entry = true := by
            simp only [wellFormed, hkey, hpayload]
          simp only [hkey, hget, hpayload] at h
          by_cases hagrees : current.agrees payload = true
          · rw [if_pos hagrees] at h
            obtain ⟨rfl, rfl⟩ := Prod.mk.inj h
            exact .kept hgood ⟨key, current, payload, hkey, hcurrent, hpayload, hagrees⟩
              (spent_untouched d)
          · have hlive : ¬AsLive api intOfText c d.zone entry := by
              intro ⟨key', current', payload', hkey', hcurrent', hpayload', hagrees'⟩
              obtain rfl := Except.ok.inj (hkey.symm.trans hkey')
              obtain rfl := Except.ok.inj (hpayload.symm.trans hpayload')
              obtain ⟨rfl, -⟩ := List.cons_eq_cons.1 (hcurrent.symm.trans hcurrent')
              exact hagrees hagrees'
            rw [if_neg hagrees] at h
            cases hput : putRecord api current payload d.spent with
            | mk put d₂ =>
              obtain ⟨rfl, rfl⟩ | ⟨rfl, -⟩ := putRecord_spec hput
              · simp only [hput] at h
                obtain ⟨rfl, rfl⟩ := Prod.mk.inj h
                exact .overwritten hgood hlive ⟨_, rfl⟩
              · simp only [hput] at h
                obtain ⟨rfl, rfl⟩ := Prod.mk.inj h
                exact .failed rfl

theorem putRecord_grows (h : putRecord api record payload d = (result, d')) :
    d.applied.length ≤ d'.applied.length := by
  obtain ⟨-, rfl⟩ | ⟨-, rfl | rfl⟩ := putRecord_spec h
  · exact Nat.le_succ _
  · exact Nat.le_refl _
  · exact Nat.le_succ _

theorem restoreEntry_grows (api : DnsApi Z) (intOfText : Json → Option Int) (c : FailoverConfig)
    (entry : Json) (d : DnsState Z) :
    d.applied.length ≤ (restoreEntry api intOfText c entry d).2.applied.length := by
  rw [restoreEntry]
  split
  · exact Nat.le_refl _
  · split
    · next hget =>
      obtain ⟨rfl, -⟩ := getRecord_spec hget
      exact Nat.le_refl _
    · next hget =>
      obtain ⟨rfl, -⟩ := getRecord_spec hget
      split
      · exact Nat.le_refl _
      · split
        · exact Nat.le_refl _
        · split
          · next d₂ hput =>
            have hmore := putRecord_grows hput
            exact hmore
          · next d₂ hput =>
            have hmore := putRecord_grows hput
            exact hmore

theorem restoreEntries_grows (api : DnsApi Z) (intOfText : Json → Option Int)
    (c : FailoverConfig) (entries : List Json) (n : Nat) (d : DnsState Z) :
    d.applied.length ≤ (restoreEntries api intOfText c entries n d).2.applied.length := by
  induction entries generalizing n d with
  | nil => exact Nat.le_refl _
  | cons entry entries ih =>
    have hgrows := restoreEntry_grows api intOfText c entry d
    rw [restoreEntries]
    split
    · next hentry =>
      rw [hentry] at hgrows
      exact hgrows
    · next hentry =>
      rw [hentry] at hgrows
      exact Nat.le_trans hgrows (ih _ _)

/-- Entries that are refused by one of them: nothing is overwritten exactly when all before it
are as in the zone. -/
theorem restoreEntries_untouched_iff {entries : List Json} {n : Nat} {d : DnsState Z}
    (h : restoreEntries api intOfText c entries n d = (.error e, d')) (he : e.ofSnapshot = true) :
    d.Untouched d' ↔
      ∀ entry ∈ entries.takeWhile (wellFormed intOfText c),
        AsLive api intOfText c d.zone entry := by
  induction entries generalizing n d with
  | nil => cases (Prod.mk.inj h).1
  | cons entry entries ih =>
    have hgrows := restoreEntries_grows api intOfText c entries
    rw [restoreEntries] at h
    cases hentry : restoreEntry api intOfText c entry d with
    | mk result d₁ =>
      have houtcome := restoreEntry_outcome hentry
      cases houtcome with
      | refused hbad hd =>
        simp only [hentry] at h
        obtain ⟨-, rfl⟩ := Prod.mk.inj h
        rw [List.takeWhile_cons_of_neg (by rw [hbad]; exact Bool.false_ne_true)]
        exact ⟨fun _ _ hm => absurd hm List.not_mem_nil, fun _ => hd⟩
      | failed hother =>
        simp only [hentry] at h
        obtain ⟨herror, -⟩ := Prod.mk.inj h
        rw [Except.error.inj herror, he] at hother
        exact absurd hother Bool.noConfusion
      | kept hgood hlive hd =>
        simp only [hentry] at h
        have hrest := ih h
        rw [List.takeWhile_cons_of_pos hgood, List.forall_mem_cons]
        rw [hd.2] at hrest
        constructor
        · intro hun
          exact ⟨hlive, hrest.1 ⟨hun.1.trans hd.1.symm, hun.2.trans hd.2.symm⟩⟩
        · intro hall
          have hun := hrest.2 hall.2
          exact ⟨hun.1.trans hd.1, hun.2.trans hd.2⟩
      | overwritten hgood hlive hd =>
        simp only [hentry, if_true] at h
        have hlonger := hgrows (n + 1) d₁
        obtain ⟨put, hput⟩ := hd
        rw [h, hput, List.length_cons] at hlonger
        rw [List.takeWhile_cons_of_pos hgood, List.forall_mem_cons]
        constructor
        · intro hun
          simp only [hun.1] at hlonger
          omega
        · intro hall
          exact absurd hall.1 hlive

end Restore

/-- A snapshot that is refused has changed nothing exactly when every entry before the first that
is refused is as in the zone, or the snapshot is of another zone. -/
theorem refused_untouched_iff (api : DnsApi Z) (intOfText : Json → Option Int)
    (ipVersion : String → Option Nat) (c : FailoverConfig) (snapshot : Option Json)
    (d d' : DnsState Z) (e : FailoverError)
    (h : restoreSnapshot api intOfText ipVersion c snapshot d = (.error e, d'))
    (he : e.ofSnapshot = true) :
    d.Untouched d' ↔ EarlierAsLive api intOfText c d.zone snapshot := by
  rw [restoreSnapshot.eq_def] at h
  split at h
  · obtain ⟨herror, -⟩ := Prod.mk.inj h
    rw [← Except.error.inj herror] at he
    cases he
  · next fields _ =>
    split at h
    · next hother =>
      obtain ⟨-, rfl⟩ := Prod.mk.inj h
      refine ⟨?_, fun _ => ⟨rfl, rfl⟩⟩
      intro _ fields' entries heq hid hname
      obtain rfl := Json.obj.inj (Option.some.inj heq)
      obtain hne | hne := hother
      · exact absurd hid hne
      · exact absurd hname hne
    · next hsame =>
      obtain ⟨hid, hname⟩ := not_or.1 hsame
      split at h
      · next hentries =>
        obtain ⟨-, rfl⟩ := Prod.mk.inj h
        refine ⟨?_, fun _ => ⟨rfl, rfl⟩⟩
        intro _ fields' entries heq _ _ hentries'
        obtain rfl := Json.obj.inj (Option.some.inj heq)
        cases hentries.symm.trans hentries'
      · next entries hentries =>
        have hiff : EarlierAsLive api intOfText c d.zone (some (.obj fields)) ↔
            ∀ entry ∈ entries.takeWhile (wellFormed intOfText c),
              AsLive api intOfText c d.zone entry := by
          constructor
          · intro hall
            exact hall fields entries rfl (not_not.1 hid) (not_not.1 hname) hentries
          · intro hall fields' entries' heq _ _ hentries'
            obtain rfl := Json.obj.inj (Option.some.inj heq)
            obtain rfl := Except.ok.inj (hentries.symm.trans hentries')
            exact hall
        rw [hiff]
        split at h
        · next hrestored =>
          obtain ⟨herror, rfl⟩ := Prod.mk.inj h
          obtain rfl := Except.error.inj herror
          exact restoreEntries_untouched_iff hrestored he
        · cases (Prod.mk.inj h).1
        · cases (Prod.mk.inj h).1
  · next hobj =>
    obtain ⟨-, rfl⟩ := Prod.mk.inj h
    refine ⟨?_, fun _ => ⟨rfl, rfl⟩⟩
    intro _ fields' entries heq
    exact absurd heq (by simpa using hobj fields')

def sampleConfig : FailoverConfig :=
  { apiToken := "t", zoneId := "z", zoneName := "aegisvpn.org", recordNames := ["aegisvpn.org"],
    targetIpv4 := some "198.51.100.10", targetIpv6 := none }

def sampleRecord (id name content : String) : DnsRecord :=
  { id := id, type := "A", name := name, content := content, ttl := 300, proxied := some true }

def sampleState : DnsState DnsZone :=
  { zone := ⟨[sampleRecord "1" "aegisvpn.org" "192.0.2.1",
      sampleRecord "5" "unrelated.aegisvpn.org" "192.0.2.99"], by decide⟩
    rollbackFile := none, fates := [], writtenAt := none, applied := [] }

/-- A snapshot with a record that is not of the allow-list, and what stands before it. -/
def sampleSnapshot (before : List DnsRecord) : Json :=
  rollbackSnapshot sampleConfig (before ++ [sampleRecord "5" "unrelated.aegisvpn.org" "192.0.2.7"])

theorem refused_half_done : ¬∀ (c : FailoverConfig) (snapshot : Option Json)
    (d d' : DnsState DnsZone) (e : FailoverError),
    restoreSnapshot zoneApi (fun _ => none) (fun _ => some 4) c snapshot d = (.error e, d') →
      e.ofSnapshot = true → d.Untouched d' := by
  intro h
  have herror : (restoreSnapshot zoneApi (fun _ => none) (fun _ => some 4) sampleConfig
      (some (sampleSnapshot [sampleRecord "1" "aegisvpn.org" "192.0.2.8"])) sampleState).1 =
        .error .notAllowlisted := by
    decide
  have huntouched : sampleState.Untouched (restoreSnapshot zoneApi (fun _ => none)
      (fun _ => some 4) sampleConfig
      (some (sampleSnapshot [sampleRecord "1" "aegisvpn.org" "192.0.2.8"])) sampleState).2 :=
    h _ _ _ _ _ (Prod.ext herror rfl) rfl
  have hone : (restoreSnapshot zoneApi (fun _ => none) (fun _ => some 4) sampleConfig
      (some (sampleSnapshot [sampleRecord "1" "aegisvpn.org" "192.0.2.8"]))
      sampleState).2.applied.length = 1 := by
    decide
  exact Nat.zero_ne_one ((congrArg List.length huntouched.1).symm.trans hone)

/-- What stands before the refused record is as in the zone. -/
theorem refused_untouched : sampleState.Untouched (restoreSnapshot zoneApi (fun _ => none)
    (fun _ => some 4) sampleConfig
    (some (sampleSnapshot [sampleRecord "1" "aegisvpn.org" "192.0.2.1"])) sampleState).2 ↔
      EarlierAsLive zoneApi (fun _ => none) sampleConfig sampleState.zone
        (some (sampleSnapshot [sampleRecord "1" "aegisvpn.org" "192.0.2.1"])) := by
  apply refused_untouched_iff zoneApi (fun _ => none) (fun _ => some 4) sampleConfig _ sampleState _
    .notAllowlisted
  · apply Prod.ext
    · decide
    · rfl
  · rfl

end AegisVPN
