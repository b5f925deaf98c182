import Mathlib.Data.List.DropRight
import AegisVPN.Deploy.RestoreUntouched

namespace AegisVPN
open Library
set_option autoImplicit true

/-! # Whether a failover can be undone -/

/-! ## Names -/

theorem lowerChar_of_upper (h : 'A' ≤ c ∧ c ≤ 'Z') : (lowerChar c).toNat = c.toNat + 32 := by
  have hlow : (65 : Nat) ≤ c.toNat := h.1
  have hhigh : c.toNat ≤ 90 := h.2
  rw [lowerChar, if_pos h]
  have hvalid : (c.toNat + 32).isValidChar := .inl (by omega)
  rw [Char.ofNat, dif_pos hvalid]
  rfl

theorem lowerChar_lowerChar (c : Char) : lowerChar (lowerChar c) = lowerChar c := by
  by_cases h : 'A' ≤ c ∧ c ≤ 'Z'
  · have hlow : (65 : Nat) ≤ c.toNat := h.1
    have hn := lowerChar_of_upper h
    rw [lowerChar, if_neg]
    intro hc
    have hhigh : (lowerChar c).toNat ≤ 90 := hc.2
    omega
  · have hsame : lowerChar c = c := if_neg h
    rw [hsame, hsame]

theorem lowerChar_eq_dot : lowerChar c = '.' ↔ c = '.' := by
  by_cases h : 'A' ≤ c ∧ c ≤ 'Z'
  · have hlow : (65 : Nat) ≤ c.toNat := h.1
    have hn := lowerChar_of_upper h
    constructor
    · intro hc
      rw [hc] at hn
      have hdot : '.'.toNat = 46 := rfl
      omega
    · rintro rfl
      exact absurd h (by decide)
  · rw [lowerChar, if_neg h]

theorem normalName_normalName (name : String) : normalName (normalName name) = normalName name := by
  have hdot : (fun c => c == '.') ∘ lowerChar = fun c => c == '.' := by
    funext c
    rw [Function.comp_apply, Bool.eq_iff_iff, beq_iff_eq, beq_iff_eq, lowerChar_eq_dot]
  have hlower : lowerChar ∘ lowerChar = lowerChar := funext lowerChar_lowerChar
  simp only [normalName, String.toList_ofList, ← List.map_reverse, List.reverse_reverse,
    List.dropWhile_map, hdot, List.dropWhile_idempotent, List.map_map, hlower]

/-! ## Redirecting -/

section Redirecting
variable (api : DnsApi Z) (c : FailoverConfig)

abbrev FailoverKey := String × String × String

/-- The records that a query for a key finds. -/
def DnsApi.at (z : Z) (key : FailoverKey) : List DnsRecord := api.records z (.str key.1) key.2.1

/-- The change that is due for a key. -/
def pendingChange (z : Z) (key : FailoverKey) : Option (DnsRecord × DnsPayload) :=
  match api.at z key with
  | [r] => if r.agrees (failoverPayload key) then none else some (r, failoverPayload key)
  | _ => none

def pendingChanges (z : Z) : List (DnsRecord × DnsPayload) :=
  c.targets.filterMap (pendingChange api z)

/-- The record of a key is not at its target, and is `r`. -/
def Outstanding (z : Z) (key : FailoverKey) (r : DnsRecord) : Prop :=
  key ∈ c.targets ∧ api.at z key = [r] ∧ r.agrees (failoverPayload key) = false

/-- What a record is once it is redirected. -/
def DnsRecord.redirected (r : DnsRecord) (key : FailoverKey) : DnsRecord :=
  r.overwrite key.2.2 60 false

/-- From one zone to another, records are kept or redirected. -/
def Moved (z z' : Z) : Prop :=
  ∀ type name, api.records z' type name = api.records z type name ∨
    ∃ key r, Outstanding api c z key r ∧ type = .str key.1 ∧ name = key.2.1 ∧
      api.records z' type name = [r.redirected key]

end Redirecting

section Redirecting
variable {api : DnsApi Z} {c : FailoverConfig}

theorem at_found {key : FailoverKey} (h : api.at z key = [r]) :
    r.type = key.1 ∧ r.name = key.2.1 := by
  have hr : r ∈ api.at z key := by
    rw [h]
    exact List.mem_singleton_self r
  obtain ⟨htype, hname⟩ := api.found hr
  exact ⟨Json.str.inj htype, hname⟩

theorem agrees_iff {r : DnsRecord} {p : DnsPayload} : r.agrees p = true ↔
    Json.str r.type = p.type ∧ r.name = p.name ∧ Json.str r.content = p.content ∧ r.ttl = p.ttl ∧
      r.proxied = some p.proxied := by
  simp only [DnsRecord.agrees, Bool.and_eq_true, decide_eq_true_eq, and_assoc]

theorem redirected_agrees {key : FailoverKey} (h : api.at z key = [r]) :
    (r.redirected key).agrees (failoverPayload key) = true := by
  obtain ⟨htype, hname⟩ := at_found h
  rw [agrees_iff]
  exact ⟨congrArg Json.str htype, hname, rfl, rfl, rfl⟩

theorem target_unique {key key' : FailoverKey} (h : key ∈ c.targets) (h' : key' ∈ c.targets)
    (htype : key.1 = key'.1) : key.2.2 = key'.2.2 := by
  simp only [FailoverConfig.targets, List.flatMap_cons, List.flatMap_nil, List.append_nil,
    List.mem_append, List.mem_flatMap, Option.mem_toList, List.mem_map] at h h'
  obtain ⟨t, ht, raw, -, rfl⟩ | ⟨t, ht, raw, -, rfl⟩ := h
  · obtain ⟨t', ht', raw', -, rfl⟩ | ⟨t', ht', raw', -, rfl⟩ := h'
    · exact Option.mem_unique ht ht'
    · exact absurd htype (by simp)
  · obtain ⟨t', ht', raw', -, rfl⟩ | ⟨t', ht', raw', -, rfl⟩ := h'
    · exact absurd htype (by simp)
    · exact Option.mem_unique ht ht'

theorem target_name {key : FailoverKey} (h : key ∈ c.targets) :
    ∃ raw ∈ c.recordNames, normalName raw = key.2.1 := by
  simp only [FailoverConfig.targets, List.flatMap_cons, List.flatMap_nil, List.append_nil,
    List.mem_append, List.mem_flatMap, Option.mem_toList, List.mem_map] at h
  obtain ⟨t, _, raw, hraw, rfl⟩ | ⟨t, _, raw, hraw, rfl⟩ := h
  · exact ⟨raw, hraw, rfl⟩
  · exact ⟨raw, hraw, rfl⟩

theorem mem_pendingChanges : change ∈ pendingChanges api c z ↔
    ∃ key r, Outstanding api c z key r ∧ change = (r, failoverPayload key) := by
  rw [pendingChanges, List.mem_filterMap]
  constructor
  · intro ⟨key, hkey, hchange⟩
    rw [pendingChange] at hchange
    split at hchange
    · next r hone =>
      split at hchange
      · cases hchange
      · next hagrees =>
        exact ⟨key, r, ⟨hkey, hone, Bool.eq_false_of_not_eq_true hagrees⟩,
          (Option.some.inj hchange).symm⟩
    · cases hchange
  · intro ⟨key, r, ⟨hkey, hone, hagrees⟩, hchange⟩
    refine ⟨key, hkey, ?_⟩
    simp only [pendingChange, hone, hagrees, Bool.false_eq_true, if_false, hchange]

theorem Outstanding.same {key key' : FailoverKey} (h : Outstanding api c z key r)
    (hkey : key' ∈ c.targets) (htype : key'.1 = key.1) (hname : key'.2.1 = key.2.1) :
    Outstanding api c z key' r := by
  have hpayload : failoverPayload key' = failoverPayload key := by
    rw [failoverPayload, failoverPayload, htype, hname, target_unique hkey h.1 htype]
  refine ⟨hkey, ?_, ?_⟩
  · rw [DnsApi.at, htype, hname]
    exact h.2.1
  · rw [hpayload]
    exact h.2.2

theorem Moved.refl (z : Z) : Moved api c z z := fun _ _ => .inl rfl

theorem Moved.trans (h : Moved api c z₁ z₂) (h' : Moved api c z₂ z₃) : Moved api c z₁ z₃ := by
  intro type name
  obtain hkept | ⟨key, r, hpending, rfl, rfl, hmoved⟩ := h' type name
  · obtain hkept' | ⟨key, r, hpending, rfl, rfl, hmoved⟩ := h type name
    · exact .inl (hkept.trans hkept')
    · exact .inr ⟨key, r, hpending, rfl, rfl, hkept.trans hmoved⟩
  · obtain hkept' | ⟨key', r', hpending', htype, hname, hmoved'⟩ := h (.str key.1) key.2.1
    · have hfirst : Outstanding api c z₁ key r :=
        ⟨hpending.1, hkept'.symm.trans hpending.2.1, hpending.2.2⟩
      exact .inr ⟨key, r, hfirst, rfl, rfl, hmoved⟩
    · have htypes := Json.str.inj htype
      have heq : failoverPayload key = failoverPayload key' := by
        rw [failoverPayload, failoverPayload, htypes, hname,
          target_unique hpending.1 hpending'.1 htypes]
      have hr : r = r'.redirected key' :=
        (List.cons_eq_cons.1 (hpending.2.1.symm.trans hmoved')).1
      have hagrees := redirected_agrees hpending'.2.1
      rw [← hr, ← heq, hpending.2.2] at hagrees
      exact absurd hagrees Bool.false_ne_true

theorem Moved.current (h : Moved api c z z') (hp : Outstanding api c z key r) :
    api.at z' key = [r] ∨ api.at z' key = [r.redirected key] := by
  obtain hkept | ⟨key', r', hpending', htype, hname, hmoved⟩ := h (.str key.1) key.2.1
  · exact .inl (hkept.trans hp.2.1)
  · right
    have htypes := Json.str.inj htype
    have hsame : api.at z key = api.at z key' := by rw [DnsApi.at, DnsApi.at, htypes, hname]
    have hr : r = r' := (List.cons_eq_cons.1 (hp.2.1.symm.trans (hsame.trans hpending'.2.1))).1
    have haddress := target_unique hp.1 hpending'.1 htypes
    rw [DnsApi.at, hmoved, DnsRecord.redirected, DnsRecord.redirected, hr, haddress]

theorem Moved.settled {key : FailoverKey} (h : Moved api c z z') (hkey : key ∈ c.targets)
    (hr : api.at z key = [r]) (hagrees : r.agrees (failoverPayload key) = true) :
    api.at z' key = api.at z key := by
  obtain hsame | ⟨key', s, hp, htype, hname, -⟩ := h (.str key.1) key.2.1
  · exact hsame
  · have hpending := hp.same hkey (Json.str.inj htype) hname
    obtain rfl := (List.cons_eq_cons.1 (hr.symm.trans hpending.2.1)).1
    rw [hpending.2.2] at hagrees
    exact absurd hagrees Bool.false_ne_true

/-- A record that is not at its target has never been redirected. -/
theorem Moved.unmoved {key : FailoverKey} (h : Moved api c z z') (hkey : key ∈ c.targets)
    (hr : api.at z' key = [r]) (hagrees : r.agrees (failoverPayload key) = false) :
    api.at z' key = api.at z key := by
  obtain hsame | ⟨key', s, hp, htype, hname, hmoved⟩ := h (.str key.1) key.2.1
  · exact hsame
  · have hpending := hp.same hkey (Json.str.inj htype) hname
    have haddress := target_unique hkey hp.1 (Json.str.inj htype)
    have hred : s.redirected key' = s.redirected key := by
      rw [DnsRecord.redirected, DnsRecord.redirected, haddress]
    have heq := (List.cons_eq_cons.1 (hr.symm.trans (hmoved.trans (by rw [hred])))).1
    have hdone := redirected_agrees hpending.2.1
    rw [← heq, hagrees] at hdone
    exact absurd hdone Bool.false_ne_true

theorem Moved.put (h : Moved api c z z') (hp : Outstanding api c z key r) :
    Moved api c z (api.put z' r.id (failoverPayload key)) := by
  obtain ⟨htype, hname⟩ := at_found hp.2.1
  obtain ⟨q, hq, hid, hqtype, hqname, hmoved⟩ : ∃ q, api.at z' key = [q] ∧ q.id = r.id ∧
      q.type = r.type ∧ q.name = r.name ∧ q.redirected key = r.redirected key := by
    obtain hcur | hcur := h.current hp
    · exact ⟨r, hcur, rfl, rfl, rfl, rfl⟩
    · exact ⟨_, hcur, rfl, rfl, rfl, rfl⟩
  rw [htype] at hqtype
  rw [hname] at hqname
  have hone : api.records z' (.str q.type) q.name = [q] := by
    rw [hqtype, hqname]
    exact hq
  have hpayload : failoverPayload key = ⟨.str q.type, q.name, .str key.2.2, 60, false⟩ := by
    rw [hqtype, hqname]
    rfl
  intro type name
  by_cases hkey : (type, name) = (Json.str q.type, q.name)
  · obtain ⟨rfl, rfl⟩ := Prod.mk.inj hkey
    right
    refine ⟨key, r, hp, congrArg Json.str hqtype, hqname, ?_⟩
    rw [hpayload, ← hid, api.overwritten _ _ _ hone, ← hmoved, DnsRecord.redirected]
  · have hkept : api.records (api.put z' r.id (failoverPayload key)) type name =
        api.records z' type name := by
      rw [← hid]
      exact api.others hone (by rw [hpayload]) (by rw [hpayload]) hkey
    rw [hkept]
    exact h type name

/-! ## One run -/

/-- The file has the value of a record. -/
def FileHolds (file : Option Json) (r : DnsRecord) : Prop :=
  ∃ snapshot entries, file = some snapshot ∧ snapshot.get? "records" = some (.arr entries) ∧
    rollbackEntry r ∈ entries

/-- What an overwriting changed stood in the file by then. -/
def AppliedPut.Secured (put : AppliedPut) : Prop :=
  ∀ r ∈ put.before, r.agrees put.payload = true ∨ FileHolds put.file r

theorem getRecord_ok (h : getRecord api type name d = (.ok r, d')) :
    d' = d.spent ∧ api.records d.zone type name = [r] :=
  ⟨(getRecord_spec h).1, (getRecord_spec h).2.1 r rfl⟩

theorem gatherChanges_frame (api : DnsApi Z) (keys : List FailoverKey) (d : DnsState Z) :
    ∃ fates, (gatherChanges api keys d).2 = { d with fates := fates } := by
  induction keys generalizing d with
  | nil => exact ⟨d.fates, rfl⟩
  | cons key keys ih =>
    rw [gatherChanges]
    split
    · next hget =>
      obtain ⟨rfl, -⟩ := getRecord_spec hget
      exact ⟨_, rfl⟩
    · next hget =>
      obtain ⟨rfl, -⟩ := getRecord_spec hget
      obtain ⟨fates, hfates⟩ := ih d.spent
      split
      · next hrest =>
        rw [hrest] at hfates
        exact ⟨fates, hfates⟩
      · next hrest =>
        rw [hrest] at hfates
        split
        · exact ⟨fates, hfates⟩
        · exact ⟨fates, hfates⟩

theorem gatherChanges_ok {keys : List FailoverKey}
    (h : (gatherChanges api keys d).1 = .ok changes) :
    (∀ key ∈ keys, ∃ r, api.at d.zone key = [r]) ∧
      changes = keys.filterMap (pendingChange api d.zone) := by
  induction keys generalizing d changes with
  | nil =>
    obtain rfl := Except.ok.inj h
    exact ⟨fun _ hm => absurd hm List.not_mem_nil, rfl⟩
  | cons key keys ih =>
    rw [gatherChanges] at h
    split at h
    · cases h
    · next record d' hget =>
      obtain ⟨rfl, hone⟩ := getRecord_ok hget
      split at h
      · cases h
      · next rest d'' hrest =>
        obtain ⟨hall, hchanges⟩ := ih (d := d.spent) (by rw [hrest])
        refine ⟨?_, ?_⟩
        · intro key' hm
          obtain rfl | hm := List.mem_cons.1 hm
          · exact ⟨record, hone⟩
          · exact hall key' hm
        · have hat : api.at d.zone key = [record] := hone
          split at h
          · next hagrees =>
            obtain rfl := Except.ok.inj h
            rw [List.filterMap_cons_none]
            · exact hchanges
            · simp only [pendingChange, hat, hagrees, if_true]
          · next hagrees =>
            obtain rfl := Except.ok.inj h
            rw [List.filterMap_cons_some, hchanges]
            · rfl
            · simp only [pendingChange, hat, if_neg hagrees]

/-- What holds while the changes of the zone `z` are carried out. -/
structure Redirecting (api : DnsApi Z) (c : FailoverConfig) (z : Z) (d : DnsState Z) : Prop where
  moved : Moved api c z d.zone
  file : d.rollbackFile = some (rollbackSnapshot c ((pendingChanges api c z).map Prod.fst))
  writtenAt : d.writtenAt = some z
  secured : ∀ put ∈ d.applied, put.Secured

theorem Redirecting.spent (h : Redirecting api c z d) : Redirecting api c z d.spent :=
  ⟨h.moved, h.file, h.writtenAt, h.secured⟩

theorem fileHolds_pending (h : Outstanding api c z key r) :
    FileHolds (some (rollbackSnapshot c ((pendingChanges api c z).map Prod.fst))) r := by
  refine ⟨_, ((pendingChanges api c z).map Prod.fst).map rollbackEntry, rfl, rfl, ?_⟩
  apply List.mem_map_of_mem
  exact List.mem_map_of_mem (f := Prod.fst) (mem_pendingChanges.2 ⟨key, r, h, rfl⟩)

theorem Redirecting.overwrite (h : Redirecting api c z d) (hp : Outstanding api c z key r) :
    Redirecting api c z (d.overwrite api r.id (failoverPayload key)) where
  moved := h.moved.put hp
  file := h.file
  writtenAt := h.writtenAt
  secured := by
    intro put hput
    obtain rfl | hput := List.mem_cons.1 hput
    · intro q hq
      have hat : q ∈ api.at d.zone key := hq
      obtain hcur | hcur := h.moved.current hp
      · rw [hcur, List.mem_singleton] at hat
        right
        rw [hat, h.file]
        exact fileHolds_pending hp
      · rw [hcur, List.mem_singleton] at hat
        left
        rw [hat]
        exact redirected_agrees hp.2.1
    · exact h.secured put hput

theorem putChanges_redirecting {changes : List (DnsRecord × DnsPayload)}
    (hc : ∀ change ∈ changes, change ∈ pendingChanges api c z) (h : Redirecting api c z d) :
    Redirecting api c z (putChanges api changes d).2 := by
  induction changes generalizing d with
  | nil => exact h
  | cons change changes ih =>
    obtain ⟨key, r, hp, rfl⟩ := mem_pendingChanges.1 (hc change List.mem_cons_self)
    have hover : Redirecting api c z (d.spent.overwrite api r.id (failoverPayload key)) :=
      h.spent.overwrite hp
    rw [putChanges]
    split
    · next hput =>
      obtain ⟨herror, -⟩ | ⟨-, rfl | rfl⟩ := putRecord_spec hput
      · cases herror
      · exact h.spent
      · exact hover
    · next hput =>
      obtain ⟨-, rfl⟩ | ⟨herror, -⟩ := putRecord_spec hput
      · exact ih (fun change hm => hc change (List.mem_cons_of_mem _ hm)) hover
      · cases herror

/-! ## A sequence of runs -/

/-- What a sequence of runs that began in the zone `z₀` keeps. -/
structure Undoable (api : DnsApi Z) (ipVersion : String → Option Nat) (c : FailoverConfig) (z₀ : Z)
    (d : DnsState Z) : Prop where
  secured : ∀ put ∈ d.applied, put.Secured
  fresh : d.writtenAt = none → d.zone = z₀
  written : ∀ z, d.writtenAt = some z → c.invalid ipVersion = none ∧ Moved api c z₀ z ∧
    (∀ key ∈ c.targets, ∃ r, api.at z key = [r]) ∧ Redirecting api c z d

theorem Undoable.moved (h : Undoable api ipVersion c z₀ d) : Moved api c z₀ d.zone := by
  cases hw : d.writtenAt with
  | none =>
    rw [h.fresh hw]
    exact Moved.refl z₀
  | some z =>
    obtain ⟨-, hfirst, -, hlater⟩ := h.written z hw
    exact hfirst.trans hlater.moved

theorem Undoable.fates (h : Undoable api ipVersion c z₀ d) (fates : List DnsFate) :
    Undoable api ipVersion c z₀ { d with fates := fates } where
  secured := h.secured
  fresh := h.fresh
  written := fun z hw =>
    let ⟨hvalid, hfirst, hone, hlater⟩ := h.written z hw
    ⟨hvalid, hfirst, hone, ⟨hlater.moved, hlater.file, hlater.writtenAt, hlater.secured⟩⟩

theorem failover_undoable (hvalid : c.invalid ipVersion = none)
    (h : Undoable api ipVersion c z₀ d) : Undoable api ipVersion c z₀ (failover api c d).2 := by
  obtain ⟨fates, hframe⟩ := gatherChanges_frame api c.targets d
  have hread := h.fates fates
  rw [failover]
  split
  · next hgather =>
    rw [hgather] at hframe
    rw [show _ = _ from hframe]
    exact hread
  · next hgather =>
    rw [hgather] at hframe
    rw [show _ = _ from hframe]
    exact hread
  · next change changes d' hgather =>
    obtain ⟨hone, hchanges⟩ := gatherChanges_ok (d := d) (by rw [hgather])
    rw [hgather] at hframe
    have hd' : d' = { d with fates := fates } := hframe
    have hchanges' : change :: changes = pendingChanges api c d.zone := hchanges
    have hstart : Redirecting api c d.zone
        { d' with
          rollbackFile := some (rollbackSnapshot c ((change :: changes).map Prod.fst))
          writtenAt := some d'.zone } := by
      rw [hchanges', hd']
      exact ⟨Moved.refl _, rfl, rfl, h.secured⟩
    have hdone := putChanges_redirecting (fun change hm => by rwa [← hchanges']) hstart
    have hresult : Undoable api ipVersion c z₀ (putChanges api (change :: changes)
        { d' with
          rollbackFile := some (rollbackSnapshot c ((change :: changes).map Prod.fst))
          writtenAt := some d'.zone }).2 :=
      { secured := hdone.secured
        fresh := fun hw => by rw [hdone.writtenAt] at hw; cases hw
        written := by
          intro z hw
          obtain rfl := Option.some.inj (hdone.writtenAt.symm.trans hw)
          exact ⟨hvalid, h.moved, hone, hdone⟩ }
    cases hput : putChanges api (change :: changes)
        { d' with
          rollbackFile := some (rollbackSnapshot c ((change :: changes).map Prod.fst))
          writtenAt := some d'.zone } with
    | mk result d'' =>
      rw [hput] at hresult
      cases result with
      | ok _ =>
        simp only [hput]
        exact hresult
      | error e =>
        simp only [hput]
        exact hresult

theorem runFailover_undoable (h : Undoable api ipVersion c z₀ d) (r : FailoverRun) :
    Undoable api ipVersion c z₀ (runFailover api ipVersion c r d).2 := by
  rw [runFailover]
  split
  · exact h
  · next hvalid =>
    split
    · exact h
    · split
      · exact h
      · split
        · exact h
        · exact failover_undoable hvalid (h.fates r.fates)

/-- The runs of a sequence, one after the other. -/
def runFailovers (api : DnsApi Z) (ipVersion : String → Option Nat) (c : FailoverConfig)
    (runs : List FailoverRun) (d : DnsState Z) : DnsState Z :=
  runs.foldl (fun d r => (runFailover api ipVersion c r d).2) d

theorem runFailovers_undoable (h : Undoable api ipVersion c z₀ d) (runs : List FailoverRun) :
    Undoable api ipVersion c z₀ (runFailovers api ipVersion c runs d) := by
  induction runs generalizing d with
  | nil => exact h
  | cons r runs ih => exact ih (runFailover_undoable h r)

/-! ## Restoring -/

/-- What the clients see of a key. -/
def valuesAt (api : DnsApi Z) (z : Z) (key : FailoverKey) : List (String × Int × Bool) :=
  (api.at z key).map DnsRecord.value

theorem allowed_of_target {key : FailoverKey} (h : key ∈ c.targets) : c.allowed key.2.1 = true := by
  obtain ⟨raw, hraw, hname⟩ := target_name h
  rw [FailoverConfig.allowed, List.any_eq_true]
  refine ⟨raw, hraw, ?_⟩
  rw [beq_iff_eq, ← hname, normalName_normalName]

theorem entryKey_rollback (h : c.allowed r.name = true) :
    entryKey c (rollbackEntry r) = .ok (.str r.type, r.name) := by
  have hname : ([("id", Json.str r.id), ("type", .str r.type), ("name", .str r.name),
      ("content", .str r.content), ("ttl", .int r.ttl),
      ("proxied", .bool (r.proxied.getD false))]).lookup "name" = some (.str r.name) := rfl
  have htype : ([("id", Json.str r.id), ("type", .str r.type), ("name", .str r.name),
      ("content", .str r.content), ("ttl", .int r.ttl),
      ("proxied", .bool (r.proxied.getD false))]).lookup "type" = some (.str r.type) := rfl
  simp only [entryKey, rollbackEntry, hname, htype, Option.getD_some, h, if_true]

theorem entryPayload_rollback (intOfText : Json → Option Int) (r : DnsRecord) :
    entryPayload intOfText (rollbackEntry r) (.str r.type, r.name) =
      .ok ⟨.str r.type, r.name, .str r.content, r.ttl, r.proxied.getD false⟩ := rfl

def DnsState.allAnswered (d : DnsState Z) : DnsState Z := { d with fates := [] }

theorem restoreEntry_rollback (intOfText : Json → Option Int) (h : c.allowed r.name = true)
    (hq : api.records d.zone (.str r.type) r.name = [q]) (hid : q.id = r.id) (hf : d.fates = []) :
    ∃ put d', restoreEntry api intOfText c (rollbackEntry r) d = (.ok put, d') ∧ d'.fates = [] ∧
      (∃ q', api.records d'.zone (.str r.type) r.name = [q'] ∧ q'.id = r.id ∧
        q'.value = r.value) ∧
      ∀ type name, (type, name) ≠ (Json.str r.type, r.name) →
        api.records d'.zone type name = api.records d.zone type name := by
  have hget : getRecord api (.str r.type) r.name d = (.ok q, d.spent) := by
    have hfate : d.nextFate = .answered := by rw [DnsState.nextFate, hf]; rfl
    rw [getRecord, if_pos hfate, hq]
  have hspent : d.spent.fates = [] := by rw [DnsState.spent, hf]; rfl
  obtain ⟨htype, hname⟩ : q.type = r.type ∧ q.name = r.name := by
    have hm : q ∈ api.records d.zone (.str r.type) r.name := by
      rw [hq]
      exact List.mem_singleton_self q
    obtain ⟨ht, hn⟩ := api.found hm
    exact ⟨Json.str.inj ht, hn⟩
  simp only [restoreEntry, entryKey_rollback h, hget, entryPayload_rollback]
  split
  · next hagrees =>
    obtain ⟨-, -, hcontent, httl, hproxied⟩ := agrees_iff.1 hagrees
    refine ⟨false, d.spent, rfl, hspent, ⟨q, hq, hid, ?_⟩, fun _ _ _ => rfl⟩
    rw [DnsRecord.value, DnsRecord.value, Json.str.inj hcontent, httl, hproxied, Option.getD_some]
  · have hput : putRecord api q ⟨.str r.type, r.name, .str r.content, r.ttl, r.proxied.getD false⟩
        d.spent = (.ok (), d.spent.spent.overwrite api q.id
          ⟨.str r.type, r.name, .str r.content, r.ttl, r.proxied.getD false⟩) := by
      have hfate : d.spent.nextFate = .answered := by rw [DnsState.nextFate, hspent]; rfl
      rw [putRecord, hfate]
    have hone : api.records d.zone (.str q.type) q.name = [q] := by
      rw [htype, hname]
      exact hq
    simp only [hput]
    refine ⟨true, _, rfl, by rw [DnsState.overwrite, DnsState.spent, hspent]; rfl, ?_, ?_⟩
    · refine ⟨q.overwrite r.content r.ttl (r.proxied.getD false), ?_, hid, rfl⟩
      have hover := api.overwritten r.content r.ttl (r.proxied.getD false) hone
      rw [htype, hname] at hover
      exact hover
    · intro type name hne
      rw [← htype, ← hname] at hne
      have hothers := api.others (p := ⟨.str r.type, r.name, .str r.content, r.ttl,
        r.proxied.getD false⟩) hone (congrArg Json.str htype.symm) hname.symm hne
      exact hothers

theorem restoreEntries_rollback (intOfText : Json → Option Int) {previous : List DnsRecord}
    (hallowed : ∀ r ∈ previous, c.allowed r.name = true)
    (hone : ∀ r ∈ previous, ∃ q, api.records d.zone (.str r.type) r.name = [q] ∧ q.id = r.id)
    (hsame : ∀ r ∈ previous, ∀ s ∈ previous, r.type = s.type → r.name = s.name → r = s)
    (hf : d.fates = []) (n : Nat) :
    ∃ n' d', restoreEntries api intOfText c (previous.map rollbackEntry) n d = (.ok n', d') ∧
      (∀ r ∈ previous, ∃ q', api.records d'.zone (.str r.type) r.name = [q'] ∧
        q'.value = r.value) ∧
      ∀ type name, (∀ r ∈ previous, (type, name) ≠ (Json.str r.type, r.name)) →
        api.records d'.zone type name = api.records d.zone type name := by
  induction previous generalizing d n with
  | nil => exact ⟨n, d, rfl, fun _ hm => absurd hm List.not_mem_nil, fun _ _ _ => rfl⟩
  | cons r previous ih =>
    obtain ⟨q, hq, hid⟩ := hone r List.mem_cons_self
    obtain ⟨put, d', hentry, hf', ⟨q', hq', hid', hvalue⟩, hothers⟩ :=
      restoreEntry_rollback intOfText (hallowed r List.mem_cons_self) hq hid hf
    have hone' : ∀ s ∈ previous, ∃ q, api.records d'.zone (.str s.type) s.name = [q] ∧
        q.id = s.id := by
      intro s hs
      by_cases hkey : (Json.str s.type, s.name) = (Json.str r.type, r.name)
      · obtain ⟨htype, hname⟩ := Prod.mk.inj hkey
        obtain rfl := hsame s (List.mem_cons_of_mem _ hs) r List.mem_cons_self
          (Json.str.inj htype) hname
        exact ⟨q', hq', hid'⟩
      · rw [hothers _ _ hkey]
        exact hone s (List.mem_cons_of_mem _ hs)
    obtain ⟨n', d'', hrest, hback, hkept⟩ := ih
      (fun s hs => hallowed s (List.mem_cons_of_mem _ hs)) hone'
      (fun s hs t ht => hsame s (List.mem_cons_of_mem _ hs) t (List.mem_cons_of_mem _ ht))
      hf' (if put then n + 1 else n)
    refine ⟨n', d'', ?_, ?_, ?_⟩
    · simp only [List.map_cons, restoreEntries, hentry]
      exact hrest
    · intro s hs
      obtain rfl | hs := List.mem_cons.1 hs
      · -- the record may stand in the list once more
        by_cases hagain : ∃ t ∈ previous, (Json.str s.type, s.name) = (Json.str t.type, t.name)
        · obtain ⟨t, ht, hkey⟩ := hagain
          obtain ⟨htype, hname⟩ := Prod.mk.inj hkey
          obtain rfl := hsame s List.mem_cons_self t (List.mem_cons_of_mem _ ht)
            (Json.str.inj htype) hname
          exact hback s ht
        · rw [hkept _ _ fun t ht hkey => hagain ⟨t, ht, hkey⟩]
          exact ⟨q', hq', hvalue⟩
      · exact hback s hs
    · intro type name hne
      rw [hkept type name fun s hs => hne s (List.mem_cons_of_mem _ hs),
        hothers type name (hne r List.mem_cons_self)]

theorem restoreSnapshot_rollback {intOfText : Json → Option Int}
    (hvalid : c.invalid ipVersion = none)
    (h : restoreEntries api intOfText c (previous.map rollbackEntry) 0 d = (.ok n, d')) :
    (restoreSnapshot api intOfText ipVersion c (some (rollbackSnapshot c previous)) d).2 = d' := by
  have hid : ([("zone_id", Json.str c.zoneId), ("zone_name", .str c.zoneName),
      ("records", .arr (previous.map rollbackEntry))]).lookup "zone_id" =
        some (.str c.zoneId) := rfl
  have hname : ([("zone_id", Json.str c.zoneId), ("zone_name", .str c.zoneName),
      ("records", .arr (previous.map rollbackEntry))]).lookup "zone_name" =
        some (.str c.zoneName) := rfl
  have hentries : snapshotEntries (.obj [("zone_id", Json.str c.zoneId),
      ("zone_name", .str c.zoneName), ("records", .arr (previous.map rollbackEntry))]) =
        .ok (previous.map rollbackEntry) := rfl
  simp only [restoreSnapshot, hvalid, rollbackSnapshot, hid, hname, ne_eq, not_true_eq_false,
    or_self, if_false, hentries, h]
  cases n with
  | zero => rfl
  | succ n => rfl

/-- The rollback file brings every key back to its values when the file was last written. -/
theorem restore_back (intOfText : Json → Option Int) (hvalid : c.invalid ipVersion = none)
    (hone : ∀ key ∈ c.targets, ∃ r, api.at z key = [r]) (h : Redirecting api c z d)
    (hkey : key ∈ c.targets) :
    valuesAt api (restoreSnapshot api intOfText ipVersion c d.rollbackFile
      d.allAnswered).2.zone key = valuesAt api z key := by
  have hpending : ∀ r ∈ (pendingChanges api c z).map Prod.fst,
      ∃ key, Outstanding api c z key r := by
    intro r hr
    obtain ⟨change, hchange, rfl⟩ := List.mem_map.1 hr
    obtain ⟨key, r, hp, rfl⟩ := mem_pendingChanges.1 hchange
    exact ⟨key, hp⟩
  have hallowed : ∀ r ∈ (pendingChanges api c z).map Prod.fst, c.allowed r.name = true := by
    intro r hr
    obtain ⟨key, hp⟩ := hpending r hr
    rw [(at_found hp.2.1).2]
    exact allowed_of_target hp.1
  have hids : ∀ r ∈ (pendingChanges api c z).map Prod.fst,
      ∃ q, api.records d.allAnswered.zone (.str r.type) r.name = [q] ∧ q.id = r.id := by
    intro r hr
    obtain ⟨key, hp⟩ := hpending r hr
    rw [(at_found hp.2.1).1, (at_found hp.2.1).2]
    obtain hcur | hcur := h.moved.current hp
    · exact ⟨r, hcur, rfl⟩
    · exact ⟨_, hcur, rfl⟩
  have hsame : ∀ r ∈ (pendingChanges api c z).map Prod.fst,
      ∀ s ∈ (pendingChanges api c z).map Prod.fst, r.type = s.type → r.name = s.name → r = s := by
    intro r hr s hs htype hname
    obtain ⟨key, hp⟩ := hpending r hr
    obtain ⟨key', hp'⟩ := hpending s hs
    rw [(at_found hp.2.1).1, (at_found hp'.2.1).1] at htype
    rw [(at_found hp.2.1).2, (at_found hp'.2.1).2] at hname
    exact (List.cons_eq_cons.1 (hp.2.1.symm.trans (hp'.same hp.1 htype hname).2.1)).1
  obtain ⟨n, d', hrestored, hback, hkept⟩ :=
    restoreEntries_rollback intOfText hallowed hids hsame rfl 0
  rw [h.file, restoreSnapshot_rollback hvalid hrestored]
  obtain ⟨r, hr⟩ := hone key hkey
  by_cases hp : r.agrees (failoverPayload key) = false
  · have hmem : r ∈ (pendingChanges api c z).map Prod.fst :=
      List.mem_map_of_mem (f := Prod.fst) (mem_pendingChanges.2 ⟨key, r, ⟨hkey, hr, hp⟩, rfl⟩)
    obtain ⟨q, hq, hvalue⟩ := hback r hmem
    rw [(at_found hr).1, (at_found hr).2] at hq
    have hat : api.at d'.zone key = [q] := hq
    rw [valuesAt, valuesAt, hat, hr, List.map_singleton, List.map_singleton, hvalue]
  · -- the record of the key was at its target already, and is in neither list
    have hother : ∀ key' s, Outstanding api c z key' s →
        (Json.str key.1, key.2.1) ≠ (Json.str key'.1, key'.2.1) := by
      intro key' s hp' heq
      obtain ⟨htype, hname⟩ := Prod.mk.inj heq
      have hsame' := hp'.same hkey (Json.str.inj htype) hname
      obtain rfl := (List.cons_eq_cons.1 (hr.symm.trans hsame'.2.1)).1
      exact hp hsame'.2.2
    have hrestore : api.at d'.zone key = api.at d.zone key := by
      apply hkept
      intro s hs
      obtain ⟨key', hp'⟩ := hpending s hs
      rw [(at_found hp'.2.1).1, (at_found hp'.2.1).2]
      exact hother key' s hp'
    have hruns := h.moved.settled hkey hr (Bool.eq_true_of_not_eq_false hp)
    rw [valuesAt, valuesAt, hrestore, hruns]

/-! ## The law -/

/-- The file on disk undoes what a sequence of runs changed, and whatever a request changed stood
in the file by then. -/
structure CanBeUndone (api : DnsApi Z) (intOfText : Json → Option Int)
    (ipVersion : String → Option Nat) (c : FailoverConfig) (z₀ : Z) (d : DnsState Z) : Prop where
  restored : ∀ key ∈ c.targets, valuesAt api d.zone key ≠ valuesAt api z₀ key →
    valuesAt api (restoreSnapshot api intOfText ipVersion c d.rollbackFile
      d.allAnswered).2.zone key = valuesAt api z₀ key
  secured : ∀ put ∈ d.applied, put.Secured

def DnsState.start (zone : Z) (file : Option Json) : DnsState Z :=
  { zone := zone, rollbackFile := file, fates := [], writtenAt := none, applied := [] }

theorem start_undoable (z₀ : Z) (file : Option Json) :
    Undoable api ipVersion c z₀ (DnsState.start z₀ file) where
  secured := fun _ h => absurd h List.not_mem_nil
  fresh := fun _ => rfl
  written := fun _ h => by cases h

end Redirecting

/-- Whatever failed in a sequence of runs, it can be undone exactly when no record had been
changed yet at the time when the rollback file was last written. -/
theorem failover_undone_iff (api : DnsApi Z) (intOfText : Json → Option Int)
    (ipVersion : String → Option Nat) (c : FailoverConfig) (z₀ : Z) (file : Option Json)
    (runs : List FailoverRun) :
    CanBeUndone api intOfText ipVersion c z₀
        (runFailovers api ipVersion c runs (DnsState.start z₀ file)) ↔
      ∀ z, (runFailovers api ipVersion c runs (DnsState.start z₀ file)).writtenAt = some z →
        ∀ key ∈ c.targets, valuesAt api z key = valuesAt api z₀ key := by
  have hundo : Undoable api ipVersion c z₀
      (runFailovers api ipVersion c runs (DnsState.start z₀ file)) :=
    runFailovers_undoable (start_undoable z₀ file) runs
  constructor
  · intro h z hwritten key hkey
    obtain ⟨hvalid, hfirst, hone, hlater⟩ := hundo.written z hwritten
    have hback := restore_back intOfText hvalid hone hlater hkey
    obtain ⟨r, hr⟩ := hone key hkey
    cases hagrees : r.agrees (failoverPayload key) with
    | false => rw [valuesAt, valuesAt, hfirst.unmoved hkey hr hagrees]
    | true =>
      have hkept := hlater.moved.settled hkey hr hagrees
      by_cases hchanged : valuesAt api
          (runFailovers api ipVersion c runs (DnsState.start z₀ file)).zone key =
            valuesAt api z₀ key
      · rw [valuesAt, hkept] at hchanged
        exact hchanged
      · exact hback.symm.trans (h.restored key hkey hchanged)
  · intro h
    refine ⟨?_, hundo.secured⟩
    intro key hkey hchanged
    cases hwritten : (runFailovers api ipVersion c runs (DnsState.start z₀ file)).writtenAt with
    | none =>
      rw [hundo.fresh hwritten] at hchanged
      exact absurd rfl hchanged
    | some z =>
      obtain ⟨hvalid, -, hone, hlater⟩ := hundo.written z hwritten
      exact (restore_back intOfText hvalid hone hlater hkey).trans (h z hwritten key hkey)

def twoNames : FailoverConfig :=
  { sampleConfig with recordNames := ["aegisvpn.org", "www.aegisvpn.org"] }

def twoRecords : DnsZone :=
  ⟨[sampleRecord "1" "aegisvpn.org" "192.0.2.1", sampleRecord "2" "www.aegisvpn.org" "192.0.2.2"],
    by decide⟩

/-- The second overwriting of the first run is lost, and the second run makes up for it. -/
def retriedRuns : List FailoverRun :=
  [⟨"primary", true, true, [.answered, .answered, .answered, .lost]⟩, ⟨"primary", true, true, []⟩]

theorem retry_not_undone : ¬∀ (c : FailoverConfig) (z₀ : DnsZone) (file : Option Json)
    (runs : List FailoverRun), CanBeUndone zoneApi (fun _ => none) (fun _ => some 4) c z₀
      (runFailovers zoneApi (fun _ => some 4) c runs (DnsState.start z₀ file)) := by
  intro h
  have hkey : ("A", "aegisvpn.org", "198.51.100.10") ∈ twoNames.targets := by decide
  have hback := (h twoNames twoRecords none retriedRuns).restored _ hkey (by decide)
  have hlost : valuesAt zoneApi (restoreSnapshot zoneApi (fun _ => none) (fun _ => some 4) twoNames
      (runFailovers zoneApi (fun _ => some 4) twoNames retriedRuns
        (DnsState.start twoRecords none)).rollbackFile
      (runFailovers zoneApi (fun _ => some 4) twoNames retriedRuns
        (DnsState.start twoRecords none)).allAnswered).2.zone
      ("A", "aegisvpn.org", "198.51.100.10") = [("198.51.100.10", 60, false)] := by
    decide
  have hbefore : valuesAt zoneApi twoRecords ("A", "aegisvpn.org", "198.51.100.10") =
      [("192.0.2.1", 300, true)] := by
    decide
  rw [hlost, hbefore] at hback
  exact absurd hback (by decide)

end AegisVPN
