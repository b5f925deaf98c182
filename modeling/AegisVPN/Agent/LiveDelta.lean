import Mathlib.Data.List.Forall2
import AegisVPN.Agent.Reconcile

namespace AegisVPN
open Library
set_option autoImplicit true

/-- The running Xray serves the inbounds of the file, each with the users of the file. -/
def InStep (live : List LiveInbound) (config : XrayConfig) : Prop :=
  List.Forall₂ (fun l b => l.tag = b.tag ∧ l.users.Perm b.users) live (bootTable config)

/-- A config whose records the live API can name: inbounds by tag, users by UUID and email. -/
structure Addressable (config : XrayConfig) : Prop where
  tag : ∀ i ∈ listVlessInbounds config, ∃ t, truthy i.tag = some t
  tag_nodup : ((listVlessInbounds config).map Inbound.tag).Nodup
  id : ∀ i ∈ listVlessInbounds config, ∀ r ∈ i.clients, ∃ u, truthy r.id = some u
  id_nodup : ∀ i ∈ listVlessInbounds config, (i.clients.map ClientRecord.id).Nodup
  email : ∀ i ∈ listVlessInbounds config, ∀ r ∈ i.clients, ∃ e, truthy r.email = some e

/-- No inbound of the running Xray has two users of one email. -/
def UniqueEmails (live : List LiveInbound) : Prop :=
  ∀ l ∈ live, (l.users.filterMap fun u => truthy u.email).Nodup

def DistinctUuids (clients : List DesiredClient) : Prop :=
  (clients.map DesiredClient.uuid).Nodup

theorem eq_of_filterMap_nodup {f : α → Option β} {l : List α} (h : (l.filterMap f).Nodup)
    (ha : a ∈ l) (hb : b ∈ l) (hfa : f a = some c) (hfb : f b = some c) : a = b := by
  induction l with
  | nil => cases ha
  | cons x l ih =>
    have hmem : ∀ y ∈ l, f y = some c → f x = some c → False := by
      intro y hy hfy hfx
      rw [List.filterMap_cons_some hfx, List.nodup_cons] at h
      exact h.1 (List.mem_filterMap.2 ⟨y, hy, hfy⟩)
    have htail : (l.filterMap f).Nodup := h.sublist ((List.sublist_cons_self x l).filterMap f)
    rcases List.mem_cons.1 ha with hax | hal <;> rcases List.mem_cons.1 hb with hbx | hbl
    · exact hax.trans hbx.symm
    · exact (hmem b hbl hfb (hax ▸ hfa)).elim
    · exact (hmem a hal hfa (hbx ▸ hfb)).elim
    · exact ih htail hal hbl

/-! ## Records -/

@[simp] theorem recordProjection_build (uuid email : String) (inbound : Inbound) :
    recordProjection (buildClientRecord uuid email inbound) =
      buildClientRecord uuid email inbound := by
  by_cases h : getTransportType inbound = .tcp <;>
    simp [recordProjection, buildClientRecord, h, truthy]

@[simp] theorem desiredRecords_projection (clients : List DesiredClient) (inbound : Inbound) :
    (desiredRecords clients inbound).map recordProjection = desiredRecords clients inbound := by
  simp [desiredRecords, Function.comp_def]

@[simp] theorem desiredRecords_clients (clients : List DesiredClient) (inbound : Inbound)
    (records : List ClientRecord) :
    desiredRecords clients { inbound with clients := records } = desiredRecords clients inbound :=
  rfl

theorem desiredRecords_ids (clients : List DesiredClient) (inbound : Inbound) :
    (desiredRecords clients inbound).map ClientRecord.id =
      (clients.map DesiredClient.uuid).map some := by
  simp [desiredRecords, Function.comp_def, buildClientRecord]

theorem DistinctUuids.ids_nodup (h : DistinctUuids clients) (inbound : Inbound) :
    ((desiredRecords clients inbound).map ClientRecord.id).Nodup := by
  rw [desiredRecords_ids]
  exact h.map (Option.some_injective _)

theorem desiredByUuid_eq (h : DistinctUuids clients) (inbound : Inbound) :
    desiredByUuid clients inbound =
      clients.map fun c => (c.uuid, buildClientRecord c.uuid c.email inbound) := by
  refine dictOf_eq ?_
  rw [List.map_map]
  exact h

theorem desiredByUuid_lookup (h : DistinctUuids clients) (inbound : Inbound) :
    (desiredByUuid clients inbound).lookup u = some r ↔
      r ∈ desiredRecords clients inbound ∧ r.id = some u := by
  have hkeys : ((clients.map fun c =>
      (c.uuid, buildClientRecord c.uuid c.email inbound)).map Prod.fst).Nodup := by
    rw [List.map_map]
    exact h
  rw [desiredByUuid_eq h, lookup_eq_some_iff hkeys]
  simp only [desiredRecords, List.mem_map, Prod.mk.injEq]
  constructor
  · rintro ⟨c, hc, rfl, rfl⟩
    exact ⟨⟨c, hc, rfl⟩, rfl⟩
  · rintro ⟨⟨c, hc, rfl⟩, hu⟩
    exact ⟨c, hc, Option.some.inj hu, rfl⟩

theorem recordsByUuid_keys {records : List ClientRecord}
    (hid : ∀ r ∈ records, ∃ u, truthy r.id = some u)
    (hnodup : (records.map ClientRecord.id).Nodup) :
    ((records.filterMap fun r => (truthy r.id).map fun uuid => (uuid, r)).map Prod.fst).Nodup := by
  have hmap : ((records.filterMap fun r => (truthy r.id).map fun uuid => (uuid, r)).map
      Prod.fst).map some = records.map ClientRecord.id := by
    induction records with
    | nil => rfl
    | cons r records ih =>
      obtain ⟨u, hu⟩ := hid r List.mem_cons_self
      rw [List.map_cons, List.nodup_cons] at hnodup
      have htail := ih (fun r hr => hid r (List.mem_cons_of_mem _ hr)) hnodup.2
      simp only [List.filterMap_cons, Option.map, hu, List.map_cons]
      rw [← (truthy_some.1 hu).1]
      exact congrArg (r.id :: ·) htail
  rw [← hmap] at hnodup
  exact hnodup.of_map

theorem recordsByUuid_mem {records : List ClientRecord}
    (hid : ∀ r ∈ records, ∃ u, truthy r.id = some u)
    (hnodup : (records.map ClientRecord.id).Nodup) :
    (u, r) ∈ recordsByUuid records ↔ r ∈ records ∧ r.id = some u := by
  rw [recordsByUuid, dictOf_eq (recordsByUuid_keys hid hnodup)]
  simp only [List.mem_filterMap, Option.map_eq_some_iff, Prod.mk.injEq]
  constructor
  · rintro ⟨r, hr, u, hu, rfl, rfl⟩
    exact ⟨hr, (truthy_some.1 hu).1⟩
  · rintro ⟨hr, hu⟩
    obtain ⟨u', hu'⟩ := hid r hr
    refine ⟨r, hr, u, ?_, rfl, rfl⟩
    rw [(truthy_some.1 hu').1] at hu
    cases hu
    exact hu'

theorem recordsByUuid_lookup {records : List ClientRecord}
    (hid : ∀ r ∈ records, ∃ u, truthy r.id = some u)
    (hnodup : (records.map ClientRecord.id).Nodup) :
    (recordsByUuid records).lookup u = some r ↔ r ∈ records ∧ r.id = some u := by
  rw [← recordsByUuid_mem hid hnodup]
  refine lookup_eq_some_iff ?_
  rw [recordsByUuid, dictOf_eq (recordsByUuid_keys hid hnodup)]
  exact recordsByUuid_keys hid hnodup

/-! ## The delta of one inbound -/

section Inbound
variable {clients : List DesiredClient} {inbound : Inbound}
  (hclients : DistinctUuids clients)
  (hid : ∀ r ∈ inbound.clients, ∃ u, truthy r.id = some u)
  (hnodup : (inbound.clients.map ClientRecord.id).Nodup)
include hclients hid hnodup

theorem mem_inboundRemovals : (t, e) ∈ inboundRemovals clients inbound ↔
    ∃ r ∈ inbound.clients, recordProjection r ∉ desiredRecords clients inbound ∧
      truthy inbound.tag = some t ∧ truthy r.email = some e := by
  simp only [inboundRemovals, List.mem_filterMap]
  constructor
  · rintro ⟨⟨u, r⟩, hmem, h⟩
    obtain ⟨hr, hu⟩ := (recordsByUuid_mem hid hnodup).1 hmem
    simp only at h
    split at h
    · cases h
    · rename_i hlookup
      refine ⟨r, hr, fun hd => hlookup ((desiredByUuid_lookup hclients _).2 ⟨hd, hu⟩), ?_⟩
      split at h
      · rename_i ht he
        cases h
        exact ⟨ht, he⟩
      · cases h
  · rintro ⟨r, hr, hd, ht, he⟩
    obtain ⟨u, hu⟩ := hid r hr
    refine ⟨(u, r), (recordsByUuid_mem hid hnodup).2 ⟨hr, (truthy_some.1 hu).1⟩, ?_⟩
    have hlookup : (desiredByUuid clients inbound).lookup u ≠ some (recordProjection r) :=
      fun h => hd ((desiredByUuid_lookup hclients _).1 h).1
    simp only [hlookup, ↓reduceIte, ht, he]

theorem inboundAdditions_eq : inboundAdditions clients inbound =
    ((desiredRecords clients inbound).filter
      (· ∉ inbound.clients.map recordProjection)).map fun r => (inbound, r) := by
  rw [inboundAdditions, desiredByUuid_eq hclients, desiredRecords, List.filterMap_map,
    List.filter_map, List.map_map]
  rw [← List.filterMap_eq_map, List.filterMap_filter]
  refine List.filterMap_congr fun c hc => ?_
  have hmem : ((recordsByUuid inbound.clients).lookup c.uuid).map recordProjection =
      some (buildClientRecord c.uuid c.email inbound) ↔
      buildClientRecord c.uuid c.email inbound ∈ inbound.clients.map recordProjection := by
    rw [Option.map_eq_some_iff, List.mem_map]
    constructor
    · rintro ⟨r, hr, hp⟩
      exact ⟨r, ((recordsByUuid_lookup hid hnodup).1 hr).1, hp⟩
    · rintro ⟨r, hr, hp⟩
      have hu : r.id = some c.uuid := by
        have := congrArg ClientRecord.id hp
        simpa [recordProjection, buildClientRecord] using this
      exact ⟨r, (recordsByUuid_lookup hid hnodup).2 ⟨hr, hu⟩, hp⟩
  by_cases h : buildClientRecord c.uuid c.email inbound ∈ inbound.clients.map recordProjection
  · simp only [Function.comp_apply, hmem.2 h, ↓reduceIte, h, not_true_eq_false, decide_false,
      Bool.false_eq_true]
  · simp only [Function.comp_apply, mt hmem.1 h, ↓reduceIte, h, not_false_eq_true, decide_true]

omit hclients hid in
theorem projection_nodup : (inbound.clients.map recordProjection).Nodup := by
  refine List.Nodup.of_map ClientRecord.id ?_
  rw [List.map_map]
  exact hnodup

/-- Removing and adding live what the delta says leaves exactly the desired users. -/
theorem inbound_delta_perm (htag : truthy inbound.tag = some t)
    (hemail : ∀ r ∈ inbound.clients, ∃ e, truthy r.email = some e)
    (hunique : (inbound.clients.filterMap fun r => truthy r.email).Nodup)
    {users : List ClientRecord} (husers : users.Perm (inbound.clients.map recordProjection)) :
    (users.filter (fun u => ∀ r ∈ inboundRemovals clients inbound, u.email ≠ some r.2) ++
      (inboundAdditions clients inbound).map Prod.snd).Perm (desiredRecords clients inbound) := by
  have hkept : (inbound.clients.map recordProjection).filter
      (fun u => ∀ r ∈ inboundRemovals clients inbound, u.email ≠ some r.2) =
      (inbound.clients.map recordProjection).filter (· ∈ desiredRecords clients inbound) := by
    refine List.filter_congr fun u hu => ?_
    obtain ⟨r, hr, rfl⟩ := List.mem_map.1 hu
    obtain ⟨e, he⟩ := hemail r hr
    rw [decide_eq_decide]
    constructor
    · intro h
      by_contra hd
      exact h (t, e) ((mem_inboundRemovals hclients hid hnodup).2 ⟨r, hr, hd, htag, he⟩)
        (truthy_some.1 he).1
    · rintro hd ⟨t', e'⟩ hmem heq
      obtain ⟨r', hr', hd', _, he'⟩ := (mem_inboundRemovals hclients hid hnodup).1 hmem
      have hsame : r.email = r'.email := by
        rw [(truthy_some.1 he').1]
        exact heq
      have : r = r' := eq_of_filterMap_nodup hunique hr hr' he (hsame ▸ he)
      exact hd' (this ▸ hd)
  have hadded : (inboundAdditions clients inbound).map Prod.snd =
      (desiredRecords clients inbound).filter (· ∉ inbound.clients.map recordProjection) := by
    rw [inboundAdditions_eq hclients hid hnodup, List.map_map]
    exact List.map_id _
  rw [hadded]
  refine ((husers.filter _).append_right _).trans ?_
  rw [hkept]
  have hfile := projection_nodup hnodup
  have hdesired : (desiredRecords clients inbound).Nodup := (hclients.ids_nodup inbound).of_map
  rw [List.perm_ext_iff_of_nodup ?_ hdesired]
  · intro r
    simp only [List.mem_append, List.mem_filter, decide_eq_true_eq]
    tauto
  · rw [List.nodup_append]
    refine ⟨hfile.filter _, hdesired.filter _, ?_⟩
    intro a ha b hb hab
    subst hab
    simp only [List.mem_filter, decide_eq_true_eq] at ha hb
    exact hb.2 ha.1

end Inbound

/-! ## The delta of the whole table -/

def removeAll (removals : List (String × String)) (live : List LiveInbound) : List LiveInbound :=
  removals.foldl (fun live r => live.map (LiveInbound.remove r.1 r.2)) live

def LiveInbound.addTo (a : Inbound × ClientRecord) (l : LiveInbound) : LiveInbound :=
  match truthy a.1.tag with
  | some tag => l.add tag a.2
  | none => l

def addAll (additions : List (Inbound × ClientRecord)) (live : List LiveInbound) :
    List LiveInbound :=
  additions.foldl (fun live a => live.map (LiveInbound.addTo a)) live

theorem remove_eq (tag email : String) (l : LiveInbound) : l.remove tag email =
    { l with users := l.users.filter fun u => l.tag = some tag → u.email ≠ some email } := by
  by_cases h : l.tag = some tag <;> simp [LiveInbound.remove, h]

theorem addTo_eq {a : Inbound × ClientRecord} (h : truthy a.1.tag = some t) (l : LiveInbound) :
    l.addTo a = { l with users := l.users ++ if a.1.tag = l.tag then [a.2] else [] } := by
  rw [LiveInbound.addTo, h, (truthy_some.1 h).1]
  by_cases hl : l.tag = some t
  · simp only [LiveInbound.add, hl, ↓reduceIte]
  · have hl' : some t ≠ l.tag := fun h => hl h.symm
    simp only [LiveInbound.add, hl, hl', ↓reduceIte, List.append_nil]

theorem removeAll_eq_map (removals : List (String × String)) (live : List LiveInbound) :
    removeAll removals live = live.map fun l => { l with
      users := l.users.filter fun u =>
        ∀ r ∈ removals, l.tag = some r.1 → u.email ≠ some r.2 } := by
  induction removals generalizing live with
  | nil => simp [removeAll]
  | cons r removals ih =>
    have hcons : removeAll (r :: removals) live =
        removeAll removals (live.map (LiveInbound.remove r.1 r.2)) := rfl
    rw [hcons, ih, List.map_map]
    refine List.map_congr_left fun l _ => ?_
    simp only [Function.comp_apply, remove_eq, List.filter_filter, LiveInbound.mk.injEq, true_and]
    refine List.filter_congr fun u _ => ?_
    rw [← Bool.decide_and, decide_eq_decide, List.forall_mem_cons, and_comm]

theorem addAll_eq_map {additions : List (Inbound × ClientRecord)} (live : List LiveInbound)
    (h : ∀ a ∈ additions, ∃ t, truthy a.1.tag = some t) :
    addAll additions live = live.map fun l => { l with
      users := l.users ++ (additions.filter fun a => a.1.tag = l.tag).map Prod.snd } := by
  induction additions generalizing live with
  | nil => simp [addAll]
  | cons a additions ih =>
    have hcons : addAll (a :: additions) live =
        addAll additions (live.map (LiveInbound.addTo a)) := rfl
    obtain ⟨t, ht⟩ := h a List.mem_cons_self
    rw [hcons, ih _ fun b hb => h b (List.mem_cons_of_mem _ hb), List.map_map]
    refine List.map_congr_left fun l _ => ?_
    by_cases hl : a.1.tag = l.tag
    · simp only [Function.comp_apply, addTo_eq ht, hl, ↓reduceIte, decide_true,
        List.filter_cons_of_pos, List.map_cons, List.append_assoc, List.singleton_append]
    · simp only [Function.comp_apply, addTo_eq ht, hl, ↓reduceIte, decide_false,
        Bool.false_eq_true, not_false_eq_true, List.filter_cons_of_neg, List.append_nil]

theorem flatMap_filter_apart [DecidableEq κ] {key : α → κ} {key' : β → κ} {f : α → List β}
    {l : List α} (hkey : ∀ a ∈ l, ∀ b ∈ f a, key' b = key a)
    (hapart : l.Pairwise fun x y => key x = key y → f x = [] ∧ f y = []) (ha : a ∈ l) :
    (l.flatMap f).filter (fun b => key' b = key a) = f a := by
  induction l with
  | nil => cases ha
  | cons x l ih =>
    rw [List.pairwise_cons] at hapart
    have hrest := fun a ha => hkey a (List.mem_cons_of_mem _ ha)
    rw [List.flatMap_cons, List.filter_append]
    rcases List.mem_cons.1 ha with rfl | ha
    · have hself : (f a).filter (fun b => key' b = key a) = f a :=
        List.filter_eq_self.2 fun b hb => by simpa using hkey a List.mem_cons_self b hb
      have hother : (l.flatMap f).filter (fun b => key' b = key a) = [] := by
        refine List.filter_eq_nil_iff.2 fun b hb => ?_
        obtain ⟨y, hy, hb⟩ := List.mem_flatMap.1 hb
        have hne : key y ≠ key a := fun h => by
          rw [(hapart.1 y hy h.symm).2] at hb
          cases hb
        simpa [hrest y hy b hb] using hne
      rw [hself, hother, List.append_nil]
    · have hother : (f x).filter (fun b => key' b = key a) = [] := by
        refine List.filter_eq_nil_iff.2 fun b hb => ?_
        have hne : key x ≠ key a := fun h => by
          rw [(hapart.1 a ha h).1] at hb
          cases hb
        simpa [hkey x List.mem_cons_self b hb] using hne
      rw [hother, List.nil_append, ih hrest hapart.2 ha]

theorem flatMap_filter_key [DecidableEq κ] {key : α → κ} {key' : β → κ} {f : α → List β}
    {l : List α} (hkey : ∀ a ∈ l, ∀ b ∈ f a, key' b = key a) (hnodup : (l.map key).Nodup)
    (ha : a ∈ l) : (l.flatMap f).filter (fun b => key' b = key a) = f a := by
  refine flatMap_filter_apart hkey ?_ ha
  exact (List.pairwise_map.1 hnodup).imp fun hne h => absurd h hne

theorem InStep.unique_emails (h : InStep live config) (hu : UniqueEmails live)
    (hi : i ∈ listVlessInbounds config) : (i.clients.filterMap fun r => truthy r.email).Nodup := by
  rw [InStep, bootTable, List.forall₂_map_right_iff, List.forall₂_iff_get] at h
  obtain ⟨hlen, hget⟩ := h
  obtain ⟨n, rfl⟩ := List.mem_iff_get.1 hi
  have hn' : n.1 < live.length := hlen.symm ▸ n.2
  have hperm := (hget n.1 hn' n.2).2
  have hlive := hu _ (List.get_mem live ⟨n.1, hn'⟩)
  have := (hperm.filterMap fun u => truthy u.email).nodup_iff.1 hlive
  simpa [List.filterMap_map, Function.comp_def, recordProjection] using this

theorem forall₂_of_mem {R : α → β → Prop} {l : List α} {m : List β} (h : List.Forall₂ R l m)
    {R' : α → β → Prop} (hR : ∀ a, ∀ b ∈ m, R a b → R' a b) : List.Forall₂ R' l m := by
  induction h with
  | nil => exact .nil
  | cons hab _ ih =>
    exact .cons (hR _ _ List.mem_cons_self hab)
      (ih fun a b hb => hR a b (List.mem_cons_of_mem _ hb))

/-- If the running Xray agreed with the file, the delta makes it agree with the new file. -/
theorem delta_inStep (h : InStep live config) (hconfig : Addressable config)
    (hunique : UniqueEmails live) (hclients : DistinctUuids clients) :
    InStep (addAll (configDelta clients config).additions
      (removeAll (configDelta clients config).removals live)) (desiredConfig clients config) := by
  have hadd : ∀ a ∈ (configDelta clients config).additions, ∃ i ∈ listVlessInbounds config,
      a ∈ inboundAdditions clients i := fun a ha => List.mem_flatMap.1 ha
  have hkey : ∀ i ∈ listVlessInbounds config, ∀ a ∈ inboundAdditions clients i, a.1 = i := by
    intro i hi a ha
    rw [inboundAdditions_eq hclients (hconfig.id i hi) (hconfig.id_nodup i hi)] at ha
    obtain ⟨r, _, rfl⟩ := List.mem_map.1 ha
    rfl
  have htagged : ∀ a ∈ (configDelta clients config).additions, ∃ t, truthy a.1.tag = some t := by
    intro a ha
    obtain ⟨i, hi, ha⟩ := hadd a ha
    rw [hkey i hi a ha]
    exact hconfig.tag i hi
  rw [removeAll_eq_map, addAll_eq_map _ htagged, List.map_map]
  have hemails := fun i hi => h.unique_emails hunique (i := i) hi
  rw [InStep, bootTable, List.forall₂_map_right_iff] at h
  rw [InStep, bootTable, desiredConfig, listVlessInbounds_mapVless, List.map_map,
    List.forall₂_map_right_iff, List.forall₂_map_left_iff]
  refine forall₂_of_mem h fun l i hi hl => ⟨hl.1, ?_⟩
  obtain ⟨t, ht⟩ := hconfig.tag i hi
  have htag : l.tag = some t := hl.1.trans (truthy_some.1 ht).1
  have hremovals : l.users.filter (fun u => ∀ r ∈ (configDelta clients config).removals,
      l.tag = some r.1 → u.email ≠ some r.2) =
      l.users.filter fun u => ∀ r ∈ inboundRemovals clients i, u.email ≠ some r.2 := by
    refine List.filter_congr fun u _ => ?_
    rw [decide_eq_decide]
    constructor
    · intro hall r hr
      refine hall r (List.mem_flatMap.2 ⟨i, hi, hr⟩) ?_
      obtain ⟨_, _, _, htag', _⟩ :=
        (mem_inboundRemovals hclients (hconfig.id i hi) (hconfig.id_nodup i hi)).1 hr
      rw [htag, ← ht, htag']
    · intro hall r hr htag'
      obtain ⟨j, hj, hr⟩ := List.mem_flatMap.1 hr
      obtain ⟨_, _, _, htag'', _⟩ :=
        (mem_inboundRemovals hclients (hconfig.id j hj) (hconfig.id_nodup j hj)).1 hr
      have hij : j = i := List.inj_on_of_nodup_map hconfig.tag_nodup hj hi
        ((truthy_some.1 htag'').1.trans (htag'.symm.trans hl.1))
      exact hall r (hij ▸ hr)
  have hadditions : (configDelta clients config).additions.filter (fun a => a.1.tag = l.tag) =
      inboundAdditions clients i := by
    simp only [hl.1]
    exact flatMap_filter_key (fun j hj a ha => by rw [hkey j hj a ha]) hconfig.tag_nodup hi
  simp only [Function.comp_apply, hremovals, hadditions, desiredRecords_projection]
  exact inbound_delta_perm hclients (hconfig.id i hi) (hconfig.id_nodup i hi) ht
    (hconfig.email i hi) (hemails i hi) hl.2

end AegisVPN
