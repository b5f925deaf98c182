import AegisVPN.Agent.Revocations

namespace AegisVPN
open Library
set_option autoImplicit true

/-! ## What the running Xray is asked for -/

/-- A config that the live API can be used on: each inbound has a port, and no two records of an
inbound have one email. -/
structure Servable (config : XrayConfig) : Prop extends Addressable config where
  port : ∀ i ∈ listVlessInbounds config, ∃ p, i.port = some (p + 1)
  email_nodup : ∀ i ∈ listVlessInbounds config, (i.clients.map ClientRecord.email).Nodup

/-- The live phase of a reconcile that goes through the live API. -/
def executeDelta (delta : Delta) : AgentProg D Bool := do
  let ok ← liveRemovals delta.removals true
  liveAdditions delta.additions ok

/-- The addition takes a user that the inbound has neither by email nor by UUID. -/
def Collides (a : Inbound × ClientRecord) (live : List LiveInbound) : Prop :=
  ∃ l ∈ live, l.tag = a.1.tag ∧ ∃ u ∈ l.users, u.email = a.2.email ∨ u.id = a.2.id

theorem Servable.congr {c c' : XrayConfig} (h : Servable c) (hc : c'.inbounds = c.inbounds) :
    Servable c' := by
  have hport := h.port
  have hemail := h.email_nodup
  rw [← listVlessInbounds_congr hc] at hport hemail
  exact ⟨h.toAddressable.congr hc, hport, hemail⟩

theorem nodup_filterMap_truthy {l : List (Option String)} (h : l.Nodup) :
    (l.filterMap truthy).Nodup := by
  refine h.filterMap fun a b c ha hb => ?_
  rw [(truthy_some.1 ha).1, (truthy_some.1 hb).1]

theorem exists_of_forall₂ {R : α → β → Prop} {l : List α} {m : List β} (h : List.Forall₂ R l m)
    (ha : a ∈ l) : ∃ b ∈ m, R a b := by
  induction h with
  | nil => cases ha
  | cons hab _ ih =>
    rcases List.mem_cons.1 ha with rfl | ha
    · exact ⟨_, List.mem_cons_self, hab⟩
    · obtain ⟨b, hb, hab⟩ := ih ha
      exact ⟨b, List.mem_cons_of_mem _ hb, hab⟩

theorem InStep.of_mem (h : InStep live config) (hl : l ∈ live) :
    ∃ i ∈ listVlessInbounds config, l.tag = i.tag ∧
      l.users.Perm (i.clients.map recordProjection) := by
  obtain ⟨b, hb, hlb⟩ := exists_of_forall₂ h hl
  obtain ⟨i, hi, rfl⟩ := List.mem_map.1 hb
  exact ⟨i, hi, hlb⟩

theorem InStep.tags (h : InStep live config) :
    live.map LiveInbound.tag = (listVlessInbounds config).map Inbound.tag := by
  have htable : (listVlessInbounds config).map Inbound.tag =
      (bootTable config).map LiveInbound.tag := by
    rw [bootTable, List.map_map]
    rfl
  rw [InStep] at h
  rw [htable]
  generalize bootTable config = table at h
  induction h with
  | nil => rfl
  | cons hlb _ ih => rw [List.map_cons, List.map_cons, hlb.1, ih]

theorem InStep.uniqueEmails (h : InStep live config) (hconfig : Servable config) :
    UniqueEmails live := by
  intro l hl
  obtain ⟨i, hi, -, hperm⟩ := h.of_mem hl
  rw [(hperm.filterMap fun u => truthy u.email).nodup_iff, List.filterMap_map]
  have hemails := nodup_filterMap_truthy (hconfig.email_nodup i hi)
  rw [List.filterMap_map] at hemails
  exact hemails

/-! ## Runs of the live phase -/

theorem addAll_cons (a : Inbound × ClientRecord) (additions : List (Inbound × ClientRecord))
    (live : List LiveInbound) :
    addAll (a :: additions) live = addAll additions (live.map (LiveInbound.addTo a)) := rfl

theorem runOk_liveRemovals (removals : List (String × String)) (ok : Bool) (w : Agent D) :
    runOk (liveRemovals removals ok) w =
      (.ok ok, { w with live := removeAll removals w.live }) := by
  induction removals generalizing ok w with
  | nil => rfl
  | cons r removals ih =>
    rw [liveRemovals, List.foldlM_cons]
    have hone : runOk (do
        let done ← Prog.perform (xrayApiRemove r.1 r.2 (D := D))
        .ret (ok && done)) w = (.ok ok, { w with
          live := w.live.map (LiveInbound.remove r.1 r.2) }) := by
      rw [Prog.bind_eq, runOk_bind_ok _ (runOk_perform _ _)]
      simp [xrayApiRemove]
    exact (runOk_bind_ok _ hone).trans (ih ok _)

/-- The running Xray takes the user. -/
def Accepts (a : Inbound × ClientRecord) (live : List LiveInbound) : Prop :=
  ∃ t p, truthy a.1.tag = some t ∧ a.1.port = some (p + 1) ∧ acceptsUser t a.2 live = true

theorem xrayApiAdd_ok {a : Inbound × ClientRecord} {w : Agent D} (h : Accepts a w.live) :
    xrayApiAdd a.1 a.2 .ok w =
      (true, { w with live := w.live.map (LiveInbound.addTo a) }) := by
  obtain ⟨t, p, htag, hport, haccepts⟩ := h
  have hto : LiveInbound.addTo a = LiveInbound.add t a.2 := by
    funext l
    simp only [LiveInbound.addTo, htag]
  simp only [xrayApiAdd, htag, hport, haccepts, ↓reduceIte, hto]

theorem runOk_liveAdditions {additions : List (Inbound × ClientRecord)} {ok : Bool} {w : Agent D}
    (h : ∀ done a rest, additions = done ++ a :: rest → Accepts a (addAll done w.live)) :
    runOk (liveAdditions additions ok) w =
      (.ok ok, { w with live := addAll additions w.live }) := by
  induction additions generalizing ok w with
  | nil => rfl
  | cons a additions ih =>
    rw [liveAdditions, List.foldlM_cons]
    have hone : runOk (do
        let done ← Prog.perform (xrayApiAdd a.1 a.2 (D := D))
        .ret (ok && done)) w = (.ok ok, { w with live := w.live.map (LiveInbound.addTo a) }) := by
      rw [Prog.bind_eq, runOk_bind_ok _ (runOk_perform _ _), xrayApiAdd_ok (h [] a additions rfl)]
      simp
    refine (runOk_bind_ok _ hone).trans (ih fun done b rest hsplit => ?_)
    have haccepts := h (a :: done) b rest (by rw [hsplit, List.cons_append])
    rw [addAll_cons] at haccepts
    exact haccepts

/-! ## The delta of a reconcile -/

theorem desiredRecords_emails (clients : List DesiredClient) (inbound : Inbound) :
    (desiredRecords clients inbound).map ClientRecord.email =
      (clients.map DesiredClient.email).map some := by
  simp [desiredRecords, Function.comp_def, buildClientRecord]

section Delta
variable {clients : List DesiredClient} {config : XrayConfig} {live : List LiveInbound}
  (hconfig : Servable config) (hclients : DistinctUuids clients)
include hconfig hclients

theorem mem_removals : (t, e) ∈ (configDelta clients config).removals ↔
    ∃ i ∈ listVlessInbounds config, ∃ r ∈ i.clients,
      recordProjection r ∉ desiredRecords clients i ∧ truthy i.tag = some t ∧
        truthy r.email = some e := by
  rw [configDelta, List.mem_flatMap]
  refine exists_congr fun i => and_congr_right fun hi => ?_
  exact mem_inboundRemovals hclients (hconfig.id i hi) (hconfig.id_nodup i hi)

theorem mem_additions {a : Inbound × ClientRecord} :
    a ∈ (configDelta clients config).additions ↔ a.1 ∈ listVlessInbounds config ∧
      a.2 ∈ desiredRecords clients a.1 ∧ a.2 ∉ a.1.clients.map recordProjection := by
  rw [configDelta, List.mem_flatMap]
  constructor
  · rintro ⟨i, hi, ha⟩
    rw [inboundAdditions_eq hclients (hconfig.id i hi) (hconfig.id_nodup i hi)] at ha
    obtain ⟨r, hr, rfl⟩ := List.mem_map.1 ha
    obtain ⟨hdesired, hnew⟩ := List.mem_filter.1 hr
    exact ⟨hi, hdesired, of_decide_eq_true hnew⟩
  · rintro ⟨hi, hdesired, hnew⟩
    refine ⟨a.1, hi, ?_⟩
    rw [inboundAdditions_eq hclients (hconfig.id a.1 hi) (hconfig.id_nodup a.1 hi)]
    exact List.mem_map.2 ⟨a.2, List.mem_filter.2 ⟨hdesired, decide_eq_true hnew⟩, rfl⟩

theorem unchanged_kept {i : Inbound} (hi : i ∈ listVlessInbounds config) {r : ClientRecord}
    (hr : r ∈ i.clients) (hdesired : recordProjection r ∈ desiredRecords clients i) :
    (∀ t e, i.tag = some t → r.email = some e → (t, e) ∉ (configDelta clients config).removals) ∧
      ∀ a ∈ (configDelta clients config).additions, a.1.tag = i.tag → a.2.id ≠ r.id := by
  constructor
  · intro t e htag hemail hmem
    obtain ⟨j, hj, r', hr', hnot, htag', hemail'⟩ := (mem_removals hconfig hclients).1 hmem
    obtain rfl : j = i := List.inj_on_of_nodup_map hconfig.tag_nodup hj hi
      ((truthy_some.1 htag').1.trans htag.symm)
    obtain rfl : r' = r := List.inj_on_of_nodup_map (hconfig.email_nodup j hj) hr' hr
      ((truthy_some.1 hemail').1.trans hemail.symm)
    exact hnot hdesired
  · intro a ha htag hid
    obtain ⟨hj, hnew, hlacks⟩ := (mem_additions hconfig hclients).1 ha
    have hsame : a.1 = i := List.inj_on_of_nodup_map hconfig.tag_nodup hj hi htag
    rw [hsame] at hnew hlacks
    have heq : a.2 = recordProjection r :=
      List.inj_on_of_nodup_map (hclients.ids_nodup i) hnew hdesired hid
    exact hlacks (heq ▸ List.mem_map_of_mem hr)

/-- No addition collides with a user that is there when it is made. -/
theorem additions_never_collide (hlive : InStep live config)
    (hemails : (clients.map DesiredClient.email).Nodup)
    (hsplit : (configDelta clients config).additions = done ++ a :: rest) :
    ¬Collides a (addAll done (removeAll (configDelta clients config).removals live)) := by
  have htagged : ∀ b ∈ (configDelta clients config).additions, ∃ t, truthy b.1.tag = some t :=
    fun b hb => hconfig.tag b.1 ((mem_additions hconfig hclients).1 hb).1
  have hfinal := delta_inStep hlive hconfig.toAddressable (hlive.uniqueEmails hconfig) hclients
  rw [addAll_eq_map _ htagged] at hfinal
  rw [addAll_eq_map _ fun b hb => htagged b (hsplit ▸ List.mem_append_left _ hb)]
  rintro ⟨_, hmem, htag, u, hu, hcollides⟩
  obtain ⟨l, hl, rfl⟩ := List.mem_map.1 hmem
  change l.tag = a.1.tag at htag
  -- the users of that inbound in the end, of which no two share an email or a UUID
  obtain ⟨i, hi, -, hperm⟩ := hfinal.of_mem (List.mem_map_of_mem hl)
  rw [desiredConfig_clients hi, desiredRecords_projection, hsplit, List.filter_append,
    List.filter_cons_of_pos (by simp [htag]), List.map_append, List.map_cons,
    ← List.append_assoc] at hperm
  have hapart : ∀ (key : ClientRecord → Option String),
      ((desiredRecords clients i).map key).Nodup → key u ≠ key a.2 := by
    intro key hkeys heq
    rw [← (hperm.map key).nodup_iff, List.map_append, List.nodup_append] at hkeys
    exact hkeys.2.2 (key u) (List.mem_map_of_mem hu) (key a.2) List.mem_cons_self heq
  rcases hcollides with hemail | hid
  · refine hapart ClientRecord.email ?_ hemail
    rw [desiredRecords_emails]
    exact hemails.map (Option.some_injective _)
  · exact hapart ClientRecord.id (hclients.ids_nodup i) hid

omit hconfig hclients in
theorem live_tags (hlive : InStep live config)
    (hadded : ∀ a ∈ done, ∃ t, truthy a.1.tag = some t) (removals : List (String × String)) :
    (addAll done (removeAll removals live)).map LiveInbound.tag =
      (listVlessInbounds config).map Inbound.tag := by
  rw [addAll_eq_map _ hadded, removeAll_eq_map, List.map_map, List.map_map, ← hlive.tags]
  rfl

/-- The running Xray takes every addition. -/
theorem additions_accepted (hlive : InStep live config)
    (hemails : (clients.map DesiredClient.email).Nodup)
    (hsplit : (configDelta clients config).additions = done ++ a :: rest) :
    Accepts a (addAll done (removeAll (configDelta clients config).removals live)) := by
  have hadded : ∀ b ∈ (configDelta clients config).additions,
      b.1 ∈ listVlessInbounds config := fun b hb => ((mem_additions hconfig hclients).1 hb).1
  have hi := hadded a (hsplit ▸ List.mem_append_right _ List.mem_cons_self)
  obtain ⟨t, ht⟩ := hconfig.tag a.1 hi
  obtain ⟨p, hp⟩ := hconfig.port a.1 hi
  have hfree := additions_never_collide hconfig hclients hlive hemails hsplit
  have htags := live_tags hlive (fun b hb => hconfig.tag b.1
    (hadded b (hsplit ▸ List.mem_append_left _ hb))) (configDelta clients config).removals
  refine ⟨t, p, ht, hp, ?_⟩
  rw [acceptsUser, Bool.and_eq_true, List.any_eq_true, List.all_eq_true]
  constructor
  · -- the inbound is there
    have hmem : some t ∈ (addAll done (removeAll (configDelta clients config).removals live)).map
        LiveInbound.tag := by
      rw [htags, ← (truthy_some.1 ht).1]
      exact List.mem_map_of_mem hi
    obtain ⟨l, hl, htag⟩ := List.mem_map.1 hmem
    exact ⟨l, hl, decide_eq_true htag⟩
  · intro l hl
    by_cases htag : l.tag = some t
    · have hall : (l.users.all fun u => u.email ≠ a.2.email) = true := by
        refine List.all_eq_true.2 fun u hu => decide_eq_true fun heq => ?_
        exact hfree ⟨l, hl, htag.trans (truthy_some.1 ht).1.symm, u, hu, .inl heq⟩
      rw [hall, Bool.or_true]
    · simp [htag]

end Delta

/-- Where the running Xray serves the file, the live phase of a reconcile in which every call works
makes it serve just the desired clients; no addition collides with a user that is there, and a
client whose record is the desired one is neither removed nor added again. -/
theorem live_delta_exact (w : Agent D) (items : List DesiredItem) (nowMs : Nat)
    (cascaded : XrayConfig)
    (hcascaded : applyCascadeRoutes w.config (desiredRoutes items) = .ok cascaded)
    (hconfig : Servable w.config) (hlive : InStep w.live w.config)
    (huuids : ((desiredClients items nowMs).map DesiredClient.uuid).Nodup)
    (hemails : ((desiredClients items nowMs).map DesiredClient.email).Nodup) :
    let clients := desiredClients items nowMs
    let delta := configDelta clients cascaded
    (∃ live, runOk (executeDelta delta) w = (.ok true, { w with live := live }) ∧
      InStep live (desiredConfig clients cascaded)) ∧
    (∀ done a rest, delta.additions = done ++ a :: rest →
      ¬Collides a (addAll done (removeAll delta.removals w.live))) ∧
    ∀ i ∈ listVlessInbounds w.config, ∀ r ∈ i.clients,
      recordProjection r ∈ desiredRecords clients i →
        (∀ t e, i.tag = some t → r.email = some e → (t, e) ∉ delta.removals) ∧
          ∀ a ∈ delta.additions, a.1.tag = i.tag → a.2.id ≠ r.id := by
  intro clients delta
  have hinbounds := applyCascadeRoutes_inbounds hcascaded
  have hservable : Servable cascaded := hconfig.congr hinbounds
  have hstep : InStep w.live cascaded := hlive.congr hinbounds
  have hclients : DistinctUuids clients := huuids
  refine ⟨⟨_, ?_, delta_inStep hstep hservable.toAddressable (hstep.uniqueEmails hservable)
    hclients⟩, fun done a rest hsplit => ?_, fun i hi r hr hdesired => ?_⟩
  · have hremovals := runOk_liveRemovals delta.removals true w
    refine (runOk_bind_ok _ hremovals).trans (runOk_liveAdditions fun done a rest hsplit => ?_)
    exact additions_accepted hservable hclients hstep hemails hsplit
  · exact additions_never_collide hservable hclients hstep hemails hsplit
  · rw [← listVlessInbounds_congr hinbounds] at hi
    exact unchanged_kept hservable hclients hi hr hdesired

/-- Two inbounds that serve the same two clients. -/
def swapConfig : XrayConfig :=
  desiredConfig [⟨"u1", "user_1", 1000⟩, ⟨"u2", "user_2", 1000⟩]
    ⟨[⟨some "in", some 443, "vless", some "xhttp", []⟩,
      ⟨some "tcp", some 8443, "vless", none, []⟩], some [], none, none⟩

theorem swapConfig_servable : Servable swapConfig := by
  have hvless : listVlessInbounds swapConfig =
      [⟨some "in", some 443, "vless", some "xhttp",
        [⟨some "u1", some "user_1", none, []⟩, ⟨some "u2", some "user_2", none, []⟩]⟩,
      ⟨some "tcp", some 8443, "vless", none,
        [⟨some "u1", some "user_1", some "xtls-rprx-vision", []⟩,
          ⟨some "u2", some "user_2", some "xtls-rprx-vision", []⟩]⟩] := by
    decide +kernel
  constructor
  · constructor <;> rw [hvless]
    · simp [truthy]
    · decide
    · simp [truthy]
    · decide
    · simp [truthy]
  · rw [hvless]
    simp
  · rw [hvless]
    decide

/-- The clients swap their emails. -/
theorem live_delta_exact_swap :
    let w := nodeAt 1 swapConfig []
    let items := [.client ⟨"u1", "user_2", 1000⟩, .client ⟨"u2", "user_1", 1000⟩]
    let delta := configDelta (desiredClients items 0) w.config
    (∃ live, runOk (executeDelta delta) w = (.ok true, { w with live := live }) ∧
      InStep live (desiredConfig (desiredClients items 0) w.config)) ∧
    (∀ done a rest, delta.additions = done ++ a :: rest →
      ¬Collides a (addAll done (removeAll delta.removals w.live))) ∧
    ∀ i ∈ listVlessInbounds w.config, ∀ r ∈ i.clients,
      recordProjection r ∈ desiredRecords (desiredClients items 0) i →
        (∀ t e, i.tag = some t → r.email = some e → (t, e) ∉ delta.removals) ∧
          ∀ a ∈ delta.additions, a.1.tag = i.tag → a.2.id ≠ r.id := by
  intro w items delta
  have hlive : InStep w.live w.config := List.forall₂_same.2 fun l _ => ⟨rfl, .refl _⟩
  exact live_delta_exact w items 0 w.config (by decide +kernel) swapConfig_servable hlive
    (by decide) (by decide)

end AegisVPN
