import AegisVPN.Agent.LiveConsistency
import AegisVPN.Library.Runs

namespace AegisVPN
open Library
set_option autoImplicit true

/-! ## The push endpoints -/

structure ClientAddRequest where
  uuid : String
  email : String
  deriving DecidableEq

/-- What the environment makes of one request. A live call that is `none` raises, and the calls
beyond the list work. -/
structure PushOutcomes where
  read : Fate
  calls : List (Option Fate)
  save : Fate
  kick : Fate

/-- What a request does to the config that it read. -/
structure PushPlan (D : Type) where
  calls : List (AgentAct D Bool)
  changed : Bool
  config : XrayConfig
  removedEmails : Finset String

/-- The email that Hysteria gets for a secret, from the map in memory. -/
def hy2Authenticate (clients : List (String × String)) (auth : String) : Option String :=
  clients.reverse.lookup auth

/-- `pkill -HUP`: the entrypoint starts Xray again, here always on the file as it is. -/
def reloadXray (w : Agent D) : Agent D := { w with live := bootTable w.config }

/-- The live calls of a request in order, and whether all of them worked. -/
def liveCalls : List (AgentAct D Bool) → List (Option Fate) → Bool → Agent D →
    Except AgentError Bool × Agent D
  | [], _, apiOk, w => (.ok apiOk, w)
  | call :: calls, outcomes, apiOk, w =>
    match outcomes.headD (some .ok) with
    | none => (.error .os, w)
    | some f => liveCalls calls outcomes.tail (apiOk && (call f w).1) (call f w).2

section Handlers
variable (settings : AgentSettings)

/-- Live calls first, then the file, then Hysteria, and a restart when a live call failed. -/
def push (plan : XrayConfig → PushPlan D) (o : PushOutcomes) (w : Agent D) :
    Except AgentError Bool × Agent D :=
  match getXrayConfig o.read w with
  | (.error e, w) => (.error e, w)
  | (.ok config, w) =>
    match liveCalls (plan config).calls o.calls true w with
    | (.error e, w) => (.error e, w)
    | (.ok apiOk, w) =>
      if (plan config).changed = false then (.ok false, w) else
        match saveXrayConfig (plan config).config w.installed o.save w with
        | (.error e, w) => (.error e, w)
        | (.ok _, w) =>
          let refreshed := (refreshFromConfig (plan config).config .ok w).2
          let kicked := (kick settings (plan config).removedEmails o.kick refreshed).2
          (.ok true, if apiOk then kicked else reloadXray kicked)

/-- The records that an inbound lacks, for UUIDs that are not among the existing ones. -/
def newRecords (inbound : Inbound) :
    List (Option String) → List ClientAddRequest → List ClientRecord
  | _, [] => []
  | existing, req :: reqs =>
    if some req.uuid ∈ existing then newRecords inbound existing reqs
    else buildClientRecord req.uuid req.email inbound ::
      newRecords inbound (some req.uuid :: existing) reqs

def pushAdditions (reqs : List ClientAddRequest) (inbound : Inbound) : List ClientRecord :=
  newRecords inbound (inbound.clients.map ClientRecord.id) reqs

/-- Nobody is kicked. -/
def additionPlan (reqs : List ClientAddRequest) (config : XrayConfig) : PushPlan D :=
  let additions := (listVlessInbounds config).flatMap fun i =>
    (pushAdditions reqs i).map fun r => (i, r)
  ⟨additions.map fun a => xrayApiAdd a.1 a.2, !additions.isEmpty,
    mapVless (fun i => i.clients ++ pushAdditions reqs i) config, ∅⟩

def addClient (req : ClientAddRequest) (o : PushOutcomes) (w : Agent D) :
    Except AgentError Bool × Agent D :=
  push settings (additionPlan [req]) o w

def bulkAddClients (reqs : List ClientAddRequest) (o : PushOutcomes) (w : Agent D) :
    Except AgentError Bool × Agent D :=
  push settings (additionPlan reqs) o w

def goneRecords (uuid : String) (inbound : Inbound) : List ClientRecord :=
  inbound.clients.filter fun c => c.id = some uuid

/-- A record without an email, or in an inbound without a tag, is not removed live. -/
def pushRemovals (uuid : String) (inbound : Inbound) : List (String × String) :=
  (goneRecords uuid inbound).filterMap fun c =>
    match truthy inbound.tag, truthy c.email with
    | some tag, some email => some (tag, email)
    | _, _ => none

def removalPlan (uuid : String) (config : XrayConfig) : PushPlan D :=
  let inbounds := listVlessInbounds config
  ⟨(inbounds.flatMap (pushRemovals uuid)).map fun r => xrayApiRemove r.1 r.2,
    inbounds.any fun i => !(goneRecords uuid i).isEmpty,
    mapVless (fun i => i.clients.filter fun c => c.id ≠ some uuid) config,
    (inbounds.flatMap fun i =>
      (goneRecords uuid i).filterMap fun c => truthy c.email).toFinset⟩

def removeClient (uuid : String) (o : PushOutcomes) (w : Agent D) :
    Except AgentError Bool × Agent D :=
  push settings (removalPlan uuid) o w

end Handlers

/-! ## Runs of requests -/

inductive PushRequest
  | add (req : ClientAddRequest)
  | bulk (reqs : List ClientAddRequest)
  | remove (uuid : String)

def PushRequest.plan : PushRequest → XrayConfig → PushPlan D
  | .add req => additionPlan [req]
  | .bulk reqs => additionPlan reqs
  | .remove uuid => removalPlan uuid

def pushStep (settings : AgentSettings) (w : Agent D) :
    PushRequest × PushOutcomes → Agent D
  | (.add req, o) => (addClient settings req o w).2
  | (.bulk reqs, o) => (bulkAddClients settings reqs o w).2
  | (.remove uuid, o) => (removeClient settings uuid o w).2

def pushRun (settings : AgentSettings) (w : Agent D) (rs : List (PushRequest × PushOutcomes)) :
    Agent D :=
  rs.foldl (pushStep settings) w

/-- The running Xray, the file and the map of Hysteria describe the same clients. -/
structure InAgreement (w : Agent D) : Prop where
  live : InStep w.live w.config
  hy2 : ∀ auth, hy2Authenticate w.hy2Clients auth = hy2Authenticate (hy2Mapping w.config) auth

/-- Xray runs no config in which two inbounds have one tag. -/
def DistinctTags (config : XrayConfig) : Prop :=
  ((listVlessInbounds config).filterMap fun i => truthy i.tag).Nodup

/-- The live API can remove the records of a UUID, and these alone. -/
def Removable (uuid : String) (config : XrayConfig) : Prop :=
  ∀ i ∈ listVlessInbounds config, ∀ c ∈ i.clients, c.id = some uuid →
    (truthy i.tag).isSome ∧ (truthy c.email).isSome ∧
      ∀ c' ∈ i.clients, c'.email = c.email → c'.id = some uuid

instance : Decidable (DistinctTags config) := by unfold DistinctTags; infer_instance

instance : Decidable (Removable uuid config) := by unfold Removable; infer_instance

/-- The calls that are made leave the running Xray as it is. -/
def Unheeded : List (AgentAct D Bool) → List (Option Fate) → Agent D → Prop
  | [], _, _ => True
  | call :: calls, outcomes, w =>
    match outcomes.headD (some .ok) with
    | none => True
    | some f => (call f w).2 = w ∧ Unheeded calls outcomes.tail w

/-- What becomes of the calls of a plan; the ones beyond the list work. -/
def callOutcomes (plan : PushPlan D) (o : PushOutcomes) : List (Option Fate) :=
  o.calls.take plan.calls.length

/-- When a request keeps the agreement: it does nothing, or it gets to its end and a removal can
be done live or falls back on the restart, or it fails and has not changed anything by then. -/
def KeepsAgreement (w : Agent D) (r : PushRequest) (o : PushOutcomes) : Prop :=
  o.read ≠ .ok ∨ (r.plan w.config : PushPlan D).changed = false ∨
    (o.save = .ok ∧ none ∉ callOutcomes (r.plan w.config : PushPlan D) o ∧
      ∀ uuid, r = .remove uuid → Removable uuid w.config ∨
        ∃ f ∈ callOutcomes (r.plan w.config : PushPlan D) o, f ≠ some .ok) ∨
    (Unheeded (r.plan w.config).calls o.calls w ∧
      (o.save = .fail ∨ none ∈ callOutcomes (r.plan w.config : PushPlan D) o))

/-! ## Live calls -/

theorem liveCalls_unheeded {calls : List (AgentAct D Bool)} (h : Unheeded calls outcomes w) :
    (liveCalls calls outcomes apiOk w).2 = w := by
  induction calls generalizing outcomes apiOk with
  | nil => rfl
  | cons call calls ih =>
    rw [liveCalls]
    rw [Unheeded] at h
    cases houtcome : outcomes.headD (some .ok) with
    | none => rfl
    | some f =>
      rw [houtcome] at h
      simp only [h.1]
      exact ih h.2

/-- A request stops at a live call exactly when one that it makes raises. -/
theorem liveCalls_raises {calls : List (AgentAct D Bool)} :
    (∃ e, (liveCalls calls outcomes apiOk w).1 = .error e) ↔
      none ∈ outcomes.take calls.length := by
  induction calls generalizing outcomes apiOk w with
  | nil => simp [liveCalls]
  | cons call calls ih =>
    rw [liveCalls]
    cases outcomes with
    | nil =>
      simp only [List.headD_nil, List.tail_nil, List.take_nil, List.not_mem_nil, iff_false]
      intro h
      simpa using ih.1 h
    | cons outcome outcomes =>
      simp only [List.headD_cons, List.tail_cons, List.length_cons, List.take_succ_cons,
        List.mem_cons]
      cases outcome with
      | none => simp
      | some f =>
        simp only [reduceCtorEq, false_or]
        exact ih

theorem liveCalls_ok {act : α → AgentAct D Bool} {P : α → Prop} {xs : List α}
    (effect : List LiveInbound → α → List LiveInbound)
    (hact : ∀ x f w, (act x f w).1 = true →
      f = .ok ∧ P x ∧ (act x f w).2.live = effect w.live x)
    (h : liveCalls (xs.map act) outcomes apiOk w = (.ok true, w')) :
    apiOk = true ∧ w'.live = xs.foldl effect w.live ∧ (∀ x ∈ xs, P x) ∧
      ∀ f ∈ outcomes.take xs.length, f = some .ok := by
  induction xs generalizing outcomes apiOk w with
  | nil =>
    cases h
    exact ⟨rfl, rfl, fun _ hx => absurd hx List.not_mem_nil, by simp⟩
  | cons x xs ih =>
    rw [List.map_cons, liveCalls] at h
    cases houtcome : outcomes.headD (some .ok) with
    | none =>
      rw [houtcome] at h
      cases h
    | some f =>
      rw [houtcome] at h
      obtain ⟨hand, hlive, hP, hrest⟩ := ih h
      obtain ⟨hok, hdone⟩ := (Bool.and_eq_true _ _).mp hand
      obtain ⟨rfl, hx, heffect⟩ := hact x f w hdone
      refine ⟨hok, ?_, ?_, ?_⟩
      · rw [hlive, heffect]
        rfl
      · exact List.forall_mem_cons.2 ⟨hx, hP⟩
      · cases outcomes with
        | nil => simp
        | cons outcome outcomes =>
          intro g hg
          rcases List.mem_cons.1 hg with rfl | hg
          · exact houtcome
          · exact hrest g hg

theorem xrayApiAdd_done {a : Inbound × ClientRecord} {f : Fate} {w : Agent D}
    (h : (xrayApiAdd a.1 a.2 f w).1 = true) :
    f = .ok ∧ (∃ t, truthy a.1.tag = some t) ∧
      (xrayApiAdd a.1 a.2 f w).2.live = w.live.map (LiveInbound.addTo a) := by
  refine ⟨?_, ?_, (xrayApiAdd_spec a.1 a.2 f w).2 h⟩
  · rw [xrayApiAdd] at h
    cases f with
    | ok => rfl
    | fail => split at h <;> [split at h; skip] <;> cases h
    | lost => split at h <;> [split at h; skip] <;> cases h
  · rw [xrayApiAdd] at h
    split at h
    · rename_i tag _ htag _
      exact ⟨tag, htag⟩
    · cases h

theorem xrayApiRemove_done {r : String × String} {f : Fate} {w : Agent D}
    (h : (xrayApiRemove r.1 r.2 f w).1 = true) :
    f = .ok ∧ True ∧
      (xrayApiRemove r.1 r.2 f w).2.live = w.live.map (LiveInbound.remove r.1 r.2) := by
  cases f with
  | ok => exact ⟨rfl, trivial, rfl⟩
  | fail => cases h
  | lost => cases h

/-! ## The live table against the new file -/

theorem DistinctTags.pairwise (h : DistinctTags config) :
    (listVlessInbounds config).Pairwise fun i j =>
      ∀ t, truthy i.tag = some t → truthy j.tag ≠ some t := by
  refine (List.pairwise_filterMap.1 h).imp fun hne t hi hj => ?_
  exact hne t hi t hj rfl

theorem DistinctTags.eq_of_tag (h : DistinctTags config) (hi : i ∈ listVlessInbounds config)
    (hj : j ∈ listVlessInbounds config) (hti : truthy i.tag = some t)
    (htj : truthy j.tag = some t) : i = j :=
  eq_of_filterMap_nodup h hi hj hti htj

theorem DistinctTags.mapVless (h : DistinctTags config) (f : Inbound → List ClientRecord) :
    DistinctTags (mapVless f config) := by
  rw [DistinctTags, listVlessInbounds_mapVless, List.filterMap_map]
  exact h

theorem newRecords_projection (inbound : Inbound) (existing : List (Option String))
    (reqs : List ClientAddRequest) : (newRecords inbound existing reqs).map recordProjection =
      newRecords inbound existing reqs := by
  induction reqs generalizing existing with
  | nil => rfl
  | cons req reqs ih =>
    by_cases hold : some req.uuid ∈ existing
    · simp only [newRecords, hold, ↓reduceIte, ih]
    · simp only [newRecords, hold, ↓reduceIte, List.map_cons, recordProjection_build, ih]

theorem additions_inStep (htags : DistinctTags config) (h : InStep live config)
    (reqs : List ClientAddRequest)
    (htagged : ∀ a ∈ (listVlessInbounds config).flatMap fun i =>
      (pushAdditions reqs i).map fun r => (i, r), ∃ t, truthy a.1.tag = some t) :
    InStep (addAll ((listVlessInbounds config).flatMap fun i =>
      (pushAdditions reqs i).map fun r => (i, r)) live)
      (mapVless (fun i => i.clients ++ pushAdditions reqs i) config) := by
  have hapart : (listVlessInbounds config).Pairwise fun i j => i.tag = j.tag →
      (pushAdditions reqs i).map (fun r => (i, r)) = [] ∧
        (pushAdditions reqs j).map (fun r => (j, r)) = [] := by
    refine htags.pairwise.imp_of_mem fun {i j} hi hj hne htag => ?_
    have hempty : ∀ k ∈ listVlessInbounds config, k.tag = i.tag →
        (pushAdditions reqs k).map (fun r => (k, r)) = [] := by
      intro k hk hki
      by_contra hsome
      obtain ⟨a, ha⟩ := List.exists_mem_of_ne_nil _ hsome
      obtain ⟨t, ht⟩ := htagged a (List.mem_flatMap.2 ⟨k, hk, ha⟩)
      obtain ⟨r, _, rfl⟩ := List.mem_map.1 ha
      rw [hki] at ht
      exact hne t ht (htag ▸ ht)
    exact ⟨hempty i hi rfl, hempty j hj htag.symm⟩
  have hkey : ∀ i ∈ listVlessInbounds config, ∀ a ∈ (pushAdditions reqs i).map fun r => (i, r),
      a.1.tag = i.tag := by
    intro i _ a ha
    obtain ⟨r, _, rfl⟩ := List.mem_map.1 ha
    rfl
  rw [addAll_eq_map _ htagged, InStep, bootTable, listVlessInbounds_mapVless, List.map_map,
    List.forall₂_map_left_iff, List.forall₂_map_right_iff]
  rw [InStep, bootTable, List.forall₂_map_right_iff] at h
  refine forall₂_of_mem h fun l i hi hl => ⟨hl.1, ?_⟩
  have hown : ((pushAdditions reqs i).map fun r => (i, r)).map Prod.snd =
      (pushAdditions reqs i).map recordProjection := by
    rw [List.map_map, pushAdditions, newRecords_projection]
    exact List.map_id _
  simp only [hl.1, Function.comp_apply]
  rw [flatMap_filter_apart hkey hapart hi, List.map_append, hown]
  exact hl.2.append_right _

theorem mem_pushRemovals {i : Inbound} : (t, e) ∈ pushRemovals uuid i ↔
    truthy i.tag = some t ∧ ∃ c ∈ i.clients, c.id = some uuid ∧ truthy c.email = some e := by
  simp only [pushRemovals, goneRecords, List.mem_filterMap, List.mem_filter, decide_eq_true_eq]
  constructor
  · rintro ⟨c, ⟨hc, hid⟩, hsome⟩
    split at hsome
    · rename_i ht he
      cases hsome
      exact ⟨ht, c, hc, hid, he⟩
    · cases hsome
  · rintro ⟨ht, c, hc, hid, he⟩
    exact ⟨c, ⟨hc, hid⟩, by simp only [ht, he]⟩

theorem removals_inStep (htags : DistinctTags config) (h : InStep live config)
    (hremovable : Removable uuid config) :
    InStep (removeAll ((listVlessInbounds config).flatMap (pushRemovals uuid)) live)
      (mapVless (fun i => i.clients.filter fun c => c.id ≠ some uuid) config) := by
  rw [removeAll_eq_map, InStep, bootTable, listVlessInbounds_mapVless, List.map_map,
    List.forall₂_map_left_iff, List.forall₂_map_right_iff]
  rw [InStep, bootTable, List.forall₂_map_right_iff] at h
  refine forall₂_of_mem h fun l i hi hl => ⟨hl.1, ?_⟩
  refine (hl.2.filter _).trans (List.Perm.of_eq ?_)
  simp only [Function.comp_apply]
  rw [List.filter_map]
  refine congrArg _ (List.filter_congr fun c hc => ?_)
  simp only [Function.comp_apply, decide_eq_decide]
  constructor
  · intro hkept hid
    obtain ⟨htag, hemail, _⟩ := hremovable i hi c hc hid
    obtain ⟨t, ht⟩ := Option.isSome_iff_exists.1 htag
    obtain ⟨e, he⟩ := Option.isSome_iff_exists.1 hemail
    have hmem := List.mem_flatMap.2 ⟨i, hi, mem_pushRemovals.2 ⟨ht, c, hc, hid, he⟩⟩
    exact hkept (t, e) hmem (hl.1.trans (truthy_some.1 ht).1) (truthy_some.1 he).1
  · rintro hid ⟨t, e⟩ hr htag hemail
    obtain ⟨j, hj, hr⟩ := List.mem_flatMap.1 hr
    obtain ⟨ht, c', hc', hid', he⟩ := mem_pushRemovals.1 hr
    have hti : truthy i.tag = some t :=
      truthy_some.2 ⟨hl.1.symm.trans htag, (truthy_some.1 ht).2⟩
    cases htags.eq_of_tag hi hj hti ht
    have hsame : c.email = c'.email := hemail.trans (truthy_some.1 he).1.symm
    exact hid ((hremovable i hi c' hc' hid').2.2 c hc hsame)

/-! ## One request -/

theorem plan_unchanged_calls (r : PushRequest)
    (h : (r.plan config : PushPlan D).changed = false) :
    (r.plan config : PushPlan D).calls = [] := by
  have hadd : ∀ reqs : List ClientAddRequest,
      (additionPlan reqs config : PushPlan D).changed = false →
        (additionPlan reqs config : PushPlan D).calls = [] := by
    intro reqs h
    simp only [additionPlan, Bool.not_eq_eq_eq_not, Bool.not_false, List.isEmpty_iff] at h ⊢
    rw [h, List.map_nil]
  cases r with
  | add req => exact hadd [req] h
  | bulk reqs => exact hadd reqs h
  | remove uuid =>
    simp only [PushRequest.plan, removalPlan, List.any_eq_false] at h
    simp only [PushRequest.plan, removalPlan, List.map_eq_nil_iff, List.flatMap_eq_nil_iff]
    intro i hi
    have hgone : goneRecords uuid i = [] := by simpa using h i hi
    rw [pushRemovals, hgone, List.filterMap_nil]

theorem pushStep_eq (settings : AgentSettings) (w : Agent D) (r : PushRequest)
    (o : PushOutcomes) : pushStep settings w (r, o) = (push settings r.plan o w).2 := by
  cases r <;> rfl

section Push
variable {plan : XrayConfig → PushPlan D} {o : PushOutcomes} {w : Agent D}

theorem getXrayConfig_ok (h : o.read = .ok) : getXrayConfig o.read w = (.ok w.config, w) := by
  rw [h]
  rfl

theorem push_unread (h : o.read ≠ .ok) : (push settings plan o w).2 = w := by
  have hread : getXrayConfig o.read w = (.error (.http "Failed to read config"), w) := if_neg h
  rw [push, hread]

theorem push_unchanged (hchanged : (plan w.config).changed = false)
    (hcalls : (plan w.config).calls = []) : (push settings plan o w).2 = w := by
  by_cases hread : o.read = .ok
  · rw [push, getXrayConfig_ok hread]
    simp only [hcalls, liveCalls, hchanged, ↓reduceIte]
  · exact push_unread hread

theorem push_failed (hcalls : Unheeded (plan w.config).calls o.calls w)
    (hfail : o.save = .fail ∨ none ∈ o.calls.take (plan w.config).calls.length) :
    (push settings plan o w).2 = w := by
  by_cases hread : o.read = .ok
  · have hsame : (liveCalls (plan w.config).calls o.calls true w).2 = w :=
      liveCalls_unheeded hcalls
    have hraises : (∃ e, (liveCalls (plan w.config).calls o.calls true w).1 = .error e) ↔ _ :=
      liveCalls_raises
    rw [push, getXrayConfig_ok hread]
    simp only
    generalize hlive : liveCalls (plan w.config).calls o.calls true w = result at hsame hraises ⊢
    obtain ⟨answer, w'⟩ := result
    cases hsame
    cases answer with
    | error e => rfl
    | ok apiOk =>
      have hsave : o.save = .fail := hfail.resolve_right fun h => by
        obtain ⟨e, he⟩ := hraises.2 h
        cases he
      simp only
      split
      · rfl
      · rw [hsave]
        rfl
  · exact push_unread hread

/-- A request that is carried through leaves the new file, its map and either the effect of its
live calls or a restart. -/
theorem push_finished (settings : AgentSettings) (hread : o.read = .ok)
    (hchanged : (plan w.config).changed = true) (hsave : o.save = .ok)
    (hraise : none ∉ o.calls.take (plan w.config).calls.length) :
    (push settings plan o w).2.config = (plan w.config).config ∧
      (push settings plan o w).2.hy2Clients = hy2Mapping (plan w.config).config ∧
      ((push settings plan o w).2.live = bootTable (plan w.config).config ∨
        ∃ w', liveCalls (plan w.config).calls o.calls true w = (.ok true, w') ∧
          (push settings plan o w).2.live = w'.live) := by
  have hraises : (∃ e, (liveCalls (plan w.config).calls o.calls true w).1 = .error e) ↔ _ :=
    liveCalls_raises
  rw [push, getXrayConfig_ok hread]
  simp only
  generalize hlive : liveCalls (plan w.config).calls o.calls true w = result at hraises ⊢
  obtain ⟨answer, w'⟩ := result
  cases answer with
  | error e => exact (hraise (hraises.1 ⟨e, rfl⟩)).elim
  | ok apiOk =>
    have hkick : ∀ (ids : Finset String) (v : Agent D),
        (kick settings ids o.kick v).2.config = v.config ∧
          (kick settings ids o.kick v).2.hy2Clients = v.hy2Clients ∧
          (kick settings ids o.kick v).2.live = v.live := by
      intro ids v
      rw [kick]
      split
      · exact ⟨rfl, rfl, rfl⟩
      · cases o.kick <;> exact ⟨rfl, rfl, rfl⟩
    simp only [hchanged, Bool.true_eq_false, ↓reduceIte, hsave]
    have hkicked := hkick (plan w.config).removedEmails
      (refreshFromConfig (plan w.config).config .ok
        { w' with config := (plan w.config).config, installed := w'.installed }).2
    cases apiOk with
    | true => exact ⟨hkicked.1, hkicked.2.1, .inr ⟨w', rfl, hkicked.2.2⟩⟩
    | false =>
      refine ⟨hkicked.1, hkicked.2.1, .inl ?_⟩
      exact congrArg bootTable hkicked.1

end Push

theorem plan_tags (h : DistinctTags config) (r : PushRequest) :
    DistinctTags (r.plan config : PushPlan D).config := by
  cases r <;> exact h.mapVless _

theorem additionPlan_inStep {w w' : Agent D} (htags : DistinctTags w.config)
    (h : InStep w.live w.config) (reqs : List ClientAddRequest)
    (hcalls : liveCalls (additionPlan reqs w.config).calls outcomes true w = (.ok true, w')) :
    InStep w'.live (additionPlan reqs w.config : PushPlan D).config := by
  obtain ⟨_, hlive, htagged, _⟩ := liveCalls_ok (P := fun a => ∃ t, truthy a.1.tag = some t)
    (fun live a => live.map (LiveInbound.addTo a))
    (fun a f w hdone => xrayApiAdd_done hdone) hcalls
  rw [hlive]
  exact additions_inStep htags h reqs htagged

theorem removalPlan_inStep {w w' : Agent D} (htags : DistinctTags w.config)
    (h : InStep w.live w.config)
    (hremovable : Removable uuid w.config ∨
      ∃ f ∈ outcomes.take (removalPlan uuid w.config : PushPlan D).calls.length, f ≠ some .ok)
    (hcalls : liveCalls (removalPlan uuid w.config).calls outcomes true w = (.ok true, w')) :
    InStep w'.live (removalPlan uuid w.config : PushPlan D).config := by
  obtain ⟨_, hlive, _, hok⟩ := liveCalls_ok (P := fun _ => True)
    (fun live r => live.map (LiveInbound.remove r.1 r.2))
    (fun r f w hdone => xrayApiRemove_done hdone) hcalls
  rw [hlive]
  refine removals_inStep htags h (hremovable.resolve_right ?_)
  rintro ⟨f, hf, hne⟩
  rw [removalPlan, List.length_map] at hf
  exact hne (hok f hf)

theorem InAgreement.step {w : Agent D} (settings : AgentSettings) (htags : DistinctTags w.config)
    (h : InAgreement w) (hkeeps : KeepsAgreement w r o) :
    DistinctTags (pushStep settings w (r, o)).config ∧
      InAgreement (pushStep settings w (r, o)) := by
  rw [pushStep_eq]
  by_cases hread : o.read = .ok
  swap
  · rw [push_unread hread]
    exact ⟨htags, h⟩
  by_cases hchanged : (r.plan w.config : PushPlan D).changed = false
  · rw [push_unchanged hchanged (plan_unchanged_calls r hchanged)]
    exact ⟨htags, h⟩
  rcases hkeeps with hno | hno | ⟨hsave, hraise, hremovable⟩ | ⟨hcalls, hfail⟩
  · exact (hno hread).elim
  · exact (hchanged hno).elim
  · obtain ⟨hconfig, hhy2, hlive⟩ := push_finished settings hread
      (Bool.not_eq_false _ ▸ hchanged) hsave hraise
    refine ⟨by rw [hconfig]; exact plan_tags htags r, ?_, fun auth => by rw [hhy2, hconfig]⟩
    rw [hconfig]
    rcases hlive with hlive | ⟨w', hcalls, hlive⟩
    · rw [hlive]
      exact List.forall₂_same.2 fun l _ => ⟨rfl, .refl _⟩
    · rw [hlive]
      cases r with
      | add req => exact additionPlan_inStep htags h.live [req] hcalls
      | bulk reqs => exact additionPlan_inStep htags h.live reqs hcalls
      | remove uuid => exact removalPlan_inStep htags h.live (hremovable uuid rfl) hcalls
  · rw [push_failed hcalls hfail]
    exact ⟨htags, h⟩

/-- The live API answers nothing to the addition, so Xray is started again; the removal goes
through. -/
def addedAndRemoved : List (PushRequest × PushOutcomes) :=
  [(.add ⟨"u1", "user_1"⟩, ⟨.ok, [some .fail], .ok, .ok⟩),
    (.remove "u1", ⟨.ok, [], .ok, .ok⟩)]

theorem inAgreement_fresh : InAgreement (nodeAt 0 freshConfig []) :=
  ⟨List.forall₂_same.2 fun _ _ => ⟨rfl, .refl _⟩, fun _ => rfl⟩

end AegisVPN
