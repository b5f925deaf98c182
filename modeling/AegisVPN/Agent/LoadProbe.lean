import AegisVPN.Agent.Xray
import AegisVPN.Bot.SubscriptionLinks

namespace AegisVPN
open Library
set_option autoImplicit true

/-! ## Who is on a node -/

/-- What the load probe of a node remembers: the ids of its users by their emails, the counters of
the last minutes, and the bytes of late by the ids. -/
structure LoadProbe where
  probeIds : List (String × String)
  history : List (String × List (Nat × Nat))
  recentBytes : List (String × Int)

def activeWindowSeconds : Nat := 600

/-- The ids of the users that a config has, by their emails. -/
def probeIdsOf (texts : TextOps) (config : XrayConfig) : List (String × String) :=
  dictOf ((config.inbounds.flatMap Inbound.clients).filterMap fun c => do
    let uuid ← truthy c.id
    let email ← truthy c.email
    some (email, texts.probeId uuid))

/-- One counter is taken into the history of its email. -/
def LoadProbe.sample (now : Nat) (probe : LoadProbe) (counter : String × Nat × Nat) : LoadProbe :=
  let (email, uplink, downlink) := counter
  let total := uplink + downlink
  let history := (probe.history.lookup email).getD []
  -- counters reset with an Xray restart
  let history := if history.getLast?.any fun last => decide (total < last.2) then [] else history
  let history := (history ++ [(now, total)]).dropWhile fun sample =>
    decide (activeWindowSeconds < now - sample.1)
  let first := history.head?.getD (now, total)
  { probe with
    history := dictSet probe.history (email, history)
    recentBytes := match probe.probeIds.lookup email with
      | some id => dictSet probe.recentBytes (id, (total : Int) - first.2)
      | none => probe.recentBytes }

def LoadProbe.refreshActivity (texts : TextOps) (config : XrayConfig)
    (stats : List (String × Nat × Nat)) (now : Nat) (probe : LoadProbe) : LoadProbe :=
  stats.foldl (LoadProbe.sample now) ⟨probeIdsOf texts config, probe.history, []⟩

/-- The id that a request to the probe names. -/
def requestedProbeId (path : String) : String :=
  if "/p/".toList <+: path.toList then String.ofList ((path.toList.take 19).drop 3) else ""

/-- The path that a client asks for when it is given a URL. -/
def pathOfUrl (url : String) : String :=
  String.ofList ((url.toList.drop "http://".length).dropWhile fun c => c != '/')

/-! ## The id of a user -/

/-- The config knows the user of the email by the UUID, and by no other. -/
structure XrayConfig.Names (config : XrayConfig) (email uuid : String) : Prop where
  present : ∃ c ∈ config.inbounds.flatMap Inbound.clients, c.email = some email ∧ c.id = some uuid
  only : ∀ c ∈ config.inbounds.flatMap Inbound.clients, c.email = some email →
    c.id = some uuid
  uuid_ne : uuid ≠ ""
  email_ne : email ≠ ""

theorem lookup_probeIdsOf {config : XrayConfig} (h : config.Names email uuid) :
    (probeIdsOf texts config).lookup email = some (texts.probeId uuid) := by
  have honly : ∀ id, (email, id) ∈ (config.inbounds.flatMap Inbound.clients).filterMap
      (fun c => do
        let uuid ← truthy c.id
        let email ← truthy c.email
        some (email, texts.probeId uuid)) ↔ id = texts.probeId uuid := by
    intro id
    simp only [List.mem_filterMap, Option.bind_eq_bind, Option.bind_eq_some_iff, truthy_some,
      Option.some.injEq, Prod.mk.injEq]
    constructor
    · rintro ⟨c, hc, uuid', ⟨hid, -⟩, email', ⟨hemail, -⟩, rfl, rfl⟩
      rw [h.only c hc hemail] at hid
      cases hid
      rfl
    · rintro rfl
      obtain ⟨c, hc, hemail, hid⟩ := h.present
      exact ⟨c, hc, uuid, ⟨hid, h.uuid_ne⟩, email, ⟨hemail, h.email_ne⟩, rfl, rfl⟩
  rw [probeIdsOf, lookup_dictOf]
  apply (lookup_iff_mem fun id id' hid hid' => ?_).2 (List.mem_reverse.2 ((honly _).2 rfl))
  rw [(honly id).1 (List.mem_reverse.1 hid), (honly id').1 (List.mem_reverse.1 hid')]

theorem sample_probeIds (now : Nat) (probe : LoadProbe) (counter : String × Nat × Nat) :
    (probe.sample now counter).probeIds = probe.probeIds := rfl

theorem sample_recentBytes (now : Nat) (probe : LoadProbe) (counter : String × Nat × Nat)
    (id : String) :
    ((probe.sample now counter).recentBytes.lookup id).isSome =
      ((probe.recentBytes.lookup id).isSome ||
        decide (probe.probeIds.lookup counter.1 = some id)) := by
  simp only [LoadProbe.sample]
  cases probe.probeIds.lookup counter.1 with
  | none => simp
  | some found =>
    dsimp only
    rw [lookup_dictSet]
    by_cases hid : id = found
    · simp [hid]
    · simp [hid, Ne.symm hid]

theorem samples_spec (now : Nat) (stats : List (String × Nat × Nat)) (probe : LoadProbe) :
    (stats.foldl (LoadProbe.sample now) probe).probeIds = probe.probeIds ∧
    ∀ id, ((stats.foldl (LoadProbe.sample now) probe).recentBytes.lookup id).isSome =
      ((probe.recentBytes.lookup id).isSome ||
        stats.any fun counter => decide (probe.probeIds.lookup counter.1 = some id)) := by
  induction stats generalizing probe with
  | nil => simp
  | cons counter stats ih =>
    obtain ⟨hids, hrecent⟩ := ih (probe.sample now counter)
    refine ⟨hids, fun id => ?_⟩
    rw [List.foldl_cons, hrecent, sample_recentBytes, sample_probeIds, List.any_cons,
      Bool.or_assoc]

/-- Whatever the node remembers, it knows the user by the id and stores what it counts for the
email of the user under the id. -/
def KnowsUnder (texts : TextOps) (uuid id : String) : Prop :=
  ∀ (probe : LoadProbe) (config : XrayConfig) (stats : List (String × Nat × Nat)) (now : Nat)
    (email : String), config.Names email uuid →
    (probe.refreshActivity texts config stats now).probeIds.lookup email = some id ∧
    (email ∈ stats.map Prod.fst →
      ((probe.refreshActivity texts config stats now).recentBytes.lookup id).isSome = true)

/-- A node knows a user under the digest of the UUID only. -/
theorem knowsUnder_iff {texts : TextOps} {uuid id : String} (h : uuid ≠ "") :
    KnowsUnder texts uuid id ↔ id = texts.probeId uuid := by
  constructor
  · intro hknows
    have hnames : XrayConfig.Names ⟨[⟨none, none, "vless", none, [⟨uuid, "a", none, []⟩]⟩], none,
        none, none⟩ "a" uuid :=
      { present := ⟨⟨uuid, "a", none, []⟩, by simp⟩
        only := fun c hc _ => by
          rw [List.mem_singleton.1 hc]
        uuid_ne := h
        email_ne := by decide }
    have hid := (hknows ⟨[], [], []⟩ _ [] 0 "a" hnames).1
    rw [LoadProbe.refreshActivity, (samples_spec _ _ _).1, lookup_probeIdsOf hnames] at hid
    exact (Option.some.inj hid).symm
  · rintro rfl probe config stats now email hnames
    obtain ⟨hids, hrecent⟩ := samples_spec now stats ⟨probeIdsOf texts config, probe.history, []⟩
    have hlookup : _ = some (texts.probeId uuid) := lookup_probeIdsOf hnames
    refine ⟨hids ▸ hlookup, fun hemail => ?_⟩
    obtain ⟨counter, hcounter, rfl⟩ := List.mem_map.1 hemail
    rw [LoadProbe.refreshActivity, hrecent]
    exact Bool.or_eq_true_iff.2 (.inr (List.any_eq_true.2
      ⟨counter, hcounter, decide_eq_true hlookup⟩))

end AegisVPN
