import AegisVPN.Bot.LimitOverrides
import AegisVPN.Library.SortedBy

namespace AegisVPN
open Library
set_option autoImplicit true

/-! # Where the limit of a user reaches every node -/

/-! ## Dictionaries of limits -/

theorem limit_mem_of_lookup {limits : List (Nat × Int)} (h : limits.lookup userId = some limit) :
    (userId, limit) ∈ limits := by
  obtain ⟨before, after, rfl, -⟩ := List.lookup_eq_some_iff.1 h
  exact List.mem_append_right _ List.mem_cons_self

/-- Where all entries of a user agree and there is one, it is the one that is found. -/
theorem lookup_of_agree {limits : List (Nat × Int)} (hmem : (userId, limit) ∈ limits)
    (hall : ∀ limit', (userId, limit') ∈ limits → limit' = limit) :
    limits.lookup userId = some limit := by
  cases h : limits.lookup userId with
  | none => exact absurd (List.lookup_eq_none_iff.1 h _ hmem) (by simp)
  | some limit' => rw [hall limit' (limit_mem_of_lookup h)]

theorem lookup_none {limits : List (Nat × Int)} (hall : ∀ limit, (userId, limit) ∉ limits) :
    limits.lookup userId = none := by
  cases h : limits.lookup userId with
  | none => rfl
  | some limit => exact absurd (limit_mem_of_lookup h) (hall limit)

theorem lookup_filter_ne {limits : List (Nat × Int)} (hne : userId ≠ other) :
    (limits.filter fun o => o.1 != other).lookup userId = limits.lookup userId := by
  induction limits with
  | nil => rfl
  | cons o limits ih =>
    obtain ⟨id, limit⟩ := o
    by_cases ho : id = other
    · subst ho
      rw [List.filter_cons_of_neg (by simp), List.lookup_cons, ih, beq_false_of_ne hne]
    · rw [List.filter_cons_of_pos (by simpa using ho), List.lookup_cons, List.lookup_cons, ih]

theorem limitFor_subscription {settings : ConnSettings} (h : settings.Plain) (sub : Subscription)
    (suffix : String) : limitFor settings (subscriptionEmail sub ++ suffix) =
      .ok ((settings.overrides.lookup sub.userId).getD settings.connLimit) := by
  unfold limitFor
  rw [userIdFromEmail_subscription h]
  rfl

namespace LimitWorld

theorem lookup_setOverride_self {overrides : List (Nat × Int)} {limit : Option Int}
    (h : ∀ l, limit = some l → 0 ≤ l) :
    (setOverride overrides userId limit).lookup userId = limit := by
  cases limit with
  | none =>
    apply lookup_none
    intro limit hmem
    have hne := (List.mem_filter.1 hmem).2
    simp at hne
  | some limit =>
    have hmax : max 0 limit = limit := max_eq_right (h limit rfl)
    rw [setOverride, List.lookup_cons, beq_self_eq_true, hmax]

theorem lookup_setOverride_ne {overrides : List (Nat × Int)} {limit : Option Int}
    (hne : userId ≠ other) :
    (setOverride overrides other limit).lookup userId = overrides.lookup userId := by
  cases limit with
  | none => exact lookup_filter_ne hne
  | some limit =>
    rw [setOverride, List.lookup_cons, beq_false_of_ne hne]
    exact lookup_filter_ne hne

/-! ## What a node holds -/

section Right
variable (defaults : String → Int)

/-- The limits that a server goes by once it has taken its latest snapshot. -/
def limitsOf (w : LimitWorld) (server : Server Unit) : Option (List (Nat × Int)) :=
  if server.controlMode = .pull then w.published server.id else some (w.overrides server.agent)

/-- These limits give the user the limit that is set for him, or the default of the node. -/
def Fits (limits : List (Nat × Int)) (server : Server Unit) (user : User) : Prop :=
  (limits.lookup user.id).getD (defaults server.agent) =
    user.connLimit.getD (defaults server.agent)

def Agrees (w : LimitWorld) (server : Server Unit) (user : User) : Prop :=
  ∀ limits, w.limitsOf server = some limits → Fits defaults limits server user

instance (limits : List (Nat × Int)) (server : Server Unit) (user : User) :
    Decidable (Fits defaults limits server user) :=
  inferInstanceAs (Decidable (_ = _))

instance (w : LimitWorld) (server : Server Unit) (user : User) :
    Decidable (w.Agrees defaults server user) :=
  inferInstanceAs (Decidable (∀ limits ∈ w.limitsOf server, Fits defaults limits server user))

/-- The user has an active subscription, which a server that pulls has to serve. -/
def Serves (w : LimitWorld) (server : Server Unit) (user : User) : Prop :=
  ∃ sub ∈ w.subscriptions, sub.userId = user.id ∧
    (server.controlMode = .pull → (server.id, sub.id) ∈ w.links)

instance (w : LimitWorld) (server : Server Unit) (user : User) :
    Decidable (w.Serves server user) :=
  inferInstanceAs (Decidable (∃ sub ∈ w.subscriptions, sub.userId = user.id ∧
    (server.controlMode = .pull → (server.id, sub.id) ∈ w.links)))

/-- The ids are apart and refer to rows, and no limit is negative. -/
structure Sane (w : LimitWorld) : Prop where
  users : ∀ u ∈ w.users, ∀ v ∈ w.users, u.id = v.id → u = v
  servers : ∀ s ∈ w.servers, ∀ t ∈ w.servers, s.id = t.id → s = t
  subscriptions : ∀ s ∈ w.subscriptions, ∀ t ∈ w.subscriptions, s.id = t.id → s = t
  owners : ∀ sub ∈ w.subscriptions, ∃ user ∈ w.users, user.id = sub.userId
  linked : ∀ l ∈ w.links, ∃ sub ∈ w.subscriptions, sub.id = l.2
  limits : ∀ u ∈ w.users, ∀ l, u.connLimit = some l → 0 ≤ l

/-- Every active server goes by the limits of the users that it serves. -/
def Reached (w : LimitWorld) : Prop :=
  ∀ server ∈ w.servers, server.isActive = true → ∀ user ∈ w.users, w.Serves server user →
    w.Agrees defaults server user

variable {defaults : String → Int} {w : LimitWorld}

/-! ## Publications -/

theorem find_server (h : w.Sane) {server : Server Unit} (hserver : server ∈ w.servers) :
    w.servers.find? (fun s => s.id == server.id) = some server :=
  find?_key_of_mem h.servers hserver

theorem find_user (h : w.Sane) {user : User} (huser : user ∈ w.users) :
    w.users.find? (fun u => u.id == user.id) = some user :=
  find?_key_of_mem h.users huser

theorem lookup_snapshotLimits (h : w.Sane) {server : Server Unit} {user : User}
    (hactive : server.isActive = true) (huser : user ∈ w.users) {sub : Subscription}
    (hsub : sub ∈ w.subscriptions) (howner : sub.userId = user.id)
    (hlink : (server.id, sub.id) ∈ w.links) :
    (w.snapshotLimits server).lookup user.id = user.connLimit := by
  have hentry : ∀ limit, (user.id, limit) ∈ w.snapshotLimits server →
      user.connLimit = some limit := by
    intro limit hmem
    rw [snapshotLimits, if_pos hactive] at hmem
    obtain ⟨s, -, hs⟩ := List.mem_filterMap.1 hmem
    obtain ⟨l, hl, he⟩ := Option.map_eq_some_iff.1 hs
    obtain ⟨hid, rfl⟩ := Prod.mk.inj he
    rw [hid, find_user h huser] at hl
    have hl : user.connLimit = some l := hl
    rw [hl, max_eq_right (h.limits user huser l hl)]
  cases hlimit : user.connLimit with
  | none =>
    apply lookup_none
    intro limit hmem
    rw [hentry limit hmem] at hlimit
    cases hlimit
  | some limit =>
    apply lookup_of_agree
    · rw [snapshotLimits, if_pos hactive]
      apply List.mem_filterMap.2
      refine ⟨sub, List.mem_filter.2 ⟨hsub, decide_eq_true hlink⟩, ?_⟩
      rw [howner, find_user h huser, Option.bind_some, hlimit, Option.map_some,
        max_eq_right (h.limits user huser limit hlimit)]
    · intro limit' hmem
      rw [hlimit] at hentry
      exact (Option.some.inj (hentry limit' hmem)).symm

theorem published_publishForServers (h : w.Sane) {server : Server Unit}
    (hserver : server ∈ w.servers) (ids : List Nat) :
    (w.publishForServers ids).published server.id =
      if server.id ∈ ids ∧ publishesFor server = true then some (w.snapshotLimits server)
      else w.published server.id := by
  simp only [publishForServers, find_server h hserver]

theorem sane_publishForServers (h : w.Sane) (ids : List Nat) :
    (w.publishForServers ids).Sane :=
  ⟨h.users, h.servers, h.subscriptions, h.owners, h.linked, h.limits⟩

theorem reached_publishForServers (h : w.Sane) {ids : List Nat}
    (hw : ∀ server ∈ w.servers, server.isActive = true → ∀ user ∈ w.users,
      w.Serves server user → server.controlMode = .pull ∧ server.id ∈ ids ∨
        w.Agrees defaults server user) :
    (w.publishForServers ids).Reached defaults := by
  intro server hserver hactive user huser hserves limits hlimits
  have hserves : w.Serves server user := hserves
  by_cases hpull : server.controlMode = .pull
  · have hlimits : (w.publishForServers ids).published server.id = some limits := by
      rwa [limitsOf, if_pos hpull] at hlimits
    have hpublishes : publishesFor server = true := by
      rw [publishesFor, hpull]
      rfl
    rw [published_publishForServers h hserver] at hlimits
    by_cases hid : server.id ∈ ids
    · rw [if_pos ⟨hid, hpublishes⟩] at hlimits
      obtain ⟨sub, hsub, howner, hlink⟩ := hserves
      rw [← Option.some.inj hlimits, Fits,
        lookup_snapshotLimits h hactive huser hsub howner (hlink hpull)]
    · rw [if_neg fun hboth => hid hboth.1] at hlimits
      have hagrees := (hw server hserver hactive user huser hserves).resolve_left
        fun hboth => hid hboth.2
      apply hagrees limits
      rwa [limitsOf, if_pos hpull]
  · have hagrees := (hw server hserver hactive user huser hserves).resolve_left
      fun hboth => hpull hboth.1
    apply hagrees limits
    rw [limitsOf, if_neg hpull] at hlimits ⊢
    exact hlimits

/-! ## Setting a limit -/

theorem mem_withLimit {user : User} {limit : Option Int} {id : Nat}
    (h : user ∈ (w.withLimit id limit).users) :
    user.id = id ∧ user.connLimit = limit ∨ user.id ≠ id ∧ user ∈ w.users := by
  obtain ⟨before, hbefore, rfl⟩ := List.mem_map.1 h
  by_cases hid : before.id = id
  · simp only [hid, if_true]
    exact .inl ⟨trivial, trivial⟩
  · simp only [hid, if_false]
    exact .inr ⟨hid, hbefore⟩

theorem withLimit_before {user : User} {limit : Option Int} {id : Nat}
    (h : user ∈ (w.withLimit id limit).users) :
    ∃ before ∈ w.users, before.id = user.id ∧
      user = if before.id = id then { before with connLimit := limit } else before := by
  obtain ⟨before, hbefore, rfl⟩ := List.mem_map.1 h
  refine ⟨before, hbefore, ?_, rfl⟩
  split <;> rfl

theorem sane_withLimit (h : w.Sane) {limit : Option Int} (id : Nat)
    (hlimit : ∀ l, limit = some l → 0 ≤ l) : (w.withLimit id limit).Sane := by
  constructor
  case users =>
    intro u hu v hv huv
    obtain ⟨u', hu', hid, rfl⟩ := withLimit_before hu
    obtain ⟨v', hv', hid', rfl⟩ := withLimit_before hv
    rw [h.users u' hu' v' hv' (hid.trans (huv.trans hid'.symm))]
  case servers => exact h.servers
  case subscriptions => exact h.subscriptions
  case owners =>
    intro sub hsub
    obtain ⟨user, huser, howner⟩ := h.owners sub hsub
    refine ⟨_, List.mem_map_of_mem huser, ?_⟩
    split <;> exact howner
  case linked => exact h.linked
  case limits =>
    intro user huser l hl
    rcases mem_withLimit huser with ⟨-, he⟩ | ⟨-, hold⟩
    · exact hlimit l (he ▸ hl)
    · exact h.limits user hold l hl

theorem mem_pushAgents {server : Server Unit} (hserver : server ∈ w.servers)
    (hactive : server.isActive = true) (hpull : server.controlMode ≠ .pull) :
    server.agent ∈ w.pushAgents := by
  have hpush : pushesTo server = true := by
    cases hmode : server.controlMode with
    | push => rw [pushesTo, hmode]; rfl
    | observe => rw [pushesTo, hmode]; rfl
    | pull => exact absurd hmode hpull
  exact List.mem_map_of_mem (List.mem_filter.2 ⟨List.mem_filter.2 ⟨hserver, hactive⟩, hpush⟩)

/-- Every active server hears of the limit: those that pull by a snapshot, the others at once. -/
theorem reached_setUserConnLimit (h : w.Sane) (hr : w.Reached defaults) (tgId : Int)
    {limit : Option Int} (saves : String → Bool) (hlimit : ∀ l, limit = some l → 0 ≤ l) :
    (w.setUserConnLimit tgId limit saves).Sane ∧
      (w.setUserConnLimit tgId limit saves).Reached defaults := by
  unfold setUserConnLimit
  cases hfind : w.users.find? fun user => user.tgId == tgId with
  | none => exact ⟨h, hr⟩
  | some user =>
    -- the pushes and the publications concern different parts of the world
    let w₁ := (w.withLimit user.id limit).pushLimit user.id limit saves
    have hs := sane_withLimit h user.id hlimit
    have hs₁ : w₁.Sane :=
      ⟨hs.users, hs.servers, hs.subscriptions, hs.owners, hs.linked, hs.limits⟩
    show (w₁.publishForServers (w.activeServers.map Server.id)).Sane ∧
      (w₁.publishForServers (w.activeServers.map Server.id)).Reached defaults
    apply And.intro (sane_publishForServers hs₁ _)
    apply reached_publishForServers hs₁
    intro server hserver hactive other hother hserves
    have hserver : server ∈ w.servers := hserver
    by_cases hpull : server.controlMode = .pull
    · exact .inl ⟨hpull, List.mem_map_of_mem (List.mem_filter.2 ⟨hserver, hactive⟩)⟩
    · apply Or.inr
      intro limits hlimits
      rw [limitsOf, if_neg hpull] at hlimits
      have hpushed : limits = setOverride (w.overrides server.agent) user.id limit := by
        rw [← Option.some.inj hlimits]
        exact if_pos (mem_pushAgents hserver hactive hpull)
      rw [hpushed, Fits]
      rcases mem_withLimit hother with ⟨hid, hset⟩ | ⟨hid, hold⟩
      · rw [hid, hset, lookup_setOverride_self hlimit]
      · rw [lookup_setOverride_ne hid]
        exact hr server hserver hactive other hold hserves _ (if_neg hpull)

/-! ## Accounts -/

theorem reached_registerUser (h : w.Sane) (hr : w.Reached defaults) (user : User) :
    (w.registerUser user).Sane ∧ (w.registerUser user).Reached defaults := by
  unfold registerUser
  split
  case isFalse => exact ⟨h, hr⟩
  case isTrue hfree =>
    have hnew : ∀ u ∈ w.users, u.id ≠ user.id := by
      intro u hu hid
      have hboth := List.all_eq_true.1 hfree u hu
      simp [hid] at hboth
    constructor
    · constructor
      case users =>
        intro u hu v hv huv
        rcases List.mem_append.1 hu with hu | hu
        · rcases List.mem_append.1 hv with hv | hv
          · exact h.users u hu v hv huv
          · rw [List.mem_singleton.1 hv] at huv
            exact absurd huv (hnew u hu)
        · rcases List.mem_append.1 hv with hv | hv
          · rw [List.mem_singleton.1 hu] at huv
            exact absurd huv.symm (hnew v hv)
          · rw [List.mem_singleton.1 hu, List.mem_singleton.1 hv]
      case servers => exact h.servers
      case subscriptions => exact h.subscriptions
      case owners =>
        intro sub hsub
        obtain ⟨u, hu, howner⟩ := h.owners sub hsub
        exact ⟨u, List.mem_append_left _ hu, howner⟩
      case linked => exact h.linked
      case limits =>
        intro u hu l hl
        rcases List.mem_append.1 hu with hu | hu
        · exact h.limits u hu l hl
        · rw [List.mem_singleton.1 hu] at hl
          cases hl
    · intro server hserver hactive u hu hserves
      rcases List.mem_append.1 hu with hu | hu
      · exact hr server hserver hactive u hu hserves
      · -- nobody has subscribed under an id that is free
        obtain ⟨sub, hsub, hid, -⟩ := hserves
        obtain ⟨owner, howner, hsame⟩ := h.owners sub hsub
        rw [List.mem_singleton.1 hu] at hid
        exact absurd (hsame.trans hid) (hnew owner howner)

theorem reached_deleteAccount (h : w.Sane) (hr : w.Reached defaults) (tgId : Int) :
    (w.deleteAccount tgId).Sane ∧ (w.deleteAccount tgId).Reached defaults := by
  unfold deleteAccount
  cases hfind : w.users.find? fun user => user.tgId == tgId with
  | none => exact ⟨h, hr⟩
  | some user =>
    have hpublished (ids : List Nat) : (w.publishForServers ids).Reached defaults :=
      reached_publishForServers h fun server hs ha u hu hv => .inr (hr server hs ha u hu hv)
    constructor
    · constructor
      case users =>
        intro u hu v hv huv
        exact h.users u (List.mem_of_mem_filter hu) v (List.mem_of_mem_filter hv) huv
      case servers => exact h.servers
      case subscriptions =>
        intro s hs t ht hst
        exact h.subscriptions s (List.mem_of_mem_filter hs) t (List.mem_of_mem_filter ht) hst
      case owners =>
        intro sub hsub
        obtain ⟨hsub, hother⟩ := List.mem_filter.1 hsub
        obtain ⟨u, hu, howner⟩ := h.owners sub hsub
        exact ⟨u, List.mem_filter.2 ⟨hu, howner ▸ hother⟩, howner⟩
      case linked =>
        intro l hl
        obtain ⟨hl, hkept⟩ := List.mem_filter.1 hl
        obtain ⟨sub, hsub, hid⟩ := h.linked l hl
        refine ⟨sub, List.mem_filter.2 ⟨hsub, ?_⟩, hid⟩
        cases howner : sub.userId != user.id with
        | true => rfl
        | false =>
          have hany : (w.subscriptions.filter fun sub => sub.userId == user.id).any
              (fun s => s.id == l.2) = true := by
            apply List.any_eq_true.2
            refine ⟨sub, List.mem_filter.2 ⟨hsub, ?_⟩, beq_iff_eq.2 hid⟩
            exact beq_iff_eq.2 (bne_eq_false_iff_eq.1 howner)
          rw [hany] at hkept
          cases hkept
      case limits => exact fun u hu => h.limits u (List.mem_of_mem_filter hu)
    · intro server hserver hactive u hu hserves
      obtain ⟨sub, hsub, howner, hlink⟩ := hserves
      exact hpublished _ server hserver hactive u (List.mem_of_mem_filter hu)
        ⟨sub, List.mem_of_mem_filter hsub, howner, fun hpull =>
          List.mem_of_mem_filter (hlink hpull)⟩

/-! ## Servers -/

theorem registered_id (row : Server Unit) : (w.registered row).id = row.id := by
  unfold registered
  split <;> rfl

/-- The script tells a node nothing of the limits, so it has to hold them before. -/
theorem reached_register (h : w.Sane) (hr : w.Reached defaults) {row : Server Unit}
    (hrow : (w.registered row).isActive = true → ∀ user ∈ w.users,
      (∃ sub ∈ w.subscriptions, sub.userId = user.id) →
        w.Agrees defaults (w.registered row) user) :
    (w.register row).Sane ∧ (w.register row).Reached defaults := by
  have hmem : ∀ server ∈ (w.register row).servers,
      server ∈ w.servers ∧ server.id ≠ row.id ∨ server = w.registered row := by
    intro server hserver
    rcases List.mem_append.1 hserver with hserver | hserver
    · obtain ⟨hold, hne⟩ := List.mem_filter.1 hserver
      exact .inl ⟨hold, bne_iff_ne.1 hne⟩
    · exact .inr (List.mem_singleton.1 hserver)
  constructor
  · constructor
    case users => exact h.users
    case servers =>
      intro s hs t ht hst
      rcases hmem s hs with ⟨hs, hsne⟩ | rfl
      · rcases hmem t ht with ⟨ht, -⟩ | rfl
        · exact h.servers s hs t ht hst
        · exact absurd (hst.trans (registered_id row)) hsne
      · rcases hmem t ht with ⟨-, htne⟩ | rfl
        · exact absurd (hst.symm.trans (registered_id row)) htne
        · rfl
    case subscriptions => exact h.subscriptions
    case owners => exact h.owners
    case linked =>
      intro l hl
      rcases List.mem_append.1 hl with hl | hl
      · exact h.linked l hl
      · obtain ⟨sub, hsub, rfl⟩ := List.mem_map.1 hl
        exact ⟨sub, hsub, rfl⟩
    case limits => exact h.limits
  · intro server hserver hactive user huser hserves
    obtain ⟨sub, hsub, howner, hlink⟩ := hserves
    rcases hmem server hserver with ⟨hold, hne⟩ | rfl
    · apply hr server hold hactive user huser
      refine ⟨sub, hsub, howner, fun hpull => ?_⟩
      rcases List.mem_append.1 (hlink hpull) with hl | hl
      · exact hl
      · obtain ⟨sub', hsub', he⟩ := List.mem_map.1 hl
        exact absurd (Prod.mk.inj he).1.symm hne
    · exact hrow hactive user huser ⟨sub, hsub, howner⟩

theorem mem_withActive {server s : Server Unit} {isActive : Bool} (h : w.Sane)
    (hserver : server ∈ w.servers) (hs : s ∈ (w.withActive server isActive).servers) :
    s = { server with isActive } ∨ s ∈ w.servers ∧ s.id ≠ server.id := by
  obtain ⟨before, hbefore, rfl⟩ := List.mem_map.1 hs
  by_cases hid : before.id = server.id
  · rw [if_pos hid, h.servers before hbefore server hserver hid]
    exact .inl rfl
  · rw [if_neg hid]
    exact .inr ⟨hbefore, hid⟩

theorem sane_withActive {server : Server Unit} {isActive : Bool} (h : w.Sane)
    (hserver : server ∈ w.servers) : (w.withActive server isActive).Sane := by
  constructor
  case users => exact h.users
  case servers =>
    intro s hs t ht hst
    rcases mem_withActive h hserver hs with rfl | ⟨hs, hsne⟩
    · rcases mem_withActive h hserver ht with rfl | ⟨-, htne⟩
      · rfl
      · exact absurd hst.symm htne
    · rcases mem_withActive h hserver ht with rfl | ⟨ht, -⟩
      · exact absurd hst hsne
      · exact h.servers s hs t ht hst
  case subscriptions => exact h.subscriptions
  case owners => exact h.owners
  case linked => exact h.linked
  case limits => exact h.limits

theorem sane_withLinks (h : w.Sane) {links : List (Nat × Nat)}
    (hlinks : ∀ l ∈ links, ∃ sub ∈ w.subscriptions, sub.id = l.2) : (w.withLinks links).Sane :=
  ⟨h.users, h.servers, h.subscriptions, h.owners, hlinks, h.limits⟩

section Access
variable {granted : Nat → Nat → Bool}

theorem reached_setServerActive (h : w.Sane) (hr : w.Reached defaults) {serverId : Nat}
    {isActive : Bool} (hback : isActive = true → ∀ server ∈ w.servers, server.id = serverId →
      server.controlMode = .pull ∧ w.relinks granted { server with isActive := true } = true ∨
        ∀ user ∈ w.users, w.Serves server user → w.Agrees defaults server user) :
    (w.setServerActive granted serverId isActive).Sane ∧
      (w.setServerActive granted serverId isActive).Reached defaults := by
  unfold setServerActive
  cases hfind : w.servers.find? fun server => server.id == serverId with
  | none => exact ⟨h, hr⟩
  | some server =>
    obtain ⟨hserver, hid⟩ := find?_key hfind
    have hs : (w.withActive server isActive).Sane := sane_withActive h hserver
    show ((w.withActive server isActive).reconcileServer granted { server with isActive }).Sane ∧
      ((w.withActive server isActive).reconcileServer granted
        { server with isActive }).Reached defaults
    unfold reconcileServer
    split
    case isTrue hrelinks =>
      have hlinks : ∀ l ∈ (w.withActive server isActive).links.filter (fun l => l.1 != server.id) ++
          (w.withActive server isActive).allowedLinks granted { server with isActive },
          l ∈ w.links ∧ l.1 ≠ server.id ∨ l.1 = server.id ∧ ∃ sub ∈ w.subscriptions,
            sub.id = l.2 := by
        intro l hl
        rcases List.mem_append.1 hl with hl | hl
        · obtain ⟨hl, hne⟩ := List.mem_filter.1 hl
          exact .inl ⟨hl, bne_iff_ne.1 hne⟩
        · obtain ⟨sub, hsub, rfl⟩ := List.mem_map.1 hl
          exact .inr ⟨rfl, sub, List.mem_of_mem_filter hsub, rfl⟩
      have hs₁ := sane_withLinks hs fun l hl => (hlinks l hl).elim
        (fun hold => h.linked l hold.1) fun hnew => hnew.2
      apply And.intro (sane_publishForServers hs₁ _)
      apply reached_publishForServers hs₁
      intro s hs hactive user huser hserves
      obtain ⟨sub, hsub, howner, hlink⟩ := hserves
      rcases mem_withActive h hserver hs with rfl | ⟨hs, hne⟩
      · by_cases hpull : server.controlMode = .pull
        · exact .inl ⟨hpull, List.mem_singleton_self _⟩
        · apply Or.inr
          rcases hback hactive server hserver hid with ⟨hmode, -⟩ | hagrees
          · exact absurd hmode hpull
          · exact hagrees user huser ⟨sub, hsub, howner, fun hmode => absurd hmode hpull⟩
      · apply Or.inr
        apply hr s hs hactive user huser
        refine ⟨sub, hsub, howner, fun hpull => ?_⟩
        rcases hlinks _ (hlink hpull) with ⟨hold, -⟩ | ⟨he, -⟩
        · exact hold
        · exact absurd he hne
    case isFalse hrelinks =>
      apply And.intro hs
      intro s hs hactive user huser hserves
      rcases mem_withActive h hserver hs with rfl | ⟨hs, hne⟩
      · have hactive : isActive = true := hactive
        subst hactive
        rcases hback rfl server hserver hid with ⟨-, hchange⟩ | hagrees
        · exact absurd hchange hrelinks
        · exact hagrees user huser hserves
      · exact hr s hs hactive user huser hserves

/-! ## Subscriptions -/

theorem reached_deliver (h : w.Sane) {sub : Subscription} (hsub : sub ∈ w.subscriptions)
    (hw : ∀ server ∈ w.servers, server.isActive = true → ∀ user ∈ w.users,
      w.Serves server user → w.Agrees defaults server user) :
    (w.deliver granted sub).Sane ∧ (w.deliver granted sub).Reached defaults := by
  have hs₁ : (w.withLinks (w.links ++ (w.servers.filter fun server =>
      accessible granted server sub.userId).map fun server => (server.id, sub.id))).Sane := by
    apply sane_withLinks h
    intro l hl
    rcases List.mem_append.1 hl with hl | hl
    · exact h.linked l hl
    · obtain ⟨server, hserver, rfl⟩ := List.mem_map.1 hl
      exact ⟨sub, hsub, rfl⟩
  apply And.intro (sane_publishForServers hs₁ _)
  apply reached_publishForServers hs₁
  intro server hserver hactive user huser hserves
  obtain ⟨sub', hsub', howner, hlink⟩ := hserves
  by_cases hpull : server.controlMode = .pull
  · rcases List.mem_append.1 (hlink hpull) with hl | hl
    · exact .inr (hw server hserver hactive user huser ⟨sub', hsub', howner, fun _ => hl⟩)
    · -- the link is new, so the server has been told
      obtain ⟨s, hs, he⟩ := List.mem_map.1 hl
      apply Or.inl
      apply And.intro hpull
      rw [← (Prod.mk.inj he).1]
      exact List.mem_map_of_mem hs
  · exact .inr (hw server hserver hactive user huser
      ⟨sub', hsub', howner, fun hmode => absurd hmode hpull⟩)

/-- A server that takes single changes is told nothing of the limit of a new subscriber. -/
theorem reached_grantSubscription (h : w.Sane) (hr : w.Reached defaults) {tgId : Int}
    {sub : Subscription} (huser : ∀ user ∈ w.users, user.tgId = tgId → ∀ server ∈ w.servers,
      server.isActive = true → server.controlMode ≠ .pull → w.Agrees defaults server user) :
    (w.grantSubscription granted tgId sub).Sane ∧
      (w.grantSubscription granted tgId sub).Reached defaults := by
  unfold grantSubscription
  cases hfind : w.users.find? fun user => user.tgId == tgId with
  | none => exact ⟨h, hr⟩
  | some user =>
    obtain ⟨hmem, htg⟩ := find?_key hfind
    cases hold : w.subscriptions.find? fun s => s.userId == user.id with
    | some old =>
      simp only [hold]
      exact reached_deliver h (List.mem_of_find?_eq_some hold) hr
    | none =>
      simp only [hold]
      split
      case isFalse => exact ⟨h, hr⟩
      case isTrue hfree =>
        have hnew : ∀ s ∈ w.subscriptions, s.id ≠ sub.id := by
          intro s hs
          exact bne_iff_ne.1 (List.all_eq_true.1 hfree s hs)
        have hs₁ : (w.withSubscription
            { sub with userId := user.id, isActive := true }).Sane := by
          constructor
          case users => exact h.users
          case servers => exact h.servers
          case subscriptions =>
            intro s hs t ht hst
            rcases List.mem_append.1 hs with hs | hs
            · rcases List.mem_append.1 ht with ht | ht
              · exact h.subscriptions s hs t ht hst
              · rw [List.mem_singleton.1 ht] at hst
                exact absurd hst (hnew s hs)
            · rcases List.mem_append.1 ht with ht | ht
              · rw [List.mem_singleton.1 hs] at hst
                exact absurd hst.symm (hnew t ht)
              · rw [List.mem_singleton.1 hs, List.mem_singleton.1 ht]
          case owners =>
            intro s hs
            rcases List.mem_append.1 hs with hs | hs
            · exact h.owners s hs
            · exact ⟨user, hmem, by rw [List.mem_singleton.1 hs]⟩
          case linked =>
            intro l hl
            obtain ⟨s, hs, hid⟩ := h.linked l hl
            exact ⟨s, List.mem_append_left _ hs, hid⟩
          case limits => exact h.limits
        apply reached_deliver hs₁ (List.mem_append_right _ (List.mem_singleton_self _))
        intro server hserver hactive other hother hserves
        obtain ⟨s, hs, howner, hlink⟩ := hserves
        rcases List.mem_append.1 hs with hs | hs
        · exact hr server hserver hactive other hother ⟨s, hs, howner, hlink⟩
        · obtain rfl := List.mem_singleton.1 hs
          have hsame : other = user := h.users other hother user hmem howner.symm
          by_cases hpull : server.controlMode = .pull
          · obtain ⟨t, ht, hid⟩ := h.linked _ (hlink hpull)
            exact absurd hid (hnew t ht)
          · rw [hsame]
            exact huser user hmem htg server hserver hactive hpull

/-! ## Runs -/

variable (defaults) (granted) in
/-- Where a step leaves the limits right: a server that is registered as active, or comes back
without being told, goes by the right limits already; so do the servers that take single changes
for a new subscriber; an agent that restarts has saved what it went by; and an agent that takes
snapshots of one server takes no single changes of another. -/
def Orderly (w : LimitWorld) : LimitEvent → Prop
  | .setUserConnLimit _ limit _ => ∀ l, limit = some l → 0 ≤ l
  | .register row => (w.registered row).isActive = true → ∀ user ∈ w.users,
      (∃ sub ∈ w.subscriptions, sub.userId = user.id) → w.Agrees defaults (w.registered row) user
  | .setServerActive serverId isActive => isActive = true → ∀ server ∈ w.servers,
      server.id = serverId → server.controlMode = .pull ∧
        w.relinks granted { server with isActive := true } = true ∨
        ∀ user ∈ w.users, w.Serves server user → w.Agrees defaults server user
  | .registerUser _ => True
  | .deleteAccount _ => True
  | .grantSubscription tgId _ => ∀ user ∈ w.users, user.tgId = tgId → ∀ server ∈ w.servers,
      server.isActive = true → server.controlMode ≠ .pull → w.Agrees defaults server user
  | .restart agent => ∀ server ∈ w.servers, server.isActive = true → server.agent = agent →
      server.controlMode ≠ .pull → ∀ user ∈ w.users,
        (∃ sub ∈ w.subscriptions, sub.userId = user.id) →
          Fits defaults (w.overridesFile agent) server user
  | .sync serverId _ => ∀ server ∈ w.servers, server.id = serverId → server.controlMode = .pull →
      ∀ other ∈ w.servers, other.isActive = true → other.agent = server.agent →
        other.controlMode = .pull

instance (w : LimitWorld) (event : LimitEvent) :
    Decidable (w.Orderly defaults granted event) :=
  match event with
  | .setUserConnLimit _ limit _ => inferInstanceAs (Decidable (∀ l ∈ limit, 0 ≤ l))
  | .register row => by dsimp only [Orderly]; infer_instance
  | .setServerActive serverId isActive => by dsimp only [Orderly]; infer_instance
  | .registerUser _ => .isTrue trivial
  | .deleteAccount _ => .isTrue trivial
  | .grantSubscription tgId _ => by dsimp only [Orderly]; infer_instance
  | .restart agent => by dsimp only [Orderly]; infer_instance
  | .sync serverId _ => by dsimp only [Orderly]; infer_instance

theorem reached_restart (h : w.Sane) (hr : w.Reached defaults) {agent : String}
    (hfile : w.Orderly defaults granted (.restart agent)) :
    (w.restart agent).Sane ∧ (w.restart agent).Reached defaults := by
  apply And.intro
    ⟨h.users, h.servers, h.subscriptions, h.owners, h.linked, h.limits⟩
  intro server hserver hactive user huser hserves limits hlimits
  have hold := hr server hserver hactive user huser hserves limits
  by_cases hpull : server.controlMode = .pull
  · rw [limitsOf, if_pos hpull] at hold hlimits
    exact hold hlimits
  · rw [limitsOf, if_neg hpull] at hold hlimits
    by_cases hagent : server.agent = agent
    · obtain ⟨sub, hsub, howner, -⟩ := hserves
      have hfits := hfile server hserver hactive hagent hpull user huser ⟨sub, hsub, howner⟩
      have hsame : (w.restart agent).overrides server.agent = w.overridesFile agent := by
        rw [hagent]
        exact Function.update_self ..
      rw [← Option.some.inj hlimits, hsame]
      exact hfits
    · apply hold
      rw [← hlimits]
      exact congrArg some (Function.update_of_ne hagent ..).symm

theorem reached_replaceOverrides (h : w.Sane) (hr : w.Reached defaults) {server : Server Unit}
    (hagent : server.controlMode = .pull → ∀ other ∈ w.servers, other.isActive = true →
      other.agent = server.agent → other.controlMode = .pull) :
    (w.replaceOverrides server).Sane ∧ (w.replaceOverrides server).Reached defaults := by
  unfold replaceOverrides
  split
  case h_1 limits hmode hlimits =>
    apply And.intro
      ⟨h.users, h.servers, h.subscriptions, h.owners, h.linked, h.limits⟩
    intro other hother hactive user huser hserves limits' hlimits'
    have hold := hr other hother hactive user huser hserves limits'
    by_cases hpull : other.controlMode = .pull
    · rw [limitsOf, if_pos hpull] at hold hlimits'
      exact hold hlimits'
    · rw [limitsOf, if_neg hpull] at hold hlimits'
      have hne : other.agent ≠ server.agent := by
        intro he
        exact hpull (hagent hmode other hother hactive he)
      apply hold
      rw [← hlimits']
      exact congrArg some (Function.update_of_ne hne ..).symm
  case h_2 => exact ⟨h, hr⟩

theorem reached_sync (h : w.Sane) (hr : w.Reached defaults) {serverId : Nat} {changed : Bool}
    (hagent : w.Orderly defaults granted (.sync serverId changed)) :
    (w.sync serverId changed).Sane ∧ (w.sync serverId changed).Reached defaults := by
  unfold sync
  cases hfind : w.servers.find? fun server => server.id == serverId with
  | none => exact ⟨h, hr⟩
  | some server =>
    obtain ⟨hserver, hid⟩ := find?_key hfind
    simp only
    split
    · apply reached_replaceOverrides (sane_publishForServers h _)
      · exact reached_publishForServers h fun s hs ha u hu hv => .inr (hr s hs ha u hu hv)
      · exact hagent server hserver hid
    · exact reached_replaceOverrides h hr (hagent server hserver hid)

theorem reached_step (h : w.Sane) (hr : w.Reached defaults) {event : LimitEvent}
    (ho : w.Orderly defaults granted event) :
    (w.step granted event).Sane ∧ (w.step granted event).Reached defaults := by
  cases event with
  | setUserConnLimit tgId limit saves => exact reached_setUserConnLimit h hr tgId saves ho
  | register row => exact reached_register h hr ho
  | setServerActive serverId isActive => exact reached_setServerActive h hr ho
  | registerUser user => exact reached_registerUser h hr user
  | deleteAccount tgId => exact reached_deleteAccount h hr tgId
  | grantSubscription tgId sub => exact reached_grantSubscription h hr ho
  | restart agent => exact reached_restart h hr ho
  | sync serverId changed => exact reached_sync h hr ho

theorem reached_start : start.Sane ∧ start.Reached defaults :=
  ⟨⟨fun _ h => absurd h List.not_mem_nil, fun _ h => absurd h List.not_mem_nil,
    fun _ h => absurd h List.not_mem_nil, fun _ h => absurd h List.not_mem_nil,
    fun _ h => absurd h List.not_mem_nil, fun _ h => absurd h List.not_mem_nil⟩,
    fun _ h => absurd h List.not_mem_nil⟩

end Access

/-- Every pull node has applied its latest snapshot. -/
def Applied (w : LimitWorld) : Prop :=
  ∀ server ∈ w.servers, server.isActive = true → server.controlMode = .pull →
    w.published server.id = some (w.overrides server.agent)

instance (w : LimitWorld) : Decidable w.Applied :=
  inferInstanceAs (Decidable (∀ server ∈ w.servers, server.isActive = true →
    server.controlMode = .pull → w.published server.id = some (w.overrides server.agent)))

/-- How an agent is configured, with the overrides that it holds. -/
def agentSettings (settings : ConnSettings) (defaults : String → Int) (w : LimitWorld)
    (agent : String) : ConnSettings :=
  { settings with connLimit := defaults agent, overrides := w.overrides agent }

/-- A server that pulls has a link to an active subscription of the user. -/
def Linked (w : LimitWorld) (server : Server Unit) (user : User) : Prop :=
  server.controlMode = .pull → ∃ sub ∈ w.subscriptions, sub.userId = user.id ∧
    (server.id, sub.id) ∈ w.links

instance (w : LimitWorld) (server : Server Unit) (user : User) :
    Decidable (w.Linked server user) :=
  inferInstanceAs (Decidable (server.controlMode = .pull → ∃ sub ∈ w.subscriptions,
    sub.userId = user.id ∧ (server.id, sub.id) ∈ w.links))

theorem Linked.serves (h : w.Linked server user) (hsub : sub ∈ w.subscriptions)
    (howner : sub.userId = user.id) : w.Serves server user := by
  by_cases hpull : server.controlMode = .pull
  · obtain ⟨linked, hlinked, huser, hlink⟩ := h hpull
    exact ⟨linked, hlinked, huser, fun _ => hlink⟩
  · exact ⟨sub, hsub, howner, fun h => absurd h hpull⟩

end Right
end LimitWorld

/-- On every active node the limit of each user with an active subscription is the one set for him,
or the default of the node. -/
theorem limit_overrides_reach (settings : ConnSettings) (hplain : settings.Plain)
    (defaults : String → Int) (granted : Nat → Nat → Bool) (events before : List LimitEvent)
    (h : Along (LimitWorld.step granted) (LimitWorld.Orderly defaults granted) .start events)
    (hp : before <+: events) (happlied : (LimitWorld.run granted before).Applied) :
    ∀ server ∈ (LimitWorld.run granted before).servers, server.isActive = true →
      ∀ user ∈ (LimitWorld.run granted before).users,
        (LimitWorld.run granted before).Linked server user →
          ∀ sub ∈ (LimitWorld.run granted before).subscriptions, sub.userId = user.id →
            ∀ suffix, limitFor ((LimitWorld.run granted before).agentSettings settings defaults
              server.agent) (subscriptionEmail sub ++ suffix) =
                .ok (user.connLimit.getD (defaults server.agent)) := by
  obtain ⟨after, rfl⟩ := hp
  have hright : (LimitWorld.run granted before).Sane ∧
      (LimitWorld.run granted before).Reached defaults := by
    apply run_invariant (I := fun w => w.Sane ∧ w.Reached defaults) LimitWorld.reached_start _
      (along_append.1 h).1
    intro w event hw ho
    exact LimitWorld.reached_step hw.1 hw.2 ho
  intro server hserver hactive user huser hlinked sub hsub howner suffix
  have hlimits : (LimitWorld.run granted before).limitsOf server =
      some ((LimitWorld.run granted before).overrides server.agent) := by
    unfold LimitWorld.limitsOf
    split
    case isTrue hpull => exact happlied server hserver hactive hpull
    case isFalse => rfl
  have hfits := hright.2 server hserver hactive user huser (hlinked.serves hsub howner) _ hlimits
  have hplain : ((LimitWorld.run granted before).agentSettings settings defaults
    server.agent).Plain := hplain
  rw [limitFor_subscription hplain, howner]
  exact congrArg Except.ok hfits

/-! ## Nodes that come later -/

section Nodes

/-- A server of a mode, with an agent of its own. -/
def limitNode (id : Nat) (agent : String) (controlMode : NodeMode) : Server Unit :=
  ⟨id, "", 443, "", "", agent, controlMode, 0, 0, none, none, .both, true, true⟩

def limitUser : User := ⟨1, 10, false, false, none⟩

def limitSub : Subscription := ⟨1, 1, "", none, "", 30, 0, 0, true⟩

theorem connSettings_plain : connSettings.Plain := by
  intro c hc
  exact ⟨hc, if_pos hc⟩

theorem limit_overrides_reach_pull :
    limitFor ((LimitWorld.run (fun _ _ => false) [.register (limitNode 1 "a" .push),
      .register (limitNode 2 "b" .pull), .registerUser limitUser,
      .setUserConnLimit 10 (some 2) fun _ => true, .grantSubscription 10 limitSub,
      .restart "a", .sync 2 false]).agentSettings connSettings (fun _ => 5) "b")
        (subscriptionEmail limitSub ++ "_dev_1") = .ok 2 := by
  have horderly : Along (LimitWorld.step fun _ _ => false)
      (LimitWorld.Orderly (fun _ => 5) fun _ _ => false) .start [
      .register (limitNode 1 "a" .push), .register (limitNode 2 "b" .pull),
      .registerUser limitUser, .setUserConnLimit 10 (some 2) fun _ => true,
      .grantSubscription 10 limitSub, .restart "a", .sync 2 false] := by
    decide
  apply limit_overrides_reach connSettings connSettings_plain (fun _ => 5) _ _ _ horderly
    List.prefix_rfl _ (limitNode 2 "b" .pull) _ rfl { limitUser with connLimit := some 2 } _ _
    limitSub _ rfl
  · decide
  · decide
  · decide
  · decide
  · decide

def setWhileAway : List LimitEvent :=
  [.register (limitNode 1 "a" .push), .registerUser limitUser, .grantSubscription 10 limitSub,
    .setServerActive 1 false, .setUserConnLimit 10 (some 2) fun _ => true,
    .setServerActive 1 true]

def registeredLater : List LimitEvent :=
  [.registerUser limitUser, .grantSubscription 10 limitSub,
    .setUserConnLimit 10 (some 2) fun _ => true, .register (limitNode 1 "a" .push)]

def idTakenAgain : List LimitEvent :=
  [.register (limitNode 1 "a" .push), .registerUser limitUser,
    .setUserConnLimit 10 (some 2) fun _ => true, .deleteAccount 10,
    .registerUser { limitUser with tgId := 11 }, .grantSubscription 11 limitSub]

/-- The node is active and the user has a subscription, but the limit is another one. -/
def LimitWorld.Misses (w : LimitWorld) (user : User) : Prop :=
  w.Applied ∧ limitNode 1 "a" .push ∈ w.servers ∧ user ∈ w.users ∧ limitSub ∈ w.subscriptions ∧
    limitFor (w.agentSettings connSettings (fun _ => 5) "a") (subscriptionEmail limitSub) ≠
      .ok (user.connLimit.getD 5)

instance (w : LimitWorld) (user : User) : Decidable (w.Misses user) :=
  inferInstanceAs (Decidable (_ ∧ _ ∧ _ ∧ _ ∧ ¬ _))

theorem limits_missed :
    (LimitWorld.run (fun _ _ => false) setWhileAway).Misses
        { limitUser with connLimit := some 2 } ∧
      (LimitWorld.run (fun _ _ => false) registeredLater).Misses
        { limitUser with connLimit := some 2 } ∧
      (LimitWorld.run (fun _ _ => false) idTakenAgain).Misses { limitUser with tgId := 11 } := by
  decide

end Nodes

end AegisVPN
