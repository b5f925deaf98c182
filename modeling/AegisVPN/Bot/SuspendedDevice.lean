import AegisVPN.Bot.SubscriptionResponse

namespace AegisVPN
open Library
set_option autoImplicit true

/-! ## What a response gives away -/

/-- The secrets that the links or configs of a response authenticate with. -/
def SubscriptionResponse.credentials : SubscriptionResponse → List String
  | .links shown => shown.map Link.userinfo
  | .configs shown => shown.flatMap fun c => c.proxies.map ProxyOutbound.credential
  | _ => []

theorem mapM_some {f : α → Option β} {l : List α} {l' : List β} (h : l.mapM f = some l') :
    (∀ b, b ∈ l' ↔ ∃ a ∈ l, f a = some b) ∧ ∀ a ∈ l, ∃ b, f a = some b := by
  induction l generalizing l' with
  | nil =>
    cases h
    simp
  | cons a l ih =>
    rw [List.mapM_cons] at h
    obtain ⟨c, hc, h⟩ := Option.bind_eq_some_iff.1 h
    obtain ⟨cs, hcs, h⟩ := Option.bind_eq_some_iff.1 h
    cases h
    obtain ⟨hmem, hall⟩ := ih hcs
    refine ⟨fun b => ?_, fun x hx => ?_⟩
    · rw [List.mem_cons, hmem, eq_comm (a := b)]
      simp only [List.mem_cons, exists_eq_or_imp, hc, Option.some.injEq]
    · rcases List.mem_cons.1 hx with rfl | hx
      · exact ⟨c, hc⟩
      · exact hall x hx

section Render
variable {site : Site}

theorem linkToXrayConfig_proxy {server : Server D} {link : Link}
    (h : linkToXrayConfig site server link = some config) :
    ∃ proxy, config.proxies = [proxy] ∧ proxy.credential = link.userinfo := by
  unfold linkToXrayConfig at h
  split at h
  · unfold vlessLinkToXrayConfig at h
    split at h
    · cases h
    · cases h
      exact ⟨_, rfl, rfl⟩
  · split at h
    · unfold hy2LinkToXrayConfig at h
      split at h
      · cases h
      · cases h
        exact ⟨_, rfl, rfl⟩
    · cases h

theorem autoselect_credential {configs : List ClientConfig} {auto : ClientConfig}
    (h : buildAutoselectConfig texts loadProbe configs = some auto) (ho : o ∈ auto.proxies) :
    ∃ c ∈ configs, ∃ p ∈ c.proxies, p.credential = o.credential := by
  unfold buildAutoselectConfig at h
  split at h
  · cases h
  · cases h
    obtain ⟨i, hi, ho⟩ := List.mem_mapIdx.1 ho
    obtain ⟨c, hc, hp⟩ := List.mem_filterMap.1 (List.getElem_mem hi)
    exact ⟨c, hc, _, List.mem_of_mem_head? hp, by rw [← ho]⟩

theorem mem_credentials_render {pairs : List (Server D × Link)} :
    x ∈ (renderSubscription site ua pairs).credentials ↔ ∃ p ∈ pairs, p.2.userinfo = x := by
  have hlinks : x ∈ (SubscriptionResponse.links (pairs.map Prod.snd)).credentials ↔
      ∃ p ∈ pairs, p.2.userinfo = x := by
    simp [SubscriptionResponse.credentials]
  unfold renderSubscription
  split
  · rename_i hempty
    rw [List.isEmpty_iff.1 hempty]
    simp [SubscriptionResponse.credentials]
  split
  · unfold buildXrayJsonSubscription
    cases hconfigs : pairs.mapM fun p => linkToXrayConfig site p.1 p.2 with
    | none => exact hlinks
    | some configs =>
      obtain ⟨hmem, hall⟩ := mapM_some hconfigs
      have hown : (∃ c ∈ configs, ∃ o ∈ c.proxies, o.credential = x) ↔
          ∃ p ∈ pairs, p.2.userinfo = x := by
        constructor
        · rintro ⟨c, hc, o, ho, rfl⟩
          obtain ⟨p, hp, hpc⟩ := (hmem c).1 hc
          obtain ⟨proxy, hproxies, hcred⟩ := linkToXrayConfig_proxy hpc
          rw [hproxies] at ho
          exact ⟨p, hp, by rw [List.mem_singleton.1 ho, hcred]⟩
        · rintro ⟨p, hp, rfl⟩
          obtain ⟨c, hpc⟩ := hall p hp
          obtain ⟨proxy, hproxies, hcred⟩ := linkToXrayConfig_proxy hpc
          exact ⟨c, (hmem c).2 ⟨p, hp, hpc⟩, proxy, by rw [hproxies]; simp, hcred⟩
      rw [← hown]
      simp only [SubscriptionResponse.credentials, List.mem_flatMap, List.mem_append,
        List.mem_map, Option.mem_toList]
      constructor
      · rintro ⟨c, hc | hc, o, ho, rfl⟩
        · exact autoselect_credential hc ho
        · exact ⟨c, hc, o, ho, rfl⟩
      · rintro ⟨c, hc, o, ho, rfl⟩
        exact ⟨c, .inr hc, o, ho, rfl⟩
  · exact hlinks

end Render

/-! ## The links of a subscription -/

section Shown
variable {settings : ControlSettings D} {site : Site} {db : Db D} {sub : Subscription}

/-- No location that is shown has a link for the UUID. -/
structure NothingShown (settings : ControlSettings D) (site : Site) (db : Db D)
    (sub : Subscription) (profile : Profile) (uuid : String) : Prop where
  hysteria : ∀ s ∈ db.shownServers settings site sub profile,
    s.id ∈ db.hy2Servers settings site sub profile → uuid = ""
  templates : ∀ s ∈ db.shownServers settings site sub profile, s.controlMode = .pull →
    buildSubscriptionUri (site.catalog.templates s.id) uuid
      (targetProfile (site.catalog.location s.id)) = none
  agents : ∀ s ∈ db.shownServers settings site sub profile, s.controlMode ≠ .pull →
    site.fetch s.agent uuid (targetProfile (site.catalog.location s.id)) = none

theorem mem_shownServers {s : Server D} (h : s ∈ db.shownServers settings site sub profile) :
    s ∈ db.servers ∧ s.isActive = true ∧ db.linked s.id sub = true := by
  have hmem := (List.perm_insertionSort _ _).mem_iff.1 h
  obtain ⟨hs, hlisted⟩ := List.mem_filter.1 (List.mem_of_mem_filter hmem)
  simp only [Bool.and_eq_true, List.any_eq_true, beq_iff_eq] at hlisted
  obtain ⟨⟨⟨⟨l, hl, ⟨hsub, hserver⟩, -⟩, hactive⟩, -⟩, -⟩ := hlisted
  refine ⟨hs, hactive, List.any_eq_true.2 ⟨l, hl, ?_⟩⟩
  simp [hsub, hserver]

theorem hy2Servers_capable (h : serverId ∈ db.hy2Servers settings site sub profile) :
    (site.catalog.location serverId).hy2Capable = true := by
  obtain ⟨p, hp, rfl⟩ := List.mem_map.1 (List.mem_of_mem_filter h)
  have hpref := of_decide_eq_true (Bool.and_eq_true_iff.1 (List.mem_filter.1 hp).2).2
  rw [resolveProtocol] at hpref
  split at hpref
  · rename_i hpicked
    exact hpicked.2
  · cases hpref

theorem buildHy2Link_userinfo {server : Server D}
    (h : buildHy2Link texts server location uuid duplicates = some link) :
    link.userinfo = uuid := by
  unfold buildHy2Link at h
  split at h
  · cases h
  · cases h
    rfl

theorem buildSubscriptionUri_userinfo
    (h : buildSubscriptionUri templates uuid profile = some link) : link.userinfo = uuid := by
  simp only [buildSubscriptionUri, Option.bind_eq_bind, Option.bind_eq_some_iff] at h
  obtain ⟨_, -, _, -, _, -, _, -, _, -, h⟩ := h
  split at h
  · cases h
  · obtain ⟨_, -, h⟩ := Option.bind_eq_some_iff.1 h
    cases h
    rfl

theorem fetchLink_userinfo {server : Server D}
    (hagent : ∀ agent uuid profile link, site.fetch agent uuid profile = some link →
      link.userinfo = uuid)
    (h : fetchLink site userId uuid duplicates labels hy2 server = some link) :
    link.userinfo = uuid := by
  unfold fetchLink at h
  simp only at h
  split at h
  · rename_i direct hdirect
    cases h
    split at hdirect
    · exact buildHy2Link_userinfo hdirect
    · cases hdirect
  · obtain ⟨raw, hraw, rfl⟩ := Option.map_eq_some_iff.1 h
    have huserinfo : raw.userinfo = uuid := by
      unfold rawLink at hraw
      split at hraw
      · exact buildSubscriptionUri_userinfo hraw
      · exact hagent _ _ _ _ hraw
    split
    · exact huserinfo
    · exact huserinfo

theorem buildHy2Link_eq_none {server : Server D} :
    buildHy2Link texts server location uuid duplicates = none ↔
      (location.hy2Capable = true → uuid = "") := by
  unfold buildHy2Link
  split
  · rename_i hnot
    exact ⟨fun _ hcapable => hnot.resolve_left (by simp [hcapable]), fun _ => rfl⟩
  · rename_i hnot
    simp only [not_or, Bool.not_eq_false] at hnot
    exact ⟨fun h => (by cases h), fun h => absurd (h hnot.1) hnot.2⟩

theorem fetchLink_eq_none {server : Server D} :
    fetchLink site userId uuid duplicates labels hy2 server = none ↔
      (server.id ∈ hy2 → (site.catalog.location server.id).hy2Capable = true → uuid = "") ∧
        rawLink site server uuid = none := by
  unfold fetchLink
  simp only
  by_cases hmem : server.id ∈ hy2
  · rw [if_pos (List.contains_iff_mem.2 hmem)]
    cases hbuild : buildHy2Link site.texts server (site.catalog.location server.id) uuid
        duplicates with
    | none =>
      have hempty := buildHy2Link_eq_none.1 hbuild
      simp only [hmem, true_imp_iff, Option.map_eq_none_iff]
      exact ⟨fun h => ⟨hempty, h⟩, fun h => h.2⟩
    | some link =>
      refine ⟨fun h => (by cases h), fun ⟨h, _⟩ => ?_⟩
      rw [buildHy2Link_eq_none.2 (h hmem)] at hbuild
      cases hbuild
  · rw [if_neg fun h => hmem (List.contains_iff_mem.1 h)]
    simp [hmem]

theorem linkPairs_eq_nil : linkPairs settings site db sub profile none = [] ↔
    NothingShown settings site db sub profile sub.clientUuid := by
  have hraw : ∀ s : Server D, rawLink site s sub.clientUuid = none ↔
      (s.controlMode = .pull → buildSubscriptionUri (site.catalog.templates s.id) sub.clientUuid
        (targetProfile (site.catalog.location s.id)) = none) ∧
      (s.controlMode ≠ .pull → site.fetch s.agent sub.clientUuid
        (targetProfile (site.catalog.location s.id)) = none) := by
    intro s
    unfold rawLink
    by_cases hpull : s.controlMode = .pull <;> simp [hpull]
  simp only [linkPairs, List.filterMap_eq_nil_iff, Option.map_eq_none_iff, Option.filter_none,
    Option.getD_none, fetchLink_eq_none, hraw]
  constructor
  · intro h
    exact ⟨fun s hs hhy2 => (h s hs).1 hhy2 (hy2Servers_capable hhy2),
      fun s hs => (h s hs).2.1, fun s hs => (h s hs).2.2⟩
  · rintro ⟨hhy2, htemplates, hagents⟩ s hs
    exact ⟨fun hmem _ => hhy2 s hs hmem, htemplates s hs, hagents s hs⟩

end Shown

/-! ## A request of a suspended device -/

section Request
variable [DecidableEq D] {settings : ControlSettings D} {site : Site}

/-- A suspended device leaves the database as it is, and its UUID is not passed on. -/
theorem requestingDevice_run {w w' : Solo (Db D)} {sub : Subscription} (hua : ua ≠ "")
    (h : (requestingDevice settings site (some sub) ua).run Solo.serve w = (.ok uuid, w'))
    (hdevice : scalarOneOrNone (w.view.devicesOfUa site.texts sub ua) = .ok (some device))
    (hsuspended : device.isSuspended = true) :
    uuid = none ∧ w' = { w with
      committed := w.view, outside.times := Solo.next w.outside.times } := by
  rw [requestingDevice, if_neg hua] at h
  obtain ⟨found, w₁, hfound, h₁⟩ := Prog.exists_run_bind h
  obtain ⟨now, w₂, hclock, h₂⟩ := Prog.exists_run_bind hfound
  cases hclock
  obtain ⟨row, w₃, hrow, h₃⟩ := Prog.exists_run_bind h₂
  obtain ⟨hq, hw₃⟩ := queryOne_run hrow
  cases hdevice.symm.trans hq
  cases h₃
  obtain ⟨_, w₄, hcommit, h₄⟩ := Prog.exists_run_bind h₁
  cases hcommit
  rw [hw₃] at h₄
  cases h₄
  refine ⟨if_pos hsuspended, rfl⟩

theorem collectLinks_run {w w' : Solo (Db D)} {sub : Subscription}
    (h : (collectLinks settings token).run Solo.serve w = (.ok live, w'))
    (hsub : getSubscriptionByToken w.view token = .ok (some sub)) :
    (sub.expiresAt ≤ w.outside.times 0 ∧ live = false) ∨
      (w.outside.times 0 < sub.expiresAt ∧ live = true ∧ w'.view = w.view ∧
        w'.committed = w.committed) := by
  obtain ⟨found, w₁, hfound, h₁⟩ := Prog.exists_run_bind h
  obtain ⟨hq, hw₁⟩ := queryOne_run hfound
  cases hsub.symm.trans hq
  obtain ⟨now, w₂, hclock, h₂⟩ := Prog.exists_run_bind h₁
  cases hclock
  rw [hw₁] at h₂
  simp only at h₂
  split at h₂
  · rename_i hexpired
    obtain ⟨_, w₃, -, h₃⟩ := Prog.exists_run_bind h₂
    obtain ⟨_, w₄, -, h₄⟩ := Prog.exists_run_bind h₃
    cases h₄
    exact .inl ⟨hexpired, rfl⟩
  · rename_i hexpired
    cases h₂
    exact .inr ⟨Int.not_le.1 hexpired, rfl, rfl, rfl⟩

/-- The response to a suspended device: nothing once the subscription has expired, and otherwise
the links for the UUID of the subscription. -/
theorem subscriptionResponse_run {db : Db D} {outside : Outside}
    (h : (subscriptionResponse settings site token userAgent profile).run Solo.serve
      (.start db outside) = (.ok response, w)) (htoken : token ≠ "")
    (hsub : getSubscriptionByToken db token = .ok (some sub))
    (hua : site.texts.strip userAgent ≠ "")
    (hdevice : scalarOneOrNone (db.devicesOfUa site.texts sub (site.texts.strip userAgent)) =
      .ok (some device)) (hsuspended : device.isSuspended = true) :
    (sub.expiresAt ≤ outside.times 1 ∧ response = .notFound) ∨
      (outside.times 1 < sub.expiresAt ∧ w.committed = db ∧
        response = renderSubscription site (site.texts.strip userAgent)
          (linkPairs settings site db sub profile none)) := by
  rw [subscriptionResponse, if_neg htoken] at h
  obtain ⟨found, w₁, hfound, h₁⟩ := Prog.exists_run_bind h
  obtain ⟨hq, hw₁⟩ := queryOne_run hfound
  cases hsub.symm.trans hq
  obtain ⟨uuid, w₂, hrequest, h₂⟩ := Prog.exists_run_bind h₁
  rw [hw₁] at hrequest
  obtain ⟨huuid, hw₂⟩ := requestingDevice_run hua hrequest hdevice hsuspended
  obtain ⟨pairs, w₃, hpairs, h₃⟩ := Prog.exists_run_bind h₂
  cases h₃
  obtain ⟨live, w₄, hlive, h₄⟩ := Prog.exists_run_bind hpairs
  rw [hw₂] at hlive
  rcases collectLinks_run hlive hsub with ⟨hexpired, rfl⟩ | ⟨hlives, rfl, hview, hcommitted⟩
  · cases h₄
    exact .inl ⟨hexpired, rfl⟩
  · rw [if_pos rfl] at h₄
    cases h₄
    refine .inr ⟨hlives, hcommitted, ?_⟩
    have hdb : w₄.view = db := hview
    change renderSubscription _ _ (pairsOfToken settings site w₄.view token profile uuid) = _
    rw [pairsOfToken, hdb, hsub, huuid]

/-- A suspended device is given working credentials exactly where there is a link to give. -/
theorem suspended_device_iff {db : Db D} {outside : Outside}
    (h : (subscriptionResponse settings site token userAgent profile).run Solo.serve
      (.start db outside) = (.ok response, w))
    (hsub : getSubscriptionByToken db token = .ok (some sub))
    (hua : site.texts.strip userAgent ≠ "")
    (hdevice : scalarOneOrNone (db.devicesOfUa site.texts sub (site.texts.strip userAgent)) =
      .ok (some device)) (hsuspended : device.isSuspended = true)
    (hids : (db.servers.map Server.id).Nodup)
    (hagent : ∀ agent uuid profile link, site.fetch agent uuid profile = some link →
      link.userinfo = uuid) :
    (∀ x ∈ response.credentials, ¬ w.committed.desires settings (outside.times 1) x) ↔
      token = "" ∨ sub.expiresAt ≤ outside.times 1 ∨
        NothingShown settings site db sub profile sub.clientUuid := by
  by_cases htoken : token = ""
  · rw [subscriptionResponse, if_pos htoken] at h
    cases h
    exact ⟨fun _ => .inl htoken, fun _ x hx => by cases hx⟩
  rcases subscriptionResponse_run h htoken hsub hua hdevice hsuspended with
    ⟨hexpired, rfl⟩ | ⟨hlives, hdb, rfl⟩
  · exact ⟨fun _ => .inr (.inl hexpired), fun _ x hx => by cases hx⟩
  have hnot : ¬ sub.expiresAt ≤ outside.times 1 := Int.not_le.2 hlives
  rw [← linkPairs_eq_nil]
  constructor
  · intro hnone
    refine .inr (.inr (List.eq_nil_iff_forall_not_mem.2 fun p hp => ?_))
    obtain ⟨s, hs, hlink⟩ := List.mem_filterMap.1 hp
    obtain ⟨link, hfetch, rfl⟩ := Option.map_eq_some_iff.1 hlink
    obtain ⟨hmem, hactive, hlinked⟩ := mem_shownServers hs
    have hserver := server_of_mem hids hmem
    have hrow := List.mem_filter.1 (scalarOneOrNone_eq hsub ▸ List.mem_singleton_self sub)
    have hdesired : sub ∈ db.desiredSubscriptions s.id (outside.times 1) :=
      List.mem_filter.2 ⟨hrow.1, by
        rw [hlinked, (Bool.and_eq_true_iff.1 hrow.2).2, decide_eq_true hlives]
        rfl⟩
    refine hnone sub.clientUuid
      (mem_credentials_render.2 ⟨_, hp, fetchLink_userinfo hagent hfetch⟩) ?_
    rw [hdb]
    exact desires_iff.2 ⟨sub.id, s.id, s, hserver, hactive, sub, hdesired, rfl,
      mem_clientUuids.2 (.inl rfl)⟩
  · rintro (hempty | hexpired | hnil) x hx
    · exact absurd hempty htoken
    · exact absurd hexpired hnot
    · obtain ⟨p, hp, -⟩ := mem_credentials_render.1 hx
      rw [hnil] at hp
      cases hp

end Request

/-! ## A request of one suspended device -/

/-- The texts below have no space around them and no capital letter. -/
def curlTexts : TextOps := ⟨id, id, id, fun _ => "427e4b79b1f0fc90306cbe064b1297b2", id⟩

/-- Pull nodes that have reported how their links look, or have not. -/
def finland (templates : Option (List SubscriptionTemplate)) : Site where
  texts := curlTexts
  catalog := ⟨fun _ => ⟨"finland", "fi", "safe", false, 0, none, false, none, none, none, none,
    none⟩, fun _ => templates, []⟩
  fetch := fun _ _ _ => none
  loadProbe := none

def suspendedDevice : Device := ⟨1, 1, "d1", "427e4b79b1f0fc90306cbe064b1297b2", true, true⟩

theorem suspended_device_without_links : ∃ response w,
    (subscriptionResponse listSettings (finland none) "4be0" "curl/8.0" .safe).run Solo.serve
      (.start (oneSubscription none [suspendedDevice]) oneRotation) = (.ok response, w) ∧
    ∀ x ∈ response.credentials, ¬ w.committed.desires listSettings 0 x := by
  have hrun : ((subscriptionResponse listSettings (finland none) "4be0" "curl/8.0" .safe).run
      Solo.serve (.start (oneSubscription none [suspendedDevice]) oneRotation)).1 =
        .ok .notFound := by decide
  refine ⟨_, _, Prod.ext hrun rfl, (suspended_device_iff (Prod.ext hrun rfl) rfl (by decide) rfl
    rfl (by decide) fun _ _ _ _ h => by cases h).2 (.inr (.inr ⟨?_, fun _ _ _ => rfl,
      fun _ _ _ => rfl⟩))⟩
  intro s _ hhy2
  cases hhy2

def nodeTemplate : SubscriptionTemplate := ⟨some "safe", some "node", some 443, some []⟩

def baseLink : Link where
  scheme := "vless"
  userinfo := "u1"
  host := "node"
  port := some 443
  path := ""
  query := [("security", "reality"), ("encryption", "none"), ("fp", "chrome"), ("sni", ""),
    ("pbk", ""), ("sid", ""), ("spx", "/"), ("type", "xhttp"), ("path", "/"),
    ("mode", "packet-up")]
  fragment := "fi finland"

/-- The suspended device is given a link for the UUID of its subscription. -/
theorem suspended_device_gets_base_uuid : ∃ db w,
    getSubscriptionByToken db "4be0" = .ok (some (oneRow none)) ∧
    db.devicesOfUa curlTexts (oneRow none) "curl/8.0" = [suspendedDevice] ∧
    (subscriptionResponse listSettings (finland (some [nodeTemplate])) "4be0" "curl/8.0"
      .safe).run Solo.serve (.start db oneRotation) = (.ok (.links [baseLink]), w) ∧
    "u1" ∈ (SubscriptionResponse.links [baseLink]).credentials ∧
    w.committed.desires listSettings 0 "u1" ∧
    ¬ ∀ x ∈ (SubscriptionResponse.links [baseLink]).credentials,
      ¬ w.committed.desires listSettings 0 x := by
  have hrun : ((subscriptionResponse listSettings (finland (some [nodeTemplate])) "4be0"
      "curl/8.0" .safe).run Solo.serve (.start (oneSubscription none [suspendedDevice])
        oneRotation)).1 = .ok (.links [baseLink]) := by decide
  have hmem : "u1" ∈ (SubscriptionResponse.links [baseLink]).credentials := by decide
  have hdesired : (oneSubscription none [suspendedDevice]).desires listSettings 0 "u1" :=
    desires_iff.2 ⟨1, 1, _, rfl, rfl, oneRow none, by decide, rfl, mem_clientUuids.2 (.inl rfl)⟩
  have hdb := (subscriptionResponse_run (Prod.ext hrun rfl) (by decide) rfl (by decide) rfl
    rfl).resolve_left fun h => by cases h.2
  rw [← hdb.2.1] at hdesired
  exact ⟨_, _, rfl, by decide, Prod.ext hrun rfl, hmem, hdesired, fun h => h "u1" hmem hdesired⟩

end AegisVPN
