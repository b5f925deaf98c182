import AegisVPN.Agent.SubscriptionTemplates
import AegisVPN.Bot.LinkFields
import AegisVPN.Bot.SuspendedDevice
import AegisVPN.Bot.Advertised

namespace AegisVPN
open Library
set_option autoImplicit true

/-! ## What the user chooses and is shown -/

def ServerTransportPref.isFor (userId serverId : Nat) (pref : ServerTransportPref) : Bool :=
  pref.userId == userId && pref.serverId == serverId

def Catalog.pref (catalog : Catalog) (userId serverId : Nat) : Option ServerTransportPref :=
  catalog.prefs.find? (ServerTransportPref.isFor userId serverId)

/-- The protocol and the transport that the user is shown for a server. -/
def getTransportPref (db : Db D) (catalog : Catalog) (userId serverId : Nat) :
    Protocol × VlessTransport :=
  let location := catalog.location serverId
  match catalog.pref userId serverId, db.server serverId with
  | none, some _ => (.vless, defaultTransportFor location)
  | some pref, some _ => (resolveProtocol location (some pref.protocol),
      resolveTransport location (some pref.protocol) (some pref.transport))
  | _, none => (.vless, .tcp)

def resetTransportPref (catalog : Catalog) (userId serverId : Nat) : Catalog :=
  { catalog with prefs := catalog.prefs.filter fun p => !p.isFor userId serverId }

/-- A choice that is the default of the server is not stored. -/
def setTransportPref (db : Db D) (catalog : Catalog) (userId serverId : Nat)
    (protocol transport : String) : Catalog :=
  let default := if (db.server serverId).isSome then
    defaultTransportFor (catalog.location serverId) else .tcp
  if protocol = "vless" ∧ transport = default.name then
    resetTransportPref catalog userId serverId
  else if (catalog.pref userId serverId).isNone then
    { catalog with prefs := catalog.prefs ++ [⟨userId, serverId, protocol, transport⟩] }
  else
    { catalog with prefs := catalog.prefs.map fun p => if p.isFor userId serverId then
        { p with protocol := protocol, transport := transport } else p }

inductive PrefEvent (D : Type)
  | set (db : Db D) (userId serverId : Nat) (protocol transport : String)
  | reset (userId serverId : Nat)
  | relocate (location : Nat → Location)
  | retemplate (templates : Nat → Option (List SubscriptionTemplate))

def Catalog.after (catalog : Catalog) : PrefEvent D → Catalog
  | .set db userId serverId protocol transport =>
    setTransportPref db catalog userId serverId protocol transport
  | .reset userId serverId => resetTransportPref catalog userId serverId
  | .relocate location => { catalog with location := location }
  | .retemplate templates => { catalog with templates := templates }

/-- What becomes of a catalog without any choices. -/
def prefRun (location : Nat → Location) (templates : Nat → Option (List SubscriptionTemplate))
    (events : List (PrefEvent D)) : Catalog :=
  events.foldl Catalog.after ⟨location, templates, []⟩

/-! ## One row for each user and server -/

def ServerTransportPref.key (pref : ServerTransportPref) : Nat × Nat := (pref.userId, pref.serverId)

theorem isFor_iff {pref : ServerTransportPref} :
    pref.isFor userId serverId = true ↔ pref.key = (userId, serverId) := by
  simp [ServerTransportPref.isFor, ServerTransportPref.key]

def Catalog.Keyed (catalog : Catalog) : Prop := (catalog.prefs.map ServerTransportPref.key).Nodup

theorem Catalog.Keyed.reset {catalog : Catalog} (h : catalog.Keyed) (userId serverId : Nat) :
    (resetTransportPref catalog userId serverId).Keyed :=
  h.sublist (List.filter_sublist.map _)

theorem Catalog.Keyed.set {catalog : Catalog} (h : catalog.Keyed) (db : Db D)
    (userId serverId : Nat) (protocol transport : String) :
    (setTransportPref db catalog userId serverId protocol transport).Keyed := by
  rw [setTransportPref]
  generalize (if (db.server serverId).isSome = true then
    defaultTransportFor (catalog.location serverId) else VlessTransport.tcp) = default
  split
  · exact h.reset userId serverId
  split
  · rename_i hnone
    have hfree := List.find?_eq_none.1 (Option.isNone_iff_eq_none.1 hnone)
    rw [Catalog.Keyed, List.map_append, List.nodup_append']
    refine ⟨h, List.nodup_singleton _, fun key hkey hnew => ?_⟩
    obtain ⟨pref, hpref, rfl⟩ := List.mem_map.1 hkey
    exact hfree pref hpref (isFor_iff.2 (List.mem_singleton.1 hnew))
  · rw [Catalog.Keyed, List.map_map]
    have hkeys : ServerTransportPref.key ∘ (fun p : ServerTransportPref =>
        if p.isFor userId serverId then { p with protocol := protocol, transport := transport }
          else p) = ServerTransportPref.key := by
      funext p
      simp only [Function.comp_apply]
      split <;> rfl
    rw [hkeys]
    exact h

theorem Catalog.Keyed.after {catalog : Catalog} (h : catalog.Keyed) (e : PrefEvent D) :
    (catalog.after e).Keyed := by
  cases e with
  | set db userId serverId protocol transport => exact h.set db userId serverId protocol transport
  | reset userId serverId => exact h.reset userId serverId
  | relocate location => exact h
  | retemplate templates => exact h

theorem prefRun_keyed (location : Nat → Location)
    (templates : Nat → Option (List SubscriptionTemplate)) (events : List (PrefEvent D)) :
    (prefRun location templates events).Keyed := by
  have hrun : ∀ catalog : Catalog, catalog.Keyed → (events.foldl Catalog.after catalog).Keyed := by
    induction events with
    | nil => exact fun _ h => h
    | cons e events ih => exact fun catalog h => ih _ (h.after e)
  exact hrun _ List.nodup_nil

theorem Catalog.Keyed.pref_eq {catalog : Catalog} (h : catalog.Keyed)
    {pref : ServerTransportPref} (hpref : pref ∈ catalog.prefs) :
    catalog.pref pref.userId pref.serverId = some pref := by
  rw [Catalog.pref]
  cases hfind : catalog.prefs.find? (ServerTransportPref.isFor pref.userId pref.serverId) with
  | none => exact absurd (isFor_iff.2 rfl) (List.find?_eq_none.1 hfind pref hpref)
  | some found =>
    have hkey : found.key = pref.key := isFor_iff.1 (List.find?_some hfind)
    have hfound := List.mem_of_find?_eq_some hfind
    exact congrArg some (List.inj_on_of_nodup_map h hfound hpref hkey)

/-! ## What is shown and what is emitted -/

/-- The user chose Hysteria for the server, and the server can serve it. -/
def Catalog.hy2Chosen (catalog : Catalog) (userId serverId : Nat) : Prop :=
  (∃ pref, catalog.pref userId serverId = some pref ∧ pref.protocol = "hy2") ∧
    (catalog.location serverId).hy2Capable = true

theorem resolveProtocol_hy2 {location : Location} {protocol : Option String} :
    resolveProtocol location protocol = .hy2 ↔
      protocol = some "hy2" ∧ location.hy2Capable = true := by
  rw [resolveProtocol]
  split
  · rename_i h
    simp [h]
  · rename_i h
    simp [h]

theorem mem_hy2ServersForUser {catalog : Catalog} (h : catalog.Keyed) {ids : List Nat}
    (hid : serverId ∈ ids) :
    serverId ∈ hy2ServersForUser catalog userId ids ↔ catalog.hy2Chosen userId serverId := by
  rw [hy2ServersForUser, List.mem_map]
  constructor
  · rintro ⟨pref, hpref, rfl⟩
    obtain ⟨hmem, hchosen⟩ := List.mem_filter.1 hpref
    simp only [Bool.and_eq_true, beq_iff_eq, decide_eq_true_eq] at hchosen
    obtain ⟨⟨⟨rfl, -⟩, hprotocol⟩, hresolve⟩ := hchosen
    exact ⟨⟨pref, h.pref_eq hmem, hprotocol⟩, (resolveProtocol_hy2.1 hresolve).2⟩
  · rintro ⟨⟨pref, hfind, hprotocol⟩, hcapable⟩
    have hmem := List.mem_of_find?_eq_some hfind
    have hkey : pref.key = (userId, serverId) := isFor_iff.1 (List.find?_some hfind)
    obtain ⟨rfl, rfl⟩ := Prod.ext_iff.1 hkey
    refine ⟨pref, List.mem_filter.2 ⟨hmem, ?_⟩, rfl⟩
    simp only [ServerTransportPref.key, Bool.and_eq_true, beq_iff_eq, decide_eq_true_eq,
      List.contains_iff_mem]
    exact ⟨⟨⟨trivial, hid⟩, hprotocol⟩, resolveProtocol_hy2.2 ⟨congrArg some hprotocol, hcapable⟩⟩

section Shown
variable {db : Db D} {catalog : Catalog} {userId serverId : Nat} {server : Server D}

theorem getTransportPref_protocol (h : db.server serverId = some server) :
    (getTransportPref db catalog userId serverId).1 = .hy2 ↔
      catalog.hy2Chosen userId serverId := by
  rw [getTransportPref, h, Catalog.hy2Chosen]
  cases catalog.pref userId serverId with
  | none => simp
  | some pref => simp [resolveProtocol_hy2]

theorem getTransportPref_transport (h : db.server serverId = some server) :
    (getTransportPref db catalog userId serverId).2 = transportPref catalog userId serverId := by
  have hpref : catalog.prefs.find? (fun p => p.userId == userId && p.serverId == serverId) =
      catalog.pref userId serverId := rfl
  rw [getTransportPref, h, transportPref, hpref]
  cases catalog.pref userId serverId with
  | none =>
    have hfind : (availableTransports (catalog.location serverId)).find?
        (fun t => none == some t.name) = none := List.find?_eq_none.2 fun t _ => by simp
    simp only [Option.map_none, resolveTransport, hfind]
    rfl
  | some pref => rfl

end Shown

/-- The link is of this protocol; a VLESS link is also of this transport. -/
def Link.Carries (link : Link) : Protocol × VlessTransport → Prop
  | (.hy2, _) => link.scheme = "hysteria2"
  | (.vless, transport) => link.scheme = "vless" ∧ link.query.lookup "type" = some transport.name

theorem rawLink_scheme {site : Site} {nodes : String → Option LinkNode} {pulled : Nat → LinkNode}
    (hserved : site.Served nodes pulled) {server : Server D} {uuid : String} {raw : Link}
    (h : rawLink site server uuid = some raw) : raw.scheme = "vless" := by
  rw [rawLink] at h
  split at h
  · simp only [buildSubscriptionUri, Option.bind_eq_bind, Option.bind_eq_some_iff] at h
    obtain ⟨templates, -, template, -, host, -, port, -, query, -, h⟩ := h
    split at h
    · cases h
    · obtain ⟨pairs, -, h⟩ := Option.bind_eq_some_iff.1 h
      cases h
      rfl
  · rw [hserved.push] at h
    obtain ⟨node, -, h⟩ := Option.bind_eq_some_iff.1 h
    obtain ⟨i, -, rfl⟩ := subscription_eq_some h
    rfl

theorem buildHy2Link_scheme {server : Server D}
    (h : buildHy2Link texts server location uuid duplicates = some link) :
    link.scheme = "hysteria2" := by
  unfold buildHy2Link at h
  split at h
  · cases h
  · cases h
    rfl

section Emitted
variable {settings : ControlSettings D} {site : Site} {db : Db D} {nodes : String → Option LinkNode}
  {pulled : Nat → LinkNode} {sub : Subscription} {profile : Profile}
  {deviceUuid : Option String} {p : Server D × Link}

/-- The entry of a route whose label takes the place of the name of the location. -/
def Db.labelled (settings : ControlSettings D) (site : Site) (db : Db D) (sub : Subscription)
    (profile : Profile) (serverId : Nat) : Prop :=
  serverId ∈ (db.routeLabels settings (db.listedServers site sub profile)).map Prod.fst

theorem mem_hy2Servers (hkeyed : site.catalog.Keyed) {server : Server D}
    (h : server ∈ db.shownServers settings site sub profile) :
    server.id ∈ db.hy2Servers settings site sub profile ↔
      site.catalog.hy2Chosen sub.userId server.id ∧
        ¬ db.labelled settings site sub profile server.id := by
  have hid : server.id ∈ (db.shownServers settings site sub profile).map Server.id :=
    List.mem_map_of_mem h
  rw [Db.hy2Servers, List.mem_filter, mem_hy2ServersForUser hkeyed hid]
  apply and_congr_right
  intro _
  rw [Bool.not_eq_true', Bool.eq_false_iff]
  exact not_congr List.contains_iff_mem

/-- The user chose Hysteria, and nothing keeps the link from being a Hysteria link. -/
def Db.hy2Emitted (settings : ControlSettings D) (site : Site) (db : Db D) (sub : Subscription)
    (profile : Profile) (deviceUuid : Option String) (serverId : Nat) : Prop :=
  site.catalog.hy2Chosen sub.userId serverId ∧
    ¬ db.labelled settings site sub profile serverId ∧
    (deviceUuid.filter fun u => u != "").getD sub.clientUuid ≠ ""

theorem linkPairs_scheme [DecidableEq D]
    (hserved : site.Served nodes pulled) (hkeyed : site.catalog.Keyed)
    (h : p ∈ linkPairs settings site db sub profile deviceUuid) :
    (db.hy2Emitted settings site sub profile deviceUuid p.1.id ∧ p.2.scheme = "hysteria2") ∨
    (¬ db.hy2Emitted settings site sub profile deviceUuid p.1.id ∧ p.2.scheme = "vless" ∧
      p.2.query.lookup "type" = some (transportPref site.catalog sub.userId p.1.id).name) := by
  obtain ⟨hshown, hfetch⟩ := mem_linkPairs.1 h
  have hhy2 := mem_hy2Servers hkeyed hshown
  rcases fetchLink_cases hfetch with ⟨hmem, hlink⟩ | ⟨hnone, raw, hraw, hnormalized⟩
  · have huuid := mt buildHy2Link_eq_none.2 (by rw [hlink]; simp)
    obtain ⟨hchosen, hlabel⟩ := hhy2.1 hmem
    exact .inl ⟨⟨hchosen, hlabel, fun hempty => huuid fun _ => hempty⟩, buildHy2Link_scheme hlink⟩
  · have hnot : ¬ db.hy2Emitted settings site sub profile deviceUuid p.1.id := by
      rintro ⟨hchosen, hlabel, huuid⟩
      exact huuid (buildHy2Link_eq_none.1 (hnone (hhy2.2 ⟨hchosen, hlabel⟩)) hchosen.2)
    rw [hnormalized.scheme, hnormalized.query]
    exact .inr ⟨hnot, rawLink_scheme hserved hraw, normalizeQuery_type _ _ _⟩

/-- The link carries what the user is shown, except where the user chose Hysteria for the entry of
a route. -/
theorem linkPairs_carries [DecidableEq D]
    (hserved : site.Served nodes pulled) (hkeyed : site.catalog.Keyed)
    (h : p ∈ linkPairs settings site db sub profile deviceUuid) :
    p.2.Carries (getTransportPref db site.catalog sub.userId p.1.id) ↔
      ¬ (site.catalog.hy2Chosen sub.userId p.1.id ∧
        (db.labelled settings site sub profile p.1.id ∨
          (deviceUuid.filter fun u => u != "").getD sub.clientUuid = "")) := by
  obtain ⟨server, hserver⟩ : ∃ server, db.server p.1.id = some server := by
    have hmem := (mem_shownServers (mem_linkPairs.1 h).1).1
    exact Option.isSome_iff_exists.1 (List.find?_isSome.2 ⟨p.1, hmem, beq_self_eq_true _⟩)
  have hprotocol : _ ↔ site.catalog.hy2Chosen sub.userId _ := getTransportPref_protocol hserver
  have htransport : (getTransportPref db site.catalog sub.userId _).2 = _ :=
    getTransportPref_transport hserver
  have hscheme := linkPairs_scheme hserved hkeyed h
  cases hshown : getTransportPref db site.catalog sub.userId p.1.id with
  | mk protocol transport =>
  rw [hshown] at hprotocol htransport
  subst htransport
  cases protocol with
  | hy2 =>
    have hchosen := hprotocol.1 rfl
    rcases hscheme with ⟨hemitted, hscheme⟩ | ⟨hemitted, hscheme, -⟩
    · exact iff_of_true hscheme fun hnot => hnot.2.elim hemitted.2.1 hemitted.2.2
    · have hvless : ¬ p.2.scheme = "hysteria2" := by
        rw [hscheme]
        decide
      exact iff_of_false hvless fun hnot =>
        hemitted ⟨hchosen, not_or.1 fun hlabel => hnot ⟨hchosen, hlabel⟩⟩
  | vless =>
    have hchosen : ¬ site.catalog.hy2Chosen sub.userId p.1.id := fun hhy2 => by
      cases hprotocol.2 hhy2
    rcases hscheme with ⟨hemitted, -⟩ | ⟨-, hscheme⟩
    · exact absurd hemitted.1 hchosen
    · exact iff_of_true hscheme fun hnot => hchosen hnot.1

end Emitted

/-- Whatever was chosen and reset and however the servers changed: what the user is shown for a
server is what its link carries, unless the user chose Hysteria and the server is the entry of a
route that is advertised. -/
theorem transport_pref_emitted [DecidableEq D] (settings : ControlSettings D) (site : Site)
    (nodes : String → Option LinkNode) (pulled : Nat → LinkNode)
    (hserved : site.Served nodes pulled) (location : Nat → Location)
    (templates : Nat → Option (List SubscriptionTemplate)) (events : List (PrefEvent D))
    (hrun : site.catalog = prefRun location templates events) (db : Db D) (sub : Subscription)
    (profile : Profile) (deviceUuid : Option String) :
    ∀ p ∈ linkPairs settings site db sub profile deviceUuid,
      (p.2.Carries (getTransportPref db site.catalog sub.userId p.1.id) ↔
        ¬ (site.catalog.hy2Chosen sub.userId p.1.id ∧
          (db.labelled settings site sub profile p.1.id ∨
            (deviceUuid.filter fun u => u != "").getD sub.clientUuid = ""))) := by
  intro p hp
  have hkeyed : site.catalog.Keyed := by
    rw [hrun]
    exact prefRun_keyed location templates events
  exact linkPairs_carries hserved hkeyed hp

/-- A node with one XHTTP inbound. -/
def xhttpNode : LinkNode where
  settings := ⟨"pk", "sid", "firefox", 443, none, "grpc", "gateway.icloud.com", "203.0.113.1", none,
    some "xudp", "/", "auto"⟩
  inbounds := [⟨⟨some "vless-in", some 443, "vless", some "xhttp", []⟩, ["gateway.icloud.com"],
    some "/x", some "auto", none⟩]

def hy2Location : Location :=
  ⟨"finland", "fi", "safe", false, 0, none, true, some 8443, some "hy2.example.org", none, none,
    none⟩

/-- Users who have chosen Hysteria for the servers. -/
def hy2Site (events : List (PrefEvent (List DesiredItem))) : Site where
  texts := curlTexts
  catalog := prefRun (fun _ => hy2Location) (fun _ => some xhttpNode.subscriptionTemplates) events
  fetch := fun _ _ _ => none
  loadProbe := none

def onOneServer (role : NodeRole) (acks : List CascadeRouteAck) : Db (List DesiredItem) :=
  { oneRouteDb with
    servers := [{ cascadeServer 1 with nodeRole := role }, cascadeServer 2]
    users := [⟨1, 11, false, false, none⟩]
    subscriptions := [oneRow none]
    links := [⟨1, 1, true⟩]
    acks := acks }

/-- Both servers of the route have acknowledged it. -/
def routeAcks : List CascadeRouteAck := [⟨1, 1, 1, "1", 1⟩, ⟨1, 2, 1, "1", 1⟩]

def choosesHy2 : List (PrefEvent (List DesiredItem)) :=
  [.set (onOneServer .entry routeAcks) 1 1 "hy2" "xhttp"]

theorem hy2Site_served : (hy2Site choosesHy2).Served (fun _ => none) fun _ => xhttpNode where
  push := fun _ _ _ => rfl
  pull := fun _ _ h => (Option.some.inj h).symm

theorem transport_pref_emitted_direct : ∃ link,
    linkPairs revisionSettings (hy2Site choosesHy2) (onOneServer .both []) (oneRow none) .safe
      none = [({ cascadeServer 1 with nodeRole := .both }, link)] ∧
    link.Carries (getTransportPref (onOneServer .both []) (hy2Site choosesHy2).catalog 1 1) := by
  have hpairs : linkPairs revisionSettings (hy2Site choosesHy2) (onOneServer .both []) (oneRow none)
      .safe none = [({ cascadeServer 1 with nodeRole := .both }, ⟨"hysteria2", "u1", "203.0.113.1",
        some 8443, "", [("sni", "hy2.example.org")], "fi finland"⟩)] := by decide
  have hcarries := transport_pref_emitted revisionSettings (hy2Site choosesHy2) (fun _ => none)
    (fun _ => xhttpNode) hy2Site_served _ _ choosesHy2 rfl (onOneServer .both []) (oneRow none)
    .safe none _ (by rw [hpairs]; exact List.mem_singleton_self _)
  have hlabels : ((onOneServer .both []).routeLabels revisionSettings ((onOneServer .both
      []).listedServers (hy2Site choosesHy2) (oneRow none) .safe)).map Prod.fst = [] := by
    decide
  refine ⟨_, hpairs, hcarries.2 fun hnot => hnot.2.elim (fun hlabel => ?_) (by decide)⟩
  rw [Db.labelled, hlabels] at hlabel
  cases hlabel

/-- The user is shown Hysteria for the entry of the route, and the link is a VLESS link. -/
theorem transport_pref_ignored :
    ¬ ∀ (events : List (PrefEvent (List DesiredItem))) (db : Db (List DesiredItem)),
      ∀ p ∈ linkPairs revisionSettings (hy2Site events) db (oneRow none) .safe none,
        p.2.Carries (getTransportPref db (hy2Site events).catalog 1 p.1.id) := by
  intro hall
  have hpairs : ((linkPairs revisionSettings (hy2Site choosesHy2) (onOneServer .entry routeAcks)
      (oneRow none) .safe none).map fun p => (p.1.id, p.2.scheme)) = [(1, "vless")] := by
    decide +kernel
  have hshown : getTransportPref (onOneServer .entry routeAcks) (hy2Site choosesHy2).catalog 1 1 =
      (.hy2, .xhttp) := by decide
  obtain ⟨p, hp, hpair⟩ := List.mem_map.1 (hpairs ▸ List.mem_singleton_self (1, "vless"))
  have hcarries := hall choosesHy2 (onOneServer .entry routeAcks) p hp
  obtain ⟨hid, hscheme⟩ := Prod.ext_iff.1 hpair
  dsimp only at hid hscheme
  rw [hid, hshown] at hcarries
  exact absurd (hscheme.symm.trans hcarries) (by decide)

end AegisVPN
