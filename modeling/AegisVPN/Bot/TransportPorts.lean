import AegisVPN.Bot.TransportPrefs

namespace AegisVPN
open Library
set_option autoImplicit true

/-! ## The link that a node gives -/

theorem mapM_filter_some {p : α → Bool} {l l' : List α}
    (h : (l.map some).mapM (fun o : Option α => o.filter p) = some l') : l' = l := by
  induction l generalizing l' with
  | nil =>
    cases h
    rfl
  | cons a l ih =>
    rw [List.map_cons, List.mapM_cons] at h
    obtain ⟨b, hb, h⟩ := Option.bind_eq_some_iff.1 h
    obtain ⟨bs, hbs, h⟩ := Option.bind_eq_some_iff.1 h
    cases h
    rw [ih hbs, (Option.filter_eq_some_iff.1 hb).1 |> Option.some.inj]

/-- The node that a server stands for. -/
def nodeOf (nodes : String → Option LinkNode) (pulled : Nat → LinkNode) (server : Server D) :
    Option LinkNode :=
  if server.controlMode = .pull then some (pulled server.id) else nodes server.agent

/-- The raw link of a server is made of one inbound of its node. -/
structure RawOf (node : LinkNode) (profile : Profile) (i : StreamInbound) (raw : Link) : Prop where
  port : raw.port = some (node.portFor profile i)
  query : raw.query = buildSubscriptionQuery node.settings i

theorem template_of_profile {node : LinkNode} {profile : Profile} {template : SubscriptionTemplate}
    (h : node.subscriptionTemplates.find? (fun t => t.profile == some profile.name) =
      some template) :
    ∃ i, node.findVlessInbound profile.preferred = some i ∧
      template = ⟨some profile.name, some (node.hostFor profile), some (node.portFor profile i),
        some ((buildSubscriptionQuery node.settings i).map some)⟩ := by
  have hfound := List.find?_some h
  obtain ⟨profile', -, htemplate⟩ := List.mem_filterMap.1 (List.mem_of_find?_eq_some h)
  obtain ⟨i, hfind, rfl⟩ := Option.map_eq_some_iff.1 htemplate
  have hname : profile'.name = profile.name := Option.some.inj (beq_iff_eq.1 hfound)
  have hprofile : profile' = profile := by
    cases profile' <;> cases profile <;> simp [Profile.name] at hname ⊢
  subst hprofile
  exact ⟨i, hfind, rfl⟩

theorem rawLink_inbound {site : Site} {nodes : String → Option LinkNode} {pulled : Nat → LinkNode}
    (hserved : site.Served nodes pulled) {server : Server D} {uuid : String} {raw : Link}
    (h : rawLink site server uuid = some raw) :
    ∃ node i, nodeOf nodes pulled server = some node ∧
      node.findVlessInbound (targetProfile (site.catalog.location server.id)).preferred = some i ∧
      RawOf node (targetProfile (site.catalog.location server.id)) i raw := by
  rw [rawLink] at h
  rw [nodeOf]
  split at h
  · rename_i hpull
    simp only [buildSubscriptionUri, Option.bind_eq_bind, Option.bind_eq_some_iff] at h
    obtain ⟨templates, htemplates, template, htemplate, host, -, port, hport, query, hquery, h⟩ := h
    rw [hserved.pull _ _ htemplates] at htemplate
    obtain ⟨i, hfind, rfl⟩ := template_of_profile htemplate
    cases hport
    cases hquery
    split at h
    · cases h
    · obtain ⟨pairs, hpairs, h⟩ := Option.bind_eq_some_iff.1 h
      cases h
      exact ⟨_, i, if_pos hpull, hfind, rfl, mapM_filter_some hpairs⟩
  · rename_i hpull
    rw [hserved.push] at h
    obtain ⟨node, hnode, h⟩ := Option.bind_eq_some_iff.1 h
    obtain ⟨i, hfind, rfl⟩ := subscription_eq_some h
    exact ⟨node, i, (if_neg hpull).trans hnode, hfind, rfl, rfl⟩

section Query
variable (settings : LinkSettings) (i : StreamInbound)

theorem buildSubscriptionQuery_keys :
    ((buildSubscriptionQuery settings i).map Prod.fst).Nodup := by
  rw [buildSubscriptionQuery]
  cases getTransportType i.toInbound <;> cases truthy settings.packetEncoding <;> simp

/-- The path that a link is given under the stream type of XHTTP. -/
def StreamInbound.linkPath : String :=
  match getTransportType i.toInbound with
  | .xhttp => i.path settings
  | _ => "/"

def StreamInbound.linkMode : String :=
  match getTransportType i.toInbound with
  | .xhttp => i.mode settings
  | .grpc => "gun"
  | .tcp => "packet-up"

theorem lookup_path : ((dictOf (buildSubscriptionQuery settings i)).lookup "path").getD "/" =
    i.linkPath settings := by
  rw [dictOf_eq (buildSubscriptionQuery_keys settings i), buildSubscriptionQuery,
    StreamInbound.linkPath]
  cases getTransportType i.toInbound <;> cases truthy settings.packetEncoding <;>
    simp [List.lookup_cons]

theorem lookup_mode :
    ((dictOf (buildSubscriptionQuery settings i)).lookup "mode").getD "packet-up" =
      i.linkMode settings := by
  rw [dictOf_eq (buildSubscriptionQuery_keys settings i), buildSubscriptionQuery,
    StreamInbound.linkMode]
  cases getTransportType i.toInbound <;> cases truthy settings.packetEncoding <;>
    simp [List.lookup_cons]

end Query

/-! ## The link that is emitted -/

/-- The port of a link under the stream type of XHTTP. -/
def LinkNode.xhttpLinkPort (node : LinkNode) (server : Server D) (profile : Profile)
    (i : StreamInbound) : Option Nat :=
  [node.portFor profile i, server.port].find? fun p => p != 0

/-- A link goes to the inbound whose stream type it has: that of the node for XHTTP, and the port
that the server names for TCP. -/
structure LinkAgrees (node : LinkNode) (location : Location) (link : Link) : Prop where
  tcp : link.query.lookup "type" = some "tcp" → link.port = location.tcpPort ∧
    location.servesTcp = true ∧ link.query.lookup "flow" = some "xtls-rprx-vision"
  xhttp : link.query.lookup "type" = some "xhttp" → ∃ x ∈ node.vlessInbounds,
    getTransportType x.toInbound = .xhttp ∧ link.port.isSome = true ∧ link.port = x.port ∧
    link.query.lookup "path" = some (x.path node.settings) ∧
    link.query.lookup "mode" = some (x.mode node.settings)

/-- The inbound that the node picks for the profile is an XHTTP inbound with a port of its own. If
it is another, some XHTTP inbound has the port that the link falls back to, and the path and the
mode that the bot assumes. -/
def LinkNode.ServesXhttp (node : LinkNode) (server : Server D) (profile : Profile)
    (i : StreamInbound) : Prop :=
  (getTransportType i.toInbound = .xhttp ∧ ∃ port ≠ 0, i.port = some port) ∨
  ∃ x ∈ node.vlessInbounds, getTransportType x.toInbound = .xhttp ∧
    (∃ port, node.xhttpLinkPort server profile i = some port ∧ x.port = some port) ∧
    x.path node.settings = i.linkPath node.settings ∧
    x.mode node.settings = i.linkMode node.settings

theorem xhttpLinkPort_own {node : LinkNode} {server : Server D} {i : StreamInbound} {port : Nat}
    (h : i.port = some port) (hne : port ≠ 0) :
    node.xhttpLinkPort server profile i = some port := by
  have hport : node.portFor profile i = port := by
    cases profile <;> simp [LinkNode.portFor, h, Option.filter_some, hne]
  simp [LinkNode.xhttpLinkPort, hport, hne]

/-- An XHTTP inbound that is picked serves its own links. -/
theorem servesXhttp_iff {node : LinkNode} {server : Server D} {i : StreamInbound}
    (hmem : i ∈ node.vlessInbounds) : node.ServesXhttp server profile i ↔
      ∃ x ∈ node.vlessInbounds, getTransportType x.toInbound = .xhttp ∧
        (∃ port, node.xhttpLinkPort server profile i = some port ∧ x.port = some port) ∧
        x.path node.settings = i.linkPath node.settings ∧
        x.mode node.settings = i.linkMode node.settings := by
  refine ⟨fun h => h.elim (fun hown => ?_) id, .inr⟩
  obtain ⟨htransport, port, hne, hport⟩ := hown
  refine ⟨i, hmem, htransport, ⟨port, xhttpLinkPort_own hport hne, hport⟩, ?_, ?_⟩
  · simp [StreamInbound.linkPath, htransport]
  · simp [StreamInbound.linkMode, htransport]

section Emitted
variable {site : Site} {server : Server D} {node : LinkNode} {userId : Nat} {raw link : Link}
  {i : StreamInbound}

theorem Normalized.port_eq (h : Normalized site userId server raw link) :
    link.port = ((if transportPref site.catalog userId server.id = .tcp then
      (site.catalog.location server.id).tcpPort.toList else []) ++ raw.port.toList ++
        [server.port]).find? fun p => p != 0 := by
  rw [h.port, normalizeVlessUri, transportPref_resolved]

theorem Normalized.tcp (h : Normalized site userId server raw link)
    (htransport : transportPref site.catalog userId server.id = .tcp) :
    LinkAgrees node (site.catalog.location server.id) link := by
  have hquery := h.query
  rw [htransport] at hquery
  obtain ⟨htype, hflow⟩ := normalizeQuery_tcp server raw.query
  have hserves : (site.catalog.location server.id).servesTcp = true := by
    rw [← tcp_available, ← htransport]
    exact resolveTransport_available _ _ _
  have hport : link.port = (site.catalog.location server.id).tcpPort := by
    rw [h.port_eq, if_pos htransport]
    cases htcp : (site.catalog.location server.id).tcpPort with
    | none =>
      rw [Location.servesTcp, htcp] at hserves
      cases hserves
    | some port =>
      rw [Location.servesTcp, htcp, Option.any_some] at hserves
      simp [hserves]
  constructor
  · intro _
    rw [hquery]
    exact ⟨hport, hserves, hflow⟩
  · intro hxhttp
    rw [hquery, htype] at hxhttp
    exact absurd hxhttp (by decide)

theorem Normalized.xhttp {profile : Profile} (h : Normalized site userId server raw link)
    (htransport : transportPref site.catalog userId server.id = .xhttp)
    (hraw : RawOf node profile i raw) (hmem : i ∈ node.vlessInbounds) :
    LinkAgrees node (site.catalog.location server.id) link ↔
      node.ServesXhttp server profile i := by
  have hquery := h.query
  rw [htransport] at hquery
  obtain ⟨htype, -, hpath, hmode⟩ := normalizeQuery_xhttp server raw.query
  rw [hraw.query, lookup_path] at hpath
  rw [hraw.query, lookup_mode] at hmode
  rw [hraw.query] at htype hquery
  have hport : link.port = node.xhttpLinkPort server profile i := by
    rw [h.port_eq, htransport, hraw.port]
    rfl
  rw [servesXhttp_iff hmem]
  constructor
  · intro hagrees
    obtain ⟨x, hx, hxtransport, hsome, hxport, hxpath, hxmode⟩ :=
      hagrees.xhttp (by rw [hquery, htype])
    obtain ⟨port, hsome⟩ := Option.isSome_iff_exists.1 hsome
    rw [hquery, hpath] at hxpath
    rw [hquery, hmode] at hxmode
    exact ⟨x, hx, hxtransport, ⟨port, hport ▸ hsome, hxport ▸ hsome⟩,
      (Option.some.inj hxpath).symm, (Option.some.inj hxmode).symm⟩
  · rintro ⟨x, hx, hxtransport, ⟨port, hlinked, hxport⟩, hxpath, hxmode⟩
    constructor
    · intro htcp
      rw [hquery, htype] at htcp
      exact absurd htcp (by decide)
    · intro _
      refine ⟨x, hx, hxtransport, ?_, ?_, ?_, ?_⟩
      · rw [hport, hlinked]
        rfl
      · rw [hport, hlinked, hxport]
      · rw [hquery, hpath, hxpath]
      · rw [hquery, hmode, hxmode]

end Emitted

/-- Every VLESS link of a list, whatever the group of its server, the choice of the user and the
control mode: what it says of its inbound agrees exactly if it is a TCP link, or if the inbound that
the node picks for the profile of the group serves XHTTP. -/
theorem link_transport_agrees [DecidableEq D] (settings : ControlSettings D) (site : Site)
    (nodes : String → Option LinkNode) (pulled : Nat → LinkNode)
    (hserved : site.Served nodes pulled) (db : Db D) (sub : Subscription) (profile : Profile)
    (deviceUuid : Option String) :
    ∀ p ∈ linkPairs settings site db sub profile deviceUuid, p.2.scheme = "vless" →
      ∃ node i, nodeOf nodes pulled p.1 = some node ∧
        node.findVlessInbound (targetProfile (site.catalog.location p.1.id)).preferred = some i ∧
        (LinkAgrees node (site.catalog.location p.1.id) p.2 ↔
          transportPref site.catalog sub.userId p.1.id = .tcp ∨
            node.ServesXhttp p.1 (targetProfile (site.catalog.location p.1.id)) i) := by
  intro p hp hvless
  rcases fetchLink_cases (mem_linkPairs.1 hp).2 with ⟨-, hlink⟩ | ⟨-, raw, hraw, hnormalized⟩
  · rw [buildHy2Link_scheme hlink] at hvless
    exact absurd hvless (by decide)
  · obtain ⟨node, i, hnode, hfind, hrawof⟩ := rawLink_inbound hserved hraw
    refine ⟨node, i, hnode, hfind, ?_⟩
    cases htransport : transportPref site.catalog sub.userId p.1.id with
    | tcp => exact iff_of_true (hnormalized.tcp htransport) (.inl rfl)
    | xhttp =>
      rw [hnormalized.xhttp htransport hrawof (findVlessInbound_mem hfind)]
      simp

/-- A server that is not of the group `fast` gives XHTTP links that agree, if its node has an XHTTP
inbound and the ports of its inbounds are set. -/
theorem servesXhttp_of_safe {node : LinkNode} {server : Server D} {location : Location}
    {i x : StreamInbound} (hgroup : location.subscriptionGroup ≠ "fast")
    (hfind : node.findVlessInbound (targetProfile location).preferred = some i)
    (hports : ∀ i ∈ node.vlessInbounds, ∃ port ≠ 0, i.port = some port)
    (hx : x ∈ node.vlessInbounds) (htransport : getTransportType x.toInbound = .xhttp) :
    node.ServesXhttp server (targetProfile location) i := by
  have hprofile : targetProfile location = .safe := by
    rw [targetProfile, if_neg hgroup]
  rw [hprofile] at hfind
  exact .inl ⟨findVlessInbound_transport hfind hx htransport, hports i (findVlessInbound_mem hfind)⟩

theorem xhttp_link_agrees : ∃ p, linkPairs revisionSettings (hy2Site []) (onOneServer .both [])
    (oneRow none) .safe none = [p] ∧ p.2.scheme = "vless" ∧
      LinkAgrees xhttpNode hy2Location p.2 := by
  have hpairs : (linkPairs revisionSettings (hy2Site []) (onOneServer .both []) (oneRow none)
      .safe none).map (fun p => (p.1.controlMode, p.2.scheme)) = [(.pull, "vless")] := by
    decide +kernel
  obtain ⟨p, hp, hpair⟩ := List.map_eq_singleton_iff.1 hpairs
  obtain ⟨hpull, hscheme⟩ := Prod.ext_iff.1 hpair
  have hmem : p ∈ linkPairs revisionSettings (hy2Site []) (onOneServer .both []) (oneRow none)
      .safe none := hp ▸ List.mem_singleton_self p
  obtain ⟨node, i, hnode, hfind, hagrees⟩ := link_transport_agrees revisionSettings (hy2Site [])
    (fun _ => none) (fun _ => xhttpNode) ⟨fun _ _ _ => rfl, fun _ _ h => (Option.some.inj h).symm⟩
    (onOneServer .both []) (oneRow none) .safe none p hmem hscheme
  obtain rfl := Option.some.inj ((if_pos hpull).symm.trans hnode)
  have hports : ∀ i ∈ xhttpNode.vlessInbounds, i.port = some 443 ∧
      getTransportType i.toInbound = .xhttp := by decide +kernel
  have hi := findVlessInbound_mem hfind
  have hgroup : hy2Location.subscriptionGroup ≠ "fast" := by decide
  refine ⟨p, hp, hscheme, hagrees.2 (.inr (servesXhttp_of_safe hgroup hfind ?_ hi
    (hports i hi).2))⟩
  intro i hi
  exact ⟨443, by decide, (hports i hi).1⟩

/-- A server of the group `fast` whose users have chosen. -/
def fastLocation : Location :=
  ⟨"finland", "fi", "fast", false, 0, some 8443, false, none, none, none, none, none⟩

/-- A node with an XHTTP inbound and a TCP inbound. -/
def twoInboundsNode : LinkNode :=
  { xhttpNode with
    inbounds := xhttpNode.inbounds ++ [⟨⟨some "vless-in-tcp", some 8443, "vless", some "tcp", []⟩,
      ["gateway.icloud.com"], none, none, none⟩] }

def fastSite (events : List (PrefEvent (List DesiredItem))) : Site where
  texts := curlTexts
  catalog := prefRun (fun _ => fastLocation)
    (fun _ => some twoInboundsNode.subscriptionTemplates) events
  fetch := fun _ _ _ => none
  loadProbe := none

/-- The link has the stream type of the XHTTP inbound and the port of the TCP inbound. -/
theorem xhttp_link_to_tcp_port :
    ¬ ∀ events, ∀ p ∈ linkPairs revisionSettings (fastSite events) (onOneServer .both [])
      (oneRow none) .safe none, p.2.scheme = "vless" →
        LinkAgrees twoInboundsNode fastLocation p.2 := by
  intro hall
  have hpairs : (linkPairs revisionSettings (fastSite
      [.set (onOneServer .both []) 1 1 "vless" "xhttp"]) (onOneServer .both []) (oneRow none)
      .safe none).map (fun p => (p.2.scheme, p.2.port, p.2.query.lookup "type")) =
        [("vless", some 8443, some "xhttp")] := by decide +kernel
  obtain ⟨p, hp, hpair⟩ := List.map_eq_singleton_iff.1 hpairs
  obtain ⟨hscheme, hport, htype⟩ : p.2.scheme = "vless" ∧ p.2.port = some 8443 ∧
    p.2.query.lookup "type" = some "xhttp" := by simpa using hpair
  obtain ⟨x, hx, htransport, -, hxport, -⟩ :=
    (hall _ p (hp ▸ List.mem_singleton_self p) hscheme).xhttp htype
  rw [hport] at hxport
  have hports : ∀ x ∈ twoInboundsNode.vlessInbounds, getTransportType x.toInbound = .xhttp →
      x.port = some 443 := by decide +kernel
  rw [hports x hx htransport] at hxport
  exact absurd hxport (by decide)

end AegisVPN
