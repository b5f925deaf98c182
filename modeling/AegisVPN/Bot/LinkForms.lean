import AegisVPN.Bot.LinkTexts

namespace AegisVPN
open Library
set_option autoImplicit true

/-! ## Links that can be read -/

/-- A server whose host needs no quoting, with ports that are ports. -/
structure Addressed (catalog : Catalog) (server : Server D) : Prop where
  host : Unquoted server.host
  named : server.host ≠ ""
  port : server.port ≠ 0 ∧ server.port ≤ 65535
  tcpPort : ∀ port ∈ (catalog.location server.id).tcpPort, port ≤ 65535
  hy2Port : ∀ port ∈ (catalog.location server.id).hy2Port, port ≤ 65535

section Emitted
variable {site : Site} {server : Server D} {userId : Nat} {uuid : String} {link raw : Link}

theorem rawLink_plain {nodes : String → Option LinkNode} {pulled : Nat → LinkNode}
    (hserved : site.Served nodes pulled) (h : rawLink site server uuid = some raw) :
    raw.path = "" ∧ ∀ port ∈ raw.port, port ≤ 65535 := by
  rw [rawLink] at h
  split at h
  · simp only [buildSubscriptionUri, Option.bind_eq_bind, Option.bind_eq_some_iff] at h
    obtain ⟨templates, -, template, -, host, -, port, -, query, -, h⟩ := h
    split at h
    · cases h
    · rename_i hbound
      obtain ⟨pairs, -, h⟩ := Option.bind_eq_some_iff.1 h
      cases h
      refine ⟨rfl, ?_⟩
      intro port' hport'
      cases hport'
      omega
  · rw [hserved.push] at h
    obtain ⟨node, -, h⟩ := Option.bind_eq_some_iff.1 h
    rw [LinkNode.subscription] at h
    split at h
    · obtain ⟨i, -, h⟩ := Option.bind_eq_some_iff.1 h
      split at h
      · cases h
      · rename_i hbound
        cases h
        refine ⟨rfl, ?_⟩
        intro port' hport'
        cases hport'
        omega
    · cases h

theorem fetchLink_path {duplicates : List String} {labels : List (Nat × String)} {hy2 : List Nat}
    (hraw : ∀ raw, rawLink site server uuid = some raw → raw.path = "")
    (h : fetchLink site userId uuid duplicates labels hy2 server = some link) :
    link.path = "" := by
  unfold fetchLink at h
  simp only at h
  split at h
  · rename_i direct hdirect
    cases h
    split at hdirect
    · unfold buildHy2Link at hdirect
      split at hdirect
      · cases hdirect
      · cases hdirect
        rfl
    · cases hdirect
  · obtain ⟨raw, hsome, rfl⟩ := Option.map_eq_some_iff.1 h
    split
    · exact hraw raw hsome
    · exact hraw raw hsome

/-- A link to a VLESS inbound has the first of its ports that is set. -/
theorem Normalized.readablePort (hn : Normalized site userId server raw link)
    (ha : Addressed site.catalog server) (hraw : ∀ port ∈ raw.port, port ≤ 65535) :
    ∃ port, link.port = some port ∧ port ≠ 0 ∧ port ≤ 65535 := by
  rw [hn.port]
  unfold normalizeVlessUri
  simp only
  generalize hports : (if resolveTransport (site.catalog.location server.id) (some "vless")
      (some (transportPref site.catalog userId server.id).name) = .tcp then
      (site.catalog.location server.id).tcpPort.toList else []) ++ raw.port.toList ++
        [server.port] = ports
  have hbound : ∀ port ∈ ports, port ≤ 65535 := by
    intro port hport
    rw [← hports, List.mem_append, List.mem_append] at hport
    rcases hport with (hport | hport) | hport
    · split at hport
      · exact ha.tcpPort port (Option.mem_toList.1 hport)
      · cases hport
    · exact hraw port (Option.mem_toList.1 hport)
    · rw [List.mem_singleton.1 hport]
      exact ha.port.2
  cases hfind : ports.find? fun p => p != 0 with
  | none =>
    have hlast : server.port ∈ ports := hports ▸ List.mem_append_right _ (List.mem_singleton_self _)
    have hzero := List.find?_eq_none.1 hfind server.port hlast
    exact absurd ha.port.1 (by simpa using hzero)
  | some port =>
    have hset := List.find?_some hfind
    exact ⟨port, rfl, by simpa using hset, hbound port (List.mem_of_find?_eq_some hfind)⟩

end Emitted

/-! ## Links and configs -/

/-- The proxy of a VLESS link, with the name of its host in lower case. -/
structure SameVless (texts : TextOps) (link : Link) (proxy : ProxyOutbound) : Prop where
  address : proxy.address = texts.lower link.host
  port : link.port = some proxy.port
  credential : proxy.credential = link.userinfo
  flow : proxy.flow = link.query.lookup "flow"
  stream : ∃ network publicKey shortId serverName fingerprint xhttp,
    proxy.stream = .reality network publicKey shortId serverName fingerprint xhttp ∧
    link.query.lookup "type" = some network ∧ link.query.lookup "pbk" = some publicKey ∧
    link.query.lookup "sid" = some shortId ∧ link.query.lookup "sni" = some serverName ∧
    link.query.lookup "fp" = some fingerprint ∧
    link.query.lookup "path" = xhttp.map fun settings => settings.2.1

/-- The proxy of a Hysteria link: the certificate is verified by the name of the link, where
another name is shown without the blanks around it. -/
structure SameHy2 (texts : TextOps) (link : Link) (proxy : ProxyOutbound) : Prop where
  address : proxy.address = link.host
  port : link.port = some proxy.port
  auth : proxy.credential = link.userinfo
  stream : ∃ serverName verify obfs congestion sni,
    proxy.stream = .hysteria serverName verify obfs congestion ∧
    link.query.lookup "sni" = some sni ∧ link.query.lookup "obfs-password" = obfs ∧
    link.query.lookup "obfs" = obfs.map (fun _ => "salamander") ∧
    ((verify = none ∧ serverName = sni) ∨ verify = some (texts.strip sni))

/-- A config has one proxy, that of the link. -/
def Describes (texts : TextOps) (link : Link) (config : ClientConfig) : Prop :=
  ∃ proxy, config.proxies = [proxy] ∧
    ((link.scheme = "vless" ∧ SameVless texts link proxy) ∨
      (link.scheme = "hysteria2" ∧ SameHy2 texts link proxy))

theorem normalizeQuery_reality (server : Server D) (transport : VlessTransport)
    (query : List (String × String)) : let q := normalizeQuery server transport query
    q.lookup "pbk" = some server.publicKey ∧ q.lookup "sid" = some server.shortId ∧
      q.lookup "sni" = some (((dictOf query).lookup "sni").getD "") ∧
      q.lookup "fp" = some (((dictOf query).lookup "fp").getD "chrome") := by
  cases transport with
  | tcp => simp [normalizeQuery, lookup_dictPop, lookup_dictSet]
  | xhttp =>
    unfold normalizeQuery
    simp only
    rw [lookup_popEmpty _ (by decide), lookup_popEmpty _ (by decide),
      lookup_popEmpty _ (by decide), lookup_popEmpty _ (by decide)]
    simp [lookup_dictPop, lookup_dictSet]

theorem normalizeQuery_tcp_path (server : Server D) (query : List (String × String)) :
    (normalizeQuery server .tcp query).lookup "path" = none := by
  simp [normalizeQuery, lookup_dictPop]

theorem presentIn_some {d : List (String × String)} {key value : String}
    (h : d.lookup key = some value) (hvalue : value ≠ "") : presentIn d key = some value := by
  rw [presentIn, h, Option.filter_some, if_pos (by simpa using hvalue)]

theorem vless_same {texts : TextOps} (hlower : ∀ t : VlessTransport, texts.lower t.name = t.name)
    {link : Link} {server : Server D} {transport : VlessTransport}
    {query : List (String × String)} (hquery : link.query = normalizeQuery server transport query)
    (hport : link.port = some port) (hport0 : port ≠ 0) (hscheme : link.scheme = "vless")
    (label : String) (location : Location) :
    ∃ config, vlessLinkToXrayConfig texts { link with
        host := texts.lower link.host
        fragment := label } location = some config ∧ Describes texts link config := by
  have hq : dictOf link.query = link.query := by
    rw [hquery]
    exact dictOf_eq (normalizeQuery_keys server transport query)
  obtain ⟨hpbk, hsid, hsni, hfp⟩ := normalizeQuery_reality server transport query
  rw [← hquery] at hpbk hsid hsni hfp
  rw [vlessLinkToXrayConfig, if_neg (not_not.2 hscheme)]
  have hset : (link.port.filter fun p => p != 0).getD 443 = port := by
    rw [hport, Option.filter_some, if_pos (by simpa using hport0), Option.getD_some]
  refine ⟨_, rfl, _, rfl, .inl ⟨hscheme, ?_⟩⟩
  cases transport with
  | tcp =>
    obtain ⟨htype, hflow⟩ := normalizeQuery_tcp server query
    have hpath := normalizeQuery_tcp_path server query
    rw [← hquery] at htype hflow hpath
    have hnetwork : texts.lower ((presentIn link.query "type").getD "tcp") = "tcp" := by
      rw [presentIn_some htype (by decide)]
      exact hlower .tcp
    have hvision := presentIn_some hflow (by decide)
    refine ⟨rfl, hport.trans (congrArg some hset.symm), rfl, ?_, ?_⟩
    · simp [hq, hnetwork, hvision, hflow]
    · refine ⟨_, _, _, _, _, _, rfl, ?_, ?_, ?_, ?_, ?_, ?_⟩ <;>
        simp [hq, hnetwork, htype, hpath, hpbk, hsid, hsni, hfp]
  | xhttp =>
    obtain ⟨htype, hflow, hpath, -⟩ := normalizeQuery_xhttp server query
    rw [← hquery] at htype hflow hpath
    have hnetwork : texts.lower ((presentIn link.query "type").getD "tcp") = "xhttp" := by
      rw [presentIn_some htype (by decide)]
      exact hlower .xhttp
    refine ⟨rfl, hport.trans (congrArg some hset.symm), rfl, ?_, ?_⟩
    · simp [hq, hnetwork, hflow]
    · refine ⟨_, _, _, _, _, _, rfl, ?_, ?_, ?_, ?_, ?_, ?_⟩ <;>
        simp [hq, hnetwork, htype, hpath, hpbk, hsid, hsni, hfp]

theorem buildHy2Link_fields {texts : TextOps} {server : Server D} {location : Location}
    {uuid : String} {duplicates : List String} {link : Link}
    (h : buildHy2Link texts server location uuid duplicates = some link) :
    link.host = server.host ∧ link.path = "" ∧
      (∃ port, location.hy2Port = some port ∧ link.port = some port) ∧
      ∃ password : Option String, link.query = ("sni", location.hy2Sni.getD "") ::
        password.elim [] (fun p => [("obfs", "salamander"), ("obfs-password", p)]) ∧
        ∀ p ∈ password, p ≠ "" := by
  unfold buildHy2Link at h
  split at h
  · cases h
  · rename_i hnot
    simp only [not_or, Bool.not_eq_false] at hnot
    cases h
    have hport : location.hy2Port.any (fun p => p != 0) = true := by
      have hcapable := hnot.1
      simp only [Location.hy2Capable, Bool.and_eq_true] at hcapable
      exact hcapable.1.2
    refine ⟨rfl, rfl, ?_, location.hy2ObfsPassword.filter fun p => p != "", ?_, ?_⟩
    · cases hp : location.hy2Port with
      | none =>
        rw [hp] at hport
        exact absurd hport (by simp)
      | some port => exact ⟨port, rfl, rfl⟩
    · cases location.hy2ObfsPassword.filter fun p => p != "" <;> rfl
    · intro p hp
      have hfilter := (Option.mem_filter_iff.1 hp).2
      simpa using hfilter

theorem hy2_same {texts : TextOps} {link : Link} {sni : String} {password : Option String}
    (hquery : link.query = ("sni", sni) ::
      password.elim [] fun p => [("obfs", "salamander"), ("obfs-password", p)])
    (hpassword : ∀ p ∈ password, p ≠ "") (hport : link.port = some port)
    (hscheme : link.scheme = "hysteria2") (label : String) (location : Location) :
    ∃ config, hy2LinkToXrayConfig texts { link with fragment := label } location = some config ∧
      Describes texts link config := by
  have hq : dictOf link.query = link.query := by
    rw [hquery]
    cases password with
    | none => exact dictOf_eq (by simp)
    | some p => exact dictOf_eq (by simp)
  have hsni : link.query.lookup "sni" = some sni := by
    rw [hquery]
    rfl
  have hsent : link.query.lookup "obfs-password" = password := by
    rw [hquery]
    cases password with
    | none => rfl
    | some p => rfl
  have hobfs : link.query.lookup "obfs" = password.map fun _ => "salamander" := by
    rw [hquery]
    cases password with
    | none => rfl
    | some p => rfl
  have hmask : (if link.query.lookup "obfs" = some "salamander" then
      presentIn link.query "obfs-password" else none) = password := by
    rw [hobfs]
    cases password with
    | none => rfl
    | some p =>
      rw [Option.map_some, if_pos rfl]
      exact presentIn_some hsent (hpassword p rfl)
  rw [hy2LinkToXrayConfig, if_neg (not_not.2 hscheme)]
  refine ⟨_, rfl, _, rfl, .inr ⟨hscheme, rfl, ?_, rfl, ?_⟩⟩
  · rw [hport]
    rfl
  · refine ⟨_, _, _, _, sni, rfl, hsni, ?_, ?_, ?_⟩
    · simp only [hq, hmask, hsent]
    · simp only [hq, hmask]
      exact hobfs
    · simp only [hq, hsni, Option.getD_some]
      split
      · exact .inr rfl
      · exact .inl ⟨rfl, rfl⟩

theorem vless_text_starts {link : Link} (h : link.scheme = "vless") :
    "vless://".toList.isPrefixOf link.text = true := by
  have hscheme : link.scheme.toList = ['v', 'l', 'e', 's', 's'] := by rw [h]; rfl
  rw [Link.text, urlunsplit, hscheme, List.isPrefixOf_iff_prefix]
  exact List.prefix_append ['v', 'l', 'e', 's', 's', ':', '/', '/'] _

theorem hy2_text_starts {link : Link} (h : link.scheme = "hysteria2") :
    "hysteria2://".toList.isPrefixOf link.text = true := by
  have hscheme : link.scheme.toList = ['h', 'y', 's', 't', 'e', 'r', 'i', 'a', '2'] := by
    rw [h]; rfl
  rw [Link.text, urlunsplit, hscheme, List.isPrefixOf_iff_prefix]
  exact List.prefix_append ['h', 'y', 's', 't', 'e', 'r', 'i', 'a', '2', ':', '/', '/'] _

theorem hy2_not_vless {link : Link} (h : link.scheme = "hysteria2") :
    ¬ "vless://".toList.isPrefixOf link.text = true := by
  have hscheme : link.scheme.toList = 'h' :: ['y', 's', 't', 'e', 'r', 'i', 'a', '2'] := by
    rw [h]; rfl
  rw [Link.text, urlunsplit, hscheme, List.isPrefixOf_iff_prefix]
  intro hprefix
  exact absurd (List.cons_prefix_cons.1 hprefix).1 (by decide)

section Forms
variable [DecidableEq D] {settings : ControlSettings D} {site : Site} {db : Db D}
  {sub : Subscription} {profile : Profile} {deviceUuid : Option String}
  {nodes : String → Option LinkNode} {pulled : Nat → LinkNode}

theorem linkText_describes (replaced : List UInt8 → String)
    (hlower : ∀ t : VlessTransport, site.texts.lower t.name = t.name)
    (hserved : site.Served nodes pulled) (haddressed : ∀ s ∈ db.servers, Addressed site.catalog s)
    (huuid : Unquoted ((deviceUuid.filter fun u => u != "").getD sub.clientUuid))
    (hnamed : (deviceUuid.filter fun u => u != "").getD sub.clientUuid ≠ "")
    (hp : p ∈ linkPairs settings site db sub profile deviceUuid) :
    ∃ config, linkTextToXrayConfig site replaced p.1 p.2.text = some (some config) ∧
      Describes site.texts p.2 config := by
  have huserinfo := (linkPairs_userinfo hserved hp).1
  obtain ⟨hshown, hfetch⟩ := mem_linkPairs.1 hp
  have ha : Addressed site.catalog p.1 := haddressed p.1 (mem_shownServers hshown).1
  have hpath := fetchLink_path (fun raw hraw => (rawLink_plain hserved hraw).1) hfetch
  rcases fetchLink_cases hfetch with ⟨-, hlink⟩ | ⟨-, raw, hraw, hn⟩
  · obtain ⟨hhost, -, ⟨port, hlocation, hport⟩, password, hquery, hpassword⟩ :=
      buildHy2Link_fields hlink
    have hscheme := buildHy2Link_scheme hlink
    have hreadable : p.2.Readable port :=
      { path := hpath
        query := by rw [hquery]; exact List.cons_ne_nil _ _
        userinfo := huserinfo ▸ huuid
        named := huserinfo ▸ hnamed
        host := hhost ▸ ha.host
        bound := ha.hy2Port port hlocation
        port := hport }
    obtain ⟨config, hconfig, hdescribes⟩ := hy2_same hquery hpassword hport hscheme
      (labelRead replaced p.2) (site.catalog.location p.1.id)
    refine ⟨config, ?_, hdescribes⟩
    rw [linkTextToXrayConfig, if_neg (hy2_not_vless hscheme), if_pos (hy2_text_starts hscheme),
      readHy2_text replaced hreadable hscheme, Option.map_some, Option.bind_some, hconfig]
  · obtain ⟨port, hport, hport0, hbound⟩ := hn.readablePort ha (rawLink_plain hserved hraw).2
    have hscheme := hn.scheme.trans (rawLink_scheme hserved hraw)
    have hreadable : p.2.Readable port :=
      { path := hpath
        query := by
          intro hempty
          have hpbk := (normalizeQuery_reality p.1
            (transportPref site.catalog sub.userId p.1.id) raw.query).1
          rw [← hn.query, hempty] at hpbk
          cases hpbk
        userinfo := huserinfo ▸ huuid
        named := huserinfo ▸ hnamed
        host := by
          rw [hn.host, if_neg ha.named]
          exact ha.host
        bound := hbound
        port := hport }
    obtain ⟨config, hconfig, hdescribes⟩ := vless_same hlower hn.query hport hport0 hscheme
      (labelRead replaced p.2) (site.catalog.location p.1.id)
    refine ⟨config, ?_, hdescribes⟩
    rw [linkTextToXrayConfig, if_pos (vless_text_starts hscheme),
      readVless_text site.texts replaced hreadable hscheme, Option.map_some, hconfig]

omit [DecidableEq D] in
theorem xrayConfigsOf_describes {replaced : List UInt8 → String}
    {pairs : List (Server D × Link)}
    (h : ∀ p ∈ pairs, ∃ config, linkTextToXrayConfig site replaced p.1 p.2.text =
      some (some config) ∧ Describes site.texts p.2 config) :
    ∃ configs, xrayConfigsOf site replaced (pairs.map fun p => (p.1, p.2.text)) =
      some (some configs) ∧ List.Forall₂ (fun p => Describes site.texts p.2) pairs configs := by
  induction pairs with
  | nil => exact ⟨[], rfl, .nil⟩
  | cons p pairs ih =>
    obtain ⟨config, hconfig, hdescribes⟩ := h p List.mem_cons_self
    obtain ⟨configs, hconfigs, hrest⟩ := ih fun q hq => h q (List.mem_cons_of_mem _ hq)
    refine ⟨config :: configs, ?_, .cons hdescribes hrest⟩
    rw [List.map_cons, xrayConfigsOf, hconfig, hconfigs]
    rfl

omit [DecidableEq D] in
theorem links_of_buildXrayJsonTexts {replaced : List UInt8 → String}
    {pairs : List (Server D × List Char)} {body : List (List Char)}
    (h : buildXrayJsonTexts site replaced pairs = some (.links body)) :
    body = pairs.map Prod.snd := by
  rw [buildXrayJsonTexts] at h
  obtain ⟨configs, -, h⟩ := Option.map_eq_some_iff.1 h
  cases configs with
  | none =>
    cases h
    rfl
  | some configs => cases h

/-- Both forms of a subscription have the same connections, and where there are no configs the
plain links are all there. -/
theorem forms_agree (settings : ControlSettings D) (site : Site) (replaced : List UInt8 → String)
    (hlower : ∀ t : VlessTransport, site.texts.lower t.name = t.name)
    (nodes : String → Option LinkNode) (pulled : Nat → LinkNode)
    (hserved : site.Served nodes pulled) (db : Db D)
    (haddressed : ∀ s ∈ db.servers, Addressed site.catalog s) (sub : Subscription)
    (profile : Profile) (deviceUuid : Option String)
    (huuid : Unquoted ((deviceUuid.filter fun u => u != "").getD sub.clientUuid))
    (hnamed : (deviceUuid.filter fun u => u != "").getD sub.clientUuid ≠ "") :
    (∃ configs, buildXrayJsonTexts site replaced
        ((linkPairs settings site db sub profile deviceUuid).map fun p => (p.1, p.2.text)) =
      some (.json ((buildAutoselectConfig site.texts site.loadProbe configs).toList ++ configs)) ∧
      List.Forall₂ (fun p => Describes site.texts p.2)
        (linkPairs settings site db sub profile deviceUuid) configs) ∧
    ∀ (pairs : List (Server D × List Char)) body,
      buildXrayJsonTexts site replaced pairs = some (.links body) →
        body = pairs.map Prod.snd := by
  obtain ⟨configs, hconfigs, hdescribes⟩ := xrayConfigsOf_describes fun _ hp =>
    linkText_describes replaced hlower hserved haddressed huuid hnamed hp
  refine ⟨⟨configs, ?_, hdescribes⟩, fun _ _ h => links_of_buildXrayJsonTexts h⟩
  rw [buildXrayJsonTexts, hconfigs]
  rfl

end Forms

/-- One VLESS server, with that host. -/
def hostDb (host : String) : Db (List DesiredItem) :=
  { oneSubscription none [] with
    servers := [⟨1, host, 443, "pk", "0f", "", .pull, 0, 0, none, none, .both, true, true⟩] }

def hostSite : Site :=
  { hy2Site [] with
    texts := { curlTexts with lower := fun s => String.ofList (s.toList.map Char.toLower) } }

theorem hostSite_lower : ∀ t : VlessTransport, hostSite.texts.lower t.name = t.name := by
  intro t
  cases t <;> decide

theorem hostSite_served : hostSite.Served (fun _ => none) fun _ => xhttpNode :=
  ⟨fun _ _ _ => rfl, fun _ _ h => (Option.some.inj h).symm⟩

theorem hostDb_addressed {host : String} (h : Unquoted host) (hne : host ≠ "") :
    ∀ s ∈ (hostDb host).servers, Addressed hostSite.catalog s := by
  intro s hs
  rw [List.mem_singleton.1 hs]
  refine ⟨h, hne, ⟨Nat.succ_ne_zero 442, Nat.le_of_ble_eq_true rfl⟩, ?_, ?_⟩
  · intro port hport
    cases hport
  · intro port hport
    cases hport
    decide

theorem unquoted_of_all {text : String} (h : text.toList.all isUnreserved = true) :
    Unquoted text := fun c hc => List.all_eq_true.1 h c hc

theorem forms_agree_one : ∃ configs,
    buildXrayJsonTexts hostSite (fun _ => "") ((linkPairs revisionSettings hostSite
      (hostDb "fi.example.org") (oneRow none) .safe none).map fun p => (p.1, p.2.text)) =
      some (.json ((buildAutoselectConfig hostSite.texts hostSite.loadProbe configs).toList ++
        configs)) ∧ configs.length = 1 := by
  obtain ⟨⟨configs, hjson, hdescribes⟩, -⟩ := forms_agree revisionSettings hostSite
    (fun _ => "") hostSite_lower (fun _ => none) (fun _ => xhttpNode) hostSite_served
    (hostDb "fi.example.org")
    (hostDb_addressed (unquoted_of_all (by decide)) (by decide)) (oneRow none) .safe none
    (unquoted_of_all (by decide)) (by decide)
  refine ⟨configs, hjson, hdescribes.length_eq.symm.trans ?_⟩
  decide +kernel

/-- The link has the host as it is stored, the config in lower case. -/
theorem upper_case_host : ∃ p config proxy,
    linkPairs revisionSettings hostSite (hostDb "FI.example.org") (oneRow none) .safe none = [p] ∧
    p.2.host = "FI.example.org" ∧
    linkTextToXrayConfig hostSite (fun _ => "") p.1 p.2.text = some (some config) ∧
    config.proxies = [proxy] ∧ proxy.address = "fi.example.org" := by
  have hpairs : (linkPairs revisionSettings hostSite (hostDb "FI.example.org") (oneRow none) .safe
      none).map (fun p => (p.2.scheme, p.2.host)) = [("vless", "FI.example.org")] := by
    decide +kernel
  obtain ⟨p, hp, hpair⟩ := List.map_eq_singleton_iff.1 hpairs
  have hscheme : p.2.scheme = "vless" := (Prod.ext_iff.1 hpair).1
  have hhost : p.2.host = "FI.example.org" := (Prod.ext_iff.1 hpair).2
  have hmem : p ∈ linkPairs revisionSettings hostSite (hostDb "FI.example.org") (oneRow none)
      .safe none := hp ▸ List.mem_singleton_self p
  obtain ⟨config, hconfig, proxy, hproxies, hsame⟩ := linkText_describes (fun _ => "")
    hostSite_lower hostSite_served
    (hostDb_addressed (unquoted_of_all (by decide)) (by decide))
    (unquoted_of_all (by decide)) (by decide) hmem
  refine ⟨p, config, proxy, hp, hhost, hconfig, hproxies, ?_⟩
  rcases hsame with ⟨-, hvless⟩ | ⟨hhy2, -⟩
  · rw [hvless.address, hhost]
    decide
  · exact absurd (hscheme.symm.trans hhy2) (by decide)

end AegisVPN
