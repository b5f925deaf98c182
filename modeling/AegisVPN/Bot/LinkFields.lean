import AegisVPN.Bot.SubscriptionResponse

namespace AegisVPN
open Library
set_option autoImplicit true

/-! ## Queries of links -/

theorem lookup_dictPop (d : List (String × String)) (key k : String) :
    (dictPop d key).lookup k = if k = key then none else d.lookup k := by
  have hpop := lookup_filter_key (fun k => k != key) d k
  rw [dictPop, hpop]
  by_cases hk : k = key <;> simp [hk]

theorem dictPop_keys {d : List (String × String)} (h : (d.map Prod.fst).Nodup) (key : String) :
    ((dictPop d key).map Prod.fst).Nodup :=
  h.sublist (List.filter_sublist.map _)

theorem foldl_keys {f : List (String × String) → β → List (String × String)}
    (hf : ∀ d b, (d.map Prod.fst).Nodup → ((f d b).map Prod.fst).Nodup) (l : List β)
    {d : List (String × String)} (h : (d.map Prod.fst).Nodup) :
    ((l.foldl f d).map Prod.fst).Nodup := by
  induction l generalizing d with
  | nil => exact h
  | cons b l ih => exact ih (hf d b h)

/-- What the bot sets in the query of a link whatever the transport. -/
def botParams (server : Server D) (query : List (String × String)) : List (String × String) :=
  [("security", "reality"), ("encryption", "none"),
    ("fp", ((dictOf query).lookup "fp").getD "chrome"),
    ("sni", ((dictOf query).lookup "sni").getD ""),
    ("pbk", server.publicKey), ("sid", server.shortId),
    ("spx", ((dictOf query).lookup "spx").getD "/")].foldl dictSet (dictOf query)

theorem botParams_keys (server : Server D) (query : List (String × String)) :
    ((botParams server query).map Prod.fst).Nodup :=
  foldl_keys (fun _ p h => dictSet_keys h p) _ (dictOf_keys query)

theorem normalizeQuery_keys (server : Server D) (transport : VlessTransport)
    (query : List (String × String)) :
    ((normalizeQuery server transport query).map Prod.fst).Nodup := by
  have hbase := botParams_keys server query
  cases transport with
  | tcp =>
    refine foldl_keys (fun _ key h => dictPop_keys h key) _ ?_
    exact foldl_keys (fun _ p h => dictSet_keys h p) _ hbase
  | xhttp =>
    refine foldl_keys (fun d key h => ?_) _ (foldl_keys (fun _ p h => dictSet_keys h p) _
      (foldl_keys (fun _ key h => dictPop_keys h key) _ (dictSet_keys hbase _)))
    split
    · exact dictPop_keys h key
    · exact h

theorem lookup_popEmpty (d : List (String × String)) {keys : List String} {k : String}
    (h : k ∉ keys) :
    (keys.foldl (fun d key => if (presentIn d key).isNone then dictPop d key else d) d).lookup k =
      d.lookup k := by
  induction keys generalizing d with
  | nil => rfl
  | cons key keys ih =>
    have hne := List.ne_of_not_mem_cons h
    rw [List.foldl_cons, ih _ (List.not_mem_of_not_mem_cons h)]
    split
    · rw [lookup_dictPop, if_neg hne]
    · rfl

section Query
variable (server : Server D) (query : List (String × String))

theorem normalizeQuery_tcp : let q := normalizeQuery server .tcp query
    q.lookup "type" = some "tcp" ∧ q.lookup "flow" = some "xtls-rprx-vision" := by
  simp [normalizeQuery, lookup_dictPop, lookup_dictSet]

theorem normalizeQuery_xhttp : let q := normalizeQuery server .xhttp query
    q.lookup "type" = some "xhttp" ∧ q.lookup "flow" = none ∧
      q.lookup "path" = some (((dictOf query).lookup "path").getD "/") ∧
      q.lookup "mode" = some (((dictOf query).lookup "mode").getD "packet-up") := by
  unfold normalizeQuery
  simp only
  rw [lookup_popEmpty _ (by decide), lookup_popEmpty _ (by decide), lookup_popEmpty _ (by decide),
    lookup_popEmpty _ (by decide)]
  simp [lookup_dictPop, lookup_dictSet]

theorem normalizeQuery_type (transport : VlessTransport) :
    (normalizeQuery server transport query).lookup "type" = some transport.name := by
  cases transport with
  | tcp => exact (normalizeQuery_tcp server query).1
  | xhttp => exact (normalizeQuery_xhttp server query).1

end Query

/-! ## Transports -/

theorem resolveTransport_available (location : Location) (protocol transport : Option String) :
    resolveTransport location protocol transport ∈ availableTransports location := by
  have hdefault : defaultTransportFor location ∈ availableTransports location := by
    rw [defaultTransportFor, availableTransports]
    split <;> exact List.mem_cons_self
  rw [resolveTransport]
  split
  · exact hdefault
  · cases hfind : (availableTransports location).find? fun t => transport == some t.name with
    | none => exact hdefault
    | some t => exact List.mem_of_find?_eq_some hfind

theorem resolveTransport_name {location : Location} {transport : VlessTransport}
    (h : transport ∈ availableTransports location) :
    resolveTransport location (some "vless") (some transport.name) = transport := by
  rw [availableTransports] at h
  cases hserves : location.servesTcp with
  | true => cases transport <;> simp [resolveTransport, availableTransports, hserves,
      VlessTransport.name]
  | false =>
    rw [hserves] at h
    obtain rfl := List.mem_singleton.1 h
    simp [resolveTransport, availableTransports, hserves, VlessTransport.name]

theorem tcp_available {location : Location} :
    .tcp ∈ availableTransports location ↔ location.servesTcp = true := by
  rw [availableTransports]
  cases location.servesTcp <;> simp

/-! ## The link of a location -/

section Emitted
variable {site : Site} {server : Server D} {userId : Nat} {uuid : String}
  {duplicates : List String} {labels : List (Nat × String)} {hy2 : List Nat} {link : Link}

/-- The link was made of what the node gives for the transport that the user chose. -/
structure Normalized (site : Site) (userId : Nat) (server : Server D) (raw link : Link) : Prop where
  scheme : link.scheme = raw.scheme
  userinfo : link.userinfo = raw.userinfo
  host : link.host = if server.host = "" then raw.host else server.host
  port : link.port = (normalizeVlessUri site.texts raw server (site.catalog.location server.id) []
    (transportPref site.catalog userId server.id)).port
  query : link.query = normalizeQuery server (transportPref site.catalog userId server.id) raw.query

theorem transportPref_resolved (catalog : Catalog) (userId serverId : Nat) :
    resolveTransport (catalog.location serverId) (some "vless")
      (some (transportPref catalog userId serverId).name) =
        transportPref catalog userId serverId :=
  resolveTransport_name (resolveTransport_available _ _ _)

/-- The link of a location is the Hysteria link, where the user chose it and it can be made, and
else what the node gives under the parameters of the bot. -/
theorem fetchLink_cases (h : fetchLink site userId uuid duplicates labels hy2 server = some link) :
    (server.id ∈ hy2 ∧ buildHy2Link site.texts server (site.catalog.location server.id) uuid
      duplicates = some link) ∨
    ((server.id ∈ hy2 → buildHy2Link site.texts server (site.catalog.location server.id) uuid
      duplicates = none) ∧
      ∃ raw, rawLink site server uuid = some raw ∧ Normalized site userId server raw link) := by
  unfold fetchLink at h
  simp only at h
  split at h
  · rename_i direct hdirect
    cases h
    split at hdirect
    · rename_i hmem
      exact .inl ⟨List.contains_iff_mem.1 hmem, hdirect⟩
    · cases hdirect
  · rename_i hnone
    obtain ⟨raw, hraw, rfl⟩ := Option.map_eq_some_iff.1 h
    refine .inr ⟨fun hmem => ?_, raw, hraw, ?_⟩
    · rw [if_pos (List.contains_iff_mem.2 hmem)] at hnone
      exact hnone
    · have hquery := transportPref_resolved site.catalog userId server.id
      split
      · exact ⟨rfl, rfl, rfl, rfl, by simp only [replaceLinkLabel, normalizeVlessUri, hquery]⟩
      · exact ⟨rfl, rfl, rfl, rfl, by simp only [normalizeVlessUri, hquery]⟩

end Emitted

theorem mem_linkPairs [DecidableEq D] {settings : ControlSettings D} {site : Site} {db : Db D}
    {sub : Subscription} {profile : Profile} {deviceUuid : Option String} {p : Server D × Link} :
    p ∈ linkPairs settings site db sub profile deviceUuid ↔
      p.1 ∈ db.shownServers settings site sub profile ∧
      fetchLink site sub.userId ((deviceUuid.filter fun u => u != "").getD sub.clientUuid)
        (duplicateNameKeys site (db.shownServers settings site sub profile))
        (db.routeLabels settings (db.listedServers site sub profile))
        (db.hy2Servers settings site sub profile) p.1 = some p.2 := by
  rw [linkPairs, List.mem_filterMap]
  constructor
  · rintro ⟨s, hs, hlink⟩
    obtain ⟨link, hfetch, rfl⟩ := Option.map_eq_some_iff.1 hlink
    exact ⟨hs, hfetch⟩
  · rintro ⟨hs, hlink⟩
    exact ⟨p.1, hs, by rw [hlink]; rfl⟩

end AegisVPN
