import AegisVPN.Agent.LoadProbe
import AegisVPN.Bot.TransportPrefs

namespace AegisVPN
open Library
set_option autoImplicit true

/-! ## The id in a URL -/

theorem pathOfUrl_autoselect {host : String} (hhost : ∀ c ∈ host.toList, c ≠ '/')
    (probe : String) :
    (pathOfUrl s!"http://{host}/p/{probe}").toList = "/p/".toList ++ probe.toList := by
  have hurl : (s!"http://{host}/p/{probe}").toList =
      "http://".toList ++ (host.toList ++ ("/p/".toList ++ probe.toList)) := by
    simp [String.toList_append, List.append_assoc, toString]
  have hdrop : ("http://".toList ++ (host.toList ++ ("/p/".toList ++ probe.toList))).drop
      "http://".length = host.toList ++ ("/p/".toList ++ probe.toList) := List.drop_left
  rw [pathOfUrl, hurl, hdrop, String.toList_ofList, List.dropWhile_append_of_pos]
  · rfl
  · intro c hc
    simpa using hhost c hc

theorem requestedProbeId_autoselect {host probe : String} (hhost : ∀ c ∈ host.toList, c ≠ '/')
    (hlength : probe.length ≤ 16) :
    requestedProbeId (pathOfUrl s!"http://{host}/p/{probe}") = probe := by
  have hpath := pathOfUrl_autoselect hhost probe
  have htake : (("/p/".toList ++ probe.toList).take 19).drop 3 = probe.toList := by
    rw [List.take_of_length_le]
    · rfl
    · simp only [List.length_append, String.length_toList]
      exact Nat.add_le_add_left hlength 3
  rw [requestedProbeId, hpath, if_pos (List.prefix_append _ _), htake, String.ofList_toList]

/-! ## The configs of a subscription -/

theorem mapM_total {f : α → Option β} {l : List α} (h : ∀ a ∈ l, ∃ b, f a = some b) :
    ∃ l', l.mapM f = some l' := by
  induction l with
  | nil => exact ⟨[], rfl⟩
  | cons a l ih =>
    obtain ⟨b, hb⟩ := h a List.mem_cons_self
    obtain ⟨l', hl'⟩ := ih fun a ha => h a (List.mem_cons_of_mem _ ha)
    exact ⟨b :: l', by simp [List.mapM_cons, hb, hl']⟩

theorem linkToXrayConfig_total {site : Site} {server : Server D} {link : Link}
    (h : link.scheme = "vless" ∨ link.scheme = "hysteria2") :
    ∃ config, linkToXrayConfig site server link = some config := by
  rw [linkToXrayConfig]
  rcases h with h | h
  · simp [h, vlessLinkToXrayConfig]
  · simp [h, hy2LinkToXrayConfig]

/-- The id that a link gives to the health checks, if it is the first. -/
def probeOfLink (texts : TextOps) (link : Link) : String :=
  if link.scheme = "vless" ∧ link.userinfo ≠ "" then texts.probeId link.userinfo else "anon"

/-- The id that the health checks carry is that of the first proxy, and only a VLESS proxy has
one. -/
theorem autoselectProbeUrl_first {site : Site} {server : Server D} {link : Link}
    {config : ClientConfig} {host : String}
    (h : linkToXrayConfig site server link = some config) :
    ∃ proxy, config.proxies.head? = some proxy ∧ ∀ tag,
      autoselectProbeUrl site.texts (some host) (some { proxy with tag := tag }) =
        s!"http://{host}/p/{probeOfLink site.texts link}" := by
  rw [linkToXrayConfig] at h
  split at h
  · rename_i hvless
    rw [vlessLinkToXrayConfig, if_neg (not_not.2 hvless)] at h
    cases h
    refine ⟨_, rfl, fun tag => ?_⟩
    by_cases hempty : link.userinfo = "" <;> simp [autoselectProbeUrl, probeOfLink, hvless, hempty]
  · rename_i hvless
    split at h
    · rename_i hhysteria
      rw [hy2LinkToXrayConfig, if_neg (not_not.2 hhysteria)] at h
      cases h
      refine ⟨_, rfl, fun tag => ?_⟩
      simp [autoselectProbeUrl, probeOfLink, hvless]
    · cases h

theorem autoselect_probe {config config' auto : ClientConfig} {configs : List ClientConfig}
    (hproxy : config.proxies.head? = some proxy)
    (h : buildAutoselectConfig texts loadProbe (config :: config' :: configs) = some auto) :
    ∃ tag, auto.probe = some (autoselectProbeUrl texts loadProbe
      (some { proxy with tag := tag })) := by
  rw [buildAutoselectConfig, if_neg (by simp)] at h
  cases h
  exact ⟨"proxy", by simp [hproxy, List.mapIdx_cons]⟩

theorem buildXrayJsonSubscription_autoselect {site : Site} {pairs : List (Server D × Link)}
    {host : String} (hprobe : site.loadProbe = some host) (htwo : 2 ≤ pairs.length)
    (hschemes : ∀ p ∈ pairs, p.2.scheme = "vless" ∨ p.2.scheme = "hysteria2") :
    ∃ first ∈ pairs.head?, ∃ auto configs,
      buildXrayJsonSubscription site pairs = .configs (auto :: configs) ∧
      auto.probe = some s!"http://{host}/p/{probeOfLink site.texts first.2}" ∧
      ∀ o ∈ auto.proxies, ∃ p ∈ pairs, p.2.userinfo = o.credential := by
  match pairs, htwo with
  | first :: second :: rest, _ =>
    obtain ⟨config, hconfig⟩ : ∃ config, linkToXrayConfig site first.1 first.2 = some config :=
      linkToXrayConfig_total (hschemes first List.mem_cons_self)
    obtain ⟨config', hconfig'⟩ : ∃ config, linkToXrayConfig site second.1 second.2 = some config :=
      linkToXrayConfig_total (hschemes second (List.mem_cons_of_mem _ List.mem_cons_self))
    obtain ⟨configs, hconfigs⟩ := mapM_total (l := rest)
      (f := fun p => linkToXrayConfig site p.1 p.2) fun p hp =>
        linkToXrayConfig_total (hschemes p (List.mem_cons_of_mem _ (List.mem_cons_of_mem _ hp)))
    have hall : (first :: second :: rest).mapM (fun p => linkToXrayConfig site p.1 p.2) =
        some (config :: config' :: configs) := by
      simp [List.mapM_cons, hconfig, hconfig', hconfigs]
    obtain ⟨proxy, hproxy, hurl⟩ := autoselectProbeUrl_first hconfig
    obtain ⟨auto, hauto⟩ : ∃ auto, buildAutoselectConfig site.texts site.loadProbe
        (config :: config' :: configs) = some auto := by
      simp [buildAutoselectConfig]
    refine ⟨first, rfl, auto, config :: config' :: configs, ?_, ?_, fun o ho => ?_⟩
    · rw [buildXrayJsonSubscription, hall]
      dsimp only
      rw [hauto]
      rfl
    · obtain ⟨tag, hauto⟩ := autoselect_probe hproxy hauto
      rw [hauto, hprobe, hurl]
    · obtain ⟨c, hc, p, hp, hcredential⟩ := autoselect_credential hauto ho
      obtain ⟨pair, hpair, hpairconfig⟩ := ((mapM_some hall).1 c).1 hc
      obtain ⟨proxy, hproxies, hcred⟩ := linkToXrayConfig_proxy hpairconfig
      rw [hproxies, List.mem_singleton] at hp
      subst hp
      exact ⟨pair, hpair, hcred.symm.trans hcredential⟩

theorem linkPairs_schemes [DecidableEq D] {settings : ControlSettings D} {site : Site} {db : Db D}
    {nodes : String → Option LinkNode} {pulled : Nat → LinkNode}
    (hserved : site.Served nodes pulled)
    (h : p ∈ linkPairs settings site db sub profile deviceUuid) :
    p.2.scheme = "vless" ∨ p.2.scheme = "hysteria2" := by
  rcases fetchLink_cases (mem_linkPairs.1 h).2 with ⟨-, hlink⟩ | ⟨-, raw, hraw, hnormalized⟩
  · exact .inr (buildHy2Link_scheme hlink)
  · exact .inl (hnormalized.scheme.trans (rawLink_scheme hserved hraw))

theorem linkPairs_userinfo [DecidableEq D] {settings : ControlSettings D} {site : Site} {db : Db D}
    {nodes : String → Option LinkNode} {pulled : Nat → LinkNode}
    (hserved : site.Served nodes pulled)
    (h : p ∈ linkPairs settings site db sub profile deviceUuid) :
    p.2.userinfo = (deviceUuid.filter fun u => u != "").getD sub.clientUuid ∧
      (p.2.scheme = "hysteria2" → p.2.userinfo ≠ "") := by
  have hfetch := (mem_linkPairs.1 h).2
  have huserinfo := fetchLink_userinfo (fun agent uuid profile link hlink => by
    rw [hserved.push] at hlink
    obtain ⟨node, -, hlink⟩ := Option.bind_eq_some_iff.1 hlink
    exact subscription_userinfo hlink) hfetch
  refine ⟨huserinfo, fun hscheme => ?_⟩
  rw [huserinfo]
  rcases fetchLink_cases hfetch with ⟨-, hlink⟩ | ⟨-, raw, hraw, hnormalized⟩
  · intro hempty
    rw [buildHy2Link_eq_none.2 fun _ => hempty] at hlink
    cases hlink
  · rw [hnormalized.scheme, rawLink_scheme hserved hraw] at hscheme
    exact absurd hscheme (by decide)

/-- The health checks of the entry of all locations, of which there are two or more: the nodes know
the user by the id that they carry exactly if the first location is reached by VLESS. -/
theorem autoselect_identifies [DecidableEq D] (settings : ControlSettings D) (site : Site)
    (nodes : String → Option LinkNode) (pulled : Nat → LinkNode)
    (hserved : site.Served nodes pulled) (host : String) (hprobe : site.loadProbe = some host)
    (hhost : ∀ c ∈ host.toList, c ≠ '/') (hdigest : ∀ uuid, (site.texts.probeId uuid).length = 16)
    (db : Db D) (sub : Subscription) (profile : Profile) (deviceUuid : Option String)
    (htwo : 2 ≤ (linkPairs settings site db sub profile deviceUuid).length) :
    ∃ auto configs url, buildXrayJsonSubscription site
        (linkPairs settings site db sub profile deviceUuid) = .configs (auto :: configs) ∧
      auto.probe = some url ∧
      (∀ o ∈ auto.proxies,
        o.credential = (deviceUuid.filter fun u => u != "").getD sub.clientUuid) ∧
      (KnowsUnder site.texts ((deviceUuid.filter fun u => u != "").getD sub.clientUuid)
          (requestedProbeId (pathOfUrl url)) ↔
        ((linkPairs settings site db sub profile deviceUuid).head?.map fun p => p.2.scheme) =
          some "vless") := by
  obtain ⟨first, hfirst, auto, configs, hresponse, hurl, hproxies⟩ :=
    buildXrayJsonSubscription_autoselect hprobe htwo fun p hp => linkPairs_schemes hserved hp
  have hmem := List.mem_of_mem_head? hfirst
  obtain ⟨huserinfo, hhysteria⟩ := linkPairs_userinfo hserved hmem
  refine ⟨auto, configs, _, hresponse, hurl, fun o ho => ?_, ?_⟩
  · obtain ⟨p, hp, hcredential⟩ := hproxies o ho
    rw [← hcredential]
    exact (linkPairs_userinfo hserved hp).1
  · rw [Option.mem_def.1 hfirst, ← huserinfo, Option.map_some, Option.some_inj]
    rcases linkPairs_schemes hserved hmem with hscheme | hscheme
    · refine iff_of_true ?_ hscheme
      by_cases hempty : first.2.userinfo = ""
      · exact fun _ _ _ _ _ hnames => absurd hempty hnames.uuid_ne
      · rw [probeOfLink, if_pos ⟨hscheme, hempty⟩, requestedProbeId_autoselect hhost
          (Nat.le_of_eq (hdigest _))]
        exact (knowsUnder_iff hempty).2 rfl
    · have hvless : ¬ first.2.scheme = "vless" := by
        rw [hscheme]
        decide
      refine iff_of_false (fun hknows => ?_) hvless
      rw [probeOfLink, if_neg fun h => hvless h.1, requestedProbeId_autoselect hhost (by decide)]
        at hknows
      have hlength := hdigest first.2.userinfo
      rw [← (knowsUnder_iff (hhysteria hscheme)).1 hknows] at hlength
      exact absurd hlength (by decide)

/-- The texts of the list below, with the digest of its UUID. -/
def probeTexts : TextOps :=
  { curlTexts with
    probeId := fun uuid => if uuid = "u1" then "bb82030dbc2bcaba" else "0000000000000000" }

def probeSite (events : List (PrefEvent (List DesiredItem))) : Site :=
  { hy2Site events with texts := probeTexts, loadProbe := some "lb.aegisvpn.org" }

/-- Two locations, of which the first can be reached by Hysteria too. -/
def twoLocations : Db (List DesiredItem) :=
  { onOneServer .both [] with links := [⟨1, 1, true⟩, ⟨1, 2, true⟩] }

theorem loadProbe_host : ∀ c ∈ "lb.aegisvpn.org".toList, c ≠ '/' := by
  intro c hc hslash
  have hnone : "lb.aegisvpn.org".toList.contains '/' = false := by decide
  rw [hslash, ← List.contains_iff_mem, hnone] at hc
  cases hc

theorem probeTexts_digest (uuid : String) : (probeTexts.probeId uuid).length = 16 := by
  simp only [probeTexts]
  split <;> rfl

theorem autoselect_identifies_vless : ∃ auto configs url,
    buildXrayJsonSubscription (probeSite []) (linkPairs revisionSettings (probeSite [])
      twoLocations (oneRow none) .safe none) = .configs (auto :: configs) ∧
    auto.probe = some url ∧ KnowsUnder probeTexts "u1" (requestedProbeId (pathOfUrl url)) := by
  have hschemes : (linkPairs revisionSettings (probeSite []) twoLocations (oneRow none) .safe
      none).map (fun p => p.2.scheme) = ["vless", "vless"] := by decide +kernel
  have hlength := congrArg List.length hschemes
  rw [List.length_map] at hlength
  obtain ⟨auto, configs, url, hresponse, hurl, -, hknows⟩ := autoselect_identifies revisionSettings
    (probeSite []) (fun _ => none) (fun _ => xhttpNode)
    ⟨fun _ _ _ => rfl, fun _ _ h => (Option.some.inj h).symm⟩ "lb.aegisvpn.org" rfl loadProbe_host
    probeTexts_digest twoLocations (oneRow none) .safe none (Nat.le_of_eq hlength.symm)
  refine ⟨auto, configs, url, hresponse, hurl, hknows.2 ?_⟩
  rw [← List.head?_map, hschemes]
  rfl

/-- The health checks carry no id if the first location is reached by Hysteria. -/
theorem autoselect_anonymous : ¬ ∀ (events : List (PrefEvent (List DesiredItem)))
    (auto : ClientConfig) (configs : List ClientConfig) (url : String),
    2 ≤ (linkPairs revisionSettings (probeSite events) twoLocations (oneRow none) .safe
      none).length →
    buildXrayJsonSubscription (probeSite events) (linkPairs revisionSettings (probeSite events)
      twoLocations (oneRow none) .safe none) = .configs (auto :: configs) →
    auto.probe = some url → KnowsUnder probeTexts "u1" (requestedProbeId (pathOfUrl url)) := by
  intro hall
  have hschemes : (linkPairs revisionSettings (probeSite choosesHy2) twoLocations (oneRow none)
      .safe none).map (fun p => p.2.scheme) = ["hysteria2", "vless"] := by decide +kernel
  have hlength := congrArg List.length hschemes
  rw [List.length_map] at hlength
  obtain ⟨first, hfirst, auto, configs, hresponse, hurl, -⟩ :=
    @buildXrayJsonSubscription_autoselect _ (probeSite choosesHy2) _ _ rfl
      (Nat.le_of_eq hlength.symm) fun p hp => by
        have hscheme := List.mem_map_of_mem (f := fun p : Server _ × Link => p.2.scheme) hp
        rw [hschemes] at hscheme
        simpa [or_comm] using hscheme
  have hscheme : first.2.scheme = "hysteria2" := by
    have hhead := congrArg List.head? hschemes
    rw [List.head?_map, Option.mem_def.1 hfirst] at hhead
    exact Option.some.inj hhead
  have hknows := hall choosesHy2 auto configs _ (Nat.le_of_eq hlength.symm) hresponse hurl
  rw [probeOfLink, if_neg fun h => absurd (hscheme.symm.trans h.1) (by decide),
    requestedProbeId_autoselect loadProbe_host (by decide), knowsUnder_iff (by decide)] at hknows
  exact absurd hknows (by decide)

end AegisVPN
