import AegisVPN.Bot.SubscriptionService
import AegisVPN.Library.Dicts

namespace AegisVPN
open Library
set_option autoImplicit true

/-- The operations on texts that depend on Unicode, and the digests of texts. -/
structure TextOps where
  strip : String → String
  lower : String → String
  casefold : String → String
  fingerprintUa : String → String
  probeId : String → String

inductive Profile
  | safe
  | fast
  deriving DecidableEq

def Profile.name : Profile → String
  | .safe => "safe"
  | .fast => "fast"

inductive Protocol
  | vless
  | hy2
  deriving DecidableEq

inductive VlessTransport
  | tcp
  | xhttp
  deriving DecidableEq

def VlessTransport.name : VlessTransport → String
  | .tcp => "tcp"
  | .xhttp => "xhttp"

/-- The columns of a server that only its links need. -/
structure Location where
  name : String
  flag : String
  subscriptionGroup : String
  hiddenFromSubscription : Bool
  displayOrder : Int
  tcpPort : Option Nat
  hy2Enabled : Bool
  hy2Port : Option Nat
  hy2Sni : Option String
  hy2ObfsPassword : Option String
  hy2Congestion : Option String
  hy2CamouflageSni : Option String

structure ServerTransportPref where
  userId : Nat
  serverId : Nat
  protocol : String
  transport : String

/-- How a node says that its links look; `none` is a value of a wrong type. -/
structure SubscriptionTemplate where
  profile : Option String
  host : Option String
  port : Option Int
  query : Option (List (Option (String × String)))

/-- The rows that only links are made of, by server. -/
structure Catalog where
  location : Nat → Location
  templates : Nat → Option (List SubscriptionTemplate)
  prefs : List ServerTransportPref

/-- A URI in its parts, which are not escaped. -/
structure Link where
  scheme : String
  userinfo : String
  host : String
  port : Option Nat
  path : String
  query : List (String × String)
  fragment : String
  deriving DecidableEq

/-! ## Transports -/

def Location.servesTcp (location : Location) : Bool := location.tcpPort.any fun p => p != 0

def Location.hy2Capable (location : Location) : Bool :=
  location.hy2Enabled && location.hy2Port.any (fun p => p != 0) &&
    location.hy2Sni.any fun s => s != ""

def defaultTransportFor (location : Location) : VlessTransport :=
  if location.servesTcp then .tcp else .xhttp

def availableTransports (location : Location) : List VlessTransport :=
  if location.servesTcp then [.tcp, .xhttp] else [.xhttp]

def resolveProtocol (location : Location) (protocol : Option String) : Protocol :=
  if protocol = some "hy2" ∧ location.hy2Capable then .hy2 else .vless

def resolveTransport (location : Location) (protocol transport : Option String) : VlessTransport :=
  if protocol.any fun p => p != "" && p != "vless" then defaultTransportFor location
  else ((availableTransports location).find? fun t => transport == some t.name).getD
    (defaultTransportFor location)

/-- The transport of a location that the user chose. -/
def transportPref (catalog : Catalog) (userId serverId : Nat) : VlessTransport :=
  let pref := catalog.prefs.find? fun p => p.userId == userId && p.serverId == serverId
  resolveTransport (catalog.location serverId) (pref.map ServerTransportPref.protocol)
    (pref.map ServerTransportPref.transport)

def hy2ServersForUser (catalog : Catalog) (userId : Nat) (serverIds : List Nat) : List Nat :=
  (catalog.prefs.filter fun p => p.userId == userId && serverIds.contains p.serverId &&
    p.protocol == "hy2" &&
    decide (resolveProtocol (catalog.location p.serverId) (some p.protocol) = .hy2)).map
      ServerTransportPref.serverId

/-! ## Labels -/

section Labels
variable (texts : TextOps)

def serverDisplayName (serverId : Nat) (location : Location) : String :=
  let name := texts.strip location.name
  if name = "" then s!"Server {serverId}" else name

def formatServerLabel (serverId : Nat) (location : Location) (duplicates : List String) :
    String :=
  let name := serverDisplayName texts serverId location
  let suffix := if duplicates.contains (texts.casefold name) then s!" №{serverId}" else ""
  let label := texts.strip s!"{location.flag} {name}{suffix}"
  if label = "" then s!"Server {serverId}" else label

/-- Locations with an explicit order come first, the others go by their names. -/
structure SortKey where
  group : Nat
  order : Int
  base : String
  id : Nat

def serverSortKey (serverId : Nat) (location : Location) : SortKey :=
  let name := texts.strip location.name
  let folded := (texts.casefold (if name = "" then s!"server {serverId}" else name)).toList
  let isExp := " exp".toList.isSuffixOf folded
  let base := if isExp then folded.take (folded.length - 4) else folded
  if 0 < location.displayOrder then ⟨0, location.displayOrder, "", serverId⟩
  else ⟨1, if isExp then 0 else 1, String.ofList base, serverId⟩

def SortKey.before (a b : SortKey) : Bool :=
  decide (a.group < b.group) || (a.group == b.group &&
    (decide (a.order < b.order) || (a.order == b.order &&
      (textBefore a.base b.base || (a.base == b.base && decide (a.id < b.id))))))

end Labels

/-! ## Links of one location -/

def dictPop (d : List (String × String)) (key : String) : List (String × String) :=
  d.filter fun p => p.1 != key

/-- The value of a key unless it is missing or empty. -/
def presentIn (d : List (String × String)) (key : String) : Option String :=
  (d.lookup key).filter fun v => v != ""

section Links
variable (texts : TextOps)

def buildHy2Link (server : Server D) (location : Location) (deviceUuid : String)
    (duplicates : List String) : Option Link :=
  if location.hy2Capable = false ∨ deviceUuid = "" then none
  else
    let obfs := match location.hy2ObfsPassword.filter fun p => p != "" with
      | some password => [("obfs", "salamander"), ("obfs-password", password)]
      | none => []
    some ⟨"hysteria2", deviceUuid, server.host, location.hy2Port, "",
      ("sni", location.hy2Sni.getD "") :: obfs,
      formatServerLabel texts server.id location duplicates⟩

/-- The query of a link under the parameters of the bot. -/
def normalizeQuery (server : Server D) (transport : VlessTransport)
    (query : List (String × String)) : List (String × String) :=
  let query := dictOf query
  let query := [("security", "reality"), ("encryption", "none"),
    ("fp", (query.lookup "fp").getD "chrome"), ("sni", (query.lookup "sni").getD ""),
    ("pbk", server.publicKey), ("sid", server.shortId),
    ("spx", (query.lookup "spx").getD "/")].foldl dictSet query
  match transport with
  | .tcp =>
    ["path", "mode", "host", "serviceName", "packetEncoding"].foldl dictPop
      ([("type", "tcp"), ("headerType", "none"), ("flow", "xtls-rprx-vision")].foldl dictSet query)
  | .xhttp =>
    let query := ["headerType", "flow"].foldl dictPop (dictSet query ("type", "xhttp"))
    let query := [("path", (query.lookup "path").getD "/"),
      ("mode", (query.lookup "mode").getD "packet-up")].foldl dictSet query
    ["packetEncoding", "host"].foldl (fun q key =>
      if (presentIn q key).isNone then dictPop q key else q) query

def normalizeVlessUri (raw : Link) (server : Server D) (location : Location)
    (duplicates : List String) (transport : VlessTransport) : Link :=
  let effective := resolveTransport location (some "vless") (some transport.name)
  let ports := (if effective = .tcp then location.tcpPort.toList else []) ++
    raw.port.toList ++ [server.port]
  { raw with
    host := if server.host = "" then raw.host else server.host
    port := ports.find? fun p => p != 0
    query := normalizeQuery server effective raw.query
    fragment := formatServerLabel texts server.id location duplicates }

def allowedQueryKeys : List String :=
  ["type", "security", "encryption", "sni", "fp", "pbk", "sid", "spx", "path", "mode",
    "headerType", "flow", "packetEncoding", "serviceName", "host"]

/-- The link of a pull node, from what the node has reported. -/
def buildSubscriptionUri (templates : Option (List SubscriptionTemplate)) (clientUuid : String)
    (profile : Profile) : Option Link := do
  let templates ← templates
  let template ← templates.find? fun t => t.profile == some profile.name
  let host ← template.host
  let port ← template.port
  let query ← template.query
  if host = "" ∨ port < 1 ∨ 65535 < port then none
  else
    let pairs ← query.mapM fun pair => pair.filter fun p => allowedQueryKeys.contains p.1
    some ⟨"vless", clientUuid, host, some port.toNat, "", pairs, host⟩

def replaceLinkLabel (link : Link) (label : String) : Link :=
  { link with fragment := texts.strip label }

end Links

/-! ## Xray configs -/

inductive Stream
  | reality (network : String) (publicKey shortId serverName fingerprint : String)
    (xhttp : Option (String × String × String))
  | hysteria (serverName : String) (verifyPeerCertByName obfsPassword : Option String)
    (congestion : Option String)
  deriving DecidableEq

/-- The proxy of a config: `credential` is the id of the user, or what Hysteria calls `auth`. -/
structure ProxyOutbound where
  tag : String
  address : String
  port : Nat
  credential : String
  flow : Option String
  stream : Stream
  deriving DecidableEq

/-- A config without its constant parts. -/
structure ClientConfig where
  remarks : String
  proxies : List ProxyOutbound
  probe : Option String
  deriving DecidableEq

section Configs
variable (texts : TextOps)

def remarksOf (link : Link) (location : Location) : String :=
  if link.fragment = "" then texts.strip location.name else link.fragment

def vlessLinkToXrayConfig (link : Link) (location : Location) : Option ClientConfig :=
  if link.scheme ≠ "vless" then none
  else
    let q := dictOf link.query
    let network := texts.lower ((presentIn q "type").getD "tcp")
    let xhttp := if network = "xhttp" then some ((q.lookup "host").getD "",
      (q.lookup "path").getD "/", (q.lookup "mode").getD "auto") else none
    let flow := if network = "xhttp" then none else presentIn q "flow"
    some ⟨remarksOf texts link location, [⟨"proxy", link.host,
      (link.port.filter fun p => p != 0).getD 443, link.userinfo, flow,
      .reality network ((q.lookup "pbk").getD "") ((q.lookup "sid").getD "")
        ((q.lookup "sni").getD "") ((q.lookup "fp").getD "firefox") xhttp⟩], none⟩

def hy2LinkToXrayConfig (link : Link) (location : Location) : Option ClientConfig :=
  if link.scheme ≠ "hysteria2" then none
  else
    let q := dictOf link.query
    let sni := (q.lookup "sni").getD ""
    let certificate := texts.strip sni
    let camouflage := texts.strip (location.hy2CamouflageSni.getD "")
    let hides := camouflage != "" && certificate != "" && camouflage != certificate
    let obfs := if q.lookup "obfs" = some "salamander" then presentIn q "obfs-password" else none
    let asked := texts.lower (texts.strip (location.hy2Congestion.getD ""))
    let congestion := if asked = "reno" ∨ asked = "bbr" then some asked
      else if obfs.isSome then some "reno" else none
    some ⟨remarksOf texts link location, [⟨"proxy", link.host, link.port.getD 443, link.userinfo,
      none, .hysteria (if hides then camouflage else sni) (if hides then some certificate else none)
        obfs congestion⟩], none⟩

/-- Where the health checks of a client go to; `loadProbe` is the host of the load probes. -/
def autoselectProbeUrl (loadProbe : Option String) (first : Option ProxyOutbound) : String :=
  match loadProbe with
  | none => "http://www.gstatic.com/generate_204"
  | some host =>
    let clientId := match first with
      | some ⟨_, _, _, credential, _, .reality ..⟩ => credential
      | _ => ""
    let probe := if clientId = "" then "anon" else texts.probeId clientId
    s!"http://{host}/p/{probe}"

def autoselectRemarks : String := "🇪🇺 Автовыбор"

/-- One entry more, of all locations together, if there are two. -/
def buildAutoselectConfig (loadProbe : Option String) (configs : List ClientConfig) :
    Option ClientConfig :=
  if configs.length < 2 then none
  else
    let outbounds := (configs.filterMap fun c => c.proxies.head?).mapIdx fun i proxy =>
      { proxy with tag := if i = 0 then "proxy" else s!"proxy-{i + 1}" }
    some ⟨autoselectRemarks, outbounds, some (autoselectProbeUrl texts loadProbe outbounds.head?)⟩

end Configs

end AegisVPN
