import AegisVPN.Bot.Procedures
import AegisVPN.Bot.Reissue
import AegisVPN.Bot.SubscriptionLinks

namespace AegisVPN
open Library
set_option autoImplicit true

/-! ## Cascade routes that links may name -/

section Routes
variable (settings : ControlSettings D) (db : Db D)

/-- All servers of the route are up and have acknowledged it as it is. -/
def Db.routeReady (route : CascadeRoute) : Bool :=
  match db.server route.entryServerId with
  | none => false
  | some entry =>
    let exits := db.routeExits route.id
    !exits.isEmpty && (entry :: exits.map Prod.snd).all fun s =>
      s.isActive && supportsCascade s && db.acks.any fun a => a.routeId == route.id &&
        a.serverId == s.id && a.revision == route.revision &&
        a.configDigest == currentRouteDigest settings db route

/-- Two routes of one entry cannot be told apart, so neither is shown. -/
def advertisableRoutes (entryServerIds : List Nat) : List CascadeRoute :=
  let routes := (db.routes.filter fun r => r.enabled && entryServerIds.contains r.entryServerId)
    |>.insertionSort fun a b => a.id ≤ b.id
  routes.filter fun r =>
    (routes.filter fun o => o.entryServerId == r.entryServerId).length == 1 &&
      db.routeReady settings r

end Routes

/-! ## The links of a subscription -/

/-- What the endpoint works with beside its database. `fetch` is what the agent of a node
answers when it is asked for the link of a UUID. -/
structure Site where
  texts : TextOps
  catalog : Catalog
  fetch : String → String → Profile → Option Link
  loadProbe : Option String

section Links
variable (settings : ControlSettings D) (site : Site) (db : Db D)

def targetProfile (location : Location) : Profile :=
  if location.subscriptionGroup = "fast" then .fast else .safe

/-- The locations that are on the list of the profile. -/
def Db.listedServers (sub : Subscription) (profile : Profile) : List (Server D) :=
  db.servers.filter fun s =>
    let location := site.catalog.location s.id
    (db.links.any fun l => l.subscriptionId == sub.id && l.serverId == s.id && l.isSynced) &&
      s.isActive && !location.hiddenFromSubscription && (profile == .safe ||
        location.subscriptionGroup == "fast" || location.subscriptionGroup == "both")

def Db.routeLabels (servers : List (Server D)) : List (Nat × String) :=
  (advertisableRoutes settings db ((servers.filter fun s => s.nodeRole == .entry).map
    Server.id)).map fun r => (r.entryServerId, r.label)

def cascadeVisibleServers (servers : List (Server D)) (labels : List (Nat × String)) :
    List (Server D) :=
  servers.filter fun s => s.nodeRole != .entry || (labels.map Prod.fst).contains s.id

/-- The locations in the order in which they are shown. -/
def Db.shownServers (sub : Subscription) (profile : Profile) : List (Server D) :=
  let servers := db.listedServers site sub profile
  let key := fun s : Server D => serverSortKey site.texts s.id (site.catalog.location s.id)
  (cascadeVisibleServers servers (db.routeLabels settings servers)).insertionSort fun a b =>
    (key b).before (key a) = false

def duplicateNameKeys (servers : List (Server D)) : List String :=
  let names := servers.map fun s =>
    site.texts.casefold (serverDisplayName site.texts s.id (site.catalog.location s.id))
  names.filter fun name => decide (1 < names.count name)

/-- What a server gives as its link, before it is normalised. -/
def rawLink (server : Server D) (effectiveUuid : String) : Option Link :=
  let profile := targetProfile (site.catalog.location server.id)
  if server.controlMode = .pull then
    buildSubscriptionUri (site.catalog.templates server.id) effectiveUuid profile
  else site.fetch server.agent effectiveUuid profile

def fetchLink (userId : Nat) (effectiveUuid : String) (duplicates : List String)
    (labels : List (Nat × String)) (hy2ServerIds : List Nat) (server : Server D) : Option Link :=
  let location := site.catalog.location server.id
  let hy2 := if hy2ServerIds.contains server.id then
    buildHy2Link site.texts server location effectiveUuid duplicates else none
  match hy2 with
  | some link => some link
  | none => (rawLink site server effectiveUuid).map fun raw =>
    let normalized := normalizeVlessUri site.texts raw server location duplicates
      (transportPref site.catalog userId server.id)
    match labels.lookup server.id with
    | some label => replaceLinkLabel site.texts normalized label
    | none => normalized

/-- The locations that the user wants to reach by Hysteria. Entries of routes are not. -/
def Db.hy2Servers (sub : Subscription) (profile : Profile) : List Nat :=
  let labels := db.routeLabels settings (db.listedServers site sub profile)
  (hy2ServersForUser site.catalog sub.userId
    ((db.shownServers settings site sub profile).map Server.id)).filter fun i =>
      !(labels.map Prod.fst).contains i

def linkPairs (sub : Subscription) (profile : Profile) (deviceUuid : Option String) :
    List (Server D × Link) :=
  let servers := db.shownServers settings site sub profile
  let labels := db.routeLabels settings (db.listedServers site sub profile)
  let effectiveUuid := (deviceUuid.filter fun u => u != "").getD sub.clientUuid
  servers.filterMap fun s =>
    (fetchLink site sub.userId effectiveUuid (duplicateNameKeys site servers) labels
      (db.hy2Servers settings site sub profile) s).map fun link => (s, link)

def pairsOfToken (subToken : String) (profile : Profile) (deviceUuid : Option String) :
    List (Server D × Link) :=
  match getSubscriptionByToken db subToken with
  | .ok (some sub) => linkPairs settings site db sub profile deviceUuid
  | _ => []

end Links

/-! ## The endpoint -/

inductive SubscriptionResponse
  | badRequest
  | notFound
  | links (links : List Link)
  | configs (configs : List ClientConfig)
  deriving DecidableEq

def xrayJsonClients : List String :=
  ["happ", "v2raytun", "v2rayng", "v2rayn", "nekobox", "nekoray", "streisand", "foxray",
    "varmlen", "incy"]

def clientWantsXrayJson (texts : TextOps) (ua : String) : Bool :=
  xrayJsonClients.any fun client => decide (client.toList <:+: (texts.lower ua).toList)

section Render
variable (site : Site)

def linkToXrayConfig (server : Server D) (link : Link) : Option ClientConfig :=
  let location := site.catalog.location server.id
  if link.scheme = "vless" then vlessLinkToXrayConfig site.texts link location
  else if link.scheme = "hysteria2" then hy2LinkToXrayConfig site.texts link location
  else none

/-- Configs, or the plain links if one of them cannot be made a config. -/
def buildXrayJsonSubscription (pairs : List (Server D × Link)) : SubscriptionResponse :=
  match pairs.mapM fun p => linkToXrayConfig site p.1 p.2 with
  | none => .links (pairs.map Prod.snd)
  | some configs =>
    .configs ((buildAutoselectConfig site.texts site.loadProbe configs).toList ++ configs)

def renderSubscription (ua : String) (pairs : List (Server D × Link)) : SubscriptionResponse :=
  if pairs.isEmpty then .notFound
  else if clientWantsXrayJson site.texts ua then buildXrayJsonSubscription site pairs
  else .links (pairs.map Prod.snd)

end Render

def insertDevice (device : Device) : DbAct D Device := fun db =>
  let row := { device with id := nextId (db.devices.map Device.id) }
  if (db.devices.any fun d => d.uuid == device.uuid) ||
      !(db.subscriptions.any fun s => s.id == device.subscriptionId) then
    (.error .integrity, db)
  else (.ok row, { db with devices := db.devices ++ [row] })

section Endpoint
variable [DecidableEq D] (settings : ControlSettings D) (site : Site)

def syncDeviceToServers (sub : Subscription) (device : Device) : BotProg D Unit := do
  let servers ← query .servers fun db => db.servers.filter fun s => s.isActive &&
    db.links.any fun l => l.subscriptionId == sub.id && l.serverId == s.id &&
      (l.isSynced || publishesFor s)
  requestAll ((servers.filter fun s => pushesTo s).map fun s =>
    .addClient s.agent device.uuid (deviceEmail sub device))
  publishForServers settings [] (servers.map Server.id)

/-- The active devices of a subscription with that user agent. -/
def Db.devicesOfUa (db : Db D) (texts : TextOps) (sub : Subscription) (ua : String) :
    List Device :=
  db.devices.filter fun d => d.subscriptionId == sub.id &&
    d.uaFingerprint == texts.fingerprintUa ua && d.isActive

def getOrCreateDevice (sub : Subscription) (ua : String) : BotProg D Device := do
  let _ ← clock
  let device ← queryOne .devices fun db =>
    scalarOneOrNone (db.devicesOfUa site.texts sub ua)
  match device with
  | some device => .ret device
  | none => do
    let uuid ← ask
    let device ← execute
      (insertDevice ⟨0, sub.id, uuid, site.texts.fingerprintUa ua, true, false⟩)
    syncDeviceToServers settings sub device
    .ret device

/-- The UUID of the device that asks, unless the device is suspended. -/
def requestingDevice (sub : Option Subscription) (ua : String) : BotProg D (Option String) :=
  match sub with
  | none => .ret none
  | some sub =>
    if ua = "" then .ret none
    else do
      let device ← getOrCreateDevice settings site sub ua
      commit []
      .ret (if device.isSuspended then none else some device.uuid)

def collectLinkPairs (subToken : String) (profile : Profile) (deviceUuid : Option String) :
    BotProg D (List (Server D × Link)) := do
  let live ← collectLinks settings subToken
  if live then
    query .subscriptions fun db => pairsOfToken settings site db subToken profile deviceUuid
  else .ret []

def subscriptionResponse (subToken userAgent : String) (profile : Profile) :
    BotProg D SubscriptionResponse :=
  if subToken = "" then .ret .badRequest
  else do
    let ua := site.texts.strip userAgent
    let sub ← queryOne .subscriptions fun db => getSubscriptionByToken db subToken
    let deviceUuid ← requestingDevice settings site sub ua
    let pairs ← collectLinkPairs settings site subToken profile deviceUuid
    .ret (if sub.isNone then .notFound else renderSubscription site ua pairs)

end Endpoint

end AegisVPN
