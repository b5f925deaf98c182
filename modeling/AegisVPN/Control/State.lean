import Mathlib.Data.List.Sort
import AegisVPN.Bot.Models

namespace AegisVPN
open Library
set_option autoImplicit true

structure CascadeExitPayload where
  exitServerId : Nat
  position : Int
  serviceUuid : String
  serverName : String
  xhttpPath : String
  host : String
  port : Nat
  publicKey : String
  shortId : String
  deriving DecidableEq

/-- What the digest of a cascade route is taken of. -/
structure CascadeRoutePayload where
  routeId : Nat
  revision : Nat
  label : String
  entryServerId : Nat
  healthPolicy : HealthPolicy
  inboundTags : List Json
  exits : List CascadeExitPayload
  deriving DecidableEq

/-- The two digests, of canonical JSON, and the page size of the control plane. -/
structure ControlSettings (D : Type) where
  digest : List DesiredItem → D
  routeDigest : CascadeRoutePayload → String
  pageSize : Nat

/-- Settings under which no two lists have the same digest. -/
def listSettings : ControlSettings (List DesiredItem) := ⟨id, fun _ => "", 500⟩

/-! ## Servers -/

def supportsCascade (server : Server D) : Bool :=
  (server.features.getD []).contains "cascade-v2"

def roleAllows (server : Server D) (role : NodeRole) : Bool :=
  server.nodeRole == role || server.nodeRole == .both

def pushesTo (server : Server D) : Bool :=
  server.controlMode == .push || server.controlMode == .observe

def publishesFor (server : Server D) : Bool :=
  server.controlMode == .observe || server.controlMode == .pull

def Db.server (db : Db D) (serverId : Nat) : Option (Server D) :=
  db.servers.find? fun s => s.id == serverId

/-! ## Desired state -/

def subscriptionEmail (sub : Subscription) : String := s!"user_{sub.userId}_sub_{sub.id}"

def deviceEmail (sub : Subscription) (device : Device) : String :=
  s!"{subscriptionEmail sub}_dev_{device.id}"

def expiryMs (t : Int) : Nat := (t / 1000).toNat

/-- The devices of a subscription that may connect. -/
def Db.activeDevices (db : Db D) (sub : Subscription) : List Device :=
  db.devices.filter fun d => d.subscriptionId == sub.id && d.isActive && !d.isSuspended

def Db.linked (db : Db D) (serverId : Nat) (sub : Subscription) : Bool :=
  db.links.any fun l => l.serverId == serverId && l.subscriptionId == sub.id

/-- The subscriptions that a server has to serve at a time. -/
def Db.desiredSubscriptions (db : Db D) (serverId : Nat) (now : Int) : List Subscription :=
  db.subscriptions.filter fun s => db.linked serverId s && s.isActive && decide (now < s.expiresAt)

def Db.clientsOf (db : Db D) (sub : Subscription) : List DesiredClient :=
  ⟨sub.clientUuid, subscriptionEmail sub, expiryMs sub.expiresAt⟩ ::
    (db.activeDevices sub).map fun d => ⟨d.uuid, deviceEmail sub d, expiryMs sub.expiresAt⟩

def Db.connLimitsOf (db : Db D) (subs : List Subscription) : List DesiredConnLimit :=
  (subs.filterMap fun s => do
    let user ← db.users.find? fun u => u.id == s.userId
    let limit ← user.connLimit
    return (⟨s.userId, limit.toNat⟩ : DesiredConnLimit)).dedup

def Db.routeExits (db : Db D) (routeId : Nat) : List (CascadeRouteExit × Server D) :=
  ((db.exits.filter fun e => e.routeId == routeId && e.enabled).insertionSort fun a b =>
    a.position < b.position ∨ a.position = b.position ∧ a.exitServerId ≤ b.exitServerId).filterMap
    fun e => (db.server e.exitServerId).map fun s => (e, s)

def orSlash (path : String) : String := if path = "" then "/" else path

def currentRouteDigest (settings : ControlSettings D) (db : Db D) (route : CascadeRoute) :
    String :=
  settings.routeDigest ⟨route.id, route.revision, route.label, route.entryServerId,
    route.healthPolicy, route.inboundTags, (db.routeExits route.id).map fun (e, s) =>
      ⟨e.exitServerId, e.position, e.serviceUuid, e.serverName, orSlash e.xhttpPath, s.host,
        s.port, s.publicKey, s.shortId⟩⟩

/-- The tags of the inbounds that the route claims, with the default where it names none. -/
def CascadeRoute.tags (route : CascadeRoute) : List Json :=
  if route.inboundTags = [] then [.str "vless-in"] else route.inboundTags

/-- The items of one route for a server that takes part in it. -/
def routeItems (settings : ControlSettings D) (db : Db D) (server : Server D)
    (route : CascadeRoute) : List DesiredItem :=
  let exits := db.routeExits route.id
  let digest := currentRouteDigest settings db route
  match db.server route.entryServerId with
  | none => []
  | some entry =>
    if entry.isActive && supportsCascade entry && roleAllows entry .entry && !exits.isEmpty &&
        exits.all fun (_, s) => s.isActive && supportsCascade s && roleAllows s .exit then
      (if server.id = entry.id then
        [.cascadeRoute ⟨route.id, route.revision, digest, route.label,
          route.tags.filterMap Json.text?, route.tags.filter fun t => t.text?.isNone,
          exits.map fun (e, s) => ⟨e.position, s.host, s.port, e.serviceUuid, s.publicKey,
            s.shortId, e.serverName, orSlash e.xhttpPath⟩, route.healthPolicy⟩]
      else []) ++
      (exits.filter fun (_, s) => server.id == s.id).map fun (e, _) =>
        .cascadeService ⟨route.id, route.revision, digest, e.serviceUuid,
          s!"cascade_route_{route.id}_entry_{entry.id}"⟩
    else []

def buildCascadeItems (settings : ControlSettings D) (db : Db D) (server : Server D) :
    List DesiredItem :=
  if supportsCascade server then
    (db.routes.filter CascadeRoute.enabled).flatMap (routeItems settings db server)
  else []

/-- A number with as many leading zeros as make it twenty digits. -/
def zeroPadded (n : Int) : String :=
  let digits := toString n
  String.ofList (List.replicate (20 - digits.length) '0') ++ digits

def itemSortKey : DesiredItem → List String
  | .client c => ["client", c.email, c.uuid]
  | .connLimit l => ["conn_limit", zeroPadded l.userId, ""]
  | .cascadeService s => ["cascade_service", zeroPadded s.routeId, s.uuid]
  | .cascadeRoute r => ["cascade_route", zeroPadded r.routeId, ""]

/-- Texts are ordered by their characters. -/
def textBefore (a b : String) : Bool :=
  (a.toList.map Char.toNat).lex (b.toList.map Char.toNat) fun m n => decide (m < n)

def keyBefore (a b : List String) : Bool := a.lex b textBefore

def buildDesiredItems (settings : ControlSettings D) (db : Db D) (server : Server D) (now : Int) :
    List DesiredItem :=
  if server.isActive then
    let subs := db.desiredSubscriptions server.id now
    ((subs.flatMap db.clientsOf).map DesiredItem.client ++
      (db.connLimitsOf subs).map DesiredItem.connLimit ++
      buildCascadeItems settings db server).insertionSort fun a b =>
        keyBefore (itemSortKey b) (itemSortKey a) = false
  else []

/-! ## Snapshots -/

def Db.latestSnapshot (db : Db D) (serverId : Nat) : Option (NodeSnapshot D) :=
  (db.snapshots.filter fun s => s.serverId == serverId).argmax NodeSnapshot.generation

section Publish
variable [DecidableEq D] (settings : ControlSettings D)

/-- The snapshot that a server should have, if it is another one than the latest. -/
def nextSnapshot (db : Db D) (server : Server D) (now : Int) : Option (NodeSnapshot D) :=
  let items := buildDesiredItems settings db server now
  let schemaVersion := if supportsCascade server then 2 else 1
  let latest := db.latestSnapshot server.id
  if latest.any fun l => decide (l.digest = settings.digest items) &&
      decide (l.schemaVersion = schemaVersion) then none
  else some ⟨server.id, max server.desiredGeneration ((latest.map NodeSnapshot.generation).getD 0)
    + 1, schemaVersion, settings.digest items, settings.pageSize, items⟩

def Db.addSnapshot (db : Db D) (snapshot : NodeSnapshot D) : Db D :=
  { db with
    snapshots := db.snapshots ++ [snapshot]
    servers := db.servers.map fun s =>
      if s.id = snapshot.serverId then { s with desiredGeneration := snapshot.generation } else s }

/-- The no-op update that takes the writer lock. -/
def lockServer (serverId : Nat) : DbAct D Unit := fun db =>
  if (db.server serverId).isSome then (.ok (), db) else (.error .lookup, db)

/-- Write a new snapshot if one is due. The flush takes along whatever else waits in the session,
after the items have been read. -/
def writeSnapshot (pending : Pending D) (serverId : Nat) (now : Int) : DbAct D Unit := fun db =>
  match db.server serverId with
  | none => (.error .lookup, db)
  | some server =>
    match nextSnapshot settings db server now with
    | none => (.ok (), db)
    | some snapshot => pending.write.andThen (fun db' => (.ok (), db'.addSnapshot snapshot)) db

def publishSnapshot (pending : Pending D) (serverId : Nat) : BotProg D Unit := do
  Prog.whenever (settings.pageSize < 1) (.raise .value)
  execute (lockServer serverId)
  let now ← clock
  execute (writeSnapshot settings pending serverId now)

def sortedIds (serverIds : List Nat) : List Nat := serverIds.dedup.insertionSort (· ≤ ·)

def publishForServers (pending : Pending D) (serverIds : List Nat) : BotProg D Unit :=
  (sortedIds serverIds).foldlM (fun _ serverId => do
    let server ← query .servers fun db => db.server serverId
    Prog.whenever (server.any publishesFor = true)
      (publishSnapshot settings pending serverId)) ()

end Publish

end AegisVPN
