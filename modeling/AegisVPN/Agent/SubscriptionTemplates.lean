import AegisVPN.Agent.Xray
import AegisVPN.Bot.SubscriptionResponse

namespace AegisVPN
set_option autoImplicit true

/-! ## What an agent says of its inbounds -/

/-- An inbound with the stream settings that its links are made of. -/
structure StreamInbound extends Inbound where
  serverNames : List String
  xhttpPath : Option String
  xhttpMode : Option String
  grpcServiceName : Option String

structure LinkSettings where
  publicKey : String
  shortId : String
  fingerprint : String
  xrayPort : Nat
  xrayTcpPort : Option Nat
  grpcServiceName : String
  realityServerName : String
  hostIp : String
  fastHostIp : Option String
  packetEncoding : Option String
  xhttpPath : String
  xhttpMode : String

/-- What an agent reads when it is asked for a link. -/
structure LinkNode where
  settings : LinkSettings
  inbounds : List StreamInbound

section Node
variable (node : LinkNode)

def LinkNode.vlessInbounds : List StreamInbound :=
  node.inbounds.filter fun i => i.isVless

def LinkNode.findVlessInbound (preferred : Transport) : Option StreamInbound :=
  (node.vlessInbounds.find? fun i => decide (getTransportType i.toInbound = preferred)).or
    node.vlessInbounds.head?

def Transport.name : Transport → String
  | .grpc => "grpc"
  | .xhttp => "xhttp"
  | .tcp => "tcp"

def StreamInbound.path (settings : LinkSettings) (i : StreamInbound) : String :=
  (truthy i.xhttpPath).getD settings.xhttpPath

def StreamInbound.mode (settings : LinkSettings) (i : StreamInbound) : String :=
  (truthy i.xhttpMode).getD settings.xhttpMode

def buildSubscriptionQuery (settings : LinkSettings) (i : StreamInbound) :
    List (String × String) :=
  let transport := getTransportType i.toInbound
  [("type", transport.name), ("security", "reality"), ("encryption", "none"),
    ("sni", i.serverNames.head?.getD settings.realityServerName),
    ("fp", settings.fingerprint), ("pbk", settings.publicKey), ("sid", settings.shortId),
    ("spx", "/")] ++
  (match transport with
  | .xhttp => [("path", i.path settings), ("mode", i.mode settings)]
  | .grpc => [("serviceName", (truthy i.grpcServiceName).getD settings.grpcServiceName),
      ("mode", "gun")]
  | .tcp => [("headerType", "none"), ("flow", "xtls-rprx-vision")]) ++
  ((truthy settings.packetEncoding).map fun p => ("packetEncoding", p)).toList

/-- The transport that a profile asks for. -/
def Profile.preferred : Profile → Transport
  | .safe => .xhttp
  | .fast => .tcp

def LinkNode.hostFor (profile : Profile) : String :=
  match profile with
  | .safe => node.settings.hostIp
  | .fast => (truthy node.settings.fastHostIp).getD node.settings.hostIp

/-- The port of the inbound, or one of the settings if the inbound names none. -/
def LinkNode.portFor (profile : Profile) (i : StreamInbound) : Nat :=
  let ofSettings := match profile with
    | .safe => node.settings.xrayPort
    | .fast => (node.settings.xrayTcpPort.filter fun p => p != 0).getD node.settings.xrayPort
  (i.port.filter fun p => p != 0).getD ofSettings

/-- What `/sub` and `/sub-fast` answer, as the bot reads it: a text with a port that no port can
be is no link. -/
def LinkNode.subscription (uuid : String) (profile : Profile) : Option Link :=
  if node.vlessInbounds.any fun i => i.clients.any fun c => c.id == some uuid then
    (node.findVlessInbound profile.preferred).bind fun i =>
      if 65535 < node.portFor profile i then none
      else some ⟨"vless", uuid, node.hostFor profile, some (node.portFor profile i), "",
        buildSubscriptionQuery node.settings i, node.hostFor profile⟩
  else none

/-- The templates that are part of the telemetry. -/
def LinkNode.subscriptionTemplates : List SubscriptionTemplate :=
  [Profile.safe, Profile.fast].filterMap fun profile =>
    (node.findVlessInbound profile.preferred).map fun i =>
      ⟨some profile.name, some (node.hostFor profile), some (node.portFor profile i),
        some ((buildSubscriptionQuery node.settings i).map some)⟩

end Node

theorem findVlessInbound_mem {node : LinkNode} {preferred : Transport} {i : StreamInbound}
    (h : node.findVlessInbound preferred = some i) : i ∈ node.vlessInbounds := by
  rw [LinkNode.findVlessInbound, Option.or_eq_some_iff] at h
  rcases h with h | ⟨_, h⟩
  · exact List.mem_of_find?_eq_some h
  · exact List.mem_of_head? h

theorem findVlessInbound_transport {node : LinkNode} {preferred : Transport} {i j : StreamInbound}
    (h : node.findVlessInbound preferred = some i) (hj : j ∈ node.vlessInbounds)
    (hpreferred : getTransportType j.toInbound = preferred) :
    getTransportType i.toInbound = preferred := by
  rw [LinkNode.findVlessInbound, Option.or_eq_some_iff] at h
  rcases h with h | ⟨hnone, _⟩
  · have hi := List.find?_some h
    exact of_decide_eq_true hi
  · exact absurd (decide_eq_true hpreferred) (List.find?_eq_none.1 hnone j hj)

theorem subscription_eq_some {node : LinkNode} {uuid : String} {profile : Profile} {link : Link}
    (h : node.subscription uuid profile = some link) :
    ∃ i, node.findVlessInbound profile.preferred = some i ∧ link = ⟨"vless", uuid,
      node.hostFor profile, some (node.portFor profile i), "",
      buildSubscriptionQuery node.settings i, node.hostFor profile⟩ := by
  rw [LinkNode.subscription] at h
  split at h
  · obtain ⟨i, hfind, h⟩ := Option.bind_eq_some_iff.1 h
    split at h
    · cases h
    · exact ⟨i, hfind, (Option.some.inj h).symm⟩
  · cases h

theorem subscription_userinfo {node : LinkNode} {uuid : String} {profile : Profile} {link : Link}
    (h : node.subscription uuid profile = some link) : link.userinfo = uuid := by
  obtain ⟨i, -, rfl⟩ := subscription_eq_some h
  rfl

/-! ## What the bot gets of it -/

/-- The bot asks nodes that answer as agents do, and the telemetry of a pull node is its own. -/
structure Site.Served (site : Site) (nodes : String → Option LinkNode) (pulled : Nat → LinkNode) :
    Prop where
  push : ∀ agent uuid profile, site.fetch agent uuid profile =
    (nodes agent).bind fun node => node.subscription uuid profile
  pull : ∀ serverId templates, site.catalog.templates serverId = some templates →
    templates = (pulled serverId).subscriptionTemplates

end AegisVPN
