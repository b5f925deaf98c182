import AegisVPN.Agent.CascadeUndo
import AegisVPN.Agent.Reconcile
import AegisVPN.Library.EditedLists

namespace AegisVPN
open Library
set_option autoImplicit true

/-! ## The config at boot -/

/-- A routing rule with the keys that the entrypoint reads or writes; all rules are of type
`field`. -/
structure NodeRule where
  inboundTag : Option (List String) := none
  balancerTag : Option String := none
  outboundTag : Option String := none
  domain : Option (List String) := none
  ip : Option (List String) := none
  port : Option String := none
  network : Option String := none
  protocol : Option (List String) := none
  extra : List (String × Json) := []
  deriving DecidableEq

/-- The sections that a boot or a reconcile rewrites. -/
structure NodeConfig where
  inbounds : List Inbound
  outbounds : List Outbound
  rules : List NodeRule
  balancers : Option (List Balancer)
  domainStrategy : Option String
  observatory : Option Observatory
  deriving DecidableEq

structure WarpCredentials where
  secretKey : String
  addresses : List String
  peerPublicKey : String
  endpoint : String
  mtu : Int
  reserved : List Int
  deriving DecidableEq

/-- The environment of a boot, its texts stripped. Without a secret key there are no WARP
credentials. -/
structure BootEnv where
  network : String
  port : Nat
  tcpPort : Option Int
  grpcPort : Option Int
  warp : Option WarpCredentials
  lbProbePort : Int
  lbProbeHost : String
  deriving DecidableEq

def BootEnv.transport (env : BootEnv) : String :=
  if env.network.toLower = "" then "tcp" else env.network.toLower

/-! ## Inbounds -/

/-- The clients of all VLESS inbounds by UUID, without their flows. -/
def clientMap (inbounds : List Inbound) : List (String × ClientRecord) :=
  dictOf ((inbounds.filter Inbound.isVless).flatMap fun i => i.clients.filterMap fun c =>
    (truthy c.id).map fun id => (id, { c with flow := none }))

/-- The flow is set for each inbound: tcp carries the vision flow. -/
def buildInbound (clients : List (String × ClientRecord)) (port : Nat) (transport tag : String) :
    Inbound where
  tag := some tag
  port := some port
  protocol := "vless"
  network := some transport
  clients := clients.map fun p =>
    { p.2 with flow := if transport = "tcp" then some "xtls-rprx-vision" else none }

/-- The port, transport and tag of each inbound that is rebuilt. -/
def BootEnv.inbounds (env : BootEnv) : List (Nat × String × String) :=
  [(env.port, env.transport, "vless-in")] ++
    (env.tcpPort.filter fun p : Int => decide (0 < p ∧ p ≠ env.port)).toList.map
      (fun p : Int => (p.toNat, "tcp", "vless-in-tcp")) ++
    (env.grpcPort.filter fun p : Int => decide (0 < p)).toList.map
      (fun p : Int => (p.toNat, "grpc", "vless-in-grpc"))

def rebuildInbounds (env : BootEnv) (config : NodeConfig) : NodeConfig :=
  { config with
    inbounds :=
      (env.inbounds.map fun p => buildInbound (clientMap config.inbounds) p.1 p.2.1 p.2.2) ++
        config.inbounds.filter fun i => !i.isVless }

/-! ## Outbounds and rules -/

/-- The rule of Xray's own API, or one that looks like it. -/
def NodeRule.ofApi (r : NodeRule) : Bool := r.inboundTag == some ["api"]

def NodeRule.ofWarp (r : NodeRule) : Bool := r.outboundTag == some "warp"

def NodeRule.ofGames (r : NodeRule) : Bool :=
  (r.domain.getD []).contains "geosite:category-games"

def NodeRule.ofPrivate (r : NodeRule) : Bool :=
  (r.ip.getD []).contains "geoip:private" || (r.domain.getD []).contains "geosite:private"

def NodeRule.ofProbe (r : NodeRule) : Bool := r.outboundTag == some "lb-probe"

/-- Everything leaves directly: a rule with no other key than the type, the network and the
outbound. -/
def NodeRule.catchAll (r : NodeRule) : Bool :=
  (r.network == some "tcp,udp" || r.network == some "udp,tcp") &&
    decide (r = { network := r.network, outboundTag := some "direct" })

def tagged (tag : String) (o : Outbound) : Bool := o.tag == some tag

def warpOutbound (credentials : WarpCredentials) : Outbound where
  tag := some "warp"
  body := .foreign (Json.obj [
    ("protocol", .str "wireguard"),
    ("settings", .obj ([
      ("secretKey", .str credentials.secretKey),
      ("address", .arr (credentials.addresses.map .str)),
      ("peers", .arr [.obj [
        ("publicKey", .str credentials.peerPublicKey),
        ("endpoint", .str (if credentials.endpoint = "" then "162.159.192.1:2408"
          else credentials.endpoint))]]),
      ("mtu", .int credentials.mtu)] ++
      if credentials.reserved = [] then []
      else [("reserved", .arr (credentials.reserved.map .int))]))]).canonical

def gamesRule : NodeRule where
  domain := some ["geosite:category-games", "domain:callofduty.com", "domain:activision.com",
    "domain:activisionblizzard.com", "domain:demonware.net"]
  outboundTag := some "direct"

def warpRule : NodeRule where
  domain := some ["geosite:google-gemini", "geosite:microsoft", "domain:gemini.google.com",
    "domain:generativelanguage.googleapis.com", "domain:aistudio.google.com",
    "domain:alkalimakersuite-pa.clients6.google.com", "domain:labs.google"]
  outboundTag := some "warp"

/-- Without credentials, an outbound that the config has from earlier is used again. -/
def warpSource (env : BootEnv) (config : NodeConfig) : Option Outbound :=
  match env.warp with
  | some credentials => some (warpOutbound credentials)
  | none => config.outbounds.find? (tagged "warp")

def ensureWarp (env : BootEnv) (config : NodeConfig) : NodeConfig :=
  match warpSource env config with
  | none => config
  | some warp =>
    { config with
      outbounds := insertBeforeLast warp (config.outbounds.filter fun o => !tagged "warp" o)
      rules := insertAfterFirst NodeRule.ofApi [gamesRule, warpRule]
        ((config.rules.filter fun r => !r.ofWarp).filter fun r => !r.ofGames) }

def privateRules : List NodeRule :=
  [{ ip := some ["geoip:private"], outboundTag := some "block" },
    { domain := some ["geosite:private"], outboundTag := some "block" }]

def ensurePrivateBlocked (config : NodeConfig) : NodeConfig :=
  { config with
    domainStrategy := some "IPOnDemand"
    rules := insertAfterFirst NodeRule.ofApi privateRules
      (config.rules.filter fun r => !r.ofPrivate) }

def BootEnv.probes (env : BootEnv) : Bool := decide (0 < env.lbProbePort ∧ env.lbProbeHost ≠ "")

def probeOutbound (env : BootEnv) : Outbound where
  tag := some "lb-probe"
  body := .foreign (Json.obj [
    ("protocol", .str "freedom"),
    ("settings", .obj [("redirect", .str s!"127.0.0.1:{env.lbProbePort}")])]).canonical

def probeRule (env : BootEnv) : NodeRule where
  domain := some [s!"full:{env.lbProbeHost}"]
  port := some "80"
  outboundTag := some "lb-probe"

def ensureLbProbe (env : BootEnv) (config : NodeConfig) : NodeConfig :=
  let outbounds := config.outbounds.filter fun o => !tagged "lb-probe" o
  let rules := config.rules.filter fun r => !r.ofProbe
  if env.probes then
    { config with
      outbounds := outbounds ++ [probeOutbound env]
      rules := insertAfterFirst NodeRule.ofApi [probeRule env] rules }
  else { config with outbounds := outbounds, rules := rules }

/-- What no rule matches leaves by the first outbound. -/
def ensureConnLimitReachable (config : NodeConfig) : NodeConfig :=
  { config with
    outbounds := moveToFront (tagged "direct") config.outbounds
    rules := config.rules.filter fun r => !r.catchAll }

/-- The rewrite of the config at every start of the container. -/
def bootRewrite (env : BootEnv) (config : NodeConfig) : NodeConfig :=
  ensureConnLimitReachable (ensureLbProbe env (ensurePrivateBlocked
    (ensureWarp env (rebuildInbounds env config))))

/-! ## Reconciles of the same config -/

/-- A rule of a route has an inbound and a balancer and nothing else. -/
def NodeRule.ofManaged (r : RoutingRule) : NodeRule where
  inboundTag := some r.inboundTag
  balancerTag := r.balancerTag

def NodeConfig.hadManaged (config : NodeConfig) : Bool :=
  config.outbounds.any (fun o => isManaged o.tag) ||
    (config.balancers.getD []).any fun b => isManaged b.tag

def stripRoutes (config : NodeConfig) : NodeConfig :=
  let balancers := (config.balancers.getD []).filter fun b => !isManaged b.tag
  { config with
    outbounds := config.outbounds.filter fun o => !isManaged o.tag
    rules := config.rules.filter fun r => !isManaged r.balancerTag
    balancers := if balancers.isEmpty then none else some balancers
    observatory := if config.hadManaged then none else config.observatory }

def putRoutes (config : NodeConfig) (first : DesiredCascadeRoute) (parts : CascadeParts) :
    NodeConfig :=
  { config with
    outbounds := config.outbounds ++ parts.outbounds
    rules := parts.rules.map NodeRule.ofManaged ++ config.rules
    balancers := some parts.balancers
    observatory := some {
      subjectSelector := parts.subjects
      probeUrl := (truthy first.healthPolicy.probeUrl).getD
        "https://www.gstatic.com/generate_204"
      probeInterval := (truthy first.healthPolicy.probeInterval).getD "10s"
      foreign := "" } }

def applyRoutes (config : NodeConfig) (routes : List DesiredCascadeRoute) :
    Except CascadeConfigError NodeConfig :=
  match routes with
  | [] => .ok (stripRoutes config)
  | first :: _ => do
    let parts ← (sortedRoutes routes).foldlM addCascadeRoute ⟨[], [], [], [], []⟩
    .ok (putRoutes (stripRoutes config) first parts)

def setClients (clients : List DesiredClient) (config : NodeConfig) : NodeConfig :=
  { config with
    inbounds := config.inbounds.map fun i =>
      if i.isVless then { i with clients := desiredRecords clients i } else i }

/-- The file that a successful reconcile leaves. -/
def reconcileFile (items : List DesiredItem) (nowMs : Nat) (config : NodeConfig) :
    Except CascadeConfigError NodeConfig :=
  (applyRoutes config (desiredRoutes items)).map (setClients (desiredClients items nowMs))

/-! ## The config as the agent reads it -/

/-- The keys of a rule that the agent keeps as they are. -/
def NodeRule.fields (r : NodeRule) : List (String × Json) :=
  let texts := fun (name : String) (values : Option (List String)) =>
    (values.map fun vs => (name, Json.arr (vs.map .str))).toList
  let text := fun (name : String) (value : Option String) =>
    (value.map fun v => (name, Json.str v)).toList
  text "outboundTag" r.outboundTag ++ texts "domain" r.domain ++ texts "ip" r.ip ++
    text "port" r.port ++ text "network" r.network ++ texts "protocol" r.protocol ++ r.extra

def NodeRule.toRule (r : NodeRule) : RoutingRule where
  inboundTag := r.inboundTag.getD []
  balancerTag := r.balancerTag
  foreign := if r.fields = [] then "" else (Json.obj r.fields).canonical

def NodeConfig.toXray (config : NodeConfig) : XrayConfig where
  inbounds := config.inbounds
  outbounds := some config.outbounds
  routing := some {
    rules := some (config.rules.map NodeRule.toRule)
    balancers := config.balancers
    foreign := config.domainStrategy.getD "" }
  observatory := config.observatory

theorem stripRoutes_toXray (config : NodeConfig) :
    (stripRoutes config).toXray = stripManaged config.toXray := by
  have hne : (⟨some (config.rules.map NodeRule.toRule), config.balancers,
      config.domainStrategy.getD ""⟩ : Routing) ≠ ⟨none, none, ""⟩ := by
    intro h
    cases h
  simp only [NodeConfig.toXray, stripRoutes, stripManaged, stripRouting, hne, ↓reduceIte,
    Option.map_some, Option.getD_some, Option.bind_some, NodeConfig.hadManaged, List.filter_map]
  rfl

/-- The loop over the routes does to this config what it does to the agent's. -/
theorem applyRoutes_toXray (config : NodeConfig) (routes : List DesiredCascadeRoute) :
    (applyRoutes config routes).map NodeConfig.toXray =
      applyCascadeRoutes config.toXray routes := by
  cases routes with
  | nil => exact congrArg Except.ok (stripRoutes_toXray config)
  | cons first rest =>
    simp only [applyRoutes, applyCascadeRoutes, bind, sortedRoutes]
    cases hparts : ((first :: rest).insertionSort fun a b => a.routeId ≤ b.routeId).foldlM
        addCascadeRoute ⟨[], [], [], [], []⟩ with
    | error e => rfl
    | ok parts =>
      have hrules : parts.rules.map (fun r => (NodeRule.ofManaged r).toRule) = parts.rules := by
        rw [addCascadeRoutes_adding hparts]
        simp only [CascadeParts.adding, List.nil_append, List.map_map]
        rfl
      rw [← stripRoutes_toXray]
      simp only [Except.bind, Except.map, putRoutes, NodeConfig.toXray, Option.getD_some,
        List.map_append, List.map_map, Function.comp_def, hrules]

theorem setClients_toXray (clients : List DesiredClient) (config : NodeConfig) :
    (setClients clients config).toXray = desiredConfig clients config.toXray := rfl

end AegisVPN
