import Mathlib.Data.List.Nodup
import AegisVPN.Agent.ControlModels

namespace AegisVPN
set_option autoImplicit true

/-- A JSON value that Python takes for true: present and not the empty string. -/
def truthy : Option String → Option String
  | some s => if s = "" then none else some s
  | none => none

theorem truthy_some : truthy o = some s ↔ o = some s ∧ s ≠ "" := by
  cases o with
  | none => simp [truthy]
  | some t =>
    by_cases ht : t = ""
    · simp only [truthy, ht, ↓reduceIte, reduceCtorEq, Option.some.injEq, false_iff]
      rintro ⟨rfl, hs⟩
      exact hs rfl
    · simp only [truthy, ht, ↓reduceIte, Option.some.injEq]
      exact ⟨fun h => ⟨h, h ▸ ht⟩, fun h => h.1⟩

/-- One user of an inbound; `extra` holds the keys the agent never writes itself. -/
structure ClientRecord where
  id : Option String
  email : Option String
  flow : Option String
  extra : List (String × String)
  deriving DecidableEq

structure Inbound where
  tag : Option String
  port : Option Nat
  protocol : String
  network : Option String
  clients : List ClientRecord
  deriving DecidableEq

/-- The part of an outbound beside its tag: an exit that the agent wrote, or foreign JSON. -/
inductive OutboundBody
  | cascadeExit (address : String) (port : Nat) (uuid publicKey shortId serverName path : String)
  | foreign (json : String)
  deriving DecidableEq

structure Outbound where
  tag : Option String
  body : OutboundBody
  deriving DecidableEq

structure RoutingRule where
  inboundTag : List String
  balancerTag : Option String
  foreign : String
  deriving DecidableEq

structure Balancer where
  tag : Option String
  selector : List String
  strategy : String
  foreign : String
  deriving DecidableEq

structure Routing where
  rules : Option (List RoutingRule)
  balancers : Option (List Balancer)
  foreign : String
  deriving DecidableEq

structure Observatory where
  subjectSelector : List String
  probeUrl : String
  probeInterval : String
  foreign : String
  deriving DecidableEq

structure XrayConfig where
  inbounds : List Inbound
  outbounds : Option (List Outbound)
  routing : Option Routing
  observatory : Option Observatory
  deriving DecidableEq

def Inbound.isVless (i : Inbound) : Bool := i.protocol == "vless"

def listVlessInbounds (config : XrayConfig) : List Inbound :=
  config.inbounds.filter Inbound.isVless

inductive Transport
  | grpc
  | xhttp
  | tcp
  deriving DecidableEq

def getTransportType (inbound : Inbound) : Transport :=
  match (truthy inbound.network).map String.toLower with
  | some "grpc" => .grpc
  | some "xhttp" => .xhttp
  | _ => .tcp

/-- Only tcp inbounds carry the vision flow. -/
def buildClientRecord (uuid email : String) (inbound : Inbound) : ClientRecord where
  id := some uuid
  email := some email
  flow := if getTransportType inbound = .tcp then some "xtls-rprx-vision" else none
  extra := []

/-- Change the client list of every VLESS inbound and leave the others alone. -/
def mapVless (f : Inbound → List ClientRecord) (config : XrayConfig) : XrayConfig :=
  { config with
    inbounds := config.inbounds.map fun i => if i.isVless then { i with clients := f i } else i }

@[simp] theorem listVlessInbounds_mapVless (f : Inbound → List ClientRecord)
    (config : XrayConfig) : listVlessInbounds (mapVless f config) =
      (listVlessInbounds config).map fun i => { i with clients := f i } := by
  simp only [listVlessInbounds, mapVless]
  induction config.inbounds with
  | nil => rfl
  | cons i is ih =>
    by_cases hi : i.isVless
    · have hi' : ({ i with clients := f i } : Inbound).isVless := hi
      simp only [List.map_cons, hi, ↓reduceIte, List.filter_cons_of_pos hi, hi',
        List.filter_cons_of_pos, ih]
    · simp only [List.map_cons, hi, Bool.false_eq_true, ↓reduceIte,
        List.filter_cons_of_neg hi, ih]

/-! ## The running Xray -/

/-- A VLESS inbound of the running process with the users it accepts. -/
structure LiveInbound where
  tag : Option String
  users : List ClientRecord
  deriving DecidableEq

/-- What identifies a user to Xray; an empty flow is no flow. -/
def recordProjection (record : ClientRecord) : ClientRecord where
  id := record.id
  email := record.email
  flow := truthy record.flow
  extra := []

/-- The user table of a process started on a config. -/
def bootTable (config : XrayConfig) : List LiveInbound :=
  (listVlessInbounds config).map fun i => ⟨i.tag, i.clients.map recordProjection⟩

/-- Xray refuses a config that repeats an inbound tag, or an email within an inbound. -/
def Loadable (config : XrayConfig) : Prop :=
  ((listVlessInbounds config).filterMap fun i => truthy i.tag).Nodup ∧
    ∀ i ∈ listVlessInbounds config, (i.clients.filterMap fun c => truthy c.email).Nodup

instance : Decidable (Loadable config) := by unfold Loadable; infer_instance

/-- `rmu` deletes a user by email; a user that is not there counts as deleted. -/
def LiveInbound.remove (tag email : String) (l : LiveInbound) : LiveInbound :=
  if l.tag = some tag then { l with users := l.users.filter fun u => u.email ≠ some email } else l

def LiveInbound.add (tag : String) (record : ClientRecord) (l : LiveInbound) : LiveInbound :=
  if l.tag = some tag then { l with users := l.users ++ [record] } else l

/-- `adu` accepts a user when the inbound exists and has nobody of that email yet. -/
def acceptsUser (tag : String) (record : ClientRecord) (live : List LiveInbound) : Bool :=
  live.any (fun l => l.tag = some tag) &&
    live.all fun l => l.tag ≠ some tag || (truthy record.email).isNone ||
      l.users.all fun u => u.email ≠ record.email

end AegisVPN
