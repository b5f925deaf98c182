import AegisVPN.Library.Json

namespace AegisVPN
open Library
set_option autoImplicit true

structure DesiredClient where
  uuid : String
  email : String
  expireMs : Nat
  deriving DecidableEq

structure DesiredConnLimit where
  userId : Int
  limit : Nat
  deriving DecidableEq

structure DesiredCascadeService where
  routeId : Nat
  revision : Nat
  configDigest : String
  uuid : String
  email : String
  deriving DecidableEq

structure DesiredCascadeExit where
  position : Int
  host : String
  port : Nat
  uuid : String
  publicKey : String
  shortId : String
  serverName : String
  xhttpPath : String
  deriving DecidableEq

/-- The free-form policy of a route. -/
structure HealthPolicy where
  entries : List (String × Json)
  deriving DecidableEq

/-- An entry as the node reads it: nothing where it is absent or falsy. -/
def HealthPolicy.text (policy : HealthPolicy) (name : String) : Option String :=
  ((policy.entries.lookup name).filter Json.truthy).map Json.display

def HealthPolicy.strategy (policy : HealthPolicy) : Option String := policy.text "strategy"

def HealthPolicy.probeUrl (policy : HealthPolicy) : Option String := policy.text "probe_url"

def HealthPolicy.probeInterval (policy : HealthPolicy) : Option String :=
  policy.text "probe_interval"

/-- The tags that are no texts are kept apart from the others. -/
structure DesiredCascadeRoute where
  routeId : Nat
  revision : Nat
  configDigest : String
  label : String
  inboundTags : List String
  strayTags : List Json
  exits : List DesiredCascadeExit
  healthPolicy : HealthPolicy
  deriving DecidableEq

/-- The union that the wire format tells apart by `kind`. -/
inductive DesiredItem
  | client (c : DesiredClient)
  | connLimit (l : DesiredConnLimit)
  | cascadeService (s : DesiredCascadeService)
  | cascadeRoute (r : DesiredCascadeRoute)
  deriving DecidableEq

/-- `D` is the type of snapshot digests. -/
structure AppliedState (D : Type) where
  schemaVersion : Nat
  generation : Nat
  digest : Option D
  items : List DesiredItem
  deriving DecidableEq

structure DesiredSnapshot (D : Type) where
  schemaVersion : Nat
  generation : Nat
  digest : D
  items : List DesiredItem
  deriving DecidableEq

structure SnapshotManifest (D : Type) where
  schemaVersion : Nat
  generation : Nat
  digest : D
  itemCount : Nat
  pageCount : Nat
  pageSize : Nat
  deriving DecidableEq

structure SnapshotPage (D : Type) where
  schemaVersion : Nat
  generation : Nat
  pageIndex : Nat
  pageDigest : D
  items : List DesiredItem
  deriving DecidableEq

/-- What a node holds before its first generation, or when its file is unreadable. -/
def AppliedState.initial : AppliedState D := ⟨1, 0, none, []⟩

/-- The UUID of an item that becomes a client of the node. -/
def DesiredItem.clientUuid? : DesiredItem → Option String
  | .client c => some c.uuid
  | .cascadeService s => some s.uuid
  | _ => none

end AegisVPN
