import AegisVPN.Library.Json

namespace AegisVPN
open Library
set_option autoImplicit true

/-! # The failover of the DNS records, and its undoing -/

/-! ## Records -/

/-- A record as Cloudflare lists it. -/
structure DnsRecord where
  id : String
  type : String
  name : String
  content : String
  ttl : Int
  proxied : Option Bool
  deriving DecidableEq

/-- What a record is overwritten with. A restored type or content is what the snapshot has. -/
structure DnsPayload where
  type : Json
  name : String
  content : Json
  ttl : Int
  proxied : Bool
  deriving DecidableEq

/-- All fields of the payload are those of the record. -/
def DnsRecord.agrees (r : DnsRecord) (p : DnsPayload) : Bool :=
  decide (Json.str r.type = p.type) && decide (r.name = p.name) &&
    decide (Json.str r.content = p.content) && decide (r.ttl = p.ttl) &&
    decide (r.proxied = some p.proxied)

/-- The record after it is overwritten. -/
def DnsRecord.overwrite (r : DnsRecord) (content : String) (ttl : Int) (proxied : Bool) :
    DnsRecord :=
  { r with content := content, ttl := ttl, proxied := some proxied }

/-- What a record answers to the clients. -/
def DnsRecord.value (r : DnsRecord) : String × Int × Bool :=
  (r.content, r.ttl, r.proxied.getD false)

/-- The zone at Cloudflare: the records of a type and a name, and the request that overwrites a
record by its id. A query matches both exactly; an overwriting keeps all other records. -/
structure DnsApi (Z : Type) where
  records : Z → Json → String → List DnsRecord
  put : Z → String → DnsPayload → Z
  found : ∀ {z type name r}, r ∈ records z type name → Json.str r.type = type ∧ r.name = name
  overwritten : ∀ {z r} (content : String) (ttl : Int) (proxied : Bool),
    records z (.str r.type) r.name = [r] →
    records (put z r.id ⟨.str r.type, r.name, .str content, ttl, proxied⟩) (.str r.type) r.name =
      [r.overwrite content ttl proxied]
  others : ∀ {z r p type name}, records z (.str r.type) r.name = [r] →
    p.type = .str r.type → p.name = r.name → (type, name) ≠ (Json.str r.type, r.name) →
    records (put z r.id p) type name = records z type name

/-! ## A zone that is a list of records -/

/-- Records with distinct ids. -/
structure DnsZone where
  records : List DnsRecord
  distinct : (records.map DnsRecord.id).Nodup

def DnsRecord.received (p : DnsPayload) (r : DnsRecord) : DnsRecord :=
  { id := r.id, type := p.type.text?.getD r.type, name := p.name,
    content := p.content.text?.getD r.content, ttl := p.ttl, proxied := some p.proxied }

def DnsZone.find (z : DnsZone) (type : Json) (name : String) : List DnsRecord :=
  z.records.filter fun r => decide (Json.str r.type = type ∧ r.name = name)

def DnsZone.put (z : DnsZone) (id : String) (p : DnsPayload) : DnsZone where
  records := z.records.map fun r => if r.id = id then r.received p else r
  distinct := by
    have hids : (z.records.map fun r => if r.id = id then r.received p else r).map DnsRecord.id =
        z.records.map DnsRecord.id := by
      rw [List.map_map]
      apply List.map_congr_left
      intro r _
      simp only [Function.comp_apply]
      split
      · rfl
      · rfl
    rw [hids]
    exact z.distinct

theorem DnsZone.find_put {z : DnsZone} {r : DnsRecord} (hr : r ∈ z.records) {p : DnsPayload}
    (htype : p.type = .str r.type) (hname : p.name = r.name) (type : Json) (name : String) :
    (z.put r.id p).find type name =
      (z.find type name).map fun q => if q.id = r.id then q.received p else q := by
  rw [find, put, List.filter_map, find]
  congr 1
  apply List.filter_congr
  intro q hq
  simp only [Function.comp_apply]
  split
  · next hid =>
    obtain rfl := List.inj_on_of_nodup_map z.distinct hq hr hid
    simp only [DnsRecord.received, htype, hname, Json.text?, Option.getD_some]
  · rfl

theorem DnsZone.mem_find {z : DnsZone} :
    r ∈ z.find type name ↔ r ∈ z.records ∧ Json.str r.type = type ∧ r.name = name := by
  rw [find, List.mem_filter, decide_eq_true_iff]

def zoneApi : DnsApi DnsZone where
  records := DnsZone.find
  put := DnsZone.put
  found := fun h => (DnsZone.mem_find.1 h).2
  overwritten := by
    intro z r content ttl proxied h
    have hr : r ∈ z.find (.str r.type) r.name := by
      rw [h]
      exact List.mem_singleton_self r
    rw [DnsZone.find_put (DnsZone.mem_find.1 hr).1 rfl rfl, h]
    simp only [List.map_cons, List.map_nil, if_true, DnsRecord.received, DnsRecord.overwrite,
      Json.text?, Option.getD_some]
  others := by
    intro z r p type name h htype hname hne
    have hr : r ∈ z.find (.str r.type) r.name := by
      rw [h]
      exact List.mem_singleton_self r
    have hkept : ∀ q ∈ z.find type name,
        (if q.id = r.id then q.received p else q) = id q := by
      intro q hq
      split
      · next hid =>
        have hq' := DnsZone.mem_find.1 hq
        obtain rfl := List.inj_on_of_nodup_map z.distinct hq'.1 (DnsZone.mem_find.1 hr).1 hid
        exact absurd (Prod.ext hq'.2.1.symm hq'.2.2.symm) hne
      · rfl
    rw [DnsZone.find_put (DnsZone.mem_find.1 hr).1 htype hname, List.map_congr_left hkept,
      List.map_id]

/-! ## Requests -/

/-- How a request ends: answered, or lost before or after Cloudflare has carried it out. -/
inductive DnsFate
  | answered
  | lost
  | carriedOut
  deriving DecidableEq

/-- A request that overwrote a record: the record until then, and the rollback file on disk. -/
structure AppliedPut where
  before : List DnsRecord
  payload : DnsPayload
  file : Option Json

/-- The zone, the rollback file, and the fates of the requests to come; when these run out, every
request is answered. For the statements, `writtenAt` is the zone when a run last wrote the file, and
`applied` lists the overwritings so far, the last one first. -/
structure DnsState (Z : Type) where
  zone : Z
  rollbackFile : Option Json
  fates : List DnsFate
  writtenAt : Option Z
  applied : List AppliedPut

inductive FailoverError
  | invalidConfig (text : String)
  | otherZone
  | notAllowlisted
  | malformed
  | notExactlyOne (type : Json) (name : String) (count : Nat)
  | request
  deriving DecidableEq

/-- The texts of the errors that the code words itself. -/
def FailoverError.text : FailoverError → Option String
  | .invalidConfig text => some text
  | .otherZone => some "rollback snapshot belongs to a different Cloudflare zone"
  | .notAllowlisted => some "rollback snapshot contains a non-allowlisted record"
  | .notExactlyOne type name count =>
    some s!"expected exactly one {type.display} record for {name}, got {count}"
  | .malformed | .request => none

/-- The errors that come from the content of the snapshot. -/
def FailoverError.ofSnapshot : FailoverError → Bool
  | .otherZone | .notAllowlisted | .malformed => true
  | .invalidConfig _ | .notExactlyOne _ _ _ | .request => false

section Requests
variable (api : DnsApi Z)

def DnsState.nextFate (d : DnsState Z) : DnsFate := d.fates.headD .answered

def DnsState.spent (d : DnsState Z) : DnsState Z := { d with fates := d.fates.tail }

def getRecord (type : Json) (name : String) (d : DnsState Z) :
    Except FailoverError DnsRecord × DnsState Z :=
  if d.nextFate = .answered then
    match api.records d.zone type name with
    | [record] => (.ok record, d.spent)
    | records => (.error (.notExactlyOne type name records.length), d.spent)
  else (.error .request, d.spent)

def DnsState.overwrite (d : DnsState Z) (id : String) (payload : DnsPayload) : DnsState Z :=
  { d with
    zone := api.put d.zone id payload
    applied := ⟨api.records d.zone payload.type payload.name, payload, d.rollbackFile⟩ ::
      d.applied }

def putRecord (record : DnsRecord) (payload : DnsPayload) (d : DnsState Z) :
    Except FailoverError Unit × DnsState Z :=
  match d.nextFate with
  | .answered => (.ok (), d.spent.overwrite api record.id payload)
  | .lost => (.error .request, d.spent)
  | .carriedOut => (.error .request, d.spent.overwrite api record.id payload)

end Requests

/-! ## The configuration -/

structure FailoverConfig where
  apiToken : String
  zoneId : String
  zoneName : String
  recordNames : List String
  targetIpv4 : Option String
  targetIpv6 : Option String
  deriving DecidableEq

def lowerChar (c : Char) : Char :=
  if 'A' ≤ c ∧ c ≤ 'Z' then Char.ofNat (c.toNat + 32) else c

/-- `name.rstrip(".").lower()`. Names of records are ASCII. -/
def normalName (name : String) : String :=
  String.ofList ((name.toList.reverse.dropWhile (· == '.')).reverse.map lowerChar)

/-- A target that is not empty. -/
def target (text : Option String) : Option String := text.filter fun t => t != ""

def wrongVersion (ipVersion : String → Option Nat) (version : Nat) (text address : String) :
    Option String :=
  match ipVersion address with
  | some v => if v = version then none else some text
  | none => some s!"'{address}' does not appear to be an IPv4 or IPv6 address"

/-- `ipVersion` is the version of an address, if it is one. -/
def FailoverConfig.invalid (ipVersion : String → Option Nat) (c : FailoverConfig) :
    Option String :=
  let zone := normalName c.zoneName
  let outside := c.recordNames.find? fun raw =>
    normalName raw != zone && !('.' :: zone.toList).isSuffixOf (normalName raw).toList
  if c.apiToken = "" ∨ c.zoneId = "" then some "Cloudflare API token and zone id are required"
  else if zone = "" then some "zone name is required"
  else if c.recordNames = [] then some "at least one DNS record is required"
  else match outside with
  | some raw => some s!"record '{raw}' is outside zone '{zone}'"
  | none =>
    match target c.targetIpv4, target c.targetIpv6 with
    | none, none => some "at least one target IP is required"
    | ipv4, ipv6 =>
      (ipv4.bind (wrongVersion ipVersion 4 "target_ipv4 must be IPv4")).or
        (ipv6.bind (wrongVersion ipVersion 6 "target_ipv6 must be IPv6"))

/-! ## Failing over -/

/-- The records to be redirected: type, name and target. -/
def FailoverConfig.targets (c : FailoverConfig) : List (String × String × String) :=
  [("A", target c.targetIpv4), ("AAAA", target c.targetIpv6)].flatMap fun t =>
    t.2.toList.flatMap fun address => c.recordNames.map fun raw => (t.1, normalName raw, address)

def failoverPayload (key : String × String × String) : DnsPayload :=
  { type := .str key.1, name := key.2.1, content := .str key.2.2, ttl := 60, proxied := false }

/-- An entry of the rollback file. -/
def rollbackEntry (r : DnsRecord) : Json :=
  .obj [("id", .str r.id), ("type", .str r.type), ("name", .str r.name),
    ("content", .str r.content), ("ttl", .int r.ttl), ("proxied", .bool (r.proxied.getD false))]

def rollbackSnapshot (c : FailoverConfig) (previous : List DnsRecord) : Json :=
  .obj [("zone_id", .str c.zoneId), ("zone_name", .str c.zoneName),
    ("records", .arr (previous.map rollbackEntry))]

section Runs
variable (api : DnsApi Z)

/-- The records that are not at their target yet, each with its payload. -/
def gatherChanges : List (String × String × String) → DnsState Z →
    Except FailoverError (List (DnsRecord × DnsPayload)) × DnsState Z
  | [], d => (.ok [], d)
  | key :: keys, d =>
    match getRecord api (.str key.1) key.2.1 d with
    | (.error e, d') => (.error e, d')
    | (.ok record, d') =>
      match gatherChanges keys d' with
      | (.error e, d'') => (.error e, d'')
      | (.ok changes, d'') =>
        if record.agrees (failoverPayload key) then (.ok changes, d'')
        else (.ok ((record, failoverPayload key) :: changes), d'')

def putChanges : List (DnsRecord × DnsPayload) → DnsState Z →
    Except FailoverError Unit × DnsState Z
  | [], d => (.ok (), d)
  | change :: changes, d =>
    match putRecord api change.1 change.2 d with
    | (.error e, d') => (.error e, d')
    | (.ok (), d') => putChanges changes d'

inductive FailoverReport
  | skipped (reason : String)
  | unchanged
  | updated (changed : Nat)
  | restored (changed : Nat)
  deriving DecidableEq

/-- One run of the failover: the role of the node, and what the two health checks answer. -/
structure FailoverRun where
  role : String
  patroniHealthy : Bool
  applicationHealthy : Bool
  fates : List DnsFate

def isPrimary (role : String) : Bool :=
  [['p', 'r', 'i', 'm', 'a', 'r', 'y'], ['m', 'a', 's', 't', 'e', 'r'],
    ['l', 'e', 'a', 'd', 'e', 'r']].contains (role.toList.map lowerChar)

/-- The file is written only once all records are read. -/
def failover (c : FailoverConfig) (d : DnsState Z) :
    Except FailoverError FailoverReport × DnsState Z :=
  match gatherChanges api c.targets d with
  | (.error e, d') => (.error e, d')
  | (.ok [], d') => (.ok .unchanged, d')
  | (.ok (change :: changes), d') =>
    let written :=
      { d' with
        rollbackFile := some (rollbackSnapshot c ((change :: changes).map Prod.fst))
        writtenAt := some d'.zone }
    match putChanges api (change :: changes) written with
    | (.error e, d'') => (.error e, d'')
    | (.ok (), d'') => (.ok (.updated (changes.length + 1)), d'')

def runFailover (ipVersion : String → Option Nat) (c : FailoverConfig) (r : FailoverRun)
    (d : DnsState Z) : Except FailoverError FailoverReport × DnsState Z :=
  match c.invalid ipVersion with
  | some text => (.error (.invalidConfig text), d)
  | none =>
    if !isPrimary r.role then (.ok (.skipped "not-primary"), d)
    else if !r.patroniHealthy then (.ok (.skipped "patroni-unhealthy"), d)
    else if !r.applicationHealthy then (.ok (.skipped "application-unhealthy"), d)
    else failover api c { d with fates := r.fates }

end Runs

/-! ## Undoing -/

/-- What `int` makes of a value; `intOfText` says it of a text or of a number with a fraction. -/
def intOf (intOfText : Json → Option Int) : Json → Option Int
  | .int n => some n
  | .bool b => some (if b then 1 else 0)
  | .null | .arr _ | .obj _ => none
  | .float text => intOfText (.float text)
  | .str s => intOfText (.str s)

section Restore
variable (api : DnsApi Z) (intOfText : Json → Option Int)

def FailoverConfig.allowed (c : FailoverConfig) (name : String) : Bool :=
  c.recordNames.any fun raw => normalName raw == normalName name

/-- The entries of a snapshot. What can be iterated over but is no list has no entry that is a
record. -/
def snapshotEntries (snapshot : Json) : Except FailoverError (List Json) :=
  match snapshot.get? "records" with
  | none => .ok []
  | some (.arr entries) => .ok entries
  | some value => if value.truthy then .error .malformed else .ok []

/-- The type and the name under which an entry's record is looked up. -/
def entryKey (c : FailoverConfig) (entry : Json) : Except FailoverError (Json × String) :=
  match entry with
  | .obj fields =>
    match (fields.lookup "name").getD (.str "") with
    | .str name =>
      if c.allowed name then
        match fields.lookup "type" with
        | some type => .ok (type, name)
        | none => .error .malformed
      else .error .notAllowlisted
    | _ => .error .malformed
  | _ => .error .malformed

def entryPayload (entry : Json) (key : Json × String) : Except FailoverError DnsPayload :=
  match entry.get? "content", (entry.get? "ttl").bind (intOf intOfText), entry.get? "proxied" with
  | some content, some ttl, some proxied =>
    .ok { type := key.1, name := key.2, content := content, ttl := ttl, proxied := proxied.truthy }
  | _, _, _ => .error .malformed

/-- One entry: whether its record had to be overwritten. -/
def restoreEntry (c : FailoverConfig) (entry : Json) (d : DnsState Z) :
    Except FailoverError Bool × DnsState Z :=
  match entryKey c entry with
  | .error e => (.error e, d)
  | .ok key =>
    match getRecord api key.1 key.2 d with
    | (.error e, d') => (.error e, d')
    | (.ok current, d') =>
      match entryPayload intOfText entry key with
      | .error e => (.error e, d')
      | .ok payload =>
        if current.agrees payload then (.ok false, d')
        else match putRecord api current payload d' with
        | (.error e, d'') => (.error e, d'')
        | (.ok (), d'') => (.ok true, d'')

def restoreEntries (c : FailoverConfig) : List Json → Nat → DnsState Z →
    Except FailoverError Nat × DnsState Z
  | [], changed, d => (.ok changed, d)
  | entry :: entries, changed, d =>
    match restoreEntry api intOfText c entry d with
    | (.error e, d') => (.error e, d')
    | (.ok put, d') => restoreEntries c entries (if put then changed + 1 else changed) d'

/-- The file's content, or none when it cannot be read or is no JSON. -/
def restoreSnapshot (ipVersion : String → Option Nat) (c : FailoverConfig)
    (snapshot : Option Json) (d : DnsState Z) :
    Except FailoverError FailoverReport × DnsState Z :=
  match c.invalid ipVersion, snapshot with
  | some text, _ => (.error (.invalidConfig text), d)
  | none, some (.obj fields) =>
    if fields.lookup "zone_id" ≠ some (.str c.zoneId) ∨
        fields.lookup "zone_name" ≠ some (.str c.zoneName) then (.error .otherZone, d)
    else match snapshotEntries (.obj fields) with
    | .error e => (.error e, d)
    | .ok entries =>
      match restoreEntries api intOfText c entries 0 d with
      | (.error e, d') => (.error e, d')
      | (.ok 0, d') => (.ok .unchanged, d')
      | (.ok (n + 1), d') => (.ok (.restored (n + 1)), d')
  | none, _ => (.error .malformed, d)

end Restore

end AegisVPN
