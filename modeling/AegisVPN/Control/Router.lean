import AegisVPN.Control.State
import AegisVPN.Library.Dicts

namespace AegisVPN
open Library
set_option autoImplicit true

/-! ## Acknowledgements -/

structure NodeAckRequest (D : Type) where
  generation : Nat
  digest : D
  success : Bool
  deriving DecidableEq

inductive AckError
  | snapshotNotFound
  | digestMismatch
  deriving DecidableEq

inductive AckStatus
  | ok
  | duplicate
  | errorRecorded
  deriving DecidableEq

def Db.snapshot (db : Db D) (serverId generation : Nat) : Option (NodeSnapshot D) :=
  db.snapshots.find? fun s => s.serverId == serverId && s.generation == generation

section Ack
variable [DecidableEq D]

/-- What the rows that the request loads say of it; `ok` is for what is still to be written. -/
def checkAck (db : Db D) (serverId : Nat) (request : NodeAckRequest D) :
    Except AckError AckStatus :=
  match db.snapshot serverId request.generation, db.server serverId with
  | some snapshot, some current =>
    if snapshot.digest ≠ request.digest then .error .digestMismatch
    else if request.success = false then .ok .errorRecorded
    else if request.generation ≤ current.appliedGeneration then .ok .duplicate
    else .ok .ok
  | _, _ => .error .snapshotNotFound

/-- The routes of a snapshot with their revision and digest; of several items the last counts. -/
def ackedRevisions (snapshot : NodeSnapshot D) : List (Nat × (Nat × String)) :=
  if snapshot.schemaVersion < 2 then []
  else dictOf (snapshot.items.filterMap fun
    | .cascadeRoute r => some (r.routeId, (r.revision, r.configDigest))
    | .cascadeService s => some (s.routeId, (s.revision, s.configDigest))
    | _ => none)

def recordCascadeAck (serverId generation : Nat) (db : Db D) : Db D :=
  let revisions := ((db.snapshot serverId generation).map ackedRevisions).getD []
  { db with acks := (db.acks.filter fun a => a.serverId != serverId) ++
      revisions.map fun r => ⟨r.1, serverId, r.2.1, r.2.2, generation⟩ }

def pruneAcknowledgedSnapshots (serverId acknowledgedGeneration : Nat) (db : Db D) : Db D :=
  if acknowledgedGeneration - 2 ≤ 1 then db
  else { db with snapshots := db.snapshots.filter fun s =>
      !(s.serverId == serverId && decide (s.generation < acknowledgedGeneration - 2)) }

def setApplied (serverId : Nat) (request : NodeAckRequest D) (db : Db D) : Db D :=
  { db with servers := db.servers.map fun s =>
      if s.id = serverId then { s with
        appliedGeneration := request.generation, appliedDigest := some request.digest } else s }

def markLinks (serverId : Nat) (db : Db D) : Db D :=
  { db with links := db.links.map fun l =>
      if l.serverId = serverId then { l with isSynced := true } else l }

/-- The writes of an acknowledgement. The flag is set on every link of the node. -/
def writeAck (serverId : Nat) (request : NodeAckRequest D) (db : Db D) : Db D :=
  markLinks serverId (pruneAcknowledgedSnapshots serverId request.generation
    (recordCascadeAck serverId request.generation (setApplied serverId request db)))

/-- The whole request in one transaction. -/
def acknowledgeSnapshot (serverId : Nat) (request : NodeAckRequest D) (db : Db D) :
    Except AckError AckStatus × Db D :=
  match checkAck db serverId request with
  | .ok .ok => (.ok .ok, writeAck serverId request db)
  | answer => (answer, db)

end Ack

/-! ## Publication within one transaction -/

section Publish
variable [DecidableEq D] (settings : ControlSettings D)

def publishNow (serverId : Nat) (now : Int) : DbAct D Unit := fun db =>
  if (db.server serverId).any publishesFor then
    if settings.pageSize < 1 then (.error .value, db)
    else ((lockServer serverId).andThen (writeSnapshot settings [] serverId now)) db
  else (.ok (), db)

def publishAll (now : Int) : List Nat → DbAct D Unit
  | [] => fun db => (.ok (), db)
  | serverId :: rest => (publishNow settings serverId now).andThen (publishAll now rest)

/-- A transaction that fails leaves nothing. -/
def transact (act : DbAct D Unit) (db : Db D) : Db D :=
  match act db with
  | (.ok _, db') => db'
  | (.error _, _) => db

theorem publishNow_cases (serverId : Nat) (now : Int) (db : Db D) :
    publishNow settings serverId now db = (.ok (), db) ∨
    publishNow settings serverId now db = (.error .value, db) ∨
    ∃ server snapshot, db.server serverId = some server ∧ publishesFor server = true ∧
      nextSnapshot settings db server now = some snapshot ∧
      publishNow settings serverId now db = (.ok (), db.addSnapshot snapshot) := by
  rw [publishNow]
  cases hserver : db.server serverId with
  | none => exact .inl rfl
  | some server =>
    simp only [Option.any_some]
    split
    · rename_i hp
      split
      · exact .inr (.inl rfl)
      · simp only [DbAct.andThen, lockServer, hserver, Option.isSome_some, ↓reduceIte,
          writeSnapshot]
        cases hnext : nextSnapshot settings db server now with
        | none => exact .inl rfl
        | some snapshot => exact .inr (.inr ⟨server, snapshot, rfl, hp, hnext, rfl⟩)
    · exact .inl rfl

end Publish

end AegisVPN
