import Mathlib.Data.List.MinMax
import AegisVPN.Agent.ControlModels
import AegisVPN.Library.Sessions

namespace AegisVPN
open Library
set_option autoImplicit true

/-! Rows. Times are microseconds since the epoch, naive and in UTC. -/

structure User where
  id : Nat
  tgId : Int
  isBanned : Bool
  trialUsed : Bool
  connLimit : Option Int
  deriving DecidableEq

structure Subscription where
  id : Nat
  userId : Nat
  subToken : String
  legacySubToken : Option String
  clientUuid : String
  planDays : Int
  startedAt : Int
  expiresAt : Int
  isActive : Bool
  deriving DecidableEq

structure SubscriptionServer where
  subscriptionId : Nat
  serverId : Nat
  isSynced : Bool
  deriving DecidableEq

structure Device where
  id : Nat
  subscriptionId : Nat
  uuid : String
  uaFingerprint : String
  isActive : Bool
  isSuspended : Bool
  deriving DecidableEq

inductive NodeMode
  | push
  | observe
  | pull
  deriving DecidableEq

inductive NodeRole
  | entry
  | exit
  | both
  deriving DecidableEq

/-- `agent` stands for the URL and the token under which the node takes requests. -/
structure Server (D : Type) where
  id : Nat
  host : String
  port : Nat
  publicKey : String
  shortId : String
  agent : String
  controlMode : NodeMode
  desiredGeneration : Nat
  appliedGeneration : Nat
  appliedDigest : Option D
  features : Option (List String)
  nodeRole : NodeRole
  isPublic : Bool
  isActive : Bool
  deriving DecidableEq

structure ServerAccessGrant where
  serverId : Nat
  userId : Nat
  deriving DecidableEq

inductive PaymentStatus
  | pending
  | confirmed
  | canceled
  | chargeback
  deriving DecidableEq

inductive PaymentProvider
  | stars
  | platega
  deriving DecidableEq

structure Payment where
  id : Nat
  userId : Nat
  tgPaymentId : String
  planDays : Int
  provider : PaymentProvider
  status : Option PaymentStatus
  createdAt : Int
  deriving DecidableEq

structure Plan where
  id : Nat
  days : Int
  deriving DecidableEq

structure CascadeRoute where
  id : Nat
  label : String
  entryServerId : Nat
  enabled : Bool
  revision : Nat
  healthPolicy : HealthPolicy
  /-- What the transport policy lists under this name. -/
  inboundTags : List Json
  deriving DecidableEq

structure CascadeRouteExit where
  routeId : Nat
  exitServerId : Nat
  position : Int
  serviceUuid : String
  serverName : String
  xhttpPath : String
  enabled : Bool
  deriving DecidableEq

structure CascadeRouteAck where
  routeId : Nat
  serverId : Nat
  revision : Nat
  configDigest : String
  generation : Nat
  deriving DecidableEq

/-- A snapshot with its pages, which are `pageSize` items each. -/
structure NodeSnapshot (D : Type) where
  serverId : Nat
  generation : Nat
  schemaVersion : Nat
  digest : D
  pageSize : Nat
  items : List DesiredItem
  deriving DecidableEq

structure Db (D : Type) where
  users : List User
  subscriptions : List Subscription
  links : List SubscriptionServer
  devices : List Device
  servers : List (Server D)
  grants : List ServerAccessGrant
  payments : List Payment
  plans : List Plan
  routes : List CascadeRoute
  exits : List CascadeRouteExit
  acks : List CascadeRouteAck
  snapshots : List (NodeSnapshot D)
  /-- The payments whose days have been added to a subscription. No column holds it. -/
  granted : List (PaymentProvider × String)
  deriving DecidableEq

def Db.empty : Db D := ⟨[], [], [], [], [], [], [], [], [], [], [], [], []⟩

inductive BotError
  | multipleResults
  | integrity
  | staleData
  | overflow
  | lookup
  | value
  deriving DecidableEq

/-- What a query reads from: the tables it is about. -/
inductive Source
  | users
  | subscriptions
  | devices
  | payments
  | plans
  | servers
  deriving DecidableEq

/-- The requests to the agents of nodes. A removal for an expired subscription notes which one
and as of when. -/
inductive AgentCall
  | addClient (agent uuid email : String)
  | bulkAdd (agent : String) (clients : List (String × String))
  | removeClient (agent uuid : String) (expired : Option (Nat × Int))
  deriving DecidableEq

abbrev BotStmt (D : Type) := Stmt (Db D) Source Nat AgentCall

abbrev BotProg (D : Type) := Prog (BotStmt D) BotError

abbrev DbAct (D α : Type) := Db D → Except BotError α × Db D

/-! ## Statements -/

def clock : BotProg D Int := Prog.perform .clock

/-- A fresh random string. -/
def ask : BotProg D String := Prog.perform .ask

def query (source : Source) (q : Db D → α) : BotProg D α := Prog.perform (.select source q)

/-- A query that may find too many rows. -/
def queryOne (source : Source) (q : Db D → Except BotError α) : BotProg D α :=
  Prog.performOrRaise (.select source q)

def execute (u : DbAct D α) : BotProg D α := Prog.performOrRaise (.execute u)

def commit (next : List AgentCall) : BotProg D Unit := Prog.perform (.commit next)

def rollback : BotProg D Unit := Prog.perform .rollback

/-- A request to an agent, repeated up to three times. -/
def request (c : AgentCall) : BotProg D Bool := do
  let first ← Prog.perform (.call c)
  if first then .ret true
  else do
    let second ← Prog.perform (.call c)
    if second then .ret true else Prog.perform (.call c)

def requestAll (cs : List AgentCall) : BotProg D Unit :=
  cs.foldlM (fun _ c => do
    let _ ← request c
    .ret ()) ()

/-- The lock is given back also after an exception. -/
def withLock (k : Nat) (p : BotProg D α) : BotProg D α := do
  Prog.perform (.acquire k)
  let r ← p.attempt
  Prog.perform (.release k)
  Prog.ofExcept r

def scalarOneOrNone : List α → Except BotError (Option α)
  | [] => .ok none
  | [a] => .ok (some a)
  | _ => .error .multipleResults

theorem scalarOneOrNone_eq {l : List α} (h : scalarOneOrNone l = .ok (some a)) : l = [a] := by
  match l with
  | [] => cases h
  | [b] => cases h; rfl
  | _ :: _ :: _ => cases h

theorem scalarOneOrNone_none {l : List α} (h : scalarOneOrNone l = .ok none) : l = [] := by
  match l with
  | [] => rfl
  | [_] => cases h
  | _ :: _ :: _ => cases h

/-- The first of the rows with the largest key. -/
def largest (key : α → Int) : List α → Option α
  | [] => none
  | a :: rest =>
    match largest key rest with
    | none => some a
    | some b => if key a < key b then some b else some a

theorem largest_mem {key : α → Int} {l : List α} (h : largest key l = some a) : a ∈ l := by
  induction l with
  | nil => cases h
  | cons b rest ih =>
    simp only [largest] at h
    cases hrest : largest key rest with
    | none =>
      rw [hrest] at h
      cases h
      exact List.mem_cons_self
    | some c =>
      simp only [hrest] at h
      split at h
      · exact List.mem_cons_of_mem _ (ih (hrest.trans h))
      · cases h
        exact List.mem_cons_self

theorem largest_none {key : α → Int} {l : List α} (h : largest key l = none) : l = [] := by
  cases l with
  | nil => rfl
  | cons a rest =>
    simp only [largest] at h
    split at h
    · cases h
    · split at h <;> cases h

/-! ## Rows -/

/-- The id of the next row of a table. -/
def nextId (ids : List Nat) : Nat := ids.foldl max 0 + 1

/-- What a flush makes of a column that was loaded as `old` and set to `new`. -/
def patch [DecidableEq β] (old new current : β) : β := if old = new then current else new

def Subscription.patch (old new row : Subscription) : Subscription :=
  { row with
    subToken := AegisVPN.patch old.subToken new.subToken row.subToken
    clientUuid := AegisVPN.patch old.clientUuid new.clientUuid row.clientUuid
    planDays := AegisVPN.patch old.planDays new.planDays row.planDays
    startedAt := AegisVPN.patch old.startedAt new.startedAt row.startedAt
    expiresAt := AegisVPN.patch old.expiresAt new.expiresAt row.expiresAt
    isActive := AegisVPN.patch old.isActive new.isActive row.isActive }

theorem Subscription.patch_same (old row : Subscription) : old.patch old row = row := by
  simp [Subscription.patch, AegisVPN.patch]

def Db.setSubscription (db : Db D) (old new : Subscription) : Db D :=
  { db with subscriptions := db.subscriptions.map fun r =>
      if r.id = old.id then old.patch new r else r }

/-- Whether a row may have this token and this UUID beside the other rows. -/
def Db.freeIdentity (db : Db D) (sub : Subscription) : Bool :=
  db.subscriptions.all fun r =>
    r.id == sub.id || (r.subToken != sub.subToken && r.clientUuid != sub.clientUuid)

/-- Write the columns that were changed. -/
def updateSubscription (old new : Subscription) : DbAct D Unit := fun db =>
  if db.subscriptions.any fun r => r.id == old.id then
    if (old.subToken = new.subToken ∧ old.clientUuid = new.clientUuid) ∨ db.freeIdentity new then
      (.ok (), db.setSubscription old new)
    else (.error .integrity, db)
  else (.error .staleData, db)

def insertSubscription (sub : Subscription) : DbAct D Subscription := fun db =>
  let row := { sub with id := nextId (db.subscriptions.map Subscription.id) }
  if db.freeIdentity row && db.users.any fun u => u.id == sub.userId then
    (.ok row, { db with subscriptions := db.subscriptions ++ [row] })
  else (.error .integrity, db)

def updateUser (old new : User) : DbAct D Unit := fun db =>
  if db.users.any fun u => u.id == old.id then
    (.ok (), { db with users := db.users.map fun u => if u.id = old.id then
      { u with
        isBanned := AegisVPN.patch old.isBanned new.isBanned u.isBanned
        trialUsed := AegisVPN.patch old.trialUsed new.trialUsed u.trialUsed } else u })
  else (.error .staleData, db)

def insertUser (user : User) : DbAct D User := fun db =>
  let row := { user with id := nextId (db.users.map User.id) }
  if db.users.any fun u => u.tgId == user.tgId then (.error .integrity, db)
  else (.ok row, { db with users := db.users ++ [row] })

/-- One flush after another, as long as none fails. -/
def DbAct.andThen (a : DbAct D α) (b : DbAct D β) : DbAct D β := fun db =>
  match a db with
  | (.error e, db') => (.error e, db')
  | (.ok _, db') => b db'

/-- What waits in a session to be written. -/
abbrev Pending (D : Type) := List (DbAct D Unit)

def Pending.write : Pending D → DbAct D Unit
  | [] => fun db => (.ok (), db)
  | a :: rest => a.andThen (Pending.write rest)

/-- A session with nothing to write sends nothing. -/
def flush (pending : Pending D) : BotProg D Unit :=
  Prog.whenever (pending.isEmpty = false) (execute pending.write)

def dirtySubscription (old new : Subscription) : Pending D :=
  if old = new then [] else [updateSubscription old new]

def dirtyUser (old new : User) : Pending D := if old = new then [] else [updateUser old new]

/-! ## What the writes do -/

theorem updateSubscription_cases (old new : Subscription) (db : Db D) :
    (updateSubscription old new db = (.ok (), db.setSubscription old new) ∧
      (∃ r ∈ db.subscriptions, r.id = old.id) ∧
      (old.subToken = new.subToken ∧ old.clientUuid = new.clientUuid ∨
        db.freeIdentity new = true)) ∨
    ∃ e, updateSubscription old new db = (.error e, db) := by
  unfold updateSubscription
  split
  · rename_i hrow
    split
    · rename_i hfree
      simp only [List.any_eq_true, beq_iff_eq] at hrow
      exact .inl ⟨rfl, hrow, hfree⟩
    · exact .inr ⟨_, rfl⟩
  · exact .inr ⟨_, rfl⟩

theorem insertSubscription_cases (sub : Subscription) (db : Db D) :
    (∃ row, insertSubscription sub db =
        (.ok row, { db with subscriptions := db.subscriptions ++ [row] }) ∧
      row = { sub with id := nextId (db.subscriptions.map Subscription.id) } ∧
      db.freeIdentity row = true) ∨
    insertSubscription sub db = (.error .integrity, db) := by
  by_cases h : (db.freeIdentity { sub with id := nextId (db.subscriptions.map Subscription.id) } &&
      db.users.any fun u => u.id == sub.userId) = true
  · refine .inl ⟨_, ?_, rfl, (Bool.and_eq_true_iff.1 h).1⟩
    simp only [insertSubscription, h, ↓reduceIte]
  · refine .inr ?_
    simp only [insertSubscription, h, Bool.false_eq_true, ↓reduceIte]

theorem DbAct.andThen_ok {a : DbAct D α} {b : DbAct D β} (h : (a.andThen b db).1 = .ok y) :
    ∃ x, (a db).1 = .ok x ∧ (b (a db).2).1 = .ok y ∧ (a.andThen b db).2 = (b (a db).2).2 := by
  unfold DbAct.andThen at h ⊢
  generalize a db = r at h ⊢
  obtain ⟨x, db'⟩ := r
  cases x with
  | error e => cases h
  | ok x => exact ⟨x, rfl, h, rfl⟩

theorem write_split {a b : Pending D} (h : Pending.write (a ++ b) db = (.ok (), db')) :
    ∃ db₁, Pending.write a db = (.ok (), db₁) ∧ Pending.write b db₁ = (.ok (), db') := by
  induction a generalizing db with
  | nil => exact ⟨db, rfl, h⟩
  | cons act a ih =>
    rw [List.cons_append, Pending.write, DbAct.andThen] at h
    cases hone : act db with
    | mk r db₁ =>
      rw [hone] at h
      cases r with
      | error e => cases h
      | ok _ =>
        obtain ⟨db₂, ha, hb⟩ := ih h
        refine ⟨db₂, ?_, hb⟩
        rw [Pending.write, DbAct.andThen, hone]
        exact ha

theorem dirtySubscription_patches {old new : Subscription}
    (h : Pending.write (dirtySubscription old new) db = (.ok (), db')) :
    db' = db.setSubscription old new := by
  rw [dirtySubscription] at h
  split at h
  · rename_i hsame
    cases h
    have hrow : ∀ r : Subscription, (if r.id = old.id then old.patch new r else r) = r := by
      intro r
      rw [← hsame, Subscription.patch_same, ite_self]
    simp only [Db.setSubscription, hrow, List.map_id']
  · rw [Pending.write, DbAct.andThen] at h
    rcases updateSubscription_cases old new db with ⟨ho, -, -⟩ | ⟨e, ho⟩ <;> rw [ho] at h <;>
      cases h
    rfl

theorem lt_nextId {l : List Nat} (h : i ∈ l) : i < nextId l := by
  have hle : ∀ (l : List Nat) m, m ≤ l.foldl max m ∧ ∀ i ∈ l, i ≤ l.foldl max m := by
    intro l
    induction l with
    | nil => exact fun m => ⟨Nat.le_refl m, nofun⟩
    | cons a l ih =>
      intro m
      obtain ⟨h₁, h₂⟩ := ih (max m a)
      refine ⟨(Nat.le_max_left m a).trans h₁, fun i hi => ?_⟩
      rcases List.mem_cons.1 hi with rfl | hi
      · exact (Nat.le_max_right m i).trans h₁
      · exact h₂ i hi
  exact Nat.lt_succ_of_le ((hle l 0).2 i h)

end AegisVPN
