import Gatehouse.Auth.Fault
import Gatehouse.Clock
import Gatehouse.Store.Cache
import Gatehouse.Store.Roster
import Gatehouse.Uuid

/-!
The state of a running gate and its primitive operations.

The gate holds its policy (the two signing secrets and three lifetimes), a clock, the cache
and the member roster. Planned outages make chosen cache or roster operations fail: an
outage names an operation (or `*` for all) and a prefix of the keys or identities it hits.
An operation hit by an outage fails before it looks at the store and changes nothing; a
cache read-for-existence is hit only by outages of `exists`.

The gate counts the identity look-ups it makes on the roster, failed ones included, and
draws identifiers (token ids and salts) from a serial number.

Operations are state transformers: `GateM α` runs on the state and either answers or refuses
with an `Auth.Fault`.
-/

namespace Gatehouse.Gate

open Store

/-- The signing secrets and lifetimes (in seconds) the gate works with. -/
structure Policy where
  accessSecret : List UInt8
  refreshSecret : List UInt8
  accessTtl : Nat
  refreshTtl : Nat
  sessionTtl : Nat
  deriving Repr

/-- A planned outage: the operation it hits (`*` for every one) and the prefix of the keys or
identities it hits. -/
structure Outage where
  op : String
  keyPrefix : String
  deriving DecidableEq, Repr

/-- Whether an outage hits an operation on a key. -/
def Outage.hits (o : Outage) (op key : String) : Bool :=
  (o.op == "*" || o.op == op) && key.startsWith o.keyPrefix

/-- Whether any of a list of outages hits an operation on a key. -/
def hit (outages : List Outage) (op key : String) : Bool := outages.any (·.hits op key)

/-- The state of a gate. -/
structure System where
  policy : Policy
  clock : Clock
  cache : Cache
  roster : Roster
  cacheOutages : List Outage
  rosterOutages : List Outage
  lookups : Nat
  serial : Nat

/-- A step of the gate that may refuse. -/
abbrev GateM := ExceptT Auth.Fault (StateM System)

/-- A gate with nothing in its stores, started on the given clock. -/
def System.init (policy : Policy) (capacity : Nat) (clock : Clock) : System :=
  ⟨policy, clock, Cache.empty capacity, Roster.empty, [], [], 0, 0⟩

/-! ## Identifiers -/

/-- A fresh version-4 identifier. -/
def freshUuid : StateM System (List UInt8) :=
  modifyGet fun s => (Uuid.ofSerial s.serial, { s with serial := s.serial + 1 })

/-! ## The cache, behind its outages -/

/-- Read a key. -/
def cacheGet (key : String) : StateM System (Except CacheFault (Option String)) :=
  modifyGet fun s =>
    if hit s.cacheOutages "get" key then (.error .poisoned, s)
    else
      let (v, c) := s.cache.get key s.clock.instant
      (.ok v, { s with cache := c })

/-- Write a key for a span. -/
def cacheSet (key value : String) (ttl : Span) :
    StateM System (Except CacheFault Unit) :=
  modifyGet fun s =>
    if hit s.cacheOutages "set" key then (.error .poisoned, s)
    else
      match s.cache.set key value ttl s.clock with
      | .ok c => (.ok (), { s with cache := c })
      | .error e => (.error e, s)

/-- Remove a key. -/
def cacheDelete (key : String) : StateM System (Except CacheFault Unit) :=
  modifyGet fun s =>
    if hit s.cacheOutages "delete" key then (.error .poisoned, s)
    else (.ok (), { s with cache := s.cache.delete key })

/-- Whether a key holds a live value; a read of it. -/
def cacheExists (key : String) : StateM System (Except CacheFault Bool) :=
  modifyGet fun s =>
    if hit s.cacheOutages "exists" key then (.error .poisoned, s)
    else
      let (v, c) := s.cache.get key s.clock.instant
      (.ok v.isSome, { s with cache := c })

/-- A cache operation inside a gate step: a cache fault is an internal refusal. -/
def cached {α : Type} (x : StateM System (Except CacheFault α)) : GateM α :=
  ExceptT.mk do
    let r ← x
    pure (r.mapError fun e => .internal e.message)

/-! ## The roster, behind its outages -/

/-- The refusal of a planned roster outage. -/
def rosterDown : RosterFault := .unavailable "injected"

/-- The number of the member under an identity; a counted look-up. -/
def findId (identity : String) : StateM System (Except RosterFault (Option Int)) :=
  modifyGet fun s =>
    let s := { s with lookups := s.lookups + 1 }
    if hit s.rosterOutages "find_id" identity then (.error rosterDown, s)
    else (.ok ((s.roster.find? identity).map (·.id)), s)

/-- What the roster keeps for the member under an identity. -/
def findMember (identity : String) : StateM System (Except RosterFault (Option Member)) :=
  fun s =>
    if hit s.rosterOutages "find_credentials" identity then (.error rosterDown, s)
    else (.ok (s.roster.find? identity), s)

/-- Remove the member under an identity. -/
def deleteMember (identity : String) : StateM System (Except RosterFault Unit) :=
  modifyGet fun s =>
    if hit s.rosterOutages "delete" identity then (.error rosterDown, s)
    else
      match s.roster.delete identity with
      | .ok r => (.ok (), { s with roster := r })
      | .error e => (.error e, s)

/-- The refusal a roster fault becomes: a missing member is an unknown user, anything else
an internal refusal. -/
def RosterFault.toAuth : RosterFault → Auth.Fault
  | .notFound _ => .unauthorizedUser
  | e => .internal e.message

/-- A roster operation inside a gate step. -/
def rostered {α : Type} (x : StateM System (Except RosterFault α)) : GateM α :=
  ExceptT.mk do
    let r ← x
    pure (r.mapError RosterFault.toAuth)

/-- Register a raw identity with a password, under a fresh salt. -/
def register (raw password : String) : StateM System (Except RosterFault Int) := do
  let salt := Uuid.simple (← freshUuid)
  modifyGet fun s =>
    match s.roster.register raw password salt with
    | .ok (id, r) => (.ok id, { s with roster := r })
    | .error e => (.error e, s)

end Gatehouse.Gate
