import Gatehouse.Identity
import Gatehouse.Password

/-!
The member roster: members by canonical identity, each with a number and a salted password
digest.

Registering brings the identity to its canonical form first and refuses one already taken;
numbers are handed out from 1 upwards and never reused. The next number is a signed 64-bit
counter that a registration moves on by one, wrapping past 2^63 - 1 to -2^63 as an atomic
64-bit add does. Look-ups and removal take the identity as given: callers pass the canonical
form.

The lemmas at the end say exactly what a registration returns and stores, when it is refused,
and that a removed identity has no member.
-/

namespace Gatehouse.Store

/-- What the roster keeps for a member. -/
structure Member where
  id : Int
  digest : String
  salt : String
  deriving DecidableEq, Repr

/-- Why a roster operation fails. -/
inductive RosterFault where
  | notFound (identity : String)
  | alreadyExists (identity : String)
  | unavailable (detail : String)
  deriving DecidableEq, Repr

namespace RosterFault

/-- The name of each fault. -/
def kind : RosterFault → String
  | .notFound _ => "NotFound"
  | .alreadyExists _ => "AlreadyExists"
  | .unavailable _ => "Unavailable"

/-- The words for each fault. -/
def message : RosterFault → String
  | .notFound i => "member not found: " ++ i
  | .alreadyExists i => "member already exists: " ++ i
  | .unavailable d => "user store unavailable: " ++ d

end RosterFault

/-- The roster: members by identity, and the next number to hand out. -/
structure Roster where
  members : List (String × Member)
  nextId : Int64
  deriving Repr

namespace Roster

/-- The roster with no members. -/
def empty : Roster := ⟨[], 1⟩

/-- The number of members. -/
def size (r : Roster) : Nat := r.members.length

/-- The member under an identity. -/
def find? (r : Roster) (identity : String) : Option Member :=
  (r.members.find? (·.1 == identity)).map (·.2)

/-- The roster after registering a raw identity with a password under a salt, and the new
member's number. -/
def register (r : Roster) (raw password salt : String) : Except RosterFault (Int × Roster) :=
  let identity := Identity.normalize raw
  if (r.find? identity).isSome then .error (.alreadyExists identity)
  else
    let m : Member := ⟨r.nextId.toInt, Password.digest password salt, salt⟩
    .ok (r.nextId.toInt, ⟨r.members ++ [(identity, m)], r.nextId + 1⟩)

/-- The roster after removing the member under an identity. -/
def delete (r : Roster) (identity : String) : Except RosterFault Roster :=
  if (r.find? identity).isSome then .ok { r with members := r.members.filter (·.1 != identity) }
  else .error (.notFound identity)

/-! ## What registration and removal do -/

/-- A registration hands out the next number, stores the member under the canonical identity
after all others, and moves the next number on. -/
theorem register_eq_ok {r r' : Roster} {raw password salt : String} {id : Int}
    (h : r.register raw password salt = .ok (id, r')) :
    id = r.nextId.toInt ∧ r'.nextId = r.nextId + 1
      ∧ r'.members = r.members
        ++ [(Identity.normalize raw, ⟨r.nextId.toInt, Password.digest password salt, salt⟩)] := by
  unfold register at h
  dsimp only at h
  split at h
  · cases h
  · cases h
    exact ⟨rfl, rfl, rfl⟩

/-- A registration is refused only when the canonical identity already has a member. -/
theorem register_eq_error {r : Roster} {raw password salt : String} {f : RosterFault}
    (h : r.register raw password salt = .error f) :
    f = .alreadyExists (Identity.normalize raw) ∧ (r.find? (Identity.normalize raw)).isSome := by
  unfold register at h
  dsimp only at h
  split at h
  · rename_i hs
    cases h
    exact ⟨rfl, hs⟩
  · cases h

theorem find?_delete_self {r r' : Roster} {identity : String} (h : r.delete identity = .ok r') :
    r'.find? identity = none := by
  unfold delete at h
  split at h
  · cases h
    simp [find?, List.find?_eq_none]
  · cases h

end Roster

end Gatehouse.Store
