import Gatehouse.Proofs.Gate.Interleaving
import Gatehouse.Proofs.Token.RoundTrip
import Mathlib.Data.List.TakeWhile

/-!
Calls that consume one identity's session, interleaved at the calls they await.

A reissue exchanges the identity's active refresh token for a new pair: it reads the kept token
and compares it with the one offered, looks the identity up in the roster, and saves the new
refresh token in the old one's place. A logout checks that a token is kept and deletes it. Each
is several calls on the stores with no compare-and-set between them, and other calls may run
in between. `Reissuing` and `LoggingOut` are the points each can stand at, with their identity
already read off their token; run alone, each is the operation it splits (`reissuing_alone`,
`loggingOut_alone`).

`Consumers` runs any number of such calls on one gate under a schedule of task numbers, and
records the calls made, in order, with the task that made each. Read off that record:

* a reissue answers with a new pair exactly when no save or delete of the kept token came
  before its read of it (`wroteBefore`), and otherwise refuses the caller as not logged in;
* a logout answers exactly when the last save or delete before its check was not a delete
  (`revokedBefore`), and is refused otherwise;
* the kept token is the one offered while nothing was saved or deleted, nothing after a
  delete, and after a save the token of the reissue that made it (`lastWrite?`).

`ConsumeInv` carries these through every call (`ConsumeInv.step`, `consumeInv_run`);
`consumption_decided_by_order` states them of every schedule. So two reissues of one token can
both answer, and a logout can answer while a reissue that read the token before it goes on
to save a new one that stays active.
-/

namespace Gatehouse.Gate

open Store Token

-- ============================================================ minting refresh tokens

/-- The refresh token the gate mints for an identity from serial `n`, at its clock and under its
policy. -/
def System.mintedRefresh (s : System) (identity : String) (n : Nat) : String :=
  encode (issuedClaims (some identity) s.clock.unixSecs (Span.ofSecs s.policy.refreshTtl)
    (Uuid.hyphenated (Uuid.ofSerial n))) s.policy.refreshSecret

/-- A save of a refresh token stores it: the refresh lifetime is not empty, and its end can be
represented on the gate's clock. -/
def System.StoresRefresh (s : System) : Prop :=
  (Span.ofSecs s.policy.refreshTtl).isZero = false ∧
    (s.clock.after (Span.ofSecs s.policy.refreshTtl)).isSome

instance (s : System) : Decidable s.StoresRefresh := inferInstanceAs (Decidable (_ ∧ _))

theorem System.mintedRefresh_eq (s : System) (identity : String) (n : Nat) :
    s.mintedRefresh identity n = encode (issuedClaims (some identity) s.clock.unixSecs
      (Span.ofSecs s.policy.refreshTtl) (Uuid.hyphenated (Uuid.ofSerial n))) s.policy.refreshSecret :=
  rfl

theorem freshClaims_eq (sub : Option String) (ttl : Nat) (s : System) :
    freshClaims sub ttl s = (issuedClaims sub s.clock.unixSecs (Span.ofSecs ttl)
      (Uuid.hyphenated (Uuid.ofSerial s.serial)), { s with serial := s.serial + 1 }) := rfl

theorem issueAccess_snd (identity : String) (s : System) :
    (issueAccess identity s).2 = { s with serial := s.serial + 1 } := rfl

/-- A refresh token takes the next serial, and its save decides the answer. -/
theorem run_issueRefresh (identity : String) (s : System) :
    (issueRefresh identity).run s =
      match (cached (cacheSet (refreshKey identity) (s.mintedRefresh identity s.serial)
          (Span.ofSecs s.policy.refreshTtl))).run { s with serial := s.serial + 1 } with
      | (.ok _, s') => (.ok (s.mintedRefresh identity s.serial), s')
      | (.error e, s') => (.error e, s') := by
  rw [System.mintedRefresh_eq]
  unfold issueRefresh
  rw [run_bind, run_get]
  dsimp only
  rw [run_bind, run_lift, freshClaims_eq]
  dsimp only
  rw [run_bind]
  rcases (cached (cacheSet (refreshKey identity) (encode (issuedClaims (some identity)
    s.clock.unixSecs (Span.ofSecs s.policy.refreshTtl) (Uuid.hyphenated (Uuid.ofSerial s.serial)))
    s.policy.refreshSecret) (Span.ofSecs s.policy.refreshTtl))).run
    { s with serial := s.serial + 1 } with ⟨_ | u, s1⟩ <;> rfl

/-- A new pair: the access token takes the next serial, and the refresh token decides the
answer. -/
theorem run_issuePair (identity : String) (id : Int) (s : System) :
    (issuePair identity id).run s =
      match (issueRefresh identity).run { s with serial := s.serial + 1 } with
      | (.ok refresh, s') => (.ok ⟨id, (issueAccess identity s).1, refresh⟩, s')
      | (.error e, s') => (.error e, s') := by
  unfold issuePair
  rw [run_bind, run_lift, issueAccess_snd]
  dsimp only
  rw [run_bind]
  rcases (issueRefresh identity).run { s with serial := s.serial + 1 } with ⟨_ | t, s1⟩ <;> rfl

/-- On a gate without outages whose refresh lifetime stores, a refresh token is saved and kept
live. -/
theorem issueRefresh_saves (identity : String) {s : System} (hc : s.cacheOutages = [])
    (hst : s.StoresRefresh) :
    ∃ c, (issueRefresh identity).run s =
        (.ok (s.mintedRefresh identity s.serial), { s with serial := s.serial + 1, cache := c }) ∧
      ({ s with serial := s.serial + 1, cache := c } : System).live (refreshKey identity) =
        some (s.mintedRefresh identity s.serial) := by
  rw [run_issueRefresh]
  rcases run_cacheSet_quiet (refreshKey identity) (s.mintedRefresh identity s.serial)
      (Span.ofSecs s.policy.refreshTtl) { s with serial := s.serial + 1 }
      (by simp [hc, hit]) with ⟨-, c, hs, hrun⟩ | ⟨⟨-, ha⟩, -⟩
  · rw [hrun]
    exact ⟨c, rfl, Cache.get_fst_set_self hs hst.1⟩
  · -- the end of the lifetime is representable, so the save is not refused
    have := hst.2
    simp only [ha, Option.isSome_none, Bool.false_eq_true] at this

/-- On a gate without outages whose refresh lifetime stores, a new pair is saved: its refresh
token, minted from the serial after the access token's, is kept live, and nothing else the
gate reads moves but the serial. -/
theorem issuePair_saves (identity : String) {s : System} (id : Int) (hc : s.cacheOutages = [])
    (hst : s.StoresRefresh) :
    ∃ s', (issuePair identity id).run s =
        (.ok ⟨id, (issueAccess identity s).1, s.mintedRefresh identity (s.serial + 1)⟩, s') ∧
      s'.live (refreshKey identity) = some (s.mintedRefresh identity (s.serial + 1)) ∧
      s'.policy = s.policy ∧ s'.clock = s.clock ∧ s'.roster = s.roster ∧
      s'.cacheOutages = s.cacheOutages ∧ s'.rosterOutages = s.rosterOutages ∧
      s'.serial = s.serial + 2 := by
  -- the state the access token leaves is the one the refresh token is minted from
  obtain ⟨c, hrun, hlive⟩ := @issueRefresh_saves identity { s with serial := s.serial + 1 } hc hst
  rw [run_issuePair, hrun]
  exact ⟨_, rfl, hlive, rfl, rfl, rfl, rfl, rfl, rfl⟩

-- ============================================================ the calls, call by call

/-- Where a reissue stands between its calls, its identity already read off its token. -/
inductive Reissuing where
  | reading
  | looking
  | saving (id : Int)
  | answered (r : Except Auth.Fault Issued)
  deriving DecidableEq, Repr

/-- Where a logout stands between its calls, its identity already read off its access token. -/
inductive LoggingOut where
  | checking
  | revoking
  | answered (r : Except Auth.Fault Unit)
  deriving DecidableEq, Repr

namespace Reissuing

/-- The next call of a reissue of `token` for `identity`, as `reissue` makes it. -/
def call (identity token : String) : Reissuing → GateM Reissuing
  | .reading => do
    match ← cached (cacheGet (refreshKey identity)) with
    | some current => if current == Text.trim token then pure .looking else throw .userNotLoggedIn
    | none => throw .userNotLoggedIn
  | .looking => do
    match ← rostered (findId identity) with
    | none => throw .unauthorizedUser
    | some id => pure (.saving id)
  | .saving id => do
    pure (.answered (.ok (← issuePair identity id)))
  | .answered r => pure (.answered r)

/-- The call a reissue makes next, unless it has answered. -/
def awaits : Reissuing → Option Await
  | .reading => some .read
  | .looking => some .lookup
  | .saving _ => some .write
  | .answered _ => none

/-- One call of a reissue. -/
def step (identity token : String) (r : Reissuing) : System → Reissuing × System :=
  settle (r.call identity token) answered

end Reissuing

namespace LoggingOut

/-- The next call of a logout of `identity`, as `logout` makes it. -/
def call (identity : String) : LoggingOut → GateM LoggingOut
  | .checking => do
    if !(← cached (cacheExists (refreshKey identity))) then throw .userNotLoggedIn
    pure .revoking
  | .revoking => do
    cached (cacheDelete (refreshKey identity))
    pure (.answered (.ok ()))
  | .answered r => pure (.answered r)

/-- The call a logout makes next, unless it has answered. -/
def awaits : LoggingOut → Option Await
  | .checking => some .check
  | .revoking => some .revoke
  | .answered _ => none

/-- One call of a logout. -/
def step (identity : String) (l : LoggingOut) : System → LoggingOut × System :=
  settle (l.call identity) answered

end LoggingOut

-- ============================================================ what each call does

section Calls

variable (identity token : String) (s : System)

namespace Reissuing

theorem step_reading : reading.step identity token s =
    if hit s.cacheOutages "get" (refreshKey identity) then
      (.answered (.error (.internal CacheFault.poisoned.message)), s)
    else
      (if s.live (refreshKey identity) = some (Text.trim token) then .looking
        else .answered (.error .userNotLoggedIn),
        { s with cache := (s.cache.get (refreshKey identity) s.clock.instant).2 }) := by
  unfold step settle call
  rw [run_bind, run_cached, cacheGet_eq]
  by_cases hget : hit s.cacheOutages "get" (refreshKey identity) = true
  · rw [if_pos hget, if_pos hget]
    rfl
  · rw [if_neg hget, if_neg hget]
    dsimp only [Except.mapError]
    cases s.live (refreshKey identity) with
    | none => rfl
    | some v =>
      by_cases hv : v = Text.trim token
      · rw [if_pos (congrArg some hv)]
        simp [hv, pure]
        rfl
      · rw [if_neg (fun h => hv (Option.some.inj h))]
        simp [hv, throw, throwThe, MonadExceptOf.throw, ExceptT.mk]
        rfl

theorem step_looking : looking.step identity token s =
    (if hit s.rosterOutages "find_id" identity then
        .answered (.error (RosterFault.toAuth rosterDown))
      else ((s.roster.find? identity).map (·.id)).elim (.answered (.error .unauthorizedUser))
        .saving,
      { s with lookups := s.lookups + 1 }) := by
  unfold step settle call
  rw [run_bind, run_rostered, findId_eq]
  by_cases hfind : hit s.rosterOutages "find_id" identity = true
  · rw [if_pos hfind, if_pos hfind]
    rfl
  · rw [if_neg hfind, if_neg hfind]
    dsimp only [Except.mapError]
    cases (s.roster.find? identity).map (·.id) <;> rfl

theorem step_saving (id : Int) : (saving id).step identity token s =
    (.answered ((issuePair identity id).run s).1, ((issuePair identity id).run s).2) := by
  unfold step settle call
  rw [run_bind]
  rcases (issuePair identity id).run s with ⟨_ | iss, s1⟩ <;> rfl

@[simp]
theorem step_answered (r : Except Auth.Fault Issued) :
    (answered r).step identity token s = (answered r, s) := rfl

end Reissuing

namespace LoggingOut

theorem step_checking : checking.step identity s =
    if hit s.cacheOutages "exists" (refreshKey identity) then
      (.answered (.error (.internal CacheFault.poisoned.message)), s)
    else
      (if (s.live (refreshKey identity)).isSome then .revoking
        else .answered (.error .userNotLoggedIn),
        { s with cache := (s.cache.get (refreshKey identity) s.clock.instant).2 }) := by
  unfold step settle call
  rw [run_bind, run_cached, cacheExists_eq]
  by_cases hexists : hit s.cacheOutages "exists" (refreshKey identity) = true
  · rw [if_pos hexists, if_pos hexists]
    rfl
  · rw [if_neg hexists, if_neg hexists]
    dsimp only [Except.mapError]
    cases (s.live (refreshKey identity)).isSome <;> rfl

theorem step_revoking : revoking.step identity s =
    if hit s.cacheOutages "delete" (refreshKey identity) then
      (.answered (.error (.internal CacheFault.poisoned.message)), s)
    else (.answered (.ok ()), { s with cache := s.cache.erase (refreshKey identity) }) := by
  unfold step settle call
  rw [run_bind, run_cached, cacheDelete_eq]
  by_cases hdel : hit s.cacheOutages "delete" (refreshKey identity) = true
  · rw [if_pos hdel, if_pos hdel]
    rfl
  · rw [if_neg hdel, if_neg hdel]
    rfl

@[simp]
theorem step_answered (r : Except Auth.Fault Unit) :
    (answered r).step identity s = (answered r, s) := rfl

end LoggingOut

end Calls

/-- The identity of a refresh token that decodes to `identity`: refused unless the kept token
is the offered one, trimmed. -/
theorem run_refreshIdentity_of_decode {token identity : String} {c : Claims} {s : System}
    (hdec : decode token s.policy.refreshSecret s.clock.unixSecs = .ok c)
    (hid : c.identity? = some identity) :
    (refreshIdentity token).run s =
      if hit s.cacheOutages "get" (refreshKey identity) then
        (.error (.internal CacheFault.poisoned.message), s)
      else
        (if s.live (refreshKey identity) = some (Text.trim token) then .ok identity
          else .error .userNotLoggedIn,
          { s with cache := (s.cache.get (refreshKey identity) s.clock.instant).2 }) := by
  unfold refreshIdentity
  rw [run_bind, run_decodeRefresh, hdec]
  dsimp only [Except.mapError]
  rw [hid]
  dsimp only
  rw [run_bind, run_pure]
  dsimp only
  rw [run_bind, run_cached, cacheGet_eq]
  by_cases hget : hit s.cacheOutages "get" (refreshKey identity) = true
  · rw [if_pos hget, if_pos hget]
    rfl
  rw [if_neg hget, if_neg hget]
  dsimp only [Except.mapError]
  by_cases hlive : s.live (refreshKey identity) = some (Text.trim token)
  · rw [if_pos hlive, hlive]
    simp only [beq_self_eq_true, if_true]
    rfl
  · rw [if_neg hlive]
    cases hv : s.live (refreshKey identity) with
    | none => rfl
    | some v =>
      have hne : (v == Text.trim token) = false := by
        rw [hv] at hlive
        simpa using hlive
      simp only [hne]
      rfl
/-- Run alone, the three calls of a reissue of a token carrying `identity` are `reissue`. -/
theorem reissuing_alone (token identity : String) (c : Claims) (s : System)
    (hdec : decode token s.policy.refreshSecret s.clock.unixSecs = .ok c)
    (hid : c.identity? = some identity) :
    let q1 := Reissuing.reading.step identity token s
    let q2 := q1.1.step identity token q1.2
    q2.1.step identity token q2.2 = (.answered ((reissue token).run s).1, ((reissue token).run s).2) := by
  intro q1 q2
  unfold reissue
  rw [run_bind, run_refreshIdentity_of_decode hdec hid]
  simp only [q2, q1, Reissuing.step_reading]
  by_cases hget : hit s.cacheOutages "get" (refreshKey identity) = true
  · rw [if_pos hget, if_pos hget]
    rfl
  rw [if_neg hget, if_neg hget]
  by_cases hlive : s.live (refreshKey identity) = some (Text.trim token)
  · -- the offered token is the kept one: the look-up and the save follow
    rw [if_pos hlive, if_pos hlive]
    dsimp only
    rw [Reissuing.step_looking, run_bind, run_rostered, findId_eq]
    by_cases hfind : hit s.rosterOutages "find_id" identity = true
    · rw [if_pos hfind, if_pos hfind]
      rfl
    rw [if_neg hfind, if_neg hfind]
    dsimp only [Except.mapError]
    cases (s.roster.find? identity).map (·.id) with
    | none => rfl
    | some id =>
      dsimp only [Option.elim]
      rw [Reissuing.step_saving]
  · rw [if_neg hlive, if_neg hlive]
    rfl

/-- Run alone, the two calls of a logout of the identity an access token carries are
`logout`. -/
theorem loggingOut_alone (token identity : String) (s : System)
    (h : ((accessIdentity token).run s).1 = .ok identity) :
    let q := LoggingOut.checking.step identity s
    q.1.step identity q.2 = (.answered ((logout token).run s).1, ((logout token).run s).2) := by
  intro q
  unfold logout
  rw [run_bind, run_accessIdentity, h]
  dsimp only
  rw [run_revoke]
  simp only [q, LoggingOut.step_checking]
  by_cases hexists : hit s.cacheOutages "exists" (refreshKey identity) = true
  · rw [if_pos hexists, if_pos hexists]
    rfl
  rw [if_neg hexists, if_neg hexists]
  by_cases hlive : (s.live (refreshKey identity)).isSome = true
  · rw [if_pos hlive, if_pos hlive, run_cached, cacheDelete_eq, LoggingOut.step_revoking]
    by_cases hdel : hit s.cacheOutages "delete" (refreshKey identity) = true
    · rw [if_pos hdel, if_pos hdel]
      rfl
    · rw [if_neg hdel, if_neg hdel]
      rfl
  · rw [if_neg hlive, if_neg hlive]
    rfl

-- ============================================================ the record of calls

/-- The calls that change the kept refresh token: a save and a delete. -/
def Await.changes : Await → Bool
  | .write | .revoke => true
  | _ => false

theorem Await.eq_of_changes {a : Await} (h : a.changes = true) : a = .write ∨ a = .revoke := by
  cases a <;> simp_all [Await.changes]

/-- The calls task `k` has made, in order. -/
def callsOf (k : Nat) (t : List (Nat × Await)) : List Await := (t.filter (·.1 == k)).map (·.2)

/-- The calls made before task `k`'s call `a`: all of them while it has not made it. -/
def callsBefore (k : Nat) (a : Await) (t : List (Nat × Await)) : List (Nat × Await) :=
  t.takeWhile (· != (k, a))

/-- The last save or delete of the kept token. -/
def lastChange? (t : List (Nat × Await)) : Option (Nat × Await) :=
  (t.filter (·.2.changes)).getLast?

/-- A save or a delete came before task `k`'s call `a`. -/
def changedBefore (k : Nat) (a : Await) (t : List (Nat × Await)) : Bool :=
  (callsBefore k a t).any (·.2.changes)

/-- The last save or delete before task `k`'s call `a` was a delete. -/
def revokedBefore (k : Nat) (a : Await) (t : List (Nat × Await)) : Bool :=
  (lastChange? (callsBefore k a t)).any (·.2 == .revoke)

section Record

variable {k j : Nat} {a b : Await} {t : List (Nat × Await)}

theorem callsOf_append_other (h : j ≠ k) : callsOf k (t ++ [(j, b)]) = callsOf k t := by
  simp [callsOf, h]

theorem callsOf_append_self : callsOf k (t ++ [(k, b)]) = callsOf k t ++ [b] := by
  simp [callsOf]

theorem mem_of_mem_callsOf (h : a ∈ callsOf k t) : (k, a) ∈ t := by
  simp only [callsOf, List.mem_map, List.mem_filter, beq_iff_eq] at h
  obtain ⟨⟨k', a'⟩, ⟨hmem, rfl⟩, rfl⟩ := h
  exact hmem

theorem not_mem_of_callsOf_eq_nil (h : callsOf k t = []) : (k, a) ∉ t := by
  intro hmem
  have : a ∈ callsOf k t := by
    simp only [callsOf, List.mem_map, List.mem_filter, beq_iff_eq]
    exact ⟨(k, a), ⟨hmem, rfl⟩, rfl⟩
  simp [h] at this

/-- Once task `k` has made its call `a`, later calls leave what came before it as it was. -/
theorem callsBefore_append_of_mem (h : (k, a) ∈ t) (u : List (Nat × Await)) :
    callsBefore k a (t ++ u) = callsBefore k a t := by
  unfold callsBefore
  rw [List.takeWhile_append, if_neg]
  intro hlen
  have hall := List.takeWhile_eq_self_iff.1 ((List.takeWhile_prefix _).eq_of_length hlen)
  simpa using hall (k, a) h

/-- Task `k`'s call `a`, made now, comes after everything before it. -/
theorem callsBefore_append_self (h : (k, a) ∉ t) : callsBefore k a (t ++ [(k, a)]) = t := by
  unfold callsBefore
  rw [List.takeWhile_append_of_pos]
  · simp
  · intro x hx
    simp only [bne_iff_ne, ne_eq]
    rintro rfl
    exact h hx

theorem lastChange?_append (e : Nat × Await) :
    lastChange? (t ++ [e]) = if e.2.changes then some e else lastChange? t := by
  unfold lastChange?
  cases he : e.2.changes <;> simp [List.filter_append, he]

theorem lastChange?_eq_none : lastChange? t = none ↔ t.any (·.2.changes) = false := by
  simp [lastChange?]

/-- A change that comes last was made. -/
theorem changes_of_lastChange? {e : Nat × Await} (h : lastChange? t = some e) :
    e.2.changes = true := by
  unfold lastChange? at h
  exact (List.mem_filter.1 (List.mem_of_getLast? h)).2

end Record

-- ============================================================ calls consuming one session

/-- The two calls that consume a session. -/
inductive Consumer where
  | reissue
  | logout
  deriving DecidableEq, Repr

/-- A call consuming the session, and where it stands. -/
inductive Consuming where
  | reissue (r : Reissuing)
  | logout (l : LoggingOut)
  deriving DecidableEq, Repr

/-- A call at its start. -/
def Consumer.begin : Consumer → Consuming
  | .reissue => .reissue .reading
  | .logout => .logout .checking

namespace Consuming

/-- The call a task makes next, unless it has answered. -/
def awaits : Consuming → Option Await
  | .reissue r => r.awaits
  | .logout l => l.awaits

/-- One call of a task, a reissue of `token` or a logout, both for `identity`. -/
def step (identity token : String) : Consuming → System → Consuming × System
  | .reissue r, s => ((r.step identity token s).1 |> .reissue, (r.step identity token s).2)
  | .logout l, s => ((l.step identity s).1 |> .logout, (l.step identity s).2)

/-- What the calls made so far say of where task `k` stands, with `m` the member number of the
identity. A reissue reads, looks up and saves, and answers with a new pair exactly when no
save or delete came before its read; a logout checks and deletes, and answers exactly when the
last save or delete before its check was not a delete. Every refusal is `userNotLoggedIn`. -/
def Placed (k : Nat) (m : Int) (t : List (Nat × Await)) : Consuming → Prop
  | .reissue .reading => callsOf k t = []
  | .reissue .looking => callsOf k t = [.read] ∧ changedBefore k .read t = false
  | .reissue (.saving id) =>
    callsOf k t = [.read, .lookup] ∧ changedBefore k .read t = false ∧ id = m
  | .reissue (.answered r) =>
    (callsOf k t = [.read, .lookup, .write] ∧ changedBefore k .read t = false ∧
      ∃ iss, r = .ok iss ∧ iss.memberId = m) ∨
    (callsOf k t = [.read] ∧ changedBefore k .read t = true ∧ r = .error .userNotLoggedIn)
  | .logout .checking => callsOf k t = []
  | .logout .revoking => callsOf k t = [.check] ∧ revokedBefore k .check t = false
  | .logout (.answered r) =>
    (callsOf k t = [.check, .revoke] ∧ revokedBefore k .check t = false ∧ r = .ok ()) ∨
    (callsOf k t = [.check] ∧ revokedBefore k .check t = true ∧ r = .error .userNotLoggedIn)

/-- A call of another task keeps where task `k` stands: what came before its own calls is
as it was. -/
theorem Placed.append_other {c : Consuming} {k j : Nat} {m : Int} {t : List (Nat × Await)}
    {b : Await} (h : c.Placed k m t) (hjk : j ≠ k) : c.Placed k m (t ++ [(j, b)]) := by
  have hcalls := callsOf_append_other (t := t) (b := b) hjk
  -- once a call is made, what came before it is fixed
  have hkeep : ∀ a, a ∈ callsOf k t → callsBefore k a (t ++ [(j, b)]) = callsBefore k a t :=
    fun a ha => callsBefore_append_of_mem (mem_of_mem_callsOf ha) _
  have hread : (Await.read ∈ callsOf k t) →
      changedBefore k .read (t ++ [(j, b)]) = changedBefore k .read t := fun ha => by
    unfold changedBefore
    rw [hkeep _ ha]
  have hcheck : (Await.check ∈ callsOf k t) →
      revokedBefore k .check (t ++ [(j, b)]) = revokedBefore k .check t := fun ha => by
    unfold revokedBefore
    rw [hkeep _ ha]
  rcases c with (_ | _ | id | r) | (_ | _ | r) <;> simp only [Placed, hcalls] at h ⊢
  · exact h
  · rw [hread (by simp [h.1])]
    exact h
  · rw [hread (by simp [h.1])]
    exact h
  · rcases h with h | h
    · rw [hread (by simp [h.1])]
      exact .inl h
    · rw [hread (by simp [h.1])]
      exact .inr h
  · exact h
  · rw [hcheck (by simp [h.1])]
    exact h
  · rcases h with h | h
    · rw [hcheck (by simp [h.1])]
      exact .inl h
    · rw [hcheck (by simp [h.1])]
      exact .inr h

end Consuming

/-- Calls consuming one identity's session on one gate, and the calls made so far, in order,
each with the number of the task that made it. -/
structure Consumers where
  tasks : List Consuming
  system : System
  trace : List (Nat × Await)

namespace Consumers

/-- The calls at their start, on a gate. -/
def start (s : System) (calls : List Consumer) : Consumers := ⟨calls.map Consumer.begin, s, []⟩

/-- One call of task `k`; a number past the tasks changes nothing. -/
def step (identity token : String) (p : Consumers) (k : Nat) : Consumers :=
  match p.tasks[k]? with
  | none => p
  | some c =>
    let q := c.step identity token p.system
    ⟨p.tasks.set k q.1, q.2, p.trace ++ (c.awaits.map (k, ·)).toList⟩

/-- The calls after the ones a schedule picks, in turn. -/
def run (identity token : String) (p : Consumers) (schedule : List Nat) : Consumers :=
  schedule.foldl (step identity token) p

/-- The token kept for the identity, as the calls made so far leave it: the one offered while
nothing was saved or deleted, nothing after a delete, and after a save the refresh token of
the reissue that made it. -/
structure Keeps (token : String) (p : Consumers) (kept : Option String) : Prop where
  untouched : lastChange? p.trace = none → kept = some (Text.trim token)
  revoked : ∀ k, lastChange? p.trace = some (k, .revoke) → kept = none
  saved : ∀ k, lastChange? p.trace = some (k, .write) → ∃ iss : Issued,
    p.tasks[k]? = some (Consuming.reissue (.answered (.ok iss))) ∧ kept = some iss.refreshToken

theorem step_of_getElem? {identity token : String} {p : Consumers} {k : Nat} {c : Consuming}
    (h : p.tasks[k]? = some c) :
    p.step identity token k = ⟨p.tasks.set k (c.step identity token p.system).1,
      (c.step identity token p.system).2, p.trace ++ (c.awaits.map (k, ·)).toList⟩ := by
  simp [step, h]

end Consumers

-- ============================================================ the invariant

/-- What calls consuming the session of `identity`, whose member is `m`, keep when run from a
gate `s0` without outages: the gate reads as it did but for the serial, which only grows; the
kept token is the one the calls leave; every new refresh token was minted from a serial of
`s0` on; and every task stands where its calls say. -/
structure ConsumeInv (identity token : String) (m : Member) (s0 : System) (p : Consumers) :
    Prop where
  policy : p.system.policy = s0.policy
  clock : p.system.clock = s0.clock
  cacheOutages : p.system.cacheOutages = []
  rosterOutages : p.system.rosterOutages = []
  roster : p.system.roster = s0.roster
  serial : s0.serial ≤ p.system.serial
  kept : p.Keeps token (p.system.live (refreshKey identity))
  minted : ∀ (k : Nat) (iss : Issued), p.tasks[k]? = some (Consuming.reissue (.answered (.ok iss))) →
    ∃ n, s0.serial ≤ n ∧ iss.refreshToken = s0.mintedRefresh identity n
  placed : ∀ (k : Nat) (c : Consuming), p.tasks[k]? = some c → c.Placed k m.id p.trace

section Invariant

variable {identity token : String} {m : Member} {s0 : System} {p : Consumers}

theorem consumeInv_start (hc : s0.cacheOutages = []) (hr : s0.rosterOutages = [])
    (hlive : s0.live (refreshKey identity) = some (Text.trim token)) (calls : List Consumer) :
    ConsumeInv identity token m s0 (Consumers.start s0 calls) where
  policy := rfl
  clock := rfl
  cacheOutages := hc
  rosterOutages := hr
  roster := rfl
  serial := le_refl _
  kept :=
    -- nothing has been saved or deleted yet
    ⟨fun _ => hlive, fun _ h => absurd h (by simp [Consumers.start, lastChange?]),
      fun _ h => absurd h (by simp [Consumers.start, lastChange?])⟩
  minted := by
    intro k iss hk
    simp only [Consumers.start, List.getElem?_map, Option.map_eq_some_iff] at hk
    obtain ⟨b, -, hb⟩ := hk
    cases b <;> cases hb
  placed := by
    intro k c hk
    simp only [Consumers.start, List.getElem?_map, Option.map_eq_some_iff] at hk
    obtain ⟨b, -, rfl⟩ := hk
    cases b <;> rfl

theorem System.mintedRefresh_of {s : System} (hp : s.policy = s0.policy) (hc : s.clock = s0.clock)
    (identity : String) (n : Nat) : s.mintedRefresh identity n = s0.mintedRefresh identity n := by
  rw [System.mintedRefresh_eq, System.mintedRefresh_eq, hp, hc]

/-- Where one task moves, the others stand where they stood. -/
theorem placed_set {tasks : List Consuming} {t : List (Nat × Await)} {j : Nat} {c' : Consuming}
    {a : Await} {mid : Int} (h : ∀ (k : Nat) (c : Consuming), tasks[k]? = some c → c.Placed k mid t)
    (hj : c'.Placed j mid (t ++ [(j, a)])) :
    ∀ (k : Nat) (c : Consuming), (tasks.set j c')[k]? = some c → c.Placed k mid (t ++ [(j, a)]) := by
  intro k c hk
  by_cases hjk : j = k
  · subst hjk
    rw [List.getElem?_set] at hk
    split at hk
    · split at hk
      · cases hk
        exact hj
      · cases hk
    · contradiction
  · rw [List.getElem?_set_ne hjk] at hk
    exact (h k c hk).append_other hjk

/-- Where one task moves to a point that has not answered with a new pair, every task that has
so answered is another one. -/
theorem answered_set {tasks : List Consuming} {j : Nat} {c' : Consuming}
    (hc' : ∀ iss, c' ≠ .reissue (.answered (.ok iss))) {k : Nat} {iss : Issued}
    (hk : (tasks.set j c')[k]? = some (.reissue (.answered (.ok iss)))) :
    tasks[k]? = some (.reissue (.answered (.ok iss))) := by
  by_cases hjk : j = k
  · subst hjk
    rw [List.getElem?_set] at hk
    split at hk
    · split at hk
      · cases hk
        exact absurd rfl (hc' iss)
      · cases hk
    · contradiction
  · rwa [List.getElem?_set_ne hjk] at hk

/-- The offered token is read back exactly while nothing has been saved or deleted: a delete
leaves nothing, and a save a token minted after `s0`, which is not the offered one. -/
theorem ConsumeInv.offered_iff (h : ConsumeInv identity token m s0 p)
    (hnew : ∀ n, s0.serial ≤ n → s0.mintedRefresh identity n ≠ Text.trim token) :
    p.system.live (refreshKey identity) = some (Text.trim token) ↔
      p.trace.any (·.2.changes) = false := by
  cases hl : lastChange? p.trace with
  | none => exact ⟨fun _ => lastChange?_eq_none.1 hl, fun _ => h.kept.untouched hl⟩
  | some e =>
    obtain ⟨k, a⟩ := e
    have hany : p.trace.any (·.2.changes) = true := by
      cases hc : p.trace.any (·.2.changes)
      · rw [lastChange?_eq_none.2 hc] at hl
        cases hl
      · rfl
    rw [hany]
    simp only [Bool.true_eq_false, iff_false]
    rcases Await.eq_of_changes (changes_of_lastChange? hl) with rfl | rfl
    · -- a save: the kept token was minted after `s0`
      obtain ⟨iss, hk, hv⟩ := h.kept.saved k hl
      obtain ⟨n, hn, hiss⟩ := h.minted k iss hk
      rw [hv, hiss]
      exact fun heq => hnew n hn (Option.some.inj heq)
    · rw [h.kept.revoked k hl]
      simp

/-- A token is kept exactly unless the last save or delete was a delete. -/
theorem ConsumeInv.isSome_iff (h : ConsumeInv identity token m s0 p) :
    (p.system.live (refreshKey identity)).isSome = true ↔
      (lastChange? p.trace).any (·.2 == .revoke) = false := by
  cases hl : lastChange? p.trace with
  | none => simp [h.kept.untouched hl]
  | some e =>
    obtain ⟨k, a⟩ := e
    rcases Await.eq_of_changes (changes_of_lastChange? hl) with rfl | rfl
    · obtain ⟨iss, -, hv⟩ := h.kept.saved k hl
      simp [hv]
    · simp [h.kept.revoked k hl]

/-- A call that changes no kept token and moves the gate only in what it does not read keeps
the invariant, as long as the task that makes it had not answered with a new pair and does not
now. -/
theorem ConsumeInv.quiet (h : ConsumeInv identity token m s0 p) {j : Nat} {c c' : Consuming}
    {a : Await} {s' : System} (hj : p.tasks[j]? = some c)
    (hc : ∀ iss, c ≠ .reissue (.answered (.ok iss)))
    (hc' : ∀ iss, c' ≠ .reissue (.answered (.ok iss))) (ha : a.changes = false)
    (hkept : Kept p.system s') (hserial : p.system.serial ≤ s'.serial)
    (hplaced : c'.Placed j m.id (p.trace ++ [(j, a)])) :
    ConsumeInv identity token m s0 ⟨p.tasks.set j c', s', p.trace ++ [(j, a)]⟩ where
  policy := hkept.policy.trans h.policy
  clock := hkept.clock.trans h.clock
  cacheOutages := hkept.cacheOutages.trans h.cacheOutages
  rosterOutages := hkept.rosterOutages.trans h.rosterOutages
  roster := hkept.roster.trans h.roster
  serial := h.serial.trans hserial
  kept := by
    have hlast : lastChange? (p.trace ++ [(j, a)]) = lastChange? p.trace := by
      rw [lastChange?_append, ha]
      rfl
    refine ⟨fun hl => ?_, fun k hl => ?_, fun k hl => ?_⟩ <;> dsimp only at hl ⊢ <;>
      rw [hlast] at hl <;> rw [hkept.live]
    · exact h.kept.untouched hl
    · exact h.kept.revoked k hl
    · -- the last saver has answered, so it is not the task that moves now
      obtain ⟨iss, hk, hv⟩ := h.kept.saved k hl
      have hjk : j ≠ k := by
        rintro rfl
        rw [hj] at hk
        exact hc iss (Option.some.inj hk)
      exact ⟨iss, by rw [List.getElem?_set_ne hjk]; exact hk, hv⟩
  minted k iss hk := h.minted k iss (answered_set hc' hk)
  placed := placed_set h.placed hplaced

/-- The read: the reissue goes on exactly when nothing was saved or deleted before it. -/
theorem ConsumeInv.read (h : ConsumeInv identity token m s0 p)
    (hnew : ∀ n, s0.serial ≤ n → s0.mintedRefresh identity n ≠ Text.trim token) {j : Nat}
    (hj : p.tasks[j]? = some (.reissue .reading)) :
    ConsumeInv identity token m s0 (p.step identity token j) := by
  have hnil : callsOf j p.trace = [] := h.placed j _ hj
  -- the read is the task's first call: everything made so far came before it
  have hbefore : changedBefore j .read (p.trace ++ [(j, .read)]) = p.trace.any (·.2.changes) := by
    rw [changedBefore, callsBefore_append_self (not_mem_of_callsOf_eq_nil hnil)]
  have hcalls : callsOf j (p.trace ++ [(j, .read)]) = [.read] := by
    rw [callsOf_append_self, hnil]
    rfl
  rw [Consumers.step_of_getElem? hj]
  simp only [Consuming.step, Consuming.awaits, Reissuing.awaits, Option.map_some,
    Option.toList_some]
  rw [Reissuing.step_reading, if_neg (by simp [h.cacheOutages, hit])]
  by_cases hl : p.system.live (refreshKey identity) = some (Text.trim token)
  · rw [if_pos hl]
    exact h.quiet hj (by simp) (by simp) rfl (kept_read _ _) le_rfl
      ⟨hcalls, by rw [hbefore]; exact (h.offered_iff hnew).1 hl⟩
  · rw [if_neg hl]
    refine h.quiet hj (by simp) (by simp) rfl (kept_read _ _) le_rfl (.inr ⟨hcalls, ?_, rfl⟩)
    rw [hbefore]
    cases hany : p.trace.any (·.2.changes)
    · exact absurd ((h.offered_iff hnew).2 hany) hl
    · rfl

/-- The look-up finds the member: nothing removes it. -/
theorem ConsumeInv.lookup (h : ConsumeInv identity token m s0 p)
    (hm : s0.roster.find? identity = some m) {j : Nat}
    (hj : p.tasks[j]? = some (.reissue .looking)) :
    ConsumeInv identity token m s0 (p.step identity token j) := by
  obtain ⟨hcalls, hfirst⟩ : callsOf j p.trace = [.read] ∧ changedBefore j .read p.trace = false :=
    h.placed j _ hj
  rw [Consumers.step_of_getElem? hj]
  simp only [Consuming.step, Consuming.awaits, Reissuing.awaits, Option.map_some,
    Option.toList_some]
  have hfind : p.system.roster.find? identity = some m := by
    rw [h.roster]
    exact hm
  rw [Reissuing.step_looking, if_neg (by simp [h.rosterOutages, hit]), hfind]
  dsimp only [Option.map_some, Option.elim]
  refine h.quiet hj (by simp) (by simp) rfl ⟨rfl, rfl, rfl, rfl, rfl, rfl⟩ le_rfl ⟨?_, ?_, rfl⟩
  · rw [callsOf_append_self, hcalls]
    rfl
  · rw [changedBefore, callsBefore_append_of_mem (mem_of_mem_callsOf (by simp [hcalls]))]
    exact hfirst

/-- The save: a new pair for the member, whose refresh token, minted after `s0`, is kept. -/
theorem ConsumeInv.save (h : ConsumeInv identity token m s0 p) (hstore : s0.StoresRefresh)
    {j : Nat} {id : Int} (hj : p.tasks[j]? = some (.reissue (.saving id))) :
    ConsumeInv identity token m s0 (p.step identity token j) := by
  obtain ⟨hcalls, hfirst, rfl⟩ : callsOf j p.trace = [.read, .lookup] ∧
      changedBefore j .read p.trace = false ∧ id = m.id := h.placed j _ hj
  have hst : p.system.StoresRefresh := by
    unfold System.StoresRefresh
    rw [h.policy, h.clock]
    exact hstore
  obtain ⟨s', hrun, hlive, hpol, hclk, hros, hco, hro, hser⟩ :=
    issuePair_saves identity m.id h.cacheOutages hst
  have hlt : j < p.tasks.length := (List.getElem?_eq_some_iff.1 hj).1
  have hlast : lastChange? (p.trace ++ [(j, .write)]) = some (j, .write) := by
    rw [lastChange?_append]
    rfl
  rw [Consumers.step_of_getElem? hj]
  simp only [Consuming.step, Consuming.awaits, Reissuing.awaits, Option.map_some,
    Option.toList_some]
  rw [Reissuing.step_saving, hrun]
  dsimp only
  refine ⟨hpol.trans h.policy, hclk.trans h.clock, hco.trans h.cacheOutages,
    hro.trans h.rosterOutages, hros.trans h.roster, ?_, ?_, ?_, ?_⟩
  · show s0.serial ≤ s'.serial
    have := h.serial
    omega
  · -- the save is the last change, and its token is kept
    refine ⟨fun hl => ?_, fun k hl => ?_, fun k hl => ?_⟩ <;> dsimp only at hl ⊢ <;>
      rw [hlast] at hl
    · cases hl
    · cases hl
    · obtain rfl : j = k := (Prod.mk.inj (Option.some.inj hl)).1
      exact ⟨_, List.getElem?_set_self hlt, hlive⟩
  · intro k iss hk
    dsimp only at hk
    by_cases hjk : j = k
    · subst hjk
      rw [List.getElem?_set_self hlt] at hk
      obtain rfl := (Except.ok.inj (Reissuing.answered.inj (Consuming.reissue.inj
        (Option.some.inj hk))))
      exact ⟨p.system.serial + 1, by have := h.serial; omega,
        System.mintedRefresh_of h.policy h.clock identity _⟩
    · rw [List.getElem?_set_ne hjk] at hk
      exact h.minted k iss hk
  · refine placed_set h.placed (.inl ⟨?_, ?_, _, rfl, rfl⟩)
    · rw [callsOf_append_self, hcalls]
      rfl
    · rw [changedBefore, callsBefore_append_of_mem (mem_of_mem_callsOf (by simp [hcalls]))]
      exact hfirst

/-- The check: the logout goes on exactly unless the last change before it was a delete. -/
theorem ConsumeInv.check (h : ConsumeInv identity token m s0 p) {j : Nat}
    (hj : p.tasks[j]? = some (.logout .checking)) :
    ConsumeInv identity token m s0 (p.step identity token j) := by
  have hnil : callsOf j p.trace = [] := h.placed j _ hj
  have hbefore : revokedBefore j .check (p.trace ++ [(j, .check)]) =
      (lastChange? p.trace).any (·.2 == .revoke) := by
    rw [revokedBefore, callsBefore_append_self (not_mem_of_callsOf_eq_nil hnil)]
  have hcalls : callsOf j (p.trace ++ [(j, .check)]) = [.check] := by
    rw [callsOf_append_self, hnil]
    rfl
  rw [Consumers.step_of_getElem? hj]
  simp only [Consuming.step, Consuming.awaits, LoggingOut.awaits, Option.map_some,
    Option.toList_some]
  rw [LoggingOut.step_checking, if_neg (by simp [h.cacheOutages, hit])]
  by_cases hl : (p.system.live (refreshKey identity)).isSome = true
  · rw [if_pos hl]
    exact h.quiet hj (by simp) (by simp) rfl (kept_read _ _) le_rfl
      ⟨hcalls, by rw [hbefore]; exact h.isSome_iff.1 hl⟩
  · rw [if_neg hl]
    refine h.quiet hj (by simp) (by simp) rfl (kept_read _ _) le_rfl (.inr ⟨hcalls, ?_, rfl⟩)
    rw [hbefore]
    cases hr : (lastChange? p.trace).any (·.2 == .revoke)
    · exact absurd (h.isSome_iff.2 hr) hl
    · rfl

/-- The delete: the logout answers, and nothing is kept. -/
theorem ConsumeInv.revoke (h : ConsumeInv identity token m s0 p) {j : Nat}
    (hj : p.tasks[j]? = some (.logout .revoking)) :
    ConsumeInv identity token m s0 (p.step identity token j) := by
  obtain ⟨hcalls, hkept⟩ : callsOf j p.trace = [.check] ∧
      revokedBefore j .check p.trace = false := h.placed j _ hj
  have hlast : lastChange? (p.trace ++ [(j, .revoke)]) = some (j, .revoke) := by
    rw [lastChange?_append]
    rfl
  rw [Consumers.step_of_getElem? hj]
  simp only [Consuming.step, Consuming.awaits, LoggingOut.awaits, Option.map_some,
    Option.toList_some]
  rw [LoggingOut.step_revoking, if_neg (by simp [h.cacheOutages, hit])]
  refine ⟨h.policy, h.clock, h.cacheOutages, h.rosterOutages, h.roster, h.serial, ?_,
    fun k iss hk => h.minted k iss (answered_set (by simp) hk),
    placed_set h.placed (.inl ⟨?_, ?_, rfl⟩)⟩
  · -- the delete is the last change, and nothing is kept
    refine ⟨fun hl => ?_, fun k hl => ?_, fun k hl => ?_⟩ <;> dsimp only at hl ⊢ <;>
      rw [hlast] at hl
    · cases hl
    · rw [live_erase, if_pos rfl]
    · cases hl
  · rw [callsOf_append_self, hcalls]
    rfl
  · rw [revokedBefore, callsBefore_append_of_mem (mem_of_mem_callsOf (by simp [hcalls]))]
    exact hkept

/-- A task that has answered makes no more calls. -/
theorem Consumers.step_answered {p : Consumers} {k : Nat} {c : Consuming}
    (h : p.tasks[k]? = some c) (hc : c.step identity token p.system = (c, p.system))
    (ha : c.awaits = none) : p.step identity token k = p := by
  rw [step_of_getElem? h, hc, ha]
  obtain ⟨hlt, hk⟩ := List.getElem?_eq_some_iff.1 h
  rw [← hk, List.set_getElem_self hlt]
  simp

/-- Every call keeps the invariant. -/
theorem ConsumeInv.step (h : ConsumeInv identity token m s0 p)
    (hm : s0.roster.find? identity = some m) (hstore : s0.StoresRefresh)
    (hnew : ∀ n, s0.serial ≤ n → s0.mintedRefresh identity n ≠ Text.trim token) (j : Nat) :
    ConsumeInv identity token m s0 (p.step identity token j) := by
  cases hj : p.tasks[j]? with
  | none =>
    simp only [Consumers.step, hj]
    exact h
  | some c =>
    rcases c with (_ | _ | id | r) | (_ | _ | r)
    · exact h.read hnew hj
    · exact h.lookup hm hj
    · exact h.save hstore hj
    · rw [Consumers.step_answered hj rfl rfl]
      exact h
    · exact h.check hj
    · exact h.revoke hj
    · rw [Consumers.step_answered hj rfl rfl]
      exact h

/-- The invariant holds after every schedule. -/
theorem consumeInv_run (h : ConsumeInv identity token m s0 p)
    (hm : s0.roster.find? identity = some m) (hstore : s0.StoresRefresh)
    (hnew : ∀ n, s0.serial ≤ n → s0.mintedRefresh identity n ≠ Text.trim token)
    (schedule : List Nat) : ConsumeInv identity token m s0 (p.run identity token schedule) := by
  induction schedule generalizing p with
  | nil => exact h
  | cons j js ih => exact ih (h.step hm hstore hnew j)

end Invariant

theorem Consumers.length_run (identity token : String) (p : Consumers) (schedule : List Nat) :
    (p.run identity token schedule).tasks.length = p.tasks.length := by
  induction schedule generalizing p with
  | nil => rfl
  | cons j js ih =>
    show (run identity token (p.step identity token j) js).tasks.length = _
    rw [ih]
    unfold step
    split <;> simp

/-- A task that has read, looked up and saved has answered with a new pair. -/
theorem Consuming.Placed.saved {c : Consuming} {k : Nat} {mid : Int} {t : List (Nat × Await)}
    (h : c.Placed k mid t) (hcalls : callsOf k t = [.read, .lookup, .write]) :
    ∃ iss, c = .reissue (.answered (.ok iss)) ∧ iss.memberId = mid := by
  rcases c with (_ | _ | id | r) | (_ | _ | r) <;> simp only [Placed, hcalls] at h
  all_goals simp_all

/-- A task that has checked and deleted has answered. -/
theorem Consuming.Placed.revoked {c : Consuming} {k : Nat} {mid : Int} {t : List (Nat × Await)}
    (h : c.Placed k mid t) (hcalls : callsOf k t = [.check, .revoke]) :
    c = .logout (.answered (.ok ())) := by
  rcases c with (_ | _ | id | r) | (_ | _ | r) <;> simp only [Placed, hcalls] at h
  all_goals simp_all

-- ============================================================ the order decides

/-- Calls consuming one session are decided by the order of their calls. Start from a gate
without outages whose roster has the member `m` under `identity`, which keeps `token` (trimmed)
as the identity's refresh token, whose refresh lifetime stores, and which will mint no refresh
token equal to it. Run any reissues of `token` and logouts of `identity`, their calls in any
order. Then every reissue that has answered did so with a new pair for `m` exactly when no
save or delete of the kept token came before its read, and was refused as not logged in
otherwise; every logout that has answered did so exactly when the last save or delete before
its check was not a delete, and was refused otherwise. The kept token is `token` while nothing
was saved or deleted, nothing after a delete, and after a save the refresh token of the
reissue that made it. Every task stands where its calls say. -/
theorem consumption_decided_by_order (identity token : String) (m : Member) (s0 : System)
    (calls : List Consumer) (schedule : List Nat)
    (hm : s0.roster.find? identity = some m)
    (hlive : s0.live (refreshKey identity) = some (Text.trim token))
    (hc : s0.cacheOutages = []) (hr : s0.rosterOutages = []) (hstore : s0.StoresRefresh)
    (hnew : ∀ n, s0.serial ≤ n → s0.mintedRefresh identity n ≠ Text.trim token) :
    let p := (Consumers.start s0 calls).run identity token schedule
    (∀ k r, p.tasks[k]? = some (.reissue (.answered r)) →
      (callsOf k p.trace = [.read, .lookup, .write] ∧ changedBefore k .read p.trace = false ∧
        ∃ iss, r = .ok iss ∧ iss.memberId = m.id) ∨
      (callsOf k p.trace = [.read] ∧ changedBefore k .read p.trace = true ∧
        r = .error .userNotLoggedIn)) ∧
    (∀ k r, p.tasks[k]? = some (.logout (.answered r)) →
      (callsOf k p.trace = [.check, .revoke] ∧ revokedBefore k .check p.trace = false ∧
        r = .ok ()) ∨
      (callsOf k p.trace = [.check] ∧ revokedBefore k .check p.trace = true ∧
        r = .error .userNotLoggedIn)) ∧
    (lastChange? p.trace = none → p.system.live (refreshKey identity) = some (Text.trim token)) ∧
    (∀ k, lastChange? p.trace = some (k, .revoke) → p.system.live (refreshKey identity) = none) ∧
    (∀ k, lastChange? p.trace = some (k, .write) → ∃ iss : Issued,
      p.tasks[k]? = some (.reissue (.answered (.ok iss))) ∧
      p.system.live (refreshKey identity) = some iss.refreshToken) ∧
    (∀ (k : Nat) (c : Consuming), p.tasks[k]? = some c → c.Placed k m.id p.trace) := by
  intro p
  have h : ConsumeInv identity token m s0 p :=
    consumeInv_run (consumeInv_start hc hr hlive calls) hm hstore hnew schedule
  exact ⟨fun k _ hk => h.placed k _ hk, fun k _ hk => h.placed k _ hk, h.kept.untouched,
    h.kept.revoked, h.kept.saved, h.placed⟩

/-- No refresh token the gate mints is `token`: a minted token holds dots, and `token` none. -/
theorem mintedRefresh_ne_token (s : System) (identity : String) (n : Nat) :
    s.mintedRefresh identity n ≠ Text.trim "token" := by
  intro h
  have hdot := dot_mem_encode (issuedClaims (some identity) s.clock.unixSecs
    (Span.ofSecs s.policy.refreshTtl) (Uuid.hyphenated (Uuid.ofSerial n))) s.policy.refreshSecret
  rw [← System.mintedRefresh_eq, h] at hdot
  exact absurd hdot (by decide)

/-- Two reissues of the token `a@x.com` keeps, each reading it before either saves: both answer
with a new pair for member 1, and the pair of the second to save is the one kept. -/
theorem reissues_read_first_both_answer :
    let s0 : System := ⟨⟨[], [], 3600, 1209600, 1800⟩, Clock.start,
      ⟨1024, [⟨refreshKey "a@x.com", "token", 200000000000000⟩], 0⟩,
      ⟨[("a@x.com", ⟨1, "digest", "salt"⟩)], 2⟩, [], [], 0, 0⟩
    let p := (Consumers.start s0 [.reissue, .reissue]).run "a@x.com" "token" [0, 1, 0, 1, 0, 1]
    ∃ iss0 iss1 : Issued, p.tasks[0]? = some (.reissue (.answered (.ok iss0))) ∧
      p.tasks[1]? = some (.reissue (.answered (.ok iss1))) ∧ iss0.memberId = 1 ∧
      iss1.memberId = 1 ∧ p.system.live (refreshKey "a@x.com") = some iss1.refreshToken := by
  intro s0 p
  obtain ⟨-, -, -, -, hsaved, hplaced⟩ := consumption_decided_by_order "a@x.com" "token"
    ⟨1, "digest", "salt"⟩ s0 [.reissue, .reissue] [0, 1, 0, 1, 0, 1] (by decide) (by decide) rfl
    rfl (by decide) fun n _ => mintedRefresh_ne_token s0 "a@x.com" n
  have htrace : p.trace =
      [(0, .read), (1, .read), (0, .lookup), (1, .lookup), (0, .write), (1, .write)] := by
    decide
  have hlen : p.tasks.length = 2 := Consumers.length_run _ _ _ _
  obtain ⟨c0, h0⟩ := Option.isSome_iff_exists.1 (by simp [hlen] : p.tasks[0]?.isSome)
  obtain ⟨c1, h1⟩ := Option.isSome_iff_exists.1 (by simp [hlen] : p.tasks[1]?.isSome)
  obtain ⟨iss0, rfl, hm0⟩ := (hplaced 0 c0 h0).saved (by rw [htrace]; rfl)
  obtain ⟨iss1, rfl, hm1⟩ := (hplaced 1 c1 h1).saved (by rw [htrace]; rfl)
  obtain ⟨iss, hk, hv⟩ := hsaved 1 (by rw [htrace]; rfl)
  rw [h1] at hk
  have heq : iss1 = iss :=
    Except.ok.inj (Reissuing.answered.inj (Consuming.reissue.inj (Option.some.inj hk)))
  subst heq
  exact ⟨iss0, iss1, h0, h1, hm0, hm1, hv⟩

/-- A reissue reads the token `a@x.com` keeps, then a whole logout runs, then the reissue looks
the member up and saves. Both answer, yet after the logout the reissue's new refresh token is
the one kept. -/
theorem logout_leaves_reissued_token :
    let s0 : System := ⟨⟨[], [], 3600, 1209600, 1800⟩, Clock.start,
      ⟨1024, [⟨refreshKey "a@x.com", "token", 200000000000000⟩], 0⟩,
      ⟨[("a@x.com", ⟨1, "digest", "salt"⟩)], 2⟩, [], [], 0, 0⟩
    let p := (Consumers.start s0 [.reissue, .logout]).run "a@x.com" "token" [0, 1, 1, 0, 0]
    ∃ iss : Issued, p.tasks[0]? = some (.reissue (.answered (.ok iss))) ∧
      p.tasks[1]? = some (.logout (.answered (.ok ()))) ∧
      p.system.live (refreshKey "a@x.com") = some iss.refreshToken := by
  intro s0 p
  have h : ConsumeInv "a@x.com" "token" ⟨1, "digest", "salt"⟩ s0 p :=
    consumeInv_run (consumeInv_start rfl rfl (by decide) _) (by decide) (by decide)
      (fun n _ => mintedRefresh_ne_token s0 "a@x.com" n) _
  have htrace : p.trace = [(0, .read), (1, .check), (1, .revoke), (0, .lookup), (0, .write)] := by
    decide
  have hlen : p.tasks.length = 2 := Consumers.length_run _ _ _ _
  obtain ⟨c1, h1⟩ := Option.isSome_iff_exists.1 (by simp [hlen] : p.tasks[1]?.isSome)
  obtain ⟨iss, h0, hv⟩ := h.kept.saved 0 (by rw [htrace]; rfl)
  exact ⟨iss, h0, (h.placed 1 c1 h1).revoked (by rw [htrace]; rfl) ▸ h1, hv⟩

end Gatehouse.Gate
