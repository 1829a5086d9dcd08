import Gatehouse.Proofs.Gate.SessionCache

/-!
A resolution and a withdrawal of one identity, interleaved at the calls they await.

`resolve` and `withdraw` each make several calls on the stores, and another task may run
between two of them. A resolution reads the session entry, looks the identity up in the roster
on a miss, and writes the number back; a withdrawal checks and deletes the refresh token,
removes the member, and evicts the session entry. `Resolving` and `Withdrawing` are the points
each task can stand at between its calls, and a step of a task makes its next call with the
primitives the whole operation uses: run alone, each task is the operation it splits
(`resolving_alone`, `withdrawing_alone`).

A `Race` runs both tasks on one gate under a schedule, and records the calls in the order they
were made. Its invariant `RaceInv` reads off that record what the roster holds for the identity
and what its session entry reads (one lemma per kind of call, `RaceInv.step`, `raceInv_run`).
The main statement, `withdrawal_races_write_back`: once the withdrawal has answered, the session
entry is live exactly when the write-back came after the eviction and could be stored, which
needs the roster look-up to have come before the removal; a later resolution then answers the
number of the removed member.
-/

namespace Gatehouse.Store.Cache

/-- A set for a span that is not empty leaves its value live at the instant of the write. -/
theorem get_fst_set_self {c c' : Cache} {key value : String} {ttl : Span} {clock : Clock}
    (hs : c.set key value ttl clock = .ok c') (hz : ttl.isZero = false) :
    (c'.get key clock.instant).1 = some value := by
  simp only [set, hz, Bool.false_eq_true, if_false] at hs
  cases ha : clock.after ttl with
  | none =>
    rw [ha] at hs
    cases hs
  | some t =>
    rw [ha] at hs
    cases hs
    -- the entry expires a nonzero span after now
    have ht := after_eq_some ha
    have hpos : 0 < ttl.nanos := by
      simp only [Span.isZero, beq_eq_false_iff_ne] at hz
      omega
    exact get_fst_eq_some.2
      ⟨_, find?_insert_self c ⟨key, value, t⟩, show clock.instant < t by omega, rfl⟩

end Gatehouse.Store.Cache

namespace Gatehouse.Gate

open Store

-- ============================================================ the two tasks, call by call

/-- The calls the two tasks await, as they reach the stores. -/
inductive Await where
  | read
  | lookup
  | write
  | check
  | revoke
  | remove
  | evict
  deriving DecidableEq, Repr

/-- Where a resolution stands between its calls. -/
inductive Resolving where
  | reading
  | looking
  | writing (id : Int)
  | answered (r : Except Auth.Fault Int)
  deriving DecidableEq, Repr

/-- Where a withdrawal stands between its calls, its identity already taken from its token. -/
inductive Withdrawing where
  | checking
  | revoking
  | removing
  | forgetting
  | answered (r : Except Auth.Fault Unit)
  deriving DecidableEq, Repr

/-- Make one call of a task: the point it moves to, or its answer when the call is refused. -/
def settle {τ ρ : Type} (x : GateM τ) (answered : Except Auth.Fault ρ → τ) (s : System) :
    τ × System :=
  match x.run s with
  | (.ok t, s') => (t, s')
  | (.error e, s') => (answered (.error e), s')

namespace Resolving

/-- The next call of a resolution of `identity`, as `resolve` makes it. -/
def call (identity : String) : Resolving → GateM Resolving
  | .reading => do
    let kept ← cached (cacheGet (sessionKey identity))
    match kept.bind Text.Decimal.i64? with
    | some id => pure (.answered (.ok id))
    | none => pure .looking
  | .looking => do
    match ← rostered (findId identity) with
    | none => throw .unauthorizedUser
    | some id => pure (.writing id)
  | .writing id => do
    cached (cacheSet (sessionKey identity) (toString id)
      (Span.ofSecs (← get).policy.sessionTtl))
    pure (.answered (.ok id))
  | .answered r => pure (.answered r)

/-- The call a resolution makes next, unless it has answered. -/
def awaits : Resolving → Option Await
  | .reading => some .read
  | .looking => some .lookup
  | .writing _ => some .write
  | .answered _ => none

/-- One call of a resolution of `identity`. -/
def step (identity : String) (r : Resolving) : System → Resolving × System :=
  settle (r.call identity) answered

end Resolving

namespace Withdrawing

/-- The next call of a withdrawal of `identity`, as `withdraw` makes it. -/
def call (identity : String) : Withdrawing → GateM Withdrawing
  | .checking => do
    if !(← cached (cacheExists (refreshKey identity))) then throw .userNotLoggedIn
    pure .revoking
  | .revoking => do
    cached (cacheDelete (refreshKey identity))
    pure .removing
  | .removing => do
    rostered (deleteMember identity)
    pure .forgetting
  | .forgetting => do
    tryCatch (forget identity) fun _ => pure ()
    pure (.answered (.ok ()))
  | .answered r => pure (.answered r)

/-- The call a withdrawal makes next, unless it has answered. -/
def awaits : Withdrawing → Option Await
  | .checking => some .check
  | .revoking => some .revoke
  | .removing => some .remove
  | .forgetting => some .evict
  | .answered _ => none

/-- One call of a withdrawal of `identity`. -/
def step (identity : String) (w : Withdrawing) : System → Withdrawing × System :=
  settle (w.call identity) answered

end Withdrawing

-- ============================================================ what each call does

section Calls

variable (identity : String) (s : System)

namespace Resolving

theorem step_reading : reading.step identity s =
    if hit s.cacheOutages "get" (sessionKey identity) then
      (.answered (.error (.internal CacheFault.poisoned.message)), s)
    else
      (((s.live (sessionKey identity)).bind Text.Decimal.i64?).elim .looking (.answered ∘ .ok),
        { s with cache := (s.cache.get (sessionKey identity) s.clock.instant).2 }) := by
  unfold step settle call
  rw [run_bind, run_cached, cacheGet_eq]
  by_cases hget : hit s.cacheOutages "get" (sessionKey identity) = true
  · rw [if_pos hget, if_pos hget]
    rfl
  · rw [if_neg hget, if_neg hget]
    dsimp only [Except.mapError]
    cases (s.live (sessionKey identity)).bind Text.Decimal.i64? <;> rfl

theorem step_looking : looking.step identity s =
    (if hit s.rosterOutages "find_id" identity then
        .answered (.error (RosterFault.toAuth rosterDown))
      else ((s.roster.find? identity).map (·.id)).elim (.answered (.error .unauthorizedUser))
        .writing,
      { s with lookups := s.lookups + 1 }) := by
  unfold step settle call
  rw [run_bind, run_rostered, findId_eq]
  by_cases hfind : hit s.rosterOutages "find_id" identity = true
  · rw [if_pos hfind, if_pos hfind]
    rfl
  · rw [if_neg hfind, if_neg hfind]
    dsimp only [Except.mapError]
    cases (s.roster.find? identity).map (·.id) <;> rfl

theorem step_writing (id : Int) : (writing id).step identity s =
    (.answered (((cached (cacheSet (sessionKey identity) (toString id)
        (Span.ofSecs s.policy.sessionTtl))).run s).1.map fun _ => id),
      ((cached (cacheSet (sessionKey identity) (toString id)
        (Span.ofSecs s.policy.sessionTtl))).run s).2) := by
  unfold step settle call
  rw [run_bind, run_get]
  dsimp only
  rw [run_bind]
  rcases (cached (cacheSet (sessionKey identity) (toString id)
    (Span.ofSecs s.policy.sessionTtl))).run s with ⟨_ | u, s1⟩ <;> rfl

@[simp]
theorem step_answered (r : Except Auth.Fault Int) :
    (answered r).step identity s = (answered r, s) := rfl

end Resolving

namespace Withdrawing

theorem step_checking : checking.step identity s =
    if hit s.cacheOutages "exists" (refreshKey identity) then
      (.answered (.error (.internal CacheFault.poisoned.message)), s)
    else
      (if (s.live (refreshKey identity)).isSome then .revoking
        else .answered (.error .userNotLoggedIn),
        { s with cache := (s.cache.get (refreshKey identity) s.clock.instant).2 }) := by
  unfold step settle call
  rw [run_bind, run_cached, cacheExists_eq]
  by_cases hexists : hit s.cacheOutages "exists" (refreshKey identity) = true
  · rw [if_pos hexists, if_pos hexists]
    rfl
  · rw [if_neg hexists, if_neg hexists]
    dsimp only [Except.mapError]
    cases (s.live (refreshKey identity)).isSome <;> rfl

theorem step_revoking : revoking.step identity s =
    if hit s.cacheOutages "delete" (refreshKey identity) then
      (.answered (.error (.internal CacheFault.poisoned.message)), s)
    else (.removing, { s with cache := s.cache.erase (refreshKey identity) }) := by
  unfold step settle call
  rw [run_bind, run_cached, cacheDelete_eq]
  by_cases hdel : hit s.cacheOutages "delete" (refreshKey identity) = true
  · rw [if_pos hdel, if_pos hdel]
    rfl
  · rw [if_neg hdel, if_neg hdel]
    rfl

theorem step_removing : removing.step identity s =
    (if ((rostered (deleteMember identity)).run s).1 = .ok () then .forgetting
      else .answered ((rostered (deleteMember identity)).run s).1,
      ((rostered (deleteMember identity)).run s).2) := by
  unfold step settle call
  rw [run_bind]
  rcases (rostered (deleteMember identity)).run s with ⟨_ | u, s1⟩ <;> rfl

theorem step_forgetting : forgetting.step identity s =
    (.answered (.ok ()), ((forget identity).run s).2) := by
  unfold step settle call
  rw [run_bind, run_tryCatch_pure]
  rcases (forget identity).run s with ⟨_ | u, s1⟩ <;> rfl

@[simp]
theorem step_answered (r : Except Auth.Fault Unit) :
    (answered r).step identity s = (answered r, s) := rfl

end Withdrawing

end Calls

-- ============================================================ a race

/-- A resolution and a withdrawal of one identity on one gate, and the calls made so far, in
the order they were made. -/
structure Race where
  resolving : Resolving
  withdrawing : Withdrawing
  system : System
  trace : List Await

namespace Race

/-- Both tasks at their start. -/
def start (s : System) : Race := ⟨.reading, .checking, s, []⟩

/-- One call of the resolution (`true`) or of the withdrawal (`false`). -/
def step (identity : String) (p : Race) : Bool → Race
  | true =>
    let q := p.resolving.step identity p.system
    { p with resolving := q.1, system := q.2, trace := p.trace ++ p.resolving.awaits.toList }
  | false =>
    let q := p.withdrawing.step identity p.system
    { p with withdrawing := q.1, system := q.2, trace := p.trace ++ p.withdrawing.awaits.toList }

/-- The race after the calls a schedule picks, in turn. -/
def run (identity : String) (p : Race) (schedule : List Bool) : Race :=
  schedule.foldl (step identity) p

end Race

/-- Run alone, the calls of a resolution are `resolve`. -/
theorem resolving_alone (identity : String) (s : System) :
    let p := (Race.start s).run identity [true, true, true]
    p.resolving = .answered ((resolve identity).run s).1 ∧
      p.system = ((resolve identity).run s).2 := by
  simp only [Race.run, Race.start, Race.step, List.foldl]
  unfold resolve
  rw [Resolving.step_reading, run_bind, run_cached, cacheGet_eq]
  by_cases hget : hit s.cacheOutages "get" (sessionKey identity) = true
  · rw [if_pos hget, if_pos hget]
    exact ⟨rfl, rfl⟩
  rw [if_neg hget, if_neg hget]
  dsimp only [Except.mapError]
  cases (s.live (sessionKey identity)).bind Text.Decimal.i64? with
  | some id => exact ⟨rfl, rfl⟩
  | none =>
    dsimp only [Option.elim]
    rw [Resolving.step_looking, run_bind, run_rostered, findId_eq]
    by_cases hfind : hit s.rosterOutages "find_id" identity = true
    · rw [if_pos hfind, if_pos hfind]
      exact ⟨rfl, rfl⟩
    rw [if_neg hfind, if_neg hfind]
    dsimp only [Except.mapError]
    cases (s.roster.find? identity).map (·.id) with
    | none => exact ⟨rfl, rfl⟩
    | some id =>
      dsimp only [Option.elim]
      rw [Resolving.step_writing, run_bind, run_get]
      dsimp only
      rw [run_bind]
      rcases (cached (cacheSet (sessionKey identity) (toString id)
        (Span.ofSecs s.policy.sessionTtl))).run _ with ⟨_ | u, s1⟩ <;> exact ⟨rfl, rfl⟩

/-- Run alone, the calls of a withdrawal of the identity an access token carries are
`withdraw`. -/
theorem withdrawing_alone (token identity : String) (s : System)
    (h : ((accessIdentity token).run s).1 = .ok identity) :
    let p := (Race.start s).run identity [false, false, false, false]
    p.withdrawing = .answered ((withdraw token).run s).1 ∧
      p.system = ((withdraw token).run s).2 := by
  simp only [Race.run, Race.start, Race.step, List.foldl]
  unfold withdraw
  rw [run_bind, run_accessIdentity, h]
  dsimp only
  rw [run_bind, run_revoke, Withdrawing.step_checking]
  by_cases hexists : hit s.cacheOutages "exists" (refreshKey identity) = true
  · rw [if_pos hexists, if_pos hexists]
    exact ⟨rfl, rfl⟩
  rw [if_neg hexists, if_neg hexists]
  by_cases hlive : (s.live (refreshKey identity)).isSome = true
  · rw [if_pos hlive, if_pos hlive, run_cached, cacheDelete_eq, Withdrawing.step_revoking]
    dsimp only
    by_cases hdel : hit s.cacheOutages "delete" (refreshKey identity) = true
    · rw [if_pos hdel, if_pos hdel]
      exact ⟨rfl, rfl⟩
    rw [if_neg hdel, if_neg hdel]
    dsimp only [Except.mapError]
    rw [run_bind, Withdrawing.step_removing]
    rcases (rostered (deleteMember identity)).run _ with ⟨_ | u, s1⟩
    · exact ⟨rfl, rfl⟩
    · dsimp only
      rw [if_pos rfl, Withdrawing.step_forgetting, run_tryCatch_pure]
      rcases (forget identity).run s1 with ⟨_ | u, s2⟩ <;> exact ⟨rfl, rfl⟩
  · rw [if_neg hlive, if_neg hlive]
    exact ⟨rfl, rfl⟩


-- ============================================================ the record of calls

/-- A pair stays a subsequence of a list with one more element at its end only by being one
already, or by ending with that element after its first one. -/
theorem pair_sublist_append_singleton {α : Type} {a b c : α} {t : List α} :
    [a, b].Sublist (t ++ [c]) ↔ [a, b].Sublist t ∨ (a ∈ t ∧ b = c) := by
  constructor
  · intro h
    obtain ⟨l₁, l₂, hl, h1, h2⟩ := List.sublist_append_iff.1 h
    rcases List.sublist_singleton.1 h2 with rfl | rfl
    · rw [List.append_nil] at hl
      exact .inl (hl ▸ h1)
    · -- the pair ends with the last element: its first one stands in the list before it
      obtain ⟨rfl, rfl⟩ : l₁ = [a] ∧ b = c := by
        cases l₁ with
        | nil => simp at hl
        | cons x l =>
          cases l with
          | nil => simpa [eq_comm] using hl
          | cons y l => simp at hl
      exact .inr ⟨List.singleton_sublist.1 h1, rfl⟩
  · rintro (h | ⟨ha, rfl⟩)
    · exact h.trans (List.sublist_append_left t [c])
    · exact List.sublist_append_iff.2 ⟨[a], [b], rfl, List.singleton_sublist.2 ha, .refl _⟩

/-- The session entry was written back, and no eviction came after the write. -/
def WrittenLast (t : List Await) : Prop :=
  .write ∈ t ∧ (.evict ∈ t → [Await.evict, .write].Sublist t)

instance (t : List Await) : Decidable (WrittenLast t) := inferInstanceAs (Decidable (_ ∧ _))

theorem writtenLast_append {t : List Await} {c : Await} (hw : c ≠ .write) (he : c ≠ .evict) :
    WrittenLast (t ++ [c]) ↔ WrittenLast t := by
  simp [WrittenLast, pair_sublist_append_singleton, hw.symm, he.symm]

theorem writtenLast_append_write (t : List Await) : WrittenLast (t ++ [.write]) :=
  ⟨by simp, fun he => pair_sublist_append_singleton.2 (.inr ⟨by simpa using he, rfl⟩)⟩

theorem not_writtenLast_append_evict {t : List Await} (h : .evict ∉ t) :
    ¬WrittenLast (t ++ [.evict]) := by
  rintro ⟨-, hs⟩
  rcases pair_sublist_append_singleton.1 (hs (by simp)) with hs | ⟨he, -⟩
  · exact h (hs.subset (by simp))
  · exact h he

/-- Once the eviction is made, the write-back came last exactly when it came after it. -/
theorem writtenLast_iff_of_evict {t : List Await} (he : .evict ∈ t) :
    WrittenLast t ↔ [Await.evict, .write].Sublist t :=
  ⟨fun h => h.2 he, fun h => ⟨h.subset (by simp), fun _ => h⟩⟩

-- ============================================================ the write-back and the removal

/-- A write-back of a session entry stores it: the session lifetime is not empty, and its end
can be represented on the gate's clock. -/
def System.StoresSessions (s : System) : Prop :=
  (Span.ofSecs s.policy.sessionTtl).isZero = false ∧
    (s.clock.after (Span.ofSecs s.policy.sessionTtl)).isSome

instance (s : System) : Decidable s.StoresSessions := inferInstanceAs (Decidable (_ ∧ _))

/-- A write-back that no outage hits, onto no live entry, leaves the number live exactly when
the session lifetime lets it be stored. -/
theorem live_writeBack {s : System} (identity : String) (id : Int) (hc : s.cacheOutages = [])
    (hnone : s.live (sessionKey identity) = none) :
    ((cached (cacheSet (sessionKey identity) (toString id)
        (Span.ofSecs s.policy.sessionTtl))).run s).2.live (sessionKey identity) =
      if s.StoresSessions then some (toString id) else none := by
  rcases run_cacheSet_quiet (sessionKey identity) (toString id) (Span.ofSecs s.policy.sessionTtl)
      s (by simp [hc, hit]) with ⟨hok, c, hs, hrun⟩ | ⟨⟨hz, ha⟩, hrun⟩
  · rw [hrun]
    unfold System.live
    dsimp only
    cases hz : (Span.ofSecs s.policy.sessionTtl).isZero with
    | false =>
      -- a lifetime that is not empty: the write succeeded, so its end is representable
      have ha : (s.clock.after (Span.ofSecs s.policy.sessionTtl)).isSome := by
        cases ha : s.clock.after (Span.ofSecs s.policy.sessionTtl) with
        | none => exact absurd ⟨hz, ha⟩ hok
        | some t => rfl
      rw [if_pos ⟨hz, ha⟩]
      exact Cache.get_fst_set_self hs hz
    | true =>
      rw [Cache.set_of_isZero _ _ _ _ _ hz] at hs
      cases hs
      rw [if_neg (fun h => Bool.noConfusion (hz.symm.trans h.1))]
      simp [Cache.get]
  · rw [hrun, hnone, if_neg (fun h => by simp [System.StoresSessions, ha] at h)]

/-- Removing a member no outage hits, while the roster has it, succeeds and leaves the roster
without it. -/
theorem run_deleteMember_of_find? {s : System} {identity : String} {m : Member}
    (hr : s.rosterOutages = []) (hm : s.roster.find? identity = some m) :
    ∃ r, r.find? identity = none ∧
      (rostered (deleteMember identity)).run s = (.ok (), { s with roster := r }) := by
  refine ⟨{ s.roster with members := s.roster.members.filter (·.1 != identity) }, ?_, ?_⟩
  · simp only [Roster.find?, Option.map_eq_none_iff, List.find?_eq_none, List.mem_filter]
    intro x hx
    simpa using hx.2
  · rw [run_rostered, deleteMember_eq, if_neg (by simp [hr, hit])]
    simp [Roster.delete, hm, Except.mapError]

/-- On a gate without outages, a live session entry that reads as a number answers a
resolution with it. -/
theorem resolve_of_live {s : System} {identity : String} {x : Int} (hc : s.cacheOutages = [])
    (hv : (s.live (sessionKey identity)).bind Text.Decimal.i64? = some x) :
    ((resolve identity).run s).1 = .ok x := by
  unfold resolve
  rw [run_bind, run_cached, cacheGet_eq, if_neg (by simp [hc, hit])]
  dsimp only [Except.mapError]
  rw [hv]
  rfl

/-- On a gate without outages, an identity with no session entry and no member is an unknown
user. -/
theorem resolve_of_absent {s : System} {identity : String} (hc : s.cacheOutages = [])
    (hr : s.rosterOutages = []) (hv : s.live (sessionKey identity) = none)
    (hm : s.roster.find? identity = none) :
    ((resolve identity).run s).1 = .error .unauthorizedUser := by
  unfold resolve
  rw [run_bind, run_cached, cacheGet_eq, if_neg (by simp [hc, hit])]
  dsimp only [Except.mapError]
  rw [hv]
  dsimp only [Option.bind]
  rw [run_bind, run_rostered, findId_eq, if_neg (by simp [hr, hit])]
  dsimp only [Except.mapError]
  rw [hm]
  rfl

-- ============================================================ the invariant

/-- What the calls made so far say of where a resolution stands, when the roster gives `id`. -/
def Resolving.Placed (id : Int) (t : List Await) : Resolving → Prop
  | .reading | .looking => .write ∉ t
  | .writing x =>
    x = id ∧ .write ∉ t ∧ .lookup ∈ t ∧ (.remove ∈ t → [Await.lookup, .remove].Sublist t)
  | .answered _ => True

/-- What the calls made so far say of where a withdrawal stands. -/
def Withdrawing.Placed (t : List Await) : Withdrawing → Prop
  | .checking | .revoking | .removing => .remove ∉ t ∧ .evict ∉ t
  | .forgetting => .remove ∈ t ∧ .evict ∉ t
  | .answered r => r = .ok () → .remove ∈ t ∧ .evict ∈ t

theorem Resolving.Placed.append {r : Resolving} {id : Int} {t : List Await} {c : Await}
    (h : r.Placed id t) (hw : c ≠ .write) (hr : c ≠ .remove) : r.Placed id (t ++ [c]) := by
  cases r with
  | reading | looking => simpa [Placed, hw.symm] using h
  | writing x =>
    obtain ⟨hx, hnw, hl, hord⟩ := h
    refine ⟨hx, by simpa [hw.symm] using hnw, by simp [hl], fun hrem => ?_⟩
    have hrem : .remove ∈ t := by simpa [hr.symm] using hrem
    exact (hord hrem).trans (List.sublist_append_left t [c])
  | answered a => trivial

/-- The removal keeps a resolution placed: one that is writing back has looked up first. -/
theorem Resolving.Placed.append_remove {r : Resolving} {id : Int} {t : List Await}
    (h : r.Placed id t) : r.Placed id (t ++ [.remove]) := by
  cases r with
  | reading | looking => simpa [Placed] using h
  | writing x =>
    obtain ⟨hx, hnw, hl, -⟩ := h
    exact ⟨hx, by simpa using hnw, by simp [hl],
      fun _ => pair_sublist_append_singleton.2 (.inr ⟨hl, rfl⟩)⟩
  | answered a => trivial

theorem Withdrawing.Placed.append {w : Withdrawing} {t : List Await} {c : Await}
    (h : w.Placed t) (hr : c ≠ .remove) (he : c ≠ .evict) : w.Placed (t ++ [c]) := by
  cases w with
  | checking | revoking | removing | forgetting => simpa [Placed, hr.symm, he.symm] using h
  | answered a =>
    intro ha
    obtain ⟨hrem, hev⟩ := h ha
    exact ⟨by simp [hrem], by simp [hev]⟩

/-- What a race on `identity` keeps, run from a gate `s0` without outages whose roster has the
member `m` under the identity. -/
structure RaceInv (identity : String) (m : Member) (s0 : System) (p : Race) : Prop where
  policy : p.system.policy = s0.policy
  clock : p.system.clock = s0.clock
  cacheOutages : p.system.cacheOutages = []
  rosterOutages : p.system.rosterOutages = []
  /-- The member is there until the withdrawal removes it. -/
  roster : p.system.roster.find? identity = if .remove ∈ p.trace then none else some m
  /-- The session entry reads the number exactly when the write-back came last and could be
  stored. -/
  session : p.system.live (sessionKey identity) =
    if WrittenLast p.trace ∧ s0.StoresSessions then some (toString m.id) else none
  /-- A write-back follows the look-up, and that look-up came before any removal. -/
  ordered : .write ∈ p.trace →
    .lookup ∈ p.trace ∧ (.remove ∈ p.trace → [Await.lookup, .remove].Sublist p.trace)
  resolving : p.resolving.Placed m.id p.trace
  withdrawing : p.withdrawing.Placed p.trace

section Invariant

variable {identity : String} {m : Member} {s0 : System} {p : Race}

theorem raceInv_start (hm : s0.roster.find? identity = some m)
    (hfresh : s0.live (sessionKey identity) = none) (hc : s0.cacheOutages = [])
    (hr : s0.rosterOutages = []) : RaceInv identity m s0 (Race.start s0) where
  policy := rfl
  clock := rfl
  cacheOutages := hc
  rosterOutages := hr
  roster := hm
  session := by rw [if_neg (fun h => by simp [Race.start, WrittenLast] at h)]; exact hfresh
  ordered := by simp [Race.start]
  resolving := by simp [Race.start, Resolving.Placed]
  withdrawing := by simp [Race.start, Withdrawing.Placed]

theorem RaceInv.storesSessions_iff (h : RaceInv identity m s0 p) :
    p.system.StoresSessions ↔ s0.StoresSessions := by
  unfold System.StoresSessions
  rw [h.policy, h.clock]

/-- A call that the invariant does not record keeps it, as long as it keeps the roster's member
and the session entry, and leaves both tasks placed. -/
theorem RaceInv.quiet (h : RaceInv identity m s0 p) {c : Await} (hw : c ≠ .write)
    (hr : c ≠ .remove) (he : c ≠ .evict) {r : Resolving} {w : Withdrawing} {s : System}
    (hs : s.policy = p.system.policy ∧ s.clock = p.system.clock ∧
      s.cacheOutages = p.system.cacheOutages ∧ s.rosterOutages = p.system.rosterOutages)
    (hroster : s.roster.find? identity = p.system.roster.find? identity)
    (hlive : s.live (sessionKey identity) = p.system.live (sessionKey identity))
    (hrp : r.Placed m.id (p.trace ++ [c])) (hwp : w.Placed (p.trace ++ [c])) :
    RaceInv identity m s0 ⟨r, w, s, p.trace ++ [c]⟩ where
  policy := hs.1.trans h.policy
  clock := hs.2.1.trans h.clock
  cacheOutages := hs.2.2.1.trans h.cacheOutages
  rosterOutages := hs.2.2.2.trans h.rosterOutages
  roster := by
    rw [hroster, h.roster]
    simp [hr.symm]
  session := by
    simp only [hlive, h.session, writtenLast_append hw he]
  ordered := by
    intro hwt
    obtain ⟨hl, hord⟩ := h.ordered (by simpa [hw.symm] using hwt)
    refine ⟨by simp [hl], fun hrem => ?_⟩
    exact (hord (by simpa [hr.symm] using hrem)).trans (List.sublist_append_left _ [c])
  resolving := hrp
  withdrawing := hwp

theorem Race.step_true (p : Race) : p.step identity true =
    ⟨(p.resolving.step identity p.system).1, p.withdrawing,
      (p.resolving.step identity p.system).2, p.trace ++ p.resolving.awaits.toList⟩ := rfl

theorem Race.step_false (p : Race) : p.step identity false =
    ⟨p.resolving, (p.withdrawing.step identity p.system).1,
      (p.withdrawing.step identity p.system).2, p.trace ++ p.withdrawing.awaits.toList⟩ := rfl

/-- The read of the session entry misses: nothing has been written back yet. -/
theorem RaceInv.read (h : RaceInv identity m s0 p) (hr : p.resolving = .reading) :
    RaceInv identity m s0 (p.step identity true) := by
  have hnw : .write ∉ p.trace := by simpa [hr, Resolving.Placed] using h.resolving
  have hmiss : p.system.live (sessionKey identity) = none := by
    rw [h.session, if_neg (fun hl => hnw hl.1.1)]
  rw [Race.step_true, hr, Resolving.step_reading, if_neg (by simp [h.cacheOutages, hit]), hmiss]
  refine h.quiet (by decide) (by decide) (by decide) ⟨rfl, rfl, rfl, rfl⟩ rfl ?_ ?_ ?_
  · exact congrFun (live_read p.system (sessionKey identity)) _
  · simpa [Resolving.Placed] using hnw
  · exact h.withdrawing.append (by decide) (by decide)

/-- The look-up finds the member until the removal, and the resolution moves on to write its
number back; after the removal it answers an unknown user. -/
theorem RaceInv.lookup (h : RaceInv identity m s0 p) (hr : p.resolving = .looking) :
    RaceInv identity m s0 (p.step identity true) := by
  have hnw : .write ∉ p.trace := by simpa [hr, Resolving.Placed] using h.resolving
  rw [Race.step_true, hr, Resolving.step_looking, if_neg (by simp [h.rosterOutages, hit]),
    h.roster]
  refine h.quiet (by decide) (by decide) (by decide) ⟨rfl, rfl, rfl, rfl⟩ (by rw [h.roster]) rfl
    ?_ (h.withdrawing.append (by decide) (by decide))
  by_cases hrem : .remove ∈ p.trace
  · rw [if_pos hrem]
    trivial
  · rw [if_neg hrem]
    exact ⟨rfl, by simpa using hnw, by simp, fun h' => absurd (by simpa using h') hrem⟩

/-- The write-back stores the number when the lifetime allows it, and then came last. -/
theorem RaceInv.write (h : RaceInv identity m s0 p) {x : Int} (hr : p.resolving = .writing x) :
    RaceInv identity m s0 (p.step identity true) := by
  obtain ⟨rfl, hnw, hl, hord⟩ : x = m.id ∧ .write ∉ p.trace ∧ .lookup ∈ p.trace ∧
      (.remove ∈ p.trace → [Await.lookup, .remove].Sublist p.trace) := by
    simpa [hr, Resolving.Placed] using h.resolving
  have hmiss : p.system.live (sessionKey identity) = none := by
    rw [h.session, if_neg (fun hl => hnw hl.1.1)]
  have hlive := live_writeBack identity m.id h.cacheOutages hmiss
  rw [Race.step_true, hr, Resolving.step_writing]
  rcases hrun : (cached (cacheSet (sessionKey identity) (toString m.id)
      (Span.ofSecs p.system.policy.sessionTtl))).run p.system with ⟨u, s1⟩
  rw [hrun] at hlive
  dsimp only [Resolving.awaits, Option.toList] at hlive ⊢
  -- the write touches the cache alone, if anything
  have hframe : s1.policy = p.system.policy ∧ s1.clock = p.system.clock ∧
      s1.cacheOutages = p.system.cacheOutages ∧ s1.rosterOutages = p.system.rosterOutages ∧
      s1.roster = p.system.roster := by
    rcases state_cacheSet hrun with rfl | ⟨c, -, rfl⟩ <;> exact ⟨rfl, rfl, rfl, rfl, rfl⟩
  exact {
    policy := hframe.1.trans h.policy
    clock := hframe.2.1.trans h.clock
    cacheOutages := hframe.2.2.1.trans h.cacheOutages
    rosterOutages := hframe.2.2.2.1.trans h.rosterOutages
    roster := by
      rw [hframe.2.2.2.2, h.roster]
      simp
    session := by
      rw [hlive]
      simp only [writtenLast_append_write, true_and, h.storesSessions_iff]
    ordered := fun _ => ⟨by simp [hl], fun hrem =>
      (hord (by simpa using hrem)).trans (List.sublist_append_left _ _)⟩
    resolving := trivial
    withdrawing := h.withdrawing.append (by decide) (by decide) }

/-- The check reads the refresh token, and the withdrawal goes on while it is live. -/
theorem RaceInv.check (h : RaceInv identity m s0 p) (hw : p.withdrawing = .checking) :
    RaceInv identity m s0 (p.step identity false) := by
  have hpl : .remove ∉ p.trace ∧ .evict ∉ p.trace := by
    simpa [hw, Withdrawing.Placed] using h.withdrawing
  rw [Race.step_false, hw, Withdrawing.step_checking, if_neg (by simp [h.cacheOutages, hit])]
  refine h.quiet (by decide) (by decide) (by decide) ⟨rfl, rfl, rfl, rfl⟩ rfl
    (congrFun (live_read p.system (refreshKey identity)) _)
    (h.resolving.append (by decide) (by decide)) ?_
  split
  · simpa [Withdrawing.Placed] using hpl
  · intro hok
    cases hok

/-- The refresh token is deleted; the session entry is another key. -/
theorem RaceInv.revoke (h : RaceInv identity m s0 p) (hw : p.withdrawing = .revoking) :
    RaceInv identity m s0 (p.step identity false) := by
  have hpl : .remove ∉ p.trace ∧ .evict ∉ p.trace := by
    simpa [hw, Withdrawing.Placed] using h.withdrawing
  rw [Race.step_false, hw, Withdrawing.step_revoking, if_neg (by simp [h.cacheOutages, hit])]
  refine h.quiet (by decide) (by decide) (by decide) ⟨rfl, rfl, rfl, rfl⟩ rfl ?_
    (h.resolving.append (by decide) (by decide)) (by simpa [Withdrawing.Placed] using hpl)
  rw [live_erase, if_neg (refreshKey_ne_sessionKey identity identity).symm]

/-- The member is removed; a write-back still to come has looked it up first. -/
theorem RaceInv.remove (h : RaceInv identity m s0 p) (hw : p.withdrawing = .removing) :
    RaceInv identity m s0 (p.step identity false) := by
  have hpl : .remove ∉ p.trace ∧ .evict ∉ p.trace := by
    simpa [hw, Withdrawing.Placed] using h.withdrawing
  have hm : p.system.roster.find? identity = some m := by rw [h.roster, if_neg hpl.1]
  obtain ⟨r, hr, hrun⟩ := run_deleteMember_of_find? h.rosterOutages hm
  rw [Race.step_false, hw, Withdrawing.step_removing, hrun, if_pos rfl]
  dsimp only [Withdrawing.awaits, Option.toList]
  exact {
    policy := h.policy
    clock := h.clock
    cacheOutages := h.cacheOutages
    rosterOutages := h.rosterOutages
    roster := by
      rw [if_pos (by simp)]
      exact hr
    session := by
      show p.system.live (sessionKey identity) = _
      simp only [h.session, writtenLast_append (show Await.remove ≠ .write by decide) (by decide)]
    ordered := by
      intro hwt
      obtain ⟨hl, -⟩ := h.ordered (by simpa using hwt)
      exact ⟨by simp [hl], fun _ => pair_sublist_append_singleton.2 (.inr ⟨hl, rfl⟩)⟩
    resolving := h.resolving.append_remove
    withdrawing := ⟨by simp, by simpa using hpl.2⟩ }

/-- The session entry is evicted; the withdrawal answers. -/
theorem RaceInv.evict (h : RaceInv identity m s0 p) (hw : p.withdrawing = .forgetting) :
    RaceInv identity m s0 (p.step identity false) := by
  have hpl : .remove ∈ p.trace ∧ .evict ∉ p.trace := by
    simpa [hw, Withdrawing.Placed] using h.withdrawing
  rw [Race.step_false, hw, Withdrawing.step_forgetting,
    run_forget (by simp [h.cacheOutages, hit])]
  dsimp only [Withdrawing.awaits, Option.toList]
  exact {
    policy := h.policy
    clock := h.clock
    cacheOutages := h.cacheOutages
    rosterOutages := h.rosterOutages
    roster := by
      rw [h.roster]
      simp
    session := by
      rw [live_erase, if_pos rfl, if_neg (fun hl => not_writtenLast_append_evict hpl.2 hl.1)]
    ordered := by
      intro hwt
      obtain ⟨hl, hord⟩ := h.ordered (by simpa using hwt)
      exact ⟨by simp [hl], fun hrem =>
        (hord (by simpa using hrem)).trans (List.sublist_append_left _ _)⟩
    resolving := h.resolving.append (by decide) (by decide)
    withdrawing := fun _ => ⟨by simp [hpl.1], by simp⟩ }

/-- Every call keeps the invariant. -/
theorem RaceInv.step (h : RaceInv identity m s0 p) (b : Bool) :
    RaceInv identity m s0 (p.step identity b) := by
  cases b with
  | true =>
    cases hr : p.resolving with
    | reading => exact h.read hr
    | looking => exact h.lookup hr
    | writing x => exact h.write hr
    | answered a =>
      -- an answered resolution makes no call
      rw [Race.step_true, hr, Resolving.step_answered]
      simpa [Resolving.awaits, ← hr] using h
  | false =>
    cases hw : p.withdrawing with
    | checking => exact h.check hw
    | revoking => exact h.revoke hw
    | removing => exact h.remove hw
    | forgetting => exact h.evict hw
    | answered a =>
      rw [Race.step_false, hw, Withdrawing.step_answered]
      simpa [Withdrawing.awaits, ← hw] using h

/-- The invariant holds after every schedule. -/
theorem raceInv_run (h : RaceInv identity m s0 p) (schedule : List Bool) :
    RaceInv identity m s0 (p.run identity schedule) := by
  induction schedule generalizing p with
  | nil => exact h
  | cons b rest ih => exact ih (h.step b)

end Invariant


-- ============================================================ what the race leaves behind

/-- A resolution racing a withdrawal of the same identity. Start from a gate without outages
whose roster has the member `m`, a signed 64-bit number, under the identity, and no live session
entry for it, and run the two tasks' calls in any order until the withdrawal has answered.
It answered by removing the member and evicting the entry, and no entry is read as long as the
resolution's write-back came before the eviction. But when the write-back came after the
eviction, and the session lifetime let it be stored, the entry reads the number of the removed
member, and a later resolution answers that number instead of an unknown user. Such a
write-back comes from a look-up made before the removal. -/
theorem withdrawal_races_write_back (identity : String) (m : Member) (s0 : System)
    (hm : s0.roster.find? identity = some m) (hfresh : s0.live (sessionKey identity) = none)
    (hc : s0.cacheOutages = []) (hr : s0.rosterOutages = [])
    (hlo : -9223372036854775808 ≤ m.id) (hhi : m.id ≤ 9223372036854775807)
    (schedule : List Bool)
    (hw : ((Race.start s0).run identity schedule).withdrawing = .answered (.ok ())) :
    let p := (Race.start s0).run identity schedule
    p.system.roster.find? identity = none ∧
      p.system.live (sessionKey identity) =
        (if [Await.evict, .write].Sublist p.trace ∧ s0.StoresSessions then some (toString m.id)
          else none) ∧
      ((resolve identity).run p.system).1 =
        (if [Await.evict, .write].Sublist p.trace ∧ s0.StoresSessions then .ok m.id
          else .error .unauthorizedUser) ∧
      ([Await.evict, .write].Sublist p.trace → [Await.lookup, .remove].Sublist p.trace) := by
  intro p
  have h : RaceInv identity m s0 p := raceInv_run (raceInv_start hm hfresh hc hr) schedule
  -- the withdrawal answered, so it removed the member and evicted the entry
  obtain ⟨hrem, hev⟩ : .remove ∈ p.trace ∧ .evict ∈ p.trace := by
    have hpl := h.withdrawing
    rw [hw] at hpl
    exact hpl rfl
  have hlive : p.system.live (sessionKey identity) =
      if [Await.evict, .write].Sublist p.trace ∧ s0.StoresSessions then some (toString m.id)
      else none := by
    simp only [h.session, writtenLast_iff_of_evict hev]
  have hgone : p.system.roster.find? identity = none := by rw [h.roster, if_pos hrem]
  refine ⟨hgone, hlive, ?_, fun hs => (h.ordered (hs.subset (by simp))).2 hrem⟩
  by_cases hstale : [Await.evict, .write].Sublist p.trace ∧ s0.StoresSessions
  · -- the stale entry reads back as the removed member's number
    rw [if_pos hstale]
    rw [if_pos hstale] at hlive
    apply resolve_of_live h.cacheOutages
    rw [hlive]
    exact Text.Decimal.i64?_toString hlo hhi
  · rw [if_neg hstale]
    rw [if_neg hstale] at hlive
    exact resolve_of_absent h.cacheOutages h.rosterOutages hlive hgone


/-- With `a@x.com` holding member 1 and a live refresh token, a resolution that runs to its end
before the withdrawal starts leaves nothing behind: the eviction comes after the write-back, and
a later resolution answers an unknown user. -/
theorem write_back_before_withdrawal_evicted :
    let s0 : System := ⟨⟨[], [], 3600, 1209600, 1800⟩, Clock.start,
      ⟨1024, [⟨refreshKey "a@x.com", "token", 200000000000000⟩], 0⟩,
      ⟨[("a@x.com", ⟨1, "digest", "salt"⟩)], 2⟩, [], [], 0, 0⟩
    let p := (Race.start s0).run "a@x.com" [true, true, true, false, false, false, false]
    p.withdrawing = .answered (.ok ()) ∧
      ((resolve "a@x.com").run p.system).1 = .error .unauthorizedUser := by
  intro s0 p
  have hw : p.withdrawing = .answered (.ok ()) := by decide
  obtain ⟨-, -, hres, -⟩ := withdrawal_races_write_back "a@x.com" ⟨1, "digest", "salt"⟩ s0
    (by decide) (by decide) rfl rfl (by decide) (by decide) _ hw
  refine ⟨hw, ?_⟩
  rw [hres, if_neg (by decide)]

/-- With `a@x.com` holding member 1 and a live refresh token: a resolution reads no session entry
and looks the member up, then a whole withdrawal runs, then the resolution writes the number
back. Both answer, and the member is gone, yet the session entry reads 1 and a later resolution
answers member 1. -/
theorem withdrawal_leaves_stale_session :
    let s0 : System := ⟨⟨[], [], 3600, 1209600, 1800⟩, Clock.start,
      ⟨1024, [⟨refreshKey "a@x.com", "token", 200000000000000⟩], 0⟩,
      ⟨[("a@x.com", ⟨1, "digest", "salt"⟩)], 2⟩, [], [], 0, 0⟩
    let p := (Race.start s0).run "a@x.com" [true, true, false, false, false, false, true]
    p.resolving = .answered (.ok 1) ∧ p.withdrawing = .answered (.ok ()) ∧
      p.system.roster.find? "a@x.com" = none ∧ p.system.live (sessionKey "a@x.com") = some "1" ∧
      ((resolve "a@x.com").run p.system).1 = .ok 1 := by
  decide

end Gatehouse.Gate
