import Gatehouse.Gate.Sessions
import Gatehouse.Proofs.Gate.Keyspaces

/-!
What each primitive step of the gate answers and leaves behind, seen through what a later step
can read.

`System.live s key` is the value a read of `key` finds now, and `System.liveEntry s key` the
entry it finds it in, expiry included. A gate step is a state transformer
that answers or refuses; `run_bind` says how a sequence of them runs, and the lemmas after it
give each primitive as one equation (`cacheGet_eq`, `cacheDelete_eq`, ...), so that no later
proof unfolds a primitive. Seen through `System.live`, a read keeps every live value and every
live entry (the entry it promotes or the expired entry it drops read the same: `live_read`,
`liveEntry_read`), a delete empties its own
key and keeps the others (`live_erase`), and a refused write changes nothing.
-/

namespace Gatehouse

namespace Store.Cache

/-- A read answers from the entry under its key alone. -/
theorem get_fst_congr {c c' : Cache} {key : String} (now : Nat) (h : c'.find? key = c.find? key) :
    (c'.get key now).1 = (c.get key now).1 := by
  unfold get
  rw [h]
  cases c.find? key with
  | none => rfl
  | some e => dsimp only; split <;> rfl

/-- A read keeps what every read at the same instant answers: the entry it promotes reads the
same, and the expired entry it drops read as nothing already. -/
theorem get_fst_get (c : Cache) (key k : String) (now : Nat) :
    ((c.get key now).2.get k now).1 = (c.get k now).1 := by
  by_cases hk : k = key
  · subst hk
    cases hf : c.find? k with
    | none => simp [get, hf]
    | some e =>
      obtain ⟨-, rfl⟩ := find?_eq_some hf
      by_cases hlive : now < e.expiry
      · simp [get, hf, hlive]
      · simp [get, hf, hlive]
  · exact get_fst_congr now (find?_get_of_ne c now hk)

/-- After removing a key, a read of it answers nothing and a read of any other key answers as
before. -/
theorem get_fst_erase (c : Cache) (key k : String) (now : Nat) :
    ((c.erase key).get k now).1 = if k = key then none else (c.get k now).1 := by
  split
  · rename_i hk
    subst hk
    simp [get]
  · rename_i hk
    exact get_fst_congr now (find?_erase_of_ne c hk)

/-- A read keeps every entry that is live at its instant: it promotes the entry it finds, and
the entry it drops had expired. -/
theorem filter_find?_get (c : Cache) (key k : String) (now : Nat) :
    ((c.get key now).2.find? k).filter (fun e => now < e.expiry) =
      (c.find? k).filter (fun e => now < e.expiry) := by
  by_cases hk : k = key
  · subst hk
    cases hf : c.find? k with
    | none => simp [get, hf]
    | some e =>
      obtain ⟨-, hek⟩ := find?_eq_some hf
      by_cases hlive : now < e.expiry
      · simp only [get, hf, hlive, if_true]
        rw [← hek, find?_promote_self]
      · simp [get, hf, hlive, Option.filter]
  · rw [find?_get_of_ne c now hk]

end Store.Cache

namespace Gate

open Store

/-- The value a read of a key finds now. -/
def System.live (s : System) (key : String) : Option String :=
  (s.cache.get key s.clock.instant).1

/-- The entry a read of a key finds live now: the entry under the key, while it has not
expired. -/
def System.liveEntry (s : System) (key : String) : Option Entry :=
  (s.cache.find? key).filter fun e => s.clock.instant < e.expiry

/-- The value read live is the value of the live entry. -/
theorem System.live_eq_liveEntry (s : System) (key : String) :
    s.live key = (s.liveEntry key).map (·.value) := by
  unfold System.live System.liveEntry Cache.get
  cases hf : s.cache.find? key with
  | none => rfl
  | some e =>
    by_cases h : s.clock.instant < e.expiry
    · simp [h]
    · simp [h, Nat.not_lt.1 h]

-- ============================================================ sequencing

theorem run_bind {α β : Type} (x : GateM α) (f : α → GateM β) (s : System) :
    (x >>= f).run s = match x.run s with
      | (.ok a, s1) => (f a).run s1
      | (.error e, s1) => (.error e, s1) := by
  show (ExceptT.bind x f).run s = _
  simp only [ExceptT.bind, ExceptT.run, ExceptT.mk]
  show (StateT.bind x fun r => _) s = _
  simp only [StateT.bind]
  rcases x s with ⟨_ | _, s1⟩ <;> rfl

theorem run_pure {α : Type} (a : α) (s : System) : (pure a : GateM α).run s = (.ok a, s) := rfl

theorem run_throw {α : Type} (e : Auth.Fault) (s : System) :
    (throw e : GateM α).run s = (.error e, s) := rfl

theorem run_get (s : System) : (get : GateM System).run s = (.ok s, s) := rfl

/-- A step of the state alone, inside a gate step, never refuses. -/
theorem run_lift {α : Type} (x : StateM System α) (s : System) :
    (liftM x : GateM α).run s = (.ok (x s).1, (x s).2) := rfl

/-- A refusal caught by a handler that answers in its place never reaches the caller. -/
theorem run_tryCatch_pure {α : Type} (x : GateM α) (a : α) (s : System) :
    (tryCatch x fun _ => pure a).run s =
      match x.run s with
      | (.ok b, s1) => (.ok b, s1)
      | (.error _, s1) => (.ok a, s1) := by
  show (ExceptT.tryCatch x fun _ => pure a) s = _
  simp only [ExceptT.tryCatch, ExceptT.mk, ExceptT.run]
  show (StateT.bind x fun r => _) s = _
  simp only [StateT.bind]
  rcases x s with ⟨_ | _, s1⟩ <;> rfl

-- ============================================================ the primitives, as equations

section Primitives

variable (s : System) (key : String)

theorem cacheGet_eq : cacheGet key s =
    if hit s.cacheOutages "get" key then (.error .poisoned, s)
    else (.ok (s.live key), { s with cache := (s.cache.get key s.clock.instant).2 }) := rfl

theorem cacheExists_eq : cacheExists key s =
    if hit s.cacheOutages "exists" key then (.error .poisoned, s)
    else (.ok (s.live key).isSome, { s with cache := (s.cache.get key s.clock.instant).2 }) :=
  rfl

theorem cacheDelete_eq : cacheDelete key s =
    if hit s.cacheOutages "delete" key then (.error .poisoned, s)
    else (.ok (), { s with cache := s.cache.erase key }) := rfl

theorem cacheSet_eq (value : String) (ttl : Span) : cacheSet key value ttl s =
    if hit s.cacheOutages "set" key then (.error .poisoned, s)
    else match s.cache.set key value ttl s.clock with
      | .ok c => (.ok (), { s with cache := c })
      | .error e => (.error e, s) := rfl

theorem findId_eq (identity : String) : findId identity s =
    if hit s.rosterOutages "find_id" identity then
      (.error rosterDown, { s with lookups := s.lookups + 1 })
    else (.ok ((s.roster.find? identity).map (·.id)), { s with lookups := s.lookups + 1 }) := rfl

theorem findMember_eq (identity : String) : findMember identity s =
    if hit s.rosterOutages "find_credentials" identity then (.error rosterDown, s)
    else (.ok (s.roster.find? identity), s) := rfl

theorem deleteMember_eq (identity : String) : deleteMember identity s =
    if hit s.rosterOutages "delete" identity then (.error rosterDown, s)
    else match s.roster.delete identity with
      | .ok r => (.ok (), { s with roster := r })
      | .error e => (.error e, s) := rfl

theorem run_cached {α : Type} (x : StateM System (Except CacheFault α)) :
    (cached x).run s = ((x s).1.mapError fun e => .internal e.message, (x s).2) := rfl

theorem run_rostered {α : Type} (x : StateM System (Except RosterFault α)) :
    (rostered x).run s = ((x s).1.mapError RosterFault.toAuth, (x s).2) := rfl

end Primitives

-- ============================================================ live values

/-- A read keeps every live value. -/
theorem live_read (s : System) (key : String) :
    ({ s with cache := (s.cache.get key s.clock.instant).2 } : System).live = s.live := by
  funext k
  exact Cache.get_fst_get s.cache key k s.clock.instant

/-- A read keeps every live entry, with its expiry. -/
theorem liveEntry_read (s : System) (key : String) :
    ({ s with cache := (s.cache.get key s.clock.instant).2 } : System).liveEntry = s.liveEntry := by
  funext k
  exact Cache.filter_find?_get s.cache key k s.clock.instant

/-- Removing a key empties its live value and keeps every other. -/
theorem live_erase (s : System) (key k : String) :
    ({ s with cache := s.cache.erase key } : System).live k =
      if k = key then none else s.live k :=
  Cache.get_fst_erase s.cache key k s.clock.instant

end Gate

end Gatehouse
