import Gatehouse.Gate.Sessions
import Gatehouse.Proofs.Store.Cache

/-!
The two keyspaces of the shared cache, and what an operation on one key does to the others.

The refresh-token store keeps `refresh:<identity>`, the session cache `session:<identity>`,
and the readiness probe reads `health:probe`. The prefixes differ, so no two of these keys
meet. Every operation of either store is one cache operation on its own key (a save or a put
is a set, a removal or an eviction a delete, a look-up a get, an activity check an `exists`),
and a cache operation on one key leaves the entry under every other key as it was, with one
exception that is the cache's design: a set that stores a key not yet present into a full
cache pushes out the least recently used entry, whichever keyspace or identity it belongs to.

`other_keys_kept_but_for_eviction` states both halves for every state of the gate. Without the
exception the keyspaces would be fully independent; `save_pushes_out_session` shows that they
are not: in a cache of one key, saving a refresh token for one identity ends the session
entry of another.
-/

namespace Gatehouse

namespace Store

namespace Cache

-- ============================================================ entries under other keys

/-- Writing `key` pushes out the entry under `other`: `key` has no entry, the cache is full,
and its least recently used entry is under `other`. -/
def PushesOut (c : Cache) (key other : String) : Prop :=
  c.find? key = none ∧ c.capacity ≤ c.size ∧ ∃ z, c.entries.getLast? = some z ∧ z.key = other

/-- Dropping the last element of a list changes a search only when that element is the one
found. -/
theorem find?_dropLast {α : Type} (p : α → Bool) (l : List α) :
    l.dropLast.find? p = l.find? p ∨
      (l.dropLast.find? p = none ∧ ∃ z, l.getLast? = some z ∧ p z = true) := by
  rcases List.eq_nil_or_concat l with rfl | ⟨l', z, rfl⟩
  · exact .inl rfl
  · rw [List.concat_eq_append, List.dropLast_concat, List.find?_append]
    cases hf : l'.find? p with
    | some y => exact .inl rfl
    | none =>
      cases hz : p z
      · exact .inl (by simp [hz])
      · exact .inr ⟨rfl, z, by simp, hz⟩

theorem find?_promote_of_ne (c : Cache) (e : Entry) {other : String} (h : other ≠ e.key) :
    (c.promote e).find? other = c.find? other := by
  have hne : (e.key == other) = false := by simpa using Ne.symm h
  simp only [promote, find?, List.find?_cons, hne]
  exact find?_erase_of_ne c h

/-- A read leaves the entry under every other key as it was. -/
theorem find?_get_of_ne (c : Cache) {key other : String} (now : Nat) (h : other ≠ key) :
    (c.get key now).2.find? other = c.find? other := by
  unfold get
  cases hf : c.find? key with
  | none => rfl
  | some e =>
    obtain ⟨-, rfl⟩ := find?_eq_some hf
    dsimp only
    split
    · exact find?_promote_of_ne c e h
    · exact find?_erase_of_ne c h

/-- Writing an entry leaves the entry under every other key as it was, unless the write pushes
it out. -/
theorem find?_insert_of_ne (c : Cache) (e : Entry) {other : String} (h : other ≠ e.key) :
    (c.insert e).find? other = c.find? other ∨
      ((c.insert e).find? other = none ∧ c.PushesOut e.key other) := by
  have hne : (e.key == other) = false := by simpa using Ne.symm h
  unfold insert
  split
  · exact .inl (find?_promote_of_ne c e h)
  · rename_i hs
    have hnone : c.find? e.key = none := Option.not_isSome_iff_eq_none.1 hs
    split
    · left
      simp [find?, hne]
    · rename_i hroom
      simp only [find?, List.find?_cons, hne]
      rcases find?_dropLast (·.key == other) c.entries with hd | ⟨hd, z, hz, hzk⟩
      · exact .inl hd
      · exact .inr ⟨hd, hnone, by simp only [size] at hroom ⊢; omega, z, hz, by simpa using hzk⟩

/-- A set leaves the entry under every other key as it was, unless it pushes it out. -/
theorem find?_set_of_ne {c c' : Cache} {key value : String} {ttl : Span} {clock : Clock}
    (hs : c.set key value ttl clock = .ok c') {other : String} (h : other ≠ key) :
    c'.find? other = c.find? other ∨ (c'.find? other = none ∧ c.PushesOut key other) := by
  simp only [Cache.set] at hs
  split at hs
  · cases hs
    exact .inl (find?_erase_of_ne c h)
  · split at hs
    · cases hs
      exact find?_insert_of_ne c _ h
    · cases hs

end Cache

end Store

namespace Gate

open Store

-- ============================================================ the keys

/-- A refresh key never is a session key: the prefixes differ in their first letter. -/
theorem refreshKey_ne_sessionKey (a b : String) : refreshKey a ≠ sessionKey b := by
  intro h
  have := congrArg String.toList h
  simp [refreshKey, sessionKey, String.toList_append] at this

theorem refreshKey_injective : Function.Injective refreshKey := by
  intro a b h
  simpa [refreshKey] using h

theorem sessionKey_injective : Function.Injective sessionKey := by
  intro a b h
  simpa [sessionKey] using h

theorem refreshKey_ne_probe (a : String) : refreshKey a ≠ "health:probe" := by
  intro h
  have := congrArg String.toList h
  simp [refreshKey, String.toList_append] at this

theorem sessionKey_ne_probe (a : String) : sessionKey a ≠ "health:probe" := by
  intro h
  have := congrArg String.toList h
  simp [sessionKey, String.toList_append] at this

-- ============================================================ one operation, other keys

section Frame

variable (s : System) {key other : String}

theorem find?_cacheGet_of_ne (h : other ≠ key) :
    (cacheGet key s).2.cache.find? other = s.cache.find? other := by
  simp only [cacheGet, modifyGet, MonadStateOf.modifyGet, StateT.modifyGet]
  split
  · rfl
  · exact Cache.find?_get_of_ne s.cache s.clock.instant h

theorem find?_cacheExists_of_ne (h : other ≠ key) :
    (cacheExists key s).2.cache.find? other = s.cache.find? other := by
  simp only [cacheExists, modifyGet, MonadStateOf.modifyGet, StateT.modifyGet]
  split
  · rfl
  · exact Cache.find?_get_of_ne s.cache s.clock.instant h

theorem find?_cacheDelete_of_ne (h : other ≠ key) :
    (cacheDelete key s).2.cache.find? other = s.cache.find? other := by
  simp only [cacheDelete, modifyGet, MonadStateOf.modifyGet, StateT.modifyGet]
  split
  · rfl
  · exact Cache.find?_erase_of_ne s.cache h

theorem find?_cacheSet_of_ne (value : String) (ttl : Span) (h : other ≠ key) :
    (cacheSet key value ttl s).2.cache.find? other = s.cache.find? other ∨
      ((cacheSet key value ttl s).2.cache.find? other = none ∧ s.cache.PushesOut key other) := by
  simp only [cacheSet, modifyGet, MonadStateOf.modifyGet, StateT.modifyGet]
  split
  · exact .inl rfl
  · split
    · rename_i c' hs
      exact Cache.find?_set_of_ne hs h
    · exact .inl rfl

end Frame

/-- The keyspaces of the shared cache are kept apart by their keys, and an operation on one key
changes the entry under no other key but by pushing it out. The refresh keys, the session keys
and the probe key are pairwise distinct, one key per identity in each keyspace. A get, an
existence check or a delete of one key leaves the entry under every other key as it was; a set
of one key leaves it as it was too, unless the set stores a key not yet present into a full
cache whose least recently used entry is under the other key, which is then gone. So what the
session cache reads for `j` and what the refresh-token store reads for `i` change under the
other keyspace's operations, or under operations for another identity, only by that eviction. -/
theorem other_keys_kept_but_for_eviction (s : System) :
    (Function.Injective refreshKey ∧ Function.Injective sessionKey ∧
      (∀ a b, refreshKey a ≠ sessionKey b) ∧
      ∀ a, refreshKey a ≠ "health:probe" ∧ sessionKey a ≠ "health:probe") ∧
    ∀ key other, other ≠ key →
      (cacheGet key s).2.cache.find? other = s.cache.find? other ∧
      (cacheExists key s).2.cache.find? other = s.cache.find? other ∧
      (cacheDelete key s).2.cache.find? other = s.cache.find? other ∧
      ∀ value ttl, (cacheSet key value ttl s).2.cache.find? other = s.cache.find? other ∨
        ((cacheSet key value ttl s).2.cache.find? other = none ∧ s.cache.PushesOut key other) :=
  ⟨⟨refreshKey_injective, sessionKey_injective, refreshKey_ne_sessionKey,
      fun a => ⟨refreshKey_ne_probe a, sessionKey_ne_probe a⟩⟩,
    fun _ _ h => ⟨find?_cacheGet_of_ne s h, find?_cacheExists_of_ne s h,
      find?_cacheDelete_of_ne s h, fun value ttl => find?_cacheSet_of_ne s value ttl h⟩⟩

/-- In a cache of one key, the session cache puts the member number of `a@x.com`, and then the
refresh-token store saves a token for `b@x.com`: the save pushes the session entry out, and
the session cache no longer reads it. -/
theorem save_pushes_out_session :
    let s0 := System.init ⟨[], [], 3600, 1209600, 1800⟩ 1 Clock.start
    let s1 := (cacheSet (sessionKey "a@x.com") "1" (Span.ofSecs 1800) s0).2
    let s2 := (cacheSet (refreshKey "b@x.com") "token" (Span.ofSecs 1209600) s1).2
    (cacheGet (sessionKey "a@x.com") s1).1.toOption = some (some "1") ∧
      (cacheGet (sessionKey "a@x.com") s2).1.toOption = some none := by
  decide

end Gate

end Gatehouse
