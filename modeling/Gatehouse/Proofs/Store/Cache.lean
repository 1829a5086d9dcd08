import Gatehouse.Store.Cache
import Mathlib.Data.Finset.Card

/-!
The cache over a whole history of calls: how many keys it holds, which values it answers, and
which it is bound to keep.

A history is a list of calls (`get`, `set`, `delete`, and `probe`, the read for existence),
each made at a clock reading, on a cache that starts empty. `history_bounded_fresh_retained`
says, for every capacity `n ≥ 1` and every history:

1. the cache never holds more than `n` keys;
2. a read answers a value `v`, or finds the key present, only when the last successful write
   of the key was a set of `v` for a nonzero span that has not yet run out;
3. conversely, such a read answers `v` when no call of the history came later on the clock and
   fewer than `n` other keys were made the most recently used (stored by a set, or found live
   by a read) since the key last was;
4. a set whose expiry instant lies beyond the representable range fails with
   `ttlOutOfRange` and leaves the cache exactly as it was.

The proof carries one invariant, `Coherent`, from the empty cache through every call. It ties
each entry to the last write of its key, orders the entries by the keys touched since
(`[a, b].Sublist entries` puts `a.key` among the keys touched after `b.key` last was), and accounts
for every key whose live set has no entry: a call at or past its expiry read it away, or the
cache, full, let in `capacity` other keys since. Each call keeps it (`Coherent.call`) through
one of three moves: nothing changes (`Coherent.mono`), a key is removed (`Coherent.erase`), or
an entry is put first over a part of the old entries (`Coherent.touch`).
-/

namespace Gatehouse.Store

namespace Cache

-- ============================================================ calls and histories

/-- A call on the cache. -/
inductive Call where
  | get (key : String)
  | set (key value : String) (ttl : Span)
  | delete (key : String)
  | probe (key : String)
  deriving DecidableEq, Repr

/-- What a call answers: the value read, the outcome of a write, that a key is gone, or whether
a key holds a live value. -/
inductive Reply where
  | value (v : Option String)
  | written (r : Except CacheFault Unit)
  | deleted
  | present (b : Bool)

/-- The reply to a call made at a clock reading, and the cache after it; a write that fails
leaves the cache as it was. -/
def call (c : Cache) (clock : Clock) : Call → Reply × Cache
  | .get key => (.value (c.get key clock.instant).1, (c.get key clock.instant).2)
  | .set key value ttl =>
    match c.set key value ttl clock with
    | .ok c' => (.written (.ok ()), c')
    | .error e => (.written (.error e), c)
  | .delete key => (.deleted, c.delete key)
  | .probe key => (.present (c.get key clock.instant).1.isSome, (c.get key clock.instant).2)

/-- The key a call makes the most recently used, given its reply: the key a set stores, or the
key a read finds live. -/
def Call.touch : Call → Reply → Option String
  | .get key, .value (some _) => some key
  | .probe key, .present true => some key
  | .set key _ ttl, .written (.ok ()) => if ttl.isZero then none else some key
  | _, _ => none

/-- Whether a call, made at a clock reading, writes a key successfully: a delete of it, or a
set of it whose expiry can be represented (that of an empty span always can). -/
def writes (key : String) (x : Clock × Call) : Bool :=
  match x.2 with
  | .set k _ ttl => k == key && (ttl.isZero || (x.1.after ttl).isSome)
  | .delete k => k == key
  | _ => false

/-- The last call of a history that writes a key successfully. -/
def lastWrite? (h : List (Clock × Call)) (key : String) : Option (Clock × Call) :=
  h.reverse.find? (writes key)

/-- The cache after a history of calls. -/
def after (c : Cache) (h : List (Clock × Call)) : Cache :=
  h.foldl (fun c x => (c.call x.1 x.2).2) c

/-- The keys a history of calls makes the most recently used, in the order it does. -/
def touches (c : Cache) : List (Clock × Call) → List String
  | [] => []
  | x :: h => (x.2.touch (c.call x.1 x.2).1).toList ++ touches (c.call x.1 x.2).2 h

/-- The keys made the most recently used since `key` last was, the latest first. -/
def recentSince (key : String) (ts : List String) : List String :=
  ts.reverse.takeWhile (· != key)

/-- The last successful write of `key` in a history set it to `v` for a nonzero span that has
not run out at `clock`. -/
def SetLive (h : List (Clock × Call)) (key v : String) (clock : Clock) : Prop :=
  ∃ t0 d, lastWrite? h key = some (t0, .set key v d) ∧ 0 < d.nanos ∧
    clock.instant < t0.instant + d.nanos

theorem after_append_singleton (c : Cache) (h : List (Clock × Call)) (x : Clock × Call) :
    c.after (h ++ [x]) = ((c.after h).call x.1 x.2).2 := by
  simp [after, List.foldl_append]

theorem touches_append_singleton (c : Cache) (h : List (Clock × Call)) (x : Clock × Call) :
    c.touches (h ++ [x]) = c.touches h ++ (x.2.touch ((c.after h).call x.1 x.2).1).toList := by
  induction h generalizing c with
  | nil => simp [touches, after]
  | cons y h ih => simp [touches, ih, after]

theorem capacity_get (c : Cache) (key : String) (now : Nat) :
    (c.get key now).2.capacity = c.capacity := by
  unfold get
  split
  · rfl
  · split <;> rfl

/-- No call changes the capacity. -/
theorem capacity_call (c : Cache) (clock : Clock) (x : Call) :
    (c.call clock x).2.capacity = c.capacity := by
  cases x with
  | get key => exact capacity_get c key clock.instant
  | probe key => exact capacity_get c key clock.instant
  | delete key => rfl
  | set key value ttl =>
    cases hs : c.set key value ttl clock with
    | error e => simp [Cache.call, hs]
    | ok c' =>
      simp only [Cache.call, hs]
      simp only [Cache.set] at hs
      split at hs
      · cases hs
        rfl
      · split at hs
        · cases hs
          exact capacity_insert c _
        · cases hs

theorem capacity_after (c : Cache) (h : List (Clock × Call)) :
    (c.after h).capacity = c.capacity := by
  induction h using List.reverseRecOn with
  | nil => rfl
  | append_singleton h x ih => rw [after_append_singleton, capacity_call, ih]

theorem lastWrite?_append_singleton (h : List (Clock × Call)) (x : Clock × Call) (key : String) :
    lastWrite? (h ++ [x]) key = if writes key x then some x else lastWrite? h key := by
  simp only [lastWrite?, List.reverse_append, List.reverse_cons, List.reverse_nil,
    List.nil_append, List.cons_append, List.find?_cons]
  split <;> simp_all

theorem recentSince_append_self (key : String) (ts : List String) :
    recentSince key (ts ++ [key]) = [] := by
  simp [recentSince]

theorem recentSince_append_of_ne {key k : String} (ts : List String) (h : k ≠ key) :
    recentSince key (ts ++ [k]) = k :: recentSince key ts := by
  simp [recentSince, h]

theorem card_recentSince_le {key k : String} (ts : List String) (h : k ≠ key) :
    (recentSince key ts).toFinset.card ≤ (recentSince key (ts ++ [k])).toFinset.card := by
  rw [recentSince_append_of_ne ts h, List.toFinset_cons]
  exact Finset.card_le_card (Finset.subset_insert _ _)

-- ============================================================ entries under a key

theorem find?_eq_some {c : Cache} {key : String} {e : Entry} (h : c.find? key = some e) :
    e ∈ c.entries ∧ e.key = key :=
  ⟨List.mem_of_find?_eq_some h, by simpa using List.find?_some h⟩

theorem find?_eq_none_iff {c : Cache} {key : String} :
    c.find? key = none ↔ ∀ z ∈ c.entries, z.key ≠ key := by
  simp [find?, List.find?_eq_none]

/-- A read answers a value exactly when an entry is under the key and has not expired. -/
theorem get_fst_eq_some {c : Cache} {key v : String} {now : Nat} :
    (c.get key now).1 = some v ↔ ∃ e, c.find? key = some e ∧ now < e.expiry ∧ e.value = v := by
  unfold get
  split
  · simp_all
  · split <;> simp_all

theorem after_eq_some {clock : Clock} {d : Span} {t : Nat} (h : clock.after d = some t) :
    t = clock.instant + d.nanos := by
  unfold Clock.after at h
  dsimp only at h
  split at h
  · cases h; rfl
  · cases h

-- ============================================================ the invariant

/-- What the entries of a cache owe to the history of calls that built it, where `ts` are the
keys that history made the most recently used. -/
structure Coherent (h : List (Clock × Call)) (ts : List String) (c : Cache) : Prop where
  capacity_pos : 0 < c.capacity
  nodup : (c.entries.map (·.key)).Nodup
  size_le : c.size ≤ c.capacity
  /-- Every entry is the last write of its key: a set for a nonzero span, expiring where that
  set said. -/
  written : ∀ e ∈ c.entries, ∃ t0 d, lastWrite? h e.key = some (t0, .set e.key e.value d) ∧
    0 < d.nanos ∧ e.expiry = t0.instant + d.nanos
  /-- An entry stands behind only keys made the most recently used since its own key was. -/
  behind : ∀ a b, [a, b].Sublist c.entries → a.key ∈ recentSince b.key ts
  /-- A key whose last write is a set for a nonzero span lacks an entry only when some call came
  at or after the expiry, or `capacity` other keys were made the most recently used since. -/
  missing : ∀ key t0 v d, lastWrite? h key = some (t0, .set key v d) → 0 < d.nanos →
    c.find? key = none →
    (∃ x ∈ h, t0.instant + d.nanos ≤ x.1.instant) ∨
      c.capacity ≤ (recentSince key ts).toFinset.card

theorem coherent_empty (n : Nat) : Coherent [] [] (empty n) where
  capacity_pos := by simp [empty]
  nodup := List.nodup_nil
  size_le := by simp [empty, size]
  written e he := by simp [empty] at he
  behind a b hab := by simp [empty] at hab
  missing key t0 v d hl := by simp [lastWrite?] at hl

section Moves

variable {h h' : List (Clock × Call)} {ts : List String} {c : Cache}

/-- A call that leaves the entries alone and writes no key keeps the invariant. -/
theorem Coherent.mono (hc : Coherent h ts c)
    (hlast : ∀ key, lastWrite? h' key = lastWrite? h key) (hsub : ∀ x ∈ h, x ∈ h') :
    Coherent h' ts c where
  capacity_pos := hc.capacity_pos
  nodup := hc.nodup
  size_le := hc.size_le
  written e he := by rw [hlast]; exact hc.written e he
  behind := hc.behind
  missing key t0 v d hl hd hf := by
    rw [hlast] at hl
    obtain ⟨x, hx, hle⟩ | hcard := hc.missing key t0 v d hl hd hf
    · exact .inl ⟨x, hsub x hx, hle⟩
    · exact .inr hcard

/-- Removing a key keeps the invariant when no other key's last write changes, and a live set
of the removed key, if it is the last write, was seen to expire. -/
theorem Coherent.erase {key : String} (hc : Coherent h ts c)
    (hlast : ∀ k, k ≠ key → lastWrite? h' k = lastWrite? h k) (hsub : ∀ x ∈ h, x ∈ h')
    (hgone : ∀ t0 v d, lastWrite? h' key = some (t0, .set key v d) → 0 < d.nanos →
      ∃ x ∈ h', t0.instant + d.nanos ≤ x.1.instant) :
    Coherent h' ts (c.erase key) where
  capacity_pos := hc.capacity_pos
  nodup := hc.nodup.sublist (List.filter_sublist.map _)
  size_le := (size_erase_le c key).trans hc.size_le
  written e he := by
    have ⟨hmem, hne⟩ : e ∈ c.entries ∧ e.key ≠ key := by simpa [Cache.erase] using he
    rw [hlast e.key hne]
    exact hc.written e hmem
  behind a b hab := hc.behind a b (hab.trans List.filter_sublist)
  missing k t0 v d hl hd hf := by
    by_cases hk : k = key
    · subst hk
      exact .inl (hgone t0 v d hl hd)
    · rw [hlast k hk] at hl
      rw [find?_erase_of_ne c hk] at hf
      obtain ⟨x, hx, hle⟩ | hcard := hc.missing k t0 v d hl hd hf
      · exact .inl ⟨x, hsub x hx, hle⟩
      · exact .inr hcard

/-- Putting an entry first, over a part `rest` of the old entries that lacks its key, keeps the
invariant when the entry is the last write of its key and every old entry left out was pushed
out by `capacity` other keys. -/
theorem Coherent.touch {e : Entry} {rest : List Entry} {n : Nat} (hc : Coherent h ts c)
    (hrest : rest.Sublist c.entries) (hkey : ∀ z ∈ rest, z.key ≠ e.key)
    (hlen : rest.length + 1 ≤ c.capacity)
    (hlast : ∀ k, k ≠ e.key → lastWrite? h' k = lastWrite? h k)
    (hself : ∃ t0 d, lastWrite? h' e.key = some (t0, .set e.key e.value d) ∧ 0 < d.nanos ∧
      e.expiry = t0.instant + d.nanos)
    (hsub : ∀ x ∈ h, x ∈ h')
    (hevict : ∀ z ∈ c.entries, z ∉ rest → z.key ≠ e.key →
      c.capacity ≤ (recentSince z.key (ts ++ [e.key])).toFinset.card) :
    Coherent h' (ts ++ [e.key]) ⟨c.capacity, e :: rest, n⟩ where
  capacity_pos := hc.capacity_pos
  nodup := by
    simp only [List.map_cons, List.nodup_cons, List.mem_map, not_exists, not_and]
    exact ⟨fun z hz hze => hkey z hz hze, hc.nodup.sublist (hrest.map _)⟩
  size_le := by simpa [size] using hlen
  written z hz := by
    rcases List.mem_cons.1 hz with rfl | hz
    · exact hself
    · rw [hlast z.key (hkey z hz)]
      exact hc.written z (hrest.subset hz)
  behind a b hab := by
    rcases List.sublist_cons_iff.1 hab with hab | ⟨r, hr, hrs⟩
    · -- both stood in the old entries, in the same order
      have hb : b ∈ rest := List.singleton_sublist.1 ((List.sublist_cons_self a [b]).trans hab)
      rw [recentSince_append_of_ne ts (Ne.symm (hkey b hb))]
      exact List.mem_cons_of_mem _ (hc.behind a b (hab.trans hrest))
    · -- `a` is the new first entry, touched after every other key
      obtain ⟨rfl, rfl⟩ := List.cons_eq_cons.1 hr
      have hb : b ∈ rest := List.singleton_sublist.1 hrs
      rw [recentSince_append_of_ne ts (Ne.symm (hkey b hb))]
      exact List.mem_cons_self
  missing k t0 v d hl hd hf := by
    have hall := find?_eq_none_iff.1 hf
    have hk : e.key ≠ k := hall e List.mem_cons_self
    rw [hlast k (Ne.symm hk)] at hl
    cases hold : c.find? k with
    | none =>
      obtain ⟨x, hx, hle⟩ | hcard := hc.missing k t0 v d hl hd hold
      · exact .inl ⟨x, hsub x hx, hle⟩
      · exact .inr (hcard.trans (card_recentSince_le ts hk))
    | some z =>
      -- the old entry under `k` is not among those kept: it was pushed out
      obtain ⟨hz, rfl⟩ := find?_eq_some hold
      have hzr : z ∉ rest := fun hzr => hall z (List.mem_cons_of_mem _ hzr) rfl
      exact .inr (hevict z hz hzr (Ne.symm hk))

end Moves

-- ============================================================ one call

section Step

variable {h : List (Clock × Call)} {ts : List String} {c : Cache}

/-- The entry a read finds live is the last write of its key. -/
theorem Coherent.written_of_find? (hc : Coherent h ts c) {key : String} {e : Entry}
    (hf : c.find? key = some e) :
    e.key = key ∧ ∃ t0 d, lastWrite? h key = some (t0, .set key e.value d) ∧ 0 < d.nanos ∧
      e.expiry = t0.instant + d.nanos := by
  obtain ⟨he, rfl⟩ := find?_eq_some hf
  exact ⟨rfl, hc.written e he⟩

/-- A read keeps the invariant; it touches its key when it finds a live value. -/
theorem Coherent.read (hc : Coherent h ts c) (x : Clock × Call) (key : String)
    (hx : ∀ k, writes k x = false) :
    Coherent (h ++ [x]) (ts ++ (if (c.get key x.1.instant).1.isSome then [key] else []))
      (c.get key x.1.instant).2 := by
  have hlast : ∀ k, lastWrite? (h ++ [x]) k = lastWrite? h k := by
    intro k; simp [lastWrite?_append_singleton, hx k]
  have hsub : ∀ y ∈ h, y ∈ h ++ [x] := fun y hy => List.mem_append_left _ hy
  cases hf : c.find? key with
  | none => simpa [get, hf] using hc.mono hlast hsub
  | some e =>
    obtain ⟨hek, t0, d, hw, hd, hexp⟩ := hc.written_of_find? hf
    by_cases hlive : x.1.instant < e.expiry
    · -- a hit puts the entry first
      simp only [get, hf, hlive, if_true, Option.isSome_some]
      subst hek
      refine hc.touch List.filter_sublist (fun z hz => by simpa using (List.mem_filter.1 hz).2)
        ?_ (fun k _ => hlast k) ⟨t0, d, by rw [hlast]; exact hw, hd, hexp⟩ hsub ?_
      · have := size_erase_lt c e.key (by rw [hf]; rfl)
        have := hc.size_le
        simp only [size, Cache.erase] at *
        omega
      · intro z hz hzr hze
        exact absurd (List.mem_filter.2 ⟨hz, by simpa using hze⟩) hzr
    · -- an expired entry is read away, at a call past its expiry
      simp only [get, hf, hlive, Option.isSome_none, Bool.false_eq_true, ↓reduceIte,
        List.append_nil]
      refine hc.erase (fun k _ => hlast k) hsub ?_
      intro t0' v' d' hl _
      rw [hlast, hw] at hl
      simp only [Option.some.injEq, Prod.mk.injEq, Call.set.injEq] at hl
      obtain ⟨rfl, -, -, rfl⟩ := hl
      exact ⟨x, List.mem_append_right _ (List.mem_singleton_self x), by omega⟩

/-- In a full cache the least recently used entry stands behind `capacity - 1` other keys, all
made the most recently used since its own key was; a new key let in makes `capacity`. -/
theorem Coherent.card_recentSince_last (hc : Coherent h ts c) (hfull : c.capacity ≤ c.size)
    {k : String} (hk : ∀ z ∈ c.entries, z.key ≠ k) {z : Entry} (hz : z ∈ c.entries)
    (hzd : z ∉ c.entries.dropLast) :
    c.capacity ≤ (recentSince z.key (ts ++ [k])).toFinset.card := by
  have hne : c.entries ≠ [] := List.ne_nil_of_mem hz
  have hsplit := List.dropLast_append_getLast hne
  have hzl : z = c.entries.getLast hne := by
    rw [← hsplit] at hz
    simpa [hzd] using hz
  have hkz : k ≠ z.key := fun hkz => hk z hz hkz.symm
  -- every key in front of the last entry was touched since it was
  have hfront : ∀ a ∈ c.entries.dropLast, a.key ∈ recentSince z.key ts := by
    intro a ha
    apply hc.behind a z
    have hsl : [a, z].Sublist (c.entries.dropLast ++ [c.entries.getLast hne]) := by
      rw [← hzl]
      exact (List.singleton_sublist.2 ha).append (List.Sublist.refl [z])
    rwa [hsplit] at hsl
  have hsubset : Insert.insert k (c.entries.dropLast.map (·.key)).toFinset ⊆
      (recentSince z.key (ts ++ [k])).toFinset := by
    rw [recentSince_append_of_ne ts hkz, List.toFinset_cons]
    apply Finset.insert_subset_insert
    intro y hy
    simp only [List.mem_toFinset, List.mem_map] at hy ⊢
    obtain ⟨a, ha, rfl⟩ := hy
    exact hfront a ha
  have hknot : k ∉ (c.entries.dropLast.map (·.key)).toFinset := by
    simp only [List.mem_toFinset, List.mem_map, not_exists, not_and]
    exact fun a ha => hk a ((List.dropLast_sublist _).subset ha)
  have hcard : (c.entries.dropLast.map (·.key)).toFinset.card = c.size - 1 := by
    rw [List.toFinset_card_of_nodup (hc.nodup.sublist ((List.dropLast_sublist _).map _))]
    simp [size]
  calc c.capacity ≤ c.size - 1 + 1 := by have := hc.size_le; have := hc.capacity_pos; omega
    _ = (Insert.insert k (c.entries.dropLast.map (·.key)).toFinset).card := by
      rw [Finset.card_insert_of_notMem hknot, hcard]
    _ ≤ _ := Finset.card_le_card hsubset

/-- Writing an entry that is the last write of its key keeps the invariant, whichever way the
cache makes room for it. -/
theorem Coherent.insert {h' : List (Clock × Call)} (hc : Coherent h ts c) (e : Entry)
    (hlast : ∀ k, k ≠ e.key → lastWrite? h' k = lastWrite? h k)
    (hself : ∃ t0 d, lastWrite? h' e.key = some (t0, .set e.key e.value d) ∧ 0 < d.nanos ∧
      e.expiry = t0.instant + d.nanos)
    (hsub : ∀ x ∈ h, x ∈ h') :
    Coherent h' (ts ++ [e.key]) (c.insert e) := by
  unfold Cache.insert
  split
  · -- the key has an entry: it is replaced and put first
    rename_i hs
    refine hc.touch List.filter_sublist (fun z hz => by simpa using (List.mem_filter.1 hz).2)
      ?_ hlast hself hsub ?_
    · have := size_erase_lt c e.key hs
      have := hc.size_le
      simp only [size, Cache.erase] at *
      omega
    · intro z hz hzr hze
      exact absurd (List.mem_filter.2 ⟨hz, by simpa using hze⟩) hzr
  · rename_i hs
    have hk : ∀ z ∈ c.entries, z.key ≠ e.key :=
      find?_eq_none_iff.1 (Option.not_isSome_iff_eq_none.1 hs)
    split
    · -- room is left: the entry goes in front
      rename_i hroom
      exact hc.touch (List.Sublist.refl _) hk (by simp only [size] at hroom; omega) hlast hself hsub
        (fun z hz hzr => absurd hz hzr)
    · -- full: the least recently used entry makes way
      rename_i hroom
      refine hc.touch (List.dropLast_sublist _)
        (fun z hz => hk z ((List.dropLast_sublist _).subset hz)) ?_ hlast hself hsub
        (fun z hz hzd _ => hc.card_recentSince_last (by omega) hk hz hzd)
      have := hc.size_le
      have := hc.capacity_pos
      simp only [size, List.length_dropLast] at *
      omega

/-- A set keeps the invariant. -/
theorem Coherent.set (hc : Coherent h ts c) (clock : Clock) (key value : String) (ttl : Span) :
    Coherent (h ++ [(clock, .set key value ttl)])
      (ts ++ ((Call.set key value ttl).touch (c.call clock (.set key value ttl)).1).toList)
      (c.call clock (.set key value ttl)).2 := by
  have hsub : ∀ y ∈ h, y ∈ h ++ [(clock, .set key value ttl)] :=
    fun y hy => List.mem_append_left _ hy
  have hother : ∀ k, k ≠ key → lastWrite? (h ++ [(clock, .set key value ttl)]) k =
      lastWrite? h k := by
    intro k hk
    simp [lastWrite?_append_singleton, writes, hk.symm]
  by_cases hz : ttl.isZero = true
  · -- an empty span removes the key
    simp only [Cache.call, set_of_isZero c key value ttl clock hz, Call.touch, hz, ↓reduceIte,
      Option.toList_none, List.append_nil]
    refine hc.erase hother hsub ?_
    intro t0 v d hl hd
    simp [lastWrite?_append_singleton, writes, hz] at hl
    obtain ⟨-, -, rfl⟩ := hl
    simp [Span.isZero] at hz
    omega
  · cases ha : clock.after ttl with
    | none =>
      -- an expiry out of range: the write fails and changes nothing
      have hset : c.set key value ttl clock = .error (.ttlOutOfRange ttl) := by
        simp [Cache.set, hz, ha]
      simp only [Cache.call, hset, Call.touch, Option.toList_none, List.append_nil]
      refine hc.mono (fun k => ?_) hsub
      simp [lastWrite?_append_singleton, writes, hz, ha]
    | some exp =>
      have hset : c.set key value ttl clock = .ok (c.insert ⟨key, value, exp⟩) := by
        simp [Cache.set, hz, ha]
      simp only [Cache.call, hset, Call.touch, hz, Bool.false_eq_true, ↓reduceIte,
        Option.toList_some]
      refine hc.insert ⟨key, value, exp⟩ hother ⟨clock, ttl, ?_, ?_, after_eq_some ha⟩ hsub
      · simp [lastWrite?_append_singleton, writes, ha]
      · simp only [Span.isZero, beq_iff_eq] at hz
        omega

/-- A delete keeps the invariant. -/
theorem Coherent.delete (hc : Coherent h ts c) (clock : Clock) (key : String) :
    Coherent (h ++ [(clock, .delete key)]) ts (c.delete key) := by
  refine hc.erase (fun k hk => ?_) (fun y hy => List.mem_append_left _ hy) ?_
  · simp [lastWrite?_append_singleton, writes, hk.symm]
  · intro t0 v d hl
    simp [lastWrite?_append_singleton, writes] at hl

/-- Every call keeps the invariant. -/
theorem Coherent.call (hc : Coherent h ts c) (x : Clock × Call) :
    Coherent (h ++ [x]) (ts ++ (x.2.touch (c.call x.1 x.2).1).toList) (c.call x.1 x.2).2 := by
  obtain ⟨clock, op⟩ := x
  cases op with
  | get key =>
    have hr := hc.read (clock, .get key) key (fun _ => rfl)
    cases hg : (c.get key clock.instant).1 <;> simpa [Cache.call, Call.touch, hg] using hr
  | probe key =>
    have hr := hc.read (clock, .probe key) key (fun _ => rfl)
    cases hg : (c.get key clock.instant).1 <;> simpa [Cache.call, Call.touch, hg] using hr
  | set key value ttl => exact hc.set clock key value ttl
  | delete key => simpa [Cache.call, Call.touch] using hc.delete clock key

end Step

/-- The invariant holds after every history of calls on a cache that starts empty. -/
theorem coherent_after (n : Nat) (h : List (Clock × Call)) :
    Coherent h ((empty n).touches h) ((empty n).after h) := by
  induction h using List.reverseRecOn with
  | nil => exact coherent_empty n
  | append_singleton h x ih =>
    rw [after_append_singleton, touches_append_singleton]
    exact ih.call x

-- ============================================================ what a read answers

section Reads

variable {h : List (Clock × Call)} {ts : List String} {c : Cache}

/-- A read answers a value only when the last write of the key set that value and has not run
out. -/
theorem Coherent.setLive_of_get (hc : Coherent h ts c) {key v : String} {clock : Clock}
    (hg : (c.get key clock.instant).1 = some v) : SetLive h key v clock := by
  obtain ⟨e, hf, hlive, rfl⟩ := get_fst_eq_some.1 hg
  obtain ⟨-, t0, d, hw, hd, hexp⟩ := hc.written_of_find? hf
  exact ⟨t0, d, hw, hd, hexp ▸ hlive⟩

/-- A live set is answered as long as no call came later on the clock and fewer than
`capacity` other keys were made the most recently used since its key last was. -/
theorem Coherent.get_of_setLive (hc : Coherent h ts c) {key v : String} {clock : Clock}
    (hlive : SetLive h key v clock) (hnow : ∀ x ∈ h, x.1.instant ≤ clock.instant)
    (hfew : (recentSince key ts).toFinset.card < c.capacity) :
    (c.get key clock.instant).1 = some v := by
  obtain ⟨t0, d, hw, hd, hlt⟩ := hlive
  cases hf : c.find? key with
  | none =>
    exfalso
    obtain ⟨x, hx, hle⟩ | hcard := hc.missing key t0 v d hw hd hf
    · have := hnow x hx
      omega
    · omega
  | some e =>
    obtain ⟨-, t0', d', hw', _, hexp⟩ := hc.written_of_find? hf
    rw [hw] at hw'
    simp only [Option.some.injEq, Prod.mk.injEq, Call.set.injEq] at hw'
    obtain ⟨rfl, -, hv, rfl⟩ := hw'
    exact get_fst_eq_some.2 ⟨e, hf, by omega, hv.symm⟩

end Reads

/-- A set whose expiry instant cannot be represented fails and leaves the cache as it was. -/
theorem call_set_out_of_range (c : Cache) (clock : Clock) (key value : String) (ttl : Span)
    (hclock : clock.instant / Span.perSecond ≤ instantLimit)
    (hover : instantLimit < (clock.instant + ttl.nanos) / Span.perSecond) :
    c.call clock (.set key value ttl) = (.written (.error (.ttlOutOfRange ttl)), c) := by
  have hz : ttl.isZero = false := by
    simp only [Span.isZero, beq_eq_false_iff_ne, ne_eq]
    intro h0
    rw [h0, Nat.add_zero] at hover
    omega
  have ha : clock.after ttl = none := by
    simp only [Clock.after, Clock.instant] at hover ⊢
    simp [Nat.not_le.2 hover]
  simp [Cache.call, Cache.set, hz, ha]

-- ============================================================ the run

/-- The cache over every history of calls that starts empty with capacity `n ≥ 1`: it holds at
most `n` keys; a read or a probe of a key finds a value only when the last successful write of
the key set that value for a nonzero span that has not run out; when that is so, no call came
later on the clock, and fewer than `n` other keys were stored or found live since the key last
was, the read answers the value and the probe finds it; and a set whose expiry instant is out of
range fails and changes nothing. -/
theorem history_bounded_fresh_retained (n : Nat) (hn : 1 ≤ n) (h : List (Clock × Call))
    (key : String) (clock : Clock) :
    ((empty n).after h).size ≤ n ∧
    (∀ v, (((empty n).after h).call clock (.get key)).1 = .value (some v) →
      SetLive h key v clock) ∧
    ((((empty n).after h).call clock (.probe key)).1 = .present true →
      ∃ v, SetLive h key v clock) ∧
    (∀ v, SetLive h key v clock → (∀ x ∈ h, x.1.instant ≤ clock.instant) →
      (recentSince key ((empty n).touches h)).toFinset.card < n →
      (((empty n).after h).call clock (.get key)).1 = .value (some v) ∧
      (((empty n).after h).call clock (.probe key)).1 = .present true) ∧
    (∀ value ttl, clock.instant / Span.perSecond ≤ instantLimit →
      instantLimit < (clock.instant + ttl.nanos) / Span.perSecond →
      ((empty n).after h).call clock (.set key value ttl) =
        (.written (.error (.ttlOutOfRange ttl)), (empty n).after h)) := by
  have hc := coherent_after n h
  have hcap : ((empty n).after h).capacity = n := by
    rw [capacity_after]
    simp only [empty]
    omega
  refine ⟨hc.size_le.trans_eq hcap, ?_, ?_, ?_, ?_⟩
  · intro v hv
    simp only [Cache.call, Reply.value.injEq] at hv
    exact hc.setLive_of_get hv
  · intro hp
    simp only [Cache.call, Reply.present.injEq, Option.isSome_iff_exists] at hp
    obtain ⟨v, hv⟩ := hp
    exact ⟨v, hc.setLive_of_get hv⟩
  · intro v hlive hnow hfew
    have hg := hc.get_of_setLive hlive hnow (hfew.trans_eq hcap.symm)
    simp [Cache.call, hg]
  · intro value ttl hclock hover
    exact call_set_out_of_range _ clock key value ttl hclock hover

/-- A value set for a minute in a cache of one key is read back at once. -/
theorem history_reads_back_single_set :
    1 ≤ 1 ∧ (((empty 1).after [(Clock.start, .set "a" "1" (Span.ofSecs 60))]).call Clock.start
      (.get "a")).1 = .value (some "1") :=
  ⟨le_rfl, ((history_bounded_fresh_retained 1 le_rfl _ "a" Clock.start).2.2.2.1 "1"
    ⟨Clock.start, Span.ofSecs 60, by decide, by decide, by decide⟩ (by decide) (by decide)).1⟩

end Cache

end Gatehouse.Store
