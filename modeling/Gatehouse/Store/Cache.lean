import Gatehouse.Clock

/-!
The in-process cache: text values under text keys, each with an expiry instant, at most
`capacity` keys, least recently used first out.

The entries are kept most recently used first, one per key. Reading a key (`get`, and
`exists`, which is a read) makes it the most recently used; a read that finds the entry
expired removes it and finds nothing. Expired entries are removed only then: they count
towards the size until read. Writing a key puts it first; writing a new key into a full cache
first drops the least recently used entry, expired or not; the cache counts the entries it
drops so. A write with an empty span removes the key, and a write whose expiry instant cannot
be represented fails and changes nothing.

The lemmas at the end say what each operation does to the entries under a key and to the
number of entries: removal leaves nothing under its key and keeps every other key's entry,
promotion puts the entry under its key, and no write takes a cache that is within its capacity
beyond it. The count of entries pushed out never goes down, and only a write of a new key into
a full cache raises it.
-/

namespace Gatehouse.Store

/-- One cached value. -/
structure Entry where
  key : String
  value : String
  expiry : Nat
  deriving DecidableEq, Repr

/-- Why a cache operation fails. -/
inductive CacheFault where
  | poisoned
  | ttlOutOfRange (ttl : Span)
  deriving DecidableEq, Repr

namespace CacheFault

/-- The name of each fault. -/
def kind : CacheFault → String
  | .poisoned => "Poisoned"
  | .ttlOutOfRange _ => "TtlOutOfRange"

/-- The words for each fault. -/
def message : CacheFault → String
  | .poisoned => "cache lock poisoned"
  | .ttlOutOfRange ttl => "cache ttl out of range: " ++ ttl.render

end CacheFault

/-- A cache: its capacity, its entries, most recently used first, and how many entries it has
pushed out so far to make room for new keys. -/
structure Cache where
  capacity : Nat
  entries : List Entry
  /-- The entries pushed out to make room so far. No operation reads it: it only lets a
  statement say that nothing was pushed out. -/
  evicted : Nat
  deriving Repr

namespace Cache

/-- An empty cache holding at most `capacity` keys; a capacity of zero holds one. -/
def empty (capacity : Nat) : Cache := ⟨max capacity 1, [], 0⟩

/-- The number of keys held, expired ones included. -/
def size (c : Cache) : Nat := c.entries.length

/-- The entry under a key. -/
def find? (c : Cache) (key : String) : Option Entry := c.entries.find? (·.key == key)

/-- The cache without the entry under a key. -/
def erase (c : Cache) (key : String) : Cache :=
  { c with entries := c.entries.filter (·.key != key) }

/-- The cache with an entry put first, in place of any entry under its key. -/
def promote (c : Cache) (e : Entry) : Cache :=
  { c with entries := e :: (c.erase e.key).entries }

/-- The value under a key at instant `now`, and the cache after the read. -/
def get (c : Cache) (key : String) (now : Nat) : Option String × Cache :=
  match c.find? key with
  | none => (none, c)
  | some e => if now < e.expiry then (some e.value, c.promote e) else (none, c.erase key)

/-- The cache with a new entry first, after making room for it. -/
def insert (c : Cache) (e : Entry) : Cache :=
  if (c.find? e.key).isSome then c.promote e
  else if c.size < c.capacity then { c with entries := e :: c.entries }
  else { c with entries := e :: c.entries.dropLast, evicted := c.evicted + 1 }

/-- The cache after writing a value for a span, read on a clock. -/
def set (c : Cache) (key value : String) (ttl : Span) (clock : Clock) :
    Except CacheFault Cache :=
  if ttl.isZero then .ok (c.erase key)
  else
    match clock.after ttl with
    | some expiry => .ok (c.insert ⟨key, value, expiry⟩)
    | none => .error (.ttlOutOfRange ttl)

/-- The cache after removing a key. -/
def delete (c : Cache) (key : String) : Cache := c.erase key

/-! ## Entries under a key, and how many there are -/

/-- Looking up among kept entries finds what looking up among all of them finds, when every
entry looked for is kept. -/
theorem find?_filter_of_imp {α : Type} (p q : α → Bool) (hqp : ∀ x, q x = true → p x = true)
    (l : List α) : (l.filter p).find? q = l.find? q := by
  induction l with
  | nil => rfl
  | cons x xs ih =>
    by_cases hq : q x = true
    · simp [List.filter, hqp x hq, List.find?, hq]
    · cases hp : p x <;> simp [List.filter, hp, List.find?, hq, ih]

@[simp]
theorem find?_erase_self (c : Cache) (key : String) : (c.erase key).find? key = none := by
  rw [find?, erase, List.find?_eq_none]
  intro x hx
  simp only [List.mem_filter, bne_iff_ne, ne_eq] at hx
  simpa using hx.2

theorem find?_erase_of_ne (c : Cache) {key other : String} (h : other ≠ key) :
    (c.erase key).find? other = c.find? other := by
  apply find?_filter_of_imp
  intro x hx
  simp only [beq_iff_eq] at hx
  simp [hx, h]

theorem size_erase_le (c : Cache) (key : String) : (c.erase key).size ≤ c.size :=
  List.length_filter_le _ _

/-- Removing a key that has an entry shrinks the cache. -/
theorem size_erase_lt (c : Cache) (key : String) (h : (c.find? key).isSome) :
    (c.erase key).size < c.size := by
  obtain ⟨x, hx⟩ := Option.isSome_iff_exists.1 h
  have hmem := List.mem_of_find?_eq_some hx
  have hkey := List.find?_some hx
  simp only [size, erase]
  apply List.length_filter_lt_length_iff_exists.2
  exact ⟨x, hmem, by simpa using hkey⟩

@[simp]
theorem find?_promote_self (c : Cache) (e : Entry) : (c.promote e).find? e.key = some e := by
  simp [promote, find?]

@[simp]
theorem capacity_insert (c : Cache) (e : Entry) : (c.insert e).capacity = c.capacity := by
  unfold insert
  split
  · rfl
  · split <;> rfl

/-- A cache within its capacity stays within it when an entry is written. -/
theorem size_insert_le (c : Cache) (e : Entry) (h : c.size ≤ c.capacity) (hc : 0 < c.capacity) :
    (c.insert e).size ≤ c.capacity := by
  unfold insert
  split
  · rename_i hs
    have := size_erase_lt c e.key hs
    simp only [promote, size, List.length_cons] at this h ⊢
    omega
  · split
    · simp only [size, List.length_cons] at *
      omega
    · simp only [size, List.length_cons, List.length_dropLast] at *
      omega

/-! ## Entries pushed out -/

@[simp]
theorem evicted_erase (c : Cache) (key : String) : (c.erase key).evicted = c.evicted := rfl

@[simp]
theorem evicted_promote (c : Cache) (e : Entry) : (c.promote e).evicted = c.evicted := rfl

@[simp]
theorem evicted_get (c : Cache) (key : String) (now : Nat) :
    (c.get key now).2.evicted = c.evicted := by
  unfold get
  split
  · rfl
  · split
    · exact evicted_promote c _
    · exact evicted_erase c key

/-- A write pushes an entry out exactly when its key is new and the cache is full. -/
theorem evicted_insert (c : Cache) (e : Entry) :
    (c.insert e).evicted =
      if (c.find? e.key).isNone ∧ c.capacity ≤ c.size then c.evicted + 1 else c.evicted := by
  unfold insert
  by_cases hf : (c.find? e.key).isSome = true
  · have hn : (c.find? e.key).isNone = false := by simpa [Option.isNone_iff_eq_none] using hf
    simp [hf, hn]
  · have hn : (c.find? e.key).isNone = true := by simpa [Option.isNone_iff_eq_none] using hf
    rw [if_neg hf]
    by_cases hroom : c.size < c.capacity
    · rw [if_pos hroom, if_neg (by omega)]
    · rw [if_neg hroom, if_pos ⟨hn, by omega⟩]

theorem evicted_le_insert (c : Cache) (e : Entry) : c.evicted ≤ (c.insert e).evicted := by
  rw [evicted_insert]
  split <;> omega

theorem evicted_set_le {c c' : Cache} {key value : String} {ttl : Span} {clock : Clock}
    (hs : c.set key value ttl clock = .ok c') : c.evicted ≤ c'.evicted := by
  simp only [set] at hs
  split at hs
  · cases hs
    exact Nat.le_refl _
  · split at hs
    · cases hs
      exact evicted_le_insert c _
    · cases hs

/-- A write into a cache with room pushes nothing out. -/
theorem evicted_set_of_room {c c' : Cache} {key value : String} {ttl : Span} {clock : Clock}
    (hs : c.set key value ttl clock = .ok c') (hroom : c.size < c.capacity) :
    c'.evicted = c.evicted := by
  simp only [set] at hs
  split at hs
  · cases hs
    rfl
  · split at hs
    · cases hs
      rw [evicted_insert, if_neg (by omega)]
    · cases hs

/-- A write with an empty span removes the key. -/
theorem set_of_isZero (c : Cache) (key value : String) (ttl : Span) (clock : Clock)
    (h : ttl.isZero = true) : c.set key value ttl clock = .ok (c.erase key) := by
  simp [set, h]

end Cache

end Gatehouse.Store
