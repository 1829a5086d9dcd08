import Gatehouse.Store.Roster
import Gatehouse.Gate.Sessions
import Mathlib.Data.List.Nodup

/-!
Member numbers over a whole run of the roster: handed out in order, never twice, never reused.

A run is a list of calls, registrations and removals, on a roster that starts empty, and it
records each registration that succeeded: the raw identity and the number handed out. The
invariant `Numbered` ties that record to the roster:

* the counter stands one past the number of registrations (`counter`), so a refused
  registration used no number;
* the `k`-th registration handed out the signed 64-bit value of `k` (`numbers`), which is `k`
  itself as long as `k` is at most 2^63 - 1;
* every member is filed under the canonical form of the raw identity it was registered with,
  with the number that registration handed out (`filed`), and no identity is filed twice
  (`keys`).

Registration and removal keep it (`Numbered.register`, `Numbered.delete`), so it holds after
every run (`numbered_replay`). `member_numbers_unique` draws the consequences: the numbers of
a run are `1, 2, …` while it has made at most 2^63 - 1 registrations, so they are pairwise
distinct, a number is never handed out again after its member is removed, and none is the
anonymous `-1`.
-/

namespace Gatehouse.Store.Roster

-- ============================================================ runs of the roster

/-- A call on the roster. -/
inductive Call where
  | register (raw password salt : String)
  | delete (identity : String)
  deriving DecidableEq, Repr

/-- The roster after a call, and the raw identity and number of the member it registered. -/
def Call.apply : Call → Roster → Roster × Option (String × Int)
  | .register raw password salt, r =>
    match r.register raw password salt with
    | .ok (id, r') => (r', some (raw, id))
    | .error _ => (r, none)
  | .delete identity, r =>
    match r.delete identity with
    | .ok r' => (r', none)
    | .error _ => (r, none)

/-- The roster after a run of calls, and the registrations it made, in order. -/
def replay (r : Roster) : List Call → Roster × List (String × Int)
  | [] => (r, [])
  | c :: cs =>
    let (r1, reg) := c.apply r
    let (r2, regs) := replay r1 cs
    (r2, reg.toList ++ regs)

/-- The numbers the first `n` registrations hand out: the signed 64-bit values of `1, …, n`. -/
def numbers (n : Nat) : List Int := (List.range n).map fun k => (Int64.ofNat (k + 1)).toInt

theorem numbers_succ (n : Nat) :
    numbers (n + 1) = numbers n ++ [(Int64.ofNat (n + 1)).toInt] := by
  simp [numbers, List.range_succ]

/-- Below 2^63 the numbers are the counts themselves. -/
theorem numbers_of_le {n : Nat} (h : n ≤ 9223372036854775807) :
    numbers n = (List.range n).map fun k => ((k + 1 : Nat) : Int) := by
  apply List.map_congr_left
  intro k hk
  have hk : k < n := List.mem_range.1 hk
  exact Int64.toInt_ofNat_of_lt (by omega)

-- ============================================================ the invariant

/-- What a run has made of the roster, given the registrations it recorded. -/
structure Numbered (regs : List (String × Int)) (r : Roster) : Prop where
  /-- The counter stands one past the registrations made. -/
  counter : r.nextId = Int64.ofNat (regs.length + 1)
  /-- The `k`-th registration handed out the value of `k`. -/
  numbers : regs.map (·.2) = numbers regs.length
  /-- Every member is filed under the canonical form of the identity it was registered with. -/
  filed : ∀ key m, (key, m) ∈ r.members →
    ∃ raw, (raw, m.id) ∈ regs ∧ key = Identity.normalize raw
  /-- No identity is filed twice. -/
  keys : (r.members.map (·.1)).Nodup

theorem numbered_empty : Numbered [] empty where
  counter := rfl
  numbers := rfl
  filed := by simp [empty]
  keys := by simp [empty]

section Step

variable {regs : List (String × Int)} {r : Roster}

theorem find?_eq_none_iff {r : Roster} {identity : String} :
    r.find? identity = none ↔ identity ∉ r.members.map (·.1) := by
  simp only [find?, Option.map_eq_none_iff, List.find?_eq_none, beq_iff_eq, List.mem_map]
  constructor
  · rintro h ⟨p, hp, rfl⟩
    exact h p hp rfl
  · intro h p hp he
    exact h ⟨p, hp, he⟩

/-- A registration files its member last, under a canonical identity not yet filed, with the
number the counter stood at. -/
theorem Numbered.register (h : Numbered regs r) {raw password salt : String} {id : Int}
    {r' : Roster} (hr : r.register raw password salt = .ok (id, r')) :
    Numbered (regs ++ [(raw, id)]) r' := by
  obtain ⟨hid, hnext, hmembers⟩ := register_eq_ok hr
  -- the identity was free: a taken one is refused
  have hfree : r.find? (Identity.normalize raw) = none := by
    unfold Roster.register at hr
    dsimp only at hr
    split at hr
    · cases hr
    · exact Option.not_isSome_iff_eq_none.1 ‹_›
  have hcount : id = (Int64.ofNat (regs.length + 1)).toInt := by rw [hid, h.counter]
  refine ⟨?_, ?_, ?_, ?_⟩
  · rw [hnext, h.counter, List.length_append, List.length_singleton,
      Int64.ofNat_add (regs.length + 1) 1]
    rfl
  · rw [List.map_append, h.numbers, List.length_append, List.length_singleton, numbers_succ,
      hcount]
    rfl
  · intro key m hm
    rw [hmembers, List.mem_append, List.mem_singleton] at hm
    rcases hm with hm | hm
    · obtain ⟨raw', hreg, rfl⟩ := h.filed key m hm
      exact ⟨raw', List.mem_append_left _ hreg, rfl⟩
    · obtain ⟨rfl, rfl⟩ := Prod.mk.inj hm
      exact ⟨raw, by simp [hid], rfl⟩
  · rw [hmembers, List.map_append, List.nodup_append]
    refine ⟨h.keys, by simp, ?_⟩
    intro a ha b hb
    simp only [List.map_cons, List.map_nil, List.mem_singleton] at hb
    subst hb
    rintro rfl
    exact find?_eq_none_iff.1 hfree ha

/-- A removal keeps what is left filed as it was, and moves no counter. -/
theorem Numbered.delete (h : Numbered regs r) {identity : String} {r' : Roster}
    (hr : r.delete identity = .ok r') : Numbered regs r' := by
  unfold Roster.delete at hr
  split at hr
  · cases hr
    refine ⟨h.counter, h.numbers, fun key m hm => h.filed key m (List.mem_filter.1 hm).1, ?_⟩
    exact h.keys.sublist (List.filter_sublist.map _)
  · cases hr

theorem Numbered.apply (h : Numbered regs r) (c : Call) :
    Numbered (regs ++ (c.apply r).2.toList) (c.apply r).1 := by
  cases c with
  | register raw password salt =>
    cases hr : r.register raw password salt with
    | ok p =>
      obtain ⟨id, r'⟩ := p
      simp only [Call.apply, hr]
      exact h.register hr
    | error e =>
      simp only [Call.apply, hr]
      simpa using h
  | delete identity =>
    cases hr : r.delete identity with
    | ok r' =>
      simp only [Call.apply, hr]
      simpa using h.delete hr
    | error e =>
      simp only [Call.apply, hr]
      simpa using h

end Step

/-- Every run keeps the invariant, from any roster that has it. -/
theorem Numbered.replay {regs : List (String × Int)} {r : Roster} (h : Numbered regs r)
    (calls : List Call) :
    Numbered (regs ++ (r.replay calls).2) (r.replay calls).1 := by
  induction calls generalizing regs r with
  | nil => simpa [Roster.replay] using h
  | cons c cs ih =>
    have := ih (h.apply c)
    simpa [Roster.replay] using this

theorem numbered_replay (calls : List Call) :
    Numbered (empty.replay calls).2 (empty.replay calls).1 := by
  simpa using numbered_empty.replay calls

theorem replay_append (r : Roster) (cs ds : List Call) :
    r.replay (cs ++ ds) =
      (((r.replay cs).1.replay ds).1, (r.replay cs).2 ++ ((r.replay cs).1.replay ds).2) := by
  induction cs generalizing r with
  | nil => rfl
  | cons c cs ih => simp [Roster.replay, ih]

-- ============================================================ the numbers of a run

/-- While at most 2^63 - 1 registrations have been made, they have handed out `1, 2, …`. -/
theorem Numbered.numbers_eq_range {regs : List (String × Int)} {r : Roster} (h : Numbered regs r)
    (hle : regs.length ≤ 9223372036854775807) :
    regs.map (·.2) = (List.range regs.length).map (fun k => ((k + 1 : Nat) : Int)) :=
  h.numbers.trans (numbers_of_le hle)

theorem Numbered.numbers_nodup {regs : List (String × Int)} {r : Roster} (h : Numbered regs r)
    (hle : regs.length ≤ 9223372036854775807) : (regs.map (·.2)).Nodup := by
  rw [h.numbers_eq_range hle]
  exact List.Nodup.map (fun a b hab => by omega) List.nodup_range

/-- A registration is refused, and changes nothing, exactly when the canonical form of its
identity is already filed; otherwise it hands out the number the counter stands at. -/
theorem apply_register (r : Roster) (raw password salt : String) :
    (Call.register raw password salt).apply r =
      if (r.find? (Identity.normalize raw)).isSome then (r, none)
      else ({ members := r.members ++ [(Identity.normalize raw,
          ⟨r.nextId.toInt, Password.digest password salt, salt⟩)], nextId := r.nextId + 1 },
        some (raw, r.nextId.toInt)) := by
  unfold Call.apply Roster.register
  by_cases hs : (r.find? (Identity.normalize raw)).isSome = true
  · simp [hs]
  · simp [hs]

-- ============================================================ the members under one identity

/-- A registration keeps every member already there. -/
theorem find?_register_of_some {r r' : Roster} {raw password salt identity : String}
    {id : Int} {m : Member} (h : r.register raw password salt = .ok (id, r'))
    (hm : r.find? identity = some m) : r'.find? identity = some m := by
  obtain ⟨-, -, hmembers⟩ := register_eq_ok h
  simp only [find?, Option.map_eq_some_iff] at hm ⊢
  obtain ⟨p, hp, rfl⟩ := hm
  exact ⟨p, by rw [hmembers, List.find?_append, hp]; rfl, rfl⟩

/-- A removal keeps every other member. -/
theorem find?_delete_of_ne {r r' : Roster} {identity other : String}
    (h : r.delete identity = .ok r') (hne : other ≠ identity) :
    r'.find? other = r.find? other := by
  unfold delete at h
  split at h
  · cases h
    simp only [find?]
    congr 1
    apply Cache.find?_filter_of_imp
    intro p hp
    simp only [beq_iff_eq] at hp
    simp [hp, hne]
  · cases h

/-- A member filed last is found under its identity only when no member was found there
before. -/
theorem find?_append_singleton (r : Roster) (key : String) (m : Member) (next : Int64)
    (identity : String) :
    (⟨r.members ++ [(key, m)], next⟩ : Roster).find? identity =
      (r.find? identity).or (if key = identity then some m else none) := by
  simp only [find?, List.find?_append, List.find?_singleton, beq_iff_eq]
  cases r.members.find? (·.1 == identity) <;> by_cases hk : key = identity <;> simp [hk]

/-- Every member under `identity` was filed by one of the registrations `regs`. -/
def Recorded (identity : String) (regs : List (String × Int)) (r : Roster) : Prop :=
  ∀ m, r.find? identity = some m →
    ∃ raw, (raw, m.id) ∈ regs ∧ Identity.normalize raw = identity

section Recorded

variable {identity : String} {regs : List (String × Int)} {r : Roster}

theorem recorded_of_find?_none (h : r.find? identity = none) : Recorded identity [] r := by
  intro m hm
  rw [h] at hm
  cases hm

/-- A run from the empty roster has recorded every member. -/
theorem Numbered.recorded (h : Numbered regs r) (identity : String) : Recorded identity regs r := by
  intro m hm
  obtain ⟨p, hp, hpm⟩ := Option.map_eq_some_iff.1 hm
  have hkey : p.1 = identity := by simpa using List.find?_some hp
  obtain ⟨raw, hreg, hraw⟩ := h.filed p.1 p.2 (List.mem_of_find?_eq_some hp)
  exact ⟨raw, hpm ▸ hreg, hraw.symm.trans hkey⟩

/-- A registration under `identity` is recorded with the number it hands out; every other call
leaves the members under `identity` as they were or removes them. -/
theorem Recorded.apply (h : Recorded identity regs r) (c : Call) :
    Recorded identity (regs ++ (c.apply r).2.toList) (c.apply r).1 := by
  cases c with
  | register raw password salt =>
    rw [apply_register]
    split
    · simpa using h
    · rename_i hfree
      intro m hm
      dsimp only at hm ⊢
      rw [find?_append_singleton] at hm
      cases hf : r.find? identity with
      | none =>
        -- the member found is the one just filed
        rw [hf, Option.none_or] at hm
        split at hm
        · rename_i hkey
          cases hm
          exact ⟨raw, by simp, hkey⟩
        · cases hm
      | some m1 =>
        rw [hf, Option.some_or] at hm
        cases hm
        obtain ⟨raw', hreg, hraw⟩ := h _ hf
        exact ⟨raw', List.mem_append_left _ hreg, hraw⟩
  | delete other =>
    cases hr : r.delete other with
    | ok r' =>
      simp only [Call.apply, hr, Option.toList_none, List.append_nil]
      intro m hm
      by_cases ho : identity = other
      · subst ho
        rw [find?_delete_self hr] at hm
        cases hm
      · exact h m ((find?_delete_of_ne hr ho).symm.trans hm)
    | error e =>
      simp only [Call.apply, hr, Option.toList_none, List.append_nil]
      exact h

theorem Recorded.replay (h : Recorded identity regs r) (calls : List Call) :
    Recorded identity (regs ++ (r.replay calls).2) (r.replay calls).1 := by
  induction calls generalizing regs r with
  | nil => simpa [Roster.replay] using h
  | cons c cs ih =>
    have := ih (h.apply c)
    simpa [Roster.replay] using this

end Recorded

/-- Member numbers are unique and never reused. Over every run of registrations and removals
on a roster that starts empty: every member is filed under the canonical form of the raw
identity it was registered with, with the number that registration handed out, and under no
other; a registration whose canonical identity is already filed is refused as existing and
moves no counter; the `k`-th registration that succeeds hands out the signed 64-bit value of
`k` (the counter wraps past 2^63 - 1). So while at most 2^63 - 1 registrations have
succeeded, they have handed out exactly `1, 2, …`: pairwise distinct, none handed out again
after its member was removed, and none the anonymous number `-1`, so no context built for
one of them is anonymous. -/
theorem member_numbers_unique (calls : List Call) :
    let (r, regs) := empty.replay calls
    (∀ key m, (key, m) ∈ r.members →
      ∃ raw, (raw, m.id) ∈ regs ∧ key = Identity.normalize raw) ∧
    (r.members.map (·.1)).Nodup ∧
    (∀ raw password salt, (r.find? (Identity.normalize raw)).isSome →
      r.register raw password salt = .error (.alreadyExists (Identity.normalize raw)) ∧
        (Call.register raw password salt).apply r = (r, none)) ∧
    r.nextId = Int64.ofNat (regs.length + 1) ∧
    (∀ k (hk : k < regs.length), (regs.get ⟨k, hk⟩).2 = (Int64.ofNat (k + 1)).toInt) ∧
    (regs.length ≤ 9223372036854775807 →
      regs.map (·.2) = (List.range regs.length).map (fun k => ((k + 1 : Nat) : Int)) ∧
      (regs.map (·.2)).Nodup ∧
      ∀ id ∈ regs.map (·.2), 1 ≤ id ∧ id ≠ Gate.anonymousId ∧
        (⟨id, []⟩ : Gate.Context).isAnonymous = false) := by
  have h := numbered_replay calls
  generalize empty.replay calls = p at h
  obtain ⟨r, regs⟩ := p
  refine ⟨h.filed, h.keys, fun raw password salt hs => ?_, h.counter, fun k hk => ?_,
    fun hle => ?_⟩
  · rw [apply_register, if_pos hs]
    refine ⟨?_, rfl⟩
    unfold Roster.register
    simp [hs]
  · -- read the `k`-th number off both sides of `numbers`
    have h1 : (regs.map (·.2))[k]? = some (regs.get ⟨k, hk⟩).2 := by simp [hk]
    have h2 : (numbers regs.length)[k]? = some (Int64.ofNat (k + 1)).toInt := by
      simp [numbers, hk]
    rw [h.numbers, h2] at h1
    exact (Option.some.inj h1).symm
  · have hn := h.numbers_eq_range hle
    refine ⟨hn, h.numbers_nodup hle, fun id hid => ?_⟩
    rw [hn, List.mem_map] at hid
    obtain ⟨k, -, rfl⟩ := hid
    refine ⟨by omega, by simp [Gate.anonymousId]; omega, ?_⟩
    simp [Gate.Context.isAnonymous, Gate.anonymousId]
    omega

end Gatehouse.Store.Roster
