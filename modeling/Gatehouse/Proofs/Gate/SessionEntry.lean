import Gatehouse.Proofs.Gate.SessionCache
import Gatehouse.Proofs.Gate.Login

/-!
Session entries read back.

The session cache keeps an identity's member number under `session:<identity>` as decimal text.
`sessionPut` writes `toString m` there for the session lifetime, and `sessionGet` reads the
entry and parses it as a signed 64-bit number, treating text that does not parse as a miss.
Each of the 2^64 signed 64-bit numbers prints to text that parses back to the same number
(`Text.Decimal.i64?_toString`), so a read finds the number a write stored for as long as the
written entry is there and live. A write with an empty lifetime stores nothing
(`find?_sessionPut`), and one with a non-empty lifetime leaves a live entry (`sessionPut_live`).

`resolve` is `sessionGet`, then the roster on a miss, then `sessionPut` of the roster's number
(`resolve_eq_get_put`). So its write-back is never thrown away as unparsable text: after a
resolution answers, the next one answers the same number from the cache and makes no roster
look-up (`resolve_again_from_cache`). `session_entry_round_trip` combines these facts.
-/

namespace Gatehouse.Gate

open Store

-- ============================================================ the two calls

/-- A resolution is the read of the session entry, then on a miss the roster, then the write of
the roster's number. -/
theorem resolve_eq_get_put (identity : String) :
    resolve identity = sessionGet identity >>= fun kept =>
      kept.elim
        (rostered (findId identity) >>= fun found =>
          found.elim (throw .unauthorizedUser) fun id => sessionPut identity id >>= fun _ => pure id)
        pure := by
  simp only [resolve, sessionGet, sessionPut, bind_assoc, pure_bind]
  -- both sides read the entry, then split on what it parses to and on what the roster has
  refine congrArg (cached (cacheGet (sessionKey identity)) >>= ·) (funext fun kept => ?_)
  cases kept.bind Text.Decimal.i64? with
  | some id => rfl
  | none =>
    refine congrArg (rostered (findId identity) >>= ·) (funext fun found => ?_)
    cases found <;> rfl

theorem run_sessionGet (identity : String) (s : System) :
    (sessionGet identity).run s =
      if hit s.cacheOutages "get" (sessionKey identity) then
        (.error (.internal CacheFault.poisoned.message), s)
      else (.ok ((s.live (sessionKey identity)).bind Text.Decimal.i64?),
        { s with cache := (s.cache.get (sessionKey identity) s.clock.instant).2 }) := by
  unfold sessionGet
  rw [run_bind, run_cached, cacheGet_eq]
  by_cases hget : hit s.cacheOutages "get" (sessionKey identity) = true
  · rw [if_pos hget, if_pos hget]
    rfl
  · rw [if_neg hget, if_neg hget]
    rfl

theorem run_sessionPut (identity : String) (m : Int) (s : System) :
    (sessionPut identity m).run s =
      (cached (cacheSet (sessionKey identity) (toString m)
        (Span.ofSecs s.policy.sessionTtl))).run s := by
  unfold sessionPut
  rw [run_bind, run_get]

/-- A read asks the roster nothing. -/
theorem sessionGet_lookups (identity : String) (s : System) :
    ((sessionGet identity).run s).2.lookups = s.lookups := by
  rw [run_sessionGet]
  split <;> rfl

/-- A read of a session entry that is there and live answers what its text parses to. -/
theorem sessionGet_of_find? {identity : String} {t : System} {e : Entry}
    (hget : hit t.cacheOutages "get" (sessionKey identity) = false)
    (hf : t.cache.find? (sessionKey identity) = some e) (hlive : t.clock.instant < e.expiry) :
    ((sessionGet identity).run t).1 = .ok (Text.Decimal.i64? e.value) := by
  rw [run_sessionGet, if_neg (by rw [hget]; exact Bool.false_ne_true)]
  have hv : t.live (sessionKey identity) = some e.value :=
    Cache.get_fst_eq_some.2 ⟨e, hf, hlive, rfl⟩
  rw [hv]
  rfl

/-- A write that succeeds leaves the cache the set made, and changes nothing else. -/
theorem sessionPut_eq_ok {identity : String} {m : Int} {s s' : System}
    (h : (sessionPut identity m).run s = (.ok (), s')) :
    ∃ c, s.cache.set (sessionKey identity) (toString m) (Span.ofSecs s.policy.sessionTtl)
      s.clock = .ok c ∧ s' = { s with cache := c } := by
  rw [run_sessionPut, run_cached, cacheSet_eq] at h
  split at h
  · cases h
  · split at h
    · rename_i c hs
      cases h
      exact ⟨c, hs, rfl⟩
    · cases h

theorem sessionPut_keeps {identity : String} {m : Int} {s s' : System}
    (h : (sessionPut identity m).run s = (.ok (), s')) :
    s'.clock = s.clock ∧ s'.cacheOutages = s.cacheOutages := by
  obtain ⟨c, -, rfl⟩ := sessionPut_eq_ok h
  exact ⟨rfl, rfl⟩

-- ============================================================ what a write leaves

/-- A write that succeeds leaves under the session key the number in decimal until the end of
the session lifetime, or nothing when that lifetime is empty. -/
theorem find?_sessionPut {identity : String} {m : Int} {s s' : System}
    (h : (sessionPut identity m).run s = (.ok (), s')) :
    (s.policy.sessionTtl = 0 ∧ s'.cache.find? (sessionKey identity) = none) ∨
      (0 < s.policy.sessionTtl ∧ s'.cache.find? (sessionKey identity) =
        some ⟨sessionKey identity, toString m,
          s.clock.instant + s.policy.sessionTtl * Span.perSecond⟩) := by
  obtain ⟨c, hs, rfl⟩ := sessionPut_eq_ok h
  have hf := Cache.find?_set_self hs
  by_cases h0 : s.policy.sessionTtl = 0
  · rw [if_pos ((Span.isZero_ofSecs _).2 h0)] at hf
    exact .inl ⟨h0, hf⟩
  · rw [if_neg (fun hz => h0 ((Span.isZero_ofSecs _).1 hz))] at hf
    exact .inr ⟨Nat.pos_of_ne_zero h0, hf⟩

/-- A write with a non-empty session lifetime leaves a live entry holding the number in
decimal. -/
theorem sessionPut_live {identity : String} {m : Int} {s s' : System}
    (h : (sessionPut identity m).run s = (.ok (), s')) (hpos : 0 < s.policy.sessionTtl) :
    ∃ e, s'.cache.find? (sessionKey identity) = some e ∧ e.value = toString m ∧
      s'.clock.instant < e.expiry := by
  rcases find?_sessionPut h with ⟨h0, -⟩ | ⟨-, hf⟩
  · omega
  refine ⟨_, hf, rfl, ?_⟩
  rw [(sessionPut_keeps h).1]
  have : 0 < s.policy.sessionTtl * Span.perSecond := Nat.mul_pos hpos (by decide)
  dsimp only
  omega

/-- A live session entry holding a signed 64-bit number in decimal reads as that number. -/
theorem sessionGet_of_decimal {identity : String} {m : Int} {t : System} {e : Entry}
    (hlo : -9223372036854775808 ≤ m) (hhi : m ≤ 9223372036854775807)
    (hget : hit t.cacheOutages "get" (sessionKey identity) = false)
    (hf : t.cache.find? (sessionKey identity) = some e) (hv : e.value = toString m)
    (hlive : t.clock.instant < e.expiry) :
    ((sessionGet identity).run t).1 = .ok (some m) := by
  rw [sessionGet_of_find? hget hf hlive, hv, Text.Decimal.i64?_toString hlo hhi]

-- ============================================================ the write-back of a resolution

/-- A resolution whose read of the session entry found a number answers with it, in the state
the read left. -/
theorem run_resolve_of_sessionGet {identity : String} {s s1 : System} {x : Int}
    (h : (sessionGet identity).run s = (.ok (some x), s1)) :
    (resolve identity).run s = (.ok x, s1) := by
  rw [resolve_eq_get_put, run_bind, h]
  rfl

/-- A roster look-up changes nothing that a cache read or write depends on. -/
theorem findId_keeps {identity : String} {s s' : System} {r : Except Auth.Fault (Option Int)}
    (h : (rostered (findId identity)).run s = (r, s')) :
    s'.policy = s.policy ∧ s'.clock = s.clock ∧ s'.cacheOutages = s.cacheOutages := by
  rw [run_rostered, findId_eq] at h
  split at h <;> cases h <;> exact ⟨rfl, rfl, rfl⟩

/-- On a gate without cache outages and with a non-empty session lifetime, a resolution that
answers a signed 64-bit number leaves a session entry that a read answers with that number. -/
theorem sessionGet_after_resolve {identity : String} {m : Int} {s : System}
    (hc : s.cacheOutages = []) (httl : 0 < s.policy.sessionTtl)
    (hlo : -9223372036854775808 ≤ m) (hhi : m ≤ 9223372036854775807)
    (h : ((resolve identity).run s).1 = .ok m) :
    ((sessionGet identity).run ((resolve identity).run s).2).1 = .ok (some m) := by
  have hrun : (resolve identity).run s = (.ok m, ((resolve identity).run s).2) := Prod.ext h rfl
  generalize ((resolve identity).run s).2 = s' at hrun ⊢
  rw [resolve_eq_get_put] at hrun
  obtain ⟨kept, s1, hg, hk⟩ := run_bind_eq_ok hrun
  have hs1 := run_sessionGet identity s
  rw [if_neg (by simp [hc, hit]), hg, Prod.mk.injEq, Except.ok.injEq] at hs1
  obtain ⟨rfl, rfl⟩ := hs1
  cases hkept : (s.live (sessionKey identity)).bind Text.Decimal.i64? with
  | some x =>
    -- a hit: the entry read is promoted, and reads the same at the same instant
    rw [hkept, Option.elim_some, run_pure, Prod.mk.injEq, Except.ok.injEq] at hk
    obtain ⟨rfl, rfl⟩ := hk
    rw [run_sessionGet, if_neg (by simp [hc, hit])]
    dsimp only
    rw [live_read, hkept]
  | none =>
    -- a miss: the roster's number was written back
    rw [hkept, Option.elim_none] at hk
    obtain ⟨found, s2, hf, hk2⟩ := run_bind_eq_ok hk
    obtain ⟨hp2, -, ho2⟩ := findId_keeps hf
    cases found with
    | none => cases hk2
    | some id =>
      rw [Option.elim_some] at hk2
      obtain ⟨u, s3, hp, hk3⟩ := run_bind_eq_ok hk2
      rw [run_pure, Prod.mk.injEq, Except.ok.injEq] at hk3
      obtain ⟨rfl, rfl⟩ := hk3
      obtain ⟨-, ho3⟩ := sessionPut_keeps hp
      obtain ⟨e, hf3, hv, hlive⟩ := sessionPut_live hp (by rw [hp2]; exact httl)
      exact sessionGet_of_decimal hlo hhi (by simp [ho3, ho2, hc, hit]) hf3 hv hlive

/-- On a gate without cache outages and with a non-empty session lifetime, a resolution that
answered a signed 64-bit number is answered again from the cache: the next resolution gives the
same number and makes no roster look-up. -/
theorem resolve_again_from_cache {identity : String} {m : Int} {s : System}
    (hc : s.cacheOutages = []) (httl : 0 < s.policy.sessionTtl)
    (hlo : -9223372036854775808 ≤ m) (hhi : m ≤ 9223372036854775807)
    (h : ((resolve identity).run s).1 = .ok m) :
    ((resolve identity).run ((resolve identity).run s).2).1 = .ok m ∧
      ((resolve identity).run ((resolve identity).run s).2).2.lookups =
        ((resolve identity).run s).2.lookups := by
  have hg := sessionGet_after_resolve hc httl hlo hhi h
  generalize ((resolve identity).run s).2 = s' at hg ⊢
  have hl := sessionGet_lookups identity s'
  generalize hq : (sessionGet identity).run s' = q at hg hl
  obtain ⟨r, s1⟩ := q
  cases hg
  rw [run_resolve_of_sessionGet hq]
  exact ⟨rfl, hl⟩

-- ============================================================ the round trip

/-- A member number cached for an identity reads back as itself. Every signed 64-bit number
printed in decimal parses back to itself. A write with an empty session lifetime leaves no
entry, and one with a non-empty lifetime leaves a live entry. A read of the key answers the
number at every later state that still holds that entry, live. So a resolution's write-back
is read again by the next resolution, which answers from the cache without asking the
roster. -/
theorem session_entry_round_trip (identity : String) (m : Int)
    (hlo : -9223372036854775808 ≤ m) (hhi : m ≤ 9223372036854775807) :
    Text.Decimal.i64? (toString m) = some m ∧
    (∀ s s', (sessionPut identity m).run s = (.ok (), s') →
      (s.policy.sessionTtl = 0 → s'.cache.find? (sessionKey identity) = none) ∧
      (0 < s.policy.sessionTtl →
        ∃ e, s'.cache.find? (sessionKey identity) = some e ∧ s'.clock.instant < e.expiry) ∧
      ∀ t : System, hit t.cacheOutages "get" (sessionKey identity) = false →
        (∃ e, s'.cache.find? (sessionKey identity) = some e ∧
          t.cache.find? (sessionKey identity) = some e ∧ t.clock.instant < e.expiry) →
        ((sessionGet identity).run t).1 = .ok (some m)) ∧
    ∀ s, s.cacheOutages = [] → 0 < s.policy.sessionTtl → ((resolve identity).run s).1 = .ok m →
      ((resolve identity).run ((resolve identity).run s).2).1 = .ok m ∧
      ((resolve identity).run ((resolve identity).run s).2).2.lookups =
        ((resolve identity).run s).2.lookups := by
  refine ⟨Text.Decimal.i64?_toString hlo hhi,
    fun s s' hput => ⟨fun h0 => ?_, fun hpos => ?_, ?_⟩,
    fun s hc httl h => resolve_again_from_cache hc httl hlo hhi h⟩
  · rcases find?_sessionPut hput with ⟨-, hf⟩ | ⟨hpos, -⟩
    · exact hf
    · omega
  · obtain ⟨e, hf, -, hlive⟩ := sessionPut_live hput hpos
    exact ⟨e, hf, hlive⟩
  · rintro t hget ⟨e, hs', ht, hlive⟩
    -- the entry still there is the one the write made, so it holds the number in decimal
    rcases find?_sessionPut hput with ⟨-, hf⟩ | ⟨-, hf⟩
    · rw [hf] at hs'
      cases hs'
    · rw [hf] at hs'
      cases hs'
      exact sessionGet_of_decimal hlo hhi hget ht rfl hlive

/-- The least signed 64-bit number, cached for an identity on a fresh gate, reads back at
once. -/
theorem least_member_number_reads_back :
    let s := System.init ⟨[], [], 3600, 1209600, 1800⟩ 16 Clock.start
    let s' := ((sessionPut "a@x.com" (-9223372036854775808)).run s).2
    (sessionPut "a@x.com" (-9223372036854775808)).run s = (.ok (), s') ∧
      ((sessionGet "a@x.com").run s').1 = .ok (some (-9223372036854775808)) := by
  intro s s'
  have hput : (sessionPut "a@x.com" (-9223372036854775808)).run s = (.ok (), s') :=
    Prod.ext (by decide) rfl
  obtain ⟨-, hread, -⟩ := session_entry_round_trip "a@x.com" (-9223372036854775808)
    (by decide) (by decide)
  obtain ⟨-, hlive, hback⟩ := hread s s' hput
  obtain ⟨e, hf, hl⟩ := hlive (by decide)
  exact ⟨hput, hback s' (by decide) ⟨e, hf, hf, hl⟩⟩

end Gatehouse.Gate
