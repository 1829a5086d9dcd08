import Gatehouse.Proofs.Gate.Members
import Gatehouse.Proofs.Text.Decimal

/-!
The session cache refines the roster.

Resolving an identity reads `session:<identity>` first and trusts a live entry that reads as a
number; only on a miss does it ask the roster, and then it writes the number back for the
session lifetime. That is only right while every live session entry holds the decimal number
the roster has for its identity: `SessionsSound`.

Every operation keeps `SessionsSound` (`sessionsSound_apply`). Most of them move the state
along `Narrows`: the roster as it was, and no session entry read live that was not read live,
with the same value, before. That holds of every save of a refresh token and every delete, so
of every operation built from them (`sessionWrites_narrows`), and of time passing. The rest
are registration, which only adds members; resolving (and authenticating, which resolves),
whose one write is the number the roster has just given; and withdrawal, which removes the
member and then the session entry of its identity, so it needs that delete not to fail.

On a sound state without outages, resolving answers from the roster
(`resolve_answers_roster`): the roster's number when it has a member, an unknown user when it
has none, and nothing else but an internal failure when the session lifetime cannot be added
to the current instant, so that the write-back is refused (`resolve_refused_registered` shows
one). `session_cache_refines_roster` puts the two together for every run from a fresh gate.
With what runs do to the roster (`System.recorded_after`, `number_ne_of_refiled`) it also reads
off what a withdrawal leaves: a withdrawal that succeeds removes the member
(`withdraw_removes_member`), so resolving its identity is refused until a registration of it
succeeds, and then answers a number never handed out before.
-/

namespace Gatehouse

namespace Store

namespace Cache

theorem get_fst_of_find?_none {c : Cache} {key : String} (now : Nat) (h : c.find? key = none) :
    (c.get key now).1 = none := by
  simp [get, h]

/-- A value read at an instant is read, the same, at every earlier instant. -/
theorem get_fst_of_le {c : Cache} {key v : String} {now now' : Nat} (hle : now ≤ now')
    (h : (c.get key now').1 = some v) : (c.get key now).1 = some v := by
  obtain ⟨e, hf, hlive, hv⟩ := get_fst_eq_some.1 h
  exact get_fst_eq_some.2 ⟨e, hf, by omega, hv⟩

/-- A set reads every other key as before, or as nothing when it pushed the entry out. -/
theorem get_fst_set_of_ne {c c' : Cache} {key value other : String} {ttl : Span}
    {clock : Clock} (hs : c.set key value ttl clock = .ok c') (h : other ≠ key) (now : Nat) :
    (c'.get other now).1 = (c.get other now).1 ∨ (c'.get other now).1 = none := by
  rcases find?_set_of_ne hs h with hf | ⟨hf, -⟩
  · exact .inl (get_fst_congr now hf)
  · exact .inr (get_fst_of_find?_none now hf)

theorem find?_insert_self (c : Cache) (e : Entry) : (c.insert e).find? e.key = some e := by
  unfold insert
  split
  · exact find?_promote_self c e
  · split <;> simp [find?]

/-- After a set, its key reads the value written or nothing. -/
theorem eq_of_get_fst_set_self {c c' : Cache} {key value v : String} {ttl : Span}
    {clock : Clock} (hs : c.set key value ttl clock = .ok c') {now : Nat}
    (h : (c'.get key now).1 = some v) : v = value := by
  obtain ⟨e, hf, -, rfl⟩ := get_fst_eq_some.1 h
  simp only [Cache.set] at hs
  split at hs
  · cases hs
    simp at hf
  · split at hs
    · cases hs
      rw [find?_insert_self c ⟨key, value, _⟩] at hf
      cases hf
      rfl
    · cases hs

/-- A set fails only for a span that is not empty and whose end cannot be represented. -/
theorem set_eq_error {c : Cache} {key value : String} {ttl : Span} {clock : Clock}
    {e : CacheFault} (h : c.set key value ttl clock = .error e) :
    e = .ttlOutOfRange ttl ∧ ttl.isZero = false ∧ clock.after ttl = none := by
  simp only [Cache.set] at h
  split at h
  · cases h
  · rename_i hz
    split at h
    · cases h
    · rename_i ha
      cases h
      exact ⟨rfl, by simpa using hz, ha⟩

theorem set_of_overflow (c : Cache) (key value : String) {ttl : Span} {clock : Clock}
    (hz : ttl.isZero = false) (ha : clock.after ttl = none) :
    c.set key value ttl clock = .error (.ttlOutOfRange ttl) := by
  simp [Cache.set, hz, ha]

end Cache

end Store

namespace Gate

open Store

/-- A write through the gate either changed nothing or left the cache the set made. -/
theorem state_cacheSet {key value : String} {ttl : Span} {s s' : System} {r : Except Auth.Fault Unit}
    (h : (cached (cacheSet key value ttl)).run s = (r, s')) :
    s' = s ∨ ∃ c, s.cache.set key value ttl s.clock = .ok c ∧ s' = { s with cache := c } := by
  rw [run_cached, cacheSet_eq] at h
  split at h
  · cases h
    exact .inl rfl
  · split at h
    · rename_i c hs
      cases h
      exact .inr ⟨c, hs, rfl⟩
    · cases h
      exact .inl rfl

/-- A write through the gate that no outage hits: when its span is empty or its end can be
represented, it succeeds and leaves the cache the set makes; otherwise it fails as internal
and changes nothing. -/
theorem run_cacheSet_quiet (key value : String) (ttl : Span) (s : System)
    (h : ¬hit s.cacheOutages "set" key = true) :
    (¬(ttl.isZero = false ∧ s.clock.after ttl = none) ∧
      ∃ c, s.cache.set key value ttl s.clock = .ok c ∧
        (cached (cacheSet key value ttl)).run s = (.ok (), { s with cache := c })) ∨
    ((ttl.isZero = false ∧ s.clock.after ttl = none) ∧
      (cached (cacheSet key value ttl)).run s =
        (.error (.internal (CacheFault.ttlOutOfRange ttl).message), s)) := by
  rw [run_cached, cacheSet_eq, if_neg h]
  cases hs : s.cache.set key value ttl s.clock with
  | ok c =>
    refine .inl ⟨fun ⟨hz, ha⟩ => ?_, c, rfl, rfl⟩
    rw [Cache.set_of_overflow s.cache key value hz ha] at hs
    cases hs
  | error e =>
    obtain ⟨rfl, hz, ha⟩ := Cache.set_eq_error hs
    exact .inr ⟨⟨hz, ha⟩, rfl⟩

/-- A removal through the gate either changed nothing or succeeded and left the roster without
the member. -/
theorem state_deleteMember {identity : String} {s s' : System} {r : Except Auth.Fault Unit}
    (h : (rostered (deleteMember identity)).run s = (r, s')) :
    s' = s ∨ ∃ r', s.roster.delete identity = .ok r' ∧ s' = { s with roster := r' } ∧
      r = .ok () := by
  rw [run_rostered, deleteMember_eq] at h
  split at h
  · cases h
    exact .inl rfl
  · split at h
    · rename_i r' hd
      cases h
      exact .inr ⟨r', hd, rfl, rfl⟩
    · cases h
      exact .inl rfl

/-- A removal through the gate that succeeds has removed the member from the roster. -/
theorem deleteMember_ok {identity : String} {s s' : System} {u : Unit}
    (h : (rostered (deleteMember identity)).run s = (.ok u, s')) :
    ∃ r', s.roster.delete identity = .ok r' ∧ s' = { s with roster := r' } := by
  rw [run_rostered, deleteMember_eq] at h
  split at h
  · cases h
  · split at h
    · rename_i r' hd
      cases h
      exact ⟨r', hd, rfl⟩
    · cases h

/-- Forgetting an identity no outage hits empties its session entry. -/
theorem run_forget {identity : String} {s : System}
    (h : hit s.cacheOutages "delete" (sessionKey identity) = false) :
    (forget identity).run s = (.ok (), { s with cache := s.cache.erase (sessionKey identity) }) := by
  unfold forget
  rw [run_cached, cacheDelete_eq, if_neg (by rw [h]; exact Bool.false_ne_true)]
  rfl

-- ============================================================ the invariant

/-- Every live session entry holds the decimal number the roster has for its identity. -/
def SessionsSound (s : System) : Prop :=
  ∀ i v, s.live (sessionKey i) = some v → ∃ m, s.roster.find? i = some m ∧ v = toString m.id

/-- `s'` has the roster of `s`, and reads no session entry live that `s` did not read live with
the same value. -/
structure Narrows (s s' : System) : Prop where
  roster : s'.roster = s.roster
  session : ∀ i v, s'.live (sessionKey i) = some v → s.live (sessionKey i) = some v

theorem Narrows.trans {s s1 s2 : System} (h1 : Narrows s s1) (h2 : Narrows s1 s2) :
    Narrows s s2 :=
  ⟨h2.roster.trans h1.roster, fun i v h => h1.session i v (h2.session i v h)⟩

instance : IsTrans System Narrows := ⟨fun _ _ _ => Narrows.trans⟩

theorem Kept.narrows {s s' : System} (h : Kept s s') : Narrows s s' :=
  ⟨h.roster, fun i v hv => by rwa [h.live] at hv⟩

theorem SessionsSound.narrows {s s' : System} (h : SessionsSound s) (hn : Narrows s s') :
    SessionsSound s' := by
  intro i v hv
  rw [hn.roster]
  exact h i v (hn.session i v hv)

theorem SessionsSound.kept {s s' : System} (h : SessionsSound s) (hk : Kept s s') :
    SessionsSound s' :=
  h.narrows hk.narrows

/-- A delete of any key and a save of a refresh token narrow the session cache. -/
theorem sessionWrites_narrows : SessionWrites Narrows := by
  refine ⟨Kept.narrows, fun key s => ?_, fun identity value ttl s => ?_⟩
  · rw [run_cached, cacheDelete_eq]
    split
    · exact (Kept.refl s).narrows
    · refine ⟨rfl, fun i v hv => ?_⟩
      dsimp only at hv
      rw [live_erase] at hv
      split at hv
      · cases hv
      · exact hv
  · rw [run_cached, cacheSet_eq]
    split
    · exact (Kept.refl s).narrows
    · split
      · rename_i c hs
        refine ⟨rfl, fun i v hv => ?_⟩
        -- the session key is not the refresh key: it reads as before, or was pushed out
        unfold System.live at hv ⊢
        rcases Cache.get_fst_set_of_ne hs (refreshKey_ne_sessionKey identity i).symm
          s.clock.instant with h | h
        · rwa [h] at hv
        · rw [h] at hv
          cases hv
      · exact (Kept.refl s).narrows

/-- Time passing reads no entry that was not read before. -/
theorem narrows_advance (s : System) (ms : Nat) :
    Narrows s { s with clock := s.clock.advance ms } := by
  exact ⟨rfl, fun i v hv => Cache.get_fst_of_le (Clock.instant_le_advance s.clock ms) hv⟩

/-- Registration adds a member and keeps every other. -/
theorem sessionsSound_register {s : System} (h : SessionsSound s) (raw password : String) :
    SessionsSound (Gate.register raw password s).2 := by
  cases hr : s.roster.register raw password (Uuid.simple (Uuid.ofSerial s.serial)) with
  | ok p =>
    obtain ⟨id, r⟩ := p
    rw [register_of_ok hr]
    intro i v hv
    obtain ⟨m, hm, rfl⟩ := h i v hv
    exact ⟨m, Roster.find?_register_of_some hr hm, rfl⟩
  | error e =>
    rw [register_of_error hr]
    exact h

/-- Resolving writes only the number the roster has just given for its identity. -/
theorem sessionsSound_resolve {s : System} (h : SessionsSound s) (identity : String) :
    SessionsSound ((resolve identity).run s).2 := by
  unfold resolve
  rw [run_bind, run_cached, cacheGet_eq]
  by_cases hget : hit s.cacheOutages "get" (sessionKey identity) = true
  · rw [if_pos hget]
    exact h
  rw [if_neg hget]
  have h1 := h.kept (kept_read s (sessionKey identity))
  dsimp only [Except.mapError]
  cases hparse : (s.live (sessionKey identity)).bind Text.Decimal.i64? with
  | some id => exact h1
  | none =>
    dsimp only
    rw [run_bind, run_rostered, findId_eq]
    dsimp only
    by_cases hfind : hit s.rosterOutages "find_id" identity = true
    · rw [if_pos hfind]
      exact h1
    rw [if_neg hfind]
    dsimp only [Except.mapError]
    cases hm : s.roster.find? identity with
    | none => exact h1
    | some m =>
      dsimp only [Option.map_some]
      rw [run_bind, run_get]
      dsimp only
      rw [run_bind]
      rcases hr : (cached (cacheSet (sessionKey identity) (toString m.id)
          (Span.ofSecs s.policy.sessionTtl))).run { s with
            cache := (s.cache.get (sessionKey identity) s.clock.instant).2,
            lookups := s.lookups + 1 } with ⟨_ | u, s3⟩
      all_goals
        dsimp only
        rcases state_cacheSet hr with rfl | ⟨c, hs, rfl⟩
      any_goals exact h1
      all_goals
        -- the one entry written holds the number the roster gave for the identity
        dsimp only [run_pure] at hs ⊢
        intro i v hv
        unfold System.live at hv
        by_cases hi : i = identity
        · subst hi
          exact ⟨m, hm, Cache.eq_of_get_fst_set_self hs hv⟩
        · have hne : sessionKey i ≠ sessionKey identity := fun he => hi (sessionKey_injective he)
          rcases Cache.get_fst_set_of_ne hs hne s.clock.instant with he | he
          · rw [he] at hv
            exact h1 i v hv
          · rw [he] at hv
            cases hv

/-- Withdrawal removes the member, then the session entry of its identity: when that delete
cannot fail, no session entry is left behind for a member the roster no longer has. -/
theorem sessionsSound_withdraw {s : System} (h : SessionsSound s) (token : String)
    (hdel : ∀ i, hit s.cacheOutages "delete" (sessionKey i) = false) :
    SessionsSound ((withdraw token).run s).2 := by
  cases ha : ((accessIdentity token).run s).1 with
  | error e =>
    rw [run_withdraw_of_error ha]
    exact h
  | ok i =>
    rw [run_withdraw_of ha]
    have hn := relates_revoke sessionWrites_narrows i s
    rcases hr : (revoke i).run s with ⟨_ | u, s1⟩
    all_goals
      rw [hr] at hn
      have h1 := h.narrows hn
    · exact h1
    obtain ⟨-, s0, hkept, rfl⟩ := revoke_ok hr
    dsimp only at h1 ⊢
    rw [run_bind]
    rcases hd : (rostered (deleteMember i)).run
        { s0 with cache := s0.cache.erase (refreshKey i) } with ⟨_ | u, s2⟩
    all_goals
      dsimp only
      rcases state_deleteMember hd with rfl | ⟨r, hdr, rfl, hok⟩
    any_goals exact h1
    · cases hok
    · -- the removal was refused, or found nothing to remove: the forgetting only narrows
      exact h1.narrows ((sessionWrites_narrows.delete (sessionKey i)).tryCatch_pure () _)
    · -- the member is gone, and so is the session entry of its identity
      dsimp only at hdr ⊢
      have hout : hit s0.cacheOutages "delete" (sessionKey i) = false :=
        hkept.cacheOutages ▸ hdel i
      rw [run_tryCatch_pure, run_forget]
      swap
      · exact hout
      dsimp only
      intro j v hv
      unfold System.live at hv
      rw [Cache.get_fst_erase] at hv
      split at hv
      · cases hv
      · rename_i hj
        have hji : j ≠ i := fun he => hj (he ▸ rfl)
        obtain ⟨m, hm, rfl⟩ := h1 j v hv
        exact ⟨m, (Roster.find?_delete_of_ne hdr hji).trans hm, rfl⟩

/-- A withdrawal that succeeds has removed the member of its identity. -/
theorem withdraw_removes_member {token i : String} {s : System}
    (ha : ((accessIdentity token).run s).1 = .ok i) (hw : ((withdraw token).run s).1 = .ok ()) :
    ((withdraw token).run s).2.roster.find? i = none := by
  rw [run_withdraw_of ha] at hw ⊢
  rcases hr : (revoke i).run s with ⟨_ | u, s1⟩
  all_goals
    rw [hr] at hw
    dsimp only at hw ⊢
  · cases hw
  rw [run_bind] at hw ⊢
  rcases hd : (rostered (deleteMember i)).run s1 with ⟨_ | u', s2⟩
  all_goals
    rw [hd] at hw
    dsimp only at hw ⊢
  · cases hw
  obtain ⟨r', hdel, rfl⟩ := deleteMember_ok hd
  -- forgetting the session entry leaves the roster as the removal left it
  have hn : Narrows { s1 with roster := r' }
      ((tryCatch (forget i) fun _ => pure ()).run { s1 with roster := r' }).2 :=
    (sessionWrites_narrows.delete (sessionKey i)).tryCatch_pure () _
  rw [hn.roster]
  exact Roster.find?_delete_self hdel

/-- Authenticating resolves the identity of a checked access token, and writes nothing else. -/
theorem sessionsSound_authenticate {s : System} (h : SessionsSound s) (token : String) :
    SessionsSound ((authenticate token).run s).2 := by
  unfold authenticate
  rw [run_bind]
  have hv := keeps_validateAccess token s
  rcases hr : (validateAccess token).run s with ⟨_ | u, s1⟩
  all_goals
    rw [hr] at hv
    have h1 := h.kept hv
  · exact h1
  dsimp only
  rw [run_bind, run_accessIdentity]
  cases ha : ((accessIdentity token).run s1).1 with
  | error e => exact h1
  | ok i =>
    dsimp only
    rw [run_bind]
    have h2 := sessionsSound_resolve h1 i
    rcases hres : (resolve i).run s1 with ⟨_ | id, s2⟩
    all_goals
      rw [hres] at h2
      exact h2

/-- Every operation keeps the session cache sound, as long as no outage hits the delete of a
session entry. -/
theorem sessionsSound_apply {s : System} (h : SessionsSound s)
    (hdel : ∀ i, hit s.cacheOutages "delete" (sessionKey i) = false) (o : Op) :
    SessionsSound (o.apply s) := by
  cases o with
  | register raw password => exact sessionsSound_register h raw password
  | login raw password => exact h.narrows (relates_login sessionWrites_narrows raw password s)
  | logout token => exact h.narrows (relates_logout sessionWrites_narrows token s)
  | reissue token => exact h.narrows (relates_reissue sessionWrites_narrows token s)
  | withdraw token => exact sessionsSound_withdraw h token hdel
  | resolve identity => exact sessionsSound_resolve h identity
  | forget identity => exact h.narrows (sessionWrites_narrows.delete (sessionKey identity) s)
  | authenticate token => exact sessionsSound_authenticate h token
  | issueRefresh identity => exact h.narrows (relates_issueRefresh sessionWrites_narrows identity s)
  | revoke identity => exact h.narrows (relates_revoke sessionWrites_narrows identity s)
  | advance ms => exact h.narrows (narrows_advance s ms)

/-- The session cache of a fresh gate is sound, and stays sound over every run. -/
theorem sessionsSound_after (policy : Policy) (capacity : Nat) (clock : Clock) (ops : List Op) :
    SessionsSound ((System.init policy capacity clock).after ops) := by
  -- the outages of a fresh gate are none, and no operation plans any
  refine System.after_induction (P := fun s => SessionsSound s ∧ s.cacheOutages = [])
    (fun o s hs => ⟨sessionsSound_apply hs.1 (fun i => by rw [hs.2]; rfl) o,
      (o.frame_apply s).cacheOutages.trans hs.2⟩) ops _ ⟨?_, rfl⟩ |>.1
  intro i v hv
  simp [System.live, System.init, Cache.empty, Cache.get, Cache.find?] at hv

/-- On a sound gate without outages, resolving answers from the roster: an unknown user when it
has no member under the identity, and otherwise that member's number, unless no live session
entry reads as a number and the write-back of the number, for a lifetime that is not empty,
cannot represent the end of it: then the resolution fails as internal. -/
theorem resolve_answers_roster {s : System} (h : SessionsSound s) (hc : s.cacheOutages = [])
    (hr : s.rosterOutages = []) (identity : String) :
    (s.roster.find? identity = none → ((resolve identity).run s).1 = .error .unauthorizedUser) ∧
    ∀ m, s.roster.find? identity = some m →
      ((resolve identity).run s).1 =
        if (s.live (sessionKey identity)).bind Text.Decimal.i64? = none ∧
            (Span.ofSecs s.policy.sessionTtl).isZero = false ∧
            s.clock.after (Span.ofSecs s.policy.sessionTtl) = none then
          .error (.internal (CacheFault.ttlOutOfRange (Span.ofSecs s.policy.sessionTtl)).message)
        else .ok m.id := by
  have quiet : ∀ op key, ¬hit s.cacheOutages op key = true := fun _ _ => by simp [hc, hit]
  unfold resolve
  rw [run_bind, run_cached, cacheGet_eq, if_neg (quiet _ _)]
  dsimp only [Except.mapError]
  cases hparse : (s.live (sessionKey identity)).bind Text.Decimal.i64? with
  | some x =>
    -- a live entry that reads as a number is the decimal number of the roster's member
    obtain ⟨v, hv, hx⟩ := Option.bind_eq_some_iff.1 hparse
    obtain ⟨m, hm, rfl⟩ := h identity v hv
    have hxm : x = m.id := Text.Decimal.eq_of_i64?_toString hx
    refine ⟨fun hnone => ?_, fun m' hm' => ?_⟩
    · rw [hm] at hnone
      cases hnone
    · rw [hm] at hm'
      cases hm'
      rw [if_neg (fun hc => nomatch hc.1), hxm]
      rfl
  | none =>
    dsimp only
    have hfind : ¬hit s.rosterOutages "find_id" identity = true := by simp [hr, hit]
    rw [run_bind, run_rostered, findId_eq]
    dsimp only
    rw [if_neg hfind]
    dsimp only [Except.mapError]
    refine ⟨fun hnone => ?_, fun m hm => ?_⟩
    · rw [hnone]
      rfl
    · rw [hm]
      dsimp only [Option.map_some]
      rw [run_bind, run_get]
      dsimp only
      rw [run_bind]
      set s2 : System := { s with
        cache := (s.cache.get (sessionKey identity) s.clock.instant).2, lookups := s.lookups + 1 }
      -- the entry is missing: the answer is that of the write-back
      rcases run_cacheSet_quiet (sessionKey identity) (toString m.id)
          (Span.ofSecs s.policy.sessionTtl) s2 (quiet _ _) with ⟨hok, c, -, hrun⟩ | ⟨hfail, hrun⟩
      · rw [hrun, if_neg (fun hc => hok hc.2)]
        rfl
      · rw [hrun, if_pos ⟨rfl, hfail⟩]

/-- On a sound gate without outages, resolving answers a number only when the roster has a
member with that number. -/
theorem resolve_ok_roster {s : System} (h : SessionsSound s) (hc : s.cacheOutages = [])
    (hr : s.rosterOutages = []) {identity : String} {x : Int}
    (hx : ((resolve identity).run s).1 = .ok x) :
    ∃ m, s.roster.find? identity = some m ∧ m.id = x := by
  obtain ⟨hnone, hsome⟩ := resolve_answers_roster h hc hr identity
  cases hm : s.roster.find? identity with
  | none =>
    rw [hnone hm] at hx
    cases hx
  | some m =>
    rw [hsome m hm] at hx
    split at hx
    · cases hx
    · cases hx
      exact ⟨m, rfl, rfl⟩

/-- The session cache refines the roster over every run of a fresh gate. After any sequence
of registrations, logins, logouts, reissues, withdrawals, resolutions, forgettings,
authentications, refresh-token issues and revocations, with time passing between them, every
live session entry holds the decimal number the roster has for its identity. So resolving an
identity answers a number only when the roster has a member with that number under it, and
refuses it as an unknown user exactly when the roster has no member under it. When the roster
has one, resolving answers its number, unless no live session entry reads as a number and the
write-back cannot represent the end of a session lifetime that is not empty: then it fails as
internal.

In particular, once a withdrawal of `i` has succeeded, resolving `i` is refused as an unknown
user until a registration of `i` succeeds again; and while the run has made at most 2^63 - 1
registrations, `i` never again resolves to the number it had before the withdrawal, since a
registration after it hands out a number never handed out before. -/
theorem session_cache_refines_roster (policy : Policy) (capacity : Nat) (clock : Clock)
    (ops : List Op) :
    let s0 := System.init policy capacity clock
    let s := s0.after ops
    SessionsSound s ∧
    (∀ identity,
      (∀ x, ((resolve identity).run s).1 = .ok x →
        ∃ m, s.roster.find? identity = some m ∧ m.id = x) ∧
      (((resolve identity).run s).1 = .error .unauthorizedUser ↔
        s.roster.find? identity = none) ∧
      ∀ m, s.roster.find? identity = some m →
        ((resolve identity).run s).1 =
          if (s.live (sessionKey identity)).bind Text.Decimal.i64? = none ∧
              (Span.ofSecs policy.sessionTtl).isZero = false ∧
              s.clock.after (Span.ofSecs policy.sessionTtl) = none then
            .error (.internal (CacheFault.ttlOutOfRange (Span.ofSecs policy.sessionTtl)).message)
          else .ok m.id) ∧
    ∀ pre token post i, ops = pre ++ .withdraw token :: post →
      ((accessIdentity token).run (s0.after pre)).1 = .ok i →
      ((withdraw token).run (s0.after pre)).1 = .ok () →
      ((∀ raw id, (raw, id) ∈ (s0.after (pre ++ [.withdraw token])).registrations post →
          Identity.normalize raw ≠ i) →
        ((resolve i).run s).1 = .error .unauthorizedUser) ∧
      ((s0.registrations ops).length ≤ 9223372036854775807 →
        ∀ m, (s0.after pre).roster.find? i = some m → ((resolve i).run s).1 ≠ .ok m.id) := by
  intro s0 s
  have hs : SessionsSound s := sessionsSound_after policy capacity clock ops
  have hf := frame_after ops s0
  refine ⟨hs, fun identity => ?_, fun pre token post i hops ha hw => ?_⟩
  · obtain ⟨hnone, hsome⟩ :=
      resolve_answers_roster hs hf.cacheOutages hf.rosterOutages identity
    have hpolicy : s.policy = policy := hf.policy
    rw [hpolicy] at hsome
    refine ⟨fun x hx => resolve_ok_roster hs hf.cacheOutages hf.rosterOutages hx,
      ⟨fun he => ?_, hnone⟩, hsome⟩
    -- a member's number or an internal failure is never an unknown user
    cases hm : s.roster.find? identity with
    | none => rfl
    | some m =>
      rw [hsome m hm] at he
      split at he <;> cases he
  · -- the withdrawal left no member under `i`, and the rest of the run starts from there
    have hops' : ops = pre ++ [.withdraw token] ++ post := by
      rw [hops, List.append_assoc, List.singleton_append]
    have hgone : (s0.after (pre ++ [.withdraw token])).roster.find? i = none := by
      rw [System.after_append, System.after_singleton, Op.apply_withdraw]
      exact withdraw_removes_member ha hw
    have hrun : s = (s0.after (pre ++ [.withdraw token])).after post := by
      show s0.after ops = _
      rw [hops', System.after_append]
    obtain ⟨hnone, -⟩ := resolve_answers_roster hs hf.cacheOutages hf.rosterOutages i
    refine ⟨fun hreg => hnone ?_, fun hle m hm hres => ?_⟩
    · rw [hrun]
      exact System.find?_after_of_none hgone post hreg
    · -- a member found now was filed after the withdrawal, under a number handed out since
      obtain ⟨m', hm', hid⟩ := resolve_ok_roster hs hf.cacheOutages hf.rosterOutages hres
      rw [hrun, ← System.after_append] at hm'
      rw [hops'] at hle
      exact number_ne_of_refiled policy capacity clock hm hgone hm' hle hid

/-- With a session lifetime of 2^64 - 1 seconds, a member just registered under `a@x.com` does
not resolve: the roster has member number 1 under the identity, but the write-back of the
number cannot represent the end of the lifetime, and resolving fails as internal. -/
theorem resolve_refused_registered :
    let s := (System.init ⟨[], [], 3600, 1209600, 18446744073709551615⟩ 1024 Clock.start).after
      [.register "a@x.com" "secret"]
    (s.roster.find? (Identity.normalize "a@x.com")).map (·.id) = some 1 ∧
      ((resolve (Identity.normalize "a@x.com")).run s).1 =
        .error (.internal (CacheFault.ttlOutOfRange (Span.ofSecs 18446744073709551615)).message) := by
  intro s
  -- the registration puts member 1 under the canonical identity and leaves the cache empty
  have hreg : (System.init ⟨[], [], 3600, 1209600, 18446744073709551615⟩ 1024
      Clock.start).roster.register "a@x.com" "secret" (Uuid.simple (Uuid.ofSerial 0)) =
      .ok (1, ⟨[(Identity.normalize "a@x.com", ⟨1, Password.digest "secret"
        (Uuid.simple (Uuid.ofSerial 0)), Uuid.simple (Uuid.ofSerial 0)⟩)], 2⟩) := rfl
  have hs : s = { System.init ⟨[], [], 3600, 1209600, 18446744073709551615⟩ 1024 Clock.start with
      roster := ⟨[(Identity.normalize "a@x.com", ⟨1, Password.digest "secret"
        (Uuid.simple (Uuid.ofSerial 0)), Uuid.simple (Uuid.ofSerial 0)⟩)], 2⟩, serial := 1 } := by
    show (Gate.register "a@x.com" "secret" _).2 = _
    rw [register_of_ok hreg]
    rfl
  have hm : s.roster.find? (Identity.normalize "a@x.com") = some ⟨1, Password.digest "secret"
      (Uuid.simple (Uuid.ofSerial 0)), Uuid.simple (Uuid.ofSerial 0)⟩ := by
    rw [hs]
    simp [Roster.find?]
  have hsound : SessionsSound s := sessionsSound_after _ _ _ _
  have hc : s.cacheOutages = [] := by rw [hs]; rfl
  have hr : s.rosterOutages = [] := by rw [hs]; rfl
  obtain ⟨-, hsome⟩ := resolve_answers_roster hsound hc hr (Identity.normalize "a@x.com")
  refine ⟨by rw [hm]; rfl, ?_⟩
  -- the cache has no entry, the lifetime is not empty, and its end is past every instant
  rw [hsome _ hm, hs, if_pos ⟨rfl, by decide, by decide⟩]
  rfl

end Gate

end Gatehouse
