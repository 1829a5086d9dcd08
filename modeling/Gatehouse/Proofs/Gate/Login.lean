import Gatehouse.Proofs.Gate.RefreshLedger
import Gatehouse.Proofs.Store.Roster

/-!
Logging in: which of its answers a login gives, and what a successful one hands out.

A login brings the raw identity to its canonical form `n`, asks the roster for the member filed
under `n`, checks the offered password against the member's digest and issues a pair. On a roster
without outages that is one equation (`run_login`): an unknown user when nobody is filed under
`n`, a wrong password when the digest does not verify the password, and the pair otherwise.
Issuing a pair is refused only when the save of its refresh token is, and then as internal
(`issuePair_refused`); the save is refused exactly when an outage hits it or the refresh
lifetime ends past the last instant the clock can tell (`System.RefusesRefreshSave`,
`issuePair_refused_iff`). When the pair is handed out, the access token is the one issued from
the state the login found, and the refresh token is kept live under `refresh:n` unless the
refresh lifetime is empty (`issuePair_eq_ok`, through `Minted.live_self`).

The roster only holds what registrations filed, and a registration files the digest of the
password it was given under the salt it drew: `Salted` holds of the empty roster and every
registration and removal keeps it (`salted_replay`). A password check is then a comparison of
digests (`verify_salted_iff`), so the refusal for a wrong password is exactly a difference of
digests.

`login_decision` gathers these. The empty refresh lifetime is where a successful login leaves no
active refresh token (`login_under_empty_refresh_lifetime_keeps_no_token`), and an empty access
lifetime is where the access token is expired when handed out.
-/

namespace Gatehouse

namespace Store.Roster

-- ============================================================ salted digests

/-- Every member's digest is the digest of some password under the member's own salt. -/
def Salted (r : Roster) : Prop :=
  ∀ key m, (key, m) ∈ r.members → ∃ password, m.digest = Password.digest password m.salt

theorem salted_empty : Salted empty := by
  simp [Salted, empty]

theorem Salted.register {r r' : Roster} (h : Salted r) {raw password salt : String} {id : Int}
    (hr : r.register raw password salt = .ok (id, r')) : Salted r' := by
  obtain ⟨-, -, hmembers⟩ := register_eq_ok hr
  intro key m hm
  rw [hmembers, List.mem_append, List.mem_singleton] at hm
  rcases hm with hm | hm
  · exact h key m hm
  · obtain ⟨-, rfl⟩ := Prod.mk.inj hm
    exact ⟨password, rfl⟩

theorem Salted.delete {r r' : Roster} (h : Salted r) {identity : String}
    (hr : r.delete identity = .ok r') : Salted r' := by
  unfold Roster.delete at hr
  split at hr
  · cases hr
    exact fun key m hm => h key m (List.mem_filter.1 hm).1
  · cases hr

theorem Salted.apply {r : Roster} (h : Salted r) (c : Call) : Salted (c.apply r).1 := by
  cases c with
  | register raw password salt =>
    cases hr : r.register raw password salt with
    | ok p =>
      obtain ⟨id, r'⟩ := p
      simpa only [Call.apply, hr] using h.register hr
    | error e => simpa only [Call.apply, hr] using h
  | delete identity =>
    cases hr : r.delete identity with
    | ok r' => simpa only [Call.apply, hr] using h.delete hr
    | error e => simpa only [Call.apply, hr] using h

/-- A roster that registrations and removals have filled holds only salted digests. -/
theorem salted_replay (calls : List Call) : Salted (empty.replay calls).1 := by
  suffices ∀ r, Salted r → Salted (r.replay calls).1 from this empty salted_empty
  induction calls with
  | nil => exact fun r h => h
  | cons c cs ih =>
    intro r h
    simpa only [Roster.replay] using ih _ (h.apply c)

/-- The member found under an identity has the digest of some password under its salt. -/
theorem Salted.find? {r : Roster} (h : Salted r) {identity : String} {m : Member}
    (hm : r.find? identity = some m) : ∃ password, m.digest = Password.digest password m.salt := by
  simp only [Roster.find?, Option.map_eq_some_iff] at hm
  obtain ⟨⟨key, m'⟩, hfind, rfl⟩ := hm
  exact h key m' (List.mem_of_find?_eq_some hfind)

end Store.Roster

namespace Gate

open Store

-- ============================================================ the answer of a login

/-- A login on a roster without outages: an unknown user when no member is filed under the
canonical identity, a wrong password when the member's digest does not verify it, and a new pair
for the member otherwise. -/
theorem run_login {raw password : String} {s : System} (hr : s.rosterOutages = []) :
    (login raw password).run s =
      match s.roster.find? (Identity.normalize raw) with
      | none => (.error .unauthorizedUser, s)
      | some m =>
        if Password.verify password m.digest m.salt then
          (issuePair (Identity.normalize raw) m.id).run s
        else (.error .unauthorizedPassword, s) := by
  unfold login
  rw [run_bind, run_rostered, findMember_eq, if_neg (by simp [hr, hit])]
  dsimp only [Except.mapError]
  cases s.roster.find? (Identity.normalize raw) with
  | none => rfl
  | some m =>
    dsimp only
    by_cases hpw : Password.verify password m.digest m.salt = true
    · rw [if_neg (by simp [hpw]), if_pos hpw]
    · rw [if_pos (by simpa using hpw), if_neg hpw]
      rfl

/-- A cache operation is refused only for an internal fault. -/
theorem cached_refused {α : Type} {x : StateM System (Except CacheFault α)} {s : System}
    {e : Auth.Fault} (h : ((cached x).run s).1 = .error e) : ∃ msg, e = .internal msg := by
  rw [run_cached] at h
  cases hx : (x s).1 with
  | ok a => rw [hx] at h; cases h
  | error f =>
    rw [hx] at h
    cases h
    exact ⟨f.message, rfl⟩

/-- A refresh token is refused only for an internal fault: its save. -/
theorem issueRefresh_refused {i : String} {s : System} {e : Auth.Fault}
    (h : ((issueRefresh i).run s).1 = .error e) : ∃ msg, e = .internal msg := by
  rw [run_issueRefresh] at h
  split at h
  · cases h
  · rename_i e' s1 hc
    cases h
    exact cached_refused (congrArg Prod.fst hc)

/-- A new pair is refused only for an internal fault: the save of its refresh token. -/
theorem issuePair_refused {i : String} {id : Int} {s : System} {e : Auth.Fault}
    (h : ((issuePair i id).run s).1 = .error e) : ∃ msg, e = .internal msg := by
  rw [run_issuePair] at h
  split at h
  · cases h
  · rename_i e' s1 hr
    cases h
    exact issueRefresh_refused (congrArg Prod.fst hr)

/-- Whether the gate refuses to save a refresh token for an identity: an outage hits the save,
or the refresh lifetime is not empty and ends past the last instant the clock can tell. -/
def System.RefusesRefreshSave (s : System) (identity : String) : Prop :=
  hit s.cacheOutages "set" (refreshKey identity) = true ∨
    ((Span.ofSecs s.policy.refreshTtl).isZero = false ∧
      s.clock.after (Span.ofSecs s.policy.refreshTtl) = none)

/-- A write through the gate is refused exactly when an outage hits it, or its span is not
empty and ends past the last instant the clock can tell. -/
theorem cacheSet_refused_iff (key value : String) (ttl : Span) (s : System) :
    (∃ e, ((cached (cacheSet key value ttl)).run s).1 = .error e) ↔
      hit s.cacheOutages "set" key = true ∨
        (ttl.isZero = false ∧ s.clock.after ttl = none) := by
  by_cases hout : hit s.cacheOutages "set" key = true
  · rw [run_cached, cacheSet_eq, if_pos hout]
    exact ⟨fun _ => .inl hout, fun _ => ⟨_, rfl⟩⟩
  · rcases run_cacheSet_quiet key value ttl s hout with ⟨hok, c, -, hrun⟩ | ⟨hfail, hrun⟩
    · -- the write goes through: neither condition holds
      rw [hrun]
      simp only [reduceCtorEq, exists_false, false_iff, not_or]
      exact ⟨hout, hok⟩
    · rw [hrun]
      exact ⟨fun _ => .inr hfail, fun _ => ⟨_, rfl⟩⟩

/-- A refresh token is refused exactly when the gate refuses its save. -/
theorem issueRefresh_refused_iff {i : String} {s : System} :
    (∃ e, ((issueRefresh i).run s).1 = .error e) ↔ s.RefusesRefreshSave i := by
  have hsave := cacheSet_refused_iff (refreshKey i) (s.mintedRefresh i s.serial)
    (Span.ofSecs s.policy.refreshTtl) { s with serial := s.serial + 1 }
  rw [run_issueRefresh]
  -- the answer is the save's, and drawing the token id moved nothing the save looks at
  rcases hr : (cached (cacheSet (refreshKey i) (s.mintedRefresh i s.serial)
      (Span.ofSecs s.policy.refreshTtl))).run { s with serial := s.serial + 1 } with ⟨_ | u, s'⟩
  · rw [hr] at hsave
    simpa only [System.RefusesRefreshSave, Except.error.injEq, exists_eq'] using hsave
  · rw [hr] at hsave
    simpa only [System.RefusesRefreshSave, reduceCtorEq, exists_false] using hsave

/-- A new pair is refused exactly when the gate refuses the save of its refresh token. -/
theorem issuePair_refused_iff {i : String} {id : Int} {s : System} :
    (∃ e, ((issuePair i id).run s).1 = .error e) ↔ s.RefusesRefreshSave i := by
  have hrefresh := @issueRefresh_refused_iff i { s with serial := s.serial + 1 }
  rw [run_issuePair]
  rcases hr : (issueRefresh i).run { s with serial := s.serial + 1 } with ⟨_ | t, s'⟩
  · rw [hr] at hrefresh
    simpa only [System.RefusesRefreshSave, Except.error.injEq, exists_eq'] using hrefresh
  · rw [hr] at hrefresh
    simpa only [System.RefusesRefreshSave, reduceCtorEq, exists_false] using hrefresh

theorem Span.isZero_ofSecs (n : Nat) : (Span.ofSecs n).isZero = true ↔ n = 0 := by
  simp [Span.isZero, Span.ofSecs, Span.perSecond]

/-- What an issue keeps live under its identity's refresh key, on the clock it was made at: its
token, unless the refresh lifetime is empty. -/
theorem Minted.live_self {i t : String} {s s' : System} (h : Minted i t s s')
    (hc : s'.clock = s.clock) :
    s'.live (refreshKey i) = if s.policy.refreshTtl = 0 then none else some t := by
  have he := h.entry
  unfold System.live
  rw [hc]
  by_cases hz : s.policy.refreshTtl = 0
  · rw [if_pos ((Span.isZero_ofSecs _).2 hz)] at he
    rw [if_pos hz]
    exact Cache.get_fst_of_find?_none _ he
  · rw [if_neg (mt (Span.isZero_ofSecs _).1 hz)] at he
    rw [if_neg hz]
    -- the entry expires a whole number of seconds, at least one, after now
    have hpos : 0 < (Span.ofSecs s.policy.refreshTtl).nanos := by
      simp only [Span.ofSecs, Span.perSecond]
      omega
    exact Cache.get_fst_eq_some.2 ⟨_, he, by dsimp only; omega, rfl⟩

/-- A new pair that is handed out carries the member's number and the access token issued from
the state it started in, and keeps its refresh token live as `Minted.live_self` says, on the
clock and under the policy it found. -/
theorem issuePair_eq_ok {i : String} {id : Int} {s s' : System} {iss : Issued}
    (h : (issuePair i id).run s = (.ok iss, s')) :
    iss.memberId = id ∧ iss.accessToken = (issueAccess i s).1 ∧ s'.policy = s.policy ∧
      s'.clock = s.clock ∧
      s'.live (refreshKey i) = if s.policy.refreshTtl = 0 then none else some iss.refreshToken := by
  rw [run_issuePair] at h
  split at h
  · rename_i refresh s1 hr
    cases h
    obtain ⟨hm, hc, hp⟩ := minted_issueRefresh hr
    exact ⟨rfl, rfl, hp, hc, hm.live_self hc⟩
  · cases h

/-- Against the digest of a password `p0`, a password verifies exactly when its digest under the
same salt is the same. -/
theorem verify_salted_iff {password p0 salt : String} :
    Password.verify password (Password.digest p0 salt) salt = true ↔
      Password.digest password salt = Password.digest p0 salt := by
  constructor
  · intro h
    exact (Password.eq_digest_of_verify h).symm
  · intro h
    rw [← h]
    exact Password.verify_digest password salt

-- ============================================================ the login decision

/-- The login decision. On a roster that registrations and removals have filled, with no roster
outage, let `n` be the canonical form of the raw identity. A login is refused as an unknown user
exactly when no member is filed under `n`, and for a wrong password exactly when the member filed
there has the digest of a password `p0` under its salt and the offered password's digest under
that salt differs. Otherwise the login is refused as internal exactly when the gate refuses the
save of the refresh token (an outage hits it, or the refresh lifetime ends past the last instant
the clock can tell), and else answers with the member's number and a pair on a gate whose
policy and clock are as they were: the access token reads back, on every state of the same
policy, as `n` until its expiry (`now` plus the access lifetime) unless `n` is blank, and as
expired from then on; the refresh token is kept live under `n`'s refresh key, unless the
refresh lifetime is empty and nothing is kept. Every raw identity with the same canonical form
logs in the same way. -/
theorem login_decision (calls : List Roster.Call) (s : System)
    (hroster : s.roster = (Roster.empty.replay calls).1) (hout : s.rosterOutages = [])
    (raw password : String) :
    let n := Identity.normalize raw
    (((login raw password).run s).1 = .error .unauthorizedUser ↔ s.roster.find? n = none) ∧
    (((login raw password).run s).1 = .error .unauthorizedPassword ↔
      ∃ m p0, s.roster.find? n = some m ∧ m.digest = Password.digest p0 m.salt ∧
        Password.digest password m.salt ≠ Password.digest p0 m.salt) ∧
    (∀ m p0, s.roster.find? n = some m → m.digest = Password.digest p0 m.salt →
      Password.digest password m.salt = Password.digest p0 m.salt →
      ((∃ msg, ((login raw password).run s).1 = .error (.internal msg)) ↔
        s.RefusesRefreshSave n) ∧
      (¬s.RefusesRefreshSave n →
      ∃ iss s', (login raw password).run s = (.ok iss, s') ∧ iss.memberId = m.id ∧
        s'.policy = s.policy ∧ s'.clock = s.clock ∧
        (∀ s'' : System, s''.policy = s.policy →
          ((accessIdentity iss.accessToken).run s'').1 =
            if expiryOf s.clock.unixSecs s.policy.accessTtl ≤ s''.clock.unixSecs then
              .error .expiredAccessToken
            else if (Text.trim n).isEmpty then .error .accessTokenEmailMissing
            else .ok n) ∧
        s'.live (refreshKey n) =
          if s.policy.refreshTtl = 0 then none else some iss.refreshToken)) ∧
    (∀ raw', Identity.normalize raw' = n →
      (login raw' password).run s = (login raw password).run s) := by
  intro n
  have hsalted : s.roster.Salted := hroster ▸ Roster.salted_replay calls
  have hrun := @run_login raw password s hout
  refine ⟨?_, ?_, ?_, ?_⟩
  · -- unknown user: a found member is refused at most for its password or internally
    rw [hrun]
    cases hf : s.roster.find? n with
    | none => simp
    | some m =>
      simp only [reduceCtorEq, iff_false]
      split
      · intro h
        obtain ⟨msg, hmsg⟩ := issuePair_refused h
        cases hmsg
      · intro h
        cases h
  · -- wrong password: the digests differ exactly when the password does not verify
    rw [hrun]
    cases hf : s.roster.find? n with
    | none => simp
    | some m =>
      obtain ⟨p0, hd⟩ := hsalted.find? hf
      simp only [Option.some.injEq, exists_and_left, exists_eq_left']
      split
      · rename_i hpw
        refine ⟨fun h => ?_, fun ⟨p1, hd1, hne⟩ => ?_⟩
        · obtain ⟨msg, hmsg⟩ := issuePair_refused h
          cases hmsg
        · exact absurd (verify_salted_iff.1 (hd1 ▸ hpw)) hne
      · rename_i hpw
        refine ⟨fun _ => ⟨p0, hd, fun hsame => hpw ?_⟩, fun _ => rfl⟩
        rw [hd]
        exact verify_salted_iff.2 hsame
  · -- a matching password: the answer is the new pair's, refused only with its save
    intro m p0 hf hd hsame
    have hpw : Password.verify password m.digest m.salt = true := by
      rw [hd]
      exact verify_salted_iff.2 hsame
    rw [hrun, hf]
    dsimp only
    rw [if_pos hpw]
    refine ⟨⟨fun ⟨msg, h⟩ => issuePair_refused_iff.1 ⟨_, h⟩, fun hsave => ?_⟩,
      fun hsave => ?_⟩
    · -- a refused save refuses the login, and as internal
      obtain ⟨e, he⟩ := issuePair_refused_iff.2 hsave
      obtain ⟨msg, rfl⟩ := issuePair_refused he
      exact ⟨msg, he⟩
    · rcases hpair : (issuePair n m.id).run s with ⟨_ | iss, s'⟩
      · exact absurd (issuePair_refused_iff.1 ⟨_, congrArg Prod.fst hpair⟩) hsave
      · obtain ⟨hid, hacc, hp, hc, hlive⟩ := issuePair_eq_ok hpair
        refine ⟨iss, s', rfl, hid, hp, hc, fun s'' hp'' => ?_, hlive⟩
        rw [hacc]
        exact accessIdentity_issueAccess n s s'' hp''
  · -- the raw identity is read only through its canonical form
    intro raw' h
    unfold login
    rw [h]

/-- `a@x.com`, registered with `secret`, logs in with `secret`: it is refused neither as an
unknown user nor for its password. -/
theorem own_password_neither_unknown_nor_wrong :
    let calls := [Roster.Call.register "a@x.com" "secret" "salt"]
    let s : System := { System.init ⟨[], [], 3600, 1209600, 1800⟩ 1024 Clock.start with
      roster := (Roster.empty.replay calls).1 }
    s.roster = (Roster.empty.replay calls).1 ∧ s.rosterOutages = [] ∧
      ((login "a@x.com" "secret").run s).1 ≠ .error .unauthorizedUser ∧
      ((login "a@x.com" "secret").run s).1 ≠ .error .unauthorizedPassword := by
  intro calls s
  obtain ⟨huser, hpw, -, -⟩ := login_decision calls s rfl rfl "a@x.com" "secret"
  have hf : s.roster.find? (Identity.normalize "a@x.com") =
      some ⟨1, Password.digest "secret" "salt", "salt"⟩ := by
    simp [s, calls, Roster.replay, Roster.Call.apply, Roster.register, Roster.find?, Roster.empty]
  refine ⟨rfl, rfl, fun h => ?_, fun h => ?_⟩
  · rw [huser.1 h] at hf
    cases hf
  · obtain ⟨m, p0, hm, hd, hne⟩ := hpw.1 h
    rw [hf] at hm
    cases hm
    exact hne hd

/-- Under an empty refresh lifetime, `a@x.com`, registered with `secret`, logs in with `secret`
and is handed a pair, yet its refresh key holds nothing live afterwards: the refresh token did
not become the active one. -/
theorem login_under_empty_refresh_lifetime_keeps_no_token :
    let calls := [Roster.Call.register "a@x.com" "secret" "salt"]
    let s : System := { System.init ⟨[], [], 3600, 0, 1800⟩ 1024 Clock.start with
      roster := (Roster.empty.replay calls).1 }
    ∃ iss s', (login "a@x.com" "secret").run s = (.ok iss, s') ∧
      s'.live (refreshKey (Identity.normalize "a@x.com")) = none := by
  intro calls s
  have hf : s.roster.find? (Identity.normalize "a@x.com") =
      some ⟨1, Password.digest "secret" "salt", "salt"⟩ := by
    simp [s, calls, Roster.replay, Roster.Call.apply, Roster.register, Roster.find?, Roster.empty]
  have hz : (Span.ofSecs s.policy.refreshTtl).isZero = true := by decide
  rw [run_login_of_isZero rfl rfl hf (Password.verify_digest _ _) hz]
  refine ⟨_, _, rfl, ?_⟩
  simp [System.live, Cache.get_fst_erase]

end Gate

end Gatehouse
