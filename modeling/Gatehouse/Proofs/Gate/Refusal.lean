import Gatehouse.Proofs.Gate.Steps

/-!
A refused session operation leaves the gate as it found it.

`Kept s s'` says that `s'` agrees with `s` on everything a session operation can observe or
leave behind for a later one: the policy, the clock, the planned outages, the roster, and the
live entry under every cache key, with its value and its expiry. (A refused operation may still
move what no answer shows: the order of recent use, an expired entry read away, the count of
roster look-ups, the serial that identifiers are drawn from.)

Two properties of gate steps carry the proofs: `Keeps x` (whatever `x` answers, the state is
kept) and `KeepsOnRefusal x` (when `x` refuses, it is). Reads keep; the two writes a session
operation makes, the refresh-token save and the removal of the active token, keep on refusal;
and a step that first reads and then makes one write keeps on refusal (`KeepsOnRefusal.bind`).
Login, reissue and logout are all of that shape.

`refused_sessions_keep_state` is the main statement: a refused login, reissue or logout keeps
the state, so the refresh token that was active stays accepted exactly as before; a refused
withdrawal keeps the roster, and either keeps everything, or has removed exactly the active
refresh token of its identity and was refused by the member store; a withdrawal refused for a
bad access token or for no active session keeps everything. Since a completed deletion
removes a member from the roster, a withdrawal whose deletion completed is never refused,
whatever becomes of the session-cache eviction after it.
-/

namespace Gatehouse.Gate

open Store

-- ============================================================ what a refusal must keep

/-- `s'` agrees with `s` on the policy, the clock, the planned outages, the roster and every
live cache entry, its value and its expiry. -/
structure Kept (s s' : System) : Prop where
  policy : s'.policy = s.policy
  clock : s'.clock = s.clock
  cacheOutages : s'.cacheOutages = s.cacheOutages
  rosterOutages : s'.rosterOutages = s.rosterOutages
  roster : s'.roster = s.roster
  entries : s'.liveEntry = s.liveEntry

theorem Kept.refl (s : System) : Kept s s := ⟨rfl, rfl, rfl, rfl, rfl, rfl⟩

theorem Kept.trans {s s1 s2 : System} (h1 : Kept s s1) (h2 : Kept s1 s2) : Kept s s2 :=
  ⟨h2.policy.trans h1.policy, h2.clock.trans h1.clock, h2.cacheOutages.trans h1.cacheOutages,
    h2.rosterOutages.trans h1.rosterOutages, h2.roster.trans h1.roster,
    h2.entries.trans h1.entries⟩

theorem Kept.symm {s s' : System} (h : Kept s s') : Kept s' s :=
  ⟨h.policy.symm, h.clock.symm, h.cacheOutages.symm, h.rosterOutages.symm, h.roster.symm,
    h.entries.symm⟩

/-- A kept state reads every key live as before. -/
theorem Kept.live {s s' : System} (h : Kept s s') : s'.live = s.live := by
  funext k
  rw [System.live_eq_liveEntry, System.live_eq_liveEntry, h.entries]

/-- A step that touches the cache only by a read keeps the state. -/
theorem kept_read (s : System) (key : String) :
    Kept s { s with cache := (s.cache.get key s.clock.instant).2 } :=
  ⟨rfl, rfl, rfl, rfl, rfl, liveEntry_read s key⟩

-- ============================================================ steps that keep

section Keeping

variable {α β : Type}

/-- Whatever the step answers, it keeps the state. -/
def Keeps (x : GateM α) : Prop := ∀ s, Kept s (x.run s).2

/-- When the step refuses, it keeps the state. -/
def KeepsOnRefusal (x : GateM α) : Prop := ∀ s e s', x.run s = (.error e, s') → Kept s s'

theorem Keeps.onRefusal {x : GateM α} (hx : Keeps x) : KeepsOnRefusal x := by
  intro s e s' h
  have := hx s
  rwa [h] at this

theorem keeps_pure (a : α) : Keeps (pure a : GateM α) := fun s => Kept.refl s

theorem keeps_throw (e : Auth.Fault) : Keeps (throw e : GateM α) := fun s => Kept.refl s

theorem keeps_get : Keeps (get : GateM System) := fun s => Kept.refl s

/-- Reading, then a step that keeps: the whole keeps. -/
theorem Keeps.bind {x : GateM α} {f : α → GateM β} (hx : Keeps x) (hf : ∀ a, Keeps (f a)) :
    Keeps (x >>= f) := by
  intro s
  rw [run_bind]
  rcases hr : x.run s with ⟨_ | a, s1⟩
  all_goals
    have h1 := hx s
    rw [hr] at h1
  · exact h1
  · exact h1.trans (hf a s1)

/-- Reading, then a step that keeps on refusal: the whole keeps on refusal. -/
theorem KeepsOnRefusal.bind {x : GateM α} {f : α → GateM β} (hx : Keeps x)
    (hf : ∀ a, KeepsOnRefusal (f a)) : KeepsOnRefusal (x >>= f) := by
  intro s e s' h
  rw [run_bind] at h
  rcases hr : x.run s with ⟨_ | a, s1⟩
  all_goals
    have h1 := hx s
    rw [hr] at h1 h
  · cases h
    exact h1
  · exact h1.trans (hf a s1 e s' h)

/-- A step that keeps on refusal, followed by an answer: the whole keeps on refusal. -/
theorem KeepsOnRefusal.bind_pure {x : GateM α} (hx : KeepsOnRefusal x) (g : α → β) :
    KeepsOnRefusal (x >>= fun a => pure (g a)) := by
  intro s e s' h
  rw [run_bind] at h
  rcases hr : x.run s with ⟨_ | a, s1⟩
  all_goals rw [hr] at h
  · cases h
    exact hx s _ _ hr
  · cases h

end Keeping

-- ============================================================ the primitives

section Primitives

variable (key identity : String)

theorem keeps_cacheGet : Keeps (cached (cacheGet key)) := by
  intro s
  rw [run_cached, cacheGet_eq]
  split
  · exact Kept.refl s
  · exact kept_read s key

theorem keeps_cacheExists : Keeps (cached (cacheExists key)) := by
  intro s
  rw [run_cached, cacheExists_eq]
  split
  · exact Kept.refl s
  · exact kept_read s key

theorem keeps_findId : Keeps (rostered (findId identity)) := by
  intro s
  rw [run_rostered, findId_eq]
  split <;> exact ⟨rfl, rfl, rfl, rfl, rfl, rfl⟩

theorem keeps_findMember : Keeps (rostered (findMember identity)) := by
  intro s
  rw [run_rostered, findMember_eq]
  split <;> exact Kept.refl s

/-- A refused delete has changed nothing. -/
theorem keepsOnRefusal_cacheDelete : KeepsOnRefusal (cached (cacheDelete key)) := by
  intro s e s' h
  rw [run_cached, cacheDelete_eq] at h
  split at h
  · cases h
    exact Kept.refl s
  · cases h

/-- A refused set has changed nothing. -/
theorem keepsOnRefusal_cacheSet (value : String) (ttl : Span) :
    KeepsOnRefusal (cached (cacheSet key value ttl)) := by
  intro s e s' h
  rw [run_cached, cacheSet_eq] at h
  split at h
  · cases h
    exact Kept.refl s
  · split at h
    · cases h
    · cases h
      exact Kept.refl s

/-- Drawing identifiers and signing tokens moves only the serial. -/
theorem keeps_freshClaims (sub : Option String) (ttl : Nat) :
    Keeps (liftM (freshClaims sub ttl) : GateM Token.Claims) :=
  fun _ => ⟨rfl, rfl, rfl, rfl, rfl, rfl⟩

theorem keeps_issueAccess : Keeps (liftM (issueAccess identity) : GateM String) :=
  fun _ => ⟨rfl, rfl, rfl, rfl, rfl, rfl⟩

theorem keeps_decodeAccess (token : String) : Keeps (decodeAccess token) := by
  unfold decodeAccess
  refine keeps_get.bind fun _ => ?_
  split
  · exact keeps_pure _
  · exact keeps_throw _

theorem keeps_decodeRefresh (token : String) : Keeps (decodeRefresh token) := by
  unfold decodeRefresh
  refine keeps_get.bind fun _ => ?_
  split
  · exact keeps_pure _
  · exact keeps_throw _

end Primitives

-- ============================================================ the session steps

section Sessions

variable (identity token : String)

theorem keeps_accessIdentity : Keeps (accessIdentity token) := by
  unfold accessIdentity
  refine (keeps_decodeAccess token).bind fun c => ?_
  split
  · exact keeps_pure _
  · exact keeps_throw _

/-- Checking a refresh token only reads. -/
theorem keeps_refreshIdentity : Keeps (refreshIdentity token) := by
  unfold refreshIdentity
  refine (keeps_decodeRefresh token).bind fun c => ?_
  dsimp only
  split
  on_goal 1 => refine (keeps_pure _).bind fun i => ?_
  on_goal 2 => refine (keeps_throw _).bind fun i => ?_
  -- whichever identity the claims name, the rest is one cache read and an answer
  all_goals
    refine (keeps_cacheGet _).bind fun r => ?_
    split
    · split
      · exact keeps_pure _
      · exact keeps_throw _
    · exact keeps_throw _

theorem keepsOnRefusal_issueRefresh : KeepsOnRefusal (issueRefresh identity) := by
  unfold issueRefresh
  refine KeepsOnRefusal.bind keeps_get fun _ => ?_
  refine KeepsOnRefusal.bind (keeps_freshClaims _ _) fun claims => ?_
  exact (keepsOnRefusal_cacheSet _ _ _).bind_pure _

theorem keepsOnRefusal_issuePair (memberId : Int) :
    KeepsOnRefusal (issuePair identity memberId) := by
  unfold issuePair
  refine KeepsOnRefusal.bind (keeps_issueAccess identity) fun access => ?_
  exact (keepsOnRefusal_issueRefresh identity).bind_pure _

/-- Revocation reads whether a token is active, then removes it: refused, it keeps. -/
theorem keepsOnRefusal_revoke : KeepsOnRefusal (revoke identity) := by
  unfold revoke
  refine KeepsOnRefusal.bind (keeps_cacheExists _) fun active => ?_
  split
  · exact KeepsOnRefusal.bind (keeps_throw _) fun _ => keepsOnRefusal_cacheDelete _
  · exact keepsOnRefusal_cacheDelete _

theorem keepsOnRefusal_login (raw password : String) :
    KeepsOnRefusal (login raw password) := by
  unfold login
  refine KeepsOnRefusal.bind (keeps_findMember _) fun m => ?_
  split
  · exact (keeps_throw _).onRefusal
  · dsimp only
    split
    · exact KeepsOnRefusal.bind (keeps_throw _) fun _ => keepsOnRefusal_issuePair _ _
    · exact keepsOnRefusal_issuePair _ _

theorem keepsOnRefusal_reissue : KeepsOnRefusal (reissue token) := by
  unfold reissue
  refine KeepsOnRefusal.bind (keeps_refreshIdentity token) fun identity => ?_
  refine KeepsOnRefusal.bind (keeps_findId identity) fun id => ?_
  split
  · exact (keeps_throw _).onRefusal
  · exact keepsOnRefusal_issuePair _ _

theorem keepsOnRefusal_logout : KeepsOnRefusal (logout token) := by
  unfold logout
  exact KeepsOnRefusal.bind (keeps_accessIdentity token) fun identity =>
    keepsOnRefusal_revoke identity

end Sessions

-- ============================================================ answers on kept states

section Agreeing

variable {α β : Type}

/-- The step answers alike on states that agree as `Kept` says. -/
def Agrees (x : GateM α) : Prop := ∀ s s', Kept s s' → (x.run s').1 = (x.run s).1

theorem agrees_pure (a : α) : Agrees (pure a : GateM α) := fun _ _ _ => rfl

theorem agrees_throw (e : Auth.Fault) : Agrees (throw e : GateM α) := fun _ _ _ => rfl

/-- A step that agrees and keeps, then steps that agree: the whole agrees. -/
theorem Agrees.bind {x : GateM α} {f : α → GateM β} (hx : Agrees x) (hk : Keeps x)
    (hf : ∀ a, Agrees (f a)) : Agrees (x >>= f) := by
  intro s s' hss
  rw [run_bind, run_bind]
  have hans := hx s s' hss
  have hs := hk s
  have hs' := hk s'
  rcases hr : x.run s with ⟨r, s1⟩
  rcases hr' : x.run s' with ⟨r', s1'⟩
  rw [hr, hr'] at hans
  rw [hr] at hs
  rw [hr'] at hs'
  dsimp only at hans hs hs'
  subst hans
  -- the two states after `x` still agree: each agrees with the one before it
  have h11 : Kept s1 s1' := hs.symm.trans (hss.trans hs')
  cases r' with
  | error e => rfl
  | ok a => exact hf a s1 s1' h11

theorem agrees_cacheGet (key : String) : Agrees (cached (cacheGet key)) := by
  intro s s' h
  simp only [run_cached, cacheGet_eq, h.cacheOutages, h.live]
  split <;> rfl

theorem run_decodeRefresh (token : String) (s : System) :
    (decodeRefresh token).run s =
      ((Token.decode token s.policy.refreshSecret s.clock.unixSecs).mapError
        Auth.Fault.ofRefresh, s) := by
  unfold decodeRefresh
  rw [run_bind, run_get]
  dsimp only
  cases Token.decode token s.policy.refreshSecret s.clock.unixSecs <;> rfl

theorem agrees_decodeRefresh (token : String) : Agrees (decodeRefresh token) := by
  intro s s' h
  simp only [run_decodeRefresh, h.policy, h.clock]

/-- Checking a refresh token answers alike on states that agree: it reads only the policy, the
clock, the outages and the live refresh token. -/
theorem agrees_refreshIdentity (token : String) : Agrees (refreshIdentity token) := by
  unfold refreshIdentity
  refine (agrees_decodeRefresh token).bind (keeps_decodeRefresh token) fun c => ?_
  dsimp only
  split
  on_goal 1 => refine (agrees_pure _).bind (keeps_pure _) fun i => ?_
  on_goal 2 => refine (agrees_throw _).bind (keeps_throw _) fun i => ?_
  all_goals
    refine (agrees_cacheGet _).bind (keeps_cacheGet _) fun r => ?_
    split
    · split
      · exact agrees_pure _
      · exact agrees_throw _
    · exact agrees_throw _

end Agreeing

-- ============================================================ withdrawal

theorem run_decodeAccess (token : String) (s : System) :
    (decodeAccess token).run s =
      ((Token.decode token s.policy.accessSecret s.clock.unixSecs).mapError
        Auth.Fault.ofAccess, s) := by
  unfold decodeAccess
  rw [run_bind, run_get]
  dsimp only
  cases Token.decode token s.policy.accessSecret s.clock.unixSecs <;> rfl

/-- Taking the identity of an access token leaves the state exactly as it was. -/
theorem accessIdentity_state (token : String) (s : System) :
    ((accessIdentity token).run s).2 = s := by
  unfold accessIdentity
  rw [run_bind, run_decodeAccess]
  cases Token.decode token s.policy.accessSecret s.clock.unixSecs with
  | error e => rfl
  | ok c =>
    dsimp only [Except.mapError]
    split <;> rfl

theorem run_accessIdentity (token : String) (s : System) :
    (accessIdentity token).run s = (((accessIdentity token).run s).1, s) :=
  Prod.ext rfl (accessIdentity_state token s)

/-- Revocation: refused by an outage of the activity check, refused with `userNotLoggedIn`
when no refresh token is live, and otherwise a delete of the key after the read. -/
theorem run_revoke (identity : String) (s : System) :
    (revoke identity).run s =
      if hit s.cacheOutages "exists" (refreshKey identity) then
        (.error (.internal CacheFault.poisoned.message), s)
      else if (s.live (refreshKey identity)).isSome then
        (cached (cacheDelete (refreshKey identity))).run
          { s with cache := (s.cache.get (refreshKey identity) s.clock.instant).2 }
      else
        (.error .userNotLoggedIn,
          { s with cache := (s.cache.get (refreshKey identity) s.clock.instant).2 }) := by
  unfold revoke
  rw [run_bind, run_cached, cacheExists_eq]
  by_cases hout : hit s.cacheOutages "exists" (refreshKey identity) = true
  · rw [if_pos hout, if_pos hout]
    rfl
  · rw [if_neg hout, if_neg hout]
    cases (s.live (refreshKey identity)).isSome <;> rfl

/-- A revocation that succeeds found an active refresh token, and has removed it from a state
that otherwise agrees with the one before. -/
theorem revoke_ok {identity : String} {s s1 : System} {u : Unit}
    (h : (revoke identity).run s = (.ok u, s1)) :
    (s.live (refreshKey identity)).isSome ∧ ∃ s0, Kept s s0 ∧
      s1 = { s0 with cache := s0.cache.erase (refreshKey identity) } := by
  rw [run_revoke] at h
  split at h
  · cases h
  · split at h
    · rename_i hlive
      refine ⟨hlive, _, kept_read s (refreshKey identity), ?_⟩
      rw [run_cached, cacheDelete_eq] at h
      split at h
      · cases h
      · cases h
        rfl
    · cases h

/-- A withdrawal whose access token does not check answers that refusal and changes nothing. -/
theorem run_withdraw_of_error {token : String} {s : System} {e : Auth.Fault}
    (ha : ((accessIdentity token).run s).1 = .error e) : (withdraw token).run s = (.error e, s) := by
  unfold withdraw
  rw [run_bind, run_accessIdentity, ha]

/-- A withdrawal whose access token carries `i` revokes `i`'s token, then removes the member
and forgets its session entry. -/
theorem run_withdraw_of {token i : String} {s : System}
    (ha : ((accessIdentity token).run s).1 = .ok i) :
    (withdraw token).run s = match (revoke i).run s with
      | (.ok _, s1) =>
        (rostered (deleteMember i) >>= fun _ => tryCatch (forget i) fun _ => pure ()).run s1
      | (.error e, s1) => (.error e, s1) := by
  unfold withdraw
  rw [run_bind, run_accessIdentity, ha]
  dsimp only
  rw [run_bind]
  rcases (revoke i).run s with ⟨_ | ⟨⟩, s1⟩ <;> rfl

/-- The member store refuses a deletion alike on states with the same roster and outages. -/
theorem deleteMember_fst_congr (identity : String) {s s' : System}
    (hr : s'.roster = s.roster) (ho : s'.rosterOutages = s.rosterOutages) :
    (deleteMember identity s').1 = (deleteMember identity s).1 := by
  rw [deleteMember_eq, deleteMember_eq, hr, ho]
  split
  · rfl
  · split <;> rfl

/-- A refused deletion leaves the state as it was. -/
theorem deleteMember_refused {identity : String} {s : System} {f : RosterFault}
    (h : (deleteMember identity s).1 = .error f) : (deleteMember identity s).2 = s := by
  rw [deleteMember_eq] at h ⊢
  by_cases hout : hit s.rosterOutages "delete" identity = true
  · rw [if_pos hout]
  · rw [if_neg hout] at h ⊢
    cases hd : s.roster.delete identity with
    | ok r =>
      rw [hd] at h
      cases h
    | error e => rfl

/-- A refused withdrawal either kept the state, or revoked the active refresh token of its
identity and was then refused by the member store, with nothing else changed. -/
theorem withdraw_refused {token : String} {s s' : System} {e : Auth.Fault}
    (h : (withdraw token).run s = (.error e, s')) :
    Kept s s' ∨ ∃ i f s1, (accessIdentity token).run s = (.ok i, s) ∧
      (s.live (refreshKey i)).isSome ∧ (deleteMember i s).1 = .error f ∧
      e = RosterFault.toAuth f ∧ Kept s s1 ∧
      s' = { s1 with cache := s1.cache.erase (refreshKey i) } := by
  cases ha : ((accessIdentity token).run s).1 with
  | error e' =>
    -- a bad access token
    rw [run_withdraw_of_error ha] at h
    cases h
    exact .inl (Kept.refl s)
  | ok i =>
    rw [run_withdraw_of ha] at h
    rcases hr : (revoke i).run s with ⟨_ | u, s1⟩
    · -- no active session, or the cache refused
      rw [hr] at h
      cases h
      exact .inl (keepsOnRefusal_revoke i s _ _ hr)
    rw [hr] at h
    obtain ⟨hactive, s2, hkept, rfl⟩ := revoke_ok hr
    dsimp only at h
    rw [run_bind, run_rostered] at h
    have hdel : (deleteMember i { s2 with cache := s2.cache.erase (refreshKey i) }).1 =
        (deleteMember i s).1 := deleteMember_fst_congr i hkept.roster hkept.rosterOutages
    cases hd : (deleteMember i { s2 with cache := s2.cache.erase (refreshKey i) }).1 with
    | error f =>
      -- the member store refused: the refresh token is gone, nothing else
      have hs3 := deleteMember_refused hd
      rw [hd] at hdel
      simp only [hd, hs3, Except.mapError] at h
      cases h
      refine .inr ⟨i, f, s2, ?_, hactive, hdel.symm, rfl, hkept, rfl⟩
      rw [run_accessIdentity, ha]
    | ok u =>
      -- the member is gone, and the eviction that follows never refuses
      simp only [hd, Except.mapError] at h
      rw [run_tryCatch_pure] at h
      split at h <;> cases h

/-- The member store's refusals are never those of a bad access token or of no session. -/
theorem toAuth_ne (f : RosterFault) :
    (∀ g, RosterFault.toAuth f ≠ .ofAccess g) ∧
      RosterFault.toAuth f ≠ .accessTokenEmailMissing ∧
      RosterFault.toAuth f ≠ .userNotLoggedIn := by
  refine ⟨fun g => ?_, ?_, ?_⟩ <;> cases f <;> (try cases g) <;>
    simp [RosterFault.toAuth, Auth.Fault.ofAccess]

-- ============================================================ the operations

/-- A refused session operation leaves the gate as it was. A refused login, reissue or logout
keeps the policy, the clock, the outages, the roster and every live cache value, so a refresh
token is accepted or refused after it exactly as before. A refused withdrawal keeps the roster;
refused for a bad access token or for no active session, it keeps everything; and otherwise it
kept everything, or it revoked the active refresh token of its identity, was refused by the
member store, and changed nothing else. -/
theorem refused_sessions_keep_state (s : System) :
    (∀ raw password e s', (login raw password).run s = (.error e, s') →
      Kept s s' ∧ ∀ t, ((refreshIdentity t).run s').1 = ((refreshIdentity t).run s).1) ∧
    (∀ token e s', (reissue token).run s = (.error e, s') →
      Kept s s' ∧ ∀ t, ((refreshIdentity t).run s').1 = ((refreshIdentity t).run s).1) ∧
    (∀ token e s', (logout token).run s = (.error e, s') → Kept s s') ∧
    (∀ token e s', (withdraw token).run s = (.error e, s') →
      s'.roster = s.roster ∧
      ((∃ g, e = .ofAccess g) ∨ e = .accessTokenEmailMissing ∨ e = .userNotLoggedIn →
        Kept s s') ∧
      (Kept s s' ∨ ∃ i f s1, (accessIdentity token).run s = (.ok i, s) ∧
        (s.live (refreshKey i)).isSome ∧ (deleteMember i s).1 = .error f ∧
        e = RosterFault.toAuth f ∧ Kept s s1 ∧
        s' = { s1 with cache := s1.cache.erase (refreshKey i) })) := by
  refine ⟨fun raw password e s' h => ?_, fun token e s' h => ?_,
    fun token e s' h => keepsOnRefusal_logout token s e s' h, fun token e s' h => ?_⟩
  · have hk := keepsOnRefusal_login raw password s e s' h
    exact ⟨hk, fun t => agrees_refreshIdentity t s s' hk⟩
  · have hk := keepsOnRefusal_reissue token s e s' h
    exact ⟨hk, fun t => agrees_refreshIdentity t s s' hk⟩
  · have hw := withdraw_refused h
    refine ⟨?_, fun he => ?_, hw⟩
    · rcases hw with hk | ⟨i, f, s1, -, -, -, -, hk, rfl⟩
      · exact hk.roster
      · exact hk.roster
    · rcases hw with hk | ⟨i, f, s1, -, -, -, rfl, -, -⟩
      · exact hk
      · -- a refusal of the member store is none of these
        obtain ⟨h1, h2, h3⟩ := toAuth_ne f
        rcases he with ⟨g, hg⟩ | hg | hg
        · exact absurd hg (h1 g)
        · exact absurd hg h2
        · exact absurd hg h3

end Gatehouse.Gate
