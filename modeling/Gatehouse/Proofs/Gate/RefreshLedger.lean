import Gatehouse.Proofs.Gate.Spares
import Gatehouse.Proofs.Gate.Rotation
import Gatehouse.Proofs.Gate.Lifetime
import Gatehouse.Proofs.Token.Decode

/-!
One active refresh token per identity, over every run of the session system.

A run of operations (`Op`) records what each did to the refresh tokens (`Op.grant`): a login, a
reissue or an issue that succeeds *issues* the refresh token it hands out for its identity, and a
revocation that succeeds, alone or inside a logout or a withdrawal, *revokes* its identity's
token. The *active* token of an identity (`activeToken`) is the token of the last grant for it
when that grant is an issue (`activeToken_eq_some_iff`); a revocation after the issue leaves none.

What an operation does to the refresh keys follows from `Spares` (`Moves`, `Op.moves`): an issue
for `i` leaves under `refresh:i` the token it minted, with the expiry of the refresh lifetime, a
revocation of `i` leaves nothing there, and every other refresh key is spared. Three invariants
follow over every run from an empty gate:

* `LedgerSound`: every refresh token read live is its identity's active token;
* `LedgerMinted`: every active token was minted for its identity under the current policy, at a
  clock the current one has moved on from;
* `LedgerKept`: besides, while the active token has not expired, the cache keeps it under its
  identity's refresh key with the expiry of its lifetime. This one holds while the cache pushes
  no entry out: a write of a new key into a full cache pushes the least recently used entry out,
  whichever it is, and the cache counts the entries it pushes out (`Cache.evicted`).

`one_active_refresh_token` reads the acceptance of refresh tokens off them: a token is accepted
for `i` only when its trimmed text is read live under `refresh:i`, is `i`'s active token and
has not expired; while no entry was pushed out, every text that trims to `i`'s active token is
accepted as long as that token has not expired and `i` is not blank; any other token of `i`
that still decodes is refused as not logged in, one that does not decode is refused for the
reason decoding gives (an earlier token that has expired, as expired), and a revocation for an
identity without an active token is refused as not logged in.

So a new login does not always turn the earlier token into one refused as not logged in: under
an empty refresh lifetime every token has expired when it is issued, and the earlier token of
two logins is refused as expired (`earlier_login_token_refused_as_expired`, through
`run_login_of_isZero`).
-/

namespace Gatehouse.Gate

open Store Token

-- ============================================================ grants and the active token

/-- What an operation did to the refresh tokens: it issued a token for an identity, or revoked
an identity's token. -/
inductive Grant where
  | issued (identity token : String)
  | revoked (identity : String)
  deriving DecidableEq, Repr

/-- The identity a grant is for. -/
def Grant.identity : Grant → String
  | .issued i _ => i
  | .revoked i => i

/-- An identity's active token after a grant, from the one before: the token of an issue for
it, nothing after a revocation of it, and the one before after a grant for another identity. -/
def Grant.update (i : String) : Grant → Option String → Option String
  | .issued j t, a => if j = i then some t else a
  | .revoked j, a => if j = i then none else a

/-- The active refresh token grants leave an identity: the token of its last issue, unless a
revocation came after. -/
def activeToken (gs : List Grant) (i : String) : Option String :=
  gs.foldl (fun a g => g.update i a) none

section Active

variable {gs : List Grant} {i t : String}

theorem activeToken_append (gs gs' : List Grant) (i : String) :
    activeToken (gs ++ gs') i = gs'.foldl (fun a g => g.update i a) (activeToken gs i) := by
  simp [activeToken, List.foldl_append]

theorem Grant.update_of_ne {g : Grant} (h : g.identity ≠ i) (a : Option String) :
    g.update i a = a := by
  cases g with
  | issued j t => simp [Grant.update, show j ≠ i from h]
  | revoked j => simp [Grant.update, show j ≠ i from h]

/-- A grant for another identity leaves the active token as it was. -/
theorem activeToken_append_of_ne {o : Option Grant} (h : ∀ x ∈ o, x.identity ≠ i) :
    activeToken (gs ++ o.toList) i = activeToken gs i := by
  cases o with
  | none => simp
  | some x => simp [activeToken_append, Grant.update_of_ne (h x rfl)]

theorem activeToken_append_issued (gs : List Grant) (i t : String) :
    activeToken (gs ++ [.issued i t]) i = some t := by
  simp [activeToken_append, Grant.update]

theorem activeToken_append_revoked (gs : List Grant) (i : String) :
    activeToken (gs ++ [.revoked i]) i = none := by
  simp [activeToken_append, Grant.update]

/-- An active token after one more grant was issued by that grant, or was active before a grant
for another identity. -/
theorem activeToken_append_eq_some {o : Option Grant}
    (h : activeToken (gs ++ o.toList) i = some t) :
    o = some (.issued i t) ∨ ((∀ x ∈ o, x.identity ≠ i) ∧ activeToken gs i = some t) := by
  by_cases ho : ∀ x ∈ o, x.identity ≠ i
  · exact .inr ⟨ho, by rwa [activeToken_append_of_ne ho] at h⟩
  · -- the grant is for `i`
    simp only [not_forall, not_not] at ho
    obtain ⟨x, hx, rfl⟩ := ho
    rw [Option.mem_def] at hx
    subst hx
    cases x with
    | issued j t' =>
      rw [Option.toList_some, Grant.identity, activeToken_append_issued] at h
      cases h
      exact .inl rfl
    | revoked j =>
      rw [Option.toList_some, Grant.identity, activeToken_append_revoked] at h
      cases h

/-- The active token of an identity is the token of the last grant for it, when that grant is
an issue. -/
theorem activeToken_eq_some_iff :
    activeToken gs i = some t ↔ (gs.filter (·.identity == i)).getLast? = some (.issued i t) := by
  induction gs using List.reverseRecOn with
  | nil => simp [activeToken]
  | append_singleton gs g ih =>
    by_cases hg : g.identity = i
    · -- the last grant is for `i`, and it decides
      have hf : (gs ++ [g]).filter (·.identity == i) = gs.filter (·.identity == i) ++ [g] := by
        simp [List.filter_append, hg]
      rw [hf, List.getLast?_concat]
      cases g with
      | issued j t' =>
        simp only [Grant.identity] at hg
        subst hg
        rw [activeToken_append_issued]
        constructor <;> intro h <;> cases h <;> rfl
      | revoked j =>
        simp only [Grant.identity] at hg
        subst hg
        rw [activeToken_append_revoked]
        simp
    · have hne : ∀ x ∈ some g, x.identity ≠ i := fun x hx => by
        rw [Option.mem_def, Option.some_inj] at hx
        subst hx
        exact hg
      rw [← Option.toList_some, activeToken_append_of_ne hne, ih]
      simp [List.filter_append, hg]

end Active

-- ============================================================ what an operation grants

/-- The grant of an issue for `i` that answered `r`. -/
def Grant.ofIssue (i : String) : Except Auth.Fault String → Option Grant
  | .ok t => some (.issued i t)
  | .error _ => none

/-- The grant of a revocation for `i` that answered `r`. -/
def Grant.ofRevoke (i : String) : Except Auth.Fault Unit → Option Grant
  | .ok _ => some (.revoked i)
  | .error _ => none

/-- The grant of an access token's logout or withdrawal: the revocation of the token of the
identity it carries, when that revocation succeeds. -/
def revocationBy (token : String) (s : System) : Option Grant :=
  match ((accessIdentity token).run s).1 with
  | .ok i => Grant.ofRevoke i ((revoke i).run s).1
  | .error _ => none

/-- What an operation grants from a state: a login, a reissue or an issue that succeeds issues
the refresh token it hands out, for its identity; a revocation that succeeds, alone or inside a
logout or a withdrawal, revokes its identity's token. -/
def Op.grant : Op → System → Option Grant
  | .login raw password, s =>
    Grant.ofIssue (Identity.normalize raw)
      (((Gate.login raw password).run s).1.map (·.refreshToken))
  | .reissue token, s =>
    match ((refreshIdentity token).run s).1 with
    | .ok i => Grant.ofIssue i (((Gate.reissue token).run s).1.map (·.refreshToken))
    | .error _ => none
  | .issueRefresh identity, s => Grant.ofIssue identity ((Gate.issueRefresh identity).run s).1
  | .revoke identity, s => Grant.ofRevoke identity ((Gate.revoke identity).run s).1
  | .logout token, s => revocationBy token s
  | .withdraw token, s => revocationBy token s
  | _, _ => none

/-- The grants of a run, in order. -/
def System.grants (s : System) : List Op → List Grant
  | [] => []
  | o :: ops => (o.grant s).toList ++ (o.apply s).grants ops

-- ============================================================ issuing and revoking

/-- A write through the gate that succeeds has set its key on the cache at the state's clock. -/
theorem cacheSet_ok {key value : String} {ttl : Span} {s s' : System} {u : Unit}
    (h : (cached (cacheSet key value ttl)).run s = (.ok u, s')) :
    ∃ c, s.cache.set key value ttl s.clock = .ok c ∧ s' = { s with cache := c } := by
  rw [run_cached, cacheSet_eq] at h
  split at h
  · cases h
  · split at h
    · rename_i c hs
      cases h
      exact ⟨c, hs, rfl⟩
    · cases h

theorem run_bind_eq_ok {α β : Type} {x : GateM α} {f : α → GateM β} {s s' : System} {b : β}
    (h : (x >>= f).run s = (.ok b, s')) :
    ∃ a s1, x.run s = (.ok a, s1) ∧ (f a).run s1 = (.ok b, s') := by
  rw [run_bind] at h
  rcases hx : x.run s with ⟨_ | a, s1⟩
  · rw [hx] at h
    cases h
  · rw [hx] at h
    exact ⟨a, s1, rfl, h⟩

/-- What an issue of `t` for `i` from `s` leaves in `s'`: `t` is a refresh token minted for `i`
at the clock and under the policy of `s`, and it is kept under `i`'s refresh key until the
refresh lifetime ends, or not at all when that lifetime is empty. -/
structure Minted (i t : String) (s s' : System) : Prop where
  token : ∃ n, t = s.mintedRefresh i n
  entry : s'.cache.find? (refreshKey i) =
    if (Span.ofSecs s.policy.refreshTtl).isZero then none
    else some ⟨refreshKey i, t, s.clock.instant + (Span.ofSecs s.policy.refreshTtl).nanos⟩

theorem Minted.congr {i t : String} {s s1 s' : System} (h : Minted i t s1 s')
    (hp : s1.policy = s.policy) (hc : s1.clock = s.clock) : Minted i t s s' where
  token := by
    obtain ⟨n, hn⟩ := h.token
    exact ⟨n, hn.trans (System.mintedRefresh_of hp hc i n)⟩
  entry := by
    rw [← hp, ← hc]
    exact h.entry

/-- A refresh token read live under its identity's key after an issue is the token issued. -/
theorem Minted.live_eq {i t v : String} {s s' : System} (h : Minted i t s s')
    (hv : s'.live (refreshKey i) = some v) : v = t := by
  obtain ⟨e, hf, -, rfl⟩ := Cache.get_fst_eq_some.1 hv
  rw [h.entry] at hf
  split at hf
  · cases hf
  · cases hf
    rfl

/-- An issue that succeeds has minted its token and kept it as `Minted` says. -/
theorem minted_issueRefresh {i t : String} {s s' : System}
    (h : (issueRefresh i).run s = (.ok t, s')) :
    Minted i t s s' ∧ s'.clock = s.clock ∧ s'.policy = s.policy := by
  rw [run_issueRefresh] at h
  rcases hr : (cached (cacheSet (refreshKey i) (s.mintedRefresh i s.serial)
      (Span.ofSecs s.policy.refreshTtl))).run { s with serial := s.serial + 1 } with ⟨_ | u, s1⟩
  · rw [hr] at h
    cases h
  · rw [hr] at h
    dsimp only at h
    obtain ⟨ht, rfl⟩ := Prod.mk.inj h
    cases ht
    obtain ⟨c, hs, rfl⟩ := cacheSet_ok hr
    exact ⟨⟨⟨s.serial, rfl⟩, Cache.find?_set_self hs⟩, rfl, rfl⟩

theorem issueRefresh_of_issuePair {i : String} {id : Int} {s s' : System} {iss : Issued}
    (h : (issuePair i id).run s = (.ok iss, s')) :
    (issueRefresh i).run { s with serial := s.serial + 1 } = (.ok iss.refreshToken, s') := by
  rw [run_issuePair] at h
  rcases hr : (issueRefresh i).run { s with serial := s.serial + 1 } with ⟨_ | t, s1⟩
  · rw [hr] at h
    cases h
  · rw [hr] at h
    dsimp only at h
    obtain ⟨ht, rfl⟩ := Prod.mk.inj h
    cases ht
    rfl

/-- A login that succeeds is a new pair for the canonical identity, issued from the state it
found. -/
theorem login_ok {raw password : String} {s s' : System} {iss : Issued}
    (h : (login raw password).run s = (.ok iss, s')) :
    ∃ id, (issuePair (Identity.normalize raw) id).run s = (.ok iss, s') := by
  unfold login at h
  obtain ⟨found, s1, hfind, h⟩ := run_bind_eq_ok h
  -- looking the member up leaves the state as it was
  have hs1 : s1 = s := by
    have := congrArg Prod.snd hfind
    rw [run_rostered, findMember_eq] at this
    split at this <;> exact this.symm
  subst hs1
  cases found with
  | none => cases h
  | some m =>
    dsimp only at h
    split at h
    · obtain ⟨u, s2, hthrow, -⟩ := run_bind_eq_ok h
      cases hthrow
    · exact ⟨m.id, h⟩

/-- A reissue that succeeds read an identity off its token, then issued a new pair for it from
the state its look-up left. -/
theorem reissue_ok {token : String} {s s' : System} {iss : Issued}
    (h : (reissue token).run s = (.ok iss, s')) :
    ∃ i s1 id, (refreshIdentity token).run s = (.ok i, s1) ∧
      (issuePair i id).run { s1 with lookups := s1.lookups + 1 } = (.ok iss, s') := by
  unfold reissue at h
  obtain ⟨i, s1, hri, h⟩ := run_bind_eq_ok h
  obtain ⟨found, s2, hfind, h⟩ := run_bind_eq_ok h
  -- the look-up only counts itself
  have hs2 : s2 = { s1 with lookups := s1.lookups + 1 } := by
    have := congrArg Prod.snd hfind
    rw [run_rostered, findId_eq] at this
    split at this <;> exact this.symm
  subst hs2
  cases found with
  | none => cases h
  | some id => exact ⟨i, s1, id, hri, h⟩

-- ============================================================ what an operation leaves

/-- What an operation leaves under the refresh keys, given its grant: the clock and the policy
stand, the cache pushes out no fewer entries, an issue leaves its token as `Minted` says, a
revocation leaves nothing under its identity's key, and every refresh key the grant is not for
is spared. -/
structure Moves (g : Option Grant) (s s' : System) : Prop where
  clock : s'.clock = s.clock
  policy : s'.policy = s.policy
  evicted : s.cache.evicted ≤ s'.cache.evicted
  spares : ∀ i, (∀ x ∈ g, x.identity ≠ i) → Spares (refreshKey i) s s'
  issued : ∀ i t, g = some (.issued i t) → Minted i t s s'
  revoked : ∀ i, g = some (.revoked i) → s'.live (refreshKey i) = none

section Moves

variable {s s' : System}

/-- An identity other than `i`: its text with one more character. -/
theorem identity_push_ne (i : String) : i.push 'x' ≠ i :=
  fun h => by simpa using congrArg String.length h

/-- An operation that grants nothing and spares every refresh key. -/
theorem Moves.quiet (hs : ∀ i, Spares (refreshKey i) s s') (hp : s'.policy = s.policy) :
    Moves none s s' where
  clock := (hs "").clock
  policy := hp
  evicted := (hs "").evicted
  spares := fun i _ => hs i
  issued := fun _ _ h => by cases h
  revoked := fun _ h => by cases h

theorem Moves.issue {i t : String} (hm : Minted i t s s') (hc : s'.clock = s.clock)
    (hp : s'.policy = s.policy) (hs : ∀ j, j ≠ i → Spares (refreshKey j) s s') :
    Moves (some (.issued i t)) s s' where
  clock := hc
  policy := hp
  -- the count is the cache's, so any key the issue spares shows it
  evicted := (hs _ (identity_push_ne i)).evicted
  spares := fun j hj => hs j fun h => hj (.issued i t) rfl h.symm
  issued := fun _ _ h => by
    cases h
    exact hm
  revoked := fun _ h => by cases h

theorem Moves.revoke {i : String} (hl : s'.live (refreshKey i) = none) (hc : s'.clock = s.clock)
    (hp : s'.policy = s.policy) (hs : ∀ j, j ≠ i → Spares (refreshKey j) s s') :
    Moves (some (.revoked i)) s s' where
  clock := hc
  policy := hp
  evicted := (hs _ (identity_push_ne i)).evicted
  spares := fun j hj => hs j fun h => hj (.revoked i) rfl h.symm
  issued := fun _ _ h => by cases h
  revoked := fun _ h => by
    cases h
    exact hl

theorem refreshKey_ne_of_ne {i j : String} (h : j ≠ i) : refreshKey j ≠ refreshKey i :=
  fun he => h (refreshKey_injective he)

theorem moves_issueRefresh (i : String) (s : System) :
    Moves ((Op.issueRefresh i).grant s) s ((Op.issueRefresh i).apply s) := by
  have hp := ((Op.issueRefresh i).frame_apply s).policy
  simp only [Op.grant, Op.apply] at hp ⊢
  rcases h : (issueRefresh i).run s with ⟨_ | t, s'⟩
  all_goals
    rw [h] at hp
    dsimp only at hp ⊢
  · rename_i e
    exact Moves.quiet (fun j => sparesOnRefusal_issueRefresh _ i s e s' h) hp
  · obtain ⟨hm, hc, -⟩ := minted_issueRefresh h
    refine Moves.issue hm hc hp fun j hj => ?_
    have := spares_issueRefresh (refreshKey_ne_of_ne hj) s
    rwa [h] at this

theorem moves_login (raw password : String) (s : System) :
    Moves ((Op.login raw password).grant s) s ((Op.login raw password).apply s) := by
  have hp := ((Op.login raw password).frame_apply s).policy
  simp only [Op.grant, Op.apply] at hp ⊢
  rcases h : (login raw password).run s with ⟨_ | iss, s'⟩
  all_goals
    rw [h] at hp
    dsimp only at hp ⊢
  · rename_i e
    exact Moves.quiet (fun j => sparesOnRefusal_login _ raw password s e s' h) hp
  · obtain ⟨id, hpair⟩ := login_ok h
    obtain ⟨hm, hc, -⟩ := minted_issueRefresh (issueRefresh_of_issuePair hpair)
    refine Moves.issue (hm.congr rfl rfl) hc hp fun j hj => ?_
    have := spares_login (refreshKey_ne_of_ne hj) password s
    rwa [h] at this

theorem moves_reissue (token : String) (s : System) :
    Moves ((Op.reissue token).grant s) s ((Op.reissue token).apply s) := by
  have hp := ((Op.reissue token).frame_apply s).policy
  simp only [Op.grant, Op.apply] at hp ⊢
  rcases hr : (reissue token).run s with ⟨_ | iss, s'⟩
  all_goals
    rw [hr] at hp
    dsimp only at hp ⊢
  · -- refused: whatever identity the token carried, nothing is granted
    rename_i e
    have hg : (match ((refreshIdentity token).run s).1 with
        | .ok i => Grant.ofIssue i ((Except.error e : Except Auth.Fault Issued).map (·.refreshToken))
        | .error _ => none) = none := by
      split <;> rfl
    rw [hg]
    exact Moves.quiet (fun j => sparesOnRefusal_reissue _ token s e s' hr) hp
  · obtain ⟨i, s1, id, hri, hpair⟩ := reissue_ok hr
    rw [hri]
    -- reading the token moved neither the clock nor the policy
    have hk := keeps_refreshIdentity token s
    rw [hri] at hk
    obtain ⟨hm, hc, -⟩ := minted_issueRefresh (issueRefresh_of_issuePair hpair)
    refine Moves.issue (hm.congr hk.policy hk.clock) (hc.trans hk.clock) hp fun j hj => ?_
    have := spares_reissue token s fun i' hi' => by
      rw [hri] at hi'
      cases hi'
      exact refreshKey_ne_of_ne hj
    rwa [hr] at this

theorem moves_revoke_of {i : String} {r : Except Auth.Fault Unit} {s' : System}
    (h : (revoke i).run s = (r, s')) (hp : s'.policy = s.policy) :
    Moves (Grant.ofRevoke i r) s s' := by
  cases r with
  | error e =>
    exact Moves.quiet (fun j => sparesOnRefusal_revoke _ i s e s' h) hp
  | ok u =>
    obtain ⟨-, s0, hk, rfl⟩ := revoke_ok h
    refine Moves.revoke ?_ hk.clock hp fun j hj => ?_
    · rw [live_erase, if_pos rfl]
    · have := spares_revoke (refreshKey_ne_of_ne hj) s
      rwa [h] at this

theorem moves_revoke (i : String) (s : System) :
    Moves ((Op.revoke i).grant s) s ((Op.revoke i).apply s) := by
  have hp := ((Op.revoke i).frame_apply s).policy
  simp only [Op.grant, Op.apply] at hp ⊢
  exact moves_revoke_of rfl hp

theorem moves_logout (token : String) (s : System) :
    Moves ((Op.logout token).grant s) s ((Op.logout token).apply s) := by
  have hp := ((Op.logout token).frame_apply s).policy
  simp only [Op.grant, Op.apply, revocationBy] at hp ⊢
  -- a logout is the revocation of its access token's identity, from the state it found
  have hlog : (logout token).run s = match ((accessIdentity token).run s).1 with
      | .ok i => (revoke i).run s
      | .error e => (.error e, s) := by
    unfold logout
    rw [run_bind, run_accessIdentity]
    cases ((accessIdentity token).run s).1 <;> rfl
  rw [hlog] at hp ⊢
  cases ha : ((accessIdentity token).run s).1 with
  | error e => exact Moves.quiet (fun j => Spares.refl _ s) rfl
  | ok i =>
    rw [ha] at hp
    dsimp only at hp ⊢
    have h : (revoke i).run s = (((revoke i).run s).1, ((revoke i).run s).2) := rfl
    exact moves_revoke_of h hp

theorem moves_withdraw (token : String) (s : System) :
    Moves ((Op.withdraw token).grant s) s ((Op.withdraw token).apply s) := by
  have hp := ((Op.withdraw token).frame_apply s).policy
  simp only [Op.grant, Op.apply, revocationBy] at hp ⊢
  cases ha : ((accessIdentity token).run s).1 with
  | error e =>
    -- a bad access token: nothing happens
    rw [run_withdraw_of_error ha]
    exact Moves.quiet (fun j => Spares.refl _ s) rfl
  | ok i =>
    dsimp only
    have hw := run_withdraw_of ha
    rcases hr : (revoke i).run s with ⟨_ | u, s1⟩
    · rename_i e
      rw [hw, hr] at hp ⊢
      exact Moves.quiet (fun j => sparesOnRefusal_revoke _ i s e s1 hr) hp
    · obtain ⟨-, s0, hk, hs1⟩ := revoke_ok hr
      have hnone : s1.live (refreshKey i) = none := by
        rw [hs1, live_erase, if_pos rfl]
      -- after the revocation, the rest of a withdrawal writes only the roster and a session key
      have hrest : Spares (refreshKey i) s1 ((rostered (deleteMember i) >>= fun _ =>
          tryCatch (forget i) fun _ => pure ()).run s1).2 := by
        refine ((spares_deleteMember _ i).bind fun _ => ?_) s1
        intro s2
        rw [run_tryCatch_pure]
        have h2 := spares_forget (refreshKey_ne_sessionKey i i) s2
        split <;> rename_i hf <;> rw [hf] at h2 <;> exact h2
      have hsp : ∀ j, j ≠ i → Spares (refreshKey j) s ((withdraw token).run s).2 :=
        fun j hj => spares_withdraw token s fun i' hi' => by
          rw [ha] at hi'
          cases hi'
          exact ⟨refreshKey_ne_of_ne hj, refreshKey_ne_sessionKey j i⟩
      rw [hw, hr] at hp hsp ⊢
      refine Moves.revoke ?_ (hrest.clock.trans (hs1 ▸ hk.clock)) hp hsp
      -- nothing is read live under the revoked key after the revocation
      cases hv : ((rostered (deleteMember i) >>= fun _ =>
          tryCatch (forget i) fun _ => pure ()).run s1).2.live (refreshKey i) with
      | none => rfl
      | some v =>
        have := hrest.live v hv
        rw [hnone] at this
        cases this

/-- Every operation but time passing moves the refresh keys as its grant says. -/
theorem Op.moves (o : Op) (s : System) (hadv : ∀ ms, o ≠ .advance ms) :
    Moves (o.grant s) s (o.apply s) := by
  have hp := (o.frame_apply s).policy
  cases o with
  | register raw password =>
    exact Moves.quiet (fun j => spares_register raw password s) hp
  | login raw password => exact moves_login raw password s
  | logout token => exact moves_logout token s
  | reissue token => exact moves_reissue token s
  | withdraw token => exact moves_withdraw token s
  | resolve identity =>
    exact Moves.quiet (fun j => spares_resolve (refreshKey_ne_sessionKey j identity) s) hp
  | forget identity =>
    exact Moves.quiet (fun j => spares_forget (refreshKey_ne_sessionKey j identity) s) hp
  | authenticate token =>
    exact Moves.quiet (fun j => spares_authenticate (refreshKey_ne_sessionKey j) token s) hp
  | issueRefresh identity => exact moves_issueRefresh identity s
  | revoke identity => exact moves_revoke identity s
  | advance ms => exact absurd rfl (hadv ms)

/-- Every operation lets time pass and grants nothing, or moves the refresh keys as its grant
says. -/
theorem Op.passes_or_moves (o : Op) (s : System) :
    (∃ ms, o.grant s = none ∧ o.apply s = { s with clock := s.clock.advance ms }) ∨
      Moves (o.grant s) s (o.apply s) := by
  by_cases hadv : ∃ ms, o = .advance ms
  · obtain ⟨ms, rfl⟩ := hadv
    exact .inl ⟨ms, rfl, rfl⟩
  · exact .inr (o.moves s fun ms he => hadv ⟨ms, he⟩)

/-- No operation takes back an entry the cache pushed out. -/
theorem Op.evicted_le (o : Op) (s : System) : s.cache.evicted ≤ (o.apply s).cache.evicted := by
  rcases o.passes_or_moves s with ⟨ms, -, ha⟩ | hm
  · rw [ha]
  · exact hm.evicted

theorem System.evicted_le_after (s : System) (ops : List Op) :
    s.cache.evicted ≤ (s.after ops).cache.evicted := by
  induction ops generalizing s with
  | nil => exact Nat.le_refl _
  | cons o ops ih =>
    rw [System.after_cons]
    exact (o.evicted_le s).trans (ih (o.apply s))

end Moves

-- ============================================================ the clocks of a token and its entry

theorem unixSecs_le_advance (c : Clock) (ms : Nat) : c.unixSecs ≤ (c.advance ms).unixSecs := by
  simp only [Clock.unixSecs, Clock.advance]
  omega

/-- A token that has not expired has an entry that has not expired either: the token's expiry
counts the lifetime's whole seconds from the wall clock's second at its issue, the entry's counts
the lifetime in nanoseconds from the steady instant, and the two clocks move on together. -/
theorem instant_lt_of_unexpired (c0 : Clock) (ms ttl : Nat)
    (h : (c0.advance ms).unixSecs < expiryOf c0.unixSecs ttl) :
    (c0.advance ms).instant < c0.instant + (Span.ofSecs ttl).nanos := by
  rw [Clock.instant_advance]
  simp only [Clock.unixSecs, Clock.advance, expiryOf, i64Max] at h
  simp only [Span.ofSecs, Span.perSecond]
  omega

/-- A token issued for an empty lifetime has expired when it is issued. -/
theorem expiryOf_zero_le (now : Int) : expiryOf now 0 ≤ now := by
  unfold expiryOf i64Max
  omega

theorem eq_zero_of_isZero_ofSecs {n : Nat} (h : (Span.ofSecs n).isZero = true) : n = 0 := by
  simpa [Span.isZero, Span.ofSecs, Span.perSecond] using h

-- ============================================================ the ledger along a run

/-- Every refresh token read live is its identity's active token. -/
def LedgerSound (s : System) (gs : List Grant) : Prop :=
  ∀ i v, s.live (refreshKey i) = some v → activeToken gs i = some v

/-- Where an active token `t` of `i` comes from, seen from `s`: the gate minted it for `i` from
a state `s0` under the policy of `s`, and the clock has moved on from that of `s0` since. -/
structure Standing (s s0 : System) (i t : String) : Prop where
  policy : s0.policy = s.policy
  clock : ∃ ms, s.clock = s0.clock.advance ms
  token : ∃ n, t = s0.mintedRefresh i n

/-- While a token minted from `s0` has not expired, `s` keeps it under its identity's refresh
key, with the expiry its lifetime gives. -/
def Stored (s s0 : System) (i t : String) : Prop :=
  s.clock.unixSecs < expiryOf s0.clock.unixSecs s.policy.refreshTtl →
    s.cache.find? (refreshKey i) =
      some ⟨refreshKey i, t, s0.clock.instant + (Span.ofSecs s.policy.refreshTtl).nanos⟩

/-- Every active token stands minted for its identity. -/
def LedgerMinted (s : System) (gs : List Grant) : Prop :=
  ∀ i t, activeToken gs i = some t → ∃ s0, Standing s s0 i t

/-- Every active token stands minted for its identity and is stored while it has not expired. -/
def LedgerKept (s : System) (gs : List Grant) : Prop :=
  ∀ i t, activeToken gs i = some t → ∃ s0, Standing s s0 i t ∧ Stored s s0 i t

section Invariants

variable {s s' s0 : System} {gs : List Grant} {g : Option Grant} {i t : String}

theorem Standing.moves (h : Standing s s0 i t) (hm : Moves g s s') : Standing s' s0 i t where
  policy := h.policy.trans hm.policy.symm
  clock := by
    obtain ⟨ms, hc⟩ := h.clock
    exact ⟨ms, hm.clock.trans hc⟩
  token := h.token

theorem Standing.advance (h : Standing s s0 i t) (ms : Nat) :
    Standing { s with clock := s.clock.advance ms } s0 i t where
  policy := h.policy
  clock := by
    obtain ⟨a, hc⟩ := h.clock
    exact ⟨a + ms, by rw [← Clock.advance_advance, ← hc]⟩
  token := h.token

/-- A fresh issue stands minted from the state it was made on. -/
theorem Minted.standing (hm : Minted i t s s') (hmv : Moves g s s') : Standing s' s i t where
  policy := hmv.policy.symm
  clock := ⟨0, by rw [hmv.clock, Clock.advance_zero]⟩
  token := hm.token

/-- A fresh issue is stored while it has not expired: an empty lifetime has expired already. -/
theorem Minted.stored (hm : Minted i t s s') (hmv : Moves g s s') : Stored s' s i t := by
  intro hlive
  rw [hmv.clock, hmv.policy] at hlive
  rw [hmv.policy, hm.entry, if_neg]
  intro hz
  have := expiryOf_zero_le s.clock.unixSecs
  rw [eq_zero_of_isZero_ofSecs hz] at hlive
  omega

/-- A stored token stays stored through an operation whose grant is for another identity and
that pushes no entry out: its entry has not expired, so it is spared. -/
theorem Stored.moves (h : Stored s s0 i t) (hst : Standing s s0 i t) (hm : Moves g s s')
    (hg : ∀ x ∈ g, x.identity ≠ i) (hev : s'.cache.evicted = s.cache.evicted) :
    Stored s' s0 i t := by
  intro hlive
  rw [hm.clock, hm.policy] at hlive
  rw [hm.policy]
  obtain ⟨ms, hc⟩ := hst.clock
  have hlt : s.clock.instant < s0.clock.instant + (Span.ofSecs s.policy.refreshTtl).nanos := by
    rw [hc] at hlive ⊢
    exact instant_lt_of_unexpired s0.clock ms _ hlive
  exact (hm.spares i hg).kept hev _ (h hlive) hlt

theorem Stored.advance (h : Stored s s0 i t) (ms : Nat) :
    Stored { s with clock := s.clock.advance ms } s0 i t :=
  fun hlive => h (lt_of_le_of_lt (unixSecs_le_advance s.clock ms) hlive)

theorem LedgerSound.moves (h : LedgerSound s gs) (hm : Moves g s s') :
    LedgerSound s' (gs ++ g.toList) := by
  intro i v hv
  by_cases hg : ∀ x ∈ g, x.identity ≠ i
  · rw [activeToken_append_of_ne hg]
    exact h i v ((hm.spares i hg).live v hv)
  · -- the grant is for `i`: an issue leaves its own token, a revocation nothing
    simp only [not_forall, not_not] at hg
    obtain ⟨x, hx, hxi⟩ := hg
    rw [Option.mem_def] at hx
    subst hx
    cases x with
    | issued j t =>
      simp only [Grant.identity] at hxi
      subst hxi
      rw [Option.toList_some, activeToken_append_issued, (hm.issued _ t rfl).live_eq hv]
    | revoked j =>
      simp only [Grant.identity] at hxi
      subst hxi
      rw [hm.revoked _ rfl] at hv
      cases hv

/-- Time passing reads nothing new: a value read later was read before. -/
theorem LedgerSound.advance (h : LedgerSound s gs) (ms : Nat) :
    LedgerSound { s with clock := s.clock.advance ms } gs :=
  fun i v hv => h i v (Cache.get_fst_of_le (Clock.instant_le_advance s.clock ms) hv)

theorem LedgerSound.step (h : LedgerSound s gs) (o : Op) :
    LedgerSound (o.apply s) (gs ++ (o.grant s).toList) := by
  rcases o.passes_or_moves s with ⟨ms, hg, ha⟩ | hm
  · rw [hg, ha, Option.toList_none, List.append_nil]
    exact h.advance ms
  · exact h.moves hm

theorem LedgerMinted.moves (h : LedgerMinted s gs) (hm : Moves g s s') :
    LedgerMinted s' (gs ++ g.toList) := by
  intro i t ht
  rcases activeToken_append_eq_some ht with hg | ⟨-, ht⟩
  · exact ⟨s, (hm.issued i t hg).standing hm⟩
  · obtain ⟨s0, hst⟩ := h i t ht
    exact ⟨s0, hst.moves hm⟩

theorem LedgerMinted.step (h : LedgerMinted s gs) (o : Op) :
    LedgerMinted (o.apply s) (gs ++ (o.grant s).toList) := by
  rcases o.passes_or_moves s with ⟨ms, hg, ha⟩ | hm
  · rw [hg, ha, Option.toList_none, List.append_nil]
    intro i t ht
    obtain ⟨s0, hst⟩ := h i t ht
    exact ⟨s0, hst.advance ms⟩
  · exact h.moves hm

/-- An operation that moves and pushes no entry out keeps every active token stored while it
lives: a fresh issue is stored, and an older token is spared. -/
theorem LedgerKept.moves (h : LedgerKept s gs) (hm : Moves g s s')
    (hev : s'.cache.evicted = s.cache.evicted) : LedgerKept s' (gs ++ g.toList) := by
  intro i t ht
  rcases activeToken_append_eq_some ht with hg | ⟨hg, ht⟩
  · exact ⟨s, (hm.issued i t hg).standing hm, (hm.issued i t hg).stored hm⟩
  · obtain ⟨s0, hst, hsto⟩ := h i t ht
    exact ⟨s0, hst.moves hm, hsto.moves hst hm hg hev⟩

theorem LedgerKept.step (h : LedgerKept s gs) (o : Op)
    (hev : (o.apply s).cache.evicted = s.cache.evicted) :
    LedgerKept (o.apply s) (gs ++ (o.grant s).toList) := by
  rcases o.passes_or_moves s with ⟨ms, hg, ha⟩ | hm
  · rw [hg, ha, Option.toList_none, List.append_nil]
    intro i t ht
    obtain ⟨s0, hst, hsto⟩ := h i t ht
    exact ⟨s0, hst.advance ms, hsto.advance ms⟩
  · exact h.moves hm hev

end Invariants

section Runs

variable {s : System} {gs : List Grant}

theorem System.grants_cons (s : System) (o : Op) (ops : List Op) :
    s.grants (o :: ops) = (o.grant s).toList ++ (o.apply s).grants ops := rfl

/-- What every operation keeps of a state and the grants so far, a whole run keeps. -/
theorem System.ledger_induction {P : System → List Grant → Prop}
    (hstep : ∀ (o : Op) s gs, P s gs → P (o.apply s) (gs ++ (o.grant s).toList))
    (ops : List Op) (h : P s gs) : P (s.after ops) (gs ++ s.grants ops) := by
  induction ops generalizing s gs with
  | nil => simpa [System.grants] using h
  | cons o ops ih =>
    rw [System.after_cons, System.grants_cons, ← List.append_assoc]
    exact ih (hstep o s gs h)

theorem LedgerSound.after (h : LedgerSound s gs) (ops : List Op) :
    LedgerSound (s.after ops) (gs ++ s.grants ops) :=
  System.ledger_induction (fun o _ _ h => h.step o) ops h

theorem LedgerMinted.after (h : LedgerMinted s gs) (ops : List Op) :
    LedgerMinted (s.after ops) (gs ++ s.grants ops) :=
  System.ledger_induction (fun o _ _ h => h.step o) ops h

/-- A run that pushes no entry out of the cache keeps every active token stored while it
lives. -/
theorem LedgerKept.after (h : LedgerKept s gs) (ops : List Op)
    (hev : (s.after ops).cache.evicted = s.cache.evicted) :
    LedgerKept (s.after ops) (gs ++ s.grants ops) := by
  induction ops generalizing s gs with
  | nil => simpa [System.grants] using h
  | cons o ops ih =>
    rw [System.after_cons] at hev ⊢
    rw [System.grants_cons, ← List.append_assoc]
    -- the count never goes down, so a run that ends with the count it began with pushed
    -- nothing out at its first operation nor after it
    have h1 := o.evicted_le s
    have h2 := (o.apply s).evicted_le_after ops
    exact ih (h.step o (by omega)) (by omega)

theorem ledgerSound_init (policy : Policy) (capacity : Nat) (clock : Clock) :
    LedgerSound (System.init policy capacity clock) [] := by
  intro i v hv
  simp [System.live, System.init, Cache.empty, Cache.get, Cache.find?] at hv

theorem ledgerMinted_init (policy : Policy) (capacity : Nat) (clock : Clock) :
    LedgerMinted (System.init policy capacity clock) [] := by
  intro i t ht
  simp [activeToken] at ht

theorem ledgerKept_init (policy : Policy) (capacity : Nat) (clock : Clock) :
    LedgerKept (System.init policy capacity clock) [] := by
  intro i t ht
  simp [activeToken] at ht

end Runs

-- ============================================================ accepting refresh tokens

/-- Decoding trims first: texts with the same trim decode alike. -/
theorem decode_of_trim_eq {t t' : String} (h : Text.trim t = Text.trim t')
    (secret : List UInt8) (now : Int) : decode t secret now = decode t' secret now := by
  unfold decode
  rw [h]

theorem refreshIdentity_of_decode_error {t : String} {s : System} {e : Token.Fault}
    (h : decode t s.policy.refreshSecret s.clock.unixSecs = .error e) :
    ((refreshIdentity t).run s).1 = .error (Auth.Fault.ofRefresh e) := by
  unfold refreshIdentity
  rw [run_bind, run_decodeRefresh, h]
  rfl

theorem refreshIdentity_of_identity_none {t : String} {s : System} {c : Claims}
    (hdec : decode t s.policy.refreshSecret s.clock.unixSecs = .ok c) (hid : c.identity? = none) :
    ((refreshIdentity t).run s).1 = .error .refreshTokenEmailMissing := by
  unfold refreshIdentity
  rw [run_bind, run_decodeRefresh, hdec]
  dsimp only [Except.mapError]
  rw [hid]
  rfl

section Accepting

variable {s : System} {gs : List Grant}

/-- A refresh token is accepted for `i` only when its trimmed text is read live under `i`'s
refresh key, that text is `i`'s active token, and the token decodes to claims for `i` that have
not expired. -/
theorem LedgerSound.accepted (h : LedgerSound s gs) (hc : s.cacheOutages = []) {t i : String}
    (ht : ((refreshIdentity t).run s).1 = .ok i) :
    s.live (refreshKey i) = some (Text.trim t) ∧ activeToken gs i = some (Text.trim t) ∧
      ∃ c, decode t s.policy.refreshSecret s.clock.unixSecs = .ok c ∧
        s.clock.unixSecs < c.exp.toInt ∧ c.identity? = some i := by
  cases hdec : decode t s.policy.refreshSecret s.clock.unixSecs with
  | error e =>
    rw [refreshIdentity_of_decode_error hdec] at ht
    cases ht
  | ok c =>
    cases hid : c.identity? with
    | none =>
      rw [refreshIdentity_of_identity_none hdec hid] at ht
      cases ht
    | some i' =>
      -- with no outage, the answer is the comparison with the token read live
      rw [run_refreshIdentity_of_decode hdec hid, hc, if_neg (by simp [hit])] at ht
      dsimp only at ht
      split at ht
      · rename_i hlive
        cases ht
        obtain ⟨-, -, -, -, -, -, -, -, -, -, -, -, hexp⟩ := decode_eq_ok hdec
        exact ⟨hlive, h _ _ hlive, c, rfl, hexp, hid⟩
      · cases ht

/-- Any other token that still decodes to `i` is refused as not logged in. -/
theorem LedgerSound.refused (h : LedgerSound s gs) (hc : s.cacheOutages = []) {t i : String}
    {c : Claims} (hdec : decode t s.policy.refreshSecret s.clock.unixSecs = .ok c)
    (hid : c.identity? = some i) (hne : activeToken gs i ≠ some (Text.trim t)) :
    ((refreshIdentity t).run s).1 = .error .userNotLoggedIn := by
  rw [run_refreshIdentity_of_decode hdec hid, hc, if_neg (by simp [hit])]
  dsimp only
  rw [if_neg fun hlive => hne (h _ _ hlive)]

/-- A revocation for an identity without an active token is refused as not logged in. -/
theorem LedgerSound.revoke_refused (h : LedgerSound s gs) (hc : s.cacheOutages = [])
    {i : String} (hi : activeToken gs i = none) :
    ((revoke i).run s).1 = .error .userNotLoggedIn := by
  have hnone : s.live (refreshKey i) = none := by
    cases hv : s.live (refreshKey i) with
    | none => rfl
    | some v =>
      rw [h i v hv] at hi
      cases hi
  rw [run_revoke, hc, if_neg (by simp [hit]), hnone]
  rfl

/-- Every active token is a token for its identity: under the current policy it decodes to the
claims it was minted with until they expire, and as expired from then on. -/
theorem LedgerMinted.decode (h : LedgerMinted s gs) {i t : String} (ht : activeToken gs i = some t) :
    ∃ c : Claims, c.sub = some i ∧ Token.decode t s.policy.refreshSecret s.clock.unixSecs =
      if c.exp.toInt ≤ s.clock.unixSecs then .error .expired else .ok c := by
  obtain ⟨s0, hp, -, n, rfl⟩ := h i t ht
  refine ⟨issuedClaims (some i) s0.clock.unixSecs (Span.ofSecs s0.policy.refreshTtl)
    (Uuid.hyphenated (Uuid.ofSerial n)), rfl, ?_⟩
  rw [System.mintedRefresh_eq, ← hp, decode_encode]

/-- While the active token of an identity that is not blank has not expired, every text that
trims to it is accepted. -/
theorem LedgerKept.accepted (h : LedgerKept s gs) (hc : s.cacheOutages = []) {i T : String}
    (hT : activeToken gs i = some T) (hi : (Text.trim i).isEmpty = false)
    (hexp : decode T s.policy.refreshSecret s.clock.unixSecs ≠ .error .expired)
    {t : String} (ht : Text.trim t = T) : ((refreshIdentity t).run s).1 = .ok i := by
  obtain ⟨s0, ⟨hp, ⟨ms, hclock⟩, n, hn⟩, hstored⟩ := h i T hT
  have hTc : T = encode (issuedClaims (some i) s0.clock.unixSecs (Span.ofSecs s.policy.refreshTtl)
      (Uuid.hyphenated (Uuid.ofSerial n))) s.policy.refreshSecret := by
    rw [hn, System.mintedRefresh_eq, hp]
  have hlo : -9223372036854775808 ≤ s0.clock.unixSecs := by
    have := unixSecs_nonneg s0.clock
    omega
  have hdecT := decode_issuedClaims (some i) (Span.ofSecs s.policy.refreshTtl)
    (Uuid.hyphenated (Uuid.ofSerial n)) hlo s.policy.refreshSecret s.clock.unixSecs
  rw [secs_ofSecs] at hdecT
  -- the token has not expired, so it decodes to its claims
  have hunexp : s.clock.unixSecs < expiryOf s0.clock.unixSecs s.policy.refreshTtl := by
    rw [hTc, hdecT] at hexp
    exact Int.not_le.1 fun hle => hexp (if_pos hle)
  have hdec : decode t s.policy.refreshSecret s.clock.unixSecs =
      .ok (issuedClaims (some i) s0.clock.unixSecs (Span.ofSecs s.policy.refreshTtl)
        (Uuid.hyphenated (Uuid.ofSerial n))) := by
    have htrim : Text.trim T = T := by
      rw [hTc]
      exact Text.trim_eq_self (not_isBlank_encode _ _)
    rw [decode_of_trim_eq (ht.trans htrim.symm), hTc, hdecT, if_neg (Int.not_le.2 hunexp)]
  have hid : (issuedClaims (some i) s0.clock.unixSecs (Span.ofSecs s.policy.refreshTtl)
      (Uuid.hyphenated (Uuid.ofSerial n))).identity? = some i := by
    rw [Text.isEmpty_trim] at hi
    simp [issuedClaims, Claims.identity?, hi]
  -- and it is read live: its entry has not expired either
  have hlive : s.live (refreshKey i) = some (Text.trim t) := by
    have hlt : s.clock.instant < s0.clock.instant + (Span.ofSecs s.policy.refreshTtl).nanos := by
      rw [hclock] at hunexp ⊢
      exact instant_lt_of_unexpired s0.clock ms _ hunexp
    rw [ht]
    exact Cache.get_fst_eq_some.2 ⟨_, hstored hunexp, hlt, rfl⟩
  rw [run_refreshIdentity_of_decode hdec hid, hc, if_neg (by simp [hit])]
  dsimp only
  rw [if_pos hlive]

end Accepting

-- ============================================================ one active token

/-- One active refresh token per identity. Over every run of the session system from an empty
gate (logins, reissues, logouts, withdrawals, issues and revocations of refresh tokens for any
identities, any other operation, and time passing), at the state the run leaves:

* a refresh token is accepted for `i` only when its trimmed text is the value read live under
  `refresh:i`, that value is `i`'s active token (the token of the last grant for `i`, which is
  an issue, so that no revocation came after it), and the token decodes to claims for `i`
  whose expiry is later than now;
* an active token is a token for its identity: it decodes to the claims it was minted with
  until they expire, and as expired from then on;
* while the cache has pushed no entry out to make room (its count of such entries is still
  zero), every text that trims to `i`'s active token is accepted for `i` as long as that token
  has not expired and `i` is not blank;
* any other token of `i` that still decodes is refused as not logged in, and a token that
  does not decode is refused for the reason decoding gives, so that an earlier token that has
  expired is refused as expired;
* a revocation for an identity without an active token, one just revoked for instance, is
  refused as not logged in. -/
theorem one_active_refresh_token (policy : Policy) (capacity : Nat) (clock : Clock)
    (ops : List Op) :
    let s0 := System.init policy capacity clock
    let s := s0.after ops
    let gs := s0.grants ops
    (∀ t i, ((refreshIdentity t).run s).1 = .ok i →
      s.live (refreshKey i) = some (Text.trim t) ∧ activeToken gs i = some (Text.trim t) ∧
      ∃ c, decode t policy.refreshSecret s.clock.unixSecs = .ok c ∧
        s.clock.unixSecs < c.exp.toInt ∧ c.identity? = some i) ∧
    (∀ i t, activeToken gs i = some t ↔
      (gs.filter (·.identity == i)).getLast? = some (.issued i t)) ∧
    (∀ i t, activeToken gs i = some t → ∃ c : Claims, c.sub = some i ∧
      decode t policy.refreshSecret s.clock.unixSecs =
        if c.exp.toInt ≤ s.clock.unixSecs then .error .expired else .ok c) ∧
    (s.cache.evicted = 0 →
      ∀ i T, activeToken gs i = some T → (Text.trim i).isEmpty = false →
        decode T policy.refreshSecret s.clock.unixSecs ≠ .error .expired →
        ∀ t, Text.trim t = T → ((refreshIdentity t).run s).1 = .ok i) ∧
    (∀ t i (c : Claims), decode t policy.refreshSecret s.clock.unixSecs = .ok c →
      c.identity? = some i → activeToken gs i ≠ some (Text.trim t) →
      ((refreshIdentity t).run s).1 = .error .userNotLoggedIn) ∧
    (∀ t e, decode t policy.refreshSecret s.clock.unixSecs = .error e →
      ((refreshIdentity t).run s).1 = .error (Auth.Fault.ofRefresh e)) ∧
    (∀ i, activeToken gs i = none → ((revoke i).run s).1 = .error .userNotLoggedIn) := by
  intro s0 s gs
  have hframe := frame_after ops s0
  have hp : s.policy = policy := hframe.policy
  have hc : s.cacheOutages = [] := hframe.cacheOutages
  have hsound : LedgerSound s gs := by
    simpa using (ledgerSound_init policy capacity clock).after ops
  have hminted : LedgerMinted s gs := by
    simpa using (ledgerMinted_init policy capacity clock).after ops
  refine ⟨fun t i ht => ?_, fun i t => activeToken_eq_some_iff, fun i t ht => ?_,
    fun hev i T hT hi hexp t htr => ?_, fun t i c hdec hid hne => ?_, fun t e hdec => ?_,
    fun i hi => hsound.revoke_refused hc hi⟩
  · rw [← hp]
    exact hsound.accepted hc ht
  · rw [← hp]
    exact hminted.decode ht
  · have hkept : LedgerKept s gs := by
      simpa using (ledgerKept_init policy capacity clock).after ops hev
    rw [← hp] at hexp
    exact hkept.accepted hc hT hi hexp htr
  · rw [← hp] at hdec
    exact hsound.refused hc hdec hid hne
  · rw [← hp] at hdec
    exact refreshIdentity_of_decode_error hdec

/-- An issue into a cache with room pushes no entry out. -/
theorem evicted_issueRefresh_of_room (identity : String) {s : System}
    (hroom : s.cache.size < s.cache.capacity) :
    ((issueRefresh identity).run s).2.cache.evicted = s.cache.evicted := by
  rw [run_issueRefresh]
  rcases hr : (cached (cacheSet (refreshKey identity) (s.mintedRefresh identity s.serial)
      (Span.ofSecs s.policy.refreshTtl))).run { s with serial := s.serial + 1 } with ⟨r, s'⟩
  -- the save leaves the state it found, or one with the cache it wrote
  have hs' : s'.cache.evicted = s.cache.evicted := by
    rcases state_cacheSet hr with rfl | ⟨c, hs, rfl⟩
    · rfl
    · exact Cache.evicted_set_of_room hs hroom
  cases r <;> exact hs'

/-- A refresh token issued for `a@x.com` on an empty gate is `a@x.com`'s active token, and is
accepted. -/
theorem issued_refresh_token_accepted :
    let s0 := System.init ⟨[], [], 3600, 1209600, 1800⟩ 1024 Clock.start
    let ops := [Op.issueRefresh "a@x.com"]
    (s0.after ops).cache.evicted = 0 ∧
      activeToken (s0.grants ops) "a@x.com" = some (s0.mintedRefresh "a@x.com" 0) ∧
      ((refreshIdentity (s0.mintedRefresh "a@x.com" 0)).run (s0.after ops)).1 = .ok "a@x.com" := by
  intro s0 ops
  obtain ⟨c, hrun, -⟩ := @issueRefresh_saves "a@x.com" s0 rfl (by decide)
  have hactive : activeToken (s0.grants ops) "a@x.com" = some (s0.mintedRefresh "a@x.com" 0) := by
    show activeToken ((Grant.ofIssue "a@x.com" ((issueRefresh "a@x.com").run s0).1).toList ++ [])
      "a@x.com" = _
    rw [hrun]
    exact activeToken_append_issued [] _ _
  have hclock : (s0.after ops).clock = s0.clock := by
    show ((issueRefresh "a@x.com").run s0).2.clock = _
    rw [hrun]
  have hlo : (-9223372036854775808 : Int) ≤ s0.clock.unixSecs := by decide
  have hexp : decode (s0.mintedRefresh "a@x.com" 0) s0.policy.refreshSecret
      (s0.after ops).clock.unixSecs ≠ .error .expired := by
    rw [hclock, System.mintedRefresh_eq, decode_issuedClaims _ _ _ hlo, if_neg (by decide)]
    exact fun h => by cases h
  obtain ⟨-, -, -, hacc, -, -, -⟩ :=
    one_active_refresh_token ⟨[], [], 3600, 1209600, 1800⟩ 1024 Clock.start ops
  refine ⟨?_, hactive, hacc ?_ _ _ hactive (by decide) hexp _
    (Text.trim_eq_self (not_isBlank_encode _ _))⟩
  -- the cache of `s0` has room, so the issue pushes nothing out
  all_goals exact evicted_issueRefresh_of_room "a@x.com" (by decide)

/-- Under an empty refresh lifetime an issue answers with its token but keeps nothing: the save
erases the key. -/
theorem run_issueRefresh_of_isZero (identity : String) {s : System} (hc : s.cacheOutages = [])
    (hz : (Span.ofSecs s.policy.refreshTtl).isZero = true) :
    (issueRefresh identity).run s = (.ok (s.mintedRefresh identity s.serial),
      { s with serial := s.serial + 1, cache := s.cache.erase (refreshKey identity) }) := by
  rw [run_issueRefresh]
  rcases run_cacheSet_quiet (refreshKey identity) (s.mintedRefresh identity s.serial)
      (Span.ofSecs s.policy.refreshTtl) { s with serial := s.serial + 1 }
      (by simp [hc, hit]) with ⟨-, c, hs, hrun⟩ | ⟨⟨hnz, -⟩, -⟩
  · rw [hrun]
    rw [Cache.set, if_pos hz] at hs
    cases hs
    rfl
  · rw [hz] at hnz
    cases hnz

/-- A member logs in with the password it registered with: on a roster without outages, the
login issues a pair for the canonical identity from the state it found. -/
theorem run_login_of_member {raw password : String} {s : System} {m : Member}
    (hr : s.rosterOutages = []) (hm : s.roster.find? (Identity.normalize raw) = some m)
    (hpw : Password.verify password m.digest m.salt = true) :
    (Gate.login raw password).run s = (issuePair (Identity.normalize raw) m.id).run s := by
  unfold Gate.login
  rw [run_bind, run_rostered, findMember_eq, if_neg (by simp [hr, hit])]
  dsimp only [Except.mapError]
  rw [hm]
  dsimp only
  rw [if_neg (by simp [hpw])]

/-- Under an empty refresh lifetime, a login with a member's password answers with a new pair
but keeps no refresh token. -/
theorem run_login_of_isZero {raw password : String} {s : System} {m : Member}
    (hr : s.rosterOutages = []) (hc : s.cacheOutages = [])
    (hm : s.roster.find? (Identity.normalize raw) = some m)
    (hpw : Password.verify password m.digest m.salt = true)
    (hz : (Span.ofSecs s.policy.refreshTtl).isZero = true) :
    (Gate.login raw password).run s =
      (.ok ⟨m.id, (issueAccess (Identity.normalize raw) s).1,
          s.mintedRefresh (Identity.normalize raw) (s.serial + 1)⟩,
        { s with serial := s.serial + 2,
                 cache := s.cache.erase (refreshKey (Identity.normalize raw)) }) := by
  rw [run_login_of_member hr hm hpw, run_issuePair,
    @run_issueRefresh_of_isZero _ { s with serial := s.serial + 1 } hc hz]
  rfl

/-- Under an empty refresh lifetime, `a@x.com` registers and logs in twice: the two logins grant
two different refresh tokens, and the earlier one is refused as expired, not as not logged
in. -/
theorem earlier_login_token_refused_as_expired :
    let s0 := System.init ⟨[], [], 3600, 0, 1800⟩ 1024 Clock.start
    let ops := [Op.register "a@x.com" "secret", Op.login "a@x.com" "secret",
      Op.login "a@x.com" "secret"]
    let i := Identity.normalize "a@x.com"
    s0.grants ops = [.issued i (s0.mintedRefresh i 2), .issued i (s0.mintedRefresh i 4)] ∧
      s0.mintedRefresh i 2 ≠ s0.mintedRefresh i 4 ∧
      ((refreshIdentity (s0.mintedRefresh i 2)).run (s0.after ops)).1 =
        .error .expiredRefreshToken := by
  intro s0 ops i
  have hz : (Span.ofSecs s0.policy.refreshTtl).isZero = true := by decide
  have hlo : (-9223372036854775808 : Int) ≤ s0.clock.unixSecs := by decide
  -- the registration files member 1 under the canonical identity, with a digest of its password
  let m : Member := ⟨1, Password.digest "secret" (Uuid.simple (Uuid.ofSerial 0)),
    Uuid.simple (Uuid.ofSerial 0)⟩
  let s1 : System := { s0 with roster := ⟨[(i, m)], 2⟩, serial := 1 }
  have hreg : s0.roster.register "a@x.com" "secret" (Uuid.simple (Uuid.ofSerial 0)) =
      .ok (1, ⟨[(i, m)], 2⟩) := rfl
  have h1 : (Op.register "a@x.com" "secret").apply s0 = s1 := by
    show (Gate.register "a@x.com" "secret" s0).2 = _
    rw [register_of_ok hreg]
    rfl
  have hfind : s1.roster.find? i = some m := by simp [s1, Roster.find?]
  have hpw : Password.verify "secret" m.digest m.salt = true := Password.verify_digest _ _
  -- each login then grants a token and erases the key at once
  have h2 := @run_login_of_isZero "a@x.com" "secret" s1 m rfl rfl hfind hpw hz
  let s2 : System := { s1 with serial := 3, cache := s1.cache.erase (refreshKey i) }
  have h3 := @run_login_of_isZero "a@x.com" "secret" s2 m rfl rfl hfind hpw hz
  have hafter : s0.after ops = { s2 with serial := 5, cache := s2.cache.erase (refreshKey i) } := by
    rw [System.after_cons, h1, System.after_cons, System.after_cons, System.after_nil]
    show ((Gate.login "a@x.com" "secret").run ((Gate.login "a@x.com" "secret").run s1).2).2 = _
    rw [h2]
    show ((Gate.login "a@x.com" "secret").run s2).2 = _
    rw [h3]
  refine ⟨?_, fun h => ?_, ?_⟩
  · rw [System.grants_cons, h1, System.grants_cons]
    show (Grant.ofIssue i (((Gate.login "a@x.com" "secret").run s1).1.map (·.refreshToken))).toList
      ++ ((Grant.ofIssue i (((Gate.login "a@x.com" "secret").run
        ((Gate.login "a@x.com" "secret").run s1).2).1.map (·.refreshToken))).toList ++ []) = _
    rw [h2]
    show (Grant.ofIssue i (.ok (s1.mintedRefresh i 2))).toList ++
      ((Grant.ofIssue i (((Gate.login "a@x.com" "secret").run s2).1.map
        (·.refreshToken))).toList ++ []) = _
    rw [h3]
    rfl
  · -- the two tokens carry different ids: decoded before they expire, they differ there
    have hd := congrArg (fun t => decode t s0.policy.refreshSecret 0) h
    simp only [System.mintedRefresh_eq, decode_issuedClaims _ _ _ hlo] at hd
    rw [if_neg (by decide), if_neg (by decide)] at hd
    exact absurd (congrArg Claims.jti (Except.ok.inj hd)) (by decide)
  · -- the lifetime is empty, so the token expired when it was issued
    have hdec : decode (s0.mintedRefresh i 2) (s0.after ops).policy.refreshSecret
        (s0.after ops).clock.unixSecs = .error .expired := by
      rw [hafter, System.mintedRefresh_eq, decode_issuedClaims _ _ _ hlo, if_pos (by decide)]
    rw [refreshIdentity_of_decode_error hdec]
    rfl

end Gatehouse.Gate
