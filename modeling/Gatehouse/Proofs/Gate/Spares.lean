import Gatehouse.Proofs.Gate.SessionCache

/-!
What a step of the gate leaves of the entry under one cache key.

`Spares key s s'` says that `s'` follows `s` on `key`: the clock stands still, the cache has
pushed out no fewer entries than before, nothing is read live under `key` that was not read
live before, and, when the cache pushed out no entry on the way, the entry under `key` is still
there whenever it had not expired.

A read of any key spares every key: it promotes the entry it finds, which keeps it, or drops an
expired one. A delete of another key spares it. A set of another key spares it too: the set can
push the entry under `key` out, but only by pushing an entry out of a full cache, which the
cache counts (`Cache.find?_set_of_evicted`). `Spares key` is transitive, so it goes along `>>=`
(`Relates.bind`), and each session operation spares every key it does not write.

`SparesOnRefusal` says the same of the states a refusal leaves. The operations that write a
refresh token write it last, so a refused one spares even the key it meant to write.
-/

namespace Gatehouse

namespace Store.Cache

-- ============================================================ one cache operation

/-- A read keeps an entry that has not expired, under its own key as under any other. -/
theorem find?_get_of_live (c : Cache) (key : String) {k : String} {e : Entry} {now : Nat}
    (hf : c.find? k = some e) (hlive : now < e.expiry) : (c.get key now).2.find? k = some e := by
  by_cases hk : k = key
  · subst hk
    obtain ⟨-, hek⟩ := find?_eq_some hf
    simp only [get, hf, hlive, if_true]
    rw [← hek]
    exact find?_promote_self c e
  · rw [find?_get_of_ne c now hk, hf]

/-- After a set, its key holds the value written until the span ends, or nothing for an empty
span. -/
theorem find?_set_self {c c' : Cache} {key value : String} {ttl : Span} {clock : Clock}
    (hs : c.set key value ttl clock = .ok c') :
    c'.find? key = if ttl.isZero then none else some ⟨key, value, clock.instant + ttl.nanos⟩ := by
  simp only [Cache.set] at hs
  split at hs
  · rename_i hz
    cases hs
    rw [if_pos hz]
    exact find?_erase_self c key
  · rename_i hz
    split at hs
    · rename_i expiry ha
      cases hs
      rw [if_neg hz, ← after_eq_some ha]
      exact find?_insert_self c ⟨key, value, expiry⟩
    · cases hs

/-- A set that pushes no entry out keeps the entry under every other key. -/
theorem find?_set_of_evicted {c c' : Cache} {key value : String} {ttl : Span} {clock : Clock}
    (hs : c.set key value ttl clock = .ok c') {other : String} (h : other ≠ key)
    (he : c'.evicted = c.evicted) : c'.find? other = c.find? other := by
  simp only [Cache.set] at hs
  split at hs
  · cases hs
    exact find?_erase_of_ne c h
  · split at hs
    · rename_i expiry _
      cases hs
      rcases find?_insert_of_ne c ⟨key, value, expiry⟩ h with hf | ⟨-, hpush⟩
      · exact hf
      · -- the entry pushed out is counted
        rw [evicted_insert, if_pos ⟨Option.isNone_iff_eq_none.2 hpush.1, hpush.2.1⟩] at he
        omega
    · cases hs

end Store.Cache

namespace Gate

open Store

-- ============================================================ sparing a key

/-- `s'` follows `s` on `key`: the clock stands still, the cache has pushed out no fewer
entries, nothing new is read live under `key`, and, when no entry was pushed out on the way,
an entry under `key` that had not expired is still there. -/
structure Spares (key : String) (s s' : System) : Prop where
  clock : s'.clock = s.clock
  evicted : s.cache.evicted ≤ s'.cache.evicted
  live : ∀ v, s'.live key = some v → s.live key = some v
  kept : s'.cache.evicted = s.cache.evicted → ∀ e, s.cache.find? key = some e →
    s.clock.instant < e.expiry → s'.cache.find? key = some e

namespace Spares

variable {key : String} {s s1 s2 : System}

theorem refl (key : String) (s : System) : Spares key s s :=
  ⟨rfl, Nat.le_refl _, fun _ h => h, fun _ _ hf _ => hf⟩

theorem trans (h1 : Spares key s s1) (h2 : Spares key s1 s2) : Spares key s s2 where
  clock := h2.clock.trans h1.clock
  evicted := h1.evicted.trans h2.evicted
  live := fun v h => h1.live v (h2.live v h)
  kept := by
    intro he e hf hlive
    -- the count never goes down, so a run that pushed nothing out pushed nothing out at either
    -- step
    have he1 : s1.cache.evicted = s.cache.evicted := by
      have := h1.evicted
      have := h2.evicted
      omega
    have he2 : s2.cache.evicted = s1.cache.evicted := he.trans he1.symm
    exact h2.kept he2 e (h1.kept he1 e hf hlive) (by rw [h1.clock]; exact hlive)

instance : IsTrans System (Spares key) := ⟨fun _ _ _ => trans⟩

end Spares

section States

variable (key : String)

/-- A step that leaves the cache and the clock as they were spares every key. -/
theorem spares_of_cache {s s' : System} (hc : s'.cache = s.cache) (hk : s'.clock = s.clock) :
    Spares key s s' where
  clock := hk
  evicted := by rw [hc]
  live := fun v h => by
    unfold System.live at h ⊢
    rwa [hc, hk] at h
  kept := fun _ e hf _ => by
    rw [hc]
    exact hf

theorem spares_read (k : String) (s : System) :
    Spares key s { s with cache := (s.cache.get k s.clock.instant).2 } where
  clock := rfl
  evicted := (Cache.evicted_get s.cache k _).ge
  live := fun v h => by rwa [live_read] at h
  kept := fun _ _ hf hlive => Cache.find?_get_of_live s.cache k hf hlive

variable {key}

theorem spares_erase {k : String} (h : key ≠ k) (s : System) :
    Spares key s { s with cache := s.cache.erase k } where
  clock := rfl
  evicted := Nat.le_refl _
  live := fun v hv => by rwa [live_erase, if_neg h] at hv
  kept := fun _ e hf _ => by
    show (s.cache.erase k).find? key = some e
    rw [Cache.find?_erase_of_ne s.cache h]
    exact hf

theorem spares_set {k value : String} {ttl : Span} {s : System} {c : Cache} (h : key ≠ k)
    (hs : s.cache.set k value ttl s.clock = .ok c) : Spares key s { s with cache := c } where
  clock := rfl
  evicted := Cache.evicted_set_le hs
  live := fun v hv => by
    change (c.get key s.clock.instant).1 = some v at hv
    rcases Cache.get_fst_set_of_ne hs h s.clock.instant with he | he
    · rwa [he] at hv
    · -- an entry pushed out reads as nothing
      rw [he] at hv
      cases hv
  kept := fun he e hf _ => by
    show c.find? key = some e
    rw [Cache.find?_set_of_evicted hs h he]
    exact hf

end States

-- ============================================================ sparing along a step

section Programs

variable {α β : Type} {key : String}

/-- A step that spares, then a step that spares on the state the first leaves. -/
theorem spares_bind_of {x : GateM α} {f : α → GateM β} {s : System}
    (hx : Relates (Spares key) x)
    (hf : ∀ v s1, x.run s = (.ok v, s1) → Spares key s1 ((f v).run s1).2) :
    Spares key s ((x >>= f).run s).2 := by
  rw [run_bind]
  rcases hr : x.run s with ⟨_ | v, s1⟩
  all_goals
    have h1 := hx s
    rw [hr] at h1
  · exact h1
  · exact h1.trans (hf v s1 hr)

/-- When the step refuses, the state it leaves follows the one before as `Spares` says. -/
def SparesOnRefusal (key : String) (x : GateM α) : Prop :=
  ∀ s e s', x.run s = (.error e, s') → Spares key s s'

theorem Relates.sparesOnRefusal {x : GateM α} (hx : Relates (Spares key) x) :
    SparesOnRefusal key x := by
  intro s e s' h
  have := hx s
  rwa [h] at this

theorem SparesOnRefusal.read_bind {x : GateM α} {f : α → GateM β} (hx : Relates (Spares key) x)
    (hf : ∀ v, SparesOnRefusal key (f v)) : SparesOnRefusal key (x >>= f) := by
  intro s e s' h
  rw [run_bind] at h
  rcases hr : x.run s with ⟨_ | v, s1⟩
  all_goals
    have h1 := hx s
    rw [hr] at h1 h
  · cases h
    exact h1
  · exact h1.trans (hf v s1 e s' h)

theorem SparesOnRefusal.bind_pure {x : GateM α} (hx : SparesOnRefusal key x) (g : α → β) :
    SparesOnRefusal key (x >>= fun a => pure (g a)) := by
  intro s e s' h
  rw [run_bind] at h
  rcases hr : x.run s with ⟨_ | v, s1⟩
  all_goals rw [hr] at h
  · cases h
    exact hx s _ _ hr
  · cases h

end Programs

-- ============================================================ the primitives

section Primitives

variable {α : Type} (key : String)

theorem spares_pure (a : α) : Relates (Spares key) (pure a : GateM α) :=
  fun s => Spares.refl key s

theorem spares_throw (e : Auth.Fault) : Relates (Spares key) (throw e : GateM α) :=
  fun s => Spares.refl key s

theorem spares_get : Relates (Spares key) (get : GateM System) := fun s => Spares.refl key s

theorem spares_cacheGet (k : String) : Relates (Spares key) (cached (cacheGet k)) := by
  intro s
  rw [run_cached, cacheGet_eq]
  split
  · exact Spares.refl key s
  · exact spares_read key k s

theorem spares_cacheExists (k : String) : Relates (Spares key) (cached (cacheExists k)) := by
  intro s
  rw [run_cached, cacheExists_eq]
  split
  · exact Spares.refl key s
  · exact spares_read key k s

theorem spares_findId (identity : String) : Relates (Spares key) (rostered (findId identity)) := by
  intro s
  rw [run_rostered, findId_eq]
  split <;> exact spares_of_cache key rfl rfl

theorem spares_findMember (identity : String) :
    Relates (Spares key) (rostered (findMember identity)) := by
  intro s
  rw [run_rostered, findMember_eq]
  split <;> exact Spares.refl key s

theorem spares_deleteMember (identity : String) :
    Relates (Spares key) (rostered (deleteMember identity)) := by
  intro s
  rw [run_rostered, deleteMember_eq]
  split
  · exact Spares.refl key s
  · split
    · exact spares_of_cache key rfl rfl
    · exact Spares.refl key s

theorem spares_freshClaims (sub : Option String) (ttl : Nat) :
    Relates (Spares key) (liftM (freshClaims sub ttl) : GateM Token.Claims) :=
  fun _ => spares_of_cache key rfl rfl

theorem spares_issueAccess (identity : String) :
    Relates (Spares key) (liftM (issueAccess identity) : GateM String) :=
  fun _ => spares_of_cache key rfl rfl

theorem spares_decodeRefresh (token : String) : Relates (Spares key) (decodeRefresh token) := by
  intro s
  rw [run_decodeRefresh]
  exact Spares.refl key s

theorem spares_accessIdentity (token : String) : Relates (Spares key) (accessIdentity token) := by
  intro s
  rw [accessIdentity_state]
  exact Spares.refl key s

theorem spares_validateAccess (token : String) : Relates (Spares key) (validateAccess token) := by
  intro s
  unfold validateAccess
  rw [run_discard, run_decodeAccess]
  exact Spares.refl key s

/-- Checking a refresh token only reads. -/
theorem spares_refreshIdentity (token : String) : Relates (Spares key) (refreshIdentity token) := by
  unfold refreshIdentity
  refine (spares_decodeRefresh key token).bind fun c => ?_
  dsimp only
  split
  on_goal 1 => refine (spares_pure key _).bind fun i => ?_
  on_goal 2 => refine (spares_throw key _).bind fun i => ?_
  all_goals
    refine (spares_cacheGet key _).bind fun r => ?_
    split
    · split
      · exact spares_pure key _
      · exact spares_throw key _
    · exact spares_throw key _

variable {key}

theorem spares_cacheDelete {k : String} (h : key ≠ k) :
    Relates (Spares key) (cached (cacheDelete k)) := by
  intro s
  rw [run_cached, cacheDelete_eq]
  split
  · exact Spares.refl key s
  · exact spares_erase h s

theorem spares_cacheSet {k : String} (h : key ≠ k) (value : String) (ttl : Span) :
    Relates (Spares key) (cached (cacheSet k value ttl)) := by
  intro s
  rw [run_cached, cacheSet_eq]
  split
  · exact Spares.refl key s
  · split
    · rename_i c hs
      exact spares_set h hs
    · exact Spares.refl key s

variable (key)

/-- A refused set has changed nothing. -/
theorem sparesOnRefusal_cacheSet (k value : String) (ttl : Span) :
    SparesOnRefusal key (cached (cacheSet k value ttl)) := by
  intro s e s' h
  rw [run_cached, cacheSet_eq] at h
  split at h
  · cases h
    exact Spares.refl key s
  · split at h
    · cases h
    · cases h
      exact Spares.refl key s

/-- A refused delete has changed nothing. -/
theorem sparesOnRefusal_cacheDelete (k : String) :
    SparesOnRefusal key (cached (cacheDelete k)) := by
  intro s e s' h
  rw [run_cached, cacheDelete_eq] at h
  split at h
  · cases h
    exact Spares.refl key s
  · cases h

end Primitives

-- ============================================================ the session operations

section Sessions

variable {key : String}

theorem spares_issueRefresh {identity : String} (h : key ≠ refreshKey identity) :
    Relates (Spares key) (issueRefresh identity) := by
  unfold issueRefresh
  refine (spares_get key).bind fun _ => ?_
  refine (spares_freshClaims key _ _).bind fun _ => ?_
  exact (spares_cacheSet h _ _).bind fun _ => spares_pure key _

theorem spares_issuePair {identity : String} (h : key ≠ refreshKey identity) (id : Int) :
    Relates (Spares key) (issuePair identity id) := by
  unfold issuePair
  refine (spares_issueAccess key identity).bind fun _ => ?_
  exact (spares_issueRefresh h).bind fun _ => spares_pure key _

theorem spares_login {raw : String} (h : key ≠ refreshKey (Identity.normalize raw))
    (password : String) : Relates (Spares key) (login raw password) := by
  unfold login
  refine (spares_findMember key _).bind fun m => ?_
  split
  · exact (spares_throw key _)
  · dsimp only
    split
    · exact (spares_throw key _).bind fun _ => spares_issuePair h _
    · exact spares_issuePair h _

theorem spares_revoke {identity : String} (h : key ≠ refreshKey identity) :
    Relates (Spares key) (revoke identity) := by
  unfold revoke
  refine (spares_cacheExists key _).bind fun active => ?_
  split
  · exact (spares_throw key _).bind fun _ => spares_cacheDelete h
  · exact spares_cacheDelete h

theorem spares_forget {identity : String} (h : key ≠ sessionKey identity) :
    Relates (Spares key) (forget identity) :=
  spares_cacheDelete h

theorem spares_resolve {identity : String} (h : key ≠ sessionKey identity) :
    Relates (Spares key) (resolve identity) := by
  unfold resolve
  refine (spares_cacheGet key _).bind fun kept => ?_
  split
  · exact (spares_pure key _)
  · refine (spares_findId key _).bind fun found => ?_
    split
    · exact (spares_throw key _)
    · refine (spares_get key).bind fun _ => ?_
      exact (spares_cacheSet h _ _).bind fun _ => spares_pure key _

/-- Authentication writes only a session key. -/
theorem spares_authenticate (h : ∀ i, key ≠ sessionKey i) (token : String) :
    Relates (Spares key) (authenticate token) := by
  unfold authenticate
  refine (spares_validateAccess key token).bind fun _ => ?_
  refine (spares_accessIdentity key token).bind fun i => ?_
  exact (spares_resolve (h i)).bind fun _ => spares_pure key _

theorem spares_register (raw password : String) (s : System) :
    Spares key s (Gate.register raw password s).2 := by
  cases hr : s.roster.register raw password (Uuid.simple (Uuid.ofSerial s.serial)) with
  | ok p =>
    obtain ⟨id, r⟩ := p
    rw [register_of_ok hr]
    exact spares_of_cache key rfl rfl
  | error e =>
    rw [register_of_error hr]
    exact spares_of_cache key rfl rfl

/-- A reissue writes only the refresh key of the identity its token carries. -/
theorem spares_reissue (token : String) (s : System)
    (h : ∀ i, ((refreshIdentity token).run s).1 = .ok i → key ≠ refreshKey i) :
    Spares key s ((reissue token).run s).2 := by
  unfold reissue
  refine spares_bind_of (spares_refreshIdentity key token) fun i s1 hr => ?_
  have hk : key ≠ refreshKey i := h i (by rw [hr])
  refine ((spares_findId key i).bind fun found => ?_) s1
  split
  · exact (spares_throw key _)
  · exact spares_issuePair hk _

/-- A withdrawal deletes only the refresh and session keys of the identity its access token
carries. -/
theorem spares_withdraw (token : String) (s : System)
    (h : ∀ i, ((accessIdentity token).run s).1 = .ok i → key ≠ refreshKey i ∧ key ≠ sessionKey i) :
    Spares key s ((withdraw token).run s).2 := by
  unfold withdraw
  refine spares_bind_of (spares_accessIdentity key token) fun i s1 hr => ?_
  obtain ⟨hrk, hsk⟩ := h i (by rw [hr])
  refine ((spares_revoke hrk).bind fun _ => ?_) s1
  refine (spares_deleteMember key i).bind fun _ => ?_
  intro s2
  rw [run_tryCatch_pure]
  have h2 := spares_forget hsk s2
  split <;> rename_i hf <;> rw [hf] at h2 <;> exact h2

variable (key)

theorem sparesOnRefusal_issueRefresh (identity : String) :
    SparesOnRefusal key (issueRefresh identity) := by
  unfold issueRefresh
  refine SparesOnRefusal.read_bind (spares_get key) fun _ => ?_
  refine SparesOnRefusal.read_bind (spares_freshClaims key _ _) fun _ => ?_
  exact (sparesOnRefusal_cacheSet key _ _ _).bind_pure _

theorem sparesOnRefusal_issuePair (identity : String) (id : Int) :
    SparesOnRefusal key (issuePair identity id) := by
  unfold issuePair
  refine SparesOnRefusal.read_bind (spares_issueAccess key identity) fun _ => ?_
  exact (sparesOnRefusal_issueRefresh key identity).bind_pure _

theorem sparesOnRefusal_login (raw password : String) :
    SparesOnRefusal key (login raw password) := by
  unfold login
  refine SparesOnRefusal.read_bind (spares_findMember key _) fun m => ?_
  split
  · exact (spares_throw key _).sparesOnRefusal
  · dsimp only
    split
    · exact SparesOnRefusal.read_bind (spares_throw key _) fun _ =>
        sparesOnRefusal_issuePair key _ _
    · exact sparesOnRefusal_issuePair key _ _

theorem sparesOnRefusal_reissue (token : String) : SparesOnRefusal key (reissue token) := by
  unfold reissue
  refine SparesOnRefusal.read_bind (spares_refreshIdentity key token) fun i => ?_
  refine SparesOnRefusal.read_bind (spares_findId key i) fun found => ?_
  split
  · exact (spares_throw key _).sparesOnRefusal
  · exact sparesOnRefusal_issuePair key _ _

/-- A refused revocation made no delete: it found no live token, or its delete was refused. -/
theorem sparesOnRefusal_revoke (identity : String) : SparesOnRefusal key (revoke identity) := by
  unfold revoke
  refine SparesOnRefusal.read_bind (spares_cacheExists key _) fun active => ?_
  split
  · exact SparesOnRefusal.read_bind (spares_throw key _) fun _ =>
      sparesOnRefusal_cacheDelete key _
  · exact sparesOnRefusal_cacheDelete key _

end Sessions

end Gate

end Gatehouse
