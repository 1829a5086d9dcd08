import Gatehouse.Proofs.Gate.Refusal

/-!
Runs of the gate: operations one after another, each on the state the last one left.

An operation is a call a client makes on the session system (register, log in or out, reissue,
withdraw, resolve or forget an identity, authenticate a request, issue or revoke a refresh
token), or time passing. `System.after s ops` is the state a run leaves; answers are set
aside, since what a run has done is read through the calls made after it.

`Relates R x` says that every run of the gate step `x` moves the state along `R`; for a
transitive `R` it composes through `>>=` (`Relates.bind`), so an operation relates its states
once each of its steps does. `SessionWrites R` and `GateWrites R` say what `R` must do at each
write for the session operations, and for every operation of the gate, to move along it. With
`R := Frame` this gives the setting of every run (`frame_after`): the policy and the planned
outages never change, and the clock only moves on, by time passing.
-/

namespace Gatehouse.Gate

open Store

-- ============================================================ steps along a relation

section Relating

variable {α β : Type} {R : System → System → Prop}

/-- Every run of `x` moves the state along `R`. -/
def Relates (R : System → System → Prop) (x : GateM α) : Prop := ∀ s, R s (x.run s).2

theorem Relates.bind [IsTrans System R] {x : GateM α} {f : α → GateM β} (hx : Relates R x)
    (hf : ∀ a, Relates R (f a)) : Relates R (x >>= f) := by
  intro s
  rw [run_bind]
  rcases hr : x.run s with ⟨_ | a, s1⟩
  all_goals
    have h1 := hx s
    rw [hr] at h1
  · exact h1
  · exact IsTrans.trans _ _ _ h1 (hf a s1)

/-- A step that keeps the state relates it along any relation that kept states satisfy. -/
theorem Keeps.relates (hR : ∀ {s s'}, Kept s s' → R s s') {x : GateM α} (hx : Keeps x) :
    Relates R x :=
  fun s => hR (hx s)

/-- A refusal caught by a handler that answers in its place relates as the step it catches. -/
theorem Relates.tryCatch_pure {x : GateM α} (hx : Relates R x) (a : α) :
    Relates R (tryCatch x fun _ => pure a) := by
  intro s
  rw [run_tryCatch_pure]
  have h1 := hx s
  split <;> rename_i hr <;> rw [hr] at h1 <;> exact h1

end Relating

theorem run_discard {α : Type} (x : GateM α) (s : System) :
    (discard x : GateM Unit).run s = ((x.run s).1.map fun _ => (), (x.run s).2) := by
  show (ExceptT.map _ x).run s = _
  simp only [ExceptT.map, ExceptT.run, ExceptT.mk]
  show (StateT.bind x fun r => _) s = _
  simp only [StateT.bind]
  rcases x s with ⟨_ | _, s1⟩ <;> rfl

theorem keeps_validateAccess (token : String) : Keeps (validateAccess token) := by
  intro s
  unfold validateAccess
  rw [run_discard]
  exact keeps_decodeAccess token s

-- ============================================================ the setting of a run

/-- What a run leaves of the gate's setting: the policy and the planned outages as they were,
and the clock moved on by some milliseconds. -/
structure Frame (s s' : System) : Prop where
  policy : s'.policy = s.policy
  cacheOutages : s'.cacheOutages = s.cacheOutages
  rosterOutages : s'.rosterOutages = s.rosterOutages
  clock : ∃ ms, s'.clock = s.clock.advance ms

theorem Clock.advance_zero (c : Clock) : c.advance 0 = c := by
  simp [Clock.advance]

theorem Clock.advance_advance (c : Clock) (a b : Nat) :
    (c.advance a).advance b = c.advance (a + b) := by
  simp only [Clock.advance, Clock.mk.injEq]
  omega

/-- The steady face moves on by the milliseconds that pass. (Stated through the equation of
`Clock.instant`: the kernel is slow to see it by unfolding.) -/
theorem Clock.instant_advance (c : Clock) (ms : Nat) :
    (c.advance ms).instant = c.instant + ms * 1000000 := by
  rw [Clock.instant.eq_1, Clock.instant.eq_1]
  rfl

theorem Clock.instant_le_advance (c : Clock) (ms : Nat) : c.instant ≤ (c.advance ms).instant := by
  rw [Clock.instant_advance]
  exact Nat.le_add_right _ _

theorem Frame.refl (s : System) : Frame s s := ⟨rfl, rfl, rfl, 0, (Clock.advance_zero _).symm⟩

theorem Frame.trans {s s1 s2 : System} (h1 : Frame s s1) (h2 : Frame s1 s2) : Frame s s2 := by
  obtain ⟨a, ha⟩ := h1.clock
  obtain ⟨b, hb⟩ := h2.clock
  refine ⟨h2.policy.trans h1.policy, h2.cacheOutages.trans h1.cacheOutages,
    h2.rosterOutages.trans h1.rosterOutages, a + b, ?_⟩
  rw [hb, ha, Clock.advance_advance]

instance : IsTrans System Frame := ⟨fun _ _ _ => Frame.trans⟩

theorem Kept.frame {s s' : System} (h : Kept s s') : Frame s s' :=
  ⟨h.policy, h.cacheOutages, h.rosterOutages, 0, by rw [h.clock, Clock.advance_zero]⟩

/-- A step that moves only the cache, the roster, the count of look-ups or the serial. -/
theorem frame_of_eq {s s' : System} (hp : s'.policy = s.policy) (hc : s'.clock = s.clock)
    (ho : s'.cacheOutages = s.cacheOutages) (hr : s'.rosterOutages = s.rosterOutages) :
    Frame s s' :=
  ⟨hp, ho, hr, 0, by rw [hc, Clock.advance_zero]⟩

-- ============================================================ what the session writes relate

/-- A relation that every write of the session operations moves along: kept states are
related, and so are the states around a delete of any key and around a save of a refresh
token. -/
structure SessionWrites (R : System → System → Prop) : Prop where
  kept : ∀ {s s'}, Kept s s' → R s s'
  delete : ∀ key, Relates R (cached (cacheDelete key))
  save : ∀ identity value ttl, Relates R (cached (cacheSet (refreshKey identity) value ttl))

section SessionWrites

variable {R : System → System → Prop} [IsTrans System R] (hR : SessionWrites R)
variable (identity token : String)
include hR

theorem relates_issueRefresh : Relates R (issueRefresh identity) := by
  unfold issueRefresh
  refine (keeps_get.relates hR.kept).bind fun _ => ?_
  refine ((keeps_freshClaims _ _).relates hR.kept).bind fun claims => ?_
  exact (hR.save _ _ _).bind fun _ => (keeps_pure _).relates hR.kept

theorem relates_issuePair (memberId : Int) : Relates R (issuePair identity memberId) := by
  unfold issuePair
  refine ((keeps_issueAccess identity).relates hR.kept).bind fun access => ?_
  exact (relates_issueRefresh hR identity).bind fun _ => (keeps_pure _).relates hR.kept

theorem relates_revoke : Relates R (revoke identity) := by
  unfold revoke
  refine ((keeps_cacheExists _).relates hR.kept).bind fun active => ?_
  split
  · exact ((keeps_throw _).relates hR.kept).bind fun _ => hR.delete _
  · exact hR.delete _

theorem relates_login (raw password : String) : Relates R (login raw password) := by
  unfold login
  refine ((keeps_findMember _).relates hR.kept).bind fun m => ?_
  split
  · exact (keeps_throw _).relates hR.kept
  · dsimp only
    split
    · exact ((keeps_throw _).relates hR.kept).bind fun _ => relates_issuePair hR _ _
    · exact relates_issuePair hR _ _

theorem relates_logout : Relates R (logout token) := by
  unfold logout
  exact ((keeps_accessIdentity token).relates hR.kept).bind fun i => relates_revoke hR i

theorem relates_reissue : Relates R (reissue token) := by
  unfold reissue
  refine ((keeps_refreshIdentity token).relates hR.kept).bind fun i => ?_
  refine ((keeps_findId i).relates hR.kept).bind fun id => ?_
  split
  · exact (keeps_throw _).relates hR.kept
  · exact relates_issuePair hR _ _

end SessionWrites

/-- A relation that every write of the gate moves along: the session writes, a set of any key
and a removal from the roster. -/
structure GateWrites (R : System → System → Prop) : Prop where
  session : SessionWrites R
  set : ∀ key value ttl, Relates R (cached (cacheSet key value ttl))
  remove : ∀ identity, Relates R (rostered (deleteMember identity))

section GateWrites

variable {R : System → System → Prop} [IsTrans System R] (hR : GateWrites R)
variable (identity token : String)
include hR

theorem relates_withdraw : Relates R (withdraw token) := by
  unfold withdraw
  refine ((keeps_accessIdentity token).relates hR.session.kept).bind fun i => ?_
  refine (relates_revoke hR.session i).bind fun _ => ?_
  refine (hR.remove i).bind fun _ => ?_
  exact (hR.session.delete (sessionKey i)).tryCatch_pure ()

theorem relates_resolve : Relates R (resolve identity) := by
  unfold resolve
  refine ((keeps_cacheGet _).relates hR.session.kept).bind fun kept => ?_
  split
  · exact (keeps_pure _).relates hR.session.kept
  · refine ((keeps_findId _).relates hR.session.kept).bind fun found => ?_
    split
    · exact (keeps_throw _).relates hR.session.kept
    · refine (keeps_get.relates hR.session.kept).bind fun s => ?_
      exact (hR.set _ _ _).bind fun _ => (keeps_pure _).relates hR.session.kept

theorem relates_authenticate : Relates R (authenticate token) := by
  unfold authenticate
  refine ((keeps_validateAccess token).relates hR.session.kept).bind fun _ => ?_
  refine ((keeps_accessIdentity token).relates hR.session.kept).bind fun i => ?_
  exact (relates_resolve hR i).bind fun _ => (keeps_pure _).relates hR.session.kept

end GateWrites

-- ============================================================ every operation is in the frame

section Framed

variable (key identity token : String)

theorem framed_cacheSet (value : String) (ttl : Span) :
    Relates Frame (cached (cacheSet key value ttl)) := by
  intro s
  rw [run_cached, cacheSet_eq]
  split
  · exact Frame.refl s
  · split
    · exact frame_of_eq rfl rfl rfl rfl
    · exact Frame.refl s

theorem framed_cacheDelete : Relates Frame (cached (cacheDelete key)) := by
  intro s
  rw [run_cached, cacheDelete_eq]
  split
  · exact Frame.refl s
  · exact frame_of_eq rfl rfl rfl rfl

theorem framed_deleteMember : Relates Frame (rostered (deleteMember identity)) := by
  intro s
  rw [run_rostered, deleteMember_eq]
  split
  · exact Frame.refl s
  · split
    · exact frame_of_eq rfl rfl rfl rfl
    · exact Frame.refl s

theorem sessionWrites_frame : SessionWrites Frame :=
  ⟨Kept.frame, framed_cacheDelete, fun i value ttl => framed_cacheSet (refreshKey i) value ttl⟩

theorem gateWrites_frame : GateWrites Frame :=
  ⟨sessionWrites_frame, framed_cacheSet, framed_deleteMember⟩

end Framed

-- ============================================================ runs

/-- One call on the session system, or time passing. -/
inductive Op where
  | register (raw password : String)
  | login (raw password : String)
  | logout (accessToken : String)
  | reissue (refreshToken : String)
  | withdraw (accessToken : String)
  | resolve (identity : String)
  | forget (identity : String)
  | authenticate (accessToken : String)
  | issueRefresh (identity : String)
  | revoke (identity : String)
  | advance (ms : Nat)
  deriving DecidableEq, Repr

/-- The state an operation leaves; its answer is set aside. -/
def Op.apply : Op → System → System
  | .register raw password, s => (Gate.register raw password s).2
  | .login raw password, s => ((Gate.login raw password).run s).2
  | .logout token, s => ((Gate.logout token).run s).2
  | .reissue token, s => ((Gate.reissue token).run s).2
  | .withdraw token, s => ((Gate.withdraw token).run s).2
  | .resolve identity, s => ((Gate.resolve identity).run s).2
  | .forget identity, s => ((Gate.forget identity).run s).2
  | .authenticate token, s => ((Gate.authenticate token).run s).2
  | .issueRefresh identity, s => ((Gate.issueRefresh identity).run s).2
  | .revoke identity, s => ((Gate.revoke identity).run s).2
  | .advance ms, s => { s with clock := s.clock.advance ms }

/-- The state a run leaves. -/
def System.after (s : System) (ops : List Op) : System := ops.foldl (fun s o => o.apply s) s

@[simp]
theorem System.after_nil (s : System) : s.after [] = s := rfl

@[simp]
theorem System.after_cons (s : System) (o : Op) (ops : List Op) :
    s.after (o :: ops) = (o.apply s).after ops := rfl

/-- A property every operation keeps holds after every run. -/
theorem System.after_induction {P : System → Prop}
    (hstep : ∀ (o : Op) (s : System), P s → P (o.apply s)) :
    ∀ (ops : List Op) (s : System), P s → P (s.after ops) := by
  intro ops
  induction ops with
  | nil => exact fun s h => h
  | cons o ops ih => exact fun s h => ih (o.apply s) (hstep o s h)

-- ============================================================ registration

theorem register_of_ok {raw password : String} {s : System} {id : Int} {r : Roster}
    (h : s.roster.register raw password (Uuid.simple (Uuid.ofSerial s.serial)) = .ok (id, r)) :
    Gate.register raw password s = (.ok id, { s with roster := r, serial := s.serial + 1 }) := by
  simp only [Gate.register, bind, StateT.bind, modifyGet, MonadStateOf.modifyGet,
    StateT.modifyGet, freshUuid, pure]
  rw [h]

theorem register_of_error {raw password : String} {s : System} {e : RosterFault}
    (h : s.roster.register raw password (Uuid.simple (Uuid.ofSerial s.serial)) = .error e) :
    Gate.register raw password s = (.error e, { s with serial := s.serial + 1 }) := by
  simp only [Gate.register, bind, StateT.bind, modifyGet, MonadStateOf.modifyGet,
    StateT.modifyGet, freshUuid, pure]
  rw [h]

/-- Registration moves only the roster and the serial. -/
theorem frame_register (raw password : String) (s : System) :
    Frame s (Gate.register raw password s).2 := by
  cases h : s.roster.register raw password (Uuid.simple (Uuid.ofSerial s.serial)) with
  | ok p =>
    obtain ⟨id, r⟩ := p
    rw [register_of_ok h]
    exact frame_of_eq rfl rfl rfl rfl
  | error e =>
    rw [register_of_error h]
    exact frame_of_eq rfl rfl rfl rfl

/-- A transitive relation that every write of the gate and time passing move along relates the
states around every operation but a registration. -/
theorem Op.relates {R : System → System → Prop} [IsTrans System R] (hR : GateWrites R)
    (hadv : ∀ s ms, R s { s with clock := s.clock.advance ms }) (o : Op) (s : System)
    (ho : ∀ raw password, o ≠ .register raw password) : R s (o.apply s) := by
  cases o with
  | register raw password => exact absurd rfl (ho raw password)
  | login raw password => exact relates_login hR.session raw password s
  | logout token => exact relates_logout hR.session token s
  | reissue token => exact relates_reissue hR.session token s
  | withdraw token => exact relates_withdraw hR token s
  | resolve identity => exact relates_resolve hR identity s
  | forget identity => exact hR.session.delete (sessionKey identity) s
  | authenticate token => exact relates_authenticate hR token s
  | issueRefresh identity => exact relates_issueRefresh hR.session identity s
  | revoke identity => exact relates_revoke hR.session identity s
  | advance ms => exact hadv s ms

/-- Every operation keeps the policy and the planned outages, and moves the clock on, if at
all, by the time that passes. -/
theorem Op.frame_apply (o : Op) (s : System) : Frame s (o.apply s) := by
  by_cases ho : ∃ raw password, o = .register raw password
  · obtain ⟨raw, password, rfl⟩ := ho
    exact frame_register raw password s
  · exact o.relates gateWrites_frame (fun s ms => ⟨rfl, rfl, rfl, ms, rfl⟩) s
      fun raw password he => ho ⟨raw, password, he⟩

theorem frame_after (ops : List Op) (s : System) : Frame s (s.after ops) := by
  induction ops generalizing s with
  | nil => exact Frame.refl s
  | cons o ops ih => exact (o.frame_apply s).trans (ih (o.apply s))

end Gatehouse.Gate
