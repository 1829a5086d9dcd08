import Gatehouse.Proofs.Gate.Run
import Gatehouse.Proofs.Store.Roster

/-!
The roster over a run of the gate.

Two operations touch the roster. A registration makes one registration of the roster, with the
salt it draws; a withdrawal that gets that far removes the member of its identity. Every other
operation leaves the roster as it was. So what a run of the gate does to the roster is a run of
roster calls (`System.replays_after`) whose registrations are those of the operations
(`System.registrations`), and what runs of roster calls keep holds of it: the numbers handed
out (`numbered_after`), and that a member under an identity the roster had no member under was
filed by a registration made since (`System.recorded_after`).

`Unregistered s s'` says that `s'` follows `s` by roster calls that register nothing. It holds of
every write of the gate (`gateWrites_unregistered`), so of every operation but a registration.
-/

namespace Gatehouse.Gate

open Store

-- ============================================================ the registrations of a run

/-- The registration an operation made, when it made one: the raw identity and the number it
was handed. -/
def Op.registered : Op → System → Option (String × Int)
  | .register raw password, s => (Gate.register raw password s).1.toOption.map (raw, ·)
  | _, _ => none

/-- The registrations a run made, in order. -/
def System.registrations (s : System) : List Op → List (String × Int)
  | [] => []
  | o :: ops => (o.registered s).toList ++ (o.apply s).registrations ops

theorem System.after_append (s : System) (ops ops' : List Op) :
    s.after (ops ++ ops') = (s.after ops).after ops' :=
  List.foldl_append

@[simp]
theorem System.after_singleton (s : System) (o : Op) : s.after [o] = o.apply s := rfl

theorem Op.apply_withdraw (token : String) (s : System) :
    (Op.withdraw token).apply s = ((Gate.withdraw token).run s).2 := rfl

theorem System.registrations_append (s : System) (ops ops' : List Op) :
    s.registrations (ops ++ ops') = s.registrations ops ++ (s.after ops).registrations ops' := by
  induction ops generalizing s with
  | nil => rfl
  | cons o ops ih =>
    rw [List.cons_append, System.registrations, System.registrations, ih, System.after_cons,
      List.append_assoc]

-- ============================================================ roster calls that register nothing

/-- `s'` follows `s` by a run of roster calls that registers nothing. -/
def Unregistered (s s' : System) : Prop := ∃ calls, s.roster.replay calls = (s'.roster, [])

namespace Unregistered

variable {s s1 s2 : System}

theorem of_roster (h : s1.roster = s.roster) : Unregistered s s1 := ⟨[], by rw [h]; rfl⟩

theorem trans (h1 : Unregistered s s1) (h2 : Unregistered s1 s2) : Unregistered s s2 := by
  obtain ⟨c1, h1⟩ := h1
  obtain ⟨c2, h2⟩ := h2
  refine ⟨c1 ++ c2, ?_⟩
  rw [Roster.replay_append, h1]
  simp [h2]

instance : IsTrans System Unregistered := ⟨fun _ _ _ => trans⟩

end Unregistered

theorem unregistered_cacheSet (key value : String) (ttl : Span) :
    Relates Unregistered (cached (cacheSet key value ttl)) := by
  intro s
  rw [run_cached, cacheSet_eq]
  split
  · exact .of_roster rfl
  · split <;> exact .of_roster rfl

theorem unregistered_cacheDelete (key : String) :
    Relates Unregistered (cached (cacheDelete key)) := by
  intro s
  rw [run_cached, cacheDelete_eq]
  split <;> exact .of_roster rfl

/-- A removal from the roster is one roster call. -/
theorem unregistered_deleteMember (identity : String) :
    Relates Unregistered (rostered (deleteMember identity)) := by
  intro s
  rw [run_rostered, deleteMember_eq]
  split
  · exact .of_roster rfl
  · split
    · rename_i r hd
      exact ⟨[.delete identity], by simp [Roster.replay, Roster.Call.apply, hd]⟩
    · exact .of_roster rfl

theorem gateWrites_unregistered : GateWrites Unregistered :=
  ⟨⟨fun h => .of_roster h.roster, unregistered_cacheDelete,
    fun i value ttl => unregistered_cacheSet (refreshKey i) value ttl⟩,
    unregistered_cacheSet, unregistered_deleteMember⟩

-- ============================================================ the roster of a run

theorem Op.registered_eq_none {o : Op} (ho : ∀ raw password, o ≠ .register raw password)
    (s : System) : o.registered s = none := by
  cases o with
  | register raw password => exact absurd rfl (ho raw password)
  | _ => rfl

/-- What an operation does to the roster is a run of roster calls: a registration makes its
own, with the salt it draws, and every other operation registers nothing. -/
theorem Op.replays (o : Op) (s : System) :
    ∃ calls, s.roster.replay calls = ((o.apply s).roster, (o.registered s).toList) := by
  by_cases ho : ∃ raw password, o = .register raw password
  · obtain ⟨raw, password, rfl⟩ := ho
    refine ⟨[.register raw password (Uuid.simple (Uuid.ofSerial s.serial))], ?_⟩
    cases hr : s.roster.register raw password (Uuid.simple (Uuid.ofSerial s.serial)) with
    | ok p =>
      obtain ⟨id, r⟩ := p
      simp [Roster.replay, Roster.Call.apply, hr, Op.apply, Op.registered, register_of_ok hr,
        Except.toOption]
    | error e =>
      simp [Roster.replay, Roster.Call.apply, hr, Op.apply, Op.registered, register_of_error hr,
        Except.toOption]
  · have ho' : ∀ raw password, o ≠ .register raw password :=
      fun raw password he => ho ⟨raw, password, he⟩
    rw [Op.registered_eq_none ho' s]
    exact o.relates gateWrites_unregistered (fun _ _ => .of_roster rfl) s ho'

/-- The roster a run leaves is that of a run of roster calls whose registrations are the
run's. -/
theorem System.replays_after (s : System) (ops : List Op) :
    ∃ calls, s.roster.replay calls = ((s.after ops).roster, s.registrations ops) := by
  induction ops generalizing s with
  | nil => exact ⟨[], rfl⟩
  | cons o ops ih =>
    obtain ⟨c1, h1⟩ := o.replays s
    obtain ⟨c2, h2⟩ := ih (o.apply s)
    refine ⟨c1 ++ c2, ?_⟩
    rw [Roster.replay_append, h1]
    dsimp only
    rw [h2]
    rfl

/-- Over every run of a fresh gate, the members and the roster's counter are numbered by the
registrations the run made. -/
theorem numbered_after (policy : Policy) (capacity : Nat) (clock : Clock) (ops : List Op) :
    Roster.Numbered ((System.init policy capacity clock).registrations ops)
      ((System.init policy capacity clock).after ops).roster := by
  obtain ⟨calls, h⟩ := (System.init policy capacity clock).replays_after ops
  -- a fresh gate starts from the empty roster
  have hn := Roster.numbered_replay calls
  rwa [show Roster.empty = (System.init policy capacity clock).roster from rfl, h] at hn

/-- A run from a state with no member under `identity` leaves under it only a member that one
of the run's registrations filed. -/
theorem System.recorded_after {s : System} {identity : String}
    (h : s.roster.find? identity = none) (ops : List Op) :
    Roster.Recorded identity (s.registrations ops) (s.after ops).roster := by
  obtain ⟨calls, hc⟩ := s.replays_after ops
  have hr := (Roster.recorded_of_find?_none h).replay calls
  rw [hc] at hr
  simpa using hr

/-- A run that registers nothing under `identity` leaves no member under it where there was
none. -/
theorem System.find?_after_of_none {s : System} {identity : String}
    (h : s.roster.find? identity = none) (ops : List Op)
    (hreg : ∀ raw id, (raw, id) ∈ s.registrations ops → Identity.normalize raw ≠ identity) :
    (s.after ops).roster.find? identity = none := by
  cases hm : (s.after ops).roster.find? identity with
  | none => rfl
  | some m =>
    obtain ⟨raw, hmem, hraw⟩ := System.recorded_after h ops m hm
    exact absurd hraw (hreg raw m.id hmem)

/-- Numbers are not handed out twice. Over a run of a fresh gate that has made at most
2^63 - 1 registrations, a member filed under `identity` after the roster had none there has a
number other than that of the member filed there before. -/
theorem number_ne_of_refiled (policy : Policy) (capacity : Nat) (clock : Clock)
    {pre mid post : List Op} {identity : String} {m m' : Member}
    (hm : ((System.init policy capacity clock).after pre).roster.find? identity = some m)
    (hgone : ((System.init policy capacity clock).after (pre ++ mid)).roster.find? identity = none)
    (hm' : ((System.init policy capacity clock).after (pre ++ mid ++ post)).roster.find? identity =
      some m')
    (hle : ((System.init policy capacity clock).registrations (pre ++ mid ++ post)).length ≤
      9223372036854775807) :
    m'.id ≠ m.id := by
  set s0 := System.init policy capacity clock
  have hsplit : s0.registrations (pre ++ mid ++ post) =
      s0.registrations pre ++ ((s0.after pre).registrations mid ++
        (s0.after (pre ++ mid)).registrations post) := by
    rw [s0.registrations_append, s0.registrations_append, List.append_assoc]
  -- the old number was handed out before the removal, the new one after it
  obtain ⟨raw, hold, -⟩ := (numbered_after policy capacity clock pre).recorded identity m hm
  rw [System.after_append] at hm'
  obtain ⟨raw', hnew, -⟩ := System.recorded_after hgone post m' hm'
  have hnodup := (numbered_after policy capacity clock (pre ++ mid ++ post)).numbers_nodup hle
  rw [hsplit, List.map_append, List.nodup_append] at hnodup
  refine (hnodup.2.2 m.id (List.mem_map.2 ⟨_, hold, rfl⟩) m'.id ?_).symm
  rw [List.map_append]
  exact List.mem_append_right _ (List.mem_map.2 ⟨_, hnew, rfl⟩)

end Gatehouse.Gate
