import Gatehouse.Web.Route
import Gatehouse.Proofs.Gate.Lifetime
import Gatehouse.Proofs.Gate.Run

/-!
The authentication in front of the guarded routes.

`guard req next` reads the access bearer of the request's `Authorization` header. With none
(no header, a value that is not visible ASCII, or one that does not start with exactly
`Bearer `), it hands the anonymous context to the route `next`. With a token, it authenticates
it: the access token is checked, its identity is taken, and the identity is resolved to a
member number; the route is then handed the context of that number, or never runs, and the
request is answered with the first refusal met.

Each part is one equation: `run_caller`, `run_authenticate` (the state moves only by the
resolution) and `guard_eq`. The refusal an unauthenticated request gets carries the fault's
number and snake-case name with status 401, or says only "Internal server error" with status
500 (`refusal_of_client`, `refusal_internal`). The route behind the guard reads the context it
is handed: `/members/me` serves only a context that is not the anonymous one, `/session` any.
`request_gate` gathers these.
-/

namespace Gatehouse.Web

open Gate

-- ============================================================ the bearer

/-- A field reads as text when its first value is visible ASCII. -/
theorem text?_eq_some {f : Fields} {name v : String} :
    f.text? name = some v ↔
      f.get? name = some v ∧ (Text.Utf8.ofString v).all isVisibleByte = true := by
  unfold Fields.text?
  cases f.get? name with
  | none => simp
  | some w =>
    by_cases hw : (Text.Utf8.ofString w).all isVisibleByte = true
    · simp only [hw, if_true, Option.some.injEq]
      constructor
      · rintro rfl
        exact ⟨rfl, hw⟩
      · rintro ⟨rfl, -⟩
        rfl
    · simp only [hw, Bool.false_eq_true, if_false, reduceCtorEq, false_iff, not_and,
        Option.some.injEq]
      rintro rfl
      exact hw

/-- A request carries an access token exactly when its first `Authorization` value is visible
ASCII and starts with `Bearer `: the token is the rest. -/
theorem accessBearer_eq_some {f : Fields} {t : String} :
    accessBearer f = some t ↔ ∃ v, f.get? accessHeader = some v ∧
      (Text.Utf8.ofString v).all isVisibleByte = true ∧ v.startsWith bearerMarker = true ∧
        t = String.ofList (v.toList.drop 7) := by
  simp only [accessBearer, Option.bind_eq_bind, Option.bind_eq_some_iff, bearerToken?]
  constructor
  · rintro ⟨v, hv, hb⟩
    obtain ⟨hget, hvis⟩ := text?_eq_some.1 hv
    split at hb
    · exact ⟨v, hget, hvis, ‹_›, (Option.some.inj hb).symm⟩
    · cases hb
  · rintro ⟨v, hget, hvis, hm, rfl⟩
    exact ⟨v, text?_eq_some.2 ⟨hget, hvis⟩, by rw [if_pos hm]⟩

-- ============================================================ the steps of authentication

/-- Checking an access token changes nothing and answers as its decoding does. -/
theorem run_validateAccess (token : String) (s : System) :
    (validateAccess token).run s =
      (((Token.decode token s.policy.accessSecret s.clock.unixSecs).mapError
        Auth.Fault.ofAccess).map fun _ => (), s) := by
  unfold validateAccess
  rw [run_discard, run_decodeAccess]

/-- Authentication: the identity of the access token, resolved, as a context; a refused
decoding refuses the checking and the taking of the identity alike, so the refusal is that of
the first step to fail, and only the resolution moves the state. -/
theorem run_authenticate (token : String) (s : System) :
    (authenticate token).run s =
      match ((accessIdentity token).run s).1 with
      | .ok i => (((resolve i).run s).1.map (⟨·, []⟩), ((resolve i).run s).2)
      | .error e => (.error e, s) := by
  unfold authenticate
  rw [run_bind, run_validateAccess]
  cases hd : Token.decode token s.policy.accessSecret s.clock.unixSecs with
  | error e =>
    rw [run_accessIdentity_fst, hd]
    rfl
  | ok c =>
    dsimp only [Except.mapError, Except.map]
    rw [run_bind, run_accessIdentity]
    cases ((accessIdentity token).run s).1 with
    | error e => rfl
    | ok i =>
      dsimp only
      rw [run_bind]
      rcases (resolve i).run s with ⟨_ | m, s1⟩ <;> rfl

/-- The refusal of authentication is the first of the three steps' refusals, in order. -/
theorem authenticate_fst (token : String) (s : System) :
    ((authenticate token).run s).1 =
      (((validateAccess token).run s).1 >>= fun _ =>
        ((accessIdentity token).run s).1 >>= fun i => ((resolve i).run s).1.map (⟨·, []⟩)) := by
  rw [run_authenticate, run_validateAccess, run_accessIdentity_fst]
  cases Token.decode token s.policy.accessSecret s.clock.unixSecs with
  | error e => rfl
  | ok c =>
    dsimp only [Except.mapError, Except.map]
    cases c.identity? <;> rfl

/-- Authentication succeeds exactly when the token checks, its identity is taken and resolves;
the context it builds is that of the member, with no authorities. -/
theorem authenticate_eq_ok {t : String} {s : System} {ctx : Context} :
    ((authenticate t).run s).1 = .ok ctx ↔ ((validateAccess t).run s).1 = .ok () ∧
      ∃ i, ((accessIdentity t).run s).1 = .ok i ∧ ∃ m, ((resolve i).run s).1 = .ok m ∧
        ctx = ⟨m, []⟩ := by
  rw [authenticate_fst]
  cases ((validateAccess t).run s).1 with
  | error e => simp [bind, Except.bind]
  | ok u =>
    cases ((accessIdentity t).run s).1 with
    | error e => simp [bind, Except.bind]
    | ok i =>
      simp only [bind, Except.bind, Except.ok.injEq, exists_eq_left', true_and]
      cases ((resolve i).run s).1 <;> simp [Except.map, eq_comm]

theorem run_caller (req : Request) (s : System) :
    (caller req).run s = match accessBearer req.headers with
      | none => (.ok Context.anonymous, s)
      | some token => (authenticate token).run s := by
  unfold caller
  cases accessBearer req.headers <;> rfl

/-- The guard hands the route the caller's context, on the state authentication left, or
answers the refusal. -/
theorem guard_eq (req : Request) (next : Context → StateM System Response) (s : System) :
    guard req next s = match (caller req).run s with
      | (.ok ctx, s1) => next ctx s1
      | (.error f, s1) => (Response.refusal f, s1) := by
  unfold guard
  simp only [bind, StateT.bind]
  rcases (caller req).run s with ⟨_ | ctx, s1⟩ <;> rfl

-- ============================================================ refusals

/-- A client fault is answered with status 401 and a body that names it three ways. -/
theorem refusal_of_client {f : Auth.Fault} (hf : ∀ d, f ≠ .internal d) :
    ∃ c n, f.errorCode? = some c ∧ f.code? = some n ∧
      Response.refusal f = .json 401 (.obj [("error", .str f.message), ("error_code", .str c),
        ("code", Json.Value.int n)]) := by
  cases f
  case internal d => exact absurd rfl (hf d)
  all_goals exact ⟨_, _, rfl, rfl, rfl⟩

/-- An internal fault is answered with status 500 and no detail. -/
theorem refusal_internal (d : String) :
    Response.refusal (.internal d) =
      .json 500 (.obj [("error", .str "Internal server error")]) := rfl

-- ============================================================ behind the guard

theorem run_me (req : Request) (ctx : Context) (s : System) :
    run .me req ctx s = (if ctx.isAnonymous then Response.refusal .unauthorizedUser
      else .json 200 (.obj [("member_id", Json.Value.int ctx.memberId)]), s) := by
  simp only [run]
  cases ctx.isAnonymous <;> rfl

/-- `/members/me` serves the member behind a context that is not anonymous, and refuses the
anonymous one as unauthorized; it changes nothing. -/
theorem me_status (req : Request) (ctx : Context) (s : System) :
    (run .me req ctx s).2 = s ∧ ((run .me req ctx s).1.status = 200 ↔ ctx.memberId ≠ anonymousId) := by
  rw [run_me]
  refine ⟨rfl, ?_⟩
  by_cases hm : ctx.memberId = anonymousId
  · have hb : ctx.isAnonymous = true := beq_iff_eq.2 hm
    simp [hb, hm, Response.refusal, Response.json, Auth.Fault.status]
  · have hb : ctx.isAnonymous = false := by simpa [Context.isAnonymous] using hm
    simp [hb, hm, Response.json]

-- ============================================================ the request gate

/-- The request gate. For every request and every state of the gate, with `next` the route
behind it: when the request carries no access bearer (no `Authorization` value, or a first one
that is not visible ASCII or does not start with exactly `Bearer `), the guard runs `next` once, with the anonymous
context, on the state as it was. When it carries a token, the guard runs `next` once, with
the context of member `m`, on the state authentication left, exactly when the token checks,
its identity is `i` and `i` resolves to `m`; otherwise it never runs `next` and answers the
first refusal of the three steps, in that order: a client fault with status 401, its number
and its snake-case name, an internal one with status 500 and neither. Behind the guard,
`/members/me` answers 200 exactly for a context that is not the anonymous `-1`, and
`/session` answers 200 for every context. -/
theorem request_gate (req : Request) (next : Context → StateM System Response) (s : System) :
    (accessBearer req.headers = none ↔ ∀ v, req.headers.get? accessHeader = some v →
      (Text.Utf8.ofString v).all isVisibleByte = true → v.startsWith bearerMarker = false) ∧
    (accessBearer req.headers = none → guard req next s = next Context.anonymous s) ∧
    (∀ t, accessBearer req.headers = some t →
      guard req next s = (match (authenticate t).run s with
        | (.ok ctx, s1) => next ctx s1
        | (.error f, s1) => (Response.refusal f, s1)) ∧
      (∀ m, ((authenticate t).run s).1 = .ok ⟨m, []⟩ ↔
        ((validateAccess t).run s).1 = .ok () ∧
          ∃ i, ((accessIdentity t).run s).1 = .ok i ∧ ((resolve i).run s).1 = .ok m) ∧
      (∀ ctx, ((authenticate t).run s).1 = .ok ctx → ctx.authorities = []) ∧
      ((authenticate t).run s).1 =
        (((validateAccess t).run s).1 >>= fun _ =>
          ((accessIdentity t).run s).1 >>= fun i => ((resolve i).run s).1.map (⟨·, []⟩))) ∧
    (∀ f, (∀ d, f ≠ .internal d) →
      ∃ (c : String) (n : Nat), f.errorCode? = some c ∧ f.code? = some n ∧
        Response.refusal f = .json 401 (.obj [("error", .str f.message),
          ("error_code", .str c), ("code", Json.Value.int n)])) ∧
    (∀ d, Response.refusal (.internal d) =
      .json 500 (.obj [("error", .str "Internal server error")])) ∧
    (∀ ctx, ((run .me req ctx s).1.status = 200 ↔ ctx.memberId ≠ anonymousId) ∧
      (run .session req ctx s).1.status = 200) := by
  refine ⟨?_, fun hnone => ?_, fun t ht => ?_, fun f hf => refusal_of_client hf,
    refusal_internal, fun ctx => ⟨(me_status req ctx s).2, rfl⟩⟩
  · -- no bearer: no text value, or one without the marker
    constructor
    · intro hnone v hv hvis
      cases hm : v.startsWith bearerMarker
      · rfl
      · exact absurd hnone (by rw [accessBearer_eq_some.2 ⟨v, hv, hvis, hm, rfl⟩]; simp)
    · intro h
      cases hb : accessBearer req.headers with
      | none => rfl
      | some t =>
        obtain ⟨v, hv, hvis, hm, -⟩ := accessBearer_eq_some.1 hb
        rw [h v hv hvis] at hm
        cases hm
  · rw [guard_eq, run_caller, hnone]
  · have hauth := authenticate_fst t s
    refine ⟨by rw [guard_eq, run_caller, ht], fun m => ?_, fun ctx hctx => ?_, hauth⟩
    · constructor
      · intro h
        obtain ⟨hv, i, hi, m', hr, hm⟩ := authenticate_eq_ok.1 h
        cases hm
        exact ⟨hv, i, hi, hr⟩
      · rintro ⟨hv, i, hi, hr⟩
        exact authenticate_eq_ok.2 ⟨hv, i, hi, m, hr, rfl⟩
    · obtain ⟨-, -, -, m, -, rfl⟩ := authenticate_eq_ok.1 hctx
      rfl

end Gatehouse.Web
