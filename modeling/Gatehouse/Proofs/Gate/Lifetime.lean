import Gatehouse.Proofs.Gate.Refusal
import Gatehouse.Proofs.Token.RoundTrip

/-!
How long a token lives.

A token issued at the Unix second `now` for a lifetime `ttl` carries `iat = now` and
`exp = expiryOf now ttl.secs`: the whole seconds of the lifetime (its fraction dropped), held
at 2^63 - 1 first, then added to `now` with the sum held there too, as a 64-bit conversion
with a fallback and a saturating add do. Nothing wraps: the expiry lies between `now` and
2^63 - 1 (`le_expiryOf`, `expiryOf_le_max`), so both instants fit the signed 64-bit fields of
the claims and read back as computed (`iat_issuedClaims`, `exp_issuedClaims`); from 1970 on,
the expiry is plainly `min (now + ttl) (2^63 - 1)` (`expiryOf_of_nonneg`).

Decoding a token at second `t` gives back its claims exactly while `t` is before the expiry
(`decode_issuedClaims`), so a lifetime under one second, having no whole second, gives a token
that is expired when issued. Through the gate (`accessIdentity_issueAccess`): the identity
read off an access token the gate issued is the identity it was issued for while the token
lives, unless that identity is blank; after the expiry the token is refused as expired.

`token_lifetime` gathers these.
-/

namespace Gatehouse.Gate

open Token

-- ============================================================ the expiry

section Expiry

variable (ttl : Nat)

theorem le_expiryOf {now : Int} (h : now ≤ i64Max) : now ≤ expiryOf now ttl := by
  unfold expiryOf i64Max at *
  omega

theorem expiryOf_le_max (now : Int) : expiryOf now ttl ≤ i64Max := by
  unfold expiryOf i64Max
  omega

/-- From 1970 on, the lifetime held at 2^63 - 1 before the addition changes nothing. -/
theorem expiryOf_of_nonneg {now : Int} (h : 0 ≤ now) :
    expiryOf now ttl = min (now + ttl) i64Max := by
  unfold expiryOf i64Max
  omega

theorem expiryOf_zero {now : Int} (h : now ≤ i64Max) : expiryOf now 0 = now := by
  unfold expiryOf i64Max at *
  omega

end Expiry

theorem secs_ofSecs (n : Nat) : (Span.ofSecs n).secs = n := by
  simp [Span.secs, Span.ofSecs, Span.perSecond]

/-- A span under one second has no whole second. -/
theorem secs_eq_zero {ttl : Span} (h : ttl.nanos < Span.perSecond) : ttl.secs = 0 :=
  Nat.div_eq_of_lt h

-- ============================================================ the claims

section Claims

variable (identity : Option String) (ttl : Span) (jti : String)

theorem iat_issuedClaims {now : Int} (hlo : -9223372036854775808 ≤ now) (hhi : now ≤ i64Max) :
    (issuedClaims identity now ttl jti).iat.toInt = now :=
  Int64.toInt_ofInt_of_le (by omega) (by unfold i64Max at hhi; omega)

/-- The expiry fits a signed 64-bit field: it is at least `now`, or 2^63 - 1 when `now` is
past that, and never more. -/
theorem exp_issuedClaims {now : Int} (hlo : -9223372036854775808 ≤ now) :
    (issuedClaims identity now ttl jti).exp.toInt = expiryOf now ttl.secs := by
  have hle := expiryOf_le_max ttl.secs now
  have hge : min now i64Max ≤ expiryOf now ttl.secs := by
    unfold expiryOf i64Max
    omega
  unfold i64Max at hle hge
  exact Int64.toInt_ofInt_of_le (by omega) (by omega)

/-- An issued token decodes to its claims until their expiry, and as expired from then on. -/
theorem decode_issuedClaims {now : Int} (hlo : -9223372036854775808 ≤ now)
    (secret : List UInt8) (t : Int) :
    decode (encode (issuedClaims identity now ttl jti) secret) secret t =
      if expiryOf now ttl.secs ≤ t then .error .expired
      else .ok (issuedClaims identity now ttl jti) := by
  rw [decode_encode, exp_issuedClaims identity ttl jti hlo]

end Claims

-- ============================================================ through the gate

/-- The identity of an access token: the codec's refusal, or the subject when it is not
blank. -/
theorem run_accessIdentity_fst (token : String) (s : System) :
    ((accessIdentity token).run s).1 =
      match decode token s.policy.accessSecret s.clock.unixSecs with
      | .ok c => match c.identity? with
        | some i => .ok i
        | none => .error .accessTokenEmailMissing
      | .error e => .error (Auth.Fault.ofAccess e) := by
  unfold accessIdentity
  rw [run_bind, run_decodeAccess]
  cases decode token s.policy.accessSecret s.clock.unixSecs with
  | error e => rfl
  | ok c =>
    dsimp only [Except.mapError]
    cases c.identity? <;> rfl

/-- The access token the gate issues: the claims of its identity, issued now for the access
lifetime under the next identifier, signed with the access secret. -/
theorem issueAccess_fst (identity : String) (s : System) :
    (issueAccess identity s).1 = encode (issuedClaims (some identity) s.clock.unixSecs
      (Span.ofSecs s.policy.accessTtl) (Uuid.hyphenated (Uuid.ofSerial s.serial)))
      s.policy.accessSecret := rfl

theorem unixSecs_nonneg (c : Clock) : 0 ≤ c.unixSecs := by
  unfold Clock.unixSecs
  omega

/-- An access token the gate issued, read on any later state of the same policy: refused as
expired from its expiry on, and before it, the identity it was issued for, or a missing
identity when that is blank. -/
theorem accessIdentity_issueAccess (identity : String) (s s' : System)
    (hp : s'.policy = s.policy) :
    ((accessIdentity (issueAccess identity s).1).run s').1 =
      if expiryOf s.clock.unixSecs s.policy.accessTtl ≤ s'.clock.unixSecs then
        .error .expiredAccessToken
      else if (Text.trim identity).isEmpty then .error .accessTokenEmailMissing
      else .ok identity := by
  have hlo : -9223372036854775808 ≤ s.clock.unixSecs := by
    have := unixSecs_nonneg s.clock
    omega
  rw [run_accessIdentity_fst, issueAccess_fst, hp, decode_issuedClaims _ _ _ hlo, secs_ofSecs]
  by_cases hexp : expiryOf s.clock.unixSecs s.policy.accessTtl ≤ s'.clock.unixSecs
  · rw [if_pos hexp, if_pos hexp]
    rfl
  · -- the token lives: what is left is its subject
    rw [if_neg hexp, if_neg hexp, Text.isEmpty_trim]
    simp only [issuedClaims, Claims.identity?]
    cases Text.isBlankText identity <;> rfl

-- ============================================================ the lifetime of a token

/-- Token lifetime arithmetic. Claims issued at a second `now0` of the signed 64-bit range for
a lifetime `ttl` carry the subject they were issued for, `iat = now0`, and
`exp = min (now0 + min ttl.secs (2^63 - 1)) (2^63 - 1)`, computed over the integers; from
1970 on that is `min (now0 + ttl.secs) (2^63 - 1)`. The expiry never wraps: it lies between
`now0` and 2^63 - 1. The signed token decodes with its secret at second `t` to exactly those
claims when `t` is before the expiry, and as expired otherwise, so a lifetime under one second
gives a token expired from the start. An access token the gate issues for an identity reads
back, on any later state of the gate, as that identity until its expiry when the identity is
not blank, as a missing identity when it is, and as expired from the expiry on. -/
theorem token_lifetime (identity : Option String) (secret : List UInt8) (ttl : Span)
    (now0 : Int) (jti : String) (hlo : -9223372036854775808 ≤ now0) (hhi : now0 ≤ i64Max) :
    let c := issuedClaims identity now0 ttl jti
    (c.sub = identity ∧ c.iat.toInt = now0 ∧
      c.exp.toInt = min (now0 + min (ttl.secs : Int) i64Max) i64Max ∧
      (0 ≤ now0 → c.exp.toInt = min (now0 + ttl.secs) i64Max) ∧
      now0 ≤ c.exp.toInt ∧ c.exp.toInt ≤ i64Max) ∧
    (∀ t, decode (encode c secret) secret t =
      if t < c.exp.toInt then .ok c else .error .expired) ∧
    (ttl.nanos < Span.perSecond → ∀ t, now0 ≤ t →
      decode (encode c secret) secret t = .error .expired) ∧
    ∀ (i : String) (s s' : System), s'.policy = s.policy →
      ((accessIdentity (issueAccess i s).1).run s').1 =
        if expiryOf s.clock.unixSecs s.policy.accessTtl ≤ s'.clock.unixSecs then
          .error .expiredAccessToken
        else if (Text.trim i).isEmpty then .error .accessTokenEmailMissing
        else .ok i := by
  intro c
  have hexp : c.exp.toInt = expiryOf now0 ttl.secs := exp_issuedClaims identity ttl jti hlo
  have hdecode : ∀ t, decode (encode c secret) secret t =
      if t < c.exp.toInt then .ok c else .error .expired := by
    intro t
    rw [decode_encode]
    by_cases ht : t < c.exp.toInt
    · rw [if_pos ht, if_neg (by omega)]
    · rw [if_neg ht, if_pos (by omega)]
  refine ⟨⟨rfl, iat_issuedClaims identity ttl jti hlo hhi, hexp, fun h => ?_,
    hexp ▸ le_expiryOf ttl.secs hhi, hexp ▸ expiryOf_le_max ttl.secs now0⟩, hdecode,
    fun hsub t ht => ?_, accessIdentity_issueAccess⟩
  · rw [hexp, expiryOf_of_nonneg _ h]
  · -- no whole second: the expiry is the issue second itself
    have hz : c.exp.toInt = now0 := by rw [hexp, secs_eq_zero hsub, expiryOf_zero hhi]
    rw [hdecode, if_neg (by omega)]

/-- A token for `a@x.com` issued at second 1750000000 for one and a half seconds expires at
1750000001: it is read back at its issue second and expired one second later. -/
theorem token_lifetime_one_and_a_half :
    (-9223372036854775808 : Int) ≤ 1750000000 ∧ (1750000000 : Int) ≤ i64Max ∧
      (issuedClaims (some "a@x.com") 1750000000 ⟨1500000000⟩ "j").exp.toInt = 1750000001 ∧
      decode (encode (issuedClaims (some "a@x.com") 1750000000 ⟨1500000000⟩ "j") [])
        [] 1750000001 = .error .expired := by
  obtain ⟨⟨-, -, hexp, -⟩, hdecode, -⟩ :=
    token_lifetime (some "a@x.com") [] ⟨1500000000⟩ 1750000000 "j" (by decide) (by decide)
  refine ⟨by decide, by decide, ?_, ?_⟩
  · rw [hexp]
    decide
  · rw [hdecode, hexp]
    decide

end Gatehouse.Gate
