import Gatehouse.Proofs.Token.RoundTrip

/-!
What a successful decode vouches for, and which refusal a bad token gets.

`decode_sound_first_fault` has two halves. The first says what `decode t secret now = .ok c`
guarantees: the trimmed token is three segments joined by dots; the first is the canonical
URL base64 of JSON that names the algorithm `HS256`; the last is the URL base64 of the
HMAC-SHA256 tag, under the secret, of the first two joined by a dot; the middle one holds the
claims `c`; and `c` has not expired. The second half says that the refusal is the one of the
first check that fails, in the order `decode` makes them: an all-blank token is empty; a
token that is not three segments, or whose first segment is not JSON naming an algorithm (or
`null`, or nothing), is malformed; an algorithm other than `HS256` is unsupported; a header
the typed reading refuses is malformed; a signature segment that is not strict URL base64 is
malformed; one that is, but is not the signature of the first two segments (the empty one
included), is a signature mismatch; claims that do not read are malformed; and claims whose
`exp` is not after the current second have expired.

Canonical base64 turns the byte comparisons of `decode` into comparisons of text: a segment
that decodes is the encoding of its bytes (`Base64.encode_eq_of_decode_url`), so the tag
matches exactly when the segment is the signature. The empty segment decodes to no bytes,
and a tag is always 32 bytes (`Hmac.length_tag`), so it never matches.
-/

namespace Gatehouse

-- ============================================================ the width of a tag

namespace Digest

theorem Sha256.length_compress (state : List UInt32) (block : List UInt8) :
    (Sha256.compress state block).length = 8 := rfl

/-- A SHA-256 digest is 32 bytes: eight words of state, four bytes each. -/
theorem Sha256.length_digest (msg : List UInt8) : (Sha256.digest msg).length = 32 := by
  have h8 : ∀ (bs : List (List UInt8)) (st : List UInt32), st.length = 8 →
      (bs.foldl Sha256.compress st).length = 8 := by
    intro bs
    induction bs with
    | nil => intro st h; exact h
    | cons b bs ih => intro st _; exact ih _ (Sha256.length_compress st b)
  have hw : ∀ ws : List UInt32, (ws.flatMap Sha256.wordBytes).length = 4 * ws.length := by
    intro ws
    induction ws with
    | nil => rfl
    | cons w ws ih =>
      rw [List.flatMap_cons, List.length_append, ih]
      simp [Sha256.wordBytes]
      omega
  rw [Sha256.digest, hw, h8 _ _ rfl]

/-- An HMAC-SHA256 tag is 32 bytes. -/
theorem Hmac.length_tag (key msg : List UInt8) : (Hmac.tag key msg).length = 32 :=
  Sha256.length_digest _

end Digest

namespace Token

open Encoding Text

-- ============================================================ the checks, one by one

@[simp] theorem except_throw_bind {ε α β : Type} (e : ε) (f : α → Except ε β) :
    (throw e >>= f : Except ε β) = throw e := rfl

/-- The signature segment is never empty. -/
theorem signature_ne_empty (secret : List UInt8) (input : String) : signature secret input ≠ "" := by
  intro h
  have hd := Base64.decode_encode_url (Digest.Hmac.tag secret (Utf8.ofString input))
  rw [← signature, h] at hd
  have hl := Digest.Hmac.length_tag secret (Utf8.ofString input)
  have h0 : Base64.decode .url "" = some [] := rfl
  rw [h0, Option.some.injEq] at hd
  rw [← hd] at hl
  cases hl


/-- A successful decode passed every check: the values each check looked at. -/
theorem decode_eq_ok {t : String} {s : List UInt8} {now : Int} {c : Claims}
    (h : decode t s now = .ok c) :
    ∃ hs ps gs v tag, (trim t).splitToList (· == '.') = [hs, ps, gs]
      ∧ segmentJson? hs = some v ∧ Header.algorithm? v = some (some algorithm)
      ∧ Header.registeredOk v = true ∧ Base64.decode .url gs = some tag
      ∧ tag = Digest.Hmac.tag s (Utf8.ofString (hs ++ "." ++ ps))
      ∧ (segmentJson? ps >>= ofJson?) = some c ∧ now < c.exp.toInt := by
  cases hb : (trim t).isEmpty
  case true => simp [decode, hb] at h
  simp [decode, hb] at h
  -- follow the checks one by one; every branch but the last throws
  split at h
  next hs ps gs hsplit =>
    split at h
    next v hv =>
      split at h
      next => cases h
      next alg halg =>
        split at h
        next hsome =>
          split at h
          next => cases h
          next hok =>
            split at h
            next tag htag =>
              split at h
              next hmac =>
                split at h
                next c' hc =>
                  split at h
                  next => cases h
                  next hexp =>
                    cases h
                    refine ⟨hs, ps, gs, v, tag, hsplit, hv, by rw [halg, hsome], ?_, htag, hmac,
                      hc, by omega⟩
                    simpa using hok
                next => cases h
              next => cases h
            next => cases h
        next => cases h
    next => cases h
  next => cases h

/-- The bytes a segment's JSON was read from, and the segment their canonical encoding. -/
theorem segmentJson?_eq_some {seg : String} {v : Json.Value} (h : segmentJson? seg = some v) :
    ∃ bs, seg = Base64.encode .url bs ∧ Json.parse bs = .ok v := by
  unfold segmentJson? at h
  split at h
  next bs hd =>
    split at h
    next v' hp =>
      cases h
      exact ⟨bs, (Base64.encode_eq_of_decode_url hd).symm, hp⟩
    next => cases h
  next => cases h

-- ============================================================ soundness and the order of refusals

/-- Decoding is sound, and refuses with the first check that fails. A decoded token, trimmed,
is three dot-separated segments: the canonical URL base64 of a JSON header naming `HS256`,
the claims returned, and the URL base64 of the HMAC-SHA256 tag of the first two under the
secret; and the claims have not expired. An all-blank token is empty; then, in order, the
shape, the algorithm (absent or `null` included), the typed header, the signature text, the
signature itself (the empty one included), the claims and the expiry each refuse with their
own fault once every check before them has passed. -/
theorem decode_sound_first_fault (t : String) (s : List UInt8) (now : Int) :
    (∀ c, decode t s now = .ok c →
      ∃ hs ps gs hb v, trim t = hs ++ "." ++ ps ++ "." ++ gs
        ∧ (trim t).splitToList (· == '.') = [hs, ps, gs]
        ∧ hs = Base64.encode .url hb ∧ Json.parse hb = .ok v
        ∧ Header.algorithm? v = some (some algorithm)
        ∧ gs = signature s (hs ++ "." ++ ps)
        ∧ (segmentJson? ps >>= ofJson?) = some c ∧ now < c.exp.toInt) ∧
    (isBlankText t = true → decode t s now = .error .empty) ∧
    (isBlankText t = false →
      ((∀ hs ps gs, (trim t).splitToList (· == '.') ≠ [hs, ps, gs]) →
        decode t s now = .error .malformed) ∧
      ∀ hs ps gs, (trim t).splitToList (· == '.') = [hs, ps, gs] →
        ((segmentJson? hs).bind Header.algorithm? = none → decode t s now = .error .malformed) ∧
        ∀ v, segmentJson? hs = some v →
          (∀ a, Header.algorithm? v = some a → a ≠ some algorithm →
            decode t s now = .error .unsupportedAlgorithm) ∧
          (Header.algorithm? v = some (some algorithm) →
            (Header.registeredOk v = false → decode t s now = .error .malformed) ∧
            (Header.registeredOk v = true →
              (Base64.decode .url gs = none → decode t s now = .error .malformed) ∧
              (gs = "" → decode t s now = .error .invalidSignature) ∧
              (Base64.decode .url gs ≠ none → gs ≠ signature s (hs ++ "." ++ ps) →
                decode t s now = .error .invalidSignature) ∧
              (gs = signature s (hs ++ "." ++ ps) →
                ((segmentJson? ps >>= ofJson?) = none → decode t s now = .error .malformed) ∧
                ∀ c, (segmentJson? ps >>= ofJson?) = some c → c.exp.toInt ≤ now →
                  decode t s now = .error .expired)))) := by
  -- a token whose signature segment decodes, and differs from the signature, has a wrong tag
  have mismatch : ∀ hs ps gs, Base64.decode .url gs ≠ none → gs ≠ signature s (hs ++ "." ++ ps) →
      ∃ tag, Base64.decode .url gs = some tag
        ∧ tag ≠ Digest.Hmac.tag s (Utf8.ofString (hs ++ "." ++ ps)) := by
    intro hs ps gs hd hne
    obtain ⟨tag, htag⟩ := Option.ne_none_iff_exists'.1 hd
    refine ⟨tag, htag, fun heq => hne ?_⟩
    rw [← Base64.encode_eq_of_decode_url htag, heq]
    rfl
  refine ⟨fun c hc => ?_, fun hbl => ?_, fun hbl => ?_⟩
  · obtain ⟨hs, ps, gs, v, tag, hsplit, hv, hal, -, htag, hmac, hc, hexp⟩ := decode_eq_ok hc
    obtain ⟨hb, hhs, hparse⟩ := segmentJson?_eq_some hv
    refine ⟨hs, ps, gs, hb, v, eq_of_splitToList hsplit, hsplit, hhs, hparse, hal, ?_, hc, hexp⟩
    rw [← Base64.encode_eq_of_decode_url htag, hmac]
    rfl
  · have hb : (trim t).isEmpty = true := by rw [isEmpty_trim]; exact hbl
    simp [decode, hb]
    rfl
  have hb : (trim t).isEmpty = false := by rw [isEmpty_trim]; exact hbl
  refine ⟨fun hno => ?_, fun hs ps gs hsplit => ?_⟩
  · -- the catch-all case of the match applies: `hno` discharges its side condition
    simp [decode, hb]
    rfl
  refine ⟨fun hnone => ?_, fun v hv => ?_⟩
  · cases hv : segmentJson? hs with
    | none => simp [decode, hb, hsplit, hv]; rfl
    | some v =>
      rw [hv, Option.bind_some] at hnone
      simp [decode, hb, hsplit, hv, hnone]
      rfl
  refine ⟨fun a ha hne => ?_, fun hal => ⟨fun hreg => ?_, fun hreg => ?_⟩⟩
  · simp [decode, hb, hsplit, hv, ha, hne]
    rfl
  · simp [decode, hb, hsplit, hv, hal, hreg]
    rfl
  have hmis := mismatch hs ps gs
  refine ⟨fun hg => ?_, fun hg => ?_, fun hg hne => ?_, fun hg => ?_⟩
  · simp [decode, hb, hsplit, hv, hal, hreg, hg]
    rfl
  · -- the empty signature segment decodes to no bytes, which is no tag
    obtain ⟨tag, htag, hne⟩ := hmis (by rw [hg]; decide)
      (by rw [hg]; exact (signature_ne_empty _ _).symm)
    simp [decode, hb, hsplit, hv, hal, hreg, htag, hne]
    rfl
  · obtain ⟨tag, htag, hne'⟩ := hmis hg hne
    simp [decode, hb, hsplit, hv, hal, hreg, htag, hne']
    rfl
  -- the signature segment is the signature: its bytes are the tag
  have htag : Base64.decode .url gs
      = some (Digest.Hmac.tag s (Utf8.ofString (hs ++ "." ++ ps))) := by
    rw [hg]
    exact Base64.decode_encode_url _
  refine ⟨fun hp => ?_, fun c hc hexp => ?_⟩
  · rw [Option.bind_eq_bind] at hp
    simp [decode, hb, hsplit, hv, hal, hreg, htag, hp]
    rfl
  · rw [Option.bind_eq_bind] at hc
    simp [decode, hb, hsplit, hv, hal, hreg, htag, hc, hexp]
    rfl

end Token

end Gatehouse
