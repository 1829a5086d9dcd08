import Gatehouse.Token.Codec
import Gatehouse.Proofs.Json.RoundTrip
import Gatehouse.Proofs.Encoding.Base64

/-!
A signed token decodes to the claims it was made from.

`decode_encode_of_lt_exp` is the round trip: decoding `encode c secret` with the same secret
at any second before `c.exp` gives back `c`, for every subject and token id (absent, empty,
blank or any text) and every pair of signed 64-bit instants. Along the way it says what the
token looks like: three URL base64 segments joined by dots, the first spelling the fixed
header, and no blank anywhere, so the trimming `decode` starts with changes nothing.

The proof walks `decode` check by check. The header and the claims are written as JSON
objects of scalar fields, so the reader takes them back (`Json.parse_render_obj`); the URL
alphabet has neither a dot nor a blank (`char_url_safe`), so the token splits into exactly its
three segments (`splitToList_dots`) and has no blank to trim (`not_isBlank_encode`); the
signature segment decodes to the tag it encodes (`Base64.decode_encode_url`); and the claims
read from their JSON are the claims written (`ofJson?_toJson`).
-/

namespace Gatehouse.Token

open Encoding Text

-- ============================================================ the header

/-- The header every token is written with, as a JSON value. -/
def headerValue : Json.Value := .obj [("typ", .str "JWT"), ("alg", .str algorithm)]

theorem headerText_eq_render : headerText = headerValue.render := by decide

theorem algorithm?_header : Header.algorithm? headerValue = some (some algorithm) := by decide

theorem registeredOk_header : Header.registeredOk headerValue = true := by decide

-- ============================================================ the claims

theorem int64?_toInt (x : Int64) : int64? (.num (.int x.toInt)) = some x := by
  rw [int64?, if_pos ⟨Int64.le_toInt x, Int64.toInt_lt x⟩, Int64.ofInt_toInt]

/-- An optional text written as a string, or left out, reads back as itself. -/
theorem optionalText?_map_str (o : Option String) : optionalText? (o.map .str) = some o := by
  cases o <;> rfl

/-- The JSON of claims is an object in which each of its four fields is found once, the two
optional ones only when present, and no registered claim is written. -/
theorem toJson_fields (c : Claims) :
    ∃ fs, c.toJson = .obj fs ∧
      single? fs "sub" = some (c.sub.map .str) ∧ single? fs "jti" = some (c.jti.map .str) ∧
      single? fs "iat" = some (some (.int c.iat.toInt)) ∧
      single? fs "exp" = some (some (.int c.exp.toInt)) ∧ registeredOk fs = true := by
  obtain ⟨sub, iat, exp, jti⟩ := c
  refine ⟨_, rfl, ?_⟩
  -- the names differ, so each filter keeps at most its own field
  cases sub <;> cases jti <;> simp [single?, registeredOk, occurrences]

/-- Claims read back from their JSON are the claims written. -/
theorem ofJson?_toJson (c : Claims) : ofJson? c.toJson = some c := by
  obtain ⟨fs, hfs, hsub, hjti, hiat, hexp, hreg⟩ := toJson_fields c
  simp only [ofJson?, hfs, Json.Value.fields?, hsub, hjti, hiat, hexp, hreg, Json.Value.int,
    optionalText?_map_str, int64?_toInt, Option.bind_eq_bind, Option.bind_some, ↓reduceIte,
    Option.pure_def]

/-- The JSON of claims is an object of scalar fields. -/
theorem toJson_scalar (c : Claims) :
    ∃ fs, c.toJson = .obj fs ∧ ∀ f ∈ fs, Json.Scalar f.2 := by
  have hint : ∀ x : Int64, Json.Scalar (Json.Value.int x.toInt) := fun x =>
    ⟨Int64.le_toInt x, by have := Int64.toInt_lt x; simp only [Json.u64Max]; omega⟩
  refine ⟨_, rfl, fun f hf => ?_⟩
  simp only [List.mem_append, List.mem_cons, List.not_mem_nil, or_false] at hf
  rcases hf with (h | rfl | rfl) | h
  · cases hs : c.sub <;> simp [hs] at h
    subst h
    trivial
  · exact hint _
  · exact hint _
  · cases hs : c.jti <;> simp [hs] at h
    subst h
    trivial

-- ============================================================ segments

/-- The JSON a segment holds, for a segment written from an object of scalar fields. -/
theorem segmentJson?_segment {fs : List (String × Json.Value)}
    (hfs : ∀ f ∈ fs, Json.Scalar f.2) :
    segmentJson? (segment (Json.Value.obj fs).render) = some (.obj fs) := by
  rw [segmentJson?, segment, Base64.decode_encode_url]
  simp only [Json.parse_render_obj fs hfs]

theorem segmentJson?_header : segmentJson? (segment headerText) = some headerValue := by
  rw [headerText_eq_render, headerValue, segmentJson?_segment]
  intro f hf
  simp only [List.mem_cons, List.not_mem_nil, or_false] at hf
  rcases hf with rfl | rfl <;> trivial

theorem segmentJson?_payload (c : Claims) :
    segmentJson? (segment c.payload) = some c.toJson := by
  obtain ⟨fs, hfs, hscalar⟩ := toJson_scalar c
  rw [Claims.payload, hfs, segmentJson?_segment hscalar]

-- ============================================================ the shape of a token

/-- The URL alphabet has neither a dot nor a blank. -/
theorem char_url_safe : ∀ n, n < 64 →
    Base64.Alphabet.url.char n ≠ '.' ∧ isBlank (Base64.Alphabet.url.char n) = false := by
  decide

theorem encode_url_safe {bs : List UInt8} {c : Char} (h : c ∈ (Base64.encode .url bs).toList) :
    c ≠ '.' ∧ isBlank c = false := by
  obtain ⟨n, hn, rfl⟩ := Base64.mem_encode_url h
  exact char_url_safe n hn

theorem encode_eq (c : Claims) (secret : List UInt8) :
    encode c secret = segment headerText ++ "." ++ segment c.payload ++ "."
      ++ signature secret (segment headerText ++ "." ++ segment c.payload) := rfl

/-- Three dot-free segments joined by dots split back into those three. -/
theorem splitToList_dots {h p g : String} (hh : ∀ c ∈ h.toList, c ≠ '.')
    (hp : ∀ c ∈ p.toList, c ≠ '.') (hg : ∀ c ∈ g.toList, c ≠ '.') :
    (h ++ "." ++ p ++ "." ++ g).splitToList (· == '.') = [h, p, g] := by
  have hno : ∀ s : String, (∀ c ∈ s.toList, c ≠ '.') →
      List.splitOnP (· == '.') s.toList = [s.toList] := fun s hs =>
    List.splitOnP_eq_singleton fun c hc => by simpa using hs c hc
  rw [String.splitToList_of_valid]
  simp only [String.toList_append, show ".".toList = ['.'] from rfl, List.append_assoc,
    List.cons_append, List.nil_append]
  rw [List.splitOnP_append_cons _ _ (by decide), List.splitOnP_append_cons _ _ (by decide),
    hno h hh, hno p hp, hno g hg]
  simp [String.ofList_toList]

/-- A string that splits into three segments at its dots is those segments joined by dots. -/
theorem eq_of_splitToList {t h p g : String} (hs : t.splitToList (· == '.') = [h, p, g]) :
    t = h ++ "." ++ p ++ "." ++ g := by
  rw [String.splitToList_of_valid] at hs
  have hsp : t.toList.splitOn '.' = [h.toList, p.toList, g.toList] := by
    rw [List.splitOn_eq_splitOnP]
    have := congrArg (List.map String.toList) hs
    simpa [List.map_map, Function.comp_def, String.toList_ofList] using this
  have hjoin : ['.'].intercalate (t.toList.splitOn '.') = t.toList := List.intercalate_splitOn '.'
  rw [hsp] at hjoin
  rw [← String.toList_inj, ← hjoin]
  simp [String.toList_append, List.intercalate]

theorem splitToList_encode (c : Claims) (secret : List UInt8) :
    (encode c secret).splitToList (· == '.') = [segment headerText, segment c.payload,
      signature secret (segment headerText ++ "." ++ segment c.payload)] := by
  rw [encode_eq]
  exact splitToList_dots (fun ch hch => (encode_url_safe hch).1)
    (fun ch hch => (encode_url_safe hch).1) (fun ch hch => (encode_url_safe hch).1)

theorem not_isBlank_encode (c : Claims) (secret : List UInt8) :
    ∀ ch ∈ (encode c secret).toList, isBlank ch = false := by
  intro ch hch
  rw [encode_eq] at hch
  simp only [String.toList_append, List.mem_append, segment, signature] at hch
  -- every character is a dot or comes from one of the three encodings
  rcases hch with (((h1 | h2) | h3) | h4) | h5
  · exact (encode_url_safe h1).2
  · simp only [show ".".toList = ['.'] from rfl, List.mem_singleton] at h2
    subst h2
    decide
  · exact (encode_url_safe h3).2
  · simp only [show ".".toList = ['.'] from rfl, List.mem_singleton] at h4
    subst h4
    decide
  · exact (encode_url_safe h5).2

/-- Every token holds the dots between its segments. -/
theorem dot_mem_encode (c : Claims) (secret : List UInt8) : '.' ∈ (encode c secret).toList := by
  rw [encode_eq]
  simp [String.toList_append]

theorem isEmpty_encode (c : Claims) (secret : List UInt8) : (encode c secret).isEmpty = false := by
  have hdot := dot_mem_encode c secret
  refine Bool.eq_false_iff.2 fun hE => ?_
  rw [String.isEmpty_iff.1 hE] at hdot
  simp at hdot

-- ============================================================ the round trip

/-- A token decodes, with the secret it was signed with, to the claims it was made from until
their expiry, and as expired from then on: every check before the last one passes. -/
theorem decode_encode (c : Claims) (secret : List UInt8) (now : Int) :
    decode (encode c secret) secret now = if c.exp.toInt ≤ now then .error .expired else .ok c := by
  rw [decode, trim_eq_self (not_isBlank_encode c secret)]
  simp only [isEmpty_encode, splitToList_encode, segmentJson?_header, algorithm?_header,
    registeredOk_header, signature, Base64.decode_encode_url, segmentJson?_payload,
    ofJson?_toJson, Bool.false_eq_true, ↓reduceIte, pure_bind, bne_self_eq_false,
    Option.bind_eq_bind, Option.bind_some, Bool.not_true]
  split <;> rfl

/-- A token decodes, with the secret it was signed with and at any second before its expiry,
to exactly the claims it was made from. It is three URL base64 segments joined by dots, the
first of them spelling the fixed header, and holds no blank, so trimming leaves it as it is. -/
theorem decode_encode_of_lt_exp (c : Claims) (secret : List UInt8) (now : Int)
    (h : now < c.exp.toInt) :
    decode (encode c secret) secret now = .ok c ∧
      (∃ hs ps gs, (encode c secret).splitToList (· == '.') = [hs, ps, gs]
        ∧ (∀ seg ∈ [hs, ps, gs], ∃ bs, Base64.encode .url bs = seg)
        ∧ Base64.decode .url hs = some (Utf8.ofString headerText)
        ∧ segmentJson? hs = some headerValue)
      ∧ (∀ ch ∈ (encode c secret).toList, isBlank ch = false)
      ∧ trim (encode c secret) = encode c secret := by
  have htrim := trim_eq_self (not_isBlank_encode c secret)
  refine ⟨?_, ⟨_, _, _, splitToList_encode c secret, ?_, ?_, segmentJson?_header⟩,
    not_isBlank_encode c secret, htrim⟩
  · rw [decode, htrim]
    simp only [isEmpty_encode, splitToList_encode, segmentJson?_header, algorithm?_header,
      registeredOk_header, signature, Base64.decode_encode_url, segmentJson?_payload,
      ofJson?_toJson, Bool.false_eq_true, ↓reduceIte, pure_bind, bne_self_eq_false,
      Option.bind_eq_bind, Option.bind_some, Bool.not_true]
    -- every check passes; only the expiry is left
    rw [if_neg (Int.not_le.2 h)]
    rfl
  · intro seg hseg
    simp only [List.mem_cons, List.not_mem_nil, or_false] at hseg
    rcases hseg with rfl | rfl | rfl
    · exact ⟨_, rfl⟩
    · exact ⟨_, rfl⟩
    · exact ⟨_, rfl⟩
  · exact Base64.decode_encode_url _

/-- A token of claims without subject or id, issued at second 0 and expiring at second 1,
signed with the empty secret, decodes at second 0. -/
theorem decode_encode_at_zero :
    (0 : Int) < (⟨none, 0, 1, none⟩ : Claims).exp.toInt ∧
      decode (encode ⟨none, 0, 1, none⟩ []) [] 0 = .ok ⟨none, 0, 1, none⟩ :=
  ⟨by decide, (decode_encode_of_lt_exp ⟨none, 0, 1, none⟩ [] 0 (by decide)).1⟩

end Gatehouse.Token
