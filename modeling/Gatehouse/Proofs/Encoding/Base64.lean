import Gatehouse.Encoding.Base64
import Gatehouse.Password
import Gatehouse.Proofs.Text.Utf8

/-!
Base64 without padding is a bijection between byte lists and the strings decoding accepts.

Encoding is read back exactly (`decodeList_encodeList`), and every text decoding accepts is
the encoding of what it decodes to (`encodeList_of_decodeList`): a character outside the
alphabet, a final group of one character or non-zero unused bits are all refused, so no byte
list has a second spelling. The URL alphabet, the one tokens use, gives the two directions
as `decode_encode_url` and `encode_eq_of_decode_url`; its encodings are made of alphabet
characters only (`mem_encode_url`).

The standard alphabet pads: its encoding is the unpadded one followed by the `=` the last group
asks for (`encodeList_padded`), and since no alphabet character is `=`, the padding comes off
exactly (`unpad_append_replicate`), so `decode_encode_standard` reads every encoding back.
Conversely a text the padded decoding accepts is its body followed by at most two `=`
(`unpad_eq_some`); the body is the unpadded encoding of the bytes, whose length fixes how many
`=` the last group asks for, so the text is the padded encoding (`encode_eq_of_decode_standard`).
Password digests are written in it, so a stored digest verifies a password exactly when it is
that password's digest (`verify_iff_eq_digest`).

The proofs follow the recursion of `encodeList` and `decodeList` group by group; within a
group the six-bit values and the bytes are related by `omega` over the division and
remainder expressions the definitions use.
-/

namespace Gatehouse.Encoding.Base64

open Text.Utf8 (toNat_toUInt8 ofNat_eq_of_eq_val)

-- ============================================================ the alphabet

/-- Each URL character reads back as the value it was written for. -/
theorem value?_char_url : ∀ n, n < 64 → Alphabet.url.value? (Alphabet.url.char n) = some n := by
  decide

/-- A character that reads as a value is the character written for that value. -/
theorem char_of_value? {a : Alphabet} {c : Char} {v : Nat} (h : a.value? c = some v) :
    v < 64 ∧ a.char v = c := by
  unfold Alphabet.value? at h
  simp only at h
  -- one branch per row of the alphabet: capitals, small letters, digits, the two extras
  split at h
  · cases h
    refine ⟨by omega, ?_⟩
    rw [Alphabet.char, if_pos (by omega)]
    exact ofNat_eq_of_eq_val (by omega)
  split at h
  · cases h
    refine ⟨by omega, ?_⟩
    rw [Alphabet.char, if_neg (by omega), if_pos (by omega)]
    exact ofNat_eq_of_eq_val (by omega)
  split at h
  · cases h
    refine ⟨by omega, ?_⟩
    rw [Alphabet.char, if_neg (by omega), if_neg (by omega), if_pos (by omega)]
    exact ofNat_eq_of_eq_val (by omega)
  split at h
  · rename_i h62
    cases h
    exact ⟨by omega, by simp [Alphabet.char, h62]⟩
  split at h
  · rename_i h63
    cases h
    exact ⟨by omega, by simp [Alphabet.char, h63]⟩
  · cases h

-- ============================================================ bytes and values

/-- A number equal to a byte's value converts back to that byte. -/
theorem toUInt8_of_eq_toNat {m : Nat} {x : UInt8} (h : m = x.toNat) : m.toUInt8 = x := by
  subst h
  simp

-- ============================================================ the two directions

section Unpadded

variable {a : Alphabet} (hp : a.padded = false)
include hp

/-- Decoding reads back every encoding, for an unpadded alphabet whose characters read back
as their values. -/
theorem decodeList_encodeList (hv : ∀ n, n < 64 → a.value? (a.char n) = some n)
    (bs : List UInt8) : decodeList a (encodeList a bs) = some bs := by
  fun_induction encodeList a bs with
  | case1 => rfl
  | case2 x n =>
    have hx := x.toNat_lt
    simp only [hp, Bool.false_eq_true, ↓reduceIte, List.append_nil, decodeList,
      hv (n / 4) (by omega), hv (n % 4 * 16) (by omega), Option.bind_eq_bind, Option.bind_some]
    -- the four unused bits of the last character are zero
    rw [if_neg (by omega)]
    simp only [Option.pure_def, Option.some.injEq, List.cons.injEq, and_true]
    exact toUInt8_of_eq_toNat (by omega)
  | case3 x y n =>
    have hx := x.toNat_lt
    have hy := y.toNat_lt
    simp only [hp, Bool.false_eq_true, ↓reduceIte, List.append_nil, decodeList,
      hv (n / 1024) (by omega), hv (n / 16 % 64) (by omega), hv (n % 16 * 4) (by omega),
      Option.bind_eq_bind, Option.bind_some]
    rw [if_neg (by omega)]
    simp only [Option.pure_def, Option.some.injEq, List.cons.injEq, and_true]
    exact ⟨toUInt8_of_eq_toNat (by omega), toUInt8_of_eq_toNat (by omega)⟩
  | case4 x y z rest n ih =>
    have hx := x.toNat_lt
    have hy := y.toNat_lt
    have hz := z.toNat_lt
    simp only [List.cons_append, List.nil_append, decodeList,
      hv (n / 262144) (by omega), hv (n / 4096 % 64) (by omega), hv (n / 64 % 64) (by omega),
      hv (n % 64) (by omega), ih, Option.bind_eq_bind, Option.bind_some]
    simp only [Option.pure_def, Option.some.injEq, List.cons.injEq, and_true]
    exact ⟨toUInt8_of_eq_toNat (by omega), toUInt8_of_eq_toNat (by omega),
      toUInt8_of_eq_toNat (by omega)⟩

/-- Every text an unpadded alphabet decodes is the encoding of its bytes: decoding is strict
enough that each byte list has exactly one spelling. -/
theorem encodeList_of_decodeList {cs : List Char} {bs : List UInt8}
    (h : decodeList a cs = some bs) : encodeList a bs = cs := by
  fun_induction decodeList a cs generalizing bs with
  | case1 => cases h; rfl
  | case2 => cases h
  | case3 c1 c2 =>
    simp only [Option.bind_eq_bind, Option.bind_eq_some_iff] at h
    obtain ⟨v1, h1, v2, h2, h⟩ := h
    obtain ⟨hv1, hc1⟩ := char_of_value? h1
    obtain ⟨hv2, hc2⟩ := char_of_value? h2
    split at h
    · cases h
    · cases h
      simp only [encodeList, hp, Bool.false_eq_true, ↓reduceIte, List.append_nil]
      rw [toNat_toUInt8 (by omega), ← hc1, ← hc2,
        show (v1 * 4 + v2 / 16) / 4 = v1 by omega, show (v1 * 4 + v2 / 16) % 4 * 16 = v2 by omega]
  | case4 c1 c2 c3 =>
    simp only [Option.bind_eq_bind, Option.bind_eq_some_iff] at h
    obtain ⟨v1, h1, v2, h2, v3, h3, h⟩ := h
    obtain ⟨hv1, hc1⟩ := char_of_value? h1
    obtain ⟨hv2, hc2⟩ := char_of_value? h2
    obtain ⟨hv3, hc3⟩ := char_of_value? h3
    split at h
    · cases h
    · cases h
      simp only [encodeList, hp, Bool.false_eq_true, ↓reduceIte, List.append_nil]
      rw [toNat_toUInt8 (by omega), toNat_toUInt8 (by omega), ← hc1, ← hc2, ← hc3]
      -- the two bytes regrouped into one number give the three values back
      generalize hm : (v1 * 4096 + v2 * 64 + v3) / 1024 * 256
        + (v1 * 4096 + v2 * 64 + v3) / 4 % 256 = m
      rw [show m / 1024 = v1 by omega, show m / 16 % 64 = v2 by omega,
        show m % 16 * 4 = v3 by omega]
  | case5 c1 c2 c3 c4 rest ih =>
    simp only [Option.bind_eq_bind, Option.bind_eq_some_iff, Option.pure_def,
      Option.some.injEq] at h
    obtain ⟨v1, h1, v2, h2, v3, h3, v4, h4, tail, ht, rfl⟩ := h
    obtain ⟨hv1, hc1⟩ := char_of_value? h1
    obtain ⟨hv2, hc2⟩ := char_of_value? h2
    obtain ⟨hv3, hc3⟩ := char_of_value? h3
    obtain ⟨hv4, hc4⟩ := char_of_value? h4
    simp only [encodeList, ih ht]
    rw [toNat_toUInt8 (by omega), toNat_toUInt8 (by omega), toNat_toUInt8 (by omega),
      ← hc1, ← hc2, ← hc3, ← hc4]
    -- the three bytes regrouped into one number give the four values back
    generalize hm : (v1 * 262144 + v2 * 4096 + v3 * 64 + v4) / 65536 * 65536
      + (v1 * 262144 + v2 * 4096 + v3 * 64 + v4) / 256 % 256 * 256
      + (v1 * 262144 + v2 * 4096 + v3 * 64 + v4) % 256 = m
    rw [show m / 262144 = v1 by omega, show m / 4096 % 64 = v2 by omega,
      show m / 64 % 64 = v3 by omega, show m % 64 = v4 by omega]
    rfl

/-- An unpadded encoding is made of alphabet characters only. -/
theorem mem_encodeList {c : Char} {bs : List UInt8} (h : c ∈ encodeList a bs) :
    ∃ n, n < 64 ∧ a.char n = c := by
  fun_induction encodeList a bs with
  | case1 => cases h
  | case2 x n =>
    simp only [hp, Bool.false_eq_true, ↓reduceIte, List.append_nil, List.mem_cons,
      List.not_mem_nil, or_false] at h
    rcases h with rfl | rfl
    · exact ⟨n / 4, by have := x.toNat_lt; omega, rfl⟩
    · exact ⟨n % 4 * 16, by omega, rfl⟩
  | case3 x y n =>
    simp only [hp, Bool.false_eq_true, ↓reduceIte, List.append_nil, List.mem_cons,
      List.not_mem_nil, or_false] at h
    have hx := x.toNat_lt
    have hy := y.toNat_lt
    rcases h with rfl | rfl | rfl
    · exact ⟨n / 1024, by omega, rfl⟩
    · exact ⟨n / 16 % 64, by omega, rfl⟩
    · exact ⟨n % 16 * 4, by omega, rfl⟩
  | case4 x y z rest n ih =>
    simp only [List.cons_append, List.nil_append, List.mem_cons] at h
    have hx := x.toNat_lt
    have hy := y.toNat_lt
    have hz := z.toNat_lt
    rcases h with rfl | rfl | rfl | rfl | h
    · exact ⟨n / 262144, by omega, rfl⟩
    · exact ⟨n / 4096 % 64, by omega, rfl⟩
    · exact ⟨n / 64 % 64, by omega, rfl⟩
    · exact ⟨n % 64, by omega, rfl⟩
    · exact ih h

end Unpadded

-- ============================================================ the URL alphabet

/-- URL base64 decodes every encoding back to its bytes. -/
theorem decode_encode_url (bs : List UInt8) :
    decode .url (encode .url bs) = some bs := by
  rw [decode, encode, String.toList_ofList]
  exact decodeList_encodeList rfl value?_char_url bs

/-- URL base64 accepts only encodings: what decodes to `bs` is the encoding of `bs`. -/
theorem encode_eq_of_decode_url {s : String} {bs : List UInt8}
    (h : decode .url s = some bs) : encode .url bs = s := by
  rw [decode, if_neg (by decide)] at h
  rw [encode, encodeList_of_decodeList rfl h, String.ofList_toList]

/-- A URL encoding is spelled with alphabet characters only. -/
theorem mem_encode_url {c : Char} {bs : List UInt8} (h : c ∈ (encode .url bs).toList) :
    ∃ n, n < 64 ∧ Alphabet.url.char n = c := by
  rw [encode, String.toList_ofList] at h
  exact mem_encodeList rfl h

-- ============================================================ the standard alphabet

/-- An alphabet with the same characters and no padding. -/
def Alphabet.bare (a : Alphabet) : Alphabet := ⟨a.c62, a.c63, false⟩

@[simp] theorem Alphabet.padded_bare (a : Alphabet) : a.bare.padded = false := rfl

@[simp] theorem Alphabet.char_bare (a : Alphabet) (n : Nat) : a.bare.char n = a.char n := rfl

@[simp] theorem Alphabet.value?_bare (a : Alphabet) (c : Char) : a.bare.value? c = a.value? c :=
  rfl

/-- Decoding reads the alphabet's characters only, not whether it pads. -/
theorem decodeList_bare (a : Alphabet) (cs : List Char) :
    decodeList a.bare cs = decodeList a cs := by
  fun_induction decodeList a cs <;> simp only [decodeList, Alphabet.value?_bare, *]

/-- A padded encoding is the unpadded one, then one `=` for each byte the last group lacks. -/
theorem encodeList_padded {a : Alphabet} (hp : a.padded = true) (bs : List UInt8) :
    encodeList a bs = encodeList a.bare bs ++ List.replicate ((3 - bs.length % 3) % 3) '=' := by
  fun_induction encodeList a bs with
  | case1 => rfl
  | case2 x n => simp [encodeList, hp, n]
  | case3 x y n => simp [encodeList, hp, n]
  | case4 x y z rest n ih =>
    rw [encodeList, ih]
    simp only [List.length_cons, List.append_assoc, Alphabet.char_bare, n]
    congr 3
    omega

theorem length_encodeList_bare (a : Alphabet) (bs : List UInt8) :
    (encodeList a.bare bs).length = (4 * bs.length + 2) / 3 := by
  fun_induction encodeList a.bare bs with
  | case1 => rfl
  | case2 => simp
  | case3 => simp
  | case4 x y z rest n ih =>
    simp only [List.length_append, List.length_cons, List.length_nil, ih]
    omega

theorem dropWhile_replicate_append {k : Nat} {l : List Char} (h : ∀ c ∈ l.head?, c ≠ '=') :
    (List.replicate k '=' ++ l).dropWhile (· = '=') = l := by
  induction k with
  | zero =>
    cases l with
    | nil => rfl
    | cons c r => simp [h c rfl]
  | succ k ih => simp [List.replicate_succ, ih]

/-- Padding after a body with no `=` in it comes off again, when the body's length and the
padding's fit the rules for the last group. -/
theorem unpad_append_replicate {body : List Char} {k : Nat} (hb : ∀ c ∈ body, c ≠ '=')
    (hk : k ≤ 2) (hlen : (body.length + k) % 4 = 0) (h1 : body.length % 4 ≠ 1)
    (hpad : k = 0 ∨ body.length % 4 = 4 - k) :
    unpad (body ++ List.replicate k '=') = some body := by
  have hdrop : ((body ++ List.replicate k '=').reverse.dropWhile (· = '=')).reverse = body := by
    rw [List.reverse_append, List.reverse_replicate, dropWhile_replicate_append,
      List.reverse_reverse]
    intro c hc
    exact hb c (List.mem_reverse.1 (List.mem_of_mem_head? hc))
  rw [unpad]
  simp only [List.length_append, List.length_replicate, hdrop, Nat.add_sub_cancel_left]
  rw [if_neg (by omega), if_pos ⟨hk, h1, hpad⟩]

theorem char_standard_ne_pad : ∀ n, n < 64 → Alphabet.standard.char n ≠ '=' := by decide

theorem value?_char_standard :
    ∀ n, n < 64 → Alphabet.standard.value? (Alphabet.standard.char n) = some n := by
  decide

/-- Standard base64 decodes every encoding back to its bytes. -/
theorem decode_encode_standard (bs : List UInt8) :
    decode .standard (encode .standard bs) = some bs := by
  have hlen := length_encodeList_bare Alphabet.standard bs
  have hb : ∀ c ∈ encodeList Alphabet.standard.bare bs, c ≠ '=' := by
    intro c hc
    obtain ⟨n, hn, rfl⟩ := mem_encodeList rfl hc
    exact char_standard_ne_pad n hn
  -- the padding is what the length of the last group asks for, so it comes off again
  have hgroups : bs.length % 3 = 0 ∨ bs.length % 3 = 1 ∨ bs.length % 3 = 2 := by omega
  have hunpad : unpad (encodeList Alphabet.standard.bare bs ++
      List.replicate ((3 - bs.length % 3) % 3) '=') = some (encodeList Alphabet.standard.bare bs) := by
    apply unpad_append_replicate hb <;> rcases hgroups with h | h | h <;> omega
  rw [decode, if_pos (show Alphabet.standard.padded = true from rfl), encode,
    String.toList_ofList, encodeList_padded rfl, hunpad]
  show decodeList Alphabet.standard (encodeList Alphabet.standard.bare bs) = some bs
  rw [← decodeList_bare, @decodeList_encodeList Alphabet.standard.bare rfl value?_char_standard]

/-- A text is what is left once its trailing `=` are dropped, followed by those `=`. -/
theorem eq_append_trailing_pads (cs : List Char) :
    let body := (cs.reverse.dropWhile (· = '=')).reverse
    cs = body ++ List.replicate (cs.length - body.length) '=' := by
  intro body
  -- the reversed text splits into its leading run of `=` and the rest
  have hsplit := List.takeWhile_append_dropWhile (p := fun c => decide (c = '=')) (l := cs.reverse)
  have hpads : (cs.reverse.takeWhile (· = '=')).reverse =
      List.replicate (cs.length - body.length) '=' := by
    rw [List.eq_replicate_iff]
    constructor
    · have := congrArg List.length hsplit
      simp only [List.length_append, List.length_reverse] at this
      simp only [List.length_reverse, body]
      omega
    · intro c hc
      simpa using List.mem_takeWhile_imp (List.mem_reverse.1 hc)
  calc cs = (cs.reverse.takeWhile (· = '=') ++ cs.reverse.dropWhile (· = '=')).reverse := by
        rw [hsplit, List.reverse_reverse]
    _ = body ++ List.replicate (cs.length - body.length) '=' := by
        rw [List.reverse_append, hpads]

/-- The text `unpad` accepts is what it keeps followed by at most two `=`, in groups of four. -/
theorem unpad_eq_some {cs body : List Char} (h : unpad cs = some body) :
    cs = body ++ List.replicate (cs.length - body.length) '=' ∧ cs.length % 4 = 0 ∧
      cs.length - body.length ≤ 2 := by
  unfold unpad at h
  split at h
  · cases h
  · rename_i hlen
    dsimp only at h
    split at h
    · rename_i hpad
      cases h
      exact ⟨eq_append_trailing_pads cs, by omega, hpad.1⟩
    · cases h

/-- Standard base64 accepts only encodings: a text that decodes to `bs` is the padded encoding
of `bs`. -/
theorem encode_eq_of_decode_standard {s : String} {bs : List UInt8}
    (h : decode .standard s = some bs) : encode .standard bs = s := by
  rw [decode, if_pos (show Alphabet.standard.padded = true from rfl)] at h
  split at h
  · rename_i body hbody
    obtain ⟨hs, hlen, hpads⟩ := unpad_eq_some hbody
    -- the body is the unpadded encoding of the bytes, so its length is fixed by theirs
    have hbare : encodeList Alphabet.standard.bare bs = body :=
      encodeList_of_decodeList rfl (by rw [decodeList_bare]; exact h)
    have hL := length_encodeList_bare Alphabet.standard bs
    rw [hbare] at hL
    have hsl := congrArg List.length hs
    rw [List.length_append, List.length_replicate] at hsl
    rw [encode, encodeList_padded rfl, hbare, ← String.ofList_toList (s := s)]
    congr 1
    rw [hs]
    congr 2
    -- the padding is what the length of the last group asks for
    have hgroups : bs.length % 3 = 0 ∨ bs.length % 3 = 1 ∨ bs.length % 3 = 2 := by omega
    rcases hgroups with hg | hg | hg <;> omega
  · cases h

end Gatehouse.Encoding.Base64

namespace Gatehouse.Password

/-- A password verifies against its own digest, under every salt. -/
theorem verify_digest (password salt : String) :
    verify password (digest password salt) salt = true := by
  rw [verify, digest, Encoding.Base64.decode_encode_standard]
  exact beq_self_eq_true _

/-- A stored text that verifies a password is that password's digest: the decoded tag is the
password's tag, and a text that decodes is the encoding of what it decodes to. -/
theorem eq_digest_of_verify {password stored salt : String}
    (h : verify password stored salt = true) : stored = digest password salt := by
  unfold verify at h
  split at h
  · rename_i t ht
    rw [beq_iff_eq] at h
    subst h
    exact (Encoding.Base64.encode_eq_of_decode_standard ht).symm
  · cases h

/-- Password verification is exactly digest equality. For every password, salt and stored text,
the stored text verifies the password under the salt exactly when it is the password's digest:
the padded standard base64 of the HMAC-SHA256 of the password keyed by the salt. So a stored
digest accepts exactly the passwords whose tag it spells, and every other spelling of a tag
(padding missing or added, a blank, the URL alphabet, non-zero unused bits, a tag of another
length) verifies nothing. -/
theorem verify_iff_eq_digest (password stored salt : String) :
    verify password stored salt = true ↔ stored = digest password salt := by
  constructor
  · exact eq_digest_of_verify
  · rintro rfl
    exact verify_digest password salt

end Gatehouse.Password
