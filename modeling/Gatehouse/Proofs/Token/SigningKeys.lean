import Gatehouse.Proofs.Settings.Checks
import Gatehouse.Proofs.Token.RoundTrip

/-!
When two signing secrets are one key.

HMAC never uses a key as it is: it first brings it to the 64-byte block, hashing a longer key
and padding with zero bytes (`Digest.Hmac.blockKey`). Two keys with the same block key give the
same tag for every message (`tag_eq_of_blockKey_eq`), so the token codec cannot tell them apart:
it writes the same token with either (`encode_eq_of_blockKey_eq`) and decodes every text the
same way under either (`decode_eq_of_blockKey_eq`). Within the block, padding is all there is to
it: two keys of at most 64 bytes have the same block key exactly when one is the other followed
by zero bytes (`blockKey_eq_iff_of_length_le`).

Settings that are read hold two different secrets of at least 32 bytes each (`load_secrets`),
and different strings have different octets, so the two keys differ byte for byte; two such
secrets set alone are always read (`load_secretsOnly`). That does not keep them apart for HMAC: a secret and the same secret followed by a NUL character are
both accepted, and they are one key, under which a refresh token decodes as an access token
(`zero_padded_secrets_load_as_one_key`). What does hold is
`loaded_secrets_one_key_iff_zero_padded`.
-/

namespace Gatehouse

namespace Digest.Hmac

/-- A key within the block is its own block key once padded with zero bytes. -/
theorem blockKey_of_length_le {key : List UInt8} (h : key.length ≤ blockSize) :
    blockKey key = key ++ List.replicate (blockSize - key.length) 0 := by
  simp [blockKey, Nat.not_lt.2 h]

/-- Zero bytes after a key that stays within the block change nothing. -/
theorem blockKey_append_zeros {key : List UInt8} {n : Nat}
    (h : (key ++ List.replicate n 0).length ≤ blockSize) :
    blockKey (key ++ List.replicate n 0) = blockKey key := by
  have hlen : key.length + n ≤ blockSize := by simpa using h
  rw [blockKey_of_length_le h, blockKey_of_length_le (by omega), List.append_assoc,
    ← List.replicate_add, List.length_append, List.length_replicate]
  congr 2
  omega

/-- Two keys within the block have the same block key exactly when one of them is the other
followed by zero bytes. -/
theorem blockKey_eq_iff_of_length_le {k1 k2 : List UInt8} (h1 : k1.length ≤ blockSize)
    (h2 : k2.length ≤ blockSize) :
    blockKey k1 = blockKey k2 ↔
      ∃ n, k1 = k2 ++ List.replicate n 0 ∨ k2 = k1 ++ List.replicate n 0 := by
  constructor
  · intro h
    rw [blockKey_of_length_le h1, blockKey_of_length_le h2] at h
    -- the shorter key is a prefix of the longer, and what lies between is padding
    rcases List.append_eq_append_iff.1 h with ⟨a, hk2, hpad⟩ | ⟨b, hk1, hpad⟩
    · have ha := (List.append_eq_replicate_iff.1 hpad.symm).2.1
      exact ⟨a.length, .inr (ha ▸ hk2)⟩
    · have hb := (List.append_eq_replicate_iff.1 hpad.symm).2.1
      exact ⟨b.length, .inl (hb ▸ hk1)⟩
  · rintro ⟨n, rfl | rfl⟩
    · exact blockKey_append_zeros h1
    · exact (blockKey_append_zeros h2).symm

/-- Keys with the same block key are one key: they tag every message alike. -/
theorem tag_eq_of_blockKey_eq {k1 k2 : List UInt8} (h : blockKey k1 = blockKey k2) :
    tag k1 = tag k2 := by
  funext msg
  simp only [tag, h]

end Digest.Hmac

namespace Token

variable {k1 k2 : List UInt8}

theorem signature_eq_of_blockKey_eq (h : Digest.Hmac.blockKey k1 = Digest.Hmac.blockKey k2)
    (input : String) : signature k1 input = signature k2 input := by
  rw [signature, signature, Digest.Hmac.tag_eq_of_blockKey_eq h]

/-- Keys with the same block key write the same token. -/
theorem encode_eq_of_blockKey_eq (h : Digest.Hmac.blockKey k1 = Digest.Hmac.blockKey k2)
    (c : Claims) : encode c k1 = encode c k2 := by
  simp only [encode, signature_eq_of_blockKey_eq h]

/-- Keys with the same block key decode every text alike: the key only enters through the
tag the signature is checked against. -/
theorem decode_eq_of_blockKey_eq (h : Digest.Hmac.blockKey k1 = Digest.Hmac.blockKey k2)
    (t : String) (now : Int) : decode t k1 now = decode t k2 now := by
  unfold decode
  rw [Digest.Hmac.tag_eq_of_blockKey_eq h]

end Token

namespace Settings

/-- The secrets of settings that are read are different, and each at least 32 bytes long. -/
theorem load_secrets {lookup : String → Option String} {cfg : Settings}
    (h : load lookup = .ok cfg) :
    cfg.accessSecret ≠ cfg.refreshSecret ∧ 32 ≤ cfg.accessSecret.utf8ByteSize ∧
      32 ≤ cfg.refreshSecret.utf8ByteSize := by
  obtain ⟨hchecks, rfl⟩ := load_eq_ok h
  obtain ⟨a, ha, hla⟩ := eq_some_of_secretFault (hchecks .accessSecret (by simp [Check.order]))
  obtain ⟨r, hr, hlr⟩ := eq_some_of_secretFault (hchecks .refreshSecret (by simp [Check.order]))
  have hd := hchecks .distinctSecrets (by simp [Check.order])
  simp only [Check.fault, ha, hr, ite_eq_right_iff, reduceCtorEq, imp_false] at hd
  simp only [described, ha, hr, Option.getD_some]
  exact ⟨hd, hla, hlr⟩

/-- Settings that are read sign with two keys that differ byte for byte and hold at least 32
bytes each. That is all they are promised: two keys with one block key are one key to the codec,
which writes and decodes alike under either, and keys within the block share their block key
exactly when one is the other followed by zero bytes. -/
theorem loaded_secrets_one_key_iff_zero_padded {lookup : String → Option String} {cfg : Settings}
    (h : load lookup = .ok cfg) :
    let ka := Text.Utf8.ofString cfg.accessSecret
    let kr := Text.Utf8.ofString cfg.refreshSecret
    ka ≠ kr ∧ 32 ≤ ka.length ∧ 32 ≤ kr.length ∧
      (Digest.Hmac.blockKey ka = Digest.Hmac.blockKey kr →
        ∀ c t now, Token.encode c ka = Token.encode c kr ∧
          Token.decode t ka now = Token.decode t kr now) ∧
      (ka.length ≤ 64 → kr.length ≤ 64 →
        (Digest.Hmac.blockKey ka = Digest.Hmac.blockKey kr ↔
          ∃ n, ka = kr ++ List.replicate n 0 ∨ kr = ka ++ List.replicate n 0)) := by
  obtain ⟨hne, hla, hlr⟩ := load_secrets h
  refine ⟨fun heq => hne (Text.Utf8.ofString_injective heq), ?_, ?_, ?_, ?_⟩
  · rwa [Text.Utf8.length_ofString]
  · rwa [Text.Utf8.length_ofString]
  · intro hkey c t now
    exact ⟨Token.encode_eq_of_blockKey_eq hkey c, Token.decode_eq_of_blockKey_eq hkey t now⟩
  · exact Digest.Hmac.blockKey_eq_iff_of_length_le

/-- Variables that set the two signing secrets and nothing else. -/
def secretsOnly (access refresh : String) (name : String) : Option String :=
  if name = "JWT_ACCESS_SECRET" then some access
  else if name = "JWT_REFRESH_SECRET" then some refresh
  else none

/-- Two set secrets that differ and hold at least 32 bytes each are read, with every other
setting at its default. -/
theorem load_secretsOnly (a r : String) (ha : Text.isBlankText a = false)
    (hr : Text.isBlankText r = false) (hla : 32 ≤ a.utf8ByteSize) (hlr : 32 ≤ r.utf8ByteSize)
    (hne : a ≠ r) : load (secretsOnly a r) = .ok (described (secretsOnly a r)) := by
  have hnone : firstFault (secretsOnly a r) = none := by
    rw [firstFault_eq_none_iff]
    intro c _
    -- the secrets pass their checks, and every other check reads an unset variable
    cases c <;> simp [Check.fault, setValue, secretsOnly, secretFault, ha, hr, hne,
      Nat.not_lt.2 hla, Nat.not_lt.2 hlr]
  rw [load_eq, hnone]
  rfl

/-- Two different secrets are read, and each is a key of its own length. -/
theorem distinct_secrets_loaded :
    ∃ cfg, load (secretsOnly "access-secret-0123456789abcdef-xyz"
        "refresh-secret-0123456789abcdef-xyz") = .ok cfg ∧
      Text.Utf8.ofString cfg.accessSecret ≠ Text.Utf8.ofString cfg.refreshSecret ∧
      32 ≤ (Text.Utf8.ofString cfg.accessSecret).length := by
  have hload := load_secretsOnly "access-secret-0123456789abcdef-xyz"
    "refresh-secret-0123456789abcdef-xyz" (by decide) (by decide) (by decide) (by decide)
    (by decide)
  obtain ⟨hne, hla, -⟩ := loaded_secrets_one_key_iff_zero_padded hload
  exact ⟨_, hload, hne, hla⟩

/-- A secret of 32 bytes and the same secret followed by a NUL character are read as two
different secrets, yet they are one key: a token signed with the refresh secret decodes under
the access secret to its claims until it expires. -/
theorem zero_padded_secrets_load_as_one_key :
    ∃ cfg, load (secretsOnly "aaaaaaaaaaaaaaaaaaaaaaaaaaaaaaaa"
        "aaaaaaaaaaaaaaaaaaaaaaaaaaaaaaaa\x00") = .ok cfg ∧
      cfg.accessSecret ≠ cfg.refreshSecret ∧
      Digest.Hmac.blockKey (Text.Utf8.ofString cfg.accessSecret) =
        Digest.Hmac.blockKey (Text.Utf8.ofString cfg.refreshSecret) ∧
      ∀ (c : Token.Claims) (now : Int), now < c.exp.toInt →
        Token.decode (Token.encode c (Text.Utf8.ofString cfg.refreshSecret))
          (Text.Utf8.ofString cfg.accessSecret) now = .ok c := by
  have hload := load_secretsOnly "aaaaaaaaaaaaaaaaaaaaaaaaaaaaaaaa"
    "aaaaaaaaaaaaaaaaaaaaaaaaaaaaaaaa\x00" (by decide) (by decide) (by decide) (by decide)
    (by decide)
  have hacc : (described (secretsOnly "aaaaaaaaaaaaaaaaaaaaaaaaaaaaaaaa"
      "aaaaaaaaaaaaaaaaaaaaaaaaaaaaaaaa\x00")).accessSecret =
        "aaaaaaaaaaaaaaaaaaaaaaaaaaaaaaaa" := by decide
  have href : (described (secretsOnly "aaaaaaaaaaaaaaaaaaaaaaaaaaaaaaaa"
      "aaaaaaaaaaaaaaaaaaaaaaaaaaaaaaaa\x00")).refreshSecret =
        "aaaaaaaaaaaaaaaaaaaaaaaaaaaaaaaa" ++ "\x00" := by decide
  refine ⟨_, hload, ?_⟩
  rw [hacc, href]
  -- the refresh key is the access key followed by one zero byte
  have hkey : Digest.Hmac.blockKey (Text.Utf8.ofString "aaaaaaaaaaaaaaaaaaaaaaaaaaaaaaaa") =
      Digest.Hmac.blockKey (Text.Utf8.ofString ("aaaaaaaaaaaaaaaaaaaaaaaaaaaaaaaa" ++ "\x00")) := by
    rw [Text.Utf8.ofString_append, show Text.Utf8.ofString "\x00" = List.replicate 1 0 by decide,
      Digest.Hmac.blockKey_append_zeros (by decide)]
  refine ⟨by decide, hkey, fun c now hnow => ?_⟩
  rw [Token.decode_eq_of_blockKey_eq hkey, Token.decode_encode, if_neg (Int.not_le.2 hnow)]

end Settings

end Gatehouse
