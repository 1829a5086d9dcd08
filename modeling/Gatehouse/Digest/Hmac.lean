import Gatehouse.Digest.Sha256

/-!
HMAC-SHA256.

A key is first brought to the 64-byte block: a key longer than the block is replaced by its
digest, and the result is padded with zero bytes. Two keys with the same block key are the
same key to HMAC. The tag is `H((K ⊕ opad) ‖ H((K ⊕ ipad) ‖ m))` with `ipad = 0x36` and
`opad = 0x5c` repeated over the block; it is always 32 bytes.
-/

namespace Gatehouse.Digest.Hmac

/-- The block length of SHA-256. -/
def blockSize : Nat := 64

/-- A key brought to the block: hashed when longer than the block, then zero padded. -/
def blockKey (key : List UInt8) : List UInt8 :=
  let k := if blockSize < key.length then Sha256.digest key else key
  k ++ List.replicate (blockSize - k.length) 0

/-- The HMAC-SHA256 tag of a message under a key. -/
def tag (key msg : List UInt8) : List UInt8 :=
  let k := blockKey key
  Sha256.digest (k.map (· ^^^ 0x5c) ++ Sha256.digest (k.map (· ^^^ 0x36) ++ msg))

end Gatehouse.Digest.Hmac
