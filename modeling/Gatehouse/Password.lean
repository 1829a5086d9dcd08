import Gatehouse.Digest.Hmac
import Gatehouse.Encoding.Base64
import Gatehouse.Text.Utf8

/-!
Password digests.

A password is kept as the HMAC-SHA256 of its UTF-8 bytes under the member's salt (also
UTF-8), written in padded standard base64. A stored digest is checked by decoding it
strictly and comparing the decoded tag with the tag of the offered password: any other
spelling of the digest (missing or extra padding, a blank, the URL alphabet, non-zero
trailing bits, a tag of the wrong length) does not match.
-/

namespace Gatehouse.Password

/-- The tag of a password under a salt. -/
def tag (password salt : String) : List UInt8 :=
  Digest.Hmac.tag (Text.Utf8.ofString salt) (Text.Utf8.ofString password)

/-- The stored digest of a password under a salt. -/
def digest (password salt : String) : String :=
  Encoding.Base64.encode .standard (tag password salt)

/-- Whether a stored digest is the digest of a password under a salt. -/
def verify (password stored salt : String) : Bool :=
  match Encoding.Base64.decode .standard stored with
  | some t => t == tag password salt
  | none => false

end Gatehouse.Password
