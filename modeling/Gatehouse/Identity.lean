import Gatehouse.Text.Blank
import Gatehouse.Text.Nfkc
import Gatehouse.Text.Lower

/-!
Identities: the canonical form members are registered and looked up under.

The canonical form of a raw identity is its text with White_Space trimmed from both ends,
brought to NFKC, then lowercased. Trimming comes first, so blanks that NFKC itself produces
(`¨` becomes a space and a combining diaeresis) stay.
-/

namespace Gatehouse.Identity

/-- The canonical form of a raw identity: trimmed, NFKC, lowercased. -/
def normalize (raw : String) : String :=
  Text.Lower.lower (Text.Nfkc.normalize (Text.trim raw))

end Gatehouse.Identity
