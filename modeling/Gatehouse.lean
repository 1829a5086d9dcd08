import Gatehouse.Auth.Fault
import Gatehouse.Clock
import Gatehouse.Digest.Hmac
import Gatehouse.Digest.Sha256
import Gatehouse.Encoding.Base64
import Gatehouse.Encoding.Hex
import Gatehouse.Gate.Sessions
import Gatehouse.Gate.System
import Gatehouse.Gate.Tokens
import Gatehouse.Identity
import Gatehouse.Json.Double
import Gatehouse.Json.Reader
import Gatehouse.Json.Value
import Gatehouse.Json.Writer
import Gatehouse.Log.Event
import Gatehouse.Log.Filter
import Gatehouse.Main
import Gatehouse.Net.CacheAddress
import Gatehouse.Password
import Gatehouse.Proofs.Encoding.Base64
import Gatehouse.Proofs.Gate.Interleaving
import Gatehouse.Proofs.Gate.Keyspaces
import Gatehouse.Proofs.Gate.Refusal
import Gatehouse.Proofs.Gate.Run
import Gatehouse.Proofs.Gate.SessionCache
import Gatehouse.Proofs.Gate.Steps
import Gatehouse.Proofs.Json.RoundTrip
import Gatehouse.Proofs.Store.Cache
import Gatehouse.Proofs.Text.Decimal
import Gatehouse.Proofs.Text.Utf8
import Gatehouse.Proofs.Token.Decode
import Gatehouse.Proofs.Token.RoundTrip
import Gatehouse.Rpc.Answer
import Gatehouse.Rpc.Input
import Gatehouse.Rpc.Ops
import Gatehouse.Rpc.Placeholder
import Gatehouse.Rpc.Scenario
import Gatehouse.Rpc.Steps
import Gatehouse.Settings
import Gatehouse.Startup
import Gatehouse.Store.Cache
import Gatehouse.Store.Roster
import Gatehouse.Text.Blank
import Gatehouse.Text.Decimal
import Gatehouse.Text.Lower
import Gatehouse.Text.Nfkc
import Gatehouse.Text.Quoted
import Gatehouse.Text.Shortest
import Gatehouse.Text.Table
import Gatehouse.Text.Unicode.CaseContext
import Gatehouse.Text.Unicode.CombiningClass
import Gatehouse.Text.Unicode.Composition
import Gatehouse.Text.Unicode.Decomposition
import Gatehouse.Text.Unicode.Lowercase
import Gatehouse.Text.Unicode.Printable
import Gatehouse.Text.Utf8
import Gatehouse.Token.Claims
import Gatehouse.Token.Codec
import Gatehouse.Token.Header
import Gatehouse.Uuid
import Gatehouse.Web.Credentials
import Gatehouse.Web.Header
import Gatehouse.Web.Mime
import Gatehouse.Web.RequestLine
import Gatehouse.Web.Route
import Gatehouse.Proofs.Store.Roster
import Gatehouse.Proofs.Gate.Lifetime
import Gatehouse.Proofs.Web.Guard
import Gatehouse.Proofs.Gate.Rotation
import Gatehouse.Proofs.Gate.RefreshLedger
import Gatehouse.Proofs.Gate.Login
import Gatehouse.Proofs.Settings.Checks
import Gatehouse.Proofs.Token.SigningKeys
import Gatehouse.Proofs.Gate.SessionEntry
