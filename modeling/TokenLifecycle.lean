import TokenLifecycle.Config.App
import TokenLifecycle.Config.Cache
import TokenLifecycle.Config.EnvFile
import TokenLifecycle.Config.Environment
import TokenLifecycle.Config.FileLayer
import TokenLifecycle.Config.Jwt
import TokenLifecycle.Config.Layers
import TokenLifecycle.Config.LoadFault
import TokenLifecycle.Config.Logging
import TokenLifecycle.Config.Lookup
import TokenLifecycle.Config.Node
import TokenLifecycle.Config.Path
import TokenLifecycle.Config.Session
import TokenLifecycle.Config.Source
import TokenLifecycle.Crypto.Asn1
import TokenLifecycle.Crypto.Curve
import TokenLifecycle.Crypto.Der
import TokenLifecycle.Crypto.Ecdsa
import TokenLifecycle.Crypto.Ed25519
import TokenLifecycle.Crypto.Modular
import TokenLifecycle.Crypto.Octets
import TokenLifecycle.Crypto.Pem
import TokenLifecycle.Crypto.Rsa
import TokenLifecycle.Crypto.Sha2
import TokenLifecycle.Error
import TokenLifecycle.ErrorResponse
import TokenLifecycle.Files
import TokenLifecycle.Ini.Document
import TokenLifecycle.Json.Ascii
import TokenLifecycle.Json.Body
import TokenLifecycle.Json.Doc
import TokenLifecycle.Json.Record
import TokenLifecycle.Json.Token
import TokenLifecycle.Json.Value
import TokenLifecycle.Json5.Document
import TokenLifecycle.Keys.Algorithm
import TokenLifecycle.Keys.KeyPair
import TokenLifecycle.Keys.Loading
import TokenLifecycle.Keys.Material
import TokenLifecycle.Keys.Signer
import TokenLifecycle.Log.Filter
import TokenLifecycle.Log.Filter.Directive
import TokenLifecycle.Log.Filter.Pattern
import TokenLifecycle.Log.Filter.Pattern.Atom
import TokenLifecycle.Log.Filter.Pattern.Content
import TokenLifecycle.Log.Filter.Pattern.Expression
import TokenLifecycle.Log.Filter.Pattern.Reading
import TokenLifecycle.Log.Filter.Pattern.Support
import TokenLifecycle.Log.Filter.Threshold
import TokenLifecycle.Log.Line
import TokenLifecycle.Numeral.Binary64
import TokenLifecycle.Numeral.Decimal
import TokenLifecycle.Numeral.Hexadecimal
import TokenLifecycle.Proofs.Config.Documents
import TokenLifecycle.Proofs.Config.Leaf
import TokenLifecycle.Proofs.Config.Loading
import TokenLifecycle.Proofs.Config.Merging
import TokenLifecycle.Proofs.Config.NormalForm
import TokenLifecycle.Proofs.Config.Overrides
import TokenLifecycle.Proofs.Config.Places
import TokenLifecycle.Proofs.Json.Body
import TokenLifecycle.Proofs.Json.Doc
import TokenLifecycle.Proofs.Json.Record
import TokenLifecycle.Proofs.Json.Token
import TokenLifecycle.Proofs.Json.Written
import TokenLifecycle.Proofs.Numeral.Decimal
import TokenLifecycle.Proofs.Redis.Connection
import TokenLifecycle.Proofs.Redis.Exchanges
import TokenLifecycle.Proofs.Redis.Mask
import TokenLifecycle.Proofs.Redis.SessionStore
import TokenLifecycle.Proofs.Service.Atomicity
import TokenLifecycle.Proofs.Service.Audit
import TokenLifecycle.Proofs.Service.Authentication
import TokenLifecycle.Proofs.Service.Causes
import TokenLifecycle.Proofs.Service.Chance
import TokenLifecycle.Proofs.Service.Construction
import TokenLifecycle.Proofs.Service.Course
import TokenLifecycle.Proofs.Service.Discipline
import TokenLifecycle.Proofs.Service.Entries
import TokenLifecycle.Proofs.Service.Expiry
import TokenLifecycle.Proofs.Service.History
import TokenLifecycle.Proofs.Service.Isolation
import TokenLifecycle.Proofs.Service.Opening
import TokenLifecycle.Proofs.Service.OverRedis
import TokenLifecycle.Proofs.Service.Overflow
import TokenLifecycle.Proofs.Service.Redemption
import TokenLifecycle.Proofs.Service.Renewal
import TokenLifecycle.Proofs.Service.Report
import TokenLifecycle.Proofs.Service.Rotation
import TokenLifecycle.Proofs.Service.Run
import TokenLifecycle.Proofs.Service.Settings
import TokenLifecycle.Proofs.Service.Sliding
import TokenLifecycle.Proofs.Service.Tracking
import TokenLifecycle.Proofs.Session.Calls
import TokenLifecycle.Proofs.Session.Frame
import TokenLifecycle.Proofs.Session.Key
import TokenLifecycle.Proofs.Session.Memory
import TokenLifecycle.Proofs.Session.Script
import TokenLifecycle.Proofs.Session.Timed
import TokenLifecycle.Proofs.Session.TimedMap
import TokenLifecycle.Proofs.Session.Twins
import TokenLifecycle.Proofs.Text.Base64
import TokenLifecycle.Proofs.Text.Utf8
import TokenLifecycle.Proofs.Time.Instant
import TokenLifecycle.Proofs.Token.Bearer
import TokenLifecycle.Proofs.Token.Claims
import TokenLifecycle.Proofs.Token.Compact
import TokenLifecycle.Proofs.Token.Decision
import TokenLifecycle.Proofs.Token.Documents
import TokenLifecycle.Proofs.Token.Expiry
import TokenLifecycle.Proofs.Token.Minting
import TokenLifecycle.Proofs.Token.Moments
import TokenLifecycle.Proofs.Token.Payload
import TokenLifecycle.Proofs.Token.Refusals
import TokenLifecycle.Proofs.Token.Twins
import TokenLifecycle.Proofs.Token.Verification
import TokenLifecycle.Record
import TokenLifecycle.Redis.Address
import TokenLifecycle.Redis.Client
import TokenLifecycle.Redis.Connection
import TokenLifecycle.Redis.Fault
import TokenLifecycle.Redis.Handshake
import TokenLifecycle.Redis.Mask
import TokenLifecycle.Redis.Reply
import TokenLifecycle.Redis.Server
import TokenLifecycle.Redis.SessionStore
import TokenLifecycle.Ron.Document
import TokenLifecycle.Service.Operations
import TokenLifecycle.Service.Settings
import TokenLifecycle.Session.Key
import TokenLifecycle.Session.Memory
import TokenLifecycle.Session.Script
import TokenLifecycle.Startup
import TokenLifecycle.Text.Alphanumeric
import TokenLifecycle.Text.Base64
import TokenLifecycle.Text.Blank
import TokenLifecycle.Text.Category
import TokenLifecycle.Text.Invisible
import TokenLifecycle.Text.LetterCase
import TokenLifecycle.Text.Percent
import TokenLifecycle.Text.Quoted
import TokenLifecycle.Text.Utf8
import TokenLifecycle.Time.Calendar
import TokenLifecycle.Time.Instant
import TokenLifecycle.Time.Rfc3339
import TokenLifecycle.Token.Bearer
import TokenLifecycle.Token.Claims
import TokenLifecycle.Token.Codec
import TokenLifecycle.Token.Compact
import TokenLifecycle.Token.Header
import TokenLifecycle.Token.Identifier
import TokenLifecycle.Token.KeyDescription
import TokenLifecycle.Token.Pair
import TokenLifecycle.Token.Registered
import TokenLifecycle.Toml.Document
import TokenLifecycle.Toml.Moment
import TokenLifecycle.Toml.Number
import TokenLifecycle.Toml.Token
import TokenLifecycle.Yaml.Cursor
import TokenLifecycle.Yaml.Document
import TokenLifecycle.Yaml.Scalar
import TokenLifecycle.Yaml.Token
import TokenLifecycle.Yaml.Value
import TokenLifecycle.Proofs.Config.Verbatim
import TokenLifecycle.Proofs.ErrorResponse
