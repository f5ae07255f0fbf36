import TokenAuthority.Claims.Audience
import TokenAuthority.Claims.Basic
import TokenAuthority.Claims.Builder
import TokenAuthority.Command.Invocation
import TokenAuthority.Command.Options
import TokenAuthority.Command.Run
import TokenAuthority.Config.Environment
import TokenAuthority.Config.File
import TokenAuthority.Config.Path
import TokenAuthority.Config.Value
import TokenAuthority.Crypto.KeyFile
import TokenAuthority.Crypto.Rsa
import TokenAuthority.Crypto.Sha256
import TokenAuthority.Encoding.Base64
import TokenAuthority.Encoding.Der
import TokenAuthority.Encoding.Pem
import TokenAuthority.Error
import TokenAuthority.Grant.Chain
import TokenAuthority.Grant.Issue
import TokenAuthority.Grant.Lifetime
import TokenAuthority.Json.Document
import TokenAuthority.Json.Reader
import TokenAuthority.Json.Record
import TokenAuthority.Json.Value
import TokenAuthority.Jwt.Error
import TokenAuthority.Jwt.Key
import TokenAuthority.Jwt.Signing
import TokenAuthority.Jwt.Token
import TokenAuthority.Jwt.Verification
import TokenAuthority.Main
import TokenAuthority.Number.Binary64
import TokenAuthority.Number.Decimal
import TokenAuthority.Number.Digits
import TokenAuthority.Number.Shortest
import TokenAuthority.Number.Word
import TokenAuthority.Proofs.AddressLines
import TokenAuthority.Proofs.AppendOnly
import TokenAuthority.Proofs.Atomicity
import TokenAuthority.Proofs.AttributeMerge
import TokenAuthority.Proofs.Audiences
import TokenAuthority.Proofs.ByteTexts
import TokenAuthority.Proofs.CalendarDays
import TokenAuthority.Proofs.ChainLinks
import TokenAuthority.Proofs.Checks
import TokenAuthority.Proofs.ClaimForms
import TokenAuthority.Proofs.ClaimRelease
import TokenAuthority.Proofs.ClaimViews
import TokenAuthority.Proofs.CodeUse
import TokenAuthority.Proofs.CodecReturns
import TokenAuthority.Proofs.ConfigLayers
import TokenAuthority.Proofs.Decisions
import TokenAuthority.Proofs.DigitTexts
import TokenAuthority.Proofs.ExtensionVariable
import TokenAuthority.Proofs.GrantAgreement
import TokenAuthority.Proofs.GrantEffect
import TokenAuthority.Proofs.GrantPlan
import TokenAuthority.Proofs.GrantSuccess
import TokenAuthority.Proofs.Hydration
import TokenAuthority.Proofs.Independence
import TokenAuthority.Proofs.InertScopes
import TokenAuthority.Proofs.Instants
import TokenAuthority.Proofs.JsonDepth
import TokenAuthority.Proofs.JsonMembers
import TokenAuthority.Proofs.JsonRecords
import TokenAuthority.Proofs.JsonTexts
import TokenAuthority.Proofs.JsonWriting
import TokenAuthority.Proofs.LayeredSettings
import TokenAuthority.Proofs.LifetimeBounds
import TokenAuthority.Proofs.Lifetimes
import TokenAuthority.Proofs.Numerals
import TokenAuthority.Proofs.OfflineCutoff
import TokenAuthority.Proofs.RecordForms
import TokenAuthority.Proofs.RefreshWindow
import TokenAuthority.Proofs.Replay
import TokenAuthority.Proofs.ResponseDecoding
import TokenAuthority.Proofs.Revocation
import TokenAuthority.Proofs.Rfc3339Texts
import TokenAuthority.Proofs.Rotation
import TokenAuthority.Proofs.RowChanges
import TokenAuthority.Proofs.RowHistory
import TokenAuthority.Proofs.RowIndex
import TokenAuthority.Proofs.RowOrigin
import TokenAuthority.Proofs.RsaSignatures
import TokenAuthority.Proofs.ScopeExtensions
import TokenAuthority.Proofs.ScopeGrammar
import TokenAuthority.Proofs.ScopeNarrowing
import TokenAuthority.Proofs.ScopeParts
import TokenAuthority.Proofs.ScopeResolution
import TokenAuthority.Proofs.ScopeWords
import TokenAuthority.Proofs.Server
import TokenAuthority.Proofs.SessionWindows
import TokenAuthority.Proofs.StoreCalls
import TokenAuthority.Proofs.Table
import TokenAuthority.Proofs.TokenRoundTrip
import TokenAuthority.Proofs.TokenVerdicts
import TokenAuthority.Proofs.Verifiability
import TokenAuthority.Proofs.Words
import TokenAuthority.Record.Client
import TokenAuthority.Record.Code
import TokenAuthority.Record.KeyPair
import TokenAuthority.Record.RefreshToken
import TokenAuthority.Record.Scalar
import TokenAuthority.Record.Session
import TokenAuthority.Record.TokenResponse
import TokenAuthority.Record.User
import TokenAuthority.Record.Uuid
import TokenAuthority.Scope.Resolved
import TokenAuthority.Scope.Token
import TokenAuthority.Settings.Basic
import TokenAuthority.Settings.Load
import TokenAuthority.Settings.Validation
import TokenAuthority.Store.Basic
import TokenAuthority.Store.RefreshTokens
import TokenAuthority.Store.Table
import TokenAuthority.Text.Ascii
import TokenAuthority.Text.Blank
import TokenAuthority.Text.Quoted
import TokenAuthority.Text.Unprintable
import TokenAuthority.Time.Calendar
import TokenAuthority.Time.Instant
import TokenAuthority.Time.Rfc3339
import TokenAuthority.Toml.Document
import TokenAuthority.Toml.Scalar
import TokenAuthority.Toml.Text
import TokenAuthority.Toml.Tree
import TokenAuthority.Url.Check
import TokenAuthority.Url.Host
import TokenAuthority.Url.Punycode
