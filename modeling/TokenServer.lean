import TokenServer.Authentication
import TokenServer.Client
import TokenServer.Crypto.Argon2
import TokenServer.Crypto.Blake2b
import TokenServer.Crypto.PasswordHash
import TokenServer.Crypto.Sha512
import TokenServer.Crypto.Words
import TokenServer.EnvironmentFile
import TokenServer.Error
import TokenServer.Grant.ClientCredentials
import TokenServer.Grant.Refresh
import TokenServer.Handler
import TokenServer.Http.Credentials
import TokenServer.Http.Endpoint
import TokenServer.Http.Request
import TokenServer.Json.Basic
import TokenServer.Json.Document
import TokenServer.Json.Lexer
import TokenServer.Json.Number
import TokenServer.Json.Printer
import TokenServer.Json.Record
import TokenServer.Migration
import TokenServer.Proofs.AccessLifetime
import TokenServer.Proofs.Alike
import TokenServer.Proofs.Answer
import TokenServer.Proofs.Authorisation
import TokenServer.Proofs.Base64
import TokenServer.Proofs.Calendar
import TokenServer.Proofs.Chain
import TokenServer.Proofs.Contract
import TokenServer.Proofs.Course
import TokenServer.Proofs.Credentials
import TokenServer.Proofs.Deadline
import TokenServer.Proofs.Digit
import TokenServer.Proofs.Discretion
import TokenServer.Proofs.Dispatch
import TokenServer.Proofs.Edit
import TokenServer.Proofs.Effect
import TokenServer.Proofs.EnvironmentFile
import TokenServer.Proofs.Escape
import TokenServer.Proofs.Exchange
import TokenServer.Proofs.Expiry
import TokenServer.Proofs.Form
import TokenServer.Proofs.Grant.ClientCredentials
import TokenServer.Proofs.Grant.Refresh
import TokenServer.Proofs.InstantText
import TokenServer.Proofs.IntegerText
import TokenServer.Proofs.Json.Lexing
import TokenServer.Proofs.Json.Parsing
import TokenServer.Proofs.Json.Records
import TokenServer.Proofs.Json.Values
import TokenServer.Proofs.Ledger
import TokenServer.Proofs.LookAlike
import TokenServer.Proofs.Malformed
import TokenServer.Proofs.MigratedRefresh
import TokenServer.Proofs.Migration
import TokenServer.Proofs.MigrationRequest
import TokenServer.Proofs.Origin
import TokenServer.Proofs.Ownership
import TokenServer.Proofs.Provider
import TokenServer.Proofs.RawTokens
import TokenServer.Proofs.Rejection
import TokenServer.Proofs.RequestText
import TokenServer.Proofs.ResponseText
import TokenServer.Proofs.Responses
import TokenServer.Proofs.Scopes
import TokenServer.Proofs.Service
import TokenServer.Proofs.Settings
import TokenServer.Proofs.SignedToken
import TokenServer.Proofs.Table
import TokenServer.Proofs.TokenGrammar
import TokenServer.Proofs.TokenKinds
import TokenServer.Proofs.Transcript
import TokenServer.Proofs.Utf8
import TokenServer.Proofs.Uuid
import TokenServer.Proofs.WordList
import TokenServer.Provider
import TokenServer.Schedule
import TokenServer.SecretHasher
import TokenServer.Session
import TokenServer.Settings
import TokenServer.SignedToken
import TokenServer.Store
import TokenServer.Table
import TokenServer.Text.Base64
import TokenServer.Text.Blank
import TokenServer.Text.Digit
import TokenServer.Text.Escape
import TokenServer.Text.Form
import TokenServer.Text.Integer
import TokenServer.Text.Letter
import TokenServer.Text.Shortest
import TokenServer.Text.Utf8
import TokenServer.Time.Calendar
import TokenServer.Time.Instant
import TokenServer.Time.Text
import TokenServer.TokenAuthority
import TokenServer.TokenRequest
import TokenServer.TokenResponse
import TokenServer.Uuid
import TokenServer.WordList
import TokenServer.Work
import TokenServer.World
import TokenServer.Proofs.JsonForm
import TokenServer.Proofs.SeparateImports
import TokenServer.Proofs.Validation
import TokenServer.Proofs.HandlerOrder
