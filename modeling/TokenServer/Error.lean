import TokenServer.TokenResponse
import TokenServer.Time.Text

/-!
Everything that can go wrong with a request: causes, the kind that each is reported as, and its
wording. What a client is told of a failure on the server's side never says more than that there was
one (`OAuthError.reply`).
-/

namespace TokenServer

inductive StoreError where
  | notFound (entity key : String)
  | connection (detail : String)
  | query (detail : String)
  | serialization (detail : String)
  | internal (detail : String)
  deriving Repr, DecidableEq

namespace StoreError

def isNotFound : StoreError → Bool
  | .notFound _ _ => true
  | _ => false

def message : StoreError → String
  | .notFound entity key => s!"Entity not found: {entity} '{key}'"
  | .connection detail => "Storage connection error: " ++ detail
  | .query detail => "Storage query error: " ++ detail
  | .serialization detail => "Serialization error: " ++ detail
  | .internal detail => "Internal storage error: " ++ detail

end StoreError

inductive TokenFault where
  | notTwoParts
  | emptyPart
  | keyNotBase64
  | signatureNotBase64
  | other (detail : String)
  deriving Repr, DecidableEq

def TokenFault.message : TokenFault → String
  | .notTwoParts => "expected exactly two dot-separated parts"
  | .emptyPart => "empty token part"
  | .keyNotBase64 => "key is not base64url"
  | .signatureNotBase64 => "signature is not base64url"
  | .other detail => detail

inductive CryptoError where
  | weakSecret (least actual : Nat)
  | malformedToken (fault : TokenFault)
  | signatureMismatch
  | secretMismatch
  | hash (detail : String)
  deriving Repr, DecidableEq

def CryptoError.message : CryptoError → String
  | .weakSecret least actual => s!"signing secret must be at least {least} bytes, got {actual}"
  | .malformedToken fault => "malformed token: " ++ fault.message
  | .signatureMismatch => "token signature is invalid"
  | .secretMismatch => "secret does not match"
  | .hash detail => "hashing failed: " ++ detail

inductive TokenError where
  | crypto (error : CryptoError)
  | expired (instant : Instant)
  deriving Repr, DecidableEq

def TokenError.message : TokenError → String
  | .crypto error => error.message
  | .expired instant => "token expired at " ++ instant.describe

inductive CredentialPart where
  | clientId
  | clientSecret
  deriving Repr, DecidableEq

def CredentialPart.name : CredentialPart → String
  | .clientId => "client id"
  | .clientSecret => "client secret"

inductive CredentialLocation where
  | header
  | body
  deriving Repr, DecidableEq

def CredentialLocation.name : CredentialLocation → String
  | .header => "HTTP authorization header"
  | .body => "request body"

/-- Why a request names no client. -/
inductive CredentialsError where
  | missing
  | malformed (part : CredentialPart) (location : CredentialLocation)
  deriving Repr, DecidableEq

def CredentialsError.message : CredentialsError → String
  | .missing => "client credentials missing or malformed in both the HTTP authorization header " ++
    "and the request body"
  | .malformed part location => s!"the {part.name} in the {location.name} could not be decoded from " ++
    "\"application/x-www-form-urlencoded\""

inductive ErrorKind where
  | invalidRequest
  | invalidClient
  | invalidGrant
  | invalidGrantRequest
  | tokenExpired
  | scopeNotGranted
  | invalidScope
  | invalidTokenFormat
  | serverError
  | storage
  | rollbackFailed
  deriving Repr, DecidableEq

namespace ErrorKind

def code : ErrorKind → String
  | .invalidRequest | .invalidGrantRequest => "invalid_request"
  | .invalidClient => "invalid_client"
  | .invalidGrant | .tokenExpired => "invalid_grant"
  | .scopeNotGranted | .invalidScope => "invalid_scope"
  | .invalidTokenFormat => "invalid_token"
  | .serverError | .storage | .rollbackFailed => "server_error"

def status : ErrorKind → Nat
  | .invalidClient => 401
  | .serverError | .storage | .rollbackFailed => 500
  | _ => 400

def introduction : ErrorKind → String
  | .storage => ""
  | .rollbackFailed => "rollback failed: "
  | .tokenExpired => "invalid_grant: token expired: "
  | kind => kind.code ++ ": "

end ErrorKind

inductive OAuthError where
  | wrongMethod (method : String)
  | unreadableBody
  | noGrantType
  | credentials (error : CredentialsError)
  | unsupportedGrantType (grantTypes : WordList)
  | authenticationFailed
  | comparisonAborted (reason : String)
  | grantTypeNotAllowed (grantType : String)
  | grantTypeNotPublic (grantType : String)
  | scopeNotAllowed (scope : String)
  | refreshTokenInvalid
  | refreshTokenExpired
  /-- The end of a session lies outside the calendar. There is no instant to compare with, so that work on the request
  is broken off: this stands for the abort, which reaches the client as a failure of the server. -/
  | expiryOutsideCalendar
  | offlineNotGranted
  | mintingFailed (error : TokenError)
  | sessionFailed (error : StoreError)
  | responseIncomplete
  | migratedTokenMissing
  | authorizationMissing
  | migratorPublic
  | migrationScopeMissing (scope : String)
  | ownerMissing
  | ownerNotBase64
  | ownerNotPair
  | accessTokenMalformed
  | refreshTokenMalformed
  | noHandlers
  | storage (error : StoreError)
  | rollbackFailed (cause cleanup : StoreError)
  | taskFailed (reason : String)
  | deadlineExceeded
  | other (kind : ErrorKind) (detail : String)
  deriving Repr, DecidableEq

namespace OAuthError

def kind : OAuthError → ErrorKind
  | .wrongMethod _ | .unreadableBody | .noGrantType | .credentials _ | .unsupportedGrantType _
  | .authorizationMissing | .accessTokenMalformed | .refreshTokenMalformed | .noHandlers =>
    .invalidRequest
  | .authenticationFailed | .migratorPublic | .migrationScopeMissing _ | .ownerMissing
  | .ownerNotBase64 | .ownerNotPair => .invalidClient
  | .grantTypeNotAllowed _ | .grantTypeNotPublic _ => .invalidGrant
  | .refreshTokenInvalid => .invalidGrantRequest
  | .refreshTokenExpired => .tokenExpired
  | .offlineNotGranted => .scopeNotGranted
  | .scopeNotAllowed _ => .invalidScope
  | .migratedTokenMissing => .invalidTokenFormat
  | .comparisonAborted _ | .expiryOutsideCalendar | .mintingFailed _ | .sessionFailed _
  | .responseIncomplete | .taskFailed _ | .deadlineExceeded => .serverError
  | .storage _ => .storage
  | .rollbackFailed _ _ => .rollbackFailed
  | .other kind _ => kind

def detail : OAuthError → String
  | .wrongMethod method => s!"HTTP method is {method}, expected POST"
  | .unreadableBody => "request does not contain a valid body or form"
  | .noGrantType => "no grant type given"
  | .credentials error => error.message
  | .unsupportedGrantType grantTypes => s!"unsupported grant type '{grantTypes.render}'"
  | .authenticationFailed => "client authentication failed"
  | .comparisonAborted reason => "secret comparison aborted: " ++ reason
  | .grantTypeNotAllowed grantType => "the client is not allowed to use grant type " ++ grantType
  | .grantTypeNotPublic grantType => "public clients may not use grant type " ++ grantType
  | .scopeNotAllowed scope => s!"the client is not allowed to request scope '{scope}'"
  | .refreshTokenInvalid => "the refresh token is not valid for this client"
  | .refreshTokenExpired => "the refresh token has expired"
  | .expiryOutsideCalendar => "the expiry lies outside the calendar"
  | .offlineNotGranted => "the refresh token was not granted the offline scope"
  | .mintingFailed error => error.message
  | .sessionFailed error => error.message
  | .responseIncomplete => "access token or token type not set"
  | .migratedTokenMissing => "the token to migrate is missing"
  | .authorizationMissing => "HTTP authorization header missing or invalid"
  | .migratorPublic => "only internal clients may migrate"
  | .migrationScopeMissing scope =>
    s!"the client is not allowed to migrate tokens without scope '{scope}'"
  | .ownerMissing => "the original client is missing"
  | .ownerNotBase64 => "the original client is not valid base64"
  | .ownerNotPair => "the original client is not in the form id:secret"
  | .accessTokenMalformed => "the access token is in a bad format"
  | .refreshTokenMalformed => "the refresh token is in a bad format"
  | .noHandlers => "no handlers"
  | .storage error => error.message
  | .rollbackFailed cause cleanup => s!"{cleanup.message}: {cause.message}"
  | .taskFailed reason => "request task failed: " ++ reason
  | .deadlineExceeded => "request deadline exceeded"
  | .other _ detail => detail

def message (error : OAuthError) : String := error.kind.introduction ++ error.detail

def code (error : OAuthError) : String := error.kind.code

def status (error : OAuthError) : Nat := error.kind.status

def isServerError (error : OAuthError) : Bool := 500 ≤ error.status

def reply (error : OAuthError) : ErrorReply where
  error := error.code
  description := some (
    if error.isServerError then "the authorization server encountered an unexpected condition"
    else error.message)

end OAuthError

end TokenServer
