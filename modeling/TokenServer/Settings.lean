import TokenServer.Json.Record
import TokenServer.Text.Blank

/-!
Settings: how long tokens live, which scope a client needs to import tokens, how long a request may
take, and how costly hashing a secret is. They are read from named variables and checked before use.
-/

namespace TokenServer

/-- The greatest lifespan in seconds: a hundred years of 365 days. -/
def greatestLifespan : Int := 100 * 365 * 24 * 60 * 60

structure Lifespans where
  access : Int64 := 3600
  refresh : Int64 := 2592000
  deriving Repr, DecidableEq

namespace Lifespans

/-- The nearest lifespan that is not too great. -/
def clamp (seconds : Int64) : Int := max (-greatestLifespan) (min greatestLifespan seconds.toInt)

def accessSeconds (lifespans : Lifespans) : Int := clamp lifespans.access

/-- For how long refresh tokens live; zero or less means for ever. -/
def refreshSeconds (lifespans : Lifespans) : Int := clamp lifespans.refresh

/-- A refresh token stays in use instead of being replaced by a new one. -/
def refreshIsPermanent (lifespans : Lifespans) : Bool := lifespans.refresh < 0

end Lifespans

/-- The cost of hashing a secret: kibibytes of memory, passes over it, and lanes. -/
structure HashCost where
  memory : UInt32 := 19456
  passes : UInt32 := 2
  lanes : UInt32 := 1
  deriving Repr, DecidableEq

def usualMigrationScope : String := "hydra.token.migration"

structure Settings where
  lifespans : Lifespans := {}
  migrationScope : String := usualMigrationScope
  /-- Seconds that a request may take. -/
  timeout : UInt64 := 30
  hashCost : HashCost := {}
  deriving Repr, DecidableEq

inductive SettingsError where
  | badNumber (variableName : String) (fault : IntegerFault)
  | accessLifespanNotPositive
  | accessLifespanTooGreat
  | refreshLifespanTooGreat
  | migrationScopeBlank
  | timeoutZero
  deriving Repr, DecidableEq

namespace SettingsError

/-- The reason without the words that introduce it. -/
def reason : SettingsError → String
  | .badNumber name fault => s!"{name} has an invalid value: {fault.message}"
  | .accessLifespanNotPositive => "access token lifespan must be positive"
  | .accessLifespanTooGreat => s!"access token lifespan must not exceed {greatestLifespan} seconds"
  | .refreshLifespanTooGreat =>
    s!"refresh token lifespan must be within {greatestLifespan} seconds of zero"
  | .migrationScopeBlank => "migration scope must not be empty"
  | .timeoutZero => "request timeout must be positive"

def message (error : SettingsError) : String := "configuration error: " ++ error.reason

end SettingsError

namespace Settings

def violation? (settings : Settings) : Option SettingsError :=
  if settings.lifespans.access.toInt ≤ 0 then some .accessLifespanNotPositive
  else if greatestLifespan < settings.lifespans.access.toInt then some .accessLifespanTooGreat
  else if settings.lifespans.refresh.toInt < -greatestLifespan ∨
      greatestLifespan < settings.lifespans.refresh.toInt then some .refreshLifespanTooGreat
  else if (trim settings.migrationScope.toList).isEmpty then some .migrationScopeBlank
  else if settings.timeout = 0 then some .timeoutZero
  else none

def validate (settings : Settings) : Except SettingsError Settings :=
  match settings.violation? with
  | some error => .error error
  | none => .ok settings

def numberOf (lookup : String → Option String) (name : String) (bounds : IntegerBounds)
    (default : Int) : Except SettingsError Int :=
  match lookup name with
  | some raw => (bounds.read (trim raw.toList)).mapError (.badNumber name)
  | none => .ok default

/-- Reads settings from variables; those that are not set keep their defaults. -/
def load (lookup : String → Option String) : Except SettingsError Settings := do
  let access ← numberOf lookup "WD_ACCESS_TOKEN_LIFESPAN" .int64 3600
  let refresh ← numberOf lookup "WD_REFRESH_TOKEN_LIFESPAN" .int64 2592000
  let scope := (lookup "WD_MIGRATION_SCOPE").getD usualMigrationScope
  let timeout ← numberOf lookup "WD_REQUEST_TIMEOUT" .nat64 30
  let memory ← numberOf lookup "WD_HASHER_MEMORY_COST" .nat32 19456
  let passes ← numberOf lookup "WD_HASHER_TIME_COST" .nat32 2
  let lanes ← numberOf lookup "WD_HASHER_PARALLELISM" .nat32 1
  validate {
    lifespans := ⟨.ofInt access, .ofInt refresh⟩
    migrationScope := scope
    timeout := .ofNat timeout.toNat
    hashCost := ⟨.ofNat memory.toNat, .ofNat passes.toNat, .ofNat lanes.toNat⟩ }

def toJson (settings : Settings) : Json :=
  .object [
    ("tokens", .object [
      ("access_token_lifespan", .int settings.lifespans.access.toInt),
      ("refresh_token_lifespan", .int settings.lifespans.refresh.toInt)]),
    ("migration", .object [("required_scope", .string settings.migrationScope)]),
    ("server", .object [("request_timeout", .int settings.timeout.toNat)]),
    ("hasher", .object [
      ("memory_cost", .int settings.hashCost.memory.toNat),
      ("time_cost", .int settings.hashCost.passes.toNat),
      ("parallelism", .int settings.hashCost.lanes.toNat)])]

open Json in
def lifespansReader : Reader Lifespans := fun depth document => do
  let record ← Record.read? ["access_token_lifespan", "refresh_token_lifespan"] depth document
  let access ← record.required "access_token_lifespan" (.integer .int64)
  let refresh ← record.required "refresh_token_lifespan" (.integer .int64)
  return ⟨.ofInt access, .ofInt refresh⟩

open Json in
def hashCostReader : Reader HashCost := fun depth document => do
  let record ← Record.read? ["memory_cost", "time_cost", "parallelism"] depth document
  let memory ← record.required "memory_cost" (.integer .nat32)
  let passes ← record.required "time_cost" (.integer .nat32)
  let lanes ← record.required "parallelism" (.integer .nat32)
  return ⟨.ofNat memory.toNat, .ofNat passes.toNat, .ofNat lanes.toNat⟩

open Json in
def single {α : Type} (name : String) (read : Reader α) : Reader α := fun depth document => do
  (← Record.read? [name] depth document).required name read

open Json in
/-- Reads settings without checking them; no field may be missing. -/
def reader : Reader Settings := fun depth document => do
  let record ← Record.read? ["tokens", "migration", "server", "hasher"] depth document
  let lifespans ← record.required "tokens" lifespansReader
  let scope ← record.required "migration" (single "required_scope" .string)
  let timeout ← record.required "server" (single "request_timeout" (.integer .nat64))
  let hashCost ← record.required "hasher" hashCostReader
  return ⟨lifespans, scope, .ofNat timeout.toNat, hashCost⟩

end Settings

end TokenServer
