import Targeting.Json.Label
import Targeting.Scalar

/-!
Settings of the service. They are read from given values first and from the environment second;
what neither names takes its default. A file of settings beside the service is left out. In
production and staging a key has to be long and must not be one that everybody knows.
-/

namespace Targeting

open Number Scalar

structure Settings where
  databaseUrl : String
  secretKey : String
  algorithm : String
  storeTimeout : Binary64
  concurrency : Int
  frontendUrl : String
  environment : String
  isDebug : Bool
  logLevel : Option String
  hasDocs : Bool
  deriving DecidableEq, Repr

namespace Settings

def defaults : Settings where
  databaseUrl := "postgresql+asyncpg://localhost:5432/push_audience"
  secretKey := "development-secret-key-change-in-production"
  algorithm := "HS256"
  storeTimeout := .ofNat 10
  concurrency := 4
  frontendUrl := "http://localhost:3000"
  environment := "development"
  isDebug := true
  logLevel := none
  hasDocs := true

/-- Keys that everybody knows, in order. -/
def weakKeys : List String :=
  ["changeme", "dev", "development-secret-key-change-in-production", "password", "secret", "test"]

/-- The least length of a key in production. -/
def keyLength : Nat := 32

def isProductionName (environment : String) : Bool :=
  environment = "production" || environment = "staging"

def isProduction (s : Settings) : Bool := isProductionName s.environment

/-- Statements are shown in debugging, but never in production, because they carry data of the
merchants. -/
def showsStatements (s : Settings) : Bool := s.isDebug && !s.isProduction

/-- Why settings were not accepted: a list of issues, or an address of the database that is not
text at all. -/
inductive Refusal where
  | issues (list : List Issue)
  | addressNotText (kind : String)
  deriving DecidableEq, Repr

def Refusal.message : Refusal → String
  | .issues _ => ""
  | .addressNotText kind => "'" ++ kind ++ "' object has no attribute 'startswith'"

def plainScheme : String := "postgresql://"

def driverScheme : String := "postgresql+asyncpg://"

/-- An address with the plain scheme gets the one that names the driver. -/
def withDriver (url : String) : String :=
  let cs := url.toList
  if plainScheme.toList.isPrefixOf cs then
    driverScheme ++ String.ofList (cs.drop plainScheme.length)
  else url

def readAddress (value : Json) : Except Issue.Cause String :=
  (readText value).map withDriver

def readTimeout (value : Json) : Except Issue.Cause Binary64 := do
  let x ← readNumber value
  if x.isNegative || x.isZero then
    .error (.refused "STORE_TIMEOUT_SECONDS must be positive")
  else pure x

def readConcurrency (value : Json) : Except Issue.Cause Int := do
  let n ← readInteger value
  if 1 ≤ n ∧ n ≤ 32 then pure n
  else .error (.refused "AUDIENCE_MAX_CONCURRENCY must be between 1 and 32")

/-- Reads one setting, or takes its default. -/
def readSetting {α : Type} (source : String → Option Json) (name : String) (default : α)
    (read : Json → Except Issue.Cause α) : Reading α :=
  match source name with
  | none => .ok default
  | some value => Reading.named name (read value)

def readAll (source : String → Option Json) : Reading Settings :=
  let setting {α : Type} (name : String) (default : α) (read : Json → Except Issue.Cause α) :=
    readSetting source name default read
  Reading.pure Settings.mk
    |>.ap (setting "DATABASE_URL" defaults.databaseUrl readAddress)
    |>.ap (setting "SECRET_KEY" defaults.secretKey readText)
    |>.ap (setting "ALGORITHM" defaults.algorithm readText)
    |>.ap (setting "STORE_TIMEOUT_SECONDS" defaults.storeTimeout readTimeout)
    |>.ap (setting "AUDIENCE_MAX_CONCURRENCY" defaults.concurrency readConcurrency)
    |>.ap (setting "FRONTEND_URL" defaults.frontendUrl readText)
    |>.ap (setting "ENVIRONMENT" defaults.environment readText)
    |>.ap (setting "DEBUG" defaults.isDebug readBool)
    |>.ap (setting "LOG_LEVEL" defaults.logLevel (orNull readText))
    |>.ap (setting "DOCS_ENABLED" defaults.hasDocs readBool)

/-- The rule about keys in production. -/
def checkKey (s : Settings) : Reading Settings :=
  if !s.isProduction then .ok s
  else if weakKeys.contains s.secretKey then
    .error [⟨[], .refused "SECRET_KEY must be changed in production"⟩]
  else if Text.pointCount s.secretKey < keyLength then
    .error [⟨[], .refused "SECRET_KEY must be at least 32 characters in production"⟩]
  else .ok s

/-- A setting as it was put: what is given counts before the environment. -/
def put? (given environment : List (String × Json)) (name : String) : Option Json :=
  (Json.lookup? given name).or (Json.lookup? environment name)

/-- Reads settings from given values and from the environment. An address that is neither text nor
nothing is refused before anything else is looked at. -/
def read (given environment : List (String × Json)) : Except Refusal Settings :=
  let source := put? given environment
  match source "DATABASE_URL" with
  | some value =>
      match value with
      | .text _ => ((readAll source).bind checkKey).mapError .issues
      | _ =>
          if value.isNothing then ((readAll source).bind checkKey).mapError .issues
          else .error (.addressNotText value.kindName)
  | none => ((readAll source).bind checkKey).mapError .issues

end Settings

end Targeting
