import Targeting.Crash
import Targeting.Settings

/-!
Settings in force. They start as they were read, and can be changed while the service runs. Nothing
checks such a change, so that a setting may come to hold a value of any kind.
-/

namespace Targeting

open Number

structure LiveSettings where
  secretKey : Json
  algorithm : Json
  storeTimeout : Json
  concurrency : Json
  environment : Json
  isDebug : Bool
  hasDocs : Bool

namespace LiveSettings

def ofSettings (s : Settings) : LiveSettings :=
  ⟨.text s.secretKey, .text s.algorithm, .real s.storeTimeout, .integer s.concurrency,
    .text s.environment, s.isDebug, s.hasDocs⟩

def isProduction (s : LiveSettings) : Bool :=
  match s.environment with
  | .text name => Settings.isProductionName name
  | _ => false

/-- The words of an unexpected failure are for developers only. -/
def showsInternals (s : LiveSettings) : Bool := s.isDebug && !s.isProduction

/-- Settings that nobody looks at while the service runs. -/
def settled : List String := ["DATABASE_URL", "FRONTEND_URL", "LOG_LEVEL"]

/-- What follows from settings, and is none itself. -/
def derived : List String := ["is_production", "sqlalchemy_echo"]

/-- The error of a name that no setting has. -/
def unknownName (name : String) : Crash :=
  if derived.contains name then
    ⟨"AttributeError", some ("property '" ++ name ++ "' of 'Settings' object has no setter")⟩
  else .value ("\"Settings\" object has no field \"" ++ name ++ "\"")

/-- Changes a setting by its name. A flag is set by anything that counts as something. Names that
start with an underscore are for notes of any kind. -/
def configure (s : LiveSettings) (name : String) (value : Json) : Except Crash LiveSettings :=
  match name with
  | "SECRET_KEY" => .ok { s with secretKey := value }
  | "ALGORITHM" => .ok { s with algorithm := value }
  | "STORE_TIMEOUT_SECONDS" => .ok { s with storeTimeout := value }
  | "AUDIENCE_MAX_CONCURRENCY" => .ok { s with concurrency := value }
  | "ENVIRONMENT" => .ok { s with environment := value }
  | "DEBUG" => .ok { s with isDebug := !value.isNothing }
  | "DOCS_ENABLED" => .ok { s with hasDocs := !value.isNothing }
  | name =>
      if settled.contains name || name.toList.head? = some '_' then .ok s
      else .error (unknownName name)

/-- Changes settings in turn, up to the first name that no setting has. -/
def configureAll (s : LiveSettings) :
    List (String × Json) → LiveSettings × Option Crash
  | [] => (s, none)
  | (name, value) :: rest =>
      match s.configure name value with
      | .ok changed => changed.configureAll rest
      | .error c => (s, some c)

end LiveSettings

end Targeting
