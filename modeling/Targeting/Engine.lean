import Targeting.Crash
import Targeting.Journal
import Targeting.Number.Amount

/-!
How the service holds on to its database: the pool of connections, and the watch on queries that
take too long.
-/

namespace Targeting

open Number

structure Pool where
  size : Nat
  overflow : Nat
  recycleSeconds : Nat
  checksFirst : Bool
  deriving DecidableEq, Repr

namespace Pool

def standard : Pool := ⟨20, 10, 3600, true⟩

/-- A database in a file has no pool. -/
def ofAddress? (url : Json) : Except Crash (Option Pool) :=
  match url with
  | .text s => .ok (if "sqlite".toList.isPrefixOf s.toList then none else some standard)
  | other => .error (.lacking other "startswith")

def options : Option Pool → Json
  | none => .object []
  | some p =>
      .object [("pool_size", .ofNat p.size), ("max_overflow", .ofNat p.overflow),
        ("pool_recycle", .ofNat p.recycleSeconds), ("pool_pre_ping", .bool p.checksFirst)]

end Pool

/-- Queries that take this many milliseconds are slow. -/
def slowMilliseconds : Nat := 500

/-- How many parameters a query was given. -/
def parameterCount : Json → Except Crash Nat
  | .text s => .ok (Text.pointCount s)
  | .list items => .ok items.length
  | .object fields => .ok fields.length
  | value =>
      if value.isNothing then .ok 0
      else .error (.kind ("object of type '" ++ value.kindName ++ "' has no len()"))

/-- The text of a statement that is shown. -/
def statementText (statement : Json) : Except Crash String :=
  match statement with
  | .text s => .ok s
  | .list _ => .error (.kind "can only concatenate list (not \"str\") to list")
  | .object _ => .error (.kind "unhashable type: 'slice'")
  | _ => .error (.kind ("'" ++ statement.kindName ++ "' object is not subscriptable"))

/-- The milliseconds between two readings of a clock in seconds. -/
def milliseconds (start finish : Json) : Except Crash Amount :=
  match finish.amount?, start.amount? with
  | some b, some a =>
      match (b.sub? a).bind (·.mul? (.whole 1000)) with
      | some t => .ok t
      | none => .error .tooLarge
  | _, _ => .error (.operands "-" finish start)

/-- What is told about a query between two readings of a clock. Without the first one nothing is
known of it. -/
def slowQueryEvents (start finish parameters statement : Json) : Except Crash (List Event) := do
  if start.isNull then return []
  let t ← milliseconds start finish
  if !t.atLeast slowMilliseconds then return []
  let count ← parameterCount parameters
  let statement ← statementText statement
  match t.toReal? with
  | some x => pure [.querySlow x count statement]
  | none => throw .tooLarge

end Targeting
