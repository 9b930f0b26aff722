import Targeting.Store.Basic
import Targeting.Store.Table

/-!
A store that may fail to answer. Tables can be missing, the whole database can be out of reach,
and queries can break down in any pattern. The plainest pattern is a fault on the queries that read
a table, or on those of them that carry a given text. Only what reads can break down: savepoints,
changes and what makes them last are taken to succeed.
-/

namespace Targeting

/-- How a query goes wrong: the driver reports an error under a label, no answer comes in time, or
something happens that nobody expects. Where nobody bounds a query in time, it is the driver that
gives it up; a driver that would wait forever is left out. -/
inductive Breakdown where
  | driver (label : String)
  | silence
  | crash (c : Crash)
  deriving DecidableEq, Repr

structure Fault where
  table : Table
  breakdown : Breakdown
  /-- Only queries that carry this text are hit, if there is one. -/
  carrying : Option String
  deriving DecidableEq, Repr

/-- A query as faults see it: what it is called, the table it reads, the texts bound in it, and the
segment whose savepoint it runs in, if it runs in one. -/
structure Query where
  operation : String
  table : Table
  texts : List String
  savepoint : Option String
  deriving DecidableEq, Repr

/-- Loads the condition rows of segments that were found. What is bound in it are ids that the store
itself has given. -/
def Query.conditionRows : Query := ⟨"segment conditions", .segmentConditions, [], none⟩

/-- Which queries break down, and how each of them does. -/
structure FaultPattern where
  breakdown? : Query → Option Breakdown

namespace Fault

/-- A fault on condition rows by themselves hits nothing: they are loaded within the queries on
their segments. -/
def hits (f : Fault) (q : Query) : Bool :=
  f.table != .segmentConditions && f.table == q.table
    && f.carrying.all fun text => q.texts.contains text

def pattern (f : Fault) : FaultPattern := ⟨fun q => if f.hits q then some f.breakdown else none⟩

instance : Coe Fault FaultPattern := ⟨pattern⟩

end Fault

structure Database where
  store : Store
  missing : List Table
  isReachable : Bool
  fault : Option FaultPattern

namespace Database

/-- The driver's label for a missing table and for a database out of reach. -/
def absenceLabel : String := "OperationalError"

def lacks (d : Database) (t : Table) : Bool :=
  !d.isReachable || d.missing.contains t

/-- How a query breaks down, if it does. A fault comes before a missing table, and both come before
text that has no bytes. -/
def breakdown? (d : Database) (q : Query) : Option Breakdown :=
  match d.fault.bind (·.breakdown? q) with
  | some b => some b
  | none =>
      if d.lacks q.table then some (.driver absenceLabel)
      else (Crash.ofTexts? q.texts).map .crash

/-- How loading the condition rows of segments breaks down, if it does. -/
def rowsBreakdown? (d : Database) : Option Breakdown := d.breakdown? .conditionRows

end Database

end Targeting
