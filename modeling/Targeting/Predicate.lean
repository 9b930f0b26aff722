import Targeting.Condition.Meaning
import Targeting.Journal

/-!
The predicate of a list of conditions: which subscribers of a merchant they select. Every
predicate is limited to the merchant's active subscribers. The first condition and those joined
by AND are all required; of the others, if there are any, one has to hold. A rejected condition
is skipped and keeps its position, so that it never moves another condition into the first place.
-/

namespace Targeting

structure Predicate where
  merchantId : String
  required : List Formula
  alternatives : List Formula
  skipped : List Rejection
  deriving DecidableEq, Repr

namespace Predicate

/-- The active subscribers of a merchant. -/
def tenantScope (merchantId : String) : Formula :=
  .both (.test (.belongsTo merchantId)) (.test .active)

/-- The formulas at least one of which has to hold, as at most one formula. -/
def oneOf : List Formula → List Formula
  | [] => []
  | first :: rest => [.any first rest]

def formula (p : Predicate) : Formula :=
  .all (tenantScope p.merchantId) (p.required ++ oneOf p.alternatives)

def compiledCount (p : Predicate) : Nat := p.required.length + p.alternatives.length

/-- Notes what a condition comes to; `first` tells whether it is the first condition of all. -/
def note (p : Predicate) (first : Bool) (c : Condition) : Except Rejection Formula → Predicate
  | .error rejection => ⟨p.merchantId, p.required, p.alternatives, p.skipped ++ [rejection]⟩
  | .ok f =>
      if first || c.join = some .all then
        ⟨p.merchantId, p.required ++ [f], p.alternatives, p.skipped⟩
      else ⟨p.merchantId, p.required, p.alternatives ++ [f], p.skipped⟩

/-- Adds the conditions of a list to a predicate, each as it is judged; `first` tells whether the
head of the list is the first condition of all. -/
def add (judge : Condition → Except Rejection Formula) (p : Predicate) :
    Bool → List Condition → Predicate
  | _, [] => p
  | first, c :: rest => add judge (p.note first c (judge c)) false rest

def ofConditions (conditions : List Condition) (merchantId : String) (now : Moment) : Predicate :=
  add (·.formula now) ⟨merchantId, [], [], []⟩ true conditions

/-- What is told about the conditions that were skipped. -/
def events (p : Predicate) (segmentId : Option String) : List Event :=
  p.skipped.map (.conditionSkipped segmentId)

end Predicate

end Targeting
