import Targeting.Audience.Session
import Targeting.Criteria
import Targeting.Formula.Writer
import Targeting.Predicate

/-!
How many subscribers a list of conditions selects while they are being authored. An estimate
never fails because of the store: it is zero then, and says why.
-/

namespace Targeting

structure Estimate where
  count : Nat
  error : Option String
  skipped : List Rejection
  deriving DecidableEq, Repr

/-- A query over subscribers carries the texts of its formula. -/
def Query.subscribers (operation : String) (p : Predicate) : Query :=
  ⟨operation, .subscribers, p.formula.boundTexts, none⟩

namespace Session

/-- The predicate of conditions. Where there are none, the clock is not looked at. -/
def predicate (s : Session) (conditions : List Condition) : Traced Predicate :=
  if conditions.isEmpty then pure ⟨s.merchantId, [], [], []⟩
  else do pure (.ofConditions conditions s.merchantId (← s.readClock))

def count (s : Session) (p : Predicate) : Traced Nat :=
  s.ask (.subscribers "count" p) fun store => store.countOf p.formula

/-- The selected subscribers, by id. -/
def fetch (s : Session) (p : Predicate) : Traced (List Subscriber) :=
  s.ask (.subscribers "fetch" p) fun store => store.selected p.formula

/-- The estimate of a predicate. -/
def estimatePredicate (s : Session) (p : Predicate) : Traced Estimate :=
  let counted := s.count p
  match counted.outcome with
  | .ok n =>
      ⟨counted.events ++ [.estimated n p.compiledCount p.skipped.length],
        .ok ⟨n, none, p.skipped⟩⟩
  | .error f =>
      if f.isOfStore then
        ⟨counted.events ++ [.estimateFailed p.merchantId f.message f.label],
          .ok ⟨0, some f.message, p.skipped⟩⟩
      else ⟨counted.events, .error f⟩

/-- The estimate of authored conditions; rows that are not filled in yet are left out first. -/
def estimate (s : Session) (conditions : List Condition) : Traced Estimate := do
  let p ← s.predicate (conditions.filter (!·.isUnfilled))
  Traced.tell (p.events none)
  s.estimatePredicate p

end Session

end Targeting
