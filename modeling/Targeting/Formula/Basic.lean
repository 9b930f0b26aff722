import Targeting.Subscriber
import Targeting.Text.Fold
import Targeting.Text.Pattern
import Targeting.Truth

/-!
Boolean formulas over the columns of a subscriber, with the store's meaning: three truth values,
text compared with ASCII letters folded, times compared by their texts. A test of a missing column
is unknown, except for the tests that ask for a truth value or for the absence itself. That the
store refuses formulas beyond a certain depth is left out.
-/

namespace Targeting

open Text

/-- How a column of text is compared with a value. -/
inductive TextRelation where
  | same
  | differs
  | holds
  | endsWith
  | endsOtherwise
  deriving DecidableEq, Repr

def TextRelation.relates (r : TextRelation) (value column : String) : Bool :=
  match r with
  | .same => sameFolded column value
  | .differs => !sameFolded column value
  | .holds => like (containsPattern value) column
  | .endsWith => like (endsPattern value) column
  | .endsOtherwise => !like (endsPattern value) column

/-- How a column of times is compared with a bound. -/
inductive TimeRelation where
  | before
  | after
  | since
  deriving DecidableEq, Repr

/-- The texts are compared. Only `since` includes the bound itself. -/
def TimeRelation.relates (r : TimeRelation) (bound column : String) : Bool :=
  match r with
  | .before => column < bound
  | .after => bound < column
  | .since => bound ≤ column

/-- A test of one column. -/
inductive Test where
  | belongsTo (merchantId : String)
  | active
  | mobile (flag : Bool)
  | text (column : TextColumn) (relation : TextRelation) (value : String)
  | time (column : TimeColumn) (relation : TimeRelation) (bound : Moment)
  | absent (column : TextColumn)
  | present (column : TextColumn)
  deriving DecidableEq, Repr

/-- A bound is handed over as times are: its offset is lost, its microseconds are written. -/
def Test.eval (s : Subscriber) : Test → Truth
  | .belongsTo merchantId => .ofBool (s.merchantId == merchantId)
  | .active => .ofBool s.isActive
  | .mobile flag => .ofBool (s.isMobile == some flag)
  | .text column relation value => .ofColumn (relation.relates value) (column.of s)
  | .time column relation bound =>
      .ofColumn (fun t => relation.relates bound.storedText t.text) (column.of s)
  | .absent column => .ofBool (column.of s).isNone
  | .present column => .ofBool (column.of s).isSome

inductive Formula where
  | test (t : Test)
  | both (a b : Formula)
  | either (a b : Formula)
  | negation (a : Formula)
  deriving DecidableEq, Repr

namespace Formula

def eval (s : Subscriber) : Formula → Truth
  | .test t => t.eval s
  | .both a b => (a.eval s).and (b.eval s)
  | .either a b => (a.eval s).or (b.eval s)
  | .negation a => (a.eval s).not

/-- A subscriber is selected when the formula is true of it, and not when it is unknown. -/
def selects (f : Formula) (s : Subscriber) : Bool :=
  f.eval s == .yes

/-- The conjunction of one formula and a list of more. -/
def all (first : Formula) (rest : List Formula) : Formula :=
  rest.foldl .both first

/-- The disjunction of one formula and a list of more. -/
def any (first : Formula) (rest : List Formula) : Formula :=
  rest.foldl .either first

theorem selects_iff (f : Formula) (s : Subscriber) : f.selects s = true ↔ f.eval s = .yes := by
  simp [selects]

theorem eval_all_eq_yes (s : Subscriber) (rest : List Formula) (first : Formula) :
    (all first rest).eval s = .yes ↔ first.eval s = .yes ∧ ∀ f ∈ rest, f.eval s = .yes := by
  induction rest generalizing first with
  | nil => simp [all]
  | cons f rest ih =>
      have h := ih (.both first f)
      simp only [all] at h
      simp [all, h, eval, Truth.and_eq_yes, and_assoc]

theorem eval_any_eq_yes (s : Subscriber) (rest : List Formula) (first : Formula) :
    (any first rest).eval s = .yes ↔ first.eval s = .yes ∨ ∃ f ∈ rest, f.eval s = .yes := by
  induction rest generalizing first with
  | nil => simp [any]
  | cons f rest ih =>
      have h := ih (.either first f)
      simp only [any] at h
      simp [any, h, eval, Truth.or_eq_yes, or_assoc]

end Formula

end Targeting
