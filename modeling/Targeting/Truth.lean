/-!
The three truth values of the store. A comparison with a missing value is unknown, and a row is
selected only when the whole condition is true.
-/

namespace Targeting

inductive Truth where
  | yes
  | no
  | unknown
  deriving DecidableEq, Repr

namespace Truth

def ofBool (b : Bool) : Truth := if b then .yes else .no

/-- The truth of a comparison with a column that may be empty. -/
def ofColumn {α : Type} (test : α → Bool) : Option α → Truth
  | none => .unknown
  | some a => ofBool (test a)

def not : Truth → Truth
  | .yes => .no
  | .no => .yes
  | .unknown => .unknown

def and : Truth → Truth → Truth
  | .no, _ => .no
  | _, .no => .no
  | .yes, .yes => .yes
  | _, _ => .unknown

def or : Truth → Truth → Truth
  | .yes, _ => .yes
  | _, .yes => .yes
  | .no, .no => .no
  | _, _ => .unknown

theorem ofBool_eq_yes (b : Bool) : ofBool b = .yes ↔ b = true := by
  cases b <;> simp [ofBool]

theorem and_eq_yes (a b : Truth) : a.and b = .yes ↔ a = .yes ∧ b = .yes := by
  cases a <;> cases b <;> simp [and]

theorem or_eq_yes (a b : Truth) : a.or b = .yes ↔ a = .yes ∨ b = .yes := by
  cases a <;> cases b <;> simp [or]

theorem not_eq_yes (a : Truth) : a.not = .yes ↔ a = .no := by
  cases a <;> simp [not]

theorem ofColumn_eq_yes {α : Type} (test : α → Bool) (column : Option α) :
    ofColumn test column = .yes ↔ ∃ a, column = some a ∧ test a = true := by
  cases column with
  | none => simp [ofColumn]
  | some a => simp [ofColumn, ofBool_eq_yes]

end Truth

end Targeting
