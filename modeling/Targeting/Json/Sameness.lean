import Targeting.Crash
import Targeting.Number.Amount

/-!
When two loosely typed values count as the same. Numbers are the same when their amounts are, with
truth values counted as zero and one; text is the same character by character. Lists and objects
can change and are told apart from nothing.
-/

namespace Targeting

open Number

/-- What a value counts as. -/
inductive Sameness where
  | nothing
  | amount (a : Amount)
  | text (s : String)
  deriving DecidableEq, Repr

/-- A binary number that is whole counts as the whole number. -/
def Sameness.ofAmount : Amount → Sameness
  | .whole n => .amount (.whole n)
  | .real x =>
      match x.toInt? with
      | some n => .amount (.whole n)
      | none => .amount (.real x)

def Json.sameness (value : Json) : Except Crash Sameness :=
  match value with
  | .null => .ok .nothing
  | .text s => .ok (.text s)
  | .list _ | .object _ => .error (.kind ("unhashable type: '" ++ value.kindName ++ "'"))
  | _ => .ok ((value.amount?.map Sameness.ofAmount).getD .nothing)

/-- Amounts that count as the same; what is no number is not even the same as itself. -/
def sameAmount (a b : Amount) : Bool :=
  let isNumber : Amount → Bool
    | .real .nan => false
    | _ => true
  isNumber a && isNumber b && Sameness.ofAmount a == Sameness.ofAmount b

mutual

/-- Values that count as the same, lists item by item and objects name by name. -/
def Json.same : Json → Json → Bool
  | .list xs, .list ys => sameItems xs ys
  | .object fs, .object gs => fs.length == gs.length && sameFields fs gs
  | .text s, .text t => s == t
  | .null, .null => true
  | a, b =>
      match a.amount?, b.amount? with
      | some x, some y => sameAmount x y
      | _, _ => false

def sameItems : List Json → List Json → Bool
  | [], [] => true
  | x :: xs, y :: ys => x.same y && sameItems xs ys
  | _, _ => false

/-- Every field of the one object is there in the other. -/
def sameFields : List (String × Json) → List (String × Json) → Bool
  | [], _ => true
  | (name, value) :: rest, other =>
      (match Json.lookup? other name with
        | some found => value.same found
        | none => false) && sameFields rest other

end

/-- Values with what they count as, each once, as it first occurs. -/
def distinctBySameness : List (Sameness × Json) → List (Sameness × Json)
  | [] => []
  | item :: rest => item :: (distinctBySameness rest).filter fun other => other.1 ≠ item.1

/-- The distinct values of a list, in the order in which they first occur. -/
def Json.distinct (items : List Json) : Except Crash (List Json) := do
  let keys ← items.mapM (·.sameness)
  pure ((distinctBySameness (keys.zip items)).map Prod.snd)

end Targeting
