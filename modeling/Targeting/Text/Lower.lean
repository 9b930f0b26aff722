import Targeting.Text.CaseTable

/-!
Lower case by the full Unicode rules: one character at a time, except that a dotted capital I
becomes two characters and a capital sigma at the end of a word takes its final form.
-/

namespace Targeting.Text

def inRanges (ranges : List (Nat × Nat)) (n : Nat) : Bool :=
  ranges.any fun (first, last) => first ≤ n && n ≤ last

def isCased (c : Char) : Bool :=
  inRanges casedRanges c.toNat

def isCaseIgnorable (c : Char) : Bool :=
  inRanges caseIgnorableRanges c.toNat

def CaseRun.holds (run : CaseRun) (n : Nat) : Bool :=
  run.first ≤ n && n ≤ run.last && (n - run.first) % run.stride == 0

/-- The lower case of a character on its own. -/
def lowerChar (c : Char) : List Char :=
  let n := c.toNat
  if n < 0x80 then [c.toLower]
  else if n = 0x130 then ['i', '\u0307']
  else
    match lowerRuns.find? (·.holds n) with
    | some run => [Char.ofNat (n + run.distance).toNat]
    | none => [c]

/-- A capital sigma is final when a cased character comes before it and none after it, looking
through the characters that are ignorable for case. -/
def isFinalSigma (before after : List Char) : Bool :=
  let next (cs : List Char) : Bool :=
    match cs.dropWhile isCaseIgnorable with
    | [] => false
    | c :: _ => isCased c
  next before && !next after

/-- Lower case of the rest of a text; `before` is what was read, last character first. -/
def lowerAfter (before : List Char) : List Char → List Char
  | [] => []
  | c :: rest =>
      let lowered :=
        if c = 'Σ' then [if isFinalSigma before rest then 'ς' else 'σ'] else lowerChar c
      lowered ++ lowerAfter (c :: before) rest

def lower (s : String) : String :=
  String.ofList (lowerAfter [] s.toList)

theorem lowerChar_ne_nil (c : Char) : lowerChar c ≠ [] := by
  unfold lowerChar
  dsimp only
  split
  · simp
  · split
    · simp
    · split <;> simp

theorem lowerAfter_eq_nil_iff (before cs : List Char) : lowerAfter before cs = [] ↔ cs = [] := by
  cases cs with
  | nil => simp [lowerAfter]
  | cons c rest =>
      simp only [lowerAfter, List.append_eq_nil_iff, reduceCtorEq, iff_false, not_and]
      intro h
      split at h
      · simp at h
      · exact absurd h (lowerChar_ne_nil c)

end Targeting.Text
