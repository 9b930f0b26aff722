/-!
Comparison of stored text. The store folds the ASCII letters and nothing else, so `É` and `é`
stay apart while `EN` and `en` agree.
-/

namespace Targeting.Text

/-- The characters of a text with ASCII capitals made small. -/
def fold (s : String) : List Char :=
  s.toList.map Char.toLower

/-- Equal up to the case of ASCII letters. -/
def sameFolded (a b : String) : Bool :=
  fold a == fold b

theorem sameFolded_iff (a b : String) : sameFolded a b = true ↔ fold a = fold b := by
  simp [sameFolded]

end Targeting.Text
