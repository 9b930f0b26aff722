import Targeting.Text.Fold

/-!
Wildcard patterns of the store: a percent sign stands for any run of characters, an underscore
for any one character, and the escape character makes the next one stand for itself. Text that is
searched for is escaped first, so that it is found as it is written.
-/

namespace Targeting.Text

/-- One element of a pattern. -/
inductive Wildcard where
  | run
  | one
  | exactly (c : Char)
  deriving DecidableEq, Repr

/-- The character that escapes wildcards. -/
def escapeChar : Char := '/'

/-- Writes a text so that none of its characters is a wildcard. -/
def escapeWildcards : List Char → List Char
  | [] => []
  | c :: rest =>
      if c = escapeChar ∨ c = '%' ∨ c = '_' then escapeChar :: c :: escapeWildcards rest
      else c :: escapeWildcards rest

/-- The elements of a written pattern. An escape with nothing after it makes the pattern match
nothing. -/
def readPattern : List Char → Option (List Wildcard)
  | [] => some []
  | '/' :: c :: rest => (readPattern rest).map (.exactly c :: ·)
  | '/' :: [] => none
  | '%' :: rest => (readPattern rest).map (.run :: ·)
  | '_' :: rest => (readPattern rest).map (.one :: ·)
  | c :: rest => (readPattern rest).map (.exactly c :: ·)

/-- A text and everything that is left when characters are taken off its front. -/
def suffixes : List Char → List (List Char)
  | [] => [[]]
  | c :: rest => (c :: rest) :: suffixes rest

def matchesPattern : List Wildcard → List Char → Bool
  | [], text => text.isEmpty
  | .run :: pattern, text => (suffixes text).any (matchesPattern pattern)
  | .one :: pattern, text =>
      match text with
      | [] => false
      | _ :: rest => matchesPattern pattern rest
  | .exactly c :: pattern, text =>
      match text with
      | [] => false
      | x :: rest => c == x && matchesPattern pattern rest

/-- The store reads pattern and text up to the first NUL character. -/
def upToNul (cs : List Char) : List Char :=
  cs.takeWhile (· != '\x00')

/-- The store does not tell the two noncharacters at the end of the first plane from the
replacement character when it matches a pattern. -/
def withoutNoncharacters (c : Char) : Char :=
  if c = '\uFFFE' ∨ c = '\uFFFF' then '\uFFFD' else c

/-- What a pattern sees of a text: letters folded, up to the first NUL. -/
def patternView (cs : List Char) : List Char :=
  upToNul (cs.map fun c => withoutNoncharacters c.toLower)

/-- Matches a written pattern against a stored text. That the store refuses to match a pattern of
more than 50000 bytes is left out: here a pattern may have any length. -/
def like (pattern : List Char) (text : String) : Bool :=
  match readPattern (patternView pattern) with
  | none => false
  | some elements => matchesPattern elements (patternView text.toList)

/-- The pattern of a text that holds `value` somewhere. -/
def containsPattern (value : String) : List Char :=
  '%' :: escapeWildcards value.toList ++ ['%']

/-- The pattern of a text that ends with `value`. -/
def endsPattern (value : String) : List Char :=
  '%' :: escapeWildcards value.toList

end Targeting.Text
