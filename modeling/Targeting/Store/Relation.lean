import Targeting.Store.Columns

/-!
Names under which a row leads to rows of other tables. A row is put together from columns and such
names, but rows of other tables never come with it: what is given for such a name is nothing.
-/

namespace Targeting

/-- A name for many rows of another table, or for the one that a column names. -/
inductive Relation where
  | many (name : String)
  | one (name column : String)
  deriving DecidableEq, Repr

namespace Relation

def name : Relation → String
  | .many name | .one name _ => name

/-- The error of a value that is no row. -/
def noRow (value : Json) : Crash := .lacking value "_sa_instance_state"

/-- Checks what a new row is given for rows of another table. -/
def check (r : Relation) (value : Json) : Except Crash Unit :=
  match r, value with
  | .many _, .list items =>
      items.forM fun item => if item.isNull then .ok () else .error (noRow item)
  | .many _, other =>
      let kind := if other.isNull then "None" else other.kindName
      .error (.kind ("Incompatible collection type: " ++ kind ++ " is not list-like"))
  | .one _ _, .null => .ok ()
  | .one _ _, other => .error (noRow other)

end Relation

namespace Table

def relations : Table → List Relation
  | .segments => [.many "conditions", .many "campaign_links"]
  | .segmentConditions => [.one "segment" "segment_id"]
  | .campaigns => [.many "segments"]
  | .campaignSegments => [.one "campaign" "campaign_id", .one "segment" "segment_id"]
  | .merchants | .subscribers => []

def relation? (t : Table) (name : String) : Option Relation :=
  t.relations.find? fun r => r.name == name

/-- Names that mean something to every row, and that a row may hold anything under. -/
def commonNames : List String := ["metadata", "registry"]

def unknownColumn (t : Table) (name : String) : Crash :=
  .kind (quotedText name ++ " is an invalid keyword argument for " ++ t.rowName)

/-- Checks what a new row is given under a name. -/
def checkGiven (t : Table) (name : String) (value : Json) : Except Crash Unit :=
  if (t.column? name).isSome || commonNames.contains name then .ok ()
  else
    match t.relation? name with
    | some r => r.check value
    | none => .error (t.unknownColumn name)

/-- The columns of a new row. A row that leads nowhere on purpose loses the column that would name
where it leads. -/
def ownColumns (t : Table) (given : Changes) : Changes :=
  let cut := given.filterMap fun (name, _) =>
    match t.relation? name with
    | some (.one _ column) => some column
    | _ => none
  (given.filter fun (name, _) => (t.column? name).isSome && !cut.contains name)
    ++ cut.map fun column => (column, .null)

/-- The columns of a new row, if everything that it is given can be given to it. -/
def newRow (t : Table) (given : Changes) : Except Crash Changes := do
  given.forM fun (name, value) => t.checkGiven name value
  pure (t.ownColumns given)

end Table

end Targeting
