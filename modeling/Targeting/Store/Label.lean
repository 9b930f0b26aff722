import Targeting.Json.Label
import Targeting.Store.Database

/-!
Short labels of stored rows, for people who look into the store.
-/

namespace Targeting.Table

/-- The label of a row, from the columns that it has. Links have none. -/
def rowLabel (t : Table) (columns : List (String × Json)) : String :=
  let shown (name : String) : String := ((Json.lookup? columns name).getD .null).label
  match t with
  | .merchants => "<Merchant id=" ++ shown "id" ++ " name='" ++ shown "name" ++ "'>"
  | .subscribers =>
      "<Subscriber id=" ++ shown "id" ++ " merchant_id=" ++ shown "merchant_id" ++ " active="
        ++ shown "is_active" ++ ">"
  | .segments =>
      "<Segment id=" ++ shown "id" ++ " name='" ++ shown "name" ++ "' type=" ++ shown "type"
        ++ " active=" ++ shown "is_active" ++ ">"
  | .segmentConditions =>
      "<SegmentCondition id=" ++ shown "id" ++ " " ++ shown "category" ++ " " ++ shown "operator"
        ++ ">"
  | .campaigns => "<Campaign id=" ++ shown "id" ++ " title='" ++ shown "title" ++ "'>"
  | .campaignSegments => ""

end Targeting.Table
