import Targeting.Crash
import Targeting.Text.Blank
import Targeting.Text.Lower

/-!
The catalogue of what can be filtered: nine categories, the operators each of them accepts, and
the spellings under which both are found.
-/

namespace Targeting

open Text

inductive Operator where
  | inLast
  | moreThanAgo
  | lessThanAgo
  | before
  | after
  | equal
  | notEqual
  | contains
  | isMobile
  | isDesktop
  | isNull
  | isNotNull
  deriving DecidableEq, Repr

def Operator.name : Operator → String
  | .inLast => "in_last"
  | .moreThanAgo => "more_than_ago"
  | .lessThanAgo => "less_than_ago"
  | .before => "before"
  | .after => "after"
  | .equal => "is"
  | .notEqual => "is_not"
  | .contains => "contains"
  | .isMobile => "is_mobile"
  | .isDesktop => "is_desktop"
  | .isNull => "is_null"
  | .isNotNull => "is_not_null"

inductive Category where
  | subscribed
  | lastSeen
  | location
  | deviceType
  | browser
  | operatingSystem
  | language
  | emailDomain
  | referrer
  deriving DecidableEq, Repr

namespace Category

/-- The categories in the order of the catalogue. -/
def all : List Category :=
  [.subscribed, .lastSeen, .location, .deviceType, .browser, .operatingSystem, .language,
    .emailDomain, .referrer]

def name : Category → String
  | .subscribed => "subscribed"
  | .lastSeen => "last_seen"
  | .location => "location"
  | .deviceType => "device_type"
  | .browser => "browser"
  | .operatingSystem => "operating_system"
  | .language => "language"
  | .emailDomain => "email_domain"
  | .referrer => "referrer"

/-- The name shown to authors. -/
def title : Category → String
  | .subscribed => "Subscription Date"
  | .lastSeen => "Last Seen"
  | .location => "Location"
  | .deviceType => "Device Type"
  | .browser => "Browser"
  | .operatingSystem => "Operating System"
  | .language => "Language"
  | .emailDomain => "Email Domain"
  | .referrer => "Referrer"

def description : Category → String
  | .subscribed => "When the subscriber opted in"
  | .lastSeen => "Most recent visit"
  | .location => "Country, region and city"
  | .emailDomain => "Domain part of the subscriber email"
  | .referrer => "Page the subscriber opted in from"
  | .deviceType | .browser | .operatingSystem | .language => ""

def dateOperators : List Operator :=
  [.inLast, .moreThanAgo, .lessThanAgo, .before, .after]

def textOperators : List Operator :=
  [.equal, .notEqual, .contains]

/-- The operators that a category accepts, in the order of the catalogue. -/
def operators : Category → List Operator
  | .subscribed | .lastSeen => dateOperators
  | .deviceType => [.equal, .notEqual, .isMobile, .isDesktop]
  | .location | .browser | .operatingSystem | .language | .emailDomain => textOperators
  | .referrer => textOperators ++ [.isNull, .isNotNull]

/-- The entry of a category in the catalogue that authors see. -/
def toJson (c : Category) : Json :=
  .object [("name", .text c.name), ("display_name", .text c.title),
    ("operators", .texts (c.operators.map Operator.name)), ("description", .text c.description)]

end Category

/-- A name as it was written; what counts as nothing is no name. -/
def writtenName (value : Json) : Except Crash String :=
  match value with
  | .text s => .ok s
  | _ => if value.isNothing then .ok "" else .error (.lacking value "strip")

/-- A written name without blanks around it, in lower case, hyphens read as underscores. -/
def normalizedName (written : String) : String :=
  String.ofList ((lower (trim written)).toList.map fun c => if c = '-' then '_' else c)

/-- The name under which a written category is looked up. -/
def categoryKey (written : String) : String :=
  let key := normalizedName written
  if key = "subscription_date" then Category.subscribed.name else key

/-- The name under which a written operator is looked up. -/
def operatorKey (written : String) : String :=
  let key := normalizedName written
  if key = "equals" then Operator.equal.name
  else if key = "not_equals" then Operator.notEqual.name
  else key

def Category.ofKey? (key : String) : Option Category :=
  Category.all.find? fun c => c.name == key

/-- The operator of a category that has the given name. -/
def Category.operator? (c : Category) (key : String) : Option Operator :=
  c.operators.find? fun o => o.name == key

end Targeting
