import Targeting.Calendar.StoredTime

/-!
A subscriber as the store keeps it. Everything that conditions look at may be missing, except the
merchant that the subscriber belongs to and whether the subscription is active.
-/

namespace Targeting

structure Subscriber where
  id : String
  merchantId : String
  token : Option String
  isActive : Bool
  email : Option String
  country : Option String
  region : Option String
  city : Option String
  device : Option String
  isMobile : Option Bool
  browser : Option String
  os : Option String
  language : Option String
  referrer : Option String
  subscribedAt : Option StoredTime
  lastSeenAt : Option StoredTime
  deriving DecidableEq, Repr

/-- A column of text that conditions look at. -/
inductive TextColumn where
  | country
  | region
  | city
  | device
  | browser
  | os
  | language
  | email
  | referrer
  deriving DecidableEq, Repr

def TextColumn.name : TextColumn → String
  | .country => "country"
  | .region => "region"
  | .city => "city"
  | .device => "device"
  | .browser => "browser"
  | .os => "os"
  | .language => "language"
  | .email => "email"
  | .referrer => "referrer"

def TextColumn.of (s : Subscriber) : TextColumn → Option String
  | .country => s.country
  | .region => s.region
  | .city => s.city
  | .device => s.device
  | .browser => s.browser
  | .os => s.os
  | .language => s.language
  | .email => s.email
  | .referrer => s.referrer

/-- A column of times that conditions look at. -/
inductive TimeColumn where
  | subscribedAt
  | lastSeenAt
  deriving DecidableEq, Repr

def TimeColumn.name : TimeColumn → String
  | .subscribedAt => "subscribed_at"
  | .lastSeenAt => "last_seen_at"

def TimeColumn.of (s : Subscriber) : TimeColumn → Option StoredTime
  | .subscribedAt => s.subscribedAt
  | .lastSeenAt => s.lastSeenAt

end Targeting
