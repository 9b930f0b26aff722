import Targeting.Audience.Session
import Targeting.Number.Binary64

/-!
Totals of a merchant: its segments, the active ones among them, and its active subscribers.
-/

namespace Targeting

open Number

structure Statistics where
  totalSegments : Nat
  activeSegments : Nat
  totalSubscribers : Nat
  deriving DecidableEq, Repr

/-- Subscribers to a segment: a binary number that is rounded to the nearest whole one, and a half
to the even one; zero where there are no segments. -/
def Statistics.average (t : Statistics) : Nat :=
  if t.totalSegments = 0 then 0
  else ((Binary64.ofRatio false t.totalSubscribers t.totalSegments).round?.getD 0).toNat

def Query.segmentCount (merchantId : String) : Query :=
  ⟨"segment count", .segments, [merchantId], none⟩

def Query.subscriberCount (merchantId : String) : Query :=
  ⟨"subscriber count", .subscribers, [merchantId], none⟩

def Session.statistics (s : Session) : Traced Statistics := do
  let total ← s.ask (.segmentCount s.merchantId) fun store =>
    (store.segmentsOf s.merchantId).length
  let active ← s.ask (.segmentCount s.merchantId) fun store =>
    ((store.segmentsOf s.merchantId).filter (·.isActive)).length
  let subscribers ← s.ask (.subscriberCount s.merchantId) fun store =>
    (store.activeSubscribers s.merchantId).length
  pure ⟨total, active, subscribers⟩

end Targeting
