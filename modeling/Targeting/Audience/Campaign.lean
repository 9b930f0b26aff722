import Targeting.Audience.Union

/-!
The audience of a campaign: the union of the segments that it targets, in targeting order. Links
are followed as they are; a link to a segment that cannot be used shows in the breakdown.
-/

namespace Targeting

def Query.campaignById (campaignId merchantId : String) : Query :=
  ⟨"campaign lookup", .campaigns, [campaignId, merchantId], none⟩

def Query.linksOf (campaignId : String) : Query :=
  ⟨"campaign segments", .campaignSegments, [campaignId], none⟩

namespace Session

/-- The segments that a campaign of the merchant targets. -/
def targets (s : Session) (campaignId : String) : Traced (List String) := do
  let found ← s.ask (.campaignById campaignId s.merchantId) fun store =>
    store.campaign? s.merchantId campaignId
  match found with
  | none => .fail (.campaignNotFound campaignId)
  | some _ =>
      s.ask (.linksOf campaignId) fun store => (store.linksOf campaignId).map (·.segmentId)

/-- Joins the audiences of a campaign's segments. -/
def resolveCampaign (s : Session) (campaignId : String) : Traced Audience := do
  let segmentIds ← s.targets campaignId
  s.resolveUnion segmentIds

end Session

end Targeting
