import Targeting.Audience.Campaign
import Targeting.Calendar.Span
import Targeting.Engine
import Targeting.Http.Client
import Targeting.Http.Service
import Targeting.Json.Writer
import Targeting.Problem.Draft
import Targeting.Store.Change
import Targeting.Store.Label
import Targeting.Proofs.Places
import Targeting.Proofs.Acceptance
import Targeting.Proofs.Answers
import Targeting.Proofs.Gaps
import Targeting.Proofs.Agreement
import Targeting.Proofs.Ownership
import Targeting.Proofs.Tenancy
import Targeting.Proofs.Isolation
import Targeting.Proofs.Display
import Targeting.Proofs.Endings
import Targeting.Proofs.Outage
import Targeting.Proofs.Figures
import Targeting.Proofs.Interruption
import Targeting.Proofs.History
import Targeting.Proofs.Merging
import Targeting.Proofs.LostQueries
import Targeting.Proofs.Promises
import Targeting.Proofs.RequestIds
import Targeting.Proofs.Recipients
import Targeting.Proofs.Equality
import Targeting.Proofs.Searching
import Targeting.Proofs.Pages
import Targeting.Proofs.Surface
import Targeting.Proofs.WholeNumbers
import Targeting.Proofs.Windows
import Targeting.Proofs.WrittenDates
import Targeting.Proofs.Slots
import Targeting.Proofs.Boundaries
import Targeting.Proofs.Accounting
import Targeting.Proofs.ByteOrder
import Targeting.Proofs.Resolving
import Targeting.Proofs.Responses
import Targeting.Proofs.Reports
import Targeting.Proofs.Rereading
import Targeting.Proofs.Strangers
import Targeting.Proofs.Words
import Targeting.Proofs.Disclosure
import Targeting.Proofs.Usability
import Targeting.Proofs.CarriedTexts
import Targeting.Proofs.Readiness
import Targeting.Proofs.NearestNumbers
import Targeting.Proofs.Totals
import Targeting.Proofs.LinkOrder
import Targeting.Proofs.Campaigns
