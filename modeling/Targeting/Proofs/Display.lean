import Targeting.Http.Service
import Targeting.Proofs.Isolation

/-!
The figures that a segment is displayed with are for display only. They are three columns of a
segment, and nothing but a recount looks at them: on the bare store, which has none, every other
operation and every other request is answered the same, and leaves the store as it was.
-/

namespace Targeting

attribute [local irreducible] Condition.formula

/-- The segment without the figures that it is displayed with. -/
def Segment.bare (g : Segment) : Segment :=
  { g with count := none, criteria := none, calculatedAt := none }

@[simp] theorem Segment.crash?_bare (g : Segment) : g.bare.crash? = g.crash? := rfl

namespace Store

/-- The store without any figures. -/
def bare (store : Store) : Store := { store with segments := store.segments.map Segment.bare }

variable (store : Store) (merchantId : String)

theorem segment?_bare (id : String) :
    store.bare.segment? merchantId id = (store.segment? merchantId id).map Segment.bare := by
  unfold segment? bare
  rw [List.find?_map]
  rfl

theorem segmentsOf_bare :
    store.bare.segmentsOf merchantId = (store.segmentsOf merchantId).map Segment.bare := by
  unfold segmentsOf bare
  rw [List.filter_map]
  rfl

theorem ids_bare : store.bare.ids .segments = store.ids .segments := by
  simp only [ids, bare, List.map_map]
  rfl

end Store

namespace Traced

variable {α β γ δ : Type}

/-- What a run comes to, looked at through a function. -/
def seen (f : α → β) (x : Traced α) : Traced β := ⟨x.events, x.outcome.map f⟩

theorem seen_id (x : Traced α) : x.seen id = x := by
  cases hx : x.outcome <;> simp only [seen, hx, Except.map, id_eq] <;> rw [← hx]

theorem bind_seen {f : α → β} {g : γ → δ} {x : Traced α} {next : α → Traced γ}
    {other : β → Traced δ} (h : ∀ a, other (f a) = (next a).seen g) :
    x.seen f >>= other = (x >>= next).seen g := by
  change (x.seen f).bind other = (x.bind next).seen g
  cases hx : x.outcome with
  | error failure => simp only [Traced.bind, seen, hx, Except.map]
  | ok a => simp only [Traced.bind, hx, seen, Except.map, h a]

/-- A step that looks at its result through a function only goes on the same after either. -/
theorem bind_eq_of_seen {f : α → β} {x : Traced α} {next : α → Traced γ} {other : β → Traced γ}
    (h : ∀ a, other (f a) = next a) : x.seen f >>= other = x >>= next := by
  have hseen : x.seen f >>= other = (x >>= next).seen id :=
    bind_seen fun a => (h a).trans (seen_id _).symm
  rwa [seen_id] at hseen

theorem bind_seen_right {g : γ → δ} {x : Traced α} {next : α → Traced γ} {other : α → Traced δ}
    (h : ∀ a, other a = (next a).seen g) : x >>= other = (x >>= next).seen g := by
  have hseen := bind_seen (f := id) (x := x) h
  rwa [seen_id] at hseen

end Traced

namespace Session

/-- The session on the bare store. -/
def bare (s : Session) : Session := s.withStore s.database.store.bare

theorem bare_withStore (s : Session) (store : Store) :
    (s.withStore store).bare = s.withStore store.bare := rfl

variable (s : Session)

theorem ask_bare {α β : Type} (q : Query) (answer : Store → α) (other : Store → β) (f : α → β)
    (h : other s.database.store.bare = f (answer s.database.store)) :
    s.bare.ask q other = (s.ask q answer).seen f := by
  have hbreakdown : s.bare.database.breakdown? q = s.database.breakdown? q := rfl
  have hbroken (b : Breakdown) :
      (s.bare.broken q.operation b : Traced β) = (s.broken q.operation b : Traced α).seen f := by
    cases b with
    | driver label => rfl
    | crash c => rfl
    | silence =>
        have htimeout : s.bare.timeout = s.timeout := rfl
        unfold broken
        rw [htimeout]
        cases toldSeconds s.timeout <;> rfl
  unfold ask
  rw [hbreakdown]
  cases s.database.breakdown? q with
  | some b => exact hbroken b
  | none => exact congrArg Traced.pure h

/-- A query whose answer no figures go into. -/
theorem ask_bare_same {α : Type} (q : Query) (answer : Store → α)
    (h : answer s.database.store.bare = answer s.database.store) :
    s.bare.ask q answer = s.ask q answer :=
  s.ask_withStore _ q answer h.symm

theorem estimate_bare (conditions : List Condition) :
    s.bare.estimate conditions = s.estimate conditions := by
  have hcount (p : Predicate) : s.bare.count p = s.count p := s.ask_bare_same _ _ rfl
  unfold estimate estimatePredicate
  simp only [hcount]
  rfl

theorem statistics_bare : s.bare.statistics = s.statistics := by
  have hfilter (p : Segment → Bool) (hp : ∀ g, p g.bare = p g) :
      ((s.database.store.bare.segmentsOf s.merchantId).filter p).length =
        ((s.database.store.segmentsOf s.merchantId).filter p).length := by
    rw [Store.segmentsOf_bare, List.filter_map, List.length_map]
    exact congrArg List.length (List.filter_congr fun g _ => hp g)
  have htotal := s.ask_bare_same (.segmentCount s.merchantId)
    (fun store => (store.segmentsOf s.merchantId).length)
    (by rw [Store.segmentsOf_bare, List.length_map])
  have hactive := s.ask_bare_same (.segmentCount s.merchantId)
    (fun store => ((store.segmentsOf s.merchantId).filter (·.isActive)).length)
    (hfilter _ fun _ => rfl)
  have hsubscribers := s.ask_bare_same (.subscriberCount s.merchantId)
    (fun store => (store.activeSubscribers s.merchantId).length) rfl
  have hmerchant : s.bare.merchantId = s.merchantId := rfl
  unfold statistics
  rw [hmerchant, htotal, hactive, hsubscribers]

theorem readSegments_bare (segments : List Segment) :
    readSegments (segments.map Segment.bare) = readSegments segments := by
  unfold readSegments
  rw [List.findSome?_map]
  rfl

/-- Rows are loaded for segments, whatever their figures. -/
theorem askRows_bare {α : Type} (operation : String) (segments : List Segment) (a : α) :
    s.bare.askRows operation (segments.map Segment.bare) a = s.askRows operation segments a := by
  rw [bare, askRows_withStore]
  cases segments with
  | nil => rfl
  | cons g rest =>
      unfold askRows
      cases s.database.rowsBreakdown? <;> rfl

/-- What is loaded of a segment, without the figures. -/
def bareLoad (loaded : Segment × List ConditionRow) : Segment × List ConditionRow :=
  (loaded.1.bare, loaded.2)

theorem loadSegment_bare (segmentId : String) :
    s.bare.loadSegment segmentId = (s.loadSegment segmentId).seen bareLoad := by
  have hfound := s.ask_bare (.segmentById segmentId s.merchantId)
    (fun store => store.segment? s.merchantId segmentId)
    (fun store => store.segment? s.merchantId segmentId) (Option.map Segment.bare)
    (s.database.store.segment?_bare s.merchantId segmentId)
  have hmerchant : s.bare.merchantId = s.merchantId := rfl
  have hstored : s.bare.database.store.rowsOf segmentId = s.database.store.rowsOf segmentId := rfl
  unfold loadSegment
  dsimp only
  rw [hmerchant, hfound, hstored]
  refine Traced.bind_seen fun found => ?_
  rw [Option.toList_map, readSegments_bare, askRows_bare]
  refine Traced.bind_seen_right fun _ => Traced.bind_seen_right fun rows => ?_
  cases found <;> rfl

theorem resolveSegment_bare (segmentId : String) :
    s.bare.resolveSegment segmentId = s.resolveSegment segmentId := by
  unfold resolveSegment
  rw [loadSegment_bare]
  refine Traced.bind_eq_of_seen fun ⟨g, rows⟩ => ?_
  have hactive : g.bare.isActive = g.isActive := rfl
  have hfetch (p : Predicate) : s.bare.fetch p = s.fetch p := s.ask_bare_same _ _ rfl
  simp only [bareLoad, hactive, hfetch]
  rfl

theorem resolveUnion_bare (segmentIds : List String) :
    s.bare.resolveUnion segmentIds = s.resolveUnion segmentIds := by
  have hconcurrency : s.bare.concurrency = s.concurrency := rfl
  unfold resolveUnion resolveEach
  simp only [resolveSegment_bare, hconcurrency]

theorem targets_bare (campaignId : String) : s.bare.targets campaignId = s.targets campaignId := by
  have hfound := s.ask_bare_same (.campaignById campaignId s.merchantId)
    (fun store => store.campaign? s.merchantId campaignId) rfl
  have hlinks := s.ask_bare_same (.linksOf campaignId)
    (fun store => (store.linksOf campaignId).map (·.segmentId)) rfl
  have hmerchant : s.bare.merchantId = s.merchantId := rfl
  unfold targets
  rw [hmerchant, hfound, hlinks]

theorem resolveCampaign_bare (campaignId : String) :
    s.bare.resolveCampaign campaignId = s.resolveCampaign campaignId := by
  unfold resolveCampaign
  rw [targets_bare]
  exact Traced.bind_congr fun segmentIds _ => s.resolveUnion_bare segmentIds

theorem perform_bare (op : Operation) (h : op ≠ .recount) :
    (s.perform op).1 = s.database.store ∧ (s.bare.perform op).2 = (s.perform op).2 := by
  cases op with
  | estimate conditions => exact ⟨rfl, s.estimate_bare conditions⟩
  | statistics => exact ⟨rfl, s.statistics_bare⟩
  | resolveSegment segmentId => exact ⟨rfl, s.resolveSegment_bare segmentId⟩
  | resolveAudience segmentIds => exact ⟨rfl, s.resolveUnion_bare segmentIds⟩
  | campaignSegmentIds campaignId => exact ⟨rfl, s.targets_bare campaignId⟩
  | resolveCampaign campaignId => exact ⟨rfl, s.resolveCampaign_bare campaignId⟩
  | recount => exact absurd rfl h

end Session

namespace Http.Service

/-- The service with other rows in its store. -/
def withStore (s : Service) (store : Store) : Service :=
  { s with database := { s.database with store := store } }

/-- The service on the bare store. -/
def bare (s : Service) : Service := s.withStore s.database.store.bare

theorem bare_withStore (s : Service) (store : Store) :
    (s.withStore store).bare = s.withStore store.bare := rfl

variable (s : Service)

theorem merchantOf_bare (subject : String) : s.bare.merchantOf subject = s.merchantOf subject := rfl

theorem merchant_bare (r : Request) : s.bare.merchant r = s.merchant r := by
  have hsettings : s.bare.settings = s.settings := rfl
  have hseconds : s.bare.secondsNow = s.secondsNow := rfl
  unfold merchant
  simp only [hsettings, hseconds, merchantOf_bare]

/-- An outcome that leaves the store as it is, and would be the same on the bare store. -/
structure Idle (s : Service) (outcome other : Outcome) : Prop where
  store : outcome.store = s.database.store
  events : other.events = outcome.events
  answer : other.answer = outcome.answer

theorem ofTraced_idle {α : Type} {t other : Traced α} (h : other = t)
    (page : α → Except Crash Json) :
    s.Idle (ofTraced s.database.store t page) (ofTraced s.bare.database.store other page) := by
  subst h
  exact ⟨rfl, rfl, rfl⟩

theorem estimate_idle (session : Session) (body : Option Json) :
    s.Idle (s.estimate session body) (s.bare.estimate session.bare body) := by
  have hid : s.bare.freshConditionId = s.freshConditionId := rfl
  have hclock : s.bare.clock = s.clock := rfl
  unfold estimate
  rw [hid]
  cases readConditions s.freshConditionId body with
  | error issues => exact ⟨rfl, rfl, rfl⟩
  | ok conditions =>
      simp only [hclock, session.estimate_bare]
      exact ⟨rfl, rfl, rfl⟩

theorem resolve_idle (session : Session) (body : Option Json) :
    s.Idle (s.resolve session body) (s.bare.resolve session.bare body) := by
  unfold resolve
  cases readSegmentIds body with
  | error issues => exact ⟨rfl, rfl, rfl⟩
  | ok segmentIds => exact s.ofTraced_idle (session.resolveUnion_bare segmentIds) _

theorem perform_idle (session : Session) (body : Option Json) {e : Endpoint}
    (he : e ≠ .recalculate) :
    s.Idle (s.perform session body e) (s.bare.perform session.bare body e) := by
  cases e with
  | root | health | categories => exact ⟨rfl, rfl, rfl⟩
  | estimate => exact s.estimate_idle session body
  | statistics => exact s.ofTraced_idle session.statistics_bare _
  | recalculate => exact absurd rfl he
  | segmentAudience id => exact s.ofTraced_idle (session.resolveSegment_bare id) _
  | resolve => exact s.resolve_idle session body
  | campaignAudience id => exact s.ofTraced_idle (session.resolveCampaign_bare id) _
  | campaignReach id => exact s.ofTraced_idle (session.resolveCampaign_bare id) _

/-- The merchant whose segments a request has counted anew, if it is one that gets that far. -/
def recounter? (s : Service) (r : Request) : Option String :=
  let path := r.address.shownPath
  match destination r.method path (otherSpelling path) with
  | .found .recalculate => (s.merchant r).2.toOption.map (·.id)
  | _ => none

theorem run_idle (r : Request) {e : Endpoint}
    (he : e = .recalculate → (s.merchant r).2.toOption = none) :
    s.Idle (s.run r e) (s.bare.run r e) := by
  have hclock : s.bare.clock = s.clock := rfl
  unfold run
  rw [hclock, merchant_bare]
  split
  · rename_i hopen
    refine s.perform_idle _ none ?_
    rintro rfl
    cases hopen
  · split
    · exact ⟨rfl, rfl, rfl⟩
    · rename_i body _
      rcases hmerchant : s.merchant r with ⟨events, found⟩
      cases found with
      | error trouble => exact ⟨rfl, rfl, rfl⟩
      | ok m =>
          have hother : e ≠ .recalculate := by
            intro hrecount
            have hnone := he hrecount
            rw [hmerchant] at hnone
            cases hnone
          have hidle := s.perform_idle (s.session m.id s.clock) body hother
          exact ⟨hidle.store, congrArg (events ++ ·) hidle.events, hidle.answer⟩

theorem innerReply_bare (r : Request) (id : String) (h : s.recounter? r = none) :
    (s.innerReply r id).1 = s.database.store ∧
      (s.bare.innerReply r id).2 = (s.innerReply r id).2 := by
  unfold recounter? at h
  unfold innerReply
  dsimp only at h ⊢
  cases hdestination : destination r.method r.address.shownPath (otherSpelling r.address.shownPath)
    with
  | nowhere | wrongMethod | elsewhere => exact ⟨rfl, rfl⟩
  | found e =>
      rw [hdestination] at h
      have hidle := s.run_idle r (e := e) (by rintro rfl; simpa using h)
      refine ⟨hidle.store, ?_⟩
      dsimp only
      rw [hidle.events, hidle.answer]
      rfl

/-- A request that does not get to a recount leaves the store as it is and is answered the same on
the bare store. -/
theorem handle_bare (r : Request) (h : s.recounter? r = none) :
    (s.handle r).1 = s.database.store ∧ (s.bare.handle r).2 = (s.handle r).2 := by
  have hid : s.bare.requestId r = s.requestId r := rfl
  obtain ⟨hstore, hreply⟩ := s.innerReply_bare r (s.requestId r) h
  unfold handle
  rw [hid]
  cases announcement? r with
  | some announced => exact ⟨rfl, rfl⟩
  | none =>
      dsimp only
      rw [hreply]
      exact ⟨hstore, rfl⟩

end Http.Service

end Targeting
