import Targeting.Proofs.Responses

/-!
Whoever names no merchant gets nothing. A request is for a merchant if it carries a token that the
service accepts and whose subject some merchant has. Each endpoint of the interface looks for that
merchant before it asks the store for anything else. So any other request is refused, changes
nothing, and is answered the same over all stores with the same merchants.
-/

namespace Targeting

/-- As far as merchants go, a database is like another: it has the same ones, and looks them up just
as well. -/
structure Database.SharesMerchants (d other : Database) : Prop where
  merchants : other.store.merchants = d.store.merchants
  lookups : ∀ subject, other.breakdown? (Http.Service.merchantQuery subject) =
    d.breakdown? (Http.Service.merchantQuery subject)

namespace Http

theorem exists_route_of_found {method path other : String} {e : Endpoint}
    (h : destination method path other = .found e) :
    ∃ route ∈ Route.all, route.pattern.endpoint? (pathParts path) = some e := by
  unfold destination at h
  dsimp only at h
  split at h
  · rename_i hfind
    cases h
    obtain ⟨route, hroute, hfits⟩ := List.mem_filterMap.mp (List.mem_of_find?_eq_some hfind)
    obtain ⟨_, hendpoint, heq⟩ := Option.map_eq_some_iff.mp hfits
    cases heq
    exact ⟨_, hroute, hendpoint⟩
  · split at h
    · cases h
    · split at h <;> cases h

theorem eq_of_endpoint?_fixed {parts fixed : List String} {endpoint e : Endpoint}
    (h : (Pattern.fixed fixed endpoint).endpoint? parts = some e) :
    parts = fixed ∧ endpoint = e :=
  Option.ite_none_right_eq_some.mp h |>.imp_right Option.some.inj

theorem exists_of_endpoint?_free {parts before after : List String} {endpoint : String → Endpoint}
    {e : Endpoint} (h : (Pattern.free before after endpoint).endpoint? parts = some e) :
    ∃ part, endpoint part = e := by
  unfold Pattern.endpoint? at h
  dsimp only at h
  split at h
  · split at h
    · exact ⟨_, Option.some.inj h⟩
    · cases h
  · cases h

namespace Service

/-- What anybody may ask stands outside of the interface. -/
theorem isOpen_eq_false_of_found {method path other : String} {e : Endpoint}
    (h : destination method path other = .found e)
    (hpath : (pathParts path).take 2 = ["api", "v2"]) : isOpen e = false := by
  obtain ⟨⟨_, pattern⟩, hroute, hendpoint⟩ := exists_route_of_found h
  cases pattern with
  | free before after endpoint =>
      obtain ⟨part, rfl⟩ := exists_of_endpoint?_free hendpoint
      simp only [Route.all, List.mem_cons, Route.mk.injEq, Pattern.free.injEq, reduceCtorEq,
        and_false, false_or, or_false, List.not_mem_nil] at hroute
      rcases hroute with ⟨-, -, -, rfl⟩ | ⟨-, -, -, rfl⟩ | ⟨-, -, -, rfl⟩ <;> rfl
  | fixed fixed endpoint =>
      obtain ⟨rfl, rfl⟩ := eq_of_endpoint?_fixed hendpoint
      simp only [Route.all, List.mem_cons, Route.mk.injEq, Pattern.fixed.injEq, reduceCtorEq,
        and_false, false_or, or_false, List.not_mem_nil] at hroute
      rcases hroute with ⟨-, hparts, rfl⟩ | ⟨-, hparts, rfl⟩ | ⟨-, hparts, rfl⟩ |
          ⟨-, hparts, rfl⟩ | ⟨-, hparts, rfl⟩ | ⟨-, hparts, rfl⟩ | ⟨-, hparts, rfl⟩
      all_goals first | rfl | exact absurd (hparts ▸ hpath) (by decide)

/-- Nothing about a request tells which merchant it is for. -/
inductive IsStranger (s : Service) (r : Request) : Prop where
  | unmarked (h : r.bearerToken? = none)
  | refused {token : String} {refusal : Token.Refusal} (htoken : r.bearerToken? = some token)
      (h : Token.subject token s.settings.secretKey s.settings.algorithm s.secondsNow =
        .error refusal)
  | unnamed {token : String} {subject : Json} (htoken : r.bearerToken? = some token)
      (h : Token.subject token s.settings.secretKey s.settings.algorithm s.secondsNow =
        .ok subject)
      (hunnamed : ∀ name, subject = .text name → name = "")
  | unknown {token subject : String} (htoken : r.bearerToken? = some token)
      (h : Token.subject token s.settings.secretKey s.settings.algorithm s.secondsNow =
        .ok (.text subject))
      (hunknown : s.database.store.merchantOf? subject = none)

theorem IsStranger.merchant_error {s : Service} {r : Request} (h : s.IsStranger r) :
    ∃ trouble, (s.merchant r).2 = .error trouble := by
  unfold merchant
  cases h with
  | unmarked h =>
      rw [h]
      exact ⟨_, rfl⟩
  | @refused token refusal htoken h =>
      rw [htoken]
      dsimp only
      rw [h]
      cases refusal <;> exact ⟨_, rfl⟩
  | @unnamed token subject htoken h hunnamed =>
      rw [htoken]
      dsimp only
      rw [h]
      cases subject with
      | text name => exact ⟨.unauthorized, if_pos (hunnamed name rfl)⟩
      | _ => exact ⟨_, rfl⟩
  | @unknown token subject htoken h hunknown =>
      rw [htoken]
      dsimp only
      rw [h]
      dsimp only
      split
      · exact ⟨_, rfl⟩
      · unfold merchantOf
        rw [hunknown]
        split <;> exact ⟨_, rfl⟩

theorem merchant_withDatabase {s : Service} {other : Database}
    (hshares : s.database.SharesMerchants other) (r : Request) :
    (s.withDatabase other).merchant r = s.merchant r := by
  have hfound : ∀ subject, (s.withDatabase other).merchantOf subject = s.merchantOf subject := by
    intro subject
    have hlookup : (s.withDatabase other).database.breakdown? (merchantQuery subject) =
        s.database.breakdown? (merchantQuery subject) := hshares.lookups subject
    have hmerchant : (s.withDatabase other).database.store.merchantOf? subject =
        s.database.store.merchantOf? subject := by
      unfold Store.merchantOf?
      rw [← hshares.merchants]
      rfl
    unfold merchantOf
    rw [hlookup, hmerchant]
  -- Nothing of a token is looked into here: it is the same token under the same settings.
  have hsettings : (s.withDatabase other).settings = s.settings := rfl
  have hnow : (s.withDatabase other).secondsNow = s.secondsNow := rfl
  unfold merchant
  simp only [hfound, hsettings, hnow]

/-- A request that is for no merchant is told of trouble before its endpoint does anything. -/
theorem IsStranger.run_eq {s : Service} {r : Request} (h : s.IsStranger r) {e : Endpoint}
    (hguarded : isOpen e = false) : ∃ events trouble,
      s.run r e = s.unchanged events (.error trouble) ∧
        ∀ other, s.database.SharesMerchants other →
          (s.withDatabase other).run r e =
            (s.withDatabase other).unchanged events (.error trouble) := by
  unfold run
  simp only [hguarded, Bool.false_eq_true, if_false]
  cases if readsBody e then readBody r else .ok none with
  | error fault => exact ⟨_, _, rfl, fun _ _ => rfl⟩
  | ok body =>
      obtain ⟨trouble, htrouble⟩ := h.merchant_error
      refine ⟨(s.merchant r).1, trouble, ?_, fun other hshares => ?_⟩
      · dsimp only
        rw [htrouble]
      · dsimp only
        rw [merchant_withDatabase hshares, htrouble]

/-- A request that is turned away. -/
structure TurnsAway (s : Service) (r : Request) : Prop where
  refused : 400 ≤ (s.handle r).2.2.status ∧ (s.handle r).2.2.status < 600
  kept : (s.handle r).1 = s.database.store
  /-- Of a store nothing but its merchants shows, in the answer as in what is told of it. -/
  blind : ∀ other, s.database.SharesMerchants other →
    ((s.withDatabase other).handle r).2 = (s.handle r).2

/-- Whoever names no merchant is turned away from every endpoint of the interface, whatever the
request says and whatever else the store holds. -/
theorem turnsAway_strangers (s : Service) (r : Request) (e : Endpoint)
    (hfound : destination r.method r.address.shownPath (otherSpelling r.address.shownPath) =
      .found e)
    (hpath : (pathParts r.address.shownPath).take 2 = ["api", "v2"])
    (hstranger : s.IsStranger r) : s.TurnsAway r := by
  obtain ⟨events, trouble, hrun, hother⟩ :=
    hstranger.run_eq (isOpen_eq_false_of_found hfound hpath)
  have hnone : announcement? r = none := by
    apply announcement?_eq_none
    rcases method_of_found hfound with hmethod | hmethod <;> simp [hmethod]
  constructor
  · have hresponds := responds_of_found (s := s) hfound
    rw [hrun] at hresponds
    exact hresponds.isError
  · rw [store_of_handle, hnone, if_neg (by simp)]
    unfold innerReply
    simp only [hfound, hrun]
    rfl
  · intro other hshares
    have hinner : ((s.withDatabase other).innerReply r (s.requestId r)).2 =
        (s.innerReply r (s.requestId r)).2 := by
      unfold innerReply
      simp only [hfound, hrun, hother other hshares]
      rfl
    exact handle_withDatabase hinner

/-- A request without a token. -/
def anonymousRequest : Request :=
  { Sample.request "GET" "/api/v2/segments/categories" "" with headers := [] }

/-- Not even the catalogue, which is the same for everybody, is shown to nobody in particular. -/
theorem turnsAway_strangers_categories :
    destination anonymousRequest.method anonymousRequest.address.shownPath
        (otherSpelling anonymousRequest.address.shownPath) = .found .categories ∧
      (pathParts anonymousRequest.address.shownPath).take 2 = ["api", "v2"] ∧
      (Sample.service ⟨Sample.store [], [], true, none⟩).IsStranger anonymousRequest ∧
      (⟨Sample.store [], [], true, none⟩ : Database).SharesMerchants
        ⟨Sample.linkedStore, [], true, none⟩ ∧
      (Sample.service ⟨Sample.store [], [], true, none⟩).TurnsAway anonymousRequest := by
  have hfound : destination anonymousRequest.method anonymousRequest.address.shownPath
      (otherSpelling anonymousRequest.address.shownPath) = .found .categories := by
    decide +kernel
  have hpath : (pathParts anonymousRequest.address.shownPath).take 2 = ["api", "v2"] := by
    decide +kernel
  have hstranger : (Sample.service ⟨Sample.store [], [], true, none⟩).IsStranger
      anonymousRequest := .unmarked rfl
  exact ⟨hfound, hpath, hstranger, ⟨rfl, fun _ => rfl⟩,
    turnsAway_strangers _ _ _ hfound hpath hstranger⟩

end Service

end Http

end Targeting
