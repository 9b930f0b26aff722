import Mathlib.Data.List.Nodup
import Targeting.Proofs.Merging

/-!
The tokens of a union are those of its recipients. Ids and tokens are gathered and made distinct
apart from each other, over segments that overlap and subscribers who share a token; the two lists
nevertheless speak of the same subscribers, in the same order.
-/

namespace Targeting

attribute [local irreducible] Condition.formula

section Distinct

variable {α β : Type} [DecidableEq α] [DecidableEq β]

theorem filter_distinct (p : α → Bool) (items : List α) :
    (distinct items).filter p = distinct (items.filter p) := by
  induction items with
  | nil => rfl
  | cons a rest ih =>
      have hrest : ((distinct rest).filter (· ≠ a)).filter p =
          (distinct (rest.filter p)).filter (· ≠ a) := by
        rw [List.filter_comm, ih]
      by_cases ha : p a = true
      · rw [List.filter_cons_of_pos ha, distinct, distinct, List.filter_cons_of_pos ha, hrest]
      · -- What the filter leaves holds no `a` any more that could be taken out of it.
        have hkept : (distinct (rest.filter p)).filter (· ≠ a) = distinct (rest.filter p) := by
          apply List.filter_eq_self.mpr
          intro b hb
          have hpb : p b = true := (List.mem_filter.mp ((mem_distinct b _).mp hb)).2
          apply decide_eq_true
          rintro rfl
          exact ha hpb
        rw [List.filter_cons_of_neg ha, distinct, List.filter_cons_of_neg ha, hrest, hkept]

/-- Once the part of an item has been seen, the item itself is not missed. -/
theorem filter_flatMap_ne (part : β → List α) (b : β) (items : List β) :
    ((items.filter (· ≠ b)).flatMap part).filter (· ∉ part b) =
      (items.flatMap part).filter (· ∉ part b) := by
  induction items with
  | nil => rfl
  | cons c rest ih =>
      by_cases hc : c = b
      · have hnone : (part c).filter (· ∉ part b) = [] := by
          apply List.filter_eq_nil_iff.mpr
          intro a ha
          simpa [← hc] using ha
        rw [List.filter_cons_of_neg (by simpa using hc), List.flatMap_cons, List.filter_append,
          hnone, List.nil_append, ih]
      · rw [List.filter_cons_of_pos (by simpa using hc), List.flatMap_cons, List.flatMap_cons,
          List.filter_append, List.filter_append, ih]

/-- To gather parts and keep what is seen first, it makes no difference whether the items have been
made distinct before. -/
theorem distinct_flatMap_distinct (part : β → List α) (items : List β) :
    distinct ((distinct items).flatMap part) = distinct (items.flatMap part) := by
  induction items with
  | nil => rfl
  | cons b rest ih =>
      rw [distinct, List.flatMap_cons, List.flatMap_cons, distinct_append, distinct_append,
        filter_distinct, filter_flatMap_ne, ← filter_distinct, ih]

theorem distinct_filterMap_distinct (look : β → Option α) (items : List β) :
    distinct ((distinct items).filterMap look) = distinct (items.filterMap look) := by
  rw [List.filterMap_eq_flatMap_toList, List.filterMap_eq_flatMap_toList]
  exact distinct_flatMap_distinct _ items

end Distinct

namespace Store

/-- The delivery token that is stored for a subscriber. -/
def tokenOf (store : Store) (id : String) : Option String :=
  (store.subscribers.find? fun u => u.id == id).bind (·.token)

theorem tokenOf_of_mem {store : Store} (hkeys : store.WellKeyed .subscribers) {u : Subscriber}
    (hu : u ∈ store.subscribers) : store.tokenOf u.id = u.token := by
  have hnodup : (store.subscribers.map (·.id)).Nodup := hkeys.1
  unfold tokenOf
  cases hfind : store.subscribers.find? fun other => other.id == u.id with
  | none =>
      have habsent := List.find?_eq_none.mp hfind u hu
      simp at habsent
  | some other =>
      have hid : other.id = u.id := by simpa using List.find?_some hfind
      have hsame : other = u :=
        List.inj_on_of_nodup_map hnodup (List.mem_of_find?_eq_some hfind) hu hid
      rw [hsame]
      rfl

theorem exists_mem_of_tokenOf {store : Store} {id token : String}
    (h : store.tokenOf id = some token) :
    ∃ u ∈ store.subscribers, u.id = id ∧ u.token = some token := by
  obtain ⟨u, hfind, htoken⟩ := Option.bind_eq_some_iff.mp h
  have hid : u.id = id := by simpa using List.find?_some hfind
  exact ⟨u, List.mem_of_find?_eq_some hfind, hid, htoken⟩

end Store

theorem nonEmpty?_eq_some_iff {text : Option String} {t : String} :
    nonEmpty? text = some t ↔ text = some t ∧ t ≠ "" := by
  cases text with
  | none => simp [nonEmpty?]
  | some s =>
      by_cases hs : s = ""
      · simp only [nonEmpty?, hs, if_true]
        constructor
        · intro h
          cases h
        · rintro ⟨h, hne⟩
          exact absurd (Option.some.inj h).symm hne
      · simp only [nonEmpty?, hs, if_false, Option.some.injEq]
        constructor
        · rintro rfl
          exact ⟨rfl, hs⟩
        · exact And.left

/-- The tokens of an entry are those of its members. -/
theorem UnionEntry.tokens_eq (e : UnionEntry) :
    e.tokens = e.members.filterMap fun u => nonEmpty? u.token := by
  unfold UnionEntry.tokens UnionEntry.members
  cases e.outcome with
  | error f => rfl
  | ok a => rfl

theorem Audience.tokens_eq (a : Audience) :
    a.tokens = distinct (a.contributions.filterMap fun u => nonEmpty? u.token) := by
  have hgathered : a.entries.flatMap (·.tokens) =
      a.contributions.filterMap fun u => nonEmpty? u.token := by
    rw [Audience.contributions, List.filterMap_flatMap]
    apply List.flatMap_congr
    intro e _
    exact e.tokens_eq
  rw [Audience.tokens, hgathered]

namespace Session

/-- The tokens of an audience are the delivery tokens of its recipients. -/
structure TokensOfRecipients (s : Session) (a : Audience) : Prop where
  eq : a.tokens =
    distinct (a.uniqueIds.filterMap fun id => nonEmpty? (s.database.store.tokenOf id))
  nodup : a.tokens.Nodup
  mem_iff : ∀ token, token ∈ a.tokens ↔
    token ≠ "" ∧ ∃ u ∈ s.database.store.subscribers, u.id ∈ a.uniqueIds ∧ u.token = some token

variable {s : Session} {segmentIds : List String} {a : Audience}

theorem contributions_subset (h : (s.resolveUnion segmentIds).outcome = .ok a) :
    a.contributions ⊆ s.database.store.subscribers := by
  intro u hu
  exact (List.mem_filter.mp (subset_of_resolveUnion_outcome h hu)).1

/-- Everybody in a union is a stored subscriber, so that a token can be looked up under the id as
well. -/
theorem tokens_of_ids (hkeys : s.database.store.WellKeyed .subscribers)
    (h : a.contributions ⊆ s.database.store.subscribers) :
    a.tokens =
      distinct (a.uniqueIds.filterMap fun id => nonEmpty? (s.database.store.tokenOf id)) := by
  have hlooked : (a.contributions.filterMap fun u => nonEmpty? u.token) =
      (a.contributions.map (·.id)).filterMap fun id =>
        nonEmpty? (s.database.store.tokenOf id) := by
    rw [List.filterMap_map]
    apply List.filterMap_congr
    intro u hu
    rw [Function.comp_apply, Store.tokenOf_of_mem hkeys (h hu)]
  rw [a.tokens_eq, hlooked, Audience.uniqueIds, distinct_filterMap_distinct]

/-- Whatever breaks down and however the segments overlap, a union delivers to the tokens of its
recipients, each once and in the order of the recipients. -/
theorem resolveUnion_tokens_of_recipients (s : Session) (segmentIds : List String) (a : Audience)
    (hkeys : s.database.store.WellKeyed .subscribers)
    (h : (s.resolveUnion segmentIds).outcome = .ok a) : s.TokensOfRecipients a := by
  have heq := tokens_of_ids hkeys (contributions_subset h)
  refine ⟨heq, ?_, ?_⟩
  · rw [heq]
    exact nodup_distinct _
  · intro token
    rw [heq, mem_distinct, List.mem_filterMap]
    constructor
    · rintro ⟨id, hid, htoken⟩
      obtain ⟨hstored, hne⟩ := nonEmpty?_eq_some_iff.mp htoken
      obtain ⟨u, hu, rfl, hof⟩ := Store.exists_mem_of_tokenOf hstored
      exact ⟨hne, u, hu, hid, hof⟩
    · rintro ⟨hne, u, hu, hid, hof⟩
      refine ⟨u.id, hid, nonEmpty?_eq_some_iff.mpr ⟨?_, hne⟩⟩
      rw [Store.tokenOf_of_mem hkeys hu, hof]

/-- The session in which the last segment breaks down, with subscribers who share one token. -/
def sharingSession : Session :=
  Sample.failingSession.withStore
    { Sample.store [Sample.rowOf "s1" "browser" "chrome", Sample.rowOf "s2" "browser" "opera",
        Sample.rowOf "s4" "browser" "firefox"] with
      segments :=
        [Sample.segment, { Sample.segment with id := "s2" }, { Sample.segment with id := "s4" }]
      subscribers :=
        [{ Sample.subscriber "u1" "chrome" with token := some "t" },
          { Sample.subscriber "u2" "opera" with token := some "t" }] }

theorem resolveUnion_tokens_of_recipients_sharingSession :
    sharingSession.database.store.WellKeyed .subscribers ∧
      ∃ a, (sharingSession.resolveUnion ["s4", "s2", "s1", "s2"]).outcome = .ok a ∧
        a.uniqueIds = ["u2", "u1"] ∧ a.tokens = ["t"] ∧
        sharingSession.TokensOfRecipients a := by
  have hkeys : sharingSession.database.store.WellKeyed .subscribers := by decide
  have hfound : ((sharingSession.resolveUnion ["s4", "s2", "s1", "s2"]).outcome.toOption.map
      fun a => (a.uniqueIds, a.tokens)) = some (["u2", "u1"], ["t"]) := by decide +kernel
  cases hout : (sharingSession.resolveUnion ["s4", "s2", "s1", "s2"]).outcome with
  | error f =>
      rw [hout] at hfound
      cases hfound
  | ok a =>
      rw [hout] at hfound
      obtain ⟨hids, htokens⟩ := Prod.mk.inj (Option.some.inj hfound)
      exact ⟨hkeys, a, rfl, hids, htokens,
        resolveUnion_tokens_of_recipients _ _ _ hkeys hout⟩

end Session

end Targeting
