import Targeting.Http.Page
import Targeting.Proofs.Answers
import Targeting.Proofs.Sample
import Targeting.Proofs.Slots

/-!
What becomes of the stored rows of a segment. A row is read or it is malformed, and what is read has
a formula or is rejected; nothing is dropped on the way, and nothing is reported that was not
stored. Whoever is left out is left out with a warning of its own.
-/

namespace Targeting

attribute [local irreducible] Condition.formula

/-- Each item of a list is kept as something or set aside for something, and neither the kept nor
those set aside lose their order. -/
inductive Sorts {α β ε : Type} (judge : α → Except ε β) : List α → List β → List ε → Prop where
  | nil : Sorts judge [] [] []
  | keep {a : α} {b : β} {items : List α} {kept : List β} {aside : List ε} (h : judge a = .ok b)
      (rest : Sorts judge items kept aside) : Sorts judge (a :: items) (b :: kept) aside
  | setAside {a : α} {e : ε} {items : List α} {kept : List β} {aside : List ε}
      (h : judge a = .error e) (rest : Sorts judge items kept aside) :
      Sorts judge (a :: items) kept (e :: aside)

namespace Sorts

variable {α β ε : Type} {judge : α → Except ε β} {items : List α} {kept : List β} {aside : List ε}

theorem length (h : Sorts judge items kept aside) : kept.length + aside.length = items.length := by
  induction h with
  | nil => rfl
  | keep _ _ ih => simp only [List.length_cons]; omega
  | setAside _ _ ih => simp only [List.length_cons]; omega

theorem exists_of_mem_aside (h : Sorts judge items kept aside) {e : ε} (he : e ∈ aside) :
    ∃ a ∈ items, judge a = .error e := by
  induction h with
  | nil => cases he
  | keep _ _ ih =>
      obtain ⟨a, ha, hjudge⟩ := ih he
      exact ⟨a, List.mem_cons_of_mem _ ha, hjudge⟩
  | setAside hjudge _ ih =>
      rcases List.mem_cons.mp he with rfl | he
      · exact ⟨_, List.mem_cons_self, hjudge⟩
      · obtain ⟨a, ha, hjudge⟩ := ih he
        exact ⟨a, List.mem_cons_of_mem _ ha, hjudge⟩

end Sorts

namespace ConditionRow

/-- What a row comes to by itself. -/
def judge (row : ConditionRow) : Except MalformedRow Condition :=
  row.condition.mapError (⟨row, ·⟩)

theorem sorts (rows : List ConditionRow) : Sorts judge rows (conditions rows) (malformed rows) := by
  induction rows with
  | nil => exact .nil
  | cons row rest ih =>
      cases hrow : row.condition with
      | ok c =>
          have hjudge : row.judge = .ok c := by rw [judge, hrow]; rfl
          simpa [conditions, malformed, hrow, Except.toOption] using Sorts.keep hjudge ih
      | error issues =>
          have hjudge : row.judge = .error ⟨row, issues⟩ := by rw [judge, hrow]; rfl
          simpa [conditions, malformed, hrow, Except.toOption] using Sorts.setAside hjudge ih

end ConditionRow

namespace Condition

theorem sorts (conditions : List Condition) (now : Moment) :
    Sorts (·.formula now) conditions (conditions.filterMap (·.formula? now))
      (conditions.filterMap (·.rejection? now)) := by
  induction conditions with
  | nil => exact .nil
  | cons c rest ih =>
      cases hc : c.formula now with
      | ok f =>
          simpa [formula?_of_ok hc, rejection?_of_ok hc] using Sorts.keep (a := c) hc ih
      | error r =>
          simpa [formula?_of_error hc, rejection?_of_error hc] using Sorts.setAside (a := c) hc ih

end Condition

namespace Layout

/-- Both parts together have the formula of each place. -/
theorem perm_formulasFrom (now : Moment) (conditions : List Condition) (start : Nat) :
    (formulasFrom now .required start (ofConditions conditions) ++
      formulasFrom now .alternative start (ofConditions conditions)).Perm
        (conditions.filterMap (·.formula? now)) := by
  unfold ofConditions
  induction conditions generalizing start with
  | nil => exact .nil
  | cons c rest ih =>
      have hrest := ih (start + 1)
      simp only [List.map_cons, formulasFrom, contribution, Option.bind_some]
      cases hf : c.formula? now with
      | none => simpa [hf] using hrest
      | some f =>
          cases hpart : c.partAt start with
          | required => simpa [hf] using hrest
          | alternative =>
              have hkept : (c :: rest).filterMap (·.formula? now) =
                  f :: rest.filterMap (·.formula? now) :=
                List.filterMap_cons_some (f := fun c : Condition => c.formula? now) hf
              rw [hkept]
              simp only [reduceCtorEq, if_false, if_true, Option.toList_none, Option.toList_some,
                List.nil_append, List.singleton_append]
              exact List.perm_middle.trans (hrest.cons f)

end Layout

/-- The predicate of a segment has a formula for each condition that has one, and the rejections of
the others. -/
theorem Session.sorts_predicateOf (s : Session) (now : Moment) (rows : List ConditionRow) :
    ∃ formulas, Sorts (·.formula now) (ConditionRow.conditions rows) formulas
        (s.predicateOf now rows).skipped ∧
      ((s.predicateOf now rows).required ++ (s.predicateOf now rows).alternatives).Perm
        formulas := by
  rw [predicateOf, Predicate.ofConditions_eq]
  exact ⟨_, Condition.sorts _ now, Layout.perm_formulasFrom now _ 0⟩

/-- A stored condition that was left out, and why. -/
inductive Skip where
  | row (m : MalformedRow)
  | condition (r : Rejection)

namespace Skip

def conditionId : Skip → Json
  | .row m => m.id
  | .condition r => .text r.conditionId

def event (segmentId : String) : Skip → Event
  | .row m => m.event
  | .condition r => .conditionSkipped (some segmentId) r

def toJson : Skip → Json
  | .row m => Http.malformedJson m
  | .condition r => Http.rejectionJson r

end Skip

/-- What an audience leaves out: first the rows that could not be read. -/
def SegmentAudience.skips (a : SegmentAudience) : List Skip :=
  a.malformed.map .row ++ a.rejected.map .condition

theorem SegmentAudience.map_skips {β : Type} (a : SegmentAudience) (f : Skip → β) :
    a.skips.map f =
      a.malformed.map (fun m => f (.row m)) ++ a.rejected.map (fun r => f (.condition r)) := by
  simp [skips, Function.comp_def]

namespace Traced

variable {α β : Type}

theorem events_pure (a : α) : (Pure.pure a : Traced α).events = [] :=
  rfl

theorem events_bind_of_ok {x : Traced α} {a : α} (h : x.outcome = .ok a) (next : α → Traced β) :
    (x >>= next).events = x.events ++ (next a).events := by
  change (x.bind next).events = _
  rw [Traced.bind, h]

end Traced

namespace Session

theorem ask_of_answered {α : Type} {s : Session} {q : Query} (h : s.database.breakdown? q = none)
    (answer : Store → α) : s.ask q answer = .pure (answer s.database.store) := by
  rw [ask, h]

theorem loadSegment_of_serves {s : Session} {g : Segment} {now : Moment} (h : s.Serves now g)
    (hlive : s.database.store.segment? s.merchantId g.id = some g) :
    s.loadSegment g.id = .pure (g, s.database.store.rowsOf g.id) := by
  have hasked : (s.ask (.segmentById g.id s.merchantId) fun store =>
      store.segment? s.merchantId g.id) = .pure (some g) := by
    rw [ask_of_answered h.found, hlive]
  have hread : readSegments [g] = .pure () := by
    simp [readSegments, h.readable]
  have hrows : ∀ operation, s.askRows operation [g] (s.database.store.rowsOf g.id) =
      .pure (s.database.store.rowsOf g.id) := by
    intro operation
    unfold askRows
    rw [h.loaded]
  unfold loadSegment
  dsimp only
  rw [hasked]
  change (readSegments [g] >>= _) = _
  rw [hread]
  change (s.askRows _ [g] _ >>= _) = _
  rw [hrows]
  rfl

theorem predicate_of_clock {s : Session} {now : Moment} (h : s.now = .ok now)
    (conditions : List Condition) :
    s.predicate conditions = .pure (.ofConditions conditions s.merchantId now) := by
  unfold predicate
  cases conditions with
  | nil => rfl
  | cons c rest =>
      rw [if_neg (by simp), readClock, h]
      rfl

/-- What the resolution of an active segment tells, in order. -/
theorem resolveSegment_events {s : Session} {now : Moment} {g : Segment} (hnow : s.now = .ok now)
    (hserved : s.Serves now g) (hlive : s.database.store.segment? s.merchantId g.id = some g)
    (hactive : g.isActive = true) :
    ∃ a, (s.resolveSegment g.id).outcome = .ok a ∧
      a.malformed = ConditionRow.malformed (s.database.store.rowsOf g.id) ∧
      a.rejected = (s.predicateOf now (s.database.store.rowsOf g.id)).skipped ∧
      (s.resolveSegment g.id).events =
        a.skips.map (·.event g.id) ++
          [.segmentResolved g.id a.members.length a.tokens.length] := by
  refine ⟨_, resolveSegment_outcome hnow hserved hlive hactive, rfl, rfl, ?_⟩
  have hfetch : s.fetch (s.predicateOf now (s.database.store.rowsOf g.id)) = .pure _ :=
    ask_of_answered hserved.fetched _
  unfold predicateOf at hfetch ⊢
  unfold resolveSegment
  rw [loadSegment_of_serves hserved hlive, Traced.events_bind_of_ok rfl]
  dsimp only
  rw [if_pos hactive, Traced.events_bind_of_ok rfl, predicate_of_clock hnow,
    Traced.events_bind_of_ok rfl, Traced.events_bind_of_ok rfl, hfetch,
    Traced.events_bind_of_ok rfl, Traced.events_bind_of_ok rfl]
  simp [Traced.events_pure, Traced.pure, Traced.tell, Predicate.events, audienceOf, predicateOf,
    SegmentAudience.map_skips, Skip.event]

end Session

/-- What a rejection says of its condition. -/
theorem Condition.names_of_formula {c : Condition} {now : Moment} {r : Rejection}
    (h : c.formula now = .error r) :
    r.conditionId = c.id ∧ r.category = categoryKey c.category := by
  unfold Condition.formula at h
  cases hjudge : c.judge now with
  | ok f =>
      rw [hjudge] at h
      change Except.ok f = _ at h
      cases h
  | error cause =>
      rw [hjudge] at h
      change Except.error (Rejection.mk c.id (categoryKey c.category) cause) = _ at h
      simp only [← Except.error.inj h, and_self]

theorem ConditionRow.segmentId_of_isOf {row : ConditionRow} {segmentId : String}
    (h : row.isOf segmentId = true) : row.segmentId = .text segmentId := by
  unfold ConditionRow.isOf at h
  split at h
  next s hs => rw [hs, eq_of_beq h]
  next => cases h

theorem ConditionRow.segmentId_of_malformed {store : Store} {segmentId : String} {m : MalformedRow}
    (h : m ∈ ConditionRow.malformed (store.rowsOf segmentId)) :
    m.row.segmentId = .text segmentId := by
  obtain ⟨row, hrow, hjudge⟩ := (ConditionRow.sorts _).exists_of_mem_aside h
  have hof : row.isOf segmentId = true := by
    rw [Store.rowsOf, List.mem_mergeSort] at hrow
    exact (List.mem_filter.mp hrow).2
  have hsame : m.row = row := by
    unfold ConditionRow.judge at hjudge
    cases hread : row.condition with
    | ok c =>
        rw [hread] at hjudge
        cases hjudge
    | error issues =>
        rw [hread] at hjudge
        cases hjudge
        rfl
  rw [hsame]
  exact ConditionRow.segmentId_of_isOf hof

namespace SegmentAudience

/-- Each stored row of a segment is accounted for once: it has a formula in the predicate, or it is
left out of the audience, which then says so under the row's own id and warns of it. -/
structure AccountsFor (a : SegmentAudience) (g : Segment) (rows : List ConditionRow)
    (p : Predicate) (now : Moment) (events : List Event) : Prop where
  sortsRows : Sorts ConditionRow.judge rows (ConditionRow.conditions rows) a.malformed
  sortsConditions : ∃ formulas,
    Sorts (·.formula now) (ConditionRow.conditions rows) formulas a.rejected ∧
      (p.required ++ p.alternatives).Perm formulas
  named : ∀ row ∈ rows, ∀ c r, row.condition = .ok c → c.formula now = .error r →
    row.column .id = .text r.conditionId ∧ r.category = categoryKey c.category
  assembled : p.required.length + p.alternatives.length + a.rejected.length =
    (ConditionRow.conditions rows).length
  counted : p.compiledCount + a.skips.length = rows.length
  warned : events.filter (·.level = .warning) = a.skips.map (·.event g.id)
  details : ∀ skip ∈ a.skips,
    Json.lookup? (skip.event g.id).details "segment_id" = some (.text g.id) ∧
      Json.lookup? (skip.event g.id).details "condition_id" = some skip.conditionId
  told : (Http.segmentPage a).field? "skipped" = some (.list (a.skips.map (·.toJson)))

end SegmentAudience

/-- The rows of an active segment are all accounted for while the store answers. -/
theorem Session.resolveSegment_accounts_for_rows (s : Session) (now : Moment) (g : Segment)
    (hnow : s.now = .ok now) (hserved : s.Serves now g)
    (hlive : s.database.store.segment? s.merchantId g.id = some g) (hactive : g.isActive = true) :
    ∃ a, (s.resolveSegment g.id).outcome = .ok a ∧
      a.AccountsFor g (s.database.store.rowsOf g.id)
        (s.predicateOf now (s.database.store.rowsOf g.id)) now (s.resolveSegment g.id).events := by
  obtain ⟨a, ha, hmalformed, hrejected, hevents⟩ :=
    resolveSegment_events hnow hserved hlive hactive
  have hrows := ConditionRow.sorts (s.database.store.rowsOf g.id)
  obtain ⟨formulas, hconditions, hparts⟩ := s.sorts_predicateOf now (s.database.store.rowsOf g.id)
  rw [← hmalformed] at hrows
  rw [← hrejected] at hconditions
  have hassembled : (s.predicateOf now (s.database.store.rowsOf g.id)).required.length +
      (s.predicateOf now (s.database.store.rowsOf g.id)).alternatives.length + a.rejected.length =
        (ConditionRow.conditions (s.database.store.rowsOf g.id)).length := by
    rw [← List.length_append, hparts.length_eq]
    exact hconditions.length
  refine ⟨a, ha, hrows, ⟨formulas, hconditions, hparts⟩, ?_, hassembled, ?_, ?_, ?_, ?_⟩
  · intro row _ c r hc hr
    obtain ⟨hid, hcategory⟩ := Condition.names_of_formula hr
    exact ⟨hid ▸ ConditionRow.column_id_of_condition hc, hcategory⟩
  · have hread := hrows.length
    simp only [SegmentAudience.skips, List.length_append, List.length_map, Predicate.compiledCount]
    omega
  · have hwarnings : ∀ e ∈ a.skips.map (·.event g.id), decide (e.level = .warning) = true := by
      intro e he
      obtain ⟨skip, _, rfl⟩ := List.mem_map.mp he
      cases skip <;> rfl
    rw [hevents, List.filter_append, List.filter_eq_self.mpr hwarnings]
    exact List.append_nil _
  · intro skip hskip
    simp only [SegmentAudience.skips, List.mem_append, List.mem_map] at hskip
    rcases hskip with ⟨m, hm, rfl⟩ | ⟨r, _, rfl⟩
    · have hsegment := ConditionRow.segmentId_of_malformed (hmalformed ▸ hm)
      exact ⟨congrArg some hsegment, rfl⟩
    · exact ⟨rfl, rfl⟩
  · simp [SegmentAudience.map_skips, Http.segmentPage, Json.field?, Json.lookup?, Skip.toJson]

namespace Session

/-- Rows of which the first cannot be read and the second asks for something unknown. -/
def halfUsableRows : List ConditionRow :=
  [Sample.row 0 "browser" "chrome" "XOR", Sample.row 1 "weather" "rain" "AND",
    Sample.row 2 "browser" "chrome" "OR"]

theorem serves_halfUsableRows :
    (Sample.session halfUsableRows).Serves Sample.now Sample.segment where
  found := by decide +kernel
  readable := by decide
  loaded := by decide
  fetched := by
    have hrows : (Sample.session halfUsableRows).database.store.rowsOf Sample.segment.id =
        halfUsableRows :=
      rowsOf_eq_of_ordered (by decide) (by decide)
    rw [hrows]
    decide +kernel

theorem resolveSegment_accounts_for_rows_halfUsable :
    (Sample.session halfUsableRows).Serves Sample.now Sample.segment ∧
      ∃ a, ((Sample.session halfUsableRows).resolveSegment "s1").outcome = .ok a ∧
        a.AccountsFor Sample.segment ((Sample.session halfUsableRows).database.store.rowsOf "s1")
          ((Sample.session halfUsableRows).predicateOf Sample.now
            ((Sample.session halfUsableRows).database.store.rowsOf "s1"))
          Sample.now ((Sample.session halfUsableRows).resolveSegment "s1").events :=
  ⟨serves_halfUsableRows, resolveSegment_accounts_for_rows (Sample.session halfUsableRows)
    Sample.now Sample.segment rfl serves_halfUsableRows rfl rfl⟩

end Session

end Targeting
