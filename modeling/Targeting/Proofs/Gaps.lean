import Mathlib.Data.List.Basic
import Targeting.Proofs.Answers
import Targeting.Proofs.Sample

/-!
Gaps between conditions. Rows that cannot be read, and rows that are not filled in yet, are taken
out of a list before it is put together, and so every condition behind them moves up. This makes no
difference as long as the first place is taken. Where it is empty, the condition that moves into it
is required from then on, whatever its join says. The main results say exactly when a segment
resolves to what the places of its rows ask, and when an estimate counts what is resolved.
-/

namespace Targeting

open Text

attribute [local irreducible] Condition.formula

theorem normalizedName_of_isBlank {written : String} (h : isBlank written = true) :
    normalizedName written = "" := by
  rw [normalizedName, (trim_eq_empty_iff written).mpr h]
  rfl

theorem categoryKey_of_isBlank {written : String} (h : isBlank written = true) :
    categoryKey written = "" := by
  rw [categoryKey, normalizedName_of_isBlank h]
  rfl

theorem operatorKey_of_isBlank {written : String} (h : isBlank written = true) :
    operatorKey written = "" := by
  rw [operatorKey, normalizedName_of_isBlank h]
  rfl

/-- A row that is not filled in yet is rejected, for its category or for its operator at last. -/
theorem Condition.formula?_of_isUnfilled {c : Condition} (now : Moment)
    (h : c.isUnfilled = true) : c.formula? now = none := by
  have hjudged : ∃ cause, c.judge now = .error cause := by
    by_cases hkey : categoryKey c.category = ""
    · exact ⟨.blankCategory, by simp [judge, hkey]⟩
    · have hoperator : operatorKey c.operator = "" := by
        rcases Bool.or_eq_true_iff.mp h with hblank | hblank
        · exact absurd (categoryKey_of_isBlank hblank) hkey
        · exact operatorKey_of_isBlank hblank
      unfold judge
      simp only [hkey, hoperator, if_true, if_false]
      split
      · exact ⟨_, rfl⟩
      · split
        · exact ⟨_, rfl⟩
        · exact ⟨_, rfl⟩
  obtain ⟨cause, hcause⟩ := hjudged
  refine @formula?_of_error c now ⟨c.id, categoryKey c.category, cause⟩ ?_
  rw [formula, hcause]
  rfl

namespace Layout

/-- The conditions of a layout, one after the other. -/
def conditions (l : Layout) : List Condition := l.filterMap id

/-- A layout without its gaps: every condition moves up. -/
def closed (l : Layout) : Layout := ofConditions l.conditions

/-- The alternative that becomes required when the gaps are closed: it stands behind an empty first
place, with nothing but gaps between. -/
def promoted? (l : Layout) (now : Moment) : Option Formula :=
  match l with
  | none :: rest =>
      (conditions rest).head?.bind fun c => contribution now .alternative (some c) 1
  | _ => none

/-- A subscriber passes a promotion when the promoted formula is true of them, and one of the
remaining alternatives if there are any. -/
def Passes (l : Layout) (now : Moment) (u : Subscriber) : Prop :=
  ∀ f, l.promoted? now = some f →
    f.eval u = .yes ∧
      (l.closed.formulas now .alternative ≠ [] →
        ∃ g ∈ l.closed.formulas now .alternative, g.eval u = .yes)

theorem closed_none_cons (l : Layout) : closed (none :: l) = closed l := rfl

theorem closed_some_cons (c : Condition) (l : Layout) : closed (some c :: l) = some c :: closed l :=
  rfl

/-- Behind the first place the place itself does not matter, and neither do gaps. -/
theorem formulasFrom_succ_closed (now : Moment) (part : Part) (l : Layout) (m n : Nat) :
    formulasFrom now part (m + 1) l = formulasFrom now part (n + 1) l.closed := by
  induction l generalizing m n with
  | nil => rfl
  | cons slot rest ih =>
      cases slot with
      | none =>
          rw [closed_none_cons, ← ih (m + 1) n]
          rfl
      | some c =>
          rw [closed_some_cons, formulasFrom, formulasFrom, ih (m + 1) (n + 1)]
          rfl

/-- A condition that no promotion concerns contributes the same in the first place and behind. -/
theorem contribution_zero_eq {c : Condition} {now : Moment}
    (h : contribution now .alternative (some c) 1 = none) (part : Part) :
    contribution now part (some c) 0 = contribution now part (some c) 1 := by
  have hzero : c.partAt 0 = .required := rfl
  simp only [contribution, Option.bind_some, hzero] at h ⊢
  by_cases hone : c.partAt 1 = .alternative
  · rw [if_pos hone] at h
    simp [h]
  · have hone : c.partAt 1 = .required := by
      cases hp : c.partAt 1 with
      | required => rfl
      | alternative => exact absurd hp hone
    rw [hone]

/-- A condition that a promotion concerns is an alternative behind the first place, and required in
it. -/
theorem contribution_of_promoted {c : Condition} {now : Moment} {f : Formula}
    (h : contribution now .alternative (some c) 1 = some f) :
    contribution now .required (some c) 1 = none ∧
      contribution now .required (some c) 0 = some f ∧
      contribution now .alternative (some c) 0 = none := by
  have hzero : c.partAt 0 = .required := rfl
  simp only [contribution, Option.bind_some, hzero] at h ⊢
  by_cases hone : c.partAt 1 = .alternative
  · rw [if_pos hone] at h
    simp [hone, h]
  · simp [hone] at h

/-- Closing the gaps of a layout either changes no part, or takes the promoted formula from the head
of the alternatives to the head of the required formulas. -/
theorem formulas_closed_cases (l : Layout) (now : Moment) :
    (l.promoted? now = none ∧ ∀ part, l.closed.formulas now part = l.formulas now part) ∨
      ∃ f, l.promoted? now = some f ∧
        l.closed.formulas now .required = f :: l.formulas now .required ∧
        l.formulas now .alternative = f :: l.closed.formulas now .alternative := by
  rcases l with _ | ⟨_ | first, rest⟩
  · exact Or.inl ⟨rfl, fun _ => rfl⟩
  · have hopen (part : Part) : formulas (none :: rest) now part =
        formulasFrom now part 1 (closed rest) := formulasFrom_succ_closed now part rest 0 0
    cases hconditions : conditions rest with
    | nil =>
        refine Or.inl ⟨by simp [promoted?, hconditions], fun part => ?_⟩
        rw [hopen, closed_none_cons, closed, hconditions]
        rfl
    | cons c more =>
        have hclosed : closed rest = some c :: ofConditions more := by
          rw [closed, hconditions]
          rfl
        have htail (part : Part) : formulasFrom now part 2 (ofConditions more) =
            formulasFrom now part 1 (ofConditions more) :=
          (formulasFrom_succ_closed now part _ 1 0).trans
            (formulasFrom_succ_closed now part _ 0 0).symm
        -- Both sides differ in what the condition behind the gaps contributes, and in nothing else.
        have hleft (part : Part) : (closed (none :: rest)).formulas now part =
            (contribution now part (some c) 0).toList ++
              formulasFrom now part 1 (ofConditions more) := by
          rw [closed_none_cons, hclosed]
          rfl
        have hright (part : Part) : formulas (none :: rest) now part =
            (contribution now part (some c) 1).toList ++
              formulasFrom now part 1 (ofConditions more) := by
          rw [hopen, hclosed, formulasFrom, htail]
        have hpromoted : promoted? (none :: rest) now =
            contribution now .alternative (some c) 1 := by
          simp [promoted?, hconditions]
        cases hc : contribution now .alternative (some c) 1 with
        | none =>
            refine Or.inl ⟨hpromoted.trans hc, fun part => ?_⟩
            rw [hleft, hright, contribution_zero_eq hc]
        | some f =>
            obtain ⟨hone, hzero, hnone⟩ := contribution_of_promoted hc
            refine Or.inr ⟨f, hpromoted.trans hc, ?_, ?_⟩
            · rw [hleft, hright, hone, hzero]
              rfl
            · rw [hleft, hright, hc, hnone]
              rfl
  · refine Or.inl ⟨rfl, fun part => ?_⟩
    rw [closed_some_cons, formulas, formulas, formulasFrom, formulasFrom,
      formulasFrom_succ_closed now part rest 0 0]

/-- What the closed layout admits is what the layout admits, less those who do not pass the
promotion. -/
theorem admits_closed_iff (l : Layout) (merchantId : String) (now : Moment) (u : Subscriber) :
    l.closed.Admits merchantId now u ↔ l.Admits merchantId now u ∧ l.Passes now u := by
  rw [← eval_predicate_eq_yes, ← eval_predicate_eq_yes, Predicate.eval_formula_eq_yes,
    Predicate.eval_formula_eq_yes]
  simp only [predicate, Passes]
  rcases l.formulas_closed_cases now with ⟨hnone, hsame⟩ | ⟨f, hf, hrequired, halternative⟩
  · simp [hnone, hsame]
  · rw [hf, hrequired, halternative]
    simp only [List.mem_cons, forall_eq_or_imp, exists_eq_or_imp, Option.some.injEq, ne_eq,
      reduceCtorEq, not_false_eq_true, true_imp_iff, forall_eq']
    constructor
    · rintro ⟨hscope, ⟨hyes, hall⟩, hone⟩
      exact ⟨⟨hscope, hall, Or.inl hyes⟩, hyes, hone⟩
    · rintro ⟨⟨hscope, hall, _⟩, hyes, hone⟩
      exact ⟨hscope, ⟨hyes, hall⟩, hone⟩

/-- The closed layout selects the same subscribers of a store, each as often, exactly when all whom
the layout admits pass. -/
theorem filter_closed_perm_iff (l : Layout) (merchantId : String) (now : Moment)
    (subscribers : List Subscriber) :
    (subscribers.filter (l.closed.Admits merchantId now ·)).Perm
        (subscribers.filter (l.Admits merchantId now ·)) ↔
      ∀ u ∈ subscribers, l.Admits merchantId now u → l.Passes now u := by
  constructor
  · intro hperm u hu hadmits
    have hmem : u ∈ subscribers.filter (l.Admits merchantId now ·) := by simp [hu, hadmits]
    have hclosed := hperm.mem_iff.mpr hmem
    simp only [List.mem_filter, decide_eq_true_iff] at hclosed
    exact ((l.admits_closed_iff merchantId now u).mp hclosed.2).2
  · intro hpass
    have hsame : subscribers.filter (l.closed.Admits merchantId now ·) =
        subscribers.filter (l.Admits merchantId now ·) := by
      refine List.filter_congr fun u hu => ?_
      rw [decide_eq_decide, admits_closed_iff]
      exact ⟨fun h => h.1, fun h => ⟨h, hpass u hu h⟩⟩
    rw [hsame]

/-- The closed layout selects nobody whom the layout does not. -/
theorem filter_closed_sublist (l : Layout) (merchantId : String) (now : Moment)
    (subscribers : List Subscriber) :
    (subscribers.filter (l.closed.Admits merchantId now ·)).Sublist
      (subscribers.filter (l.Admits merchantId now ·)) := by
  refine List.monotone_filter_right subscribers fun u hu => ?_
  rw [decide_eq_true_iff] at hu ⊢
  exact ((l.admits_closed_iff merchantId now u).mp hu).1

/-- The closed layout selects as many subscribers of a store exactly when all whom the layout admits
pass. -/
theorem length_filter_closed_iff (l : Layout) (merchantId : String) (now : Moment)
    (subscribers : List Subscriber) :
    (subscribers.filter (l.closed.Admits merchantId now ·)).length =
        (subscribers.filter (l.Admits merchantId now ·)).length ↔
      ∀ u ∈ subscribers, l.Admits merchantId now u → l.Passes now u := by
  rw [← filter_closed_perm_iff]
  constructor
  · intro hlength
    rw [(l.filter_closed_sublist merchantId now subscribers).eq_of_length hlength]
  · intro hperm
    exact hperm.length_eq

/-- The places of authored conditions. A row that is not filled in yet leaves its place empty. -/
def ofFilled (conditions : List Condition) : Layout :=
  conditions.map fun c => if c.isUnfilled then none else some c

theorem closed_ofConditions (conditions : List Condition) :
    (ofConditions conditions).closed = ofConditions conditions := by
  induction conditions with
  | nil => rfl
  | cons c rest ih =>
      change closed (some c :: ofConditions rest) = some c :: ofConditions rest
      rw [closed_some_cons, ih]

theorem conditions_ofRows (rows : List ConditionRow) :
    (ofRows rows).conditions = ConditionRow.conditions rows := by
  rw [conditions, ofRows, List.filterMap_map]
  rfl

/-- Rows that all can be read leave no place empty. -/
theorem ofRows_eq_ofConditions {rows : List ConditionRow} {conditions : List Condition}
    (h : rows.map (·.condition) = conditions.map .ok) : ofRows rows = ofConditions conditions := by
  have hoptions := congrArg (List.map Except.toOption) h
  rw [List.map_map, List.map_map] at hoptions
  exact hoptions

theorem conditions_ofFilled (authored : List Condition) :
    (ofFilled authored).conditions = authored.filter (!·.isUnfilled) := by
  induction authored with
  | nil => rfl
  | cons c rest ih =>
      have hrest : List.filterMap id (ofFilled rest) = rest.filter (!·.isUnfilled) := ih
      cases hc : c.isUnfilled <;> simp [conditions, ofFilled, hc, ← hrest]

/-- Where a row is not filled in yet, it is the same to the parts whether its place is empty. -/
theorem formulasFrom_ofFilled (now : Moment) (part : Part) (authored : List Condition)
    (start : Nat) :
    formulasFrom now part start (ofFilled authored) =
      formulasFrom now part start (ofConditions authored) := by
  induction authored generalizing start with
  | nil => rfl
  | cons c rest ih =>
      simp only [ofFilled, ofConditions, List.map_cons, formulasFrom] at ih ⊢
      rw [ih]
      cases hc : c.isUnfilled with
      | false => simp
      | true => simp [contribution, c.formula?_of_isUnfilled now hc]

theorem admits_ofFilled_iff (authored : List Condition) (merchantId : String) (now : Moment)
    (u : Subscriber) :
    (ofFilled authored).Admits merchantId now u ↔
      (ofConditions authored).Admits merchantId now u := by
  rw [← eval_predicate_eq_yes, ← eval_predicate_eq_yes]
  simp only [predicate, formulas, formulasFrom_ofFilled]

end Layout

namespace Session

/-- A predicate of conditions that were taken out of a layout selects what the closed layout
admits. -/
theorem selects_conditions (l : Layout) (merchantId : String) (now : Moment) :
    (Predicate.ofConditions l.conditions merchantId now).formula.selects =
      fun u => decide (l.closed.Admits merchantId now u) := by
  funext u
  rw [Bool.eq_iff_iff, Formula.selects_iff, Layout.eval_ofConditions_eq_yes, decide_eq_true_iff]
  rfl

/-- The members of a live segment are the subscribers that the closed places of its rows admit. -/
theorem members_perm {s : Session} {now : Moment} {g : Segment} (hnow : s.now = .ok now)
    (hserved : s.Serves now g)
    (hlive : s.database.store.segment? s.merchantId g.id = some g) (hactive : g.isActive = true) :
    ∃ a, (s.resolveSegment g.id).outcome = .ok a ∧
      a.members.Perm (s.database.store.subscribers.filter
        ((Layout.ofRows (s.database.store.rowsOf g.id)).closed.Admits s.merchantId now ·)) := by
  refine ⟨_, resolveSegment_outcome hnow hserved hlive hactive, ?_⟩
  have hselects := selects_conditions (Layout.ofRows (s.database.store.rowsOf g.id))
    s.merchantId now
  rw [Layout.conditions_ofRows] at hselects
  simp only [audienceOf, Store.selected, predicateOf, hselects]
  exact List.mergeSort_perm _ _

/-- A live segment always resolves to what the closed places of its stored rows admit. This is what
the places themselves admit exactly when everybody whom they admit passes the promotion: when the
first row can be read, when no alternative comes first behind rows that cannot, or else when all of
them satisfy this alternative, and one of the others if there are any. -/
theorem resolveSegment_admits_by_place_iff (s : Session) (now : Moment) (g : Segment)
    (hnow : s.now = .ok now) (hserved : s.Serves now g)
    (hlive : s.database.store.segment? s.merchantId g.id = some g) (hactive : g.isActive = true) :
    ∃ a, (s.resolveSegment g.id).outcome = .ok a ∧
      a.members.Perm (s.database.store.subscribers.filter
        ((Layout.ofRows (s.database.store.rowsOf g.id)).closed.Admits s.merchantId now ·)) ∧
      (a.members.Perm (s.database.store.subscribers.filter
          ((Layout.ofRows (s.database.store.rowsOf g.id)).Admits s.merchantId now ·)) ↔
        ∀ u ∈ s.database.store.subscribers,
          (Layout.ofRows (s.database.store.rowsOf g.id)).Admits s.merchantId now u →
            (Layout.ofRows (s.database.store.rowsOf g.id)).Passes now u) := by
  obtain ⟨a, ha, hmembers⟩ := members_perm hnow hserved hlive hactive
  refine ⟨a, ha, hmembers, ?_⟩
  rw [← Layout.filter_closed_perm_iff]
  exact ⟨hmembers.symm.trans, hmembers.trans⟩

/-- Rows of which the first cannot be read, with two alternatives behind it. -/
def unreadableFirst : List ConditionRow :=
  [Sample.row 0 "browser" "chrome" "XOR", Sample.row 1 "browser" "chrome" "OR",
    Sample.row 2 "operating_system" "linux" "OR"]

theorem rowsOf_unreadableFirst :
    (Sample.session unreadableFirst).database.store.rowsOf Sample.segment.id = unreadableFirst :=
  rowsOf_eq_of_ordered (by decide) (by decide)

theorem serves_unreadableFirst :
    (Sample.session unreadableFirst).Serves Sample.now Sample.segment where
  found := by decide +kernel
  readable := by decide
  loaded := by decide
  fetched := by
    rw [rowsOf_unreadableFirst]
    decide +kernel

theorem resolveSegment_admits_by_place_iff_unreadableFirst :
    (Sample.session unreadableFirst).Serves Sample.now Sample.segment ∧
      ∃ a, ((Sample.session unreadableFirst).resolveSegment "s1").outcome = .ok a ∧
        a.members.Perm ((Sample.session unreadableFirst).database.store.subscribers.filter
          ((Layout.ofRows ((Sample.session unreadableFirst).database.store.rowsOf
            "s1")).closed.Admits "m1" Sample.now ·)) ∧
        (a.members.Perm ((Sample.session unreadableFirst).database.store.subscribers.filter
            ((Layout.ofRows ((Sample.session unreadableFirst).database.store.rowsOf
              "s1")).Admits "m1" Sample.now ·)) ↔
          ∀ u ∈ (Sample.session unreadableFirst).database.store.subscribers,
            (Layout.ofRows ((Sample.session unreadableFirst).database.store.rowsOf
              "s1")).Admits "m1" Sample.now u →
              (Layout.ofRows ((Sample.session unreadableFirst).database.store.rowsOf
                "s1")).Passes Sample.now u) :=
  ⟨serves_unreadableFirst,
    resolveSegment_admits_by_place_iff (Sample.session unreadableFirst) Sample.now Sample.segment
      rfl serves_unreadableFirst (by decide) (by decide)⟩

/-- The alternative behind the row that cannot be read is asked of everybody, and the second
subscriber, who satisfies the other alternative, is left out. -/
theorem unreadable_first_row_drops_subscriber :
    ∃ a, ((Sample.session unreadableFirst).resolveSegment "s1").outcome = .ok a ∧
      ¬ a.members.Perm ((Sample.session unreadableFirst).database.store.subscribers.filter
        ((Layout.ofRows unreadableFirst).Admits "m1" Sample.now ·)) := by
  obtain ⟨a, ha, hmembers⟩ := members_perm (s := Sample.session unreadableFirst)
    (g := Sample.segment) rfl serves_unreadableFirst (by decide) (by decide)
  refine ⟨a, ha, fun hperm => ?_⟩
  have hlength := (hmembers.symm.trans hperm).length_eq
  rw [rowsOf_unreadableFirst] at hlength
  revert hlength
  decide +kernel

/-- An estimate never counts more subscribers than a live segment with the same conditions resolves
to. It counts as many exactly when everybody whom the places of the conditions admit passes the
promotion: when the first row is filled in, when no alternative comes first behind rows that are
not, or else when all of them satisfy this alternative, and one of the others if there are any. -/
theorem estimate_count_eq_resolved_iff (s : Session) (now : Moment) (g : Segment)
    (authored : List Condition) (hnow : s.now = .ok now) (hserved : s.Serves now g)
    (hcounts : s.Counts now authored)
    (hlive : s.database.store.segment? s.merchantId g.id = some g) (hactive : g.isActive = true)
    (hstored : (s.database.store.rowsOf g.id).map (·.condition) = authored.map .ok) :
    ∃ e a, (s.estimate authored).outcome = .ok e ∧ (s.resolveSegment g.id).outcome = .ok a ∧
      e.count ≤ a.subscriberIds.length ∧
      (e.count = a.subscriberIds.length ↔
        ∀ u ∈ s.database.store.subscribers,
          (Layout.ofFilled authored).Admits s.merchantId now u →
            (Layout.ofFilled authored).Passes now u) := by
  obtain ⟨a, ha, hmembers⟩ := members_perm hnow hserved hlive hactive
  refine ⟨_, a, estimate_outcome hnow hcounts, ha, ?_⟩
  have hresolved : a.subscriberIds.length = (s.database.store.subscribers.filter
      ((Layout.ofFilled authored).Admits s.merchantId now ·)).length := by
    rw [SegmentAudience.subscriberIds, List.length_map, hmembers.length_eq,
      Layout.ofRows_eq_ofConditions hstored, Layout.closed_ofConditions]
    simp only [Layout.admits_ofFilled_iff]
  rw [hresolved, ← Layout.length_filter_closed_iff, Store.countOf, ← Layout.conditions_ofFilled,
    selects_conditions]
  exact ⟨(Layout.filter_closed_sublist _ _ _ _).length_le, Iff.rfl⟩

/-- Rows of which the first is not filled in, with two alternatives behind it. -/
def unfilledFirst : List ConditionRow :=
  [Sample.row 0 "" "" "OR", Sample.row 1 "browser" "chrome" "OR",
    Sample.row 2 "operating_system" "linux" "OR"]

/-- The conditions of these rows. -/
def unfilledFirstConditions : List Condition :=
  [Sample.condition "" "" .any, Sample.condition "browser" "chrome" .any,
    Sample.condition "operating_system" "linux" .any]

theorem rowsOf_unfilledFirst :
    (Sample.session unfilledFirst).database.store.rowsOf Sample.segment.id = unfilledFirst :=
  rowsOf_eq_of_ordered (by decide) (by decide)

theorem conditions_unfilledFirst :
    unfilledFirst.map (·.condition) = unfilledFirstConditions.map .ok := by
  decide +kernel

theorem serves_unfilledFirst :
    (Sample.session unfilledFirst).Serves Sample.now Sample.segment where
  found := by decide +kernel
  readable := by decide
  loaded := by decide
  fetched := by
    rw [rowsOf_unfilledFirst]
    decide +kernel

theorem counts_unfilledFirst :
    (Sample.session unfilledFirst).Counts Sample.now unfilledFirstConditions := by
  unfold Counts
  decide +kernel

theorem estimate_count_eq_resolved_iff_unfilledFirst :
    (Sample.session unfilledFirst).Serves Sample.now Sample.segment ∧
      (Sample.session unfilledFirst).Counts Sample.now unfilledFirstConditions ∧
      ∃ e a, ((Sample.session unfilledFirst).estimate unfilledFirstConditions).outcome = .ok e ∧
        ((Sample.session unfilledFirst).resolveSegment "s1").outcome = .ok a ∧
        e.count ≤ a.subscriberIds.length ∧
        (e.count = a.subscriberIds.length ↔
          ∀ u ∈ (Sample.session unfilledFirst).database.store.subscribers,
            (Layout.ofFilled unfilledFirstConditions).Admits "m1" Sample.now u →
              (Layout.ofFilled unfilledFirstConditions).Passes Sample.now u) :=
  ⟨serves_unfilledFirst, counts_unfilledFirst,
    estimate_count_eq_resolved_iff (Sample.session unfilledFirst) Sample.now Sample.segment
      unfilledFirstConditions rfl serves_unfilledFirst counts_unfilledFirst (by decide) (by decide)
      (by rw [rowsOf_unfilledFirst, conditions_unfilledFirst])⟩

/-- The estimate asks the alternative behind the unfilled row of everybody and counts one of the two
subscribers; the stored segment, whose first row keeps its place, resolves to both. -/
theorem unfilled_first_row_lowers_estimate :
    ∃ e a, ((Sample.session unfilledFirst).estimate unfilledFirstConditions).outcome = .ok e ∧
      ((Sample.session unfilledFirst).resolveSegment "s1").outcome = .ok a ∧
      (unfilledFirst.map (·.condition)) = unfilledFirstConditions.map .ok ∧
      e.count ≠ a.subscriberIds.length := by
  obtain ⟨a, ha, hmembers⟩ := members_perm (s := Sample.session unfilledFirst)
    (g := Sample.segment) rfl serves_unfilledFirst (by decide) (by decide)
  refine ⟨_, a, estimate_outcome rfl counts_unfilledFirst, ha, conditions_unfilledFirst, ?_⟩
  rw [SegmentAudience.subscriberIds, List.length_map, hmembers.length_eq, rowsOf_unfilledFirst]
  decide +kernel

end Session

end Targeting
