import Targeting.Predicate

/-!
The places of conditions. A condition is required or one of the alternatives by its place in the
list and by its join alone, so that a place that nothing stands in, or whose condition is rejected,
counts like any other. What the places ask of a subscriber is stated here without the predicate;
the main result is that the predicate of a list of conditions asks exactly this.
-/

namespace Targeting

-- What a condition comes to is never looked into here, and unfolding it would read its texts.
attribute [local irreducible] Condition.formula

/-- What a condition is to the others: all required ones have to hold, and one alternative. -/
inductive Part where
  | required
  | alternative
  deriving DecidableEq, Repr

namespace Condition

/-- The first condition is required whatever its join says. -/
def partAt (c : Condition) (place : Nat) : Part :=
  if place == 0 || c.join = some .all then .required else .alternative

/-- The formula of a condition, unless it is rejected. -/
def formula? (c : Condition) (now : Moment) : Option Formula := (c.formula now).toOption

/-- The rejection of a condition, if it is rejected. -/
def rejection? (c : Condition) (now : Moment) : Option Rejection :=
  match c.formula now with
  | .ok _ => none
  | .error rejection => some rejection

theorem formula?_of_ok {c : Condition} {now : Moment} {f : Formula} (h : c.formula now = .ok f) :
    c.formula? now = some f := by
  rw [formula?, h, Except.toOption]

theorem formula?_of_error {c : Condition} {now : Moment} {rejection : Rejection}
    (h : c.formula now = .error rejection) : c.formula? now = none := by
  rw [formula?, h, Except.toOption]

theorem rejection?_of_ok {c : Condition} {now : Moment} {f : Formula}
    (h : c.formula now = .ok f) : c.rejection? now = none := by
  rw [rejection?, h]

theorem rejection?_of_error {c : Condition} {now : Moment} {rejection : Rejection}
    (h : c.formula now = .error rejection) : c.rejection? now = some rejection := by
  rw [rejection?, h]

end Condition

/-- Conditions in their places. A place may be empty. -/
abbrev Layout := List (Option Condition)

namespace Layout

/-- The layout of conditions that follow one another without a gap. -/
def ofConditions (conditions : List Condition) : Layout := conditions.map some

/-- The formula at a place. An empty place has none, and neither has a rejected condition. -/
def formulaAt (l : Layout) (now : Moment) (place : Nat) : Option Formula :=
  l[place]?.join.bind (·.formula? now)

/-- The part that is played at a place, where there is a formula to play it. -/
def partAt (l : Layout) (now : Moment) (place : Nat) : Option Part :=
  l[place]?.join.bind fun c => (c.formula? now).map fun _ => c.partAt place

/-- How many places play a part. -/
def count (l : Layout) (now : Moment) (part : Part) : Nat :=
  (List.range l.length).countP fun place => l.partAt now place = some part

/-- The formula at a place is true of a subscriber, neither false nor unknown. -/
def HoldsAt (l : Layout) (now : Moment) (u : Subscriber) (place : Nat) : Prop :=
  ∃ f, l.formulaAt now place = some f ∧ f.eval u = .yes

/-- What conditions in their places ask of a subscriber. -/
structure Admits (l : Layout) (merchantId : String) (now : Moment) (u : Subscriber) : Prop where
  belongs : u.merchantId = merchantId
  active : u.isActive = true
  required : ∀ place, l.partAt now place = some .required → l.HoldsAt now u place
  alternative : (∃ place, l.partAt now place = some .alternative) →
    ∃ place, l.partAt now place = some .alternative ∧ l.HoldsAt now u place

/-- The formula that one place contributes to a part. -/
def contribution (now : Moment) (part : Part) (slot : Option Condition) (place : Nat) :
    Option Formula :=
  slot.bind fun c => if c.partAt place = part then c.formula? now else none

/-- The formulas of a part in a layout that starts at a place. -/
def formulasFrom (now : Moment) (part : Part) : Nat → Layout → List Formula
  | _, [] => []
  | place, slot :: rest =>
      (contribution now part slot place).toList ++ formulasFrom now part (place + 1) rest

/-- The formulas of a part in the order of their places. -/
def formulas (l : Layout) (now : Moment) (part : Part) : List Formula :=
  formulasFrom now part 0 l

/-- The predicate that asks what the places ask. -/
def predicate (l : Layout) (merchantId : String) (now : Moment) : Predicate :=
  ⟨merchantId, l.formulas now .required, l.formulas now .alternative, []⟩

theorem mem_formulasFrom (now : Moment) (part : Part) (f : Formula) (l : Layout) (start : Nat) :
    f ∈ formulasFrom now part start l ↔
      ∃ (place : Nat) (c : Condition), l[place]? = some (some c) ∧ c.partAt (start + place) = part ∧
        c.formula? now = some f := by
  induction l generalizing start with
  | nil => simp [formulasFrom]
  | cons slot rest ih =>
      simp only [formulasFrom, List.mem_append, Option.mem_toList, ih]
      constructor
      · rintro (h | ⟨place, c, hc, hpart, hf⟩)
        · obtain ⟨c, hslot, hc⟩ := Option.bind_eq_some_iff.mp h
          by_cases hpart : c.partAt start = part
          · rw [if_pos hpart] at hc
            exact ⟨0, c, by simpa using hslot, by simpa using hpart, hc⟩
          · simp [hpart] at hc
        · have hplace : start + (place + 1) = start + 1 + place := by omega
          exact ⟨place + 1, c, by simpa using hc, by rw [hplace, hpart], hf⟩
      · rintro ⟨place, c, hc, hpart, hf⟩
        cases place with
        | zero =>
            have hslot : slot = some c := by simpa using hc
            subst hslot
            exact Or.inl (by simpa [contribution, hf] using hpart)
        | succ place =>
            have hplace : start + 1 + place = start + (place + 1) := by omega
            exact Or.inr ⟨place, c, by simpa using hc, by rw [hplace, hpart], hf⟩

theorem mem_formulas (l : Layout) (now : Moment) (part : Part) (f : Formula) :
    f ∈ l.formulas now part ↔
      ∃ place, l.partAt now place = some part ∧ l.formulaAt now place = some f := by
  rw [formulas, mem_formulasFrom]
  constructor
  · rintro ⟨place, c, hc, hpart, hf⟩
    rw [Nat.zero_add] at hpart
    exact ⟨place, by simp [partAt, hc, hf, hpart], by simp [formulaAt, hc, hf]⟩
  · rintro ⟨place, hpart, hf⟩
    obtain ⟨c, hc, hcf⟩ := Option.bind_eq_some_iff.mp hf
    have hslot := Option.join_eq_some_iff.mp hc
    refine ⟨place, c, hslot, ?_, hcf⟩
    simpa [partAt, hslot, hcf] using hpart

/-- A part is played somewhere exactly when it has a formula. -/
theorem exists_partAt_iff (l : Layout) (now : Moment) (part : Part) :
    (∃ place, l.partAt now place = some part) ↔ l.formulas now part ≠ [] := by
  constructor
  · rintro ⟨place, hpart⟩
    obtain ⟨c, hc, hcp⟩ := Option.bind_eq_some_iff.mp hpart
    obtain ⟨f, hf, _⟩ := Option.map_eq_some_iff.mp hcp
    have hmem : f ∈ l.formulas now part :=
      (mem_formulas l now part f).mpr ⟨place, hpart, by simp [formulaAt, hc, hf]⟩
    exact List.ne_nil_of_mem hmem
  · intro hne
    obtain ⟨f, hf⟩ := List.exists_mem_of_ne_nil _ hne
    obtain ⟨place, hpart, _⟩ := (mem_formulas l now part f).mp hf
    exact ⟨place, hpart⟩

/-- In a layout that starts at a place, a part has one formula for each place that plays it. -/
theorem length_formulasFrom (now : Moment) (part : Part) (l : Layout) (start : Nat) :
    (formulasFrom now part start l).length =
      (List.range l.length).countP fun place =>
        (contribution now part l[place]?.join (start + place)).isSome := by
  induction l generalizing start with
  | nil => rfl
  | cons slot rest ih =>
      have hshift (place : Nat) : start + 1 + place = start + (place + 1) := by omega
      rw [formulasFrom, List.length_append, ih, List.length_cons, List.range_succ_eq_map,
        List.countP_cons, List.countP_map]
      simp only [Function.comp_def, List.getElem?_cons_succ, List.getElem?_cons_zero,
        Option.join_some, Nat.add_zero, hshift]
      rw [Nat.add_comm, Option.length_toList]

theorem isSome_contribution_iff (l : Layout) (now : Moment) (part : Part) (place : Nat) :
    (contribution now part l[place]?.join place).isSome ↔ l.partAt now place = some part := by
  unfold contribution partAt
  cases l[place]?.join with
  | none => simp
  | some c =>
      by_cases hpart : c.partAt place = part
      · simp [hpart, Option.isSome_iff_exists]
      · simp [hpart]

theorem length_formulas (l : Layout) (now : Moment) (part : Part) :
    (l.formulas now part).length = l.count now part := by
  rw [formulas, length_formulasFrom, count]
  refine List.countP_congr fun place _ => ?_
  rw [Nat.zero_add, isSome_contribution_iff, decide_eq_true_iff]

end Layout

namespace Predicate

/-- A predicate selects an active subscriber of its merchant of whom every required formula is
true, and one of the alternatives if there are any. -/
theorem eval_formula_eq_yes (p : Predicate) (u : Subscriber) :
    p.formula.eval u = .yes ↔
      (u.merchantId = p.merchantId ∧ u.isActive = true) ∧
        (∀ f ∈ p.required, f.eval u = .yes) ∧
        (p.alternatives ≠ [] → ∃ f ∈ p.alternatives, f.eval u = .yes) := by
  have hscope : (tenantScope p.merchantId).eval u = .yes ↔
      u.merchantId = p.merchantId ∧ u.isActive = true := by
    simp [tenantScope, Formula.eval, Test.eval, Truth.and_eq_yes, Truth.ofBool_eq_yes]
  have hone : (∀ f ∈ oneOf p.alternatives, f.eval u = .yes) ↔
      (p.alternatives ≠ [] → ∃ f ∈ p.alternatives, f.eval u = .yes) := by
    cases p.alternatives with
    | nil => simp [oneOf]
    | cons first rest => simp [oneOf, Formula.eval_any_eq_yes]
  rw [formula, Formula.eval_all_eq_yes, hscope, ← hone]
  simp only [List.mem_append, or_imp, forall_and]

/-- A condition at a place is noted in its part, or as a rejection. -/
theorem note_eq (p : Predicate) (now : Moment) (c : Condition) (place : Nat) :
    p.note (place == 0) c (c.formula now) =
      ⟨p.merchantId,
        p.required ++ (Layout.contribution now .required (some c) place).toList,
        p.alternatives ++ (Layout.contribution now .alternative (some c) place).toList,
        p.skipped ++ (c.rejection? now).toList⟩ := by
  cases hc : c.formula now with
  | error rejection =>
      simp [note, Layout.contribution, Condition.formula?_of_error hc,
        Condition.rejection?_of_error hc]
  | ok f =>
      by_cases hfirst : (place == 0 || c.join = some .all) = true
      · have hpart : c.partAt place = .required := if_pos hfirst
        simp [note, Layout.contribution, Condition.formula?_of_ok hc,
          Condition.rejection?_of_ok hc, hpart, hfirst]
      · have hpart : c.partAt place = .alternative := if_neg hfirst
        simp [note, Layout.contribution, Condition.formula?_of_ok hc,
          Condition.rejection?_of_ok hc, hpart, hfirst]

/-- Adding the conditions that stand from a place on extends both parts by the formulas of those
places, and notes the rejections. -/
theorem add_eq (now : Moment) (conditions : List Condition) (p : Predicate) (start : Nat) :
    add (·.formula now) p (start == 0) conditions =
      ⟨p.merchantId,
        p.required ++ Layout.formulasFrom now .required start (.ofConditions conditions),
        p.alternatives ++ Layout.formulasFrom now .alternative start (.ofConditions conditions),
        p.skipped ++ conditions.filterMap (·.rejection? now)⟩ := by
  induction conditions generalizing p start with
  | nil => simp [add, Layout.ofConditions, Layout.formulasFrom]
  | cons c rest ih =>
      have hrest := ih (p.note (start == 0) c (c.formula now)) (start + 1)
      rw [show (start + 1 == 0) = false from rfl] at hrest
      rw [add, hrest, note_eq]
      simp only [Layout.ofConditions, List.map_cons, Layout.formulasFrom, List.append_assoc]
      cases hr : c.rejection? now <;> simp [hr]

/-- The predicate of conditions has for its parts the formulas of their places. -/
theorem ofConditions_eq (conditions : List Condition) (merchantId : String) (now : Moment) :
    ofConditions conditions merchantId now =
      ⟨merchantId, Layout.formulas (.ofConditions conditions) now .required,
        Layout.formulas (.ofConditions conditions) now .alternative,
        conditions.filterMap (·.rejection? now)⟩ := by
  have h := add_eq now conditions ⟨merchantId, [], [], []⟩ 0
  simpa [ofConditions, Layout.formulas] using h

end Predicate

namespace Layout

/-- The predicate of a layout selects exactly the subscribers that its places admit. -/
theorem eval_predicate_eq_yes (l : Layout) (merchantId : String) (now : Moment) (u : Subscriber) :
    (l.predicate merchantId now).formula.eval u = .yes ↔ l.Admits merchantId now u := by
  rw [Predicate.eval_formula_eq_yes]
  constructor
  · rintro ⟨⟨hmerchant, hactive⟩, hrequired, halternative⟩
    refine ⟨hmerchant, hactive, ?_, ?_⟩
    · intro place hpart
      obtain ⟨c, hc, hcp⟩ := Option.bind_eq_some_iff.mp hpart
      obtain ⟨f, hf, _⟩ := Option.map_eq_some_iff.mp hcp
      have hat : l.formulaAt now place = some f := by simp [formulaAt, hc, hf]
      exact ⟨f, hat, hrequired f ((mem_formulas l now _ f).mpr ⟨place, hpart, hat⟩)⟩
    · intro hexists
      obtain ⟨f, hf, hyes⟩ := halternative ((exists_partAt_iff l now _).mp hexists)
      obtain ⟨place, hpart, hat⟩ := (mem_formulas l now _ f).mp hf
      exact ⟨place, hpart, f, hat, hyes⟩
  · rintro ⟨hmerchant, hactive, hrequired, halternative⟩
    refine ⟨⟨hmerchant, hactive⟩, ?_, ?_⟩
    · intro f hf
      obtain ⟨place, hpart, hat⟩ := (mem_formulas l now _ f).mp hf
      obtain ⟨g, hg, hyes⟩ := hrequired place hpart
      rw [hat, Option.some.injEq] at hg
      rwa [hg]
    · intro hne
      obtain ⟨place, hpart, f, hat, hyes⟩ :=
        halternative ((exists_partAt_iff l now _).mpr hne)
      exact ⟨f, (mem_formulas l now _ f).mpr ⟨place, hpart, hat⟩, hyes⟩

instance (l : Layout) (merchantId : String) (now : Moment) (u : Subscriber) :
    Decidable (l.Admits merchantId now u) :=
  decidable_of_iff _ (l.eval_predicate_eq_yes merchantId now u)

theorem formulas_eq_nil (l : Layout) (now : Moment) (part : Part)
    (h : ∀ c, some c ∈ l → c.formula? now = none) : l.formulas now part = [] := by
  refine List.eq_nil_iff_forall_not_mem.mpr fun f hf => ?_
  obtain ⟨place, c, hc, _, hcf⟩ := (mem_formulasFrom now part f l 0).mp hf
  rw [h c (List.mem_of_getElem? hc)] at hcf
  cases hcf

/-- The predicate of conditions selects exactly the subscribers that their places admit. -/
theorem eval_ofConditions_eq_yes (conditions : List Condition) (merchantId : String)
    (now : Moment) (u : Subscriber) :
    (Predicate.ofConditions conditions merchantId now).formula.eval u = .yes ↔
      (ofConditions conditions).Admits merchantId now u := by
  rw [← eval_predicate_eq_yes, Predicate.ofConditions_eq]
  rfl

end Layout

/-- The predicate of a list of conditions is true of exactly the subscribers that the conditions
admit by their places, its parts have as many formulas as there are places that play them, and
where every condition is rejected all active subscribers of the merchant are left. -/
theorem Predicate.selects_by_place (conditions : List Condition) (merchantId : String)
    (now : Moment) (u : Subscriber) :
    ((ofConditions conditions merchantId now).formula.eval u = .yes ↔
      (Layout.ofConditions conditions).Admits merchantId now u) ∧
    (ofConditions conditions merchantId now).required.length =
      (Layout.ofConditions conditions).count now .required ∧
    (ofConditions conditions merchantId now).alternatives.length =
      (Layout.ofConditions conditions).count now .alternative ∧
    ((∀ c ∈ conditions, c.formula? now = none) →
      ((ofConditions conditions merchantId now).formula.eval u = .yes ↔
        u.merchantId = merchantId ∧ u.isActive = true)) := by
  refine ⟨Layout.eval_ofConditions_eq_yes conditions merchantId now u, ?_, ?_, ?_⟩
  · rw [ofConditions_eq, Layout.length_formulas]
  · rw [ofConditions_eq, Layout.length_formulas]
  · intro hrejected
    have hslots : ∀ c, some c ∈ Layout.ofConditions conditions → c.formula? now = none := by
      intro c hc
      exact hrejected c (by simpa [Layout.ofConditions] using hc)
    rw [eval_formula_eq_yes, ofConditions_eq]
    simp [Layout.formulas_eq_nil _ now _ hslots]

end Targeting
