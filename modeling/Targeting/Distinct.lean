/-!
The distinct items of a list, in the order in which they first occur, and the pairs of a list by
their distinct keys.
-/

namespace Targeting

variable {α : Type} [DecidableEq α]

def distinct : List α → List α
  | [] => []
  | a :: rest => a :: (distinct rest).filter (· ≠ a)

theorem mem_distinct (a : α) (items : List α) : a ∈ distinct items ↔ a ∈ items := by
  induction items with
  | nil => simp [distinct]
  | cons b rest ih =>
      by_cases h : a = b
      · simp [distinct, h]
      · simp [distinct, h, ih]

theorem nodup_distinct (items : List α) : (distinct items).Nodup := by
  induction items with
  | nil => simp [distinct]
  | cons a rest ih =>
      refine List.nodup_cons.2 ⟨by simp, ih.filter _⟩

theorem length_distinct_le (items : List α) : (distinct items).length ≤ items.length := by
  induction items with
  | nil => exact Nat.le_refl 0
  | cons a rest ih =>
      have hfilter := List.length_filter_le (· ≠ a) (distinct rest)
      simp only [distinct, List.length_cons]
      omega

/-- Of what comes behind a list, only the items that it lacks are still to be seen. -/
theorem distinct_append (items more : List α) :
    distinct (items ++ more) = distinct items ++ (distinct more).filter (· ∉ items) := by
  induction items with
  | nil =>
      have hall : (distinct more).filter (· ∉ ([] : List α)) = distinct more :=
        List.filter_eq_self.mpr (by simp)
      rw [hall]
      rfl
  | cons a rest ih =>
      simp only [List.cons_append, distinct, ih, List.filter_append, List.filter_filter]
      congr 2
      refine List.filter_congr fun b _ => ?_
      simp only [List.mem_cons, not_or, Bool.decide_and]

/-- Items that have all been seen before change nothing. -/
theorem distinct_insert {before more : List α} (h : more ⊆ before) (after : List α) :
    distinct (before ++ more ++ after) = distinct (before ++ after) := by
  have hnone : (distinct more).filter (· ∉ before) = [] := by
    rw [List.filter_eq_nil_iff]
    intro a ha
    simpa using h ((mem_distinct a more).mp ha)
  have hseen (a : α) : a ∉ before ++ more ↔ a ∉ before := by
    rw [List.mem_append, not_or]
    exact ⟨And.left, fun ha => ⟨ha, fun hmore => ha (h hmore)⟩⟩
  rw [distinct_append, distinct_append before more, hnone, List.append_nil, distinct_append]
  simp only [hseen]

theorem distinct_flatMap_insert {β : Type} {part : β → List α} {before : List β} {b : β}
    (h : part b ⊆ before.flatMap part) (after : List β) :
    distinct ((before ++ b :: after).flatMap part) = distinct ((before ++ after).flatMap part) := by
  rw [List.flatMap_append, List.flatMap_cons, List.flatMap_append, ← List.append_assoc]
  exact distinct_insert h _

/-- A pair for each key, where the key first occurs and with the value that is given last. -/
def keyed {β : Type} : List (α × β) → List (α × β)
  | [] => []
  | (key, value) :: rest =>
      let later := keyed rest
      (key, (later.lookup key).getD value) :: later.filter (·.1 ≠ key)

/-- Where a key always has the same value, one pair remains for each key. -/
theorem keyed_map {β : Type} (value : α → β) (keys : List α) :
    keyed (keys.map fun key => (key, value key)) =
      (distinct keys).map fun key => (key, value key) := by
  have hlookup : ∀ (items : List α) (key : α),
      ((items.map fun key => (key, value key)).lookup key).getD (value key) = value key := by
    intro items key
    induction items with
    | nil => rfl
    | cons item items ih =>
        rw [List.map_cons, List.lookup_cons]
        cases hsame : key == item with
        | true => rw [eq_of_beq hsame]; rfl
        | false => exact ih
  induction keys with
  | nil => rfl
  | cons key keys ih =>
      rw [List.map_cons, keyed, ih, distinct, List.map_cons, hlookup, List.filter_map]
      rfl

/-- Items are those of a source, each once and in the order in which the source first shows them. -/
structure FirstSeen (items source : List α) : Prop where
  nodup : items.Nodup
  mem_iff : ∀ a, a ∈ items ↔ a ∈ source
  order : items.Pairwise fun a b => source.idxOf a < source.idxOf b

theorem firstSeen_distinct (items : List α) : FirstSeen (distinct items) items where
  nodup := nodup_distinct items
  mem_iff a := mem_distinct a items
  order := by
    induction items with
    | nil => exact .nil
    | cons a rest ih =>
        -- Whatever comes behind the first item has its place moved by one.
        have hplace : ∀ b ∈ (distinct rest).filter (· ≠ a),
            (a :: rest).idxOf b = rest.idxOf b + 1 := by
          intro b hb
          have hne : (a == b) = false := by
            rw [beq_eq_false_iff_ne]
            rintro rfl
            simp at hb
          rw [List.idxOf_cons, hne, cond_false]
        refine List.pairwise_cons.mpr ⟨fun b hb => ?_, ?_⟩
        · rw [hplace b hb, List.idxOf_cons_self]
          exact Nat.succ_pos _
        · refine (ih.filter _).imp_of_mem fun hb hc hbc => ?_
          rw [hplace _ hb, hplace _ hc]
          exact Nat.succ_lt_succ hbc

end Targeting
