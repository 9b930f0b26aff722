import Targeting.Proofs.Places
import Targeting.Store.Columns

/-!
Stores that agree on a merchant. They hold the same rows of this merchant, where a condition row
belongs to the merchant of its segment and a link to the merchant of its campaign, and may differ in
everything else. Whatever a query asks for a merchant, such stores answer alike.
-/

namespace Targeting

namespace Store

/-- Two stores have the same rows of a merchant, in the same order. -/
structure AgreeOn (merchantId : String) (a b : Store) : Prop where
  merchants : a.merchants.filter (·.id == merchantId) = b.merchants.filter (·.id == merchantId)
  subscribers : a.subscribers.filter (·.merchantId == merchantId) =
    b.subscribers.filter (·.merchantId == merchantId)
  segments : a.segments.filter (·.merchantId == merchantId) =
    b.segments.filter (·.merchantId == merchantId)
  rows : ∀ g ∈ a.segments, g.merchantId = merchantId →
    a.conditionRows.filter (·.isOf g.id) = b.conditionRows.filter (·.isOf g.id)
  campaigns : a.campaigns.filter (·.merchantId == merchantId) =
    b.campaigns.filter (·.merchantId == merchantId)
  links : ∀ c ∈ a.campaigns, c.merchantId = merchantId →
    a.links.filter (·.campaignId == c.id) = b.links.filter (·.campaignId == c.id)

theorem segment?_eq_some {store : Store} {merchantId id : String} {g : Segment}
    (h : store.segment? merchantId id = some g) :
    g ∈ store.segments ∧ g.id = id ∧ g.merchantId = merchantId := by
  have hmatch := List.find?_some h
  simp only [Bool.and_eq_true, beq_iff_eq] at hmatch
  exact ⟨List.mem_of_find?_eq_some h, hmatch.1.1, hmatch.1.2⟩

theorem campaign?_eq_some {store : Store} {merchantId id : String} {c : Campaign}
    (h : store.campaign? merchantId id = some c) :
    c ∈ store.campaigns ∧ c.id = id ∧ c.merchantId = merchantId := by
  have hmatch := List.find?_some h
  simp only [Bool.and_eq_true, beq_iff_eq] at hmatch
  exact ⟨List.mem_of_find?_eq_some h, hmatch.1.1, hmatch.1.2⟩

theorem mem_liveSegments {store : Store} {merchantId : String} {g : Segment}
    (h : g ∈ store.liveSegments merchantId) :
    g ∈ store.segments ∧ g.merchantId = merchantId := by
  rw [liveSegments, List.mem_mergeSort, List.mem_filter, segmentsOf, List.mem_filter] at h
  simp only [Bool.and_eq_true, beq_iff_eq] at h
  exact ⟨h.1.1, h.1.2.1⟩

/-- A predicate selects among the active subscribers of its merchant. -/
theorem mem_selected {store : Store} {p : Predicate} {u : Subscriber}
    (h : u ∈ store.selected p.formula) : u ∈ store.activeSubscribers p.merchantId := by
  rw [selected, List.mem_mergeSort, List.mem_filter, Formula.selects_iff,
    Predicate.eval_formula_eq_yes] at h
  obtain ⟨hmem, ⟨hmerchant, hactive⟩, _⟩ := h
  simp [activeSubscribers, hmem, hmerchant, hactive]

namespace AgreeOn

variable {merchantId : String} {a b : Store}

/-- A filter that lets only rows of the merchant through sees nothing of the others. -/
theorem filter_eq {α : Type} {own p : α → Bool} {xs ys : List α}
    (h : xs.filter own = ys.filter own) (hp : ∀ x, p x = true → own x = true) :
    xs.filter p = ys.filter p := by
  have hboth (zs : List α) : zs.filter p = (zs.filter own).filter p := by
    rw [List.filter_filter]
    refine List.filter_congr fun x _ => ?_
    cases hx : p x with
    | false => rfl
    | true => simp [hp x hx]
  rw [hboth xs, hboth ys, h]

theorem find?_eq {α : Type} {own p : α → Bool} {xs ys : List α}
    (h : xs.filter own = ys.filter own) (hp : ∀ x, p x = true → own x = true) :
    xs.find? p = ys.find? p := by
  rw [← List.head?_filter, ← List.head?_filter, filter_eq h hp]

theorem segment?_eq (h : AgreeOn merchantId a b) (id : String) :
    a.segment? merchantId id = b.segment? merchantId id := by
  refine find?_eq h.segments fun g hg => ?_
  simp only [Bool.and_eq_true] at hg
  exact hg.1.2

theorem campaign?_eq (h : AgreeOn merchantId a b) (id : String) :
    a.campaign? merchantId id = b.campaign? merchantId id := by
  refine find?_eq h.campaigns fun c hc => ?_
  simp only [Bool.and_eq_true] at hc
  exact hc.1.2

theorem segmentsOf_eq (h : AgreeOn merchantId a b) :
    a.segmentsOf merchantId = b.segmentsOf merchantId := by
  refine filter_eq h.segments fun g hg => ?_
  simp only [Bool.and_eq_true] at hg
  exact hg.1

theorem liveSegments_eq (h : AgreeOn merchantId a b) :
    a.liveSegments merchantId = b.liveSegments merchantId := by
  rw [liveSegments, liveSegments, h.segmentsOf_eq]

theorem activeSubscribers_eq (h : AgreeOn merchantId a b) :
    a.activeSubscribers merchantId = b.activeSubscribers merchantId := by
  refine filter_eq h.subscribers fun u hu => ?_
  simp only [Bool.and_eq_true] at hu
  exact hu.1

theorem rowsOf_eq (h : AgreeOn merchantId a b) {g : Segment} (hg : g ∈ a.segments)
    (hmerchant : g.merchantId = merchantId) : a.rowsOf g.id = b.rowsOf g.id := by
  rw [rowsOf, rowsOf, h.rows g hg hmerchant]

theorem linksOf_eq (h : AgreeOn merchantId a b) {c : Campaign} (hc : c ∈ a.campaigns)
    (hmerchant : c.merchantId = merchantId) : a.linksOf c.id = b.linksOf c.id := by
  rw [linksOf, linksOf, h.links c hc hmerchant]

/-- The scope of a predicate is its merchant, so that no other subscriber is ever selected. -/
theorem filter_selects_eq {p : Predicate} (h : AgreeOn p.merchantId a b) :
    a.subscribers.filter p.formula.selects = b.subscribers.filter p.formula.selects := by
  refine filter_eq h.subscribers fun u hu => ?_
  rw [Formula.selects_iff, Predicate.eval_formula_eq_yes] at hu
  simp [hu.1.1]

theorem selected_eq {p : Predicate} (h : AgreeOn p.merchantId a b) :
    a.selected p.formula = b.selected p.formula := by
  rw [selected, selected, h.filter_selects_eq]

theorem countOf_eq {p : Predicate} (h : AgreeOn p.merchantId a b) :
    a.countOf p.formula = b.countOf p.formula := by
  rw [countOf, countOf, h.filter_selects_eq]

end AgreeOn

end Store

end Targeting
