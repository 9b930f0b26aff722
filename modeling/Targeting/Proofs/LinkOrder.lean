import Mathlib.Data.Prod.Lex
import Mathlib.Data.String.Basic
import Mathlib.Data.Sum.Order
import Targeting.Proofs.StoredTimes
import Targeting.Proofs.WholeNumbers
import Targeting.Store.Columns

/-!
The order of a campaign's links. A position has a place among all values that a column of numbers
can hold: the numbers by what they are, between the infinities, and behind them whatever text there
is. Links come by these places and, where two share one, by their age.
-/

namespace Targeting

open Number

namespace Number.Amount

/-- Where an amount stands among the numbers and the infinities. NaN has no place of its own. -/
def value : Amount → WithBot (WithTop ℚ)
  | .whole n => ((n : ℚ) : WithTop ℚ)
  | .real (.finite negative m e) =>
      (((if negative then -(m * 2 ^ e) else m * 2 ^ e : ℚ) : WithTop ℚ) : WithBot (WithTop ℚ))
  | .real (.infinite false) => (⊤ : WithTop ℚ)
  | .real (.infinite true) | .real .nan => ⊥

variable {a b : Amount}

/-- The exact ratio of an amount is its value. -/
theorem value_of_ratio? {p : Int} {q : Nat} (h : a.ratio? = some (p, q)) :
    0 < q ∧ a.value = (((p : ℚ) / q : ℚ) : WithTop ℚ) := by
  cases a with
  | whole n =>
      cases h
      exact ⟨Nat.one_pos, by simp [value]⟩
  | real x =>
      cases x with
      | finite negative m e =>
          have hvalue := Binary64.ratio_eq m e
          simp only [ratio?, Option.some.injEq, Prod.mk.injEq] at h
          obtain ⟨rfl, rfl⟩ := h
          refine ⟨Binary64.ratio_pos m e, ?_⟩
          cases negative with
          | false => simp [value, hvalue]
          | true => simp [value, neg_div, hvalue]
      | infinite negative => cases h
      | nan => cases h

theorem le_of_ratio? {p r : Int} {q t : Nat} (ha : a.ratio? = some (p, q))
    (hb : b.ratio? = some (r, t)) : a.le b = decide (p * t ≤ r * q) := by
  unfold le
  split
  · cases ha
  · cases hb
  · rw [ha, hb]

/-- What is not NaN is a ratio or infinite. -/
theorem ratio?_or_infinite (h : a ≠ .real .nan) :
    (∃ p q, a.ratio? = some (p, q)) ∨ ∃ negative, a = .real (.infinite negative) := by
  cases a with
  | whole n => exact .inl ⟨_, _, rfl⟩
  | real x =>
      cases x with
      | finite negative m e => exact .inl ⟨_, _, rfl⟩
      | infinite negative => exact .inr ⟨negative, rfl⟩
      | nan => exact absurd rfl h

/-- Amounts are ordered as their values are. -/
theorem le_iff (ha : a ≠ .real .nan) (hb : b ≠ .real .nan) :
    a.le b = true ↔ a.value ≤ b.value := by
  rcases ratio?_or_infinite ha with ⟨p, q, hp⟩ | ⟨negative, rfl⟩
  · obtain ⟨hq, hvalue⟩ := value_of_ratio? hp
    rcases ratio?_or_infinite hb with ⟨r, t, hr⟩ | ⟨negative, rfl⟩
    · obtain ⟨ht, hother⟩ := value_of_ratio? hr
      have hq' : (0 : ℚ) < q := by positivity
      have ht' : (0 : ℚ) < t := by positivity
      rw [le_of_ratio? hp hr, hvalue, hother, WithBot.coe_le_coe, WithTop.coe_le_coe,
        div_le_div_iff₀ hq' ht', decide_eq_true_iff]
      norm_cast
    · cases negative with
      | false =>
          have hle : a.le (.real (.infinite false)) = true := by
            unfold le
            split
            · rfl
            · rfl
            next hne => exact absurd rfl hne
          exact iff_of_true hle le_top
      | true =>
          have hle : a.le (.real (.infinite true)) = false := by
            unfold le
            split
            · cases hp
            · contradiction
            · rw [hp]
              rfl
          have hlow : (real (.infinite true)).value = ⊥ := rfl
          simp [hle, hvalue, hlow]
  · cases negative with
    | true => exact iff_of_true rfl bot_le
    | false =>
        have hhigh : (real (.infinite false)).value = ((⊤ : WithTop ℚ) : WithBot _) := rfl
        rcases ratio?_or_infinite hb with ⟨r, t, hr⟩ | ⟨other, rfl⟩
        · obtain ⟨-, hother⟩ := value_of_ratio? hr
          have hle : (Amount.real (.infinite false)).le b = false := by
            unfold le
            split
            · contradiction
            · cases hr
            · rfl
          rw [hhigh, hother, hle, WithBot.coe_le_coe]
          simp
        · cases other <;> simp [le, value, ratio?]

end Number.Amount

/-- The values of a column, in order: numbers, then texts. -/
abbrev LooseNumber.Place := Lex (WithBot (WithTop ℚ) ⊕ String)

namespace LooseNumber

def place : LooseNumber → Place
  | .whole n => toLex (.inl (Amount.value (.whole n)))
  | .real x => toLex (.inl (Amount.value (.real x)))
  | .text s => toLex (.inr s)

/-- The store compares two values of a column by their places. -/
theorem le_iff {a b : LooseNumber} (ha : a ≠ .real .nan) (hb : b ≠ .real .nan) :
    a.le b = true ↔ a.place ≤ b.place := by
  have hnumbers : ∀ {x y : Amount}, x ≠ .real .nan → y ≠ .real .nan →
      (x.le y = true ↔ (toLex (.inl x.value) : Place) ≤ toLex (.inl y.value)) := by
    intro x y hx hy
    rw [Amount.le_iff hx hy, Sum.Lex.inl_le_inl_iff]
  cases a with
  | whole m =>
      cases b with
      | whole n =>
          have hwhole : (LooseNumber.whole m).le (.whole n) = (Amount.whole m).le (.whole n) := by
            simp [le, Amount.le, Amount.ratio?]
          rw [hwhole]
          exact hnumbers nofun nofun
      | real y => exact hnumbers nofun (by simpa using hb)
      | text t => simp [le, place]
  | real x =>
      cases b with
      | whole n => exact hnumbers (by simpa using ha) nofun
      | real y => exact hnumbers (by simpa using ha) (by simpa using hb)
      | text t => simp [le, place]
  | text s =>
      cases b with
      | whole n => simp [le, place]
      | real y => simp [le, place]
      | text t => simp [le, place]

end LooseNumber

namespace CampaignLink

/-- Where a link stands: by its position first, by its age second. -/
def rank (l : CampaignLink) : Lex (LooseNumber.Place × WithBot Nat) :=
  toLex (l.position.place, StoredTime.agePlace l.createdAt)

end CampaignLink

namespace Store

theorem linkLe_iff {a b : CampaignLink} (ha : a.position ≠ .real .nan)
    (hb : b.position ≠ .real .nan) : linkLe a b = true ↔ a.rank ≤ b.rank := by
  rw [linkLe, Bool.and_eq_true, Bool.or_eq_true, Bool.not_eq_true', ← Bool.not_eq_true,
    LooseNumber.le_iff ha hb, LooseNumber.le_iff hb ha, ageLe_iff, CampaignLink.rank,
    CampaignLink.rank, Prod.Lex.toLex_le_toLex, not_le, le_iff_lt_or_eq]
  constructor
  · rintro ⟨hlt | heq, hgt | hage⟩
    · exact .inl hlt
    · exact .inl hlt
    · exact absurd heq hgt.ne
    · exact .inr ⟨heq, hage⟩
  · rintro (hlt | ⟨heq, hage⟩)
    · exact ⟨.inl hlt, .inl hlt⟩
    · exact ⟨.inr heq, .inr hage⟩

/-- A campaign has each of its links once, in the order of their ranks. -/
theorem perm_linksOf (store : Store) (campaignId : String) :
    (store.linksOf campaignId).Perm (store.links.filter (·.campaignId == campaignId)) :=
  List.mergeSort_perm _ _

theorem pairwise_linksOf {store : Store} (h : ∀ l ∈ store.links, l.position ≠ .real .nan)
    (campaignId : String) :
    (store.linksOf campaignId).Pairwise fun a b => a.rank ≤ b.rank := by
  have hranks : store.linksOf campaignId =
      (store.links.filter (·.campaignId == campaignId)).mergeSort
        fun a b => decide (a.rank ≤ b.rank) := by
    have hsame := List.map_mergeSort (f := id) (r := linkLe)
      (s := fun a b => decide (a.rank ≤ b.rank))
      (l := store.links.filter (·.campaignId == campaignId)) (by
        intro a ha b hb
        rw [Bool.eq_iff_iff, decide_eq_true_iff]
        exact linkLe_iff (h a (List.mem_filter.mp ha).1) (h b (List.mem_filter.mp hb).1))
    rwa [List.map_id, List.map_id] at hsame
  have hsorted : ((store.links.filter (·.campaignId == campaignId)).mergeSort
      fun a b => decide (a.rank ≤ b.rank)).Pairwise fun a b => decide (a.rank ≤ b.rank) = true := by
    apply List.pairwise_mergeSort
    · intro a b c hab hbc
      rw [decide_eq_true_iff] at *
      exact le_trans hab hbc
    · intro a b
      simpa using le_total a.rank b.rank
  rw [hranks]
  exact hsorted.imp fun hle => of_decide_eq_true hle

end Store

end Targeting
