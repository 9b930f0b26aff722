import Mathlib.Algebra.Order.Field.Power
import Mathlib.Data.Rat.Cast.Order
import Mathlib.Tactic.FieldSimp
import Mathlib.Tactic.Linarith
import Mathlib.Tactic.Positivity
import Mathlib.Tactic.Ring
import Targeting.Number.Binary64

/-!
Whole numbers in binary arithmetic. A number is rounded to a multiple of a power of two, and this
power is a fraction or one as long as the number is below `2 ^ 53`. So a whole number below this
bound is kept as it is, and nothing that reaches the bound is rounded to anything below it.
-/

namespace Targeting.Number

theorem twoPow_pos (k : Nat) : 0 < twoPow k := Nat.two_pow_pos k

theorem cast_twoPow (k : Nat) : (twoPow k : ℚ) = 2 ^ k := by
  simp [twoPow]

/-- Quotients that come out even are not rounded. -/
theorem roundDiv_mul (k : Nat) {den : Nat} (h : 0 < den) : roundDiv (k * den) den = k := by
  simp [roundDiv, Nat.mul_div_cancel k h, h]

theorem div_le_roundDiv (num den : Nat) : num / den ≤ roundDiv num den := by
  unfold roundDiv
  dsimp only
  split_ifs <;> omega

/-- Scaling divides by a power of two, before or behind the point. -/
theorem exists_scaled_eq (num : Nat) {den : Nat} (h : 0 < den) (e : Int) :
    ∃ a b : Nat, 0 < b ∧ scaled num den e = roundDiv a b ∧ (a : ℚ) = num / den / 2 ^ e * b := by
  have hden : (den : ℚ) ≠ 0 := by positivity
  unfold scaled
  by_cases he : 0 ≤ e
  · obtain ⟨k, rfl⟩ := Int.eq_ofNat_of_zero_le he
    refine ⟨num, den * twoPow k, Nat.mul_pos h (twoPow_pos k), by simp, ?_⟩
    rw [Nat.cast_mul, cast_twoPow, zpow_natCast]
    field_simp
  · obtain ⟨k, rfl⟩ := Int.exists_eq_neg_ofNat (Int.le_of_not_le he)
    refine ⟨num * twoPow k, den, h, by simp only [he, if_false, neg_neg, Int.toNat_natCast], ?_⟩
    rw [Nat.cast_mul, cast_twoPow, zpow_neg, zpow_natCast]
    field_simp

theorem scaled_eq_of_eq {num den k : Nat} (hden : 0 < den) {e : Int}
    (h : (num : ℚ) / den = k * 2 ^ e) : scaled num den e = k := by
  obtain ⟨a, b, hb, hscaled, ha⟩ := exists_scaled_eq num hden e
  have heven : a = k * b := by
    rw [h, mul_div_cancel_right₀ _ (by positivity)] at ha
    exact_mod_cast ha
  rw [hscaled, heven, roundDiv_mul k hb]

theorem le_scaled {num den k : Nat} (hden : 0 < den) {e : Int}
    (h : k * 2 ^ e ≤ (num : ℚ) / den) : k ≤ scaled num den e := by
  obtain ⟨a, b, hb, hscaled, ha⟩ := exists_scaled_eq num hden e
  have hpow : (0 : ℚ) < 2 ^ e := by positivity
  have hle : k * b ≤ a := by
    have hquotient : (k : ℚ) ≤ num / den / 2 ^ e := (le_div_iff₀ hpow).mpr h
    have hprod : (k : ℚ) * b ≤ a := ha ▸ mul_le_mul_of_nonneg_right hquotient (by positivity)
    exact_mod_cast hprod
  calc k ≤ a / b := (Nat.le_div_iff_mul_le hb).mpr hle
    _ ≤ roundDiv a b := div_le_roundDiv a b
    _ = scaled num den e := hscaled.symm

/-- Multiplied out, a comparison with a power of two is one of natural numbers. -/
theorem below_iff (num : Nat) {den : Nat} (hden : 0 < den) (places : Nat) (e : Int) :
    ((if 0 ≤ e then decide (num < den * twoPow e.toNat * twoPow places)
      else decide (num * twoPow (-e).toNat < den * twoPow places)) = true) ↔
      (num : ℚ) / den < 2 ^ (e + places) := by
  have hpos : (0 : ℚ) < den := by positivity
  rw [div_lt_iff₀ hpos, zpow_add₀ two_ne_zero, zpow_natCast]
  by_cases he : 0 ≤ e
  · obtain ⟨k, rfl⟩ := Int.eq_ofNat_of_zero_le he
    rw [if_pos he, decide_eq_true_iff, ← Nat.cast_lt (α := ℚ)]
    simp only [Nat.cast_mul, cast_twoPow, Int.toNat_natCast, zpow_natCast]
    rw [mul_assoc, mul_comm]
  · obtain ⟨k, rfl⟩ := Int.exists_eq_neg_ofNat (Int.le_of_not_le he)
    rw [if_neg he, decide_eq_true_iff, ← Nat.cast_lt (α := ℚ)]
    simp only [Nat.cast_mul, cast_twoPow, neg_neg, Int.toNat_natCast, zpow_neg, zpow_natCast]
    rw [← div_eq_inv_mul, div_mul_eq_mul_div, lt_div_iff₀ (by positivity), mul_comm (den : ℚ)]

/-- A number fills the places that its spacing leaves in front of the point. -/
theorem pow_spacingOf_le (places : Nat) {num den : Nat} (hnum : 0 < num) (hden : 0 < den) :
    (2 : ℚ) ^ (spacingOf places num den + places) ≤ num / den := by
  have hpos : (0 : ℚ) < den := by positivity
  have hbelow := below_iff num hden places ((num.log2 : Int) - den.log2 - places)
  unfold spacingOf
  dsimp only
  by_cases hreached : (num : ℚ) / den < 2 ^ ((num.log2 : Int) - den.log2 - places + places)
  · have hlow : (2 : ℚ) ^ num.log2 ≤ num := by exact_mod_cast Nat.log2_self_le hnum.ne'
    have hhigh : (den : ℚ) ≤ 2 ^ (den.log2 + 1) := by exact_mod_cast Nat.lt_log2_self.le
    rw [if_pos (hbelow.mpr hreached), le_div_iff₀ hpos]
    calc (2 : ℚ) ^ ((num.log2 : Int) - den.log2 - places - 1 + places) * den
        ≤ 2 ^ ((num.log2 : Int) - den.log2 - places - 1 + places) * 2 ^ (den.log2 + 1) := by
          gcongr
      _ = 2 ^ num.log2 := by
          rw [← zpow_natCast, ← zpow_natCast, ← zpow_add₀ two_ne_zero]
          congr 1
          push_cast
          ring
      _ ≤ num := hlow
  · rw [if_neg (mt hbelow.mp hreached)]
    exact not_lt.mp hreached

namespace Binary64

theorem ratio_pos (m : Nat) (e : Int) : 0 < (ratio m e).2 := by
  unfold ratio
  split
  · exact Nat.one_pos
  · exact twoPow_pos _

theorem ratio_eq (m : Nat) (e : Int) : ((ratio m e).1 : ℚ) / (ratio m e).2 = m * 2 ^ e := by
  unfold ratio
  by_cases he : 0 ≤ e
  · obtain ⟨k, rfl⟩ := Int.eq_ofNat_of_zero_le he
    simp [cast_twoPow]
  · obtain ⟨k, rfl⟩ := Int.exists_eq_neg_ofNat (Int.le_of_not_le he)
    rw [if_neg he]
    simp [cast_twoPow, div_eq_mul_inv]

/-- The spacing around a number from one on is at most one, or the number is large enough to fill
fifty-two places above it. -/
theorem spacing_le (num : Nat) {den : Nat} (hden : 0 < den) (hnum : den ≤ num) :
    spacing num den ≤ 0 ∨ (2 : ℚ) ^ (spacing num den + 52) ≤ num / den := by
  unfold spacing
  rcases max_choice leastExponent (spacingOf 52 num den) with hmax | hmax
  · rw [hmax]
    exact .inl (by decide)
  · rw [hmax]
    exact .inr (pow_spacingOf_le 52 (Nat.lt_of_lt_of_le hden hnum) hden)

/-- What a ratio is rounded to, unless it is too large for the format. -/
theorem ofRatio_cases (negative : Bool) {num : Nat} (den : Nat) (h : num ≠ 0) :
    (ofRatio negative num den = .infinite negative ∧ greatestExponent ≤ spacing num den) ∨
      ∃ m e, ofRatio negative num den = .finite negative m e ∧
        (m : ℚ) * 2 ^ e = scaled num den (spacing num den) * 2 ^ spacing num den := by
  rw [ofRatio, if_neg h]
  dsimp only
  by_cases hfull : scaled num den (spacing num den) = significandBound
  · rw [if_pos hfull]
    dsimp only
    split_ifs with hlarge
    · exact .inl ⟨rfl, by omega⟩
    · refine .inr ⟨_, _, rfl, ?_⟩
      have hhalf : ((significandBound / 2 : Nat) : ℚ) * 2 = significandBound := by
        norm_num [significandBound, twoPow]
      rw [hfull, ← hhalf, zpow_add₀ two_ne_zero]
      ring
  · rw [if_neg hfull]
    dsimp only
    split_ifs with hlarge
    · exact .inl ⟨rfl, by omega⟩
    · exact .inr ⟨_, _, rfl, rfl⟩

/-- The magnitude of a finite number is a natural number. -/
def IsWhole (x : Binary64) (n : Nat) : Prop :=
  ∃ negative m e, x = .finite negative m e ∧ (m : ℚ) * 2 ^ e = n

/-- A whole number below the bound of the significands is a number of the format. -/
theorem isWhole_ofRatio (negative : Bool) {num den n : Nat} (hden : 0 < den) (h : num = n * den)
    (hn : n < significandBound) : (ofRatio negative num den).IsWhole n := by
  rcases Nat.eq_zero_or_pos n with rfl | hpos
  · rw [h, Nat.zero_mul, ofRatio, if_pos rfl]
    exact ⟨_, _, _, rfl, by simp⟩
  have hvalue : (num : ℚ) / den = n := by
    rw [h, Nat.cast_mul, mul_div_cancel_right₀ _ (by positivity)]
  have hle : den ≤ num := h ▸ Nat.le_mul_of_pos_left den hpos
  have hspacing : spacing num den ≤ 0 := by
    rcases spacing_le num hden hle with hsmall | hlarge
    · exact hsmall
    · have hbelow : (n : ℚ) < 2 ^ (53 : Int) := by exact_mod_cast hn
      rw [hvalue] at hlarge
      have hexponent := (zpow_lt_zpow_iff_right₀ one_lt_two).mp (hlarge.trans_lt hbelow)
      omega
  obtain ⟨k, hk⟩ := Int.exists_eq_neg_ofNat hspacing
  -- On a grid this fine the number itself is a grid point.
  have hgrid : (num : ℚ) / den = (n * 2 ^ k : Nat) * 2 ^ spacing num den := by
    rw [hvalue, hk, zpow_neg, zpow_natCast]
    push_cast
    field_simp
  rcases ofRatio_cases negative den (hden.trans_le hle).ne' with ⟨-, hlarge⟩ | ⟨m, e, hout, heq⟩
  · exact absurd (hlarge.trans hspacing) (by decide)
  · refine ⟨_, m, e, hout, ?_⟩
    rw [heq, scaled_eq_of_eq hden hgrid, ← hgrid, hvalue]

/-- What reaches the bound of the significands is not rounded to less. -/
theorem ofRatio_of_large (negative : Bool) {num den : Nat} (hden : 0 < den)
    (h : significandBound * den ≤ num) :
    ofRatio negative num den = .infinite negative ∨
      ∃ m e, ofRatio negative num den = .finite negative m e ∧
        (significandBound : ℚ) ≤ m * 2 ^ e := by
  have hle : den ≤ num := (Nat.le_mul_of_pos_left den (by decide)).trans h
  have hvalue : (significandBound : ℚ) ≤ num / den := by
    rw [le_div_iff₀ (by positivity)]
    exact_mod_cast h
  rcases ofRatio_cases negative den (hden.trans_le hle).ne' with ⟨hout, -⟩ | ⟨m, e, hout, heq⟩
  · exact .inl hout
  refine .inr ⟨m, e, hout, ?_⟩
  rw [heq]
  -- The bound is a grid point as long as the grid is fine; on a coarse grid, every number that
  -- fills its places is beyond it.
  have hpoint : ∃ k : Nat, (significandBound : ℚ) ≤ k * 2 ^ spacing num den ∧
      k * 2 ^ spacing num den ≤ (num : ℚ) / den := by
    by_cases hsmall : spacing num den ≤ 0
    · obtain ⟨k, hk⟩ := Int.exists_eq_neg_ofNat hsmall
      have hexact : ((significandBound * 2 ^ k : Nat) : ℚ) * 2 ^ spacing num den =
          significandBound := by
        rw [hk, zpow_neg, zpow_natCast]
        push_cast
        field_simp
      exact ⟨_, hexact.ge, hexact.trans_le hvalue⟩
    · have hlarge := (spacing_le num hden hle).resolve_left hsmall
      refine ⟨2 ^ 52, ?_, ?_⟩
      · have hone : (2 : ℚ) ^ (1 : Int) ≤ 2 ^ spacing num den :=
          zpow_le_zpow_right₀ one_le_two (by omega)
        have hbound : (significandBound : ℚ) = 2 ^ 52 * 2 := by norm_num [significandBound, twoPow]
        rw [zpow_one] at hone
        rw [hbound, Nat.cast_pow, Nat.cast_ofNat]
        gcongr
      · rw [zpow_add₀ two_ne_zero, mul_comm] at hlarge
        exact_mod_cast hlarge
  obtain ⟨k, hreached, hbelow⟩ := hpoint
  have hscaled : (k : ℚ) ≤ scaled num den (spacing num den) := by
    exact_mod_cast le_scaled hden hbelow
  calc (significandBound : ℚ) ≤ k * 2 ^ spacing num den := hreached
    _ ≤ scaled num den (spacing num den) * 2 ^ spacing num den := by gcongr

theorem isWhole_ofNat {n : Nat} (h : n < significandBound) : (ofNat n).IsWhole n :=
  isWhole_ofRatio false Nat.one_pos (Nat.mul_one n).symm h

/-- The ratio of a whole number is one of natural numbers that comes out even. -/
theorem ratio_of_whole {m n : Nat} {e : Int} (h : (m : ℚ) * 2 ^ e = n) :
    (ratio m e).1 = n * (ratio m e).2 := by
  have hpos := ratio_pos m e
  have hvalue := ratio_eq m e
  rw [h, div_eq_iff (by positivity)] at hvalue
  exact_mod_cast hvalue

theorem ratio_mul {m k n d : Nat} {e f : Int} (hm : (m : ℚ) * 2 ^ e = n)
    (hk : (k : ℚ) * 2 ^ f = d) :
    (ratio (m * k) (e + f)).1 = n * d * (ratio (m * k) (e + f)).2 := by
  have hproduct : ((m * k : Nat) : ℚ) * 2 ^ (e + f) = (n * d : Nat) := by
    rw [zpow_add₀ two_ne_zero]
    push_cast
    rw [← hm, ← hk]
    ring
  exact ratio_of_whole hproduct

/-- Products of whole numbers are exact below the bound of the significands. -/
theorem IsWhole.mul {x y : Binary64} {n d : Nat} (hx : x.IsWhole n) (hy : y.IsWhole d)
    (h : n * d < significandBound) : (x.mul y).IsWhole (n * d) := by
  obtain ⟨a, m, e, rfl, hm⟩ := hx
  obtain ⟨b, k, f, rfl, hk⟩ := hy
  exact isWhole_ofRatio _ (ratio_pos _ _) (ratio_mul hm hk) h

/-- From there on they are at least as large as the bound. -/
theorem IsWhole.mul_of_large {x y : Binary64} {n d : Nat} (hx : x.IsWhole n) (hy : y.IsWhole d)
    (h : significandBound ≤ n * d) :
    (∃ negative, x.mul y = .infinite negative) ∨
      ∃ negative m e, x.mul y = .finite negative m e ∧ (significandBound : ℚ) ≤ m * 2 ^ e := by
  obtain ⟨a, m, e, rfl, hm⟩ := hx
  obtain ⟨b, k, f, rfl, hk⟩ := hy
  have hnum : significandBound * (ratio (m * k) (e + f)).2 ≤ (ratio (m * k) (e + f)).1 := by
    rw [ratio_mul hm hk]
    exact Nat.mul_le_mul_right _ h
  rcases ofRatio_of_large (a != b) (ratio_pos (m * k) (e + f)) hnum with hout | ⟨p, q, hout, hle⟩
  · exact .inl ⟨_, hout⟩
  · exact .inr ⟨_, p, q, hout, hle⟩

/-- A number that is read as a natural number is one, and it is not below zero. -/
theorem isWhole_of_toInt? {x : Binary64} {n : Nat} (h : x.toInt? = some (n : Int)) :
    x.IsWhole n ∧ x.isNegative = false := by
  cases x with
  | infinite negative => cases h
  | nan => cases h
  | finite negative m e =>
      have hvalue := ratio_eq m e
      have hpos := ratio_pos m e
      unfold toInt? at h
      dsimp only at h
      split at h
      next heven =>
        obtain ⟨q, hq⟩ := Nat.dvd_of_mod_eq_zero heven
        rw [hq, Nat.mul_div_cancel_left q hpos, Option.some.injEq] at h
        have hn : n = q ∧ (negative = true → q = 0) := by
          cases negative <;> simp at h ⊢ <;> omega
        obtain ⟨rfl, hzero⟩ := hn
        have hm : (m : ℚ) * 2 ^ e = n := by
          rw [← hvalue, hq, Nat.cast_mul, mul_div_cancel_left₀ _ (by positivity)]
        refine ⟨⟨negative, m, e, rfl, hm⟩, ?_⟩
        cases negative with
        | false => rfl
        | true =>
            have hnone : (m : ℚ) = 0 := by
              rw [hzero rfl, Nat.cast_zero] at hm
              exact (mul_eq_zero.mp hm).resolve_right (by positivity)
            simp [isNegative, Nat.cast_eq_zero.mp hnone]
      next => cases h

end Binary64

end Targeting.Number
