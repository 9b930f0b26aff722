import Mathlib.Algebra.Order.Ring.Abs
import Targeting.Audience.Statistics
import Targeting.Proofs.WholeNumbers

/-!
Rounding a quotient to a whole number by way of a binary one. The quotient is rounded twice, and in
general a half could come from what was no half, or be lost. Of two counts below `2 ^ 52` it does
not: their quotient keeps a distance from every half that it does not meet, which is more than what
the first rounding takes off or adds, and a half itself is a binary number.
-/

namespace Targeting

namespace Number

/-- No whole number is nearer than this one; where another is as near, this one is even. -/
structure IsNearest (x : ℚ) (n : Int) : Prop where
  nearest : ∀ k : Int, |x - n| ≤ |x - k|
  even : ∀ k : Int, k ≠ n → |x - k| = |x - n| → Even n

/-- Within a half of a number there is at most one other whole number as near. -/
theorem isNearest_of_abs_le {x : ℚ} {n : Int} (h : |x - n| ≤ 1 / 2)
    (heven : |x - n| = 1 / 2 → Even n) : IsNearest x n := by
  have hapart : ∀ k : Int, k ≠ n → 1 ≤ |x - n| + |x - k| := by
    intro k hk
    have hint : (1 : Int) ≤ |n - k| := Int.one_le_abs (sub_ne_zero.mpr hk.symm)
    have hone : (1 : ℚ) ≤ |(n : ℚ) - k| := by exact_mod_cast hint
    have htriangle := abs_sub_le (n : ℚ) x k
    rw [abs_sub_comm (n : ℚ) x] at htriangle
    exact hone.trans htriangle
  constructor
  · intro k
    by_cases hk : k = n
    · rw [hk]
    · have hsum := hapart k hk
      linarith
  · intro k hk hsame
    apply heven
    have hsum := hapart k hk
    linarith

/-- A rounded quotient is off by a half at most, and by a half only if it is even. -/
theorem roundDiv_off (num : Nat) {den : Nat} (h : 0 < den) :
    2 * |(num : Int) - den * roundDiv num den| ≤ den ∧
      (2 * |(num : Int) - den * roundDiv num den| = den → Even (roundDiv num den)) := by
  have hsplit : (num : Int) = den * (num / den : Nat) + (num % den : Nat) := by
    exact_mod_cast (Nat.div_add_mod num den).symm
  have hrest : num % den < den := Nat.mod_lt num h
  have hbelow : (num : Int) - den * (num / den : Nat) = (num % den : Nat) := by
    omega
  have habove : (num : Int) - den * ((num / den + 1 : Nat) : Int) = (num % den : Nat) - den := by
    push_cast at hsplit ⊢
    rw [mul_add, mul_one]
    omega
  unfold roundDiv
  dsimp only
  split_ifs with hlow hhigh heven
  · rw [hbelow, Nat.abs_cast]
    omega
  · rw [habove, abs_sub_comm, abs_of_nonneg (by omega)]
    omega
  · rw [hbelow, Nat.abs_cast]
    exact ⟨by omega, fun _ => Nat.even_iff.mpr heven⟩
  · rw [habove, abs_sub_comm, abs_of_nonneg (by omega)]
    exact ⟨by omega, fun _ => Nat.even_iff.mpr (by omega)⟩

/-- The same of the quotient itself. -/
theorem abs_sub_roundDiv (num : Nat) {den : Nat} (h : 0 < den) :
    |(num : ℚ) / den - roundDiv num den| ≤ 1 / 2 ∧
      (|(num : ℚ) / den - roundDiv num den| = 1 / 2 → Even (roundDiv num den)) := by
  have hpos : (0 : ℚ) < den := by positivity
  obtain ⟨hoff, heven⟩ := roundDiv_off num h
  have hscaled : 2 * |(num : ℚ) / den - roundDiv num den| * den =
      ((2 * |(num : Int) - den * roundDiv num den| : Int) : ℚ) := by
    have hdiff : (num : ℚ) / den - roundDiv num den = (num - den * roundDiv num den) / den := by
      field_simp
    rw [hdiff, abs_div, abs_of_pos hpos]
    push_cast
    field_simp
  constructor
  · have hle : 2 * |(num : ℚ) / den - roundDiv num den| * den ≤ 1 * den := by
      rw [hscaled, one_mul]
      exact_mod_cast hoff
    have hhalf := le_of_mul_le_mul_right hle hpos
    linarith
  · intro hhalf
    apply heven
    have heq : ((2 * |(num : Int) - den * roundDiv num den| : Int) : ℚ) = den := by
      rw [← hscaled, hhalf]
      ring
    exact_mod_cast heq

/-- Rounded to a multiple of a power of two, a quotient is off by half of it at most. -/
theorem abs_sub_scaled (num : Nat) {den : Nat} (h : 0 < den) (e : Int) :
    |(num : ℚ) / den - scaled num den e * 2 ^ e| ≤ 2 ^ e / 2 := by
  obtain ⟨a, b, hb, hscaled, ha⟩ := exists_scaled_eq num h e
  have hpos : (0 : ℚ) < 2 ^ e := by positivity
  have hquotient : (a : ℚ) / b = num / den / 2 ^ e := by
    rw [ha]
    field_simp
  have hoff := (abs_sub_roundDiv a hb).1
  rw [hquotient, ← hscaled] at hoff
  have hdiff : (num : ℚ) / den - scaled num den e * 2 ^ e =
      (num / den / 2 ^ e - scaled num den e) * 2 ^ e := by
    field_simp
  rw [hdiff, abs_mul, abs_of_pos hpos]
  calc |(num : ℚ) / den / 2 ^ e - scaled num den e| * 2 ^ e ≤ 1 / 2 * 2 ^ e := by gcongr
    _ = 2 ^ e / 2 := by ring

/-- A quotient that is no half keeps a distance from it that its denominator fixes. -/
theorem one_le_abs_sub_half (num : Nat) {den : Nat} (hden : 0 < den) {k : Int}
    (h : (num : ℚ) / den ≠ k / 2) : 1 ≤ |(num : ℚ) / den - k / 2| * (2 * den) := by
  have hpos : (0 : ℚ) < 2 * den := by positivity
  have hproduct : ((num : ℚ) / den - k / 2) * (2 * den) = ((2 * num - k * den : Int) : ℚ) := by
    push_cast
    field_simp
  have hne : (2 * num - k * den : Int) ≠ 0 := by
    intro hzero
    rw [hzero, Int.cast_zero] at hproduct
    have hsame := (mul_eq_zero.mp hproduct).resolve_right hpos.ne'
    exact h (sub_eq_zero.mp hsame)
  have hone : (1 : ℚ) ≤ |((2 * num - k * den : Int) : ℚ)| := by
    exact_mod_cast Int.one_le_abs hne
  rwa [← hproduct, abs_mul, abs_of_pos hpos] at hone

/-- What is nearest to a number is nearest to another one, too, if the two lie on the same side of
every half, and on a half only together. -/
theorem isNearest_of_sameSide {x y : ℚ} {n : Int} (hnear : |y - n| ≤ 1 / 2)
    (heven : |y - n| = 1 / 2 → Even n) (hapart : ∀ k : Int, x ≠ k / 2 → |x - y| < |x - k / 2|)
    (hmeet : ∀ k : Int, x = k / 2 → y = x) : IsNearest x n := by
  obtain ⟨hlow, hhigh⟩ := abs_le.mp hnear
  apply isNearest_of_abs_le
  · rw [abs_le]
    constructor
    · by_contra hless
      have hside : x < ((2 * n - 1 : Int) : ℚ) / 2 := by
        push_cast
        linarith
      have hgap := hapart _ hside.ne
      rw [abs_of_neg (sub_neg.mpr hside)] at hgap
      have hy := neg_abs_le (x - y)
      push_cast at hgap
      linarith
    · by_contra hmore
      have hside : ((2 * n + 1 : Int) : ℚ) / 2 < x := by
        push_cast
        linarith
      have hgap := hapart _ hside.ne'
      rw [abs_of_pos (sub_pos.mpr hside)] at hgap
      have hy := le_abs_self (x - y)
      push_cast at hgap
      linarith
  · intro hhalf
    have hside : x = ((2 * n + 1 : Int) : ℚ) / 2 ∨ x = ((2 * n - 1 : Int) : ℚ) / 2 := by
      push_cast
      rcases (abs_eq (by norm_num)).mp hhalf with hplus | hminus
      · left
        linarith
      · right
        linarith
    apply heven
    rcases hside with hside | hside
    · rwa [hmeet _ hside]
    · rwa [hmeet _ hside]

namespace Binary64

/-- Counts of this size leave room behind the point of their quotient. -/
theorem pow_spacing_mul_lt_one {num den : Nat} (hnum : 0 < num) (hden : 0 < den)
    (hsmall : num < 2 ^ 52) (hbound : den < 2 ^ 52) : (2 : ℚ) ^ spacing num den * den < 1 := by
  have hpos : (0 : ℚ) < den := by positivity
  unfold spacing
  rcases max_choice leastExponent (spacingOf 52 num den) with hmax | hmax
  · have hcast : (den : ℚ) < 2 ^ (52 : Int) := by exact_mod_cast hbound
    rw [hmax]
    calc (2 : ℚ) ^ leastExponent * den < 2 ^ leastExponent * 2 ^ (52 : Int) := by gcongr
      _ = 2 ^ (leastExponent + 52) := (zpow_add₀ two_ne_zero _ _).symm
      _ ≤ 2 ^ (0 : Int) := zpow_le_zpow_right₀ one_le_two (by decide)
      _ = 1 := zpow_zero 2
  · have hcast : (num : ℚ) < 2 ^ (52 : Int) := by exact_mod_cast hsmall
    have hfilled := pow_spacingOf_le 52 hnum hden
    rw [Nat.cast_ofNat, zpow_add₀ two_ne_zero, le_div_iff₀ hpos] at hfilled
    have hlt : (2 : ℚ) ^ spacingOf 52 num den * den * 2 ^ (52 : Int) < 1 * 2 ^ (52 : Int) := by
      linarith
    rw [hmax]
    exact lt_of_mul_lt_mul_right hlt (by positivity)

theorem spacing_neg {num den : Nat} (hnum : 0 < num) (hden : 0 < den) (hsmall : num < 2 ^ 52)
    (hbound : den < 2 ^ 52) : spacing num den < 0 := by
  have hone : (1 : ℚ) ≤ den := by exact_mod_cast hden
  have hlt : (2 : ℚ) ^ spacing num den < 2 ^ (0 : Int) := by
    rw [zpow_zero]
    calc (2 : ℚ) ^ spacing num den ≤ 2 ^ spacing num den * den :=
          le_mul_of_one_le_right (by positivity) hone
      _ < 1 := pow_spacing_mul_lt_one hnum hden hsmall hbound
  exact (zpow_lt_zpow_iff_right₀ one_lt_two).mp hlt

/-- The quotient of two counts becomes a number that is nearer to it than any half is, and a half
stays as it is. -/
theorem ofRatio_near {num den : Nat} (hden : 0 < den) (hsmall : num < 2 ^ 52)
    (hbound : den < 2 ^ 52) :
    ∃ m e, ofRatio false num den = .finite false m e ∧
      |(num : ℚ) / den - m * 2 ^ e| * (2 * den) < 1 ∧
        ∀ k : Int, (num : ℚ) / den = k / 2 → (m : ℚ) * 2 ^ e = num / den := by
  rcases Nat.eq_zero_or_pos num with rfl | hnum
  · refine ⟨0, leastExponent, by simp [ofRatio], by simp, by simp⟩
  have hpos : (0 : ℚ) < den := by positivity
  have hneg := spacing_neg hnum hden hsmall hbound
  rcases ofRatio_cases false den hnum.ne' with ⟨-, hlarge⟩ | ⟨m, e, hout, heq⟩
  · exact absurd (hlarge.trans_lt hneg) (by decide)
  refine ⟨m, e, hout, ?_, ?_⟩
  · rw [heq]
    calc |(num : ℚ) / den - scaled num den (spacing num den) * 2 ^ spacing num den| * (2 * den)
        ≤ 2 ^ spacing num den / 2 * (2 * den) := by
          gcongr
          exact abs_sub_scaled num hden _
      _ = 2 ^ spacing num den * den := by ring
      _ < 1 := pow_spacing_mul_lt_one hnum hden hsmall hbound
  · intro k hk
    obtain ⟨j, hj⟩ : ∃ j : Nat, spacing num den = -(j + 1 : Nat) :=
      ⟨(-spacing num den - 1).toNat, by omega⟩
    have hk0 : 0 ≤ k := by
      have hquotient : (0 : ℚ) ≤ k / 2 := hk ▸ by positivity
      have hcast : (0 : ℚ) ≤ k := by linarith
      exact_mod_cast hcast
    obtain ⟨i, rfl⟩ := Int.eq_ofNat_of_zero_le hk0
    -- On a grid this fine a half is a grid point.
    have hgrid : (num : ℚ) / den = (i * 2 ^ j : Nat) * 2 ^ spacing num den := by
      rw [hk, hj, zpow_neg, zpow_natCast, pow_succ]
      push_cast
      field_simp
    rw [heq, scaled_eq_of_eq hden hgrid, ← hgrid]

/-- The nearest integer to the binary quotient of two counts is nearest to their quotient. -/
theorem isNearest_round {num den : Nat} (hden : 0 < den) (hsmall : num < 2 ^ 52)
    (hbound : den < 2 ^ 52) :
    ∃ n : Nat, (ofRatio false num den).round? = some n ∧ IsNearest ((num : ℚ) / den) n := by
  obtain ⟨m, e, hout, hnear, hmeet⟩ := ofRatio_near hden hsmall hbound
  have hpos : (0 : ℚ) < 2 * den := by positivity
  have hratio := abs_sub_roundDiv (ratio m e).1 (ratio_pos m e)
  rw [ratio_eq] at hratio
  refine ⟨roundDiv (ratio m e).1 (ratio m e).2, by rw [hout]; rfl, ?_⟩
  apply isNearest_of_sameSide (y := m * 2 ^ e)
  · exact_mod_cast hratio.1
  · intro hhalf
    have heven := hratio.2 (by exact_mod_cast hhalf)
    exact_mod_cast heven
  · intro k hne
    have hapart := one_le_abs_sub_half num hden hne
    exact lt_of_mul_lt_mul_right (hnear.trans_le hapart) hpos.le
  · exact hmeet

end Binary64

end Number

/-- The average of a merchant is the whole number nearest to the exact one. -/
theorem Statistics.isNearest_average (t : Statistics) (hsegments : 0 < t.totalSegments)
    (hbound : t.totalSegments < 2 ^ 52) (hsmall : t.totalSubscribers < 2 ^ 52) :
    Number.IsNearest ((t.totalSubscribers : ℚ) / t.totalSegments) t.average := by
  obtain ⟨n, hround, hnearest⟩ := Number.Binary64.isNearest_round hsegments hsmall hbound
  have haverage : t.average = n := by
    rw [average, if_neg hsegments.ne', hround]
    rfl
  rwa [haverage]

end Targeting
