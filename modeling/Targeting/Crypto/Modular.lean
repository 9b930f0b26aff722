/-!
Powers and inverses modulo a number.
-/

namespace Targeting.Crypto

/-- A power modulo `m`, by halving the exponent. -/
def powMod (m b e : Nat) : Nat :=
  if e = 0 then 1 % m
  else
    let half := powMod m (b * b % m) (e / 2)
    if e % 2 = 1 then b * half % m else half
termination_by e

/-- The inverse modulo a prime. -/
def inverseMod (p n : Nat) : Nat := powMod p n (p - 2)

theorem pow_double (b n : Nat) : Nat.pow b (2 * n) = Nat.pow (b * b) n := by
  induction n with
  | zero => rfl
  | succ n ih =>
    have step : Nat.pow b (2 * n + 2) = Nat.pow b (2 * n) * b * b := rfl
    rw [show 2 * (n + 1) = 2 * n + 2 by omega, step, ih, Nat.mul_assoc]
    rfl

theorem powMod_eq (m b e : Nat) : powMod m b e = Nat.pow b e % m := by
  fun_induction powMod m b e with
  | case1 b => rfl
  | case2 b e h half hodd ih =>
    have he : e = 2 * (e / 2) + 1 := by omega
    have hhalf : half = Nat.pow (b * b) (e / 2) % m :=
      ih.trans (Nat.pow_mod (b * b) (e / 2) m).symm
    have hpow : Nat.pow b e = b * Nat.pow (b * b) (e / 2) := by
      rw [← pow_double, Nat.mul_comm]
      exact congrArg (Nat.pow b) he
    rw [hhalf, hpow, Nat.mul_mod_mod]
  | case3 b e h half heven ih =>
    have he : e = 2 * (e / 2) := by omega
    have hpow : Nat.pow b e = Nat.pow (b * b) (e / 2) :=
      (congrArg (Nat.pow b) he).trans (pow_double b (e / 2))
    rw [hpow]
    exact ih.trans (Nat.pow_mod (b * b) (e / 2) m).symm

end Targeting.Crypto
