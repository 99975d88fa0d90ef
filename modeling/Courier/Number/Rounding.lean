/-! Rounding a quotient to a whole number. -/

namespace Courier.Number

inductive Tie where
  | toEven
  | awayFromZero
  deriving DecidableEq, Repr

def roundDiv (num den : Nat) (tie : Tie) : Nat :=
  let quotient := num / den
  let rest := num % den
  if 2 * rest < den then quotient
  else if den < 2 * rest then quotient + 1
  else
    match tie with
    | .awayFromZero => quotient + 1
    | .toEven => quotient + quotient % 2

theorem roundDiv_near (num den : Nat) (tie : Tie) (positive : 0 < den) :
    2 * (roundDiv num den tie * den) ≤ 2 * num + den ∧
      2 * num ≤ 2 * (roundDiv num den tie * den) + den := by
  have split : den * (num / den) + num % den = num := Nat.div_add_mod num den
  have below : num % den < den := Nat.mod_lt _ positive
  simp only [roundDiv]
  generalize num / den = quotient at *
  generalize num % den = rest at *
  have next : (quotient + 1) * den = den * quotient + den := by
    rw [Nat.add_mul, Nat.mul_comm]; simp
  have same : quotient * den = den * quotient := Nat.mul_comm ..
  have parity : quotient % 2 = 0 ∨ quotient % 2 = 1 := by omega
  generalize den * quotient = product at *
  split
  · omega
  · split
    · omega
    · cases tie with
      | awayFromZero => simp only; omega
      | toEven => rcases parity with parity | parity <;> simp only [parity, Nat.add_zero] <;> omega

end Courier.Number
