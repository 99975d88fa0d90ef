/-! Powers, and the limits of numbers of a fixed width. -/

namespace Courier.Number

def power (base exponent : Nat) : Nat := Nat.pow base exponent

def limit (bits : Nat) : Nat := power 2 bits

@[simp] theorem power_zero (base : Nat) : power base 0 = 1 := rfl

theorem power_succ (base exponent : Nat) :
    power base (exponent + 1) = power base exponent * base := rfl

theorem power_pos {base : Nat} (positive : 0 < base) (exponent : Nat) :
    0 < power base exponent := by
  induction exponent with
  | zero => exact Nat.one_pos
  | succ exponent induction => exact Nat.mul_pos induction positive

end Courier.Number
