import Courier.Number.Power

/-! The pool of credits. Every attempt to send takes one; a success hands back several, a failure
the one it took, and every message received adds more. -/

namespace Courier

structure CreditPool where
  available : Nat
  /-- The most that the pool holds, if it is limited. -/
  ceiling : Option Nat
  deriving DecidableEq, Repr

namespace CreditPool

def maximum : Nat := Number.limit 64 - 1

def limit (pool : CreditPool) : Nat := pool.ceiling.elim maximum (min maximum)

/-- What does not fit into the pool is lost. -/
def add (pool : CreditPool) (amount : Nat) : CreditPool :=
  { pool with available := min (pool.available + amount) pool.limit }

def take? (pool : CreditPool) : Option CreditPool :=
  match pool.available with
  | 0 => none
  | n + 1 => some { pool with available := n }

theorem maximum_eq : maximum = 18446744073709551615 := rfl

theorem add_le_limit (pool : CreditPool) (amount : Nat) :
    (pool.add amount).available ≤ pool.limit :=
  Nat.min_le_right ..

theorem add_le (pool : CreditPool) (amount : Nat) :
    (pool.add amount).available ≤ pool.available + amount :=
  Nat.min_le_left ..

@[simp] theorem add_ceiling (pool : CreditPool) (amount : Nat) :
    (pool.add amount).ceiling = pool.ceiling := rfl

theorem take?_eq_some_iff (pool rest : CreditPool) :
    pool.take? = some rest ↔
      pool.available = rest.available + 1 ∧ pool.ceiling = rest.ceiling := by
  obtain ⟨available, ceiling⟩ := pool
  obtain ⟨available', ceiling'⟩ := rest
  cases available <;> simp [take?]

end CreditPool

end Courier
