/-! Lengths of time. They are counted in nanoseconds; the clock of a run counts milliseconds. -/

namespace Courier

structure Span where
  nanos : Nat
  deriving DecidableEq, Repr, Inhabited

namespace Span

def zero : Span := ⟨0⟩

def ofSeconds (n : Nat) : Span := ⟨n * 1000000000⟩

def ofMillis (n : Nat) : Span := ⟨n * 1000000⟩

def ofMicros (n : Nat) : Span := ⟨n * 1000⟩

def isZero (s : Span) : Bool := s.nanos = 0

instance : Add Span := ⟨fun s t => ⟨s.nanos + t.nanos⟩⟩

instance : LE Span := ⟨fun s t => s.nanos ≤ t.nanos⟩

instance (s t : Span) : Decidable (s ≤ t) := inferInstanceAs (Decidable (s.nanos ≤ t.nanos))

/-- The milliseconds that a wait of this length takes: timers fire at whole milliseconds, a wait
that ends within one ends with it. -/
def ticks (s : Span) : Nat := (s.nanos + 999999) / 1000000

def seconds (s : Span) : Nat := s.nanos / 1000000000

def subsecond (s : Span) : Nat := s.nanos % 1000000000

def toFloat (s : Span) : Float :=
  Float.ofScientific s.seconds false 0 + Float.ofScientific s.subsecond false 0 / 1000000000.0

def sum (spans : List Span) : Span := spans.foldr (· + ·) zero

@[simp] theorem nanos_zero : zero.nanos = 0 := rfl

@[simp] theorem nanos_add (s t : Span) : (s + t).nanos = s.nanos + t.nanos := rfl

theorem nanos_le_ticks (s : Span) : s.nanos ≤ s.ticks * 1000000 := by
  simp only [ticks]; omega

theorem ticks_lt_nanos (s : Span) : s.ticks * 1000000 < s.nanos + 1000000 := by
  simp only [ticks]; omega

theorem nanos_ofMillis_add (m n : Nat) :
    (ofMillis (m + n)).nanos = (ofMillis m).nanos + (ofMillis n).nanos :=
  Nat.add_mul ..

theorem nanos_ofMillis_le {m n : Nat} (le : m ≤ n) : (ofMillis m).nanos ≤ (ofMillis n).nanos :=
  Nat.mul_le_mul_right _ le

theorem sum_cons (s : Span) (spans : List Span) : sum (s :: spans) = s + sum spans := rfl

@[simp] theorem nanos_sum_append (before after : List Span) :
    (sum (before ++ after)).nanos = (sum before).nanos + (sum after).nanos := by
  induction before with
  | nil => exact (Nat.zero_add _).symm
  | cons s before induction =>
      rw [List.cons_append, sum_cons, sum_cons, nanos_add, nanos_add, induction, Nat.add_assoc]

@[simp] theorem nanos_sum_singleton (s : Span) : (sum [s]).nanos = s.nanos := rfl

theorem nanos_sum_replicate (n : Nat) (s : Span) :
    (sum (List.replicate n s)).nanos = n * s.nanos := by
  induction n with
  | zero => exact (Nat.zero_mul _).symm
  | succ n induction =>
      rw [List.replicate_succ', nanos_sum_append, nanos_sum_singleton, induction, Nat.succ_mul]

end Span

end Courier
