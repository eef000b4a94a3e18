/-!
# Words

Stored numbers are words of fixed width. A number is taken only if it fits its word, so none ever
wraps around.
-/

namespace ProgressTable.Word

/-- The first number above the signed words of 64 bits. -/
def bound63 : Nat := 0x8000000000000000

/-- The first number above the signed words of 32 bits. -/
def bound31 : Nat := 0x80000000

/-- The first number above the unsigned words of 64 bits. -/
def bound64 : Nat := 0x10000000000000000

/-- What fits a signed word fits an unsigned one. -/
theorem lt_bound64 {n : Nat} (h : n < bound63) : n < bound64 :=
  Nat.lt_trans h (by decide)

/-- The first number above the unsigned words of 32 bits. -/
def bound32 : Nat := 0x100000000

/-- Whether a number fits a signed word whose first number above is `bound`. -/
def fits (bound : Nat) (n : Int) : Bool := -(bound : Int) ≤ n && n < bound

/-- The number as a signed word of 64 bits. -/
def int64? (n : Int) : Option Int64 := if fits bound63 n then some (Int64.ofInt n) else none

/-- The number as a signed word of 32 bits. -/
def int32? (n : Int) : Option Int32 := if fits bound31 n then some (Int32.ofInt n) else none

/-- The product of two signed words of 32 bits, if it fits such a word again. -/
def mul32? (a b : Int32) : Option Int32 := int32? (a.toInt * b.toInt)

/-- The number as an unsigned word of 32 bits. -/
def uint32? (n : Nat) : Option UInt32 := if n < bound32 then some (UInt32.ofNat n) else none

/-- The number as a count: a count fits an unsigned word of 64 bits. -/
def count? (n : Nat) : Option Nat := if n < bound64 then some n else none

example : int64? (-9223372036854775808) = some Int64.minValue ∧ int64? 9223372036854775808 = none
    ∧ int32? 2147483647 = some Int32.maxValue ∧ int32? (-2147483649) = none
    ∧ mul32? 35791394 60 = some 2147483640 ∧ mul32? 35791395 60 = none
    ∧ count? 18446744073709551615 = some 18446744073709551615
    ∧ count? 18446744073709551616 = none := by
  decide

end ProgressTable.Word
