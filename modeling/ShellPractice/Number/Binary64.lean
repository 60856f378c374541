/-!
# Doubles as integers times powers of two

A double that is not negative is a whole number of units, the unit being a power of two.  The
decimal texts of doubles are computed from this form in exact arithmetic.
-/

namespace ShellPractice.Number

/-- A number `significand * 2 ^ exponent` as a double of 53 bits holds it. -/
structure Binary64 where
  significand : Nat
  exponent : Int
  deriving DecidableEq, Repr

namespace Binary64

/-- The magnitude that the bits of a finite double stand for. -/
def ofBits (bits : UInt64) : Binary64 :=
  let field := (bits >>> 52).toNat % 2048
  let fraction := bits.toNat % Nat.pow 2 52
  if field = 0 then ⟨fraction, -1074⟩ else ⟨fraction + Nat.pow 2 52, (field : Int) - 1075⟩

/-- The magnitude of a finite double. -/
def ofFloat (value : Float) : Binary64 :=
  ofBits value.toBits

/-- The numerator of the number over `denominator`. -/
def numerator (value : Binary64) : Nat :=
  value.significand * Nat.pow 2 value.exponent.toNat

/-- A power of two that makes the number a fraction. -/
def denominator (value : Binary64) : Nat :=
  Nat.pow 2 (-value.exponent).toNat

end Binary64

/-- The integer nearest to a fraction; of two at the same distance, the even one. -/
def roundDiv (numerator denominator : Nat) : Nat :=
  let quotient := numerator / denominator
  let twice := 2 * (numerator % denominator)
  if twice < denominator then quotient
  else if denominator < twice then quotient + 1
  else quotient + quotient % 2

/-- The integer nearest to a double that is not negative, ties going to the even one. -/
def nearestInteger (value : Float) : Nat :=
  let parts := Binary64.ofFloat value
  roundDiv parts.numerator parts.denominator

end ShellPractice.Number
