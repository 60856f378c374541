import ShellPractice.Number.Binary64

/-!
# The shortest decimal text of a double

Every real number in an interval around a double is read as that double.  Its shortest text is
written with the coarsest power of ten that has a multiple in this interval; of two such multiples
the nearer one is taken.
-/

namespace ShellPractice.Number

/-- A decimal number `digits * 10 ^ exponent`. -/
structure Decimal where
  digits : Nat
  exponent : Int
  deriving DecidableEq, Repr

namespace Binary64

/-- A real number as a fraction of naturals. -/
structure Fraction where
  numerator : Nat
  denominator : Nat

/-- A number of quarter units of a double as a fraction. -/
def quarters (value : Binary64) (count : Nat) : Fraction :=
  let exponent := value.exponent - 2
  ⟨count * Nat.pow 2 exponent.toNat, Nat.pow 2 (-exponent).toNat⟩

/-- The quarter units from the double down to the end of its interval.  Below a power of two the
doubles lie closer together. -/
def quartersBelow (value : Binary64) : Nat :=
  if value.significand = Nat.pow 2 52 ∧ -1074 < value.exponent then 1 else 2

/-- Whether a multiple of a power of ten is read as the double. -/
def reads (value : Binary64) (candidate : Decimal) : Bool :=
  let low := value.quarters (4 * value.significand - value.quartersBelow)
  let high := value.quarters (4 * value.significand + 2)
  let numerator := candidate.digits * Nat.pow 10 candidate.exponent.toNat
  let denominator := Nat.pow 10 (-candidate.exponent).toNat
  let below := low.numerator * denominator
  let here := numerator * low.denominator
  let above := high.numerator * denominator
  if value.significand % 2 = 0 then below ≤ here && here ≤ above
  else below < here && here < above

/-- The multiple of a power of ten that is nearest to the double among those read as it. -/
def onGrid? (value : Binary64) (exponent : Int) : Option Decimal :=
  let numerator := value.numerator * Nat.pow 10 (-exponent).toNat
  let denominator := value.denominator * Nat.pow 10 exponent.toNat
  let lower := numerator / denominator
  let remainder := numerator % denominator
  let nearer := if 2 * remainder < denominator then lower else lower + 1
  let other := if 2 * remainder < denominator then lower + 1 else lower
  if value.reads ⟨nearer, exponent⟩ then some ⟨nearer, exponent⟩
  else if value.reads ⟨other, exponent⟩ then some ⟨other, exponent⟩
  else none

/-- The first hit on ever finer grids, of which at most `steps` are tried. -/
def firstHit (value : Binary64) : Nat → Int → Decimal
  | 0, exponent => ⟨0, exponent⟩
  | steps + 1, exponent =>
    match value.onGrid? exponent with
    | some decimal => decimal
    | none => firstHit value steps (exponent - 1)

/-- The shortest decimal number that is read as the double. -/
def shortest (value : Binary64) : Decimal :=
  if value.significand = 0 then ⟨0, 0⟩
  else
    let start := (Nat.toDigits 10 (value.numerator / value.denominator)).length
    value.firstHit (start + 1100) start

end Binary64

namespace Decimal

/-- A decimal number in positional notation with at least one digit after the point. -/
def text (value : Decimal) : String :=
  match value.exponent with
  | .ofNat zeros => toString (value.digits * Nat.pow 10 zeros) ++ ".0"
  | .negSucc places =>
    let digits := Nat.toDigits 10 value.digits
    let padded := List.replicate (places + 2 - digits.length) '0' ++ digits
    let whole := padded.length - (places + 1)
    String.ofList (padded.take whole ++ '.' :: padded.drop whole)

end Decimal

/-- The shortest text of a double that is not negative. -/
def shortestText (value : Float) : String :=
  (Binary64.ofFloat value).shortest.text

end ShellPractice.Number
