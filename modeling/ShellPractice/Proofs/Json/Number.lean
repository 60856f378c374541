import ShellPractice.Json.Reader
import ShellPractice.Proofs.Text.Runs

/-!
# Integers in decimal digits

An integer is written in digits without a zero in front, after a sign if it is negative.  Read up
to the first character that continues no number, the digits stand for the integer again.
-/

namespace ShellPractice.Json

open Text

/-- The digits of a natural number. -/
def decimalDigits (n : Nat) : List Char :=
  Nat.toDigits 10 n

theorem toList_toString_ofNat (n : Nat) : (toString (n : Int)).toList = decimalDigits n := by
  simp [decimalDigits, toString, Int.repr, Nat.repr_eq_ofList_toDigits]

theorem toList_toString_negSucc (n : Nat) :
    (toString (Int.negSucc n)).toList = '-' :: decimalDigits (n + 1) := by
  simp [decimalDigits, toString, Int.repr, Nat.repr_eq_ofList_toDigits]

theorem natural_decimalDigits (n : Nat) : natural (decimalDigits n) = n :=
  Nat.ofDigitChars_ten_toDigits

theorem isDigit_of_mem_decimalDigits {n : Nat} {c : Char} (member : c ∈ decimalDigits n) :
    c.isDigit = true :=
  Nat.isDigit_of_mem_toDigits (by omega) (by omega) member

theorem exists_decimalDigits_eq_cons (n : Nat) :
    ∃ first rest, decimalDigits n = first :: rest ∧ first.isDigit = true := by
  obtain ⟨first, rest, digits⟩ :=
    List.exists_cons_of_ne_nil (Nat.toDigits_ne_nil (n := n) (b := 10))
  refine ⟨first, rest, digits, isDigit_of_mem_decimalDigits (n := n) ?_⟩
  rw [decimalDigits, digits]
  exact List.mem_cons_self

theorem head?_decimalDigits_ne_zero {n : Nat} (positive : 0 < n) :
    (decimalDigits n).head? ≠ some '0' := by
  induction n using Nat.strongRecOn with
  | ind n ih =>
    rw [decimalDigits]
    rcases Nat.lt_or_ge n 10 with small | large
    · rw [Nat.toDigits_of_lt_base small, List.head?_cons, Ne, Option.some.injEq,
        Nat.digitChar_eq_zero]
      exact Nat.ne_of_gt positive
    · obtain ⟨first, rest, digits, -⟩ := exists_decimalDigits_eq_cons (n / 10)
      have start := ih (n / 10) (by omega) (by omega)
      rw [decimalDigits] at digits start
      rw [Nat.toDigits_of_base_le (by omega) large, digits]
      rwa [digits] at start

/-- Only the number zero starts with a zero, and it has no other digit. -/
theorem length_decimalDigits_of_head? {n : Nat} (zero : (decimalDigits n).head? = some '0') :
    (decimalDigits n).length = 1 := by
  rcases Nat.eq_zero_or_pos n with rfl | positive
  · rfl
  · exact absurd zero (head?_decimalDigits_ne_zero positive)

/-- Whether a number goes on with a character after its digits. -/
def continuesNumber (c : Char) : Bool :=
  c.isDigit || c == '.' || c == 'e' || c == 'E'

theorem fraction?_of_endsRun {rest : List Char} (ends : EndsRun continuesNumber rest) :
    fraction? rest = some ([], rest) := by
  unfold fraction?
  split
  · simp [endsRun_cons, continuesNumber] at ends
  · rfl

theorem exponent?_of_endsRun {rest : List Char} (ends : EndsRun continuesNumber rest) :
    exponent? rest = some ([], rest) := by
  cases rest with
  | nil => rfl
  | cons c rest =>
    simp only [endsRun_cons, continuesNumber, Bool.or_eq_false_iff] at ends
    simp [exponent?, ends]

theorem digits_decimalDigits_append {rest : List Char} (ends : EndsRun continuesNumber rest)
    (n : Nat) : digits (decimalDigits n ++ rest) = (decimalDigits n, rest) := by
  refine span_append (fun c => isDigit_of_mem_decimalDigits) fun c first => ?_
  have other := ends c first
  simp only [continuesNumber, Bool.or_eq_false_iff] at other
  exact other.1.1.1

/-- The digits of an integer are read as this integer, except for minus zero. -/
theorem number?_decimalDigits {rest : List Char} (ends : EndsRun continuesNumber rest)
    (negative : Bool) (n : Nat) (proper : ¬ (negative = true ∧ n = 0)) :
    number? negative (decimalDigits n ++ rest) =
      some (.integer (if negative then -(n : Int) else n), rest) := by
  have nonempty : (decimalDigits n).isEmpty = false := by
    simp [decimalDigits]
  -- A zero in front is refused unless it is the only digit.
  have plain : ((decimalDigits n).head? == some '0' && (decimalDigits n).length != 1) = false := by
    by_cases zero : (decimalDigits n).head? = some '0'
    · simp [length_decimalDigits_of_head? zero]
    · simp [zero]
  have whole : (negative && (n : Int) == 0) = false := by
    simpa using proper
  simp [number?, digits_decimalDigits_append ends, nonempty, plain, fraction?_of_endsRun ends,
    exponent?_of_endsRun ends, natural_decimalDigits, whole]

end ShellPractice.Json
