import ShellPractice.Proofs.Json.Number
import ShellPractice.Toml.Scalar

/-!
# Integers in TOML, written and read

An integer in decimal digits is a word of its own.  It is no date and no time, since these have
marks between their digits, no number in another base, and no number with a fraction.
-/

namespace ShellPractice.Toml

open Text Json

section Words

variable {word rest : List Char}

/-- A word ends where neither it nor blanks go on. -/
theorem splitWord_append (inside : ∀ c ∈ word, isWordChar c = true)
    (ends : EndsRun isWordChar rest) (solid : EndsRun isBlank rest) :
    splitWord (word ++ rest) = (word, rest) := by
  have run := takeWhile_append inside ends
  have after := dropWhile_append inside ends
  rw [splitWord]
  split
  · rename_i left
    obtain rfl := after.symm.trans left
    rw [run]
  · rename_i c text left
    obtain rfl := after.symm.trans left
    simp [run, endsRun_cons.mp solid]

theorem isWordChar_of_isDigit {c : Char} (digit : c.isDigit = true) : isWordChar c = true := by
  have solid : wordEnds.contains c = false := contains_eq_false_of_inside digit (by decide)
  rw [isWordChar, solid]
  rfl

end Words

section Digits

variable {digits : List Char} {mark : Char}

theorem after?_of_isDigit (each : ∀ c ∈ digits, c.isDigit = true) (other : mark.isDigit = false) :
    after? mark digits = none := by
  cases digits with
  | nil => rfl
  | cons c rest =>
    rw [after?, if_neg (ne_of_inside (each c List.mem_cons_self) other)]

/-- A number of as many digits leaves the rest of digits, in which there is no mark. -/
theorem after?_of_fixed? {count value : Nat} {after : List Char}
    (each : ∀ c ∈ digits, c.isDigit = true) (other : mark.isDigit = false)
    (read : fixed? count digits = some (value, after)) : after? mark after = none := by
  simp only [fixed?] at read
  split at read
  · cases read
    exact after?_of_isDigit (fun c member => each c (List.mem_of_mem_drop member)) other
  · cases read

theorem fixed?_of_not_isDigit (other : mark.isDigit = false) (count : Nat) (text : List Char) :
    fixed? (count + 1) (mark :: text) = none := by
  simp [fixed?, other]

theorem isMoment_of_after? {text : List Char}
    (noTime : ∀ value after, fixed? 2 text = some (value, after) → after? ':' after = none)
    (noDate : ∀ value after, fixed? 4 text = some (value, after) → after? '-' after = none) :
    isMoment text = false := by
  have time : afterTime? text = none := by
    unfold afterTime?
    cases read : fixed? 2 text with
    | none => rfl
    | some result => simp [noTime result.1 result.2 read]
  have date : afterDate? text = none := by
    unfold afterDate?
    cases read : fixed? 4 text with
    | none => rfl
    | some result => simp [noDate result.1 result.2 read]
  simp [isMoment, isTime, time, date]

/-- Digits are no moment, as no mark follows the first two or four. -/
theorem isMoment_digits (each : ∀ c ∈ digits, c.isDigit = true) : isMoment digits = false :=
  isMoment_of_after? (fun _ _ read => after?_of_fixed? each (by decide) read)
    fun _ _ read => after?_of_fixed? each (by decide) read

theorem isMoment_minus (digits : List Char) : isMoment ('-' :: digits) = false := by
  have notDigit : ('-' : Char).isDigit = false := by decide
  refine isMoment_of_after? ?_ ?_ <;> rw [fixed?_of_not_isDigit notDigit] <;> simp

theorem grouped?_digits (each : ∀ c ∈ digits, c.isDigit = true) (nonempty : digits ≠ []) :
    grouped? Char.isDigit digits = some digits := by
  induction digits with
  | nil => exact absurd rfl nonempty
  | cons c digits ih =>
    simp only [List.mem_cons, forall_eq_or_imp] at each
    cases digits with
    | nil => simp [grouped?, each.1]
    | cons d digits =>
      have more := ih each.2 (by simp)
      have notScore : d ≠ '_' := ne_of_inside (each.2 d List.mem_cons_self) (by decide)
      rw [grouped?, if_pos each.1, more]
      · rfl
      all_goals simp [notScore]

theorem based?_digits (each : ∀ c ∈ digits, c.isDigit = true) : based? digits = none := by
  unfold based?
  split <;> simp_all

theorem span_digits {other : Char → Bool} (each : ∀ c ∈ digits, c.isDigit = true)
    (wide : ∀ c : Char, c.isDigit = true → other c = true) : digits.span other = (digits, []) := by
  have ends : EndsRun other [] := endsRun_nil
  have whole := span_append (fun c member => wide c (each c member)) ends
  rwa [List.append_nil] at whole

/-- Digits without a dot and without the letter of an exponent have no fraction. -/
theorem real?_of_sign {word : List Char} {negative : Bool} {first : Char}
    (each : ∀ c ∈ first :: digits, c.isDigit = true)
    (split : sign word = (negative, first :: digits)) : real? word = none := by
  have digit := each first List.mem_cons_self
  have notInfinite : first ≠ 'i' := ne_of_inside digit (by decide)
  have isNumber : first ≠ 'n' := ne_of_inside digit (by decide)
  have mantissa : (first :: digits).span (fun c => c != 'e' && c != 'E') = (first :: digits, []) :=
    span_digits each fun c digit => by
      simp [ne_of_inside digit (by decide : 'e'.isDigit = false),
        ne_of_inside digit (by decide : 'E'.isDigit = false)]
  have whole : (first :: digits).span (· != '.') = (first :: digits, []) :=
    span_digits each fun c digit => by
      simp [ne_of_inside digit (by decide : '.'.isDigit = false)]
  simp [real?, split, notInfinite, isNumber, mantissa, whole, -List.span_eq_takeWhile_dropWhile]

theorem decimal?_of_sign {word : List Char} {negative : Bool} {n : Nat}
    (split : sign word = (negative, decimalDigits n)) :
    decimal? word = some (integerOf (signed negative n)) := by
  have groups : grouped? Char.isDigit (decimalDigits n) = some (decimalDigits n) :=
    grouped?_digits (fun c => isDigit_of_mem_decimalDigits) Nat.toDigits_ne_nil
  have proper : whole? (decimalDigits n) = some (decimalDigits n) := by
    unfold whole?
    rw [groups]
    split
    -- Only zero starts with a zero, and it has no second digit.
    · rename_i c more digits
      have single := length_decimalDigits_of_head? (n := n) (by simp_all)
      simp_all
    · rfl
  simp [decimal?, split, proper, natural_decimalDigits]

end Digits

theorem sign_of_ne {c : Char} (minus : c ≠ '-') (plus : c ≠ '+') (text : List Char) :
    sign (c :: text) = (false, c :: text) := by
  unfold sign
  split <;> simp_all

/-- A word of digits, with a sign or without, is the integer that they stand for. -/
theorem word?_of_sign {word : List Char} {negative : Bool} {n : Nat}
    (split : sign word = (negative, decimalDigits n))
    (noLetter : ∀ c ∈ word.head?, c ≠ 't' ∧ c ≠ 'f') (noMoment : isMoment word = false)
    (noBase : based? word = none) : word? word = some (integerOf (signed negative n)) := by
  obtain ⟨first, rest, digits, -⟩ := exists_decimalDigits_eq_cons n
  have each : ∀ c ∈ first :: rest, c.isDigit = true :=
    fun c member => isDigit_of_mem_decimalDigits (digits ▸ member)
  have noReal : real? word = none := real?_of_sign each (digits ▸ split)
  have notTrue : word ≠ ['t', 'r', 'u', 'e'] := by
    rintro rfl
    simp at noLetter
  have notFalse : word ≠ ['f', 'a', 'l', 's', 'e'] := by
    rintro rfl
    simp at noLetter
  simp [word?, notTrue, notFalse, noMoment, noBase, noReal, decimal?_of_sign split]

/-- Integers that are small enough to be held. -/
def IsHeld (value : Int) : Prop :=
  -Int.pow 2 127 ≤ value ∧ value < Int.pow 2 128

theorem word?_toString {value : Int} (held : IsHeld value) :
    word? (toString value).toList = some (.integer value) := by
  have kept : integerOf value = .integer value := if_pos held
  cases value with
  | ofNat n =>
    obtain ⟨first, rest, digits, digit⟩ := exists_decimalDigits_eq_cons n
    have each : ∀ c ∈ decimalDigits n, c.isDigit = true := fun c => isDigit_of_mem_decimalDigits
    have split : sign (decimalDigits n) = (false, decimalDigits n) := by
      rw [digits]
      exact sign_of_ne (ne_of_inside digit (by decide)) (ne_of_inside digit (by decide)) rest
    have noLetter : ∀ c ∈ (decimalDigits n).head?, c ≠ 't' ∧ c ≠ 'f' := by
      intro c member
      have digit := each c (List.mem_of_mem_head? member)
      exact ⟨ne_of_inside digit (by decide), ne_of_inside digit (by decide)⟩
    rw [Int.ofNat_eq_natCast, toList_toString_ofNat,
      word?_of_sign split noLetter (isMoment_digits each) (based?_digits each)]
    exact congrArg some kept
  | negSucc n =>
    have split : sign ('-' :: decimalDigits (n + 1)) = (true, decimalDigits (n + 1)) := rfl
    rw [toList_toString_negSucc, word?_of_sign split (by simp) (isMoment_minus _) rfl]
    exact congrArg some kept

end ShellPractice.Toml
