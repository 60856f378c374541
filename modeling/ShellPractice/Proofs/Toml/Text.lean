import Mathlib.Tactic.SplitIfs
import ShellPractice.Proofs.Text.Runs
import ShellPractice.Toml.Text
import ShellPractice.Toml.Writer

/-!
# Texts in TOML, written and read

Whichever of its forms a text is written in, it is read back, up to its closing quotes.  Between
three quotes the text may itself end in quotes; the reader takes as many of the last five as belong
to it, because the text holds no run of three.
-/

namespace ShellPractice.Toml

open Text

/-- Whether a character is a quote of either kind. -/
def isQuote (c : Char) : Bool :=
  ['"', '\x27'].contains c

/-- The rest of a text with one more character in front. -/
def withChar (c : Char) (result : List Char × List Char) : List Char × List Char :=
  (c :: result.1, result.2)

section End

variable {quote c : Char} {multiline : Bool} {text rest : List Char}

theorem closing?_of_not_three (notThree : ∀ more, text ≠ quote :: quote :: quote :: more) :
    closing? quote text = none := by
  unfold closing?
  split
  · rename_i a b c more
    rw [if_neg]
    rintro ⟨rfl, rfl, rfl⟩
    exact notThree more rfl
  · rfl

theorem closing?_eq_end? (quote : Char) (text : List Char) :
    closing? quote text = end? quote true text := by
  cases text <;> rfl

theorem end?_of_ne (other : c ≠ quote) : end? quote multiline (c :: rest) = none := by
  cases multiline
  · simp [end?, other]
  · rw [← closing?_eq_end?, closing?_of_not_three (by simp [other])]

/-- At the quotes that end a text the reader stops, also at those that the text itself ends in, and
nowhere before. -/
theorem closing?_append (text : List Char) (few : (text.takeWhile (· == quote)).length ≤ 2)
    (ends : EndsRun (· == quote) rest) :
    closing? quote (text ++ quote :: quote :: quote :: rest) =
      if text.all (· == quote) then some (text, rest) else none := by
  have stops : ∀ d more, rest = d :: more → d ≠ quote := by
    rintro d more rfl
    simpa using endsRun_cons.mp ends
  match text with
  | [] => cases rest <;> simp_all [closing?]
  | [a] =>
    by_cases isQuote : a = quote
    · cases rest <;> simp_all [closing?]
    · rw [List.singleton_append, closing?_of_not_three (by simp [isQuote])]
      simp [isQuote]
  | [a, b] =>
    by_cases areQuotes : a = quote ∧ b = quote
    · simp [closing?, areQuotes]
    · rw [closing?_of_not_three (by simp_all)]
      simp_all
  | a :: b :: c :: text =>
    have notAll : ¬ (a = quote ∧ b = quote ∧ c = quote) := by
      rintro ⟨rfl, rfl, rfl⟩
      simp at few
    rw [closing?_of_not_three (by simp_all)]
    simp_all

end End

section Escapes

variable {multiline : Bool} {c mark : Char}

theorem escapedText?_backslash (multiline : Bool) (rest : List Char) :
    escapedText? multiline .plain ('\\' :: rest) = escapedText? multiline .escape rest := by
  rw [escapedText?, end?_of_ne (by decide)]
  rfl

theorem escapedText?_short (named : escaped? mark = some c) (multiline : Bool)
    (rest : List Char) :
    escapedText? multiline .plain ('\\' :: mark :: rest) =
      (escapedText? multiline .plain rest).map (withChar c) := by
  rw [escapedText?_backslash, escapedText?, named]
  rfl

theorem hexDigit?_hexChar : ∀ n < 16, Json.hexDigit? (hexChar n) = some n := by
  decide

/-- The code of a character below 256 in four digits. -/
theorem escapedText?_code (small : c.toNat < 256) (multiline : Bool) (rest : List Char) :
    escapedText? multiline .plain
        ('\\' :: 'u' :: '0' :: '0' :: hexChar (c.toNat / 16) :: hexChar (c.toNat % 16) :: rest) =
      (escapedText? multiline .plain rest).map (withChar c) := by
  have zero : Json.hexDigit? '0' = some 0 := by decide
  have high := hexDigit?_hexChar (c.toNat / 16) (by omega)
  have low := hexDigit?_hexChar (c.toNat % 16) (by omega)
  have code : 16 * (c.toNat / 16) + c.toNat % 16 = c.toNat := Nat.div_add_mod c.toNat 16
  have named : charOfCode? c.toNat = some c := by
    have valid : c.toNat.isValidChar := c.valid
    rw [charOfCode?, if_pos valid, Char.ofNat_toNat]
  rw [escapedText?_backslash]
  simp [escapedText?, escaped?, codeLength?, zero, high, low, code, named]
  rfl

theorem escapedText?_plain {rest : List Char} (goesOn : end? '"' multiline (c :: rest) = none)
    (backslash : c ≠ '\\') (stands : mayStand multiline (c :: rest) = true) :
    escapedText? multiline .plain (c :: rest) =
      (escapedText? multiline .plain rest).map (withChar c) := by
  rw [escapedText?, goesOn]
  simp only [if_neg backslash, if_pos stands]
  rfl

theorem escapedText?_of_end {text : List Char} {found : List Char × List Char}
    (stops : end? '"' multiline text = some found) :
    escapedText? multiline .plain text = some found := by
  cases text with
  | nil => cases stops
  | cons c text => rw [escapedText?, stops]

/-- A written character other than a quote is read as itself. -/
theorem escapedText?_escapedChar (quote : c ≠ '"') (multiline : Bool) (rest : List Char) :
    escapedText? multiline .plain (escapedChar c ++ rest) =
      (escapedText? multiline .plain rest).map (withChar c) := by
  unfold escapedChar
  split_ifs with backslash backspace tab formFeed carriageReturn control
  · exact escapedText?_short (by rw [backslash]; decide) multiline rest
  · exact escapedText?_short (by rw [backspace]; decide) multiline rest
  · exact escapedText?_short (by rw [tab]; decide) multiline rest
  · exact escapedText?_short (by rw [formFeed]; decide) multiline rest
  · exact escapedText?_short (by rw [carriageReturn]; decide) multiline rest
  · simp only [Bool.or_eq_true, decide_eq_true_eq, beq_iff_eq] at control
    exact escapedText?_code (by omega) multiline rest
  · refine escapedText?_plain (end?_of_ne quote) backslash ?_
    simp_all [mayStand, isVisible]

theorem escapedText?_lineChar (c : Char) (rest : List Char) :
    escapedText? false .plain (lineChar c ++ rest) =
      (escapedText? false .plain rest).map (withChar c) := by
  unfold lineChar
  split_ifs with quote lineBreak
  · exact escapedText?_short (by rw [quote]; decide) false rest
  · exact escapedText?_short (by rw [lineBreak]; decide) false rest
  · exact escapedText?_escapedChar quote false rest

theorem escapedText?_flatMap_lineChar (text rest : List Char) :
    escapedText? false .plain (text.flatMap lineChar ++ '"' :: rest) = some (text, rest) := by
  induction text with
  | nil => rfl
  | cons c text ih =>
    rw [List.flatMap_cons, List.append_assoc, escapedText?_lineChar, ih]
    rfl

end Escapes

section Lines

variable {text rest : List Char}

/-- The escape of a character starts neither like the end of a text nor like a line break. -/
theorem exists_head_escapedChar {c : Char} (quote : c ≠ '"') (lineBreak : c ≠ '\n') :
    ∃ d more, escapedChar c = d :: more ∧ d ≠ '"' ∧ d ≠ '\n' ∧ d ≠ '\r' := by
  unfold escapedChar
  split_ifs with backslash backspace tab formFeed carriageReturn control
  case neg => exact ⟨c, [], rfl, quote, lineBreak, carriageReturn⟩
  all_goals exact ⟨'\\', _, rfl, by decide⟩

/-- In a text on several lines no more than two quotes follow each other. -/
theorem length_takeWhile_linesChars (text : List Char) {run : Nat} (few : run ≤ 2) :
    ((linesChars run text).takeWhile (· == '"')).length + run ≤ 2 := by
  induction text generalizing run with
  | nil => simpa [linesChars] using few
  | cons c text ih =>
    rw [linesChars]
    split_ifs with quote full lineBreak
    · simp [few]
    · have one : run + 1 ≤ 2 := by omega
      have rest := ih one
      simp
      omega
    · simp [few]
    · obtain ⟨d, more, escaped, other, -⟩ := exists_head_escapedChar quote lineBreak
      simp [escaped, other, few]

theorem linesChars_eq_self_of_all {run : Nat}
    (quotes : (linesChars run text).all (· == '"') = true) : linesChars run text = text := by
  induction text generalizing run with
  | nil => rfl
  | cons c text ih =>
    rw [linesChars] at quotes ⊢
    split_ifs at quotes ⊢ with quote full lineBreak
    · simp at quotes
    · rw [ih (by simpa using quotes), quote]
    · simp at quotes
    · obtain ⟨d, more, escaped, other, -⟩ := exists_head_escapedChar quote lineBreak
      simp [escaped, other] at quotes

theorem escapedText?_linesChars (ends : EndsRun (· == '"') rest) (text : List Char) {run : Nat}
    (few : run ≤ 2) :
    escapedText? true .plain (linesChars run text ++ '"' :: '"' :: '"' :: rest) =
      some (text, rest) := by
  induction text generalizing run with
  | nil =>
    have closes := closing?_append [] (by simp) ends
    rw [closing?_eq_end?] at closes
    exact escapedText?_of_end closes
  | cons c text ih =>
    have few' := Nat.le_of_add_right_le (length_takeWhile_linesChars (c :: text) few)
    have closes := closing?_append _ few' ends
    rw [closing?_eq_end?] at closes
    by_cases quotes : (linesChars run (c :: text)).all (· == '"') = true
    -- When only quotes are left, the reader takes them together with the closing ones.
    · rw [if_pos quotes, linesChars_eq_self_of_all quotes] at closes
      rw [linesChars_eq_self_of_all quotes]
      exact escapedText?_of_end closes
    rw [if_neg quotes] at closes
    rw [linesChars] at closes ⊢
    split_ifs at closes ⊢ with quote full lineBreak
    · have named : escaped? '"' = some c := by
        rw [quote]
        decide
      rw [List.cons_append, List.cons_append, escapedText?_short named, ih (Nat.zero_le 2)]
      rfl
    · rw [List.cons_append] at closes ⊢
      rw [escapedText?_plain closes (by decide) rfl, ih (by omega), quote]
      rfl
    · rw [List.cons_append] at closes ⊢
      rw [escapedText?_plain closes (by decide) rfl, ih (Nat.zero_le 2), lineBreak]
      rfl
    · rw [List.append_assoc, escapedText?_escapedChar quote, ih (Nat.zero_le 2)]
      rfl

end Lines

section Literal

variable {text rest : List Char}

theorem literalText?_plain {multiline : Bool} {c : Char} {rest : List Char}
    (goesOn : end? '\x27' multiline (c :: rest) = none)
    (stands : mayStand multiline (c :: rest) = true) :
    literalText? multiline (c :: rest) = (literalText? multiline rest).map (withChar c) := by
  rw [literalText?, goesOn]
  simp only [if_pos stands]
  rfl

theorem literalText?_of_end {multiline : Bool} {found : List Char × List Char}
    (stops : end? '\x27' multiline text = some found) :
    literalText? multiline text = some found := by
  cases text with
  | nil => cases stops
  | cons c text => rw [literalText?, stops]

theorem isVisible_of_needsEscape {c : Char} (raw : needsEscape c = false) (line : c ≠ '\n') :
    isVisible c = true := by
  by_cases tab : c = '\t'
  · simp [isVisible, tab]
  · simpa [needsEscape, isVisible, line, tab] using raw

theorem mayStand_true {c : Char} (raw : needsEscape c = false) (rest : List Char) :
    mayStand true (c :: rest) = true := by
  by_cases line : c = '\n'
  · rw [line]
    rfl
  · simp [mayStand, isVisible_of_needsEscape raw line]

theorem literalText?_line (raw : ∀ c ∈ text, needsEscape c = false)
    (noQuote : '\x27' ∉ text) (noBreak : '\n' ∉ text) (rest : List Char) :
    literalText? false (text ++ '\x27' :: rest) = some (text, rest) := by
  induction text with
  | nil => rfl
  | cons c text ih =>
    simp only [List.mem_cons, not_or, forall_eq_or_imp] at raw noQuote noBreak
    have visible := isVisible_of_needsEscape raw.1 (Ne.symm noBreak.1)
    rw [List.cons_append, literalText?_plain (end?_of_ne (Ne.symm noQuote.1))
      (by simp [mayStand, visible]), ih raw.2 noQuote.2 noBreak.2]
    rfl

theorem length_takeWhile_add_le_longestRun (quote : Char) (text : List Char) (run : Nat) :
    (text.takeWhile (· == quote)).length + run ≤ longestRun quote run text := by
  induction text generalizing run with
  | nil => simp [longestRun]
  | cons c text ih =>
    rw [longestRun]
    split_ifs with same
    · have more := ih (run + 1)
      simp [same]
      omega
    · have none : (c :: text).takeWhile (· == quote) = [] := by simp [same]
      rw [none, List.length_nil, Nat.zero_add]
      exact Nat.le_max_left _ _

theorem longestRun_pos {quote : Char} (member : quote ∈ text) (run : Nat) :
    0 < longestRun quote run text := by
  induction text generalizing run with
  | nil => cases member
  | cons c text ih =>
    rw [longestRun]
    split_ifs with same
    · have longest := length_takeWhile_add_le_longestRun quote text (run + 1)
      omega
    · have later := (List.mem_cons.mp member).resolve_left (Ne.symm same)
      exact Nat.lt_of_lt_of_le (ih later 0) (Nat.le_max_right _ _)

theorem longestRun_le_of_cons {quote c : Char} {run most : Nat}
    (few : longestRun quote run (c :: text) ≤ most) :
    ∃ run', longestRun quote run' text ≤ most := by
  rw [longestRun] at few
  split_ifs at few with same
  · exact ⟨run + 1, few⟩
  · exact ⟨0, (Nat.max_le.mp few).2⟩

/-- Between single quotes the text goes on through runs of up to two of them. -/
theorem literalText?_lines (ends : EndsRun (· == '\x27') rest)
    (raw : ∀ c ∈ text, needsEscape c = false) {run : Nat}
    (few : longestRun '\x27' run text ≤ 2) :
    literalText? true (text ++ '\x27' :: '\x27' :: '\x27' :: rest) = some (text, rest) := by
  induction text generalizing run with
  | nil =>
    have closes := closing?_append [] (by simp) ends
    rw [closing?_eq_end?] at closes
    exact literalText?_of_end closes
  | cons c text ih =>
    have few' := Nat.le_trans (length_takeWhile_add_le_longestRun '\x27' (c :: text) run) few
    have closes := closing?_append _ (Nat.le_of_add_right_le few') ends
    rw [closing?_eq_end?] at closes
    by_cases quotes : (c :: text).all (· == '\x27') = true
    · rw [if_pos quotes] at closes
      exact literalText?_of_end closes
    rw [if_neg quotes] at closes
    obtain ⟨run', later⟩ := longestRun_le_of_cons few
    rw [List.cons_append] at closes ⊢
    rw [literalText?_plain closes (mayStand_true (raw c List.mem_cons_self) _),
      ih (fun d member => raw d (List.mem_cons_of_mem c member)) later]
    rfl

end Literal

/-- Between single quotes there are only texts that can stand there as they are. -/
theorem TextForm.raw_of_literal {text : List Char} (form : TextForm.of text = .literal) :
    (∀ c ∈ text, needsEscape c = false) ∧ '\x27' ∉ text ∧ '\n' ∉ text := by
  have conditions : (text.any needsEscape = false ∧ longestRun '\x27' 0 text = 0) ∧
      text.contains '\n' = false := by
    simp only [TextForm.of] at form
    split_ifs at form with basic literal
    simpa using literal
  obtain ⟨⟨raw, noRun⟩, noBreak⟩ := conditions
  refine ⟨by simpa using raw, fun member => ?_, by simpa using noBreak⟩
  have positive := longestRun_pos member 0
  omega

theorem TextForm.raw_of_literalLines {text : List Char} (form : TextForm.of text = .literalLines) :
    (∀ c ∈ text, needsEscape c = false) ∧ longestRun '\x27' 0 text ≤ 2 := by
  simp only [TextForm.of] at form
  split_ifs at form with basic literal basicLines literalLines
  simpa using literalLines

section Quoted

variable {text rest : List Char}

theorem dropLineBreak_of_ne {c : Char} (lineFeed : c ≠ '\n') (carriageReturn : c ≠ '\r')
    (rest : List Char) : dropLineBreak (c :: rest) = c :: rest := by
  unfold dropLineBreak
  split <;> simp_all

theorem text?_of_not_three (double : ∀ more, text ≠ '"' :: '"' :: '"' :: more)
    (single : ∀ more, text ≠ '\x27' :: '\x27' :: '\x27' :: more) :
    text? text = lineText? text := by
  unfold text?
  split <;> simp_all

theorem exists_head_lineChar (c : Char) : ∃ d more, lineChar c = d :: more ∧ d ≠ '"' := by
  unfold lineChar
  split_ifs with quote lineBreak
  · exact ⟨'\\', _, rfl, by decide⟩
  · exact ⟨'\\', _, rfl, by decide⟩
  · obtain ⟨d, more, escaped, other, -⟩ := exists_head_escapedChar quote lineBreak
    exact ⟨d, more, escaped, other⟩

theorem text?_basic (ends : EndsRun isQuote rest) (text : List Char) :
    text? ('"' :: text.flatMap lineChar ++ '"' :: rest) = some (String.ofList text, rest) := by
  rw [text?_of_not_three, List.cons_append, lineText?, escapedText?_flatMap_lineChar]
  · rfl
  · intro more three
    cases text with
    | nil =>
      obtain rfl : rest = '"' :: more := by simpa using three
      exact absurd (endsRun_cons.mp ends) (by decide)
    | cons c text =>
      obtain ⟨d, escape, written, other⟩ := exists_head_lineChar c
      simp [written, other] at three
  · simp

theorem text?_literal (ends : EndsRun isQuote rest) (raw : ∀ c ∈ text, needsEscape c = false)
    (noQuote : '\x27' ∉ text) (noBreak : '\n' ∉ text) :
    text? ('\x27' :: text ++ '\x27' :: rest) = some (String.ofList text, rest) := by
  rw [text?_of_not_three, List.cons_append, lineText?, literalText?_line raw noQuote noBreak]
  · rfl
  · simp
  · intro more three
    cases text with
    | nil =>
      obtain rfl : rest = '\x27' :: more := by simpa using three
      exact absurd (endsRun_cons.mp ends) (by decide)
    | cons c text => simp_all

/-- The line break after the opening quotes is dropped, and no other. -/
theorem dropLineBreak_start (text : List Char) {body : List Char}
    (line : '\n' ∉ text → dropLineBreak body = body) :
    dropLineBreak ((if text.contains '\n' then ['\n'] else []) ++ body) = body := by
  split_ifs with breaks
  · rfl
  · exact line (by simpa using breaks)

theorem dropLineBreak_linesChars (noBreak : '\n' ∉ text) (rest : List Char) :
    dropLineBreak (linesChars 0 text ++ '"' :: rest) = linesChars 0 text ++ '"' :: rest := by
  cases text with
  | nil => rfl
  | cons c text =>
    have line : c ≠ '\n' := by
      rintro rfl
      simp at noBreak
    rw [linesChars]
    split_ifs with quote full
    · exact absurd full (by decide)
    · rfl
    · obtain ⟨d, more, escaped, -, lineFeed, carriageReturn⟩ := exists_head_escapedChar quote line
      rw [escaped, List.cons_append, List.cons_append]
      exact dropLineBreak_of_ne lineFeed carriageReturn _

theorem dropLineBreak_raw (raw : ∀ c ∈ text, needsEscape c = false) (noBreak : '\n' ∉ text)
    (rest : List Char) :
    dropLineBreak (text ++ '\x27' :: rest) = text ++ '\x27' :: rest := by
  cases text with
  | nil => rfl
  | cons c text =>
    simp only [List.mem_cons, not_or, forall_eq_or_imp] at raw noBreak
    refine dropLineBreak_of_ne (Ne.symm noBreak.1) ?_ _
    rintro rfl
    exact absurd raw.1 (by decide)

theorem text?_basicLines (ends : EndsRun isQuote rest) (text : List Char) :
    text? ('"' :: '"' :: '"' :: ((if text.contains '\n' then ['\n'] else []) ++
      (linesChars 0 text ++ '"' :: '"' :: '"' :: rest))) = some (String.ofList text, rest) := by
  have double : EndsRun (· == '"') rest := ends.mono (by simp [isQuote])
  have body := dropLineBreak_start text fun noBreak => dropLineBreak_linesChars noBreak
    ('"' :: '"' :: rest)
  rw [text?, body, escapedText?_linesChars double text (Nat.zero_le 2)]
  rfl

theorem text?_literalLines (ends : EndsRun isQuote rest)
    (raw : ∀ c ∈ text, needsEscape c = false) (few : longestRun '\x27' 0 text ≤ 2) :
    text? ('\x27' :: '\x27' :: '\x27' :: ((if text.contains '\n' then ['\n'] else []) ++
      (text ++ '\x27' :: '\x27' :: '\x27' :: rest))) = some (String.ofList text, rest) := by
  have single : EndsRun (· == '\x27') rest := ends.mono (by simp [isQuote])
  have body := dropLineBreak_start text fun noBreak => dropLineBreak_raw raw noBreak
    ('\x27' :: '\x27' :: rest)
  rw [text?, body, literalText?_lines single raw few]
  rfl

/-- A text is read back from the form in which it is written. -/
theorem text?_quotedChars (ends : EndsRun isQuote rest) (text : List Char) :
    text? (quotedChars text ++ rest) = some (String.ofList text, rest) := by
  rw [quotedChars]
  cases form : TextForm.of text with
  | basic => simpa using text?_basic ends text
  | literal =>
    obtain ⟨raw, noQuote, noBreak⟩ := TextForm.raw_of_literal form
    simpa using text?_literal ends raw noQuote noBreak
  | basicLines => simpa using text?_basicLines ends text
  | literalLines =>
    obtain ⟨raw, few⟩ := TextForm.raw_of_literalLines form
    simpa using text?_literalLines ends raw few

end Quoted

end ShellPractice.Toml
