import ShellPractice.Proofs.Toml.Scalar
import ShellPractice.Proofs.Toml.Text
import ShellPractice.Toml.Reader

/-!
# Values in TOML, written and read

A text, an integer, a truth value, or an array of these is read back from its text in front of
whatever ends a value.  The items of an array stand on lines of their own from two items on.
-/

namespace ShellPractice.Toml

open Text

/-- The characters that end a value: the end of a line, and the marks after an item. -/
def valueEnds : List Char :=
  ['\n', ',', ']']

/-- Whether a value may go on with a character. -/
def continuesValue (c : Char) : Bool :=
  !valueEnds.contains c

theorem continuesValue_of_inside {inside : Char → Bool} {c : Char} (within : inside c = true)
    (outside : valueEnds.all (fun mark => !inside mark) = true) : continuesValue c = true := by
  rw [continuesValue, contains_eq_false_of_inside within outside]
  rfl

/-- Whether a character may stand between the parts of an array, or starts a comment there. -/
def isGap (c : Char) : Bool :=
  ['\n', '\r', ' ', '\t', '#'].contains c

/-- A text that stands for a document, whatever ends the value after it.  So many levels of arrays
may be opened on the way. -/
structure Denotes (depth : Nat) (chars : List Char) (document : Document) : Prop where
  starts : ∃ c more, chars = c :: more ∧ isGap c = false ∧ c ≠ ']'
  reads : ∀ fuel levels rest, chars.length < fuel → depth ≤ levels →
    EndsRun continuesValue rest → value? fuel levels (chars ++ rest) = some (document, rest)

theorem atLineBreak_of_ne {c : Char} (lineFeed : c ≠ '\n') (carriageReturn : c ≠ '\r')
    (rest : List Char) : atLineBreak (c :: rest) = false := by
  unfold atLineBreak
  split <;> simp_all

theorem skipGap_of_not_gap {c : Char} (solid : isGap c = false) (rest : List Char) :
    skipGap false (c :: rest) = c :: rest := by
  simp only [isGap, List.contains_cons, Bool.or_eq_false_iff, beq_eq_false_iff_ne] at solid
  obtain ⟨lineFeed, carriageReturn, space, tab, comment, -⟩ := solid
  simp [skipGap, atLineBreak_of_ne lineFeed carriageReturn, isBlank, space, tab, comment]

theorem skipBlanks_of_not_gap {c : Char} (solid : isGap c = false) (rest : List Char) :
    skipBlanks (c :: rest) = c :: rest := by
  simp only [isGap, List.contains_cons, Bool.or_eq_false_iff] at solid
  obtain ⟨-, -, space, tab, -⟩ := solid
  exact dropWhile_of_endsRun (endsRun_cons.mpr (by simp only [isBlank, space, tab, Bool.or_self]))

theorem exists_head_quotedChars (text : List Char) :
    ∃ c more, quotedChars text = c :: more ∧ isQuote c = true := by
  rw [quotedChars]
  cases TextForm.of text <;> exact ⟨_, _, rfl, rfl⟩

theorem value?_quote {c : Char} (quote : isQuote c = true) (fuel levels : Nat)
    (rest : List Char) :
    value? (fuel + 1) levels (c :: rest) =
      (text? (c :: rest)).map fun result => (.text result.1, result.2) := by
  simp only [isQuote, List.contains_cons, List.contains_nil, Bool.or_false, Bool.or_eq_true,
    beq_iff_eq] at quote
  rcases quote with rfl | rfl <;> simp [value?]

theorem denotes_quotedChars (text : String) :
    Denotes 0 (quotedChars text.toList) (.text text) := by
  obtain ⟨c, more, quoted, quote⟩ := exists_head_quotedChars text.toList
  refine ⟨⟨c, more, quoted, contains_eq_false_of_inside quote (by decide),
    ne_of_inside quote (by decide)⟩, ?_⟩
  rintro (_ | fuel) levels rest enough - ends
  · cases enough
  have ends : EndsRun isQuote rest :=
    ends.mono fun c quote => continuesValue_of_inside quote (by decide)
  have read := text?_quotedChars ends text.toList
  rw [quoted, List.cons_append] at read ⊢
  rw [value?_quote quote, read, String.ofList_toList]
  rfl

/-- A value that starts with neither quotes nor brackets is a word. -/
theorem value?_word {c : Char} (solid : isWordChar c = true) (noQuote : isQuote c = false)
    (fuel levels : Nat) (rest : List Char) :
    value? (fuel + 1) levels (c :: rest) =
      (word? (splitWord (c :: rest)).1).map (·, (splitWord (c :: rest)).2) := by
  have bracket : c ≠ '[' := ne_of_inside solid (by decide)
  have brace : c ≠ '\x7b' := ne_of_inside solid (by decide)
  simp only [isQuote, List.contains_cons, Bool.or_eq_false_iff, beq_eq_false_iff_ne] at noQuote
  rw [value?]
  all_goals simp [bracket, brace, noQuote]

/-- A word that is read as a document stands for it. -/
theorem denotes_word {c : Char} {word : List Char} {document : Document}
    (read : word? (c :: word) = some document)
    (inside : ∀ d ∈ c :: word, isWordChar d = true) (noQuote : isQuote c = false) :
    Denotes 0 (c :: word) document := by
  have solid := inside c List.mem_cons_self
  refine ⟨⟨c, word, rfl, contains_eq_false_of_inside solid (by decide),
    ne_of_inside solid (by decide)⟩, ?_⟩
  rintro (_ | fuel) levels rest enough - ends
  · cases enough
  have after := splitWord_append inside
    (ends.mono fun c solid => continuesValue_of_inside solid (by decide))
    (ends.mono fun c blank => continuesValue_of_inside blank (by decide))
  rw [List.cons_append] at after ⊢
  rw [value?_word solid noQuote, after]
  simp only [read, Option.map_some]

theorem denotes_integer {value : Int} (held : IsHeld value) :
    Denotes 0 (toString value).toList (.integer value) := by
  have read := word?_toString held
  cases value with
  | ofNat n =>
    obtain ⟨first, rest, digits, digit⟩ := Json.exists_decimalDigits_eq_cons n
    have inside : ∀ c ∈ first :: rest, isWordChar c = true := fun c member =>
      isWordChar_of_isDigit (Json.isDigit_of_mem_decimalDigits (digits ▸ member))
    have noQuote : isQuote first = false := contains_eq_false_of_inside digit (by decide)
    rw [Int.ofNat_eq_natCast, Json.toList_toString_ofNat, digits] at read ⊢
    exact denotes_word read inside noQuote
  | negSucc n =>
    have inside : ∀ c ∈ '-' :: Json.decimalDigits (n + 1), isWordChar c = true := by
      intro c member
      rcases List.mem_cons.mp member with rfl | member
      · rfl
      · exact isWordChar_of_isDigit (Json.isDigit_of_mem_decimalDigits member)
    rw [Json.toList_toString_negSucc] at read ⊢
    exact denotes_word read inside rfl

theorem denotes_bool (value : Bool) : Denotes 0 (toString value).toList (.bool value) := by
  cases value with
  | false =>
    have inside : ['f', 'a', 'l', 's', 'e'].all isWordChar = true := by decide
    exact denotes_word rfl (List.all_eq_true.mp inside) rfl
  | true =>
    have inside : ['t', 'r', 'u', 'e'].all isWordChar = true := by decide
    exact denotes_word rfl (List.all_eq_true.mp inside) rfl

/-- Texts, truth values and integers that can be held. -/
inductive IsScalar : Document → Prop where
  | text (value : String) : IsScalar (.text value)
  | bool (value : Bool) : IsScalar (.bool value)
  | integer {value : Int} (held : IsHeld value) : IsScalar (.integer value)

/-- Scalars, and arrays of them. -/
inductive IsWritable : Document → Prop where
  | scalar {document : Document} (scalar : IsScalar document) : IsWritable document
  | array {items : List Document} (each : ∀ item ∈ items, IsScalar item) :
    IsWritable (.array items)

theorem exists_scalarChars? {document : Document} (scalar : IsScalar document) :
    ∃ chars, scalarChars? document = some chars ∧ Denotes 0 chars document := by
  cases scalar with
  | text value => exact ⟨_, rfl, denotes_quotedChars value⟩
  | bool value => exact ⟨_, rfl, denotes_bool value⟩
  | integer held => exact ⟨_, rfl, denotes_integer held⟩

section Items

variable {chars rest : List Char} {document : Document} {fuel levels : Nat}

/-- What follows an opening bracket and a gap are items. -/
theorem value?_array (fuel levels : Nat) (text : List Char) :
    value? (fuel + 1) (levels + 1) ('[' :: text) =
      (items? fuel levels (skipGap false text)).map fun result => (.array result.1, result.2) := by
  rw [value?]

/-- A last item is read up to the closing bracket. -/
theorem items?_last (item : Denotes 0 chars document) (enough : chars.length < fuel)
    (levels : Nat) (rest : List Char) :
    items? (fuel + 1) levels (chars ++ ']' :: rest) = some ([document], rest) := by
  have read := item.reads fuel levels (']' :: rest) enough (Nat.zero_le _)
    (endsRun_cons.mpr (by decide))
  obtain ⟨c, more, rfl, -, notEnd⟩ := item.starts
  have closes := skipGap_of_not_gap (by decide : isGap ']' = false) rest
  rw [List.cons_append] at read ⊢
  rw [items?]
  · simp [read, closes]
  · simp [notEnd]

theorem items?_more (item : Denotes 0 chars document) (enough : chars.length < fuel)
    (levels : Nat) (text : List Char) :
    items? (fuel + 1) levels (chars ++ ',' :: text) =
      (items? fuel levels (skipGap false text)).map fun result =>
        (document :: result.1, result.2) := by
  have read := item.reads fuel levels (',' :: text) enough (Nat.zero_le _)
    (endsRun_cons.mpr (by decide))
  obtain ⟨c, more, rfl, -, notEnd⟩ := item.starts
  have goesOn := skipGap_of_not_gap (by decide : isGap ',' = false) text
  rw [List.cons_append] at read ⊢
  rw [items?]
  · simp [read, goesOn]
    cases items? fuel levels (skipGap false text) <;> rfl
  · simp [notEnd]

/-- An item on a line of its own. -/
def itemLine (item : List Char) : List Char :=
  [' ', ' ', ' ', ' '] ++ item ++ [',', '\n']

theorem items?_lines {texts : List (List Char)} {documents : List Document}
    (each : List.Forall₂ (Denotes 0) texts documents)
    (enough : (texts.flatMap itemLine).length < fuel) (levels : Nat) (rest : List Char) :
    items? fuel levels (skipGap false (texts.flatMap itemLine ++ ']' :: rest)) =
      some (documents, rest) := by
  induction each generalizing fuel with
  | nil =>
    obtain _ | fuel := fuel
    · cases enough
    rw [List.flatMap_nil, List.nil_append, skipGap_of_not_gap (by decide), items?]
  | @cons item document texts documents denotes each ih =>
    obtain _ | fuel := fuel
    · cases enough
    -- The marks of a line are fuel for the step from its item to the next one.
    simp only [List.flatMap_cons, itemLine, List.length_append, List.length_cons] at enough
    have line : skipGap false ((item :: texts).flatMap itemLine ++ ']' :: rest) =
        item ++ ',' :: '\n' :: (texts.flatMap itemLine ++ ']' :: rest) := by
      obtain ⟨c, more, rfl, solid, -⟩ := denotes.starts
      have start := skipGap_of_not_gap solid
        (more ++ ',' :: '\n' :: (texts.flatMap itemLine ++ ']' :: rest))
      simpa [itemLine, skipGap, atLineBreak, isBlank] using start
    have newline : skipGap false ('\n' :: (texts.flatMap itemLine ++ ']' :: rest)) =
        skipGap false (texts.flatMap itemLine ++ ']' :: rest) := rfl
    rw [line, items?_more denotes (by omega), newline, ih (by omega)]
    rfl

end Items

/-- The text of an array, given those of its items. -/
def arrayChars : List (List Char) → List Char
  | [] => ['[', ']']
  | [item] => '[' :: item ++ [']']
  | items => '[' :: '\n' :: items.flatMap itemLine ++ [']']

theorem items?_arrayChars {texts : List (List Char)} {documents : List Document}
    (each : List.Forall₂ (Denotes 0) texts documents) {fuel : Nat}
    (enough : (arrayChars texts).length ≤ fuel) (levels : Nat) (rest : List Char) :
    ∃ inner, arrayChars texts ++ rest = '[' :: inner ∧
      items? fuel levels (skipGap false inner) = some (documents, rest) := by
  cases each with
  | nil =>
    obtain _ | fuel := fuel
    · cases enough
    refine ⟨']' :: rest, rfl, ?_⟩
    rw [skipGap_of_not_gap (by decide), items?]
  | @cons item document texts documents first each =>
    cases each with
    | nil =>
      obtain _ | fuel := fuel
      · cases enough
      simp only [arrayChars, List.length_append, List.length_cons, List.length_nil] at enough
      refine ⟨item ++ ']' :: rest, by simp [arrayChars], ?_⟩
      have read : items? (fuel + 1) levels (item ++ ']' :: rest) = _ :=
        items?_last first (by omega) levels rest
      obtain ⟨c, more, rfl, solid, -⟩ := first.starts
      rw [List.cons_append] at read ⊢
      rw [skipGap_of_not_gap solid, read]
    | @cons next other texts documents second each =>
      refine ⟨'\n' :: ((item :: next :: texts).flatMap itemLine ++ ']' :: rest),
        by simp [arrayChars], ?_⟩
      simp only [arrayChars, List.length_append, List.length_cons, List.length_nil] at enough
      exact items?_lines (.cons first (.cons second each)) (by omega) levels rest

theorem denotes_arrayChars {texts : List (List Char)} {documents : List Document}
    (each : List.Forall₂ (Denotes 0) texts documents) :
    Denotes 1 (arrayChars texts) (.array documents) := by
  refine ⟨?_, ?_⟩
  · rcases texts with _ | ⟨item, _ | ⟨next, texts⟩⟩ <;>
      exact ⟨'[', _, rfl, by decide, by decide⟩
  · rintro (_ | fuel) (_ | levels) rest enough deep ends
    · cases enough
    · cases enough
    · cases deep
    obtain ⟨inner, written, read⟩ := items?_arrayChars each (Nat.le_of_lt_succ enough) levels rest
    rw [written, value?_array, read]
    rfl

/-- If every item is written in some way, so is the list. -/
theorem exists_mapM_eq_some {α β : Type} {write : α → Option β} {related : β → α → Prop}
    {items : List α} (each : ∀ item ∈ items, ∃ text, write item = some text ∧ related text item) :
    ∃ texts, items.mapM write = some texts ∧ List.Forall₂ related texts items := by
  induction items with
  | nil => exact ⟨[], rfl, .nil⟩
  | cons item items ih =>
    obtain ⟨text, written, first⟩ := each item List.mem_cons_self
    obtain ⟨texts, rest, later⟩ := ih fun other member => each other (List.mem_cons_of_mem _ member)
    exact ⟨text :: texts, by simp [written, rest], .cons first later⟩

/-- Every writable value has a text, which stands for it. -/
theorem exists_valueChars? {document : Document} (writable : IsWritable document) :
    ∃ chars, valueChars? document = some chars ∧ Denotes 1 chars document := by
  cases writable with
  | scalar scalar =>
    obtain ⟨chars, written, denotes⟩ := exists_scalarChars? scalar
    refine ⟨chars, ?_, denotes.starts, fun fuel levels rest enough _ => ?_⟩
    · cases scalar <;> exact written
    · exact denotes.reads fuel levels rest enough (Nat.zero_le _)
  | @array items each =>
    obtain ⟨texts, written, denotes⟩ :=
      exists_mapM_eq_some fun item member => exists_scalarChars? (each item member)
    refine ⟨arrayChars texts, ?_, denotes_arrayChars denotes⟩
    rw [valueChars?, written]
    rfl

end ShellPractice.Toml
