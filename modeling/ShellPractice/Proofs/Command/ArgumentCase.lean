import ShellPractice.Proofs.Command.Grammar

/-!
# The two argument cases

Lower case is taken of the whole line before it is read.  The blanks of the line and its keyword are
the same afterwards, so the command is the one that is typed, with its arguments in lower case.  The
only exception is a line whose keyword has the sign for the unit Kelvin as its letter `k`: the lower
case of the sign is the letter itself.
-/

namespace ShellPractice

namespace Text

theorem plainLetter_eq_iff {c letter : Char} (other : letter ≠ 'k')
    (notKelvin : letter ≠ '\u212A') : plainLetter c = letter ↔ c.toLower = letter := by
  by_cases kelvin : c = '\u212A'
  · subst kelvin
    have lowered : Char.toLower '\u212A' = '\u212A' := by decide
    rw [plainLetter, if_pos rfl, lowered]
    exact ⟨fun same => absurd same.symm other, fun same => absurd same.symm notKelvin⟩
  · rw [plainLetter_of_ne kelvin]

theorem toLower_eq_kelvin_iff {c : Char} : c.toLower = '\u212A' ↔ c = '\u212A' := by
  rw [← Char.toNat_inj, ← Char.toNat_inj, toNat_toLower]
  have code : '\u212A'.toNat = 0x212A := rfl
  split <;> omega

theorem plainLetter_eq_k_iff {c : Char} :
    plainLetter c = 'k' ↔ c.toLower = 'k' ∨ c.toLower = '\u212A' := by
  rw [toLower_eq_kelvin_iff]
  by_cases kelvin : c = '\u212A'
  · subst kelvin
    decide
  · rw [plainLetter_of_ne kelvin]
    simp [kelvin]

/-- The word for making a directory with the sign for the unit Kelvin as its letter `k`. -/
def kelvinKeyword : String :=
  "m\u212Adir"

theorem sameLetters_lowerCase_makeDirectory_iff (text : String) :
    sameLetters (lowerCase text) "mkdir" = true ↔
      sameLetters text "mkdir" = true ∨ sameLetters text kelvinKeyword = true := by
  have letters : foldLetters "mkdir" = ['m', 'k', 'd', 'i', 'r'] := by decide
  have signed : foldLetters kelvinKeyword = ['m', '\u212A', 'd', 'i', 'r'] := by decide
  have ascii : ∀ c ∈ foldLetters "mkdir", c.toNat < 128 := by
    rw [letters]
    simp
  rw [sameLetters_lowerCase_iff ascii, sameLetters_iff, sameLetters_iff, letters, signed,
    foldLetters]
  generalize text.toList = chars
  -- Only the second letter has two spellings.
  rcases chars with _ | ⟨a, _ | ⟨b, _ | ⟨c, _ | ⟨d, _ | ⟨e, _ | ⟨f, rest⟩⟩⟩⟩⟩⟩ <;>
    simp [plainLetter_eq_iff, plainLetter_eq_k_iff, and_or_left, or_and_right]

/-- What follows a keyword is lowered with the line, if lower case makes no other word the
keyword. -/
theorem afterKeyword?_lowerCase {line keyword : String} (ascii : IsAscii keyword)
    (solid : IsSolid keyword.toList)
    (letters : ∀ head rest, line = head ++ " " ++ rest →
      sameLetters (lowerCase head) keyword = sameLetters head keyword) :
    afterKeyword? (lowerCase line) keyword = (afterKeyword? line keyword).map lowerCase := by
  ext argument
  rw [Option.map_eq_some_iff, afterKeyword?_eq_some_iff ascii]
  constructor
  · rintro ⟨head, rest, whole, same, rfl⟩
    obtain ⟨front, back, split, rfl, rfl⟩ :=
      exists_of_lowerCase_eq (isSolid_of_sameLetters same solid) whole
    rw [letters front back split] at same
    refine ⟨trim back, ?_, (trim_lowerCase back).symm⟩
    exact (afterKeyword?_eq_some_iff ascii).mpr ⟨front, back, split, same, rfl⟩
  · rintro ⟨typed, found, rfl⟩
    obtain ⟨head, rest, split, same, rfl⟩ := (afterKeyword?_eq_some_iff ascii).mp found
    refine ⟨lowerCase head, lowerCase rest, ?_, ?_, trim_lowerCase rest⟩
    · rw [split, lowerCase_append_space]
    · rw [letters head rest split]
      exact same

end Text

/-- Lower case makes no word the keyword of a verb, except one with the Kelvin sign. -/
theorem Verb.sameLetters_lowerCase_keyword {head : String}
    (usual : Text.sameLetters head Text.kelvinKeyword = false) (verb : Verb) :
    Text.sameLetters (Text.lowerCase head) verb.keyword =
      Text.sameLetters head verb.keyword := by
  by_cases other : verb = .single .makeDirectory
  · subst other
    have spelled := Text.sameLetters_lowerCase_makeDirectory_iff head
    rw [usual] at spelled
    change Text.sameLetters (Text.lowerCase head) "mkdir" = Text.sameLetters head "mkdir"
    rw [Bool.eq_iff_iff, spelled]
    simp
  · exact Text.sameLetters_lowerCase (foldLetters_keyword_of_ne other) head

namespace Command

/-- A command with each of its arguments changed. -/
def mapArguments (change : String → String) : Command → Command
  | plain verb => plain verb
  | single verb argument => single verb (change argument)
  | pair verb source destination => pair verb (change source) (change destination)
  | unknown line => unknown line

/-- A trimmed line opens with the word for making a directory, written with the Kelvin sign, before
some rest. -/
def HasKelvinKeyword (line rest : String) : Prop :=
  ∃ head, line = head ++ " " ++ rest ∧ Text.sameLetters head Text.kelvinKeyword = true

section Usual

variable {line : String} (usual : ∀ rest, ¬ HasKelvinKeyword line rest)

include usual

theorem sameLetters_lowerCase_head {head rest : String} (whole : line = head ++ " " ++ rest)
    (verb : Verb) : Text.sameLetters (Text.lowerCase head) verb.keyword =
      Text.sameLetters head verb.keyword := by
  apply Verb.sameLetters_lowerCase_keyword
  rw [← Bool.not_eq_true]
  intro kelvin
  exact usual rest ⟨head, whole, kelvin⟩

theorem afterKeyword?_lowerCase_keyword (verb : Verb) :
    Text.afterKeyword? (Text.lowerCase line) verb.keyword =
      (Text.afterKeyword? line verb.keyword).map Text.lowerCase := by
  apply Text.afterKeyword?_lowerCase verb.isAscii_keyword verb.isSolid_keyword
  intro head rest whole
  exact sameLetters_lowerCase_head usual whole verb

theorem singleOf?_lowerCase (verb : SingleVerb) :
    singleOf? (Text.lowerCase line) verb =
      (singleOf? line verb).map (mapArguments Text.lowerCase) := by
  have lowered := afterKeyword?_lowerCase_keyword usual (.single verb)
  rw [Verb.keyword] at lowered
  rw [singleOf?, singleOf?, lowered, Option.map_map, Option.map_map]
  rfl

theorem pairOf?_lowerCase (verb : PairVerb) :
    pairOf? (Text.lowerCase line) verb =
      (pairOf? line verb).map (mapArguments Text.lowerCase) := by
  have lowered := afterKeyword?_lowerCase_keyword usual (.pair verb)
  rw [Verb.keyword] at lowered
  rw [pairOf?, pairOf?, lowered]
  cases Text.afterKeyword? line verb.keyword with
  | none => rfl
  | some argument =>
    rw [Option.map_some, Option.map_some, Option.map_some, Text.words_lowerCase]
    rcases Text.words argument with _ | ⟨source, _ | ⟨destination, more⟩⟩ <;> rfl

/-- Reading by the rule for a verb comes to the same before and after the line is lowered. -/
theorem read?_lowerCase (verb : Verb) :
    verb.read? (Text.lowerCase line) = (verb.read? line).map (mapArguments Text.lowerCase) := by
  cases verb with
  | plain verb =>
    rw [Verb.read?, Verb.read?, Text.sameLetters_lowerCase (Verb.foldLetters_keyword_plain verb)]
    cases Text.sameLetters line verb.keyword <;> rfl
  | single verb => exact singleOf?_lowerCase usual verb
  | pair verb => exact pairOf?_lowerCase usual verb

theorem ofSignificant?_lowerCase :
    ofSignificant? (Text.lowerCase line) =
      (ofSignificant? line).map (mapArguments Text.lowerCase) := by
  have rules : Verb.read? (Text.lowerCase line) =
      Option.map (mapArguments Text.lowerCase) ∘ Verb.read? line := by
    funext verb
    exact read?_lowerCase usual verb
  rw [ofSignificant?_eq_findSome?, ofSignificant?_eq_findSome?, rules, List.map_findSome?]

end Usual

theorem spelledBy_lowerCase_of_kelvin {line rest : String} (kelvin : HasKelvinKeyword line rest) :
    SpelledBy (Text.lowerCase line)
      (single .makeDirectory (Text.lowerCase (Text.trim rest))) := by
  obtain ⟨head, rfl, same⟩ := kelvin
  have lowered : Text.sameLetters (Text.lowerCase head) "mkdir" = true :=
    (Text.sameLetters_lowerCase_makeDirectory_iff head).mpr (Or.inr same)
  rw [← Text.trim_lowerCase, Text.lowerCase_append_space]
  exact .single rfl lowered

theorem opening_of_kelvin {line rest : String} (kelvin : HasKelvinKeyword line rest) :
    (Text.opening line).map Char.toLower = Text.foldLetters Text.kelvinKeyword := by
  obtain ⟨head, rfl, same⟩ := kelvin
  have checked : (Text.kelvinKeyword.toList.all fun c => !Text.isBlank c) = true := by decide
  have solid : Text.IsSolid Text.kelvinKeyword.toList := by
    simpa [Text.IsSolid] using checked
  exact Text.opening_of_head same solid

theorem not_spelledBy_of_kelvin {line rest : String} (kelvin : HasKelvinKeyword line rest)
    (command : Command) : ¬ SpelledBy line command := by
  intro spelled
  obtain ⟨verb, -, letters⟩ := opening_of_spelledBy spelled
  rw [opening_of_kelvin kelvin] at letters
  -- The sign is no letter of a keyword, because those are all in ASCII.
  have sign : '\u212A' ∈ Text.foldLetters verb.keyword := by
    rw [← letters]
    decide
  obtain ⟨c, member, lowered⟩ := List.mem_map.mp sign
  obtain rfl := Text.toLower_eq_kelvin_iff.mp lowered
  exact absurd (verb.isAscii_keyword _ member) (by decide)

theorem recognized_eq_false_iff {mode : ArgumentCase} {line : String} :
    (classify mode line).recognized = false ↔ classify mode line = unknown line := by
  constructor
  · intro found
    cases command : classify mode line with
    | unknown raw => rw [(classify_eq_unknown_iff.mp command).1]
    | plain _ | single _ _ | pair _ _ _ =>
      rw [command] at found
      cases found
  · intro command
    rw [command]
    rfl

/-- A line is the same command in lower case as typed, with its arguments in lower case, unless it
opens with the word for making a directory written with the Kelvin sign.  Such a line is no command
as typed, and makes a directory in lower case. -/
theorem classify_lowerCase_eq_mapArguments (line : String) :
    ((∀ rest, ¬ HasKelvinKeyword (Text.trim line) rest) →
        classify .lowerCase line = (classify .asTyped line).mapArguments Text.lowerCase) ∧
      (∀ rest, HasKelvinKeyword (Text.trim line) rest →
        classify .asTyped line = unknown line ∧
          classify .lowerCase line =
            single .makeDirectory (Text.lowerCase (Text.trim rest))) ∧
      (∀ mode, (classify mode line).recognized = false ↔ classify mode line = unknown line) := by
  refine ⟨fun usual => ?_, fun rest kelvin => ⟨?_, ?_⟩, fun mode => recognized_eq_false_iff⟩
  · have read := ofSignificant?_lowerCase usual
    rw [classify, classify, significant, significant, read]
    cases ofSignificant? (Text.trim line) <;> rfl
  · exact classify_eq_unknown_iff.mpr ⟨rfl, not_spelledBy_of_kelvin kelvin⟩
  · have spelled := spelledBy_lowerCase_of_kelvin kelvin
    exact (classify_eq_iff_spelledBy rfl).mpr spelled

theorem classify_lowerCase_samples :
    classify .lowerCase " Echo ΑΣ  ΣΑΣ" =
        (classify .asTyped " Echo ΑΣ  ΣΑΣ").mapArguments Text.lowerCase ∧
      classify .asTyped "M\u212Adir \u212AB" = unknown "M\u212Adir \u212AB" ∧
      classify .lowerCase "M\u212Adir \u212AB" = single .makeDirectory "kb" := by
  have usual (rest : String) : ¬ HasKelvinKeyword (Text.trim " Echo ΑΣ  ΣΑΣ") rest := by
    intro kelvin
    exact absurd (opening_of_kelvin kelvin) (by decide)
  have kelvin : HasKelvinKeyword (Text.trim "M\u212Adir \u212AB") "\u212AB" :=
    ⟨"M\u212Adir", by decide, by decide⟩
  obtain ⟨typed, lowered⟩ := (classify_lowerCase_eq_mapArguments "M\u212Adir \u212AB").2.1 _ kelvin
  refine ⟨(classify_lowerCase_eq_mapArguments " Echo ΑΣ  ΣΑΣ").1 usual, typed, ?_⟩
  rw [lowered]
  decide

theorem not_forall_classify_lowerCase :
    ¬ ∀ line, classify .lowerCase line =
      (classify .asTyped line).mapArguments Text.lowerCase := by
  intro always
  have typed : classify .asTyped "m\u212Adir foo" = unknown "m\u212Adir foo" := by
    decide
  have lowered : classify .lowerCase "m\u212Adir foo" = single .makeDirectory "foo" := by
    decide
  have same := always "m\u212Adir foo"
  rw [typed, lowered, mapArguments] at same
  cases same

end Command

end ShellPractice
