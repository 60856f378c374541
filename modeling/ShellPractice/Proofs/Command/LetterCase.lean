import ShellPractice.Command.Response
import ShellPractice.Proofs.Command.Grammar
import ShellPractice.Proofs.Text.LetterCase

/-!
# Lines in other letters

A line may be typed in letters of either case and with any blanks around it.  Two such lines are the
same command up to the letters of the arguments, or neither is a command.  In lower case nothing is
left of the difference.
-/

namespace ShellPractice.Command

/-- Two commands with the same verb, and with arguments that differ at most in the case of the
letters `A` to `Z`. -/
inductive SameUpToLetters : Command → Command → Prop where
  | plain {verb : PlainVerb} : SameUpToLetters (plain verb) (plain verb)
  | single {verb : SingleVerb} {argument other : String}
      (letters : Text.sameLetters argument other = true) :
      SameUpToLetters (single verb argument) (single verb other)
  | pair {verb : PairVerb} {source destination otherSource otherDestination : String}
      (sources : Text.sameLetters source otherSource = true)
      (destinations : Text.sameLetters destination otherDestination = true) :
      SameUpToLetters (pair verb source destination) (pair verb otherSource otherDestination)

theorem SameUpToLetters.verb?_eq {command other : Command}
    (same : command.SameUpToLetters other) : command.verb? = other.verb? := by
  cases same with
  | plain | single _ | pair _ _ => rfl

theorem keyword?_eq_map_verb? (command : Command) :
    command.keyword? = command.verb?.map Verb.keyword := by
  cases command with
  | plain _ | single _ _ | pair _ _ _ | unknown _ => rfl

theorem isSome_verb? (command : Command) : command.verb?.isSome = command.recognized := by
  cases command with
  | plain _ | single _ _ | pair _ _ _ | unknown _ => rfl

section Lines

variable {line other : String} (same : Text.sameLetters line other = true)

include same

/-- A line in other letters spells the command with its arguments in other letters. -/
theorem exists_spelledBy_of_sameLetters {command : Command} (spelled : SpelledBy line command) :
    ∃ twin, SpelledBy other twin ∧ command.SameUpToLetters twin := by
  have letters {front head keyword : String} (first : Text.sameLetters head front = true)
      (second : Text.sameLetters head keyword = true) : Text.sameLetters front keyword = true := by
    rw [Text.sameLetters_iff] at first second ⊢
    exact first.symm.trans second
  cases spelled with
  | plain keyword => exact ⟨_, .plain (letters same keyword), .plain⟩
  | @single verb head rest whole keyword =>
    obtain ⟨front, back, split, heads, rests⟩ := Text.exists_eq_append_of_sameLetters same whole
    exact ⟨_, .single split (letters heads keyword), .single (Text.sameLetters_trim rests)⟩
  | @pair verb head rest source after destination more whole keyword first second =>
    obtain ⟨front, back, split, heads, rests⟩ := Text.exists_eq_append_of_sameLetters same whole
    -- Both operands are words of the rest, and its words differ in their letters only.
    have words := Text.map_foldLetters_words rests
    rw [Text.words_of_firstWord first, Text.words_of_firstWord second, List.map_cons,
      List.map_cons] at words
    obtain ⟨twinSource, others, wordsBack, sources, words⟩ := List.map_eq_cons_iff.mp words.symm
    obtain ⟨twinDestination, last, rfl, destinations, -⟩ := List.map_eq_cons_iff.mp words
    obtain ⟨afterSource, twinFirst, wordsAfter⟩ := Text.words_eq_cons_iff.mp wordsBack
    obtain ⟨afterDestination, twinSecond, -⟩ := Text.words_eq_cons_iff.mp wordsAfter
    exact ⟨_, .pair split (letters heads keyword) twinFirst twinSecond,
      .pair (Text.sameLetters_iff.mpr sources.symm) (Text.sameLetters_iff.mpr destinations.symm)⟩

end Lines

section Typed

variable {first second : String}
  (same : Text.sameLetters (Text.trim first) (Text.trim second) = true)

include same

theorem sameLetters_significant (mode : ArgumentCase) :
    Text.sameLetters (significant mode first) (significant mode second) = true := by
  cases mode with
  | asTyped => exact same
  | lowerCase =>
    rw [significant, significant, Text.lowerCase_eq_of_sameLetters same]
    exact Text.sameLetters_iff.mpr rfl

theorem classify_lowerCase_eq_of_sameLetters
    (recognized : (classify .lowerCase first).recognized = true) :
    classify .lowerCase first = classify .lowerCase second := by
  have read : significant .lowerCase first = significant .lowerCase second :=
    Text.lowerCase_eq_of_sameLetters same
  have spelled := spelledBy_classify recognized
  rw [read] at spelled
  exact ((classify_eq_iff_spelledBy recognized).mpr spelled).symm

theorem unknown_or_sameUpToLetters (mode : ArgumentCase) :
    (classify mode first = unknown first ∧ classify mode second = unknown second) ∨
      (classify mode first).SameUpToLetters (classify mode second) := by
  have letters := sameLetters_significant same mode
  cases known : (classify mode first).recognized with
  | true =>
    obtain ⟨twin, spelled, alike⟩ :=
      exists_spelledBy_of_sameLetters letters (spelledBy_classify known)
    have found := (classify_eq_iff_spelledBy (recognized_of_spelledBy spelled)).mpr spelled
    rw [found]
    exact Or.inr alike
  | false =>
    have backwards : Text.sameLetters (significant mode second) (significant mode first) = true :=
      Text.sameLetters_iff.mpr (Text.sameLetters_iff.mp letters).symm
    cases command : classify mode first with
    | plain _ | single _ _ | pair _ _ _ =>
      rw [command] at known
      cases known
    | unknown raw =>
      obtain ⟨rfl, nothing⟩ := classify_eq_unknown_iff.mp command
      refine Or.inl ⟨rfl, classify_eq_unknown_iff.mpr ⟨rfl, fun twin spelled => ?_⟩⟩
      obtain ⟨original, found, -⟩ := exists_spelledBy_of_sameLetters backwards spelled
      exact nothing original found

theorem verb?_classify_eq (mode : ArgumentCase) :
    (classify mode first).verb? = (classify mode second).verb? := by
  rcases unknown_or_sameUpToLetters same mode with ⟨unknownFirst, unknownSecond⟩ | alike
  · rw [unknownFirst, unknownSecond]
    rfl
  · exact alike.verb?_eq

end Typed

/-- Lines that differ in the blanks around them and in the case of the letters `A` to `Z` only are
both kept as lines that are no command, or are the same command up to the letters of its arguments.
They succeed together, and in lower case they are one command with one answer. -/
theorem classify_of_sameLetters_trim {first second : String}
    (same : Text.sameLetters (Text.trim first) (Text.trim second) = true) (mode : ArgumentCase) :
    ((classify mode first = unknown first ∧ classify mode second = unknown second) ∨
        (classify mode first).SameUpToLetters (classify mode second)) ∧
      (classify mode first).keyword? = (classify mode second).keyword? ∧
      (∀ directory other, ((classify mode first).respond directory).succeeded =
        ((classify mode second).respond other).succeeded) ∧
      ((classify .lowerCase first).recognized = true →
        classify .lowerCase first = classify .lowerCase second ∧
          ∀ directory, (classify .lowerCase first).respond directory =
            (classify .lowerCase second).respond directory) := by
  have verbs := verb?_classify_eq same mode
  refine ⟨unknown_or_sameUpToLetters same mode, ?_, fun directory other => ?_, fun known => ?_⟩
  · rw [keyword?_eq_map_verb?, keyword?_eq_map_verb?, verbs]
  · rw [succeeded_respond, succeeded_respond, ← isSome_verb?, ← isSome_verb?, verbs]
  · have one := classify_lowerCase_eq_of_sameLetters same known
    exact ⟨one, fun directory => by rw [one]⟩

/-- Two operands that are typed in other letters, with other blanks around the line. -/
theorem classify_of_sameLetters_trim_copy :
    Text.sameLetters (Text.trim "\tCp Äa\u3000B c") (Text.trim "cP ÄA\u3000b C ") = true ∧
      (classify .asTyped "\tCp Äa\u3000B c").SameUpToLetters
        (classify .asTyped "cP ÄA\u3000b C ") ∧
      classify .lowerCase "\tCp Äa\u3000B c" = pair .copyFile "äa" "b" ∧
      classify .lowerCase "cP ÄA\u3000b C " = pair .copyFile "äa" "b" := by
  have same :
      Text.sameLetters (Text.trim "\tCp Äa\u3000B c") (Text.trim "cP ÄA\u3000b C ") = true := by
    decide
  have typed : (classify .asTyped "\tCp Äa\u3000B c").recognized = true := by decide
  have lowered : classify .lowerCase "\tCp Äa\u3000B c" = pair .copyFile "äa" "b" := by decide
  obtain ⟨alike, -, -, one⟩ := classify_of_sameLetters_trim same .asTyped
  refine ⟨same, ?_, lowered, ?_⟩
  · rcases alike with ⟨nothing, -⟩ | alike
    · rw [nothing] at typed
      cases typed
    · exact alike
  · rw [← (one (by rw [lowered]; rfl)).1, lowered]

end ShellPractice.Command
