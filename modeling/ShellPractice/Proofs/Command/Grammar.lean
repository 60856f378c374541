import Mathlib.Data.List.Nodup
import ShellPractice.Command.Classify
import ShellPractice.Proofs.Text.Keyword
import ShellPractice.Proofs.Text.LowerCaseWords

/-!
# The grammar of commands

There is one rule for each verb.  A line follows the rule of at most one of them, because the rule
fixes the characters of the line up to its first blank, apart from the case of Latin letters, and no
two verbs have the same keyword.  The rules can therefore be tried in any order.
-/

namespace ShellPractice

/-- A verb of any kind. -/
inductive Verb where
  | plain (verb : PlainVerb)
  | single (verb : SingleVerb)
  | pair (verb : PairVerb)
  deriving DecidableEq

namespace Verb

/-- Every verb. -/
def all : List Verb :=
  PlainVerb.all.map plain ++ SingleVerb.all.map single ++ PairVerb.all.map pair

/-- The word that is typed for a verb. -/
def keyword : Verb → String
  | plain verb => verb.keyword
  | single verb => verb.keyword
  | pair verb => verb.keyword

/-- A trimmed line read by the rule for one verb. -/
def read? (line : String) : Verb → Option Command
  | plain verb => if Text.sameLetters line verb.keyword then some (.plain verb) else none
  | single verb => Command.singleOf? line verb
  | pair verb => Command.pairOf? line verb

theorem mem_all (verb : Verb) : verb ∈ all := by
  cases verb with
  | plain verb => simp [all, verb.mem_all]
  | single verb => simp [all, verb.mem_all]
  | pair verb => simp [all, verb.mem_all]

theorem keywords_distinct : (all.map fun verb => Text.foldLetters verb.keyword).Nodup := by
  decide

theorem keyword_injective {first second : Verb}
    (same : Text.foldLetters first.keyword = Text.foldLetters second.keyword) : first = second :=
  List.inj_on_of_nodup_map keywords_distinct first.mem_all second.mem_all same

theorem keywords_plain :
    (all.all fun verb =>
      verb.keyword.toList.all fun c => c.toNat < 128 && !Text.isBlank c) = true := by
  decide

theorem plain_of_mem_keyword {verb : Verb} {c : Char} (member : c ∈ verb.keyword.toList) :
    c.toNat < 128 ∧ Text.isBlank c = false := by
  have checked := List.all_eq_true.mp keywords_plain verb verb.mem_all
  have plain := List.all_eq_true.mp checked c member
  rwa [Bool.and_eq_true, Bool.not_eq_true', decide_eq_true_eq] at plain

theorem isAscii_keyword (verb : Verb) : Text.IsAscii verb.keyword :=
  fun _ member => (plain_of_mem_keyword member).1

theorem isSolid_keyword (verb : Verb) : Text.IsSolid verb.keyword.toList :=
  fun _ member => (plain_of_mem_keyword member).2

/-- Only the word for making a directory has the letter `k`. -/
theorem foldLetters_keyword_of_ne {verb : Verb} (other : verb ≠ .single .makeDirectory) :
    ∀ c ∈ Text.foldLetters verb.keyword, c.toNat < 128 ∧ c ≠ 'k' := by
  have checked : (all.all fun verb => verb = .single .makeDirectory ||
      (Text.foldLetters verb.keyword).all fun c => c.toNat < 128 && c != 'k') = true := by
    decide
  have here := List.all_eq_true.mp checked verb verb.mem_all
  simpa [other] using here

theorem foldLetters_keyword_plain (verb : PlainVerb) :
    ∀ c ∈ Text.foldLetters verb.keyword, c.toNat < 128 ∧ c ≠ 'k' := by
  have other : plain verb ≠ .single .makeDirectory := Verb.noConfusion
  exact foldLetters_keyword_of_ne other

end Verb

namespace Command

/-- The verb of a command. -/
def verb? : Command → Option Verb
  | plain verb => some (.plain verb)
  | single verb _ => some (.single verb)
  | pair verb _ _ => some (.pair verb)
  | unknown _ => none

/-- A trimmed line is a command as the rule for its verb says: the keyword alone; the keyword, a space
and the argument; or the keyword, a space and two words, whatever follows them. -/
inductive SpelledBy (line : String) : Command → Prop where
  | plain {verb : PlainVerb} (same : Text.sameLetters line verb.keyword = true) :
      SpelledBy line (plain verb)
  | single {verb : SingleVerb} {head rest : String} (whole : line = head ++ " " ++ rest)
      (same : Text.sameLetters head verb.keyword = true) :
      SpelledBy line (single verb (Text.trim rest))
  | pair {verb : PairVerb} {head rest source after destination more : String}
      (whole : line = head ++ " " ++ rest) (same : Text.sameLetters head verb.keyword = true)
      (first : Text.FirstWord rest source after) (second : Text.FirstWord after destination more) :
      SpelledBy line (pair verb source destination)

theorem singleOf?_eq_some_iff {line : String} {verb : SingleVerb} {command : Command} :
    singleOf? line verb = some command ↔
      SpelledBy line command ∧ command.verb? = some (.single verb) := by
  have ascii : Text.IsAscii verb.keyword := (Verb.single verb).isAscii_keyword
  rw [singleOf?, Option.map_eq_some_iff]
  constructor
  · rintro ⟨argument, found, rfl⟩
    obtain ⟨head, rest, whole, same, rfl⟩ := (Text.afterKeyword?_eq_some_iff ascii).mp found
    exact ⟨.single whole same, rfl⟩
  · rintro ⟨spelled, hasVerb⟩
    cases spelled with
    | single whole same =>
      cases hasVerb
      exact ⟨_, (Text.afterKeyword?_eq_some_iff ascii).mpr ⟨_, _, whole, same, rfl⟩, rfl⟩
    | plain _ | pair _ _ _ _ => cases hasVerb

theorem pairOf?_eq_some_iff_words {line : String} {verb : PairVerb} {command : Command} :
    pairOf? line verb = some command ↔
      ∃ argument source destination more,
        Text.afterKeyword? line verb.keyword = some argument ∧
          Text.words argument = source :: destination :: more ∧
          pair verb source destination = command := by
  rw [pairOf?]
  constructor
  · intro taken
    split at taken
    next source destination more split =>
      obtain ⟨argument, found, words⟩ := Option.map_eq_some_iff.mp split
      exact ⟨argument, source, destination, more, found, words, Option.some.inj taken⟩
    next => cases taken
  · rintro ⟨argument, source, destination, more, found, words, rfl⟩
    rw [found, Option.map_some, words]

theorem pairOf?_eq_some_iff {line : String} {verb : PairVerb} {command : Command} :
    pairOf? line verb = some command ↔
      SpelledBy line command ∧ command.verb? = some (.pair verb) := by
  have ascii : Text.IsAscii verb.keyword := (Verb.pair verb).isAscii_keyword
  rw [pairOf?_eq_some_iff_words]
  constructor
  · rintro ⟨argument, source, destination, more, found, words, rfl⟩
    obtain ⟨head, rest, whole, same, rfl⟩ := (Text.afterKeyword?_eq_some_iff ascii).mp found
    rw [Text.words_trim] at words
    obtain ⟨after, first, others⟩ := Text.words_eq_cons_iff.mp words
    obtain ⟨last, second, -⟩ := Text.words_eq_cons_iff.mp others
    exact ⟨.pair whole same first second, rfl⟩
  · rintro ⟨spelled, hasVerb⟩
    cases spelled with
    | @pair _ head rest source after destination last whole same first second =>
      cases hasVerb
      refine ⟨Text.trim rest, source, destination, Text.words last,
        (Text.afterKeyword?_eq_some_iff ascii).mpr ⟨head, rest, whole, same, rfl⟩, ?_, rfl⟩
      rw [Text.words_trim, Text.words_of_firstWord first, Text.words_of_firstWord second]
    | plain _ | single _ _ => cases hasVerb

/-- The rule for a verb finds the commands of this verb that are spelled as the grammar says. -/
theorem read?_eq_some_iff {line : String} {verb : Verb} {command : Command} :
    verb.read? line = some command ↔ SpelledBy line command ∧ command.verb? = some verb := by
  cases verb with
  | plain verb =>
    rw [Verb.read?, Option.ite_none_right_eq_some]
    constructor
    · rintro ⟨same, read⟩
      cases read
      exact ⟨.plain same, rfl⟩
    · rintro ⟨spelled, hasVerb⟩
      cases spelled with
      | plain same =>
        cases hasVerb
        exact ⟨same, rfl⟩
      | single _ _ | pair _ _ _ _ => cases hasVerb
  | single verb => exact singleOf?_eq_some_iff
  | pair verb => exact pairOf?_eq_some_iff

theorem opening_of_spelledBy {line : String} {command : Command}
    (spelled : SpelledBy line command) :
    ∃ verb, command.verb? = some verb ∧
      (Text.opening line).map Char.toLower = Text.foldLetters verb.keyword := by
  cases spelled with
  | @plain verb same =>
    exact ⟨.plain verb, rfl, Text.opening_of_sameLetters same (Verb.plain verb).isSolid_keyword⟩
  | @single verb head rest whole same =>
    rw [whole]
    exact ⟨.single verb, rfl, Text.opening_of_head same (Verb.single verb).isSolid_keyword⟩
  | @pair verb head rest _ _ _ _ whole same =>
    rw [whole]
    exact ⟨.pair verb, rfl, Text.opening_of_head same (Verb.pair verb).isSolid_keyword⟩

/-- A line is spelled as one command at most. -/
theorem spelledBy_unique {line : String} {first second : Command}
    (firstSpelled : SpelledBy line first) (secondSpelled : SpelledBy line second) :
    first = second := by
  obtain ⟨verb, firstVerb, firstOpening⟩ := opening_of_spelledBy firstSpelled
  obtain ⟨other, secondVerb, secondOpening⟩ := opening_of_spelledBy secondSpelled
  obtain rfl : verb = other := Verb.keyword_injective (firstOpening.symm.trans secondOpening)
  have firstRead := read?_eq_some_iff.mpr ⟨firstSpelled, firstVerb⟩
  have secondRead := read?_eq_some_iff.mpr ⟨secondSpelled, secondVerb⟩
  exact Option.some.inj (firstRead.symm.trans secondRead)

/-- Whatever the order of the rules, they find the command that a line is spelled as. -/
theorem findSome?_read?_eq_some_iff {order : List Verb} (complete : ∀ verb, verb ∈ order)
    {line : String} {command : Command} :
    order.findSome? (Verb.read? line) = some command ↔ SpelledBy line command := by
  constructor
  · intro found
    obtain ⟨verb, -, taken⟩ := List.exists_of_findSome?_eq_some found
    exact (read?_eq_some_iff.mp taken).1
  · intro spelled
    obtain ⟨verb, hasVerb, -⟩ := opening_of_spelledBy spelled
    have taken := read?_eq_some_iff.mpr ⟨spelled, hasVerb⟩
    cases found : order.findSome? (Verb.read? line) with
    | none =>
      have nothing := List.findSome?_eq_none_iff.mp found verb (complete verb)
      rw [taken] at nothing
      cases nothing
    | some other =>
      obtain ⟨_, -, alsoTaken⟩ := List.exists_of_findSome?_eq_some found
      rw [spelledBy_unique (read?_eq_some_iff.mp alsoTaken).1 spelled]

theorem ofSignificant?_eq_findSome? (line : String) :
    ofSignificant? line = Verb.all.findSome? (Verb.read? line) := by
  have plainFirst : plain? line = (PlainVerb.all.map Verb.plain).findSome? (Verb.read? line) := by
    rw [plain?, List.find?_eq_findSome?_guard, List.map_findSome?, List.findSome?_map]
    congr 1
    funext verb
    cases same : Text.sameLetters line verb.keyword <;> simp [Verb.read?, Option.guard, same]
  rw [Verb.all, List.findSome?_append, List.findSome?_append, ← plainFirst, List.findSome?_map,
    List.findSome?_map]
  rfl

theorem ofSignificant?_eq_some_iff {line : String} {command : Command} :
    ofSignificant? line = some command ↔ SpelledBy line command := by
  rw [ofSignificant?_eq_findSome?, findSome?_read?_eq_some_iff Verb.mem_all]

theorem recognized_of_spelledBy {line : String} {command : Command}
    (spelled : SpelledBy line command) : command.recognized = true := by
  cases spelled with
  | plain _ | single _ _ | pair _ _ _ _ => rfl

/-- A line is a command exactly if the part that is read spells it. -/
theorem classify_eq_iff_spelledBy {mode : ArgumentCase} {line : String} {command : Command}
    (recognized : command.recognized = true) :
    classify mode line = command ↔ SpelledBy (significant mode line) command := by
  rw [← ofSignificant?_eq_some_iff, classify]
  cases ofSignificant? (significant mode line) with
  | none =>
    constructor
    · rintro rfl
      cases recognized
    · intro same
      cases same
  | some other => simp

theorem spelledBy_classify {mode : ArgumentCase} {line : String}
    (recognized : (classify mode line).recognized = true) :
    SpelledBy (significant mode line) (classify mode line) :=
  (classify_eq_iff_spelledBy recognized).mp rfl

theorem classify_eq_unknown_iff {mode : ArgumentCase} {line raw : String} :
    classify mode line = unknown raw ↔
      raw = line ∧ ∀ command, ¬ SpelledBy (significant mode line) command := by
  simp only [← ofSignificant?_eq_some_iff, classify]
  cases found : ofSignificant? (significant mode line) with
  | none => simp [eq_comm]
  | some other =>
    have known := recognized_of_spelledBy (ofSignificant?_eq_some_iff.mp found)
    constructor
    · intro same
      rw [Option.getD_some] at same
      rw [same] at known
      cases known
    · rintro ⟨-, none⟩
      exact absurd rfl (none other)

/-- A line is a plain command exactly if it is the word for it, apart from the blanks around the
line and the case of Latin letters; this is so in both argument cases. -/
theorem classify_eq_plain_iff_trim {mode : ArgumentCase} {line : String} {verb : PlainVerb} :
    classify mode line = plain verb ↔ Text.sameLetters (Text.trim line) verb.keyword = true := by
  have word : SpelledBy (significant mode line) (plain verb) ↔
      Text.sameLetters (significant mode line) verb.keyword = true := by
    constructor
    · intro spelled
      cases spelled with
      | plain same => exact same
    · exact .plain
  rw [classify_eq_iff_spelledBy rfl, word]
  cases mode with
  | asTyped => rfl
  | lowerCase =>
    rw [significant, Text.sameLetters_lowerCase (Verb.foldLetters_keyword_plain verb)]

/-- The arguments of a command are such as a line can hold: one is not empty and has no blanks around
it, and two are words. -/
inductive HasProperArguments : Command → Prop where
  | plain {verb : PlainVerb} : HasProperArguments (plain verb)
  | single {verb : SingleVerb} {argument : String} (ne_empty : argument ≠ "")
      (trimmed : Text.trim argument = argument) : HasProperArguments (single verb argument)
  | pair {verb : PairVerb} {source destination : String} (source_ne_empty : source ≠ "")
      (source_solid : Text.IsSolid source.toList) (destination_ne_empty : destination ≠ "")
      (destination_solid : Text.IsSolid destination.toList) :
      HasProperArguments (pair verb source destination)
  | unknown {line : String} : HasProperArguments (unknown line)

theorem trim_significant (mode : ArgumentCase) (line : String) :
    Text.trim (significant mode line) = significant mode line := by
  cases mode with
  | asTyped => exact Text.trim_trim line
  | lowerCase => rw [significant, Text.trim_lowerCase, Text.trim_trim]

/-- After the keyword of a trimmed line something is left that is not blank. -/
theorem trim_ne_empty_of_trimmed {line head rest : String} (trimmed : Text.trim line = line)
    (whole : line = head ++ " " ++ rest) : Text.trim rest ≠ "" := by
  intro nothing
  have blank : Text.isBlankText rest = true := Text.isBlankText_iff.mpr nothing
  have chars : line.toList = head.toList ++ ' ' :: rest.toList := by
    rw [whole]
    simp
  have shorter : Text.trimChars line.toList = Text.trimChars head.toList := by
    rw [chars]
    apply Text.trimChars_append_blanks
    rw [List.all_cons, Bool.and_eq_true]
    exact ⟨rfl, blank⟩
  have bound := Text.length_trimChars_le head.toList
  rw [← shorter, ← Text.toList_trim, trimmed, chars, List.length_append,
    List.length_cons] at bound
  omega

theorem hasProperArguments_of_spelledBy {line : String} {command : Command}
    (trimmed : Text.trim line = line) (spelled : SpelledBy line command) :
    command.HasProperArguments := by
  cases spelled with
  | plain same => exact .plain
  | single whole same => exact .single (trim_ne_empty_of_trimmed trimmed whole) (Text.trim_trim _)
  | pair whole same first second =>
    exact .pair first.ne_empty first.solid second.ne_empty second.solid

theorem hasProperArguments_classify (mode : ArgumentCase) (line : String) :
    (classify mode line).HasProperArguments := by
  cases found : (classify mode line).recognized with
  | true =>
    exact hasProperArguments_of_spelledBy (trim_significant mode line) (spelledBy_classify found)
  | false =>
    cases command : classify mode line with
    | unknown line => exact .unknown
    | plain _ | single _ _ | pair _ _ _ =>
      rw [command] at found
      cases found

/-- A line is a command exactly as the grammar says, by the rule for its verb and for no other verb;
a line that is none is kept as it is.  The order in which the rules are tried does not matter, and
all arguments are proper. -/
theorem classify_iff_grammar (mode : ArgumentCase) (line : String) :
    (∀ command, SpelledBy (significant mode line) command ↔
        classify mode line = command ∧ command.recognized = true) ∧
      (∀ raw, classify mode line = unknown raw ↔
        raw = line ∧ ∀ command, ¬ SpelledBy (significant mode line) command) ∧
      (∀ verb command, Verb.read? (significant mode line) verb = some command ↔
        classify mode line = command ∧ command.verb? = some verb) ∧
      (∀ order : List Verb, order.Perm Verb.all →
        (order.findSome? (Verb.read? (significant mode line))).getD (unknown line) =
          classify mode line) ∧
      (classify mode line).HasProperArguments := by
  have spelled (command : Command) : SpelledBy (significant mode line) command ↔
      classify mode line = command ∧ command.recognized = true := by
    constructor
    · intro spelled
      have recognized := recognized_of_spelledBy spelled
      exact ⟨(classify_eq_iff_spelledBy recognized).mpr spelled, recognized⟩
    · rintro ⟨same, recognized⟩
      exact (classify_eq_iff_spelledBy recognized).mp same
  refine ⟨spelled, fun raw => classify_eq_unknown_iff, fun verb command => ?_,
    fun order permuted => ?_, hasProperArguments_classify mode line⟩
  · rw [read?_eq_some_iff, spelled]
    constructor
    · rintro ⟨⟨same, -⟩, hasVerb⟩
      exact ⟨same, hasVerb⟩
    · rintro ⟨same, hasVerb⟩
      refine ⟨⟨same, ?_⟩, hasVerb⟩
      cases command with
      | plain _ | single _ _ | pair _ _ _ => rfl
      | unknown _ => cases hasVerb
  · have complete (verb : Verb) : verb ∈ order := permuted.mem_iff.mpr verb.mem_all
    have sameResult : order.findSome? (Verb.read? (significant mode line)) =
        ofSignificant? (significant mode line) := by
      ext command
      rw [findSome?_read?_eq_some_iff complete, ofSignificant?_eq_some_iff]
    rw [sameResult, classify]

/-- A copy in lower case, whose rule is also found when the rules are tried from the last one. -/
theorem classify_copy_reversed :
    Verb.all.reverse.Perm Verb.all ∧
      (Verb.all.reverse.findSome? (Verb.read? (significant .lowerCase "\tCp  ΑΣ\u3000B c"))).getD
        (unknown "\tCp  ΑΣ\u3000B c") = pair .copyFile "ας" "b" := by
  have reversed : Verb.all.reverse.Perm Verb.all := List.reverse_perm Verb.all
  refine ⟨reversed, ?_⟩
  rw [(classify_iff_grammar .lowerCase "\tCp  ΑΣ\u3000B c").2.2.2.1 _ reversed]
  decide +kernel

end Command

end ShellPractice
