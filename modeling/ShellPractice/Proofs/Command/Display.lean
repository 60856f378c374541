import ShellPractice.Proofs.Command.Grammar

/-!
# Reading a command as it is written

A command is written as its keyword and its arguments, each after one space.  Read again it is the
same command exactly if its arguments are such as a line can hold.  What a line is read as always
has such arguments, also where they are put in lower case, so reading it again changes nothing.
-/

namespace ShellPractice

theorem Verb.keyword_ne_empty (verb : Verb) : verb.keyword ≠ "" := by
  rcases verb with verb | verb | verb <;> cases verb <;> decide

theorem Verb.trim_keyword (verb : Verb) : Text.trim verb.keyword = verb.keyword :=
  Text.trim_of_isSolid verb.isSolid_keyword

namespace Command

/-- A command with proper arguments is spelled as it is written. -/
theorem spelledBy_text {command : Command} (recognized : command.recognized = true)
    (proper : command.HasProperArguments) : SpelledBy command.text command := by
  cases proper with
  | plain => exact .plain (Text.sameLetters_iff.mpr rfl)
  | @single verb argument _ trimmed =>
    have spelled : SpelledBy (verb.keyword ++ " " ++ argument) (single verb (Text.trim argument)) :=
      .single rfl (Text.sameLetters_iff.mpr rfl)
    rwa [trimmed] at spelled
  | @pair verb source destination hasSource sourceSolid hasDestination destinationSolid =>
    have whole : (pair verb source destination).text =
        verb.keyword ++ " " ++ (source ++ " " ++ destination) := by
      simp only [text, String.append_assoc]
    exact .pair whole (Text.sameLetters_iff.mpr rfl)
      (Text.firstWord_append hasSource sourceSolid destination)
      (Text.firstWord_last hasDestination destinationSolid)
  | unknown => cases recognized

theorem trim_text {command : Command} (recognized : command.recognized = true)
    (proper : command.HasProperArguments) : Text.trim command.text = command.text := by
  cases proper with
  | @plain verb => exact (Verb.plain verb).trim_keyword
  | @single verb argument hasArgument trimmed =>
    exact Text.trim_append_append " " (Verb.single verb).keyword_ne_empty hasArgument
      (Verb.single verb).trim_keyword trimmed
  | @pair verb source destination _ _ hasDestination solid =>
    have whole := Text.trim_append_append (" " ++ source ++ " ") (Verb.pair verb).keyword_ne_empty
      hasDestination (Verb.pair verb).trim_keyword (Text.trim_of_isSolid solid)
    simpa only [text, String.append_assoc, Verb.keyword] using whole
  | unknown => cases recognized

/-- The arguments of a command, in order. -/
def arguments : Command → List String
  | single _ argument => [argument]
  | pair _ source destination => [source, destination]
  | plain _ | unknown _ => []

/-- The characters of an argument are characters of the line. -/
theorem mem_line_of_mem_argument {line argument : String} {command : Command}
    (spelled : SpelledBy line command) (member : argument ∈ command.arguments) {c : Char}
    (inside : c ∈ argument.toList) : c ∈ line.toList := by
  cases spelled with
  | single whole same =>
    obtain rfl := List.mem_singleton.mp member
    rw [Text.toList_trim] at inside
    rw [whole, String.toList_append]
    exact List.mem_append_right _ (Text.mem_of_mem_trimChars inside)
  | pair whole same first second =>
    rw [whole, String.toList_append]
    apply List.mem_append_right
    rcases List.mem_pair.mp member with rfl | rfl
    · exact first.mem_of_mem_word inside
    · exact first.mem_of_mem_after (second.mem_of_mem_word inside)
  | plain same => cases member

theorem lowerCase_keyword (verb : Verb) : Text.lowerCase verb.keyword = verb.keyword := by
  have small : Text.foldLetters verb.keyword = verb.keyword.toList := by
    rcases verb with verb | verb | verb <;> cases verb <;> decide
  rw [Text.lowerCase, Text.lowerChars, Text.lowerFrom_of_ascii verb.isAscii_keyword,
    ← Text.foldLetters, small, String.ofList_toList]

theorem lowerCase_text {command : Command} (recognized : command.recognized = true)
    (lowered : ∀ argument ∈ command.arguments, Text.lowerCase argument = argument) :
    Text.lowerCase command.text = command.text := by
  have space : Text.lowerCase " " = " " := by decide
  cases command with
  | plain verb => exact lowerCase_keyword (.plain verb)
  | single verb argument =>
    have opening := Text.lowerCase_append (lowerCase_keyword (.single verb)) space
    exact Text.lowerCase_append opening (lowered argument (by simp [arguments]))
  | pair verb source destination =>
    have opening := Text.lowerCase_append (lowerCase_keyword (.pair verb)) space
    have front := Text.lowerCase_append opening (lowered source (by simp [arguments]))
    exact Text.lowerCase_append (Text.lowerCase_append front space)
      (lowered destination (by simp [arguments]))
  | unknown line => cases recognized

/-- A command with proper arguments is read again as it is written, in the case of its letters. -/
theorem classify_text_of_significant {mode : ArgumentCase} {command : Command}
    (recognized : command.recognized = true) (proper : command.HasProperArguments)
    (same : significant mode command.text = command.text) :
    classify mode command.text = command := by
  rw [classify_eq_iff_spelledBy recognized, same]
  exact spelledBy_text recognized proper

theorem significant_text_classify {mode : ArgumentCase} {line : String}
    (recognized : (classify mode line).recognized = true) :
    significant mode (classify mode line).text = (classify mode line).text := by
  have trimmed := trim_text recognized (hasProperArguments_classify mode line)
  cases mode with
  | asTyped => exact trimmed
  | lowerCase =>
    rw [significant, trimmed]
    apply lowerCase_text recognized
    intro argument member
    have read : Text.lowerCase (significant .lowerCase line) = significant .lowerCase line :=
      Text.lowerCase_lowerCase (Text.trim line)
    rw [Text.lowerCase_eq_self_iff] at read ⊢
    intro c inside
    exact read c (mem_line_of_mem_argument (spelledBy_classify recognized) member inside)

/-- Whether a command is what its text is read as: its arguments are proper, and a line that is no
command is really none. -/
def IsCanonical : Command → Prop
  | unknown line => classify .asTyped line = unknown line
  | command => command.HasProperArguments

/-- Reading takes back writing exactly on the canonical commands.  What any line is read as is read
again as the same command, in the case of arguments in which it was read. -/
theorem classify_text_iff_canonical :
    (∀ command : Command, classify .asTyped command.text = command ↔ command.IsCanonical) ∧
      ∀ mode line, classify mode (classify mode line).text = classify mode line := by
  constructor
  · intro command
    cases known : command.recognized with
    | true =>
      have canonical : command.IsCanonical ↔ command.HasProperArguments := by
        cases command with
        | plain _ | single _ _ | pair _ _ _ => rfl
        | unknown _ => cases known
      rw [canonical]
      constructor
      · intro same
        rw [← same]
        exact hasProperArguments_classify .asTyped command.text
      · intro proper
        exact classify_text_of_significant known proper (trim_text known proper)
    | false =>
      cases command with
      | unknown _ => rfl
      | plain _ | single _ _ | pair _ _ _ => cases known
  · intro mode line
    cases known : (classify mode line).recognized with
    | true =>
      exact classify_text_of_significant known (hasProperArguments_classify mode line)
        (significant_text_classify known)
    | false =>
      cases command : classify mode line with
      | unknown raw =>
        obtain ⟨rfl, -⟩ := classify_eq_unknown_iff.mp command
        exact command
      | plain _ | single _ _ | pair _ _ _ =>
        rw [command] at known
        cases known

end Command

end ShellPractice
