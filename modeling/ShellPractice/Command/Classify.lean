import ShellPractice.Command.Basic
import ShellPractice.Text.Keyword
import ShellPractice.Text.LowerCase

/-!
# Reading a typed line as a command

The blanks around a line are ignored, and so is the case of its keyword.  A plain verb must be the
whole line; the other verbs are followed by a space and their arguments.  A verb with two arguments
takes the first two words and ignores the rest.
-/

namespace ShellPractice

/-- What becomes of the letters of arguments. -/
inductive ArgumentCase where
  | asTyped
  | lowerCase
  deriving DecidableEq, Repr

namespace Command

/-- The part of a line that is read: without the blanks around it, in the case asked for. -/
def significant (mode : ArgumentCase) (line : String) : String :=
  match mode with
  | .asTyped => Text.trim line
  | .lowerCase => Text.lowerCase (Text.trim line)

/-- The plain command that a trimmed line is. -/
def plain? (line : String) : Option Command :=
  (PlainVerb.all.find? fun verb => Text.sameLetters line verb.keyword).map plain

/-- A trimmed line read as one given verb with one argument. -/
def singleOf? (line : String) (verb : SingleVerb) : Option Command :=
  (Text.afterKeyword? line verb.keyword).map (single verb)

/-- A trimmed line read as one given verb with two arguments. -/
def pairOf? (line : String) (verb : PairVerb) : Option Command :=
  match (Text.afterKeyword? line verb.keyword).map Text.words with
  | some (source :: destination :: _) => some (pair verb source destination)
  | _ => none

/-- A trimmed line read as a command of any kind. -/
def ofSignificant? (line : String) : Option Command :=
  ((plain? line).or (SingleVerb.all.findSome? (singleOf? line))).or
    (PairVerb.all.findSome? (pairOf? line))

/-- The command that a typed line is.  A line that is none is kept exactly as typed. -/
def classify (mode : ArgumentCase) (line : String) : Command :=
  (ofSignificant? (significant mode line)).getD (unknown line)

end Command

end ShellPractice
