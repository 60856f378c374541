import ShellPractice.Text.Blank
import ShellPractice.Text.Letters

/-!
# Keywords at the start of a line

A keyword opens a line when the line starts with the keyword, in any case of its letters, and one
space.  The opening is cut off by its length in UTF-8, so a line is cut only where a character
ends.
-/

namespace ShellPractice.Text

/-- What follows an opening at the start of a line, without the blanks around it.

The line must have a character boundary after as many bytes as the opening takes; otherwise it does
not start with it. -/
def afterOpening? (line opening : String) : Option String :=
  match line.pos? opening.rawEndPos with
  | none => none
  | some boundary =>
    if sameLetters (line.sliceTo boundary).copy opening then
      some (trim (line.sliceFrom boundary).copy)
    else none

/-- What follows a keyword and one space at the start of a line, without the blanks around it. -/
def afterKeyword? (line keyword : String) : Option String :=
  afterOpening? line (keyword.push ' ')

end ShellPractice.Text
