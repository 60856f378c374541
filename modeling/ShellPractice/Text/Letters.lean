/-!
# Comparison up to the case of Latin letters

Keywords are typed in the letters `a` to `z`; two texts are the same keyword when they differ in
the case of these letters only.  Letters outside the Latin alphabet are never identified.
-/

namespace ShellPractice.Text

/-- A text with `A` to `Z` replaced by `a` to `z`. -/
def foldLetters (text : String) : List Char :=
  text.toList.map Char.toLower

/-- Whether two texts differ at most in the case of the letters `a` to `z`. -/
def sameLetters (first second : String) : Bool :=
  foldLetters first == foldLetters second

theorem sameLetters_iff {first second : String} :
    sameLetters first second = true ↔ foldLetters first = foldLetters second := by
  simp [sameLetters]

end ShellPractice.Text
