/-!
# Columns

Texts set in columns: a text shorter than its column is followed by spaces, and a longer one is
kept whole.
-/

namespace ShellPractice.Text

/-- A text followed by as many spaces as bring it to the given number of characters. -/
def padRight (width : Nat) (text : String) : String :=
  text ++ String.ofList (List.replicate (width - text.length) ' ')

end ShellPractice.Text
