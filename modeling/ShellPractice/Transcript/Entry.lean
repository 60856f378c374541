import ShellPractice.Command.Response
import ShellPractice.Document.Record
import ShellPractice.Text.Lines
import ShellPractice.Transcript.Timestamp

/-!
# Entries of a transcript

An entry is what a learner typed, with the prompt before it, or what the terminal answered.  Its
text may be several lines.
-/

namespace ShellPractice

/-- What an entry shows. -/
inductive EntryKind where
  | input
  | output
  | failure
  deriving DecidableEq, Repr

/-- Every kind of entry. -/
def EntryKind.all : List EntryKind :=
  [.input, .output, .failure]

/-- The name of a kind. -/
def EntryKind.name : EntryKind → String
  | .input => "input"
  | .output => "output"
  | .failure => "error"

/-- A part of a transcript. -/
structure Entry where
  kind : EntryKind
  text : String
  /-- When the entry was made. -/
  time : Timestamp
  deriving DecidableEq

namespace Entry

/-- The entry for an answer; a cleared transcript gets none. -/
def ofResponse? (time : Timestamp) : Response → Option Entry
  | .output text => some ⟨.output, text, time⟩
  | .failure text => some ⟨.failure, text, time⟩
  | .cleared => none

/-- Whether the entry shows a failure. -/
def isFailure (entry : Entry) : Bool :=
  entry.kind == .failure

/-- The lines that the entry is shown on. -/
def lines (entry : Entry) : List String :=
  Text.lines entry.text

/-- The entry that a document describes. -/
def ofDocument? (conventions : Document.Conventions) (document : Document) : Option Entry := do
  match ← Document.fields? conventions ["kind", "text", "timestamp"] document with
  | [kind, text, time] =>
    some {
      kind := ← Document.required (Document.choice? conventions EntryKind.all EntryKind.name) kind
      text := ← Document.required Document.text? text
      time := ← Document.required (fun time => time.text?.bind Timestamp.ofText?) time }
  | _ => none

/-- A document for an entry. -/
def toDocument (entry : Entry) : Document :=
  .object [("kind", .text entry.kind.name), ("text", .text entry.text),
    ("timestamp", .text entry.time.text)]

end Entry

end ShellPractice
