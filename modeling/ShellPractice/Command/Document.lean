import ShellPractice.Command.Basic
import ShellPractice.Document.Record

/-!
# Commands as documents

A plain verb is written as its name; the other verbs are the only member of an object, beside their
arguments.
-/

namespace ShellPractice

open Document

/-- The name of a plain verb in documents. -/
def PlainVerb.name : PlainVerb → String
  | .help => "Help"
  | .clear => "Clear"
  | .printDirectory => "PrintWorkingDirectory"
  | .listDirectory => "ListDirectory"

/-- The name of a verb with one argument in documents. -/
def SingleVerb.name : SingleVerb → String
  | .changeDirectory => "ChangeDirectory"
  | .makeDirectory => "MakeDirectory"
  | .createFile => "CreateFile"
  | .echo => "Echo"
  | .readFile => "ReadFile"
  | .removeFile => "RemoveFile"

/-- The name of a verb with two arguments in documents. -/
def PairVerb.name : PairVerb → String
  | .copyFile => "CopyFile"
  | .moveFile => "MoveFile"

namespace Command

/-- The name of lines that are no command. -/
def unknownName : String :=
  "Unknown"

/-- A document for a command. -/
def toDocument : Command → Document
  | plain verb => .text verb.name
  | single verb argument => .object [(verb.name, .text argument)]
  | pair verb source destination =>
    .object [(verb.name,
      .object [("source", .text source), ("destination", .text destination)])]
  | unknown line => .object [(unknownName, .text line)]

/-- The source and the destination in an object. -/
def operands? (conventions : Conventions) : Document → Option (String × String)
  | .object members => do
    match ← fields? conventions ["source", "destination"] (.object members) with
    | [source, destination] =>
      some (← required text? source, ← required text? destination)
    | _ => none
  | _ => none

/-- A command with arguments, by the name of its verb. -/
def ofMember? (conventions : Conventions) (name : String) (payload : Document) :
    Option Command :=
  if name = unknownName then payload.text?.map unknown
  else
    match SingleVerb.all.find? (·.name == name), PairVerb.all.find? (·.name == name) with
    | some verb, _ => payload.text?.map (single verb)
    | none, some verb =>
      (operands? conventions payload).map fun (source, destination) =>
        pair verb source destination
    | none, none => none

/-- The command that a document describes. -/
def ofDocument? (conventions : Conventions) (document : Document) : Option Command :=
  match choice? conventions PlainVerb.all PlainVerb.name document with
  | some verb => some (plain verb)
  | none =>
    match document with
    | .object [(name, payload)] => ofMember? conventions name payload
    | _ => none

end Command

end ShellPractice
