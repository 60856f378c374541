import ShellPractice.Config.Store
import ShellPractice.Proofs.Document.Record
import ShellPractice.Proofs.Json.RoundTrip
import ShellPractice.Proofs.Text.Pieces
import ShellPractice.Transcript.Export

/-!
# Transcripts read back

The JSON text of a transcript describes its entries, one by one and in order.  Nothing is lost of an
entry, whatever its text is.  The plain text has the lines of the entries under its heading, and
ends behind the last of them.
-/

namespace ShellPractice

open Document

theorem EntryKind.choice?_name (conventions : Conventions) (kind : EntryKind) :
    choice? conventions all name (.text kind.name) = some kind := by
  rw [choice?]
  cases kind <;> decide

namespace Entry

theorem ofDocument?_toDocument (conventions : Conventions) (entry : Entry) :
    ofDocument? conventions entry.toDocument = some entry := by
  have read := fields?_object conventions
    [("kind", .text entry.kind.name), ("text", .text entry.text),
      ("timestamp", .text entry.time.text)] (by simp)
  simp only [List.map_cons, List.map_nil] at read
  rw [ofDocument?, toDocument, read]
  simp [required, text?, EntryKind.choice?_name, Timestamp.ofText?_text]

theorem isFaithful_toDocument (entry : Entry) : Json.IsFaithful entry.toDocument :=
  .object (by simp [Json.IsFaithful.text])

/-- The entries that a document lists. -/
def listOfDocument? (conventions : Conventions) : Document → Option (List Entry) :=
  list? (ofDocument? conventions)

end Entry

namespace Session

/-- The transcript of a session, however it came about, is decoded from its export entry by entry. -/
theorem decode_exportJson (session : Session) :
    Format.json.decode Entry.listOfDocument? session.exportJson = .ok session.entries := by
  have faithful : Json.IsFaithful (.array (session.entries.map Entry.toDocument)) := by
    apply Json.IsFaithful.array
    intro item member
    obtain ⟨entry, -, rfl⟩ := List.mem_map.mp member
    exact entry.isFaithful_toDocument
  have read : Format.json.read? session.exportJson =
      some (.array (session.entries.map Entry.toDocument)) :=
    Json.read?_write faithful
  have decoded : Entry.listOfDocument? Format.json.conventions
      (.array (session.entries.map Entry.toDocument)) = some session.entries :=
    list?_array_map session.entries fun entry _ =>
      entry.ofDocument?_toDocument Format.json.conventions
  simp only [Format.decode, read, decoded]

theorem lines_join_entries (entries : List Entry) :
    Text.lines (String.join (entries.map fun entry => entry.text ++ "\n")) =
      entries.flatMap Entry.lines ++ [""] := by
  induction entries with
  | nil => rfl
  | cons entry entries ih =>
    rw [List.map_cons, String.join_cons, Text.lines_append_newline, ih, List.flatMap_cons,
      List.append_assoc, Entry.lines]

/-- The plain text of a transcript, however it came about, has under its heading the lines of each
entry in order and an empty piece behind the last newline.  Here the lines of any text are what
stands between its newlines: joined by newlines they are the text, and none of them has one. -/
theorem lines_exportText (session : Session) :
    (∃ body, session.exportText =
        "Terminal Session: " ++ session.id ++ "\nStarted: " ++ session.started.display ++ "\n\n" ++
          body ∧
      Text.lines body = session.entries.flatMap Entry.lines ++ [""]) ∧
    ∀ text, "\n".intercalate (Text.lines text) = text ∧
      ∀ line ∈ Text.lines text, '\n' ∉ line.toList := by
  refine ⟨⟨_, rfl, lines_join_entries session.entries⟩, fun text => ?_⟩
  exact ⟨Text.intercalate_lines text, fun line member => Text.newline_not_mem_of_mem_lines member⟩

end Session

end ShellPractice
