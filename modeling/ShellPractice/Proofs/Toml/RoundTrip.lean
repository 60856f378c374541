import ShellPractice.Proofs.Toml.Value

/-!
# TOML files, written and read

A file of sections is read line by line.  After each line the draft holds the sections before it,
then the section of the last header with the entries so far.  At the end it is the file that was
written, because names do not repeat.
-/

namespace ShellPractice.Toml

open Text

/-- Names that are written without quotes. -/
def IsBareName (name : String) : Prop :=
  name ≠ "" ∧ name.toList.all isBare = true

instance (name : String) : Decidable (IsBareName name) :=
  inferInstanceAs (Decidable (_ ∧ _))

/-- Of names that do not repeat, none stands before itself. -/
theorem fresh_of_nodup {α : Type} {earlier later : List (String × α)} {entry : String × α}
    (distinct : ((earlier ++ entry :: later).map Prod.fst).Nodup) :
    entry.1 ∉ earlier.map Prod.fst := by
  rw [List.map_append, List.map_cons, List.nodup_append] at distinct
  exact fun member => distinct.2.2 entry.1 member entry.1 List.mem_cons_self rfl

section Tables

variable {table : Table} {name : String}

theorem find?_of_not_mem (fresh : name ∉ table.map Prod.fst) : table.find? name = none := by
  rw [Table.find?, List.lookup_eq_none_iff]
  intro entry member
  have other : name ≠ entry.1 := fun same => fresh (List.mem_map.mpr ⟨entry, member, same.symm⟩)
  simpa using other

theorem set_of_not_mem (fresh : name ∉ table.map Prod.fst) (item : Item) :
    table.set name item = table ++ [(name, item)] := by
  induction table with
  | nil => rfl
  | cons entry table ih =>
    simp only [List.map_cons, List.mem_cons, not_or] at fresh
    rw [Table.set, if_neg (Ne.symm fresh.1), ih fresh.2, List.cons_append]

theorem find?_append_self (fresh : name ∉ table.map Prod.fst) (item : Item) :
    Table.find? (table ++ [(name, item)]) name = some item := by
  rw [Table.find?, List.lookup_append, ← Table.find?, find?_of_not_mem fresh]
  simp

theorem set_append_self (fresh : name ∉ table.map Prod.fst) (old item : Item) :
    Table.set (table ++ [(name, old)]) name item = table ++ [(name, item)] := by
  induction table with
  | nil => simp [Table.set]
  | cons entry table ih =>
    simp only [List.map_cons, List.mem_cons, not_or] at fresh
    rw [List.cons_append, Table.set, if_neg (Ne.symm fresh.1), ih fresh.2, List.cons_append]

end Tables

/-- Reading a file with one draft comes to a later place in it with another draft.  Every length of
text is fuel enough on the way. -/
def Leads (draft : Draft) (text : List Char) (later : Draft) (rest : List Char) : Prop :=
  ∀ fuel, text.length < fuel →
    ∃ left, rest.length < left ∧ draft? fuel draft text = draft? left later rest

theorem Leads.refl (draft : Draft) (text : List Char) : Leads draft text draft text :=
  fun fuel enough => ⟨fuel, enough, rfl⟩

theorem Leads.trans {first second third : Draft} {text between rest : List Char}
    (start : Leads first text second between) (finish : Leads second between third rest) :
    Leads first text third rest := by
  intro fuel enough
  obtain ⟨left, still, reads⟩ := start fuel enough
  obtain ⟨left', still', reads'⟩ := finish left still
  exact ⟨left', still', reads.trans reads'⟩

theorem leads_newline (draft : Draft) (text : List Char) :
    Leads draft ('\n' :: text) draft text := by
  rintro (_ | fuel) enough
  · cases enough
  · exact ⟨fuel + 1, by simp at enough; omega, rfl⟩

/-- An expression up to the end of its line is read with the next step. -/
theorem leads_expression {draft later : Draft} {c : Char} {text rest : List Char}
    (solid : isGap c = false) (read : expression? draft (c :: text) = some (later, '\n' :: rest))
    (shorter : rest.length < text.length) : Leads draft (c :: text) later rest := by
  rintro (_ | fuel) enough
  · cases enough
  rw [List.length_cons] at enough
  -- The expression stops in front of the line break, which is skipped with the next one.
  obtain ⟨left, still, reads⟩ := leads_newline later rest fuel (by simp; omega)
  refine ⟨left, still, ?_⟩
  rw [draft?, skipGap_of_not_gap solid]
  simp [read, atLineEnd, skipBlanks, isBlank, atLineBreak, reads]

section Keys

variable {name : String} {rest after : List Char} {c : Char}

theorem IsBareName.exists_head (bare : IsBareName name) :
    ∃ c more, name.toList = c :: more ∧ isBare c = true := by
  obtain ⟨nonempty, inside⟩ := bare
  obtain ⟨c, more, start⟩ := List.exists_cons_of_ne_nil
    (fun empty => nonempty (String.toList_eq_nil_iff.mp empty))
  exact ⟨c, more, start, List.all_eq_true.mp inside c (start ▸ List.mem_cons_self)⟩

theorem keyPart?_bare (bare : IsBareName name) (ends : EndsRun isBare rest) :
    keyPart? (name.toList ++ rest) = some (name, rest) := by
  have whole := span_append (List.all_eq_true.mp bare.2) ends
  obtain ⟨c, more, start, inside⟩ := bare.exists_head
  have double : c ≠ '"' := ne_of_inside inside (by decide)
  have single : c ≠ '\x27' := ne_of_inside inside (by decide)
  have content : String.ofList (c :: more) = name := by rw [← start, String.ofList_toList]
  rw [start, List.cons_append] at whole ⊢
  rw [keyPart?, whole]
  · simp only [content]
  all_goals simp [double, single]

/-- A bare name is a key of one part in front of anything but a dot. -/
theorem key?_bare (bare : IsBareName name) (ends : EndsRun isBare rest)
    (gap : skipBlanks rest = c :: after) (noDot : c ≠ '.') (parts : Nat) :
    key? (parts + 1) (name.toList ++ rest) = some ([name], c :: after) := by
  rw [key?, keyPart?_bare bare ends]
  simp only [Option.bind_eq_bind, Option.bind_some, gap]
  split
  · rename_i dotted
    exact absurd (List.head_eq_of_cons_eq dotted) noDot
  · rfl

end Keys

section Lines

variable {name : String} {rest chars : List Char} {draft later : Draft} {value : Document}

theorem leads_header (bare : IsBareName name)
    (opens : draft.openHeader? false [name] = some later) (rest : List Char) :
    Leads draft ('[' :: (name.toList ++ ']' :: '\n' :: rest)) later rest := by
  have named : key? 80 (name.toList ++ ']' :: '\n' :: rest) = _ :=
    key?_bare bare (endsRun_cons.mpr rfl) rfl (by decide) 79
  obtain ⟨c, more, start, inside⟩ := bare.exists_head
  have oneBracket : c ≠ '[' := ne_of_inside inside (by decide)
  have solid : isGap c = false := contains_eq_false_of_inside inside (by decide)
  refine leads_expression (by decide) ?_ (by simp; omega)
  rw [start, List.cons_append] at named ⊢
  have header : header? false (c :: (more ++ ']' :: '\n' :: rest)) =
      some ([name], '\n' :: rest) := by
    simp [header?, skipBlanks_of_not_gap solid, mostLevels, named, after?]
  rw [expression?]
  · simp [header, opens]
  · simp [oneBracket]

theorem leads_entry (bare : IsBareName name) (denotes : Denotes 1 chars value)
    (assigns : draft.assign? [name] value = some later) (rest : List Char) :
    Leads draft (name.toList ++ ' ' :: '=' :: ' ' :: (chars ++ '\n' :: rest)) later rest := by
  have named : key? 80 (name.toList ++ ' ' :: '=' :: ' ' :: (chars ++ '\n' :: rest)) = _ :=
    key?_bare bare (endsRun_cons.mpr rfl) rfl (by decide) 79
  have read := denotes.reads ((' ' :: (chars ++ '\n' :: rest)).length + 1) 80 ('\n' :: rest)
    (by simp; omega) (by decide) (endsRun_cons.mpr rfl)
  obtain ⟨c, more, start, inside⟩ := bare.exists_head
  rw [start, List.cons_append] at named ⊢
  refine leads_expression (contains_eq_false_of_inside inside (by decide)) ?_ (by simp; omega)
  have noBracket : c ≠ '[' := ne_of_inside inside (by decide)
  have space : skipBlanks (' ' :: (chars ++ '\n' :: rest)) = chars ++ '\n' :: rest := by
    obtain ⟨first, others, rfl, solid, -⟩ := denotes.starts
    exact skipBlanks_of_not_gap solid (others ++ '\n' :: rest)
  rw [expression?]
  · simp only [mostLevels, named, after?, if_true, space, read, assigns, Option.bind_eq_bind,
      Option.bind_some]
  all_goals simp [noBracket]

end Lines

/-- The items of a section with entries. -/
def leaves (entries : List (String × Document)) : Table :=
  entries.map fun entry => (entry.1, .leaf entry.2)

/-- The table of a file with sections. -/
def tableOf (sections : List (String × List (String × Document))) : Table :=
  sections.map fun table => (table.1, .table .explicit (leaves table.2))

theorem entriesToMembers_leaves (entries : List (String × Document)) :
    entriesToMembers (leaves entries) = entries := by
  induction entries with
  | nil => rfl
  | cons entry entries ih =>
    rw [leaves, List.map_cons, entriesToMembers, ← leaves, ih]
    rfl

theorem toDocument_tableOf (sections : List (String × List (String × Document))) :
    (tableOf sections).toDocument =
      .object (sections.map fun table => (table.1, .object table.2)) := by
  have members : entriesToMembers (tableOf sections) =
      sections.map fun table => (table.1, .object table.2) := by
    induction sections with
    | nil => rfl
    | cons table sections ih =>
      rw [tableOf, List.map_cons, entriesToMembers, ← tableOf, ih, Item.toDocument,
        entriesToMembers_leaves]
      rfl
  rw [Table.toDocument, members]

section Sections

variable {name : String} {before : List (String × List (String × Document))}
  {header : List String}

theorem names_leaves (entries : List (String × Document)) :
    (leaves entries).map Prod.fst = entries.map Prod.fst := by
  simp [leaves]

theorem leaves_concat (entries : List (String × Document)) (key : String) (value : Document) :
    leaves (entries ++ [(key, value)]) = leaves entries ++ [(key, .leaf value)] := by
  simp [leaves]

theorem names_tableOf (sections : List (String × List (String × Document))) :
    (tableOf sections).map Prod.fst = sections.map Prod.fst := by
  simp [tableOf]

theorem tableOf_concat (sections : List (String × List (String × Document))) (name : String)
    (entries : List (String × Document)) :
    tableOf (sections ++ [(name, entries)]) =
      tableOf sections ++ [(name, .table .explicit (leaves entries))] := by
  simp [tableOf]

theorem openHeader?_fresh (fresh : name ∉ before.map Prod.fst) (header : List String) :
    Draft.openHeader? ⟨tableOf before, header⟩ false [name] =
      some ⟨tableOf (before ++ [(name, [])]), [name]⟩ := by
  rw [← names_tableOf] at fresh
  simp [Draft.openHeader?, Table.under, Table.openTable, find?_of_not_mem fresh,
    set_of_not_mem fresh, tableOf_concat]
  rfl

theorem assign?_fresh {key : String} {entries : List (String × Document)} (value : Document)
    (freshTable : name ∉ before.map Prod.fst) (fresh : key ∉ entries.map Prod.fst) :
    Draft.assign? ⟨tableOf (before ++ [(name, entries)]), [name]⟩ [key] value =
      some ⟨tableOf (before ++ [(name, entries ++ [(key, value)])]), [name]⟩ := by
  rw [← names_tableOf] at freshTable
  rw [← names_leaves] at fresh
  simp [Draft.assign?, Table.under, Table.assign, Table.assignName, tableOf_concat, leaves_concat,
    find?_append_self freshTable, find?_of_not_mem fresh, set_of_not_mem fresh,
    set_append_self freshTable]

/-- A line with an entry. -/
structure IsEntryLine (line : List Char) (entry : String × Document) : Prop where
  bare : IsBareName entry.1
  written : ∃ chars, line = entry.1.toList ++ ' ' :: '=' :: ' ' :: (chars ++ ['\n']) ∧
    Denotes 1 chars entry.2

/-- The lines of a section. -/
structure IsSectionText (text : List Char) (table : String × List (String × Document)) :
    Prop where
  bare : IsBareName table.1
  distinct : (table.2.map Prod.fst).Nodup
  written : ∃ lines, text = '[' :: (table.1.toList ++ ']' :: '\n' :: lines.flatten) ∧
    List.Forall₂ IsEntryLine lines table.2

/-- The entries of a section are added one by one. -/
theorem leads_entries {lines : List (List Char)} {entries : List (String × Document)}
    (earlier : List (String × Document)) (each : List.Forall₂ IsEntryLine lines entries)
    (fresh : name ∉ before.map Prod.fst)
    (distinct : ((earlier ++ entries).map Prod.fst).Nodup) (rest : List Char) :
    Leads ⟨tableOf (before ++ [(name, earlier)]), [name]⟩ (lines.flatten ++ rest)
      ⟨tableOf (before ++ [(name, earlier ++ entries)]), [name]⟩ rest := by
  induction each generalizing earlier with
  | nil =>
    rw [List.append_nil]
    exact Leads.refl _ _
  | @cons line entry lines entries first each ih =>
    obtain ⟨chars, rfl, denotes⟩ := first.written
    -- The first entry joins those before it, and the rest is read after these.
    have regroup : earlier ++ entry :: entries = earlier ++ [entry] ++ entries := by simp
    have notYet := fresh_of_nodup distinct
    rw [regroup] at distinct ⊢
    have step := leads_entry first.bare denotes (assign?_fresh entry.2 fresh notYet)
      (lines.flatten ++ rest)
    have lines := step.trans (ih _ distinct)
    simpa using lines

theorem leads_section {text : List Char} {table : String × List (String × Document)}
    (lines : IsSectionText text table) (fresh : table.1 ∉ before.map Prod.fst)
    (header : List String) (rest : List Char) :
    Leads ⟨tableOf before, header⟩ (text ++ rest) ⟨tableOf (before ++ [table]), [table.1]⟩
      rest := by
  obtain ⟨entryLines, rfl, each⟩ := lines.written
  have opened := leads_header lines.bare (openHeader?_fresh fresh header)
    (entryLines.flatten ++ rest)
  have filled := leads_entries [] each fresh lines.distinct rest
  simpa using opened.trans filled

/-- A file is read section by section, with an empty line before each but the first. -/
theorem leads_sections (before : List (String × List (String × Document)))
    {texts : List (List Char)} {sections : List (String × List (String × Document))}
    (each : List.Forall₂ IsSectionText texts sections)
    (distinct : ((before ++ sections).map Prod.fst).Nodup) (header : List String) :
    ∃ last, Leads ⟨tableOf before, header⟩ (['\n'].intercalate texts)
      ⟨tableOf (before ++ sections), last⟩ [] := by
  induction each generalizing before header with
  | nil => exact ⟨header, by simpa using Leads.refl _ _⟩
  | @cons text table texts sections first each ih =>
    have fresh := fresh_of_nodup distinct
    have regroup : before ++ table :: sections = before ++ [table] ++ sections := by simp
    rw [regroup] at distinct ⊢
    obtain ⟨last, others⟩ := ih _ distinct [table.1]
    cases each with
    | nil => exact ⟨[table.1], by simpa using leads_section first fresh header []⟩
    | @cons next other texts sections second each =>
      have start := leads_section first fresh header
        ('\n' :: ['\n'].intercalate (next :: texts))
      have whole := (start.trans (leads_newline _ _)).trans others
      exact ⟨last, by simpa [List.intercalate] using whole⟩

end Sections

/-- A section with bare names that do not repeat, and writable values. -/
structure IsSection (table : String × List (String × Document)) : Prop where
  bare : IsBareName table.1
  distinct : (table.2.map Prod.fst).Nodup
  names : ∀ name ∈ table.2.map Prod.fst, IsBareName name
  values : ∀ entry ∈ table.2, IsWritable entry.2

theorem IsSection.sublist {name : String} {members fewer : List (String × Document)}
    (proper : IsSection (name, members)) (kept : fewer.Sublist members) :
    IsSection (name, fewer) where
  bare := proper.bare
  distinct := proper.distinct.sublist (kept.map Prod.fst)
  names other member := proper.names other ((kept.map Prod.fst).subset member)
  values entry member := proper.values entry (kept.subset member)

theorem exists_entryChars? {entry : String × Document} (bare : IsBareName entry.1)
    (writable : IsWritable entry.2) :
    ∃ line, entryChars? entry = some line ∧ IsEntryLine line entry := by
  obtain ⟨chars, written, denotes⟩ := exists_valueChars? writable
  refine ⟨entry.1.toList ++ ' ' :: '=' :: ' ' :: (chars ++ ['\n']), ?_, bare, chars, rfl, denotes⟩
  simp [entryChars?, written]

theorem exists_sectionChars? {table : String × List (String × Document)}
    (proper : IsSection table) :
    ∃ text, sectionChars? table = some text ∧ IsSectionText text table := by
  obtain ⟨lines, written, each⟩ := exists_mapM_eq_some fun entry member =>
    exists_entryChars? (proper.names entry.1 (List.mem_map_of_mem member))
      (proper.values entry member)
  refine ⟨'[' :: (table.1.toList ++ ']' :: '\n' :: lines.flatten), ?_, proper.bare,
    proper.distinct, lines, rfl, each⟩
  simp [sectionChars?, written]

/-- A file of sections can be written, and it is read as what was written. -/
theorem read?_write? (sections : List (String × List (String × Document)))
    (proper : ∀ table ∈ sections, IsSection table) (distinct : (sections.map Prod.fst).Nodup) :
    ∃ text, write? sections = some text ∧
      read? text = some (.object (sections.map fun table => (table.1, .object table.2))) := by
  obtain ⟨texts, written, each⟩ :=
    exists_mapM_eq_some fun table member => exists_sectionChars? (proper table member)
  refine ⟨String.ofList (['\n'].intercalate texts), by rw [write?, written]; rfl, ?_⟩
  -- A file is empty or starts with a bracket, so no mark of an encoding is taken off.
  have unmarked : dropMark (['\n'].intercalate texts) = ['\n'].intercalate texts := by
    cases each with
    | nil => rfl
    | @cons text table texts sections first each =>
      obtain ⟨lines, rfl, -⟩ := first.written
      cases texts <;> rfl
  obtain ⟨last, leads⟩ := leads_sections [] each distinct []
  obtain ⟨_ | left, still, reads⟩ := leads _ (Nat.lt_succ_self _)
  · cases still
  have ended : draft? (left + 1) ⟨tableOf sections, last⟩ [] = some ⟨tableOf sections, last⟩ := rfl
  rw [List.nil_append, ended] at reads
  rw [read?, String.toList_ofList, unmarked, String.length_ofList]
  have start : tableOf [] = [] := rfl
  rw [start] at reads
  rw [reads, Option.map_some, toDocument_tableOf]

end ShellPractice.Toml
