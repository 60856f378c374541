import ShellPractice.Proofs.Text.Trim

/-!
# Words

A word is a run of characters that are not blank, between blanks or the ends of a text.  The first
word of a text stands after the blanks at its start, and the other words are those of the text that
follows it.
-/

namespace ShellPractice.Text

/-- Whether a list of characters holds no blank. -/
def IsSolid (text : List Char) : Prop :=
  ∀ c ∈ text, isBlank c = false

/-- Whether nothing or a blank comes first, so that a word before the text ends there. -/
def FollowsWord (text : List Char) : Prop :=
  ∀ c ∈ text.head?, isBlank c = true

theorem followsWord_nil : FollowsWord [] := by
  intro c member
  cases member

theorem followsWord_cons_iff {c : Char} {rest : List Char} :
    FollowsWord (c :: rest) ↔ isBlank c = true := by
  simp [FollowsWord]

theorem FollowsWord.append {rest after : List Char} (follows : FollowsWord rest)
    (followsAfter : FollowsWord after) : FollowsWord (rest ++ after) := by
  cases rest with
  | nil => exact followsAfter
  | cons c rest => exact follows

theorem followsWord_of_all {text : List Char} (blank : text.all isBlank = true) :
    FollowsWord text := by
  intro c first
  exact List.all_eq_true.mp blank c (List.mem_of_mem_head? first)

/-- A text starts with a run of characters that are not blank, which may be empty. -/
theorem exists_eq_solid_append (text : List Char) :
    ∃ word rest, text = word ++ rest ∧ IsSolid word ∧ FollowsWord rest := by
  refine ⟨text.takeWhile (!isBlank ·), text.dropWhile (!isBlank ·),
    List.takeWhile_append_dropWhile.symm, ?_, ?_⟩
  · intro c member
    simpa using List.mem_takeWhile_imp member
  · intro c first
    have stopped := List.head?_dropWhile_not (!isBlank ·) text
    rw [Option.mem_def.mp first] at stopped
    simpa using stopped

theorem takeWhile_solid_append {word rest : List Char} (solid : IsSolid word)
    (follows : FollowsWord rest) : (word ++ rest).takeWhile (!isBlank ·) = word := by
  have taken : word.takeWhile (!isBlank ·) = word := by
    rw [List.takeWhile_eq_self_iff]
    intro c member
    simpa using solid c member
  have stopped : rest.takeWhile (!isBlank ·) = [] := by
    cases rest with
    | nil => rfl
    | cons c more =>
      exact List.takeWhile_cons_of_neg (by simpa using followsWord_cons_iff.mp follows)
  rw [List.takeWhile_append, taken]
  simp [stopped]

/-- A text starts with one such run only. -/
theorem solid_append_inj {word other rest more : List Char} (solid : IsSolid word)
    (follows : FollowsWord rest) (solidOther : IsSolid other) (followsOther : FollowsWord more)
    (same : word ++ rest = other ++ more) : word = other ∧ rest = more := by
  have runs := congrArg (List.takeWhile (!isBlank ·)) same
  rw [takeWhile_solid_append solid follows, takeWhile_solid_append solidOther followsOther] at runs
  subst runs
  exact ⟨rfl, List.append_cancel_left same⟩

theorem trimChars_of_isSolid {text : List Char} (solid : IsSolid text) :
    trimChars text = text := by
  rw [trimChars_eq_self_iff]
  constructor
  · intro c first
    exact solid c (List.mem_of_mem_head? first)
  · intro c last
    exact solid c (List.mem_of_mem_getLast? last)

theorem trim_of_isSolid {text : String} (solid : IsSolid text.toList) : trim text = text := by
  rw [trim, trimChars_of_isSolid solid, String.ofList_toList]

theorem trimChars_of_trim_eq {text : String} (trimmed : trim text = text) :
    trimChars text.toList = text.toList := by
  rw [← toList_trim, trimmed]

/-- A text between a trimmed start and a trimmed end is trimmed. -/
theorem trim_append_append {first last : String} (middle : String) (hasFirst : first ≠ "")
    (hasLast : last ≠ "") (firstTrimmed : trim first = first) (lastTrimmed : trim last = last) :
    trim (first ++ middle ++ last) = first ++ middle ++ last := by
  have starts := (trimChars_eq_self_iff.mp (trimChars_of_trim_eq firstTrimmed)).1
  have stops := (trimChars_eq_self_iff.mp (trimChars_of_trim_eq lastTrimmed)).2
  have firstChars : first.toList ≠ [] := mt String.toList_eq_nil_iff.mp hasFirst
  have lastChars : last.toList ≠ [] := mt String.toList_eq_nil_iff.mp hasLast
  have whole : trimChars (first ++ middle ++ last).toList = (first ++ middle ++ last).toList := by
    rw [trimChars_eq_self_iff, String.toList_append, String.toList_append]
    constructor
    · rw [List.append_assoc, List.head?_append_of_ne_nil _ firstChars]
      exact starts
    · rw [List.getLast?_append_of_ne_nil _ lastChars]
      exact stops
  rw [trim, whole, String.ofList_toList]

theorem wordsOfChars_cons_of_blank {c : Char} (blank : isBlank c = true) (rest : List Char) :
    wordsOfChars (c :: rest) = wordsOfChars rest := by
  simp [wordsOfChars.eq_def (c :: rest), blank]

theorem wordsOfChars_append {word rest : List Char} (nonempty : word ≠ []) (solid : IsSolid word)
    (follows : FollowsWord rest) : wordsOfChars (word ++ rest) = word :: wordsOfChars rest := by
  induction word with
  | nil => exact absurd rfl nonempty
  | cons c word ih =>
    have first : isBlank c = false := solid c List.mem_cons_self
    cases word with
    | nil =>
      cases rest with
      | nil => simp [wordsOfChars.eq_def [c], wordsOfChars.eq_def [], first]
      | cons next more =>
        have blank : isBlank next = true := followsWord_cons_iff.mp follows
        simp [wordsOfChars.eq_def (c :: next :: more), first, blank]
    | cons d word =>
      have second : isBlank d = false := solid d (by simp)
      have later := ih (List.cons_ne_nil d word) fun e member =>
        solid e (List.mem_cons_of_mem c member)
      rw [List.cons_append] at later
      simp [wordsOfChars.eq_def (c :: d :: (word ++ rest)), first, second, later]

/-- Every text is made of blanks and of words that end at a blank or at the end of the text. -/
theorem words_induction {motive : List Char → Prop} (nil : motive [])
    (blank : ∀ c rest, isBlank c = true → motive rest → motive (c :: rest))
    (word : ∀ word rest, word ≠ [] → IsSolid word → FollowsWord rest → motive rest →
      motive (word ++ rest)) (text : List Char) : motive text := by
  induction size : text.length using Nat.strong_induction_on generalizing text with
  | _ count ih =>
    cases text with
    | nil => exact nil
    | cons c rest =>
      by_cases first : isBlank c = true
      · exact blank c rest first (ih rest.length (by simp [← size]) rest rfl)
      · obtain ⟨run, after, whole, solid, follows⟩ := exists_eq_solid_append (c :: rest)
        have nonempty : run ≠ [] := by
          rintro rfl
          rw [List.nil_append] at whole
          exact first (followsWord_cons_iff.mp (whole ▸ follows))
        have shorter : after.length < count := by
          have lengths := congrArg List.length whole
          have positive := List.length_pos_iff.mpr nonempty
          rw [List.length_append] at lengths
          omega
        rw [whole]
        exact word run after nonempty solid follows (ih after.length shorter after rfl)

theorem wordsOfChars_blanks_append {before : List Char} (blank : before.all isBlank = true)
    (text : List Char) : wordsOfChars (before ++ text) = wordsOfChars text := by
  induction before with
  | nil => rfl
  | cons c before ih =>
    rw [List.all_cons, Bool.and_eq_true] at blank
    rw [List.cons_append, wordsOfChars_cons_of_blank blank.1, ih blank.2]

theorem wordsOfChars_append_blanks {after : List Char} (blank : after.all isBlank = true)
    (text : List Char) : wordsOfChars (text ++ after) = wordsOfChars text := by
  induction text using words_induction with
  | nil =>
    have nothing := wordsOfChars_blanks_append blank []
    rwa [List.append_nil] at nothing
  | blank c rest first ih =>
    rw [List.cons_append, wordsOfChars_cons_of_blank first, wordsOfChars_cons_of_blank first, ih]
  | word word rest nonempty solid follows ih =>
    have followsAll := follows.append (followsWord_of_all blank)
    rw [List.append_assoc, wordsOfChars_append nonempty solid followsAll,
      wordsOfChars_append nonempty solid follows, ih]

@[simp]
theorem words_trim (text : String) : words (trim text) = words text := by
  obtain ⟨before, after, whole, blanksBefore, blanksAfter⟩ := exists_eq_trimChars text.toList
  have same : wordsOfChars text.toList = wordsOfChars (trimChars text.toList) := by
    conv_lhs => rw [whole]
    rw [wordsOfChars_append_blanks blanksAfter, wordsOfChars_blanks_append blanksBefore]
  rw [words, words, toList_trim, same]

/-- The first word of a text and what follows the word. -/
structure FirstWord (text word after : String) : Prop where
  eq_append : ∃ before, isBlankText before = true ∧ text = before ++ word ++ after
  ne_empty : word ≠ ""
  solid : IsSolid word.toList
  follows : FollowsWord after.toList

theorem firstWord_append {word : String} (nonempty : word ≠ "") (solid : IsSolid word.toList)
    (more : String) : FirstWord (word ++ " " ++ more) word (" " ++ more) where
  eq_append := ⟨"", rfl, by rw [String.empty_append, String.append_assoc]⟩
  ne_empty := nonempty
  solid := solid
  follows := by
    rw [String.toList_append]
    exact followsWord_cons_iff.mpr rfl

theorem firstWord_last {word : String} (nonempty : word ≠ "") (solid : IsSolid word.toList) :
    FirstWord (" " ++ word) word "" where
  eq_append := ⟨" ", rfl, String.append_empty.symm⟩
  ne_empty := nonempty
  solid := solid
  follows := followsWord_nil

theorem FirstWord.mem_of_mem_word {text word after : String} (first : FirstWord text word after)
    {c : Char} (member : c ∈ word.toList) : c ∈ text.toList := by
  obtain ⟨before, -, rfl⟩ := first.eq_append
  simp [member]

theorem FirstWord.mem_of_mem_after {text word after : String} (first : FirstWord text word after)
    {c : Char} (member : c ∈ after.toList) : c ∈ text.toList := by
  obtain ⟨before, -, rfl⟩ := first.eq_append
  simp [member]

theorem words_of_firstWord {text word after : String} (first : FirstWord text word after) :
    words text = word :: words after := by
  obtain ⟨before, blank, rfl⟩ := first.eq_append
  have nonempty : word.toList ≠ [] := mt String.toList_eq_nil_iff.mp first.ne_empty
  rw [words, String.toList_append, String.toList_append, List.append_assoc,
    wordsOfChars_blanks_append blank, wordsOfChars_append nonempty first.solid first.follows,
    List.map_cons, String.ofList_toList, words]

theorem exists_firstWord {word : String} {more : List String} {text : String}
    (split : words text = word :: more) : ∃ after, FirstWord text word after ∧ words after = more := by
  obtain ⟨chars, rfl⟩ := text.exists_eq_ofList
  rw [words, String.toList_ofList] at split
  induction chars using words_induction with
  | nil => cases split
  | blank c rest first ih =>
    rw [wordsOfChars_cons_of_blank first] at split
    obtain ⟨after, found, others⟩ := ih split
    obtain ⟨before, blank, whole⟩ := found.eq_append
    refine ⟨after, ⟨⟨String.singleton c ++ before, ?_, ?_⟩, found.ne_empty, found.solid,
      found.follows⟩, others⟩
    · simpa [isBlankText, first] using blank
    · apply String.toList_injective
      have chars := congrArg String.toList whole
      simp only [String.toList_ofList, String.toList_append] at chars
      simp [chars]
  | word run rest nonempty solid follows ih =>
    rw [wordsOfChars_append nonempty solid follows, List.map_cons, List.cons.injEq] at split
    obtain ⟨rfl, rfl⟩ := split
    refine ⟨String.ofList rest, ⟨⟨"", rfl, ?_⟩, ?_, ?_, ?_⟩, by rw [words, String.toList_ofList]⟩
    · rw [String.ofList_append, String.empty_append]
    · simpa using nonempty
    · rwa [String.toList_ofList]
    · rwa [String.toList_ofList]

theorem words_eq_cons_iff {text word : String} {more : List String} :
    words text = word :: more ↔ ∃ after, FirstWord text word after ∧ words after = more := by
  constructor
  · exact exists_firstWord
  · rintro ⟨after, first, rfl⟩
    exact words_of_firstWord first

end ShellPractice.Text
