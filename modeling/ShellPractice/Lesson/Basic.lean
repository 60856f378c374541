import ShellPractice.Lesson.Plan
import ShellPractice.Text.Blank

/-!
# Lessons

A lesson is an ordered list of commands to type.  It may describe each of them by an exercise; then
its exercises and its expected commands must agree step by step.
-/

namespace ShellPractice

/-- How demanding a lesson is. -/
inductive Difficulty where
  | beginner
  | intermediate
  | advanced
  | expert
  deriving DecidableEq, Repr

/-- Every difficulty, from the easiest. -/
def Difficulty.all : List Difficulty :=
  [.beginner, .intermediate, .advanced, .expert]

/-- The name of a difficulty. -/
def Difficulty.name : Difficulty → String
  | .beginner => "Beginner"
  | .intermediate => "Intermediate"
  | .advanced => "Advanced"
  | .expert => "Expert"

/-- The description of one step of a lesson. -/
structure Exercise where
  command : String
  description : String
  explanation : String
  deriving DecidableEq, Repr

/-- The working directory of a terminal for which none is given. -/
def defaultDirectory : String :=
  "/home/user"

/-- A list of commands to practice. -/
structure Lesson where
  id : String
  title : String
  description : String
  difficulty : Difficulty
  directory : String
  expected : List String
  exercises : List Exercise
  deriving DecidableEq, Repr

/-- What makes a lesson unacceptable. -/
inductive LessonFlaw where
  | blankId
  | exerciseCount (exercises commands : Nat)
  /-- The exercise of a step, counted from one, is for another command. -/
  | exerciseMismatch (step : Nat)
  deriving DecidableEq, Repr

/-- What is wrong with a lesson, in words. -/
def LessonFlaw.reason : LessonFlaw → String
  | blankId => "Lesson id cannot be empty"
  | exerciseCount exercises commands =>
    toString exercises ++ " exercises for " ++ toString commands ++ " expected commands"
  | exerciseMismatch step =>
    "Exercise " ++ toString step ++ " does not match its expected command"

namespace Lesson

/-- A lesson whose expected commands are those of its exercises. -/
def ofExercises (id title description : String) (difficulty : Difficulty)
    (exercises : List Exercise) : Lesson where
  id := id
  title := title
  description := description
  difficulty := difficulty
  directory := defaultDirectory
  expected := exercises.map Exercise.command
  exercises := exercises

/-- The plan of a learner who opens the lesson. -/
def plan (lesson : Lesson) : Plan :=
  Plan.start lesson.expected

/-- The exercise of a step, counted from zero. -/
def exercise? (lesson : Lesson) (step : Nat) : Option Exercise :=
  lesson.exercises[step]?

/-- The first position of a list whose item also stands before it. -/
def firstRepeat? (commands : List String) : Option Nat :=
  (List.range commands.length).find? fun index =>
    commands[index]?.any (commands.take index).contains

/-- The first step that repeats an earlier command letter by letter; a learner cannot get past
it. -/
def repeatedStep? (lesson : Lesson) : Option Nat :=
  firstRepeat? lesson.expected

/-- The first position at which an exercise is for another command than the one expected. -/
def firstMismatch? : List Exercise → List String → Option Nat
  | exercise :: exercises, command :: commands =>
    if exercise.command = command then (firstMismatch? exercises commands).map (· + 1)
    else some 0
  | _, _ => none

/-- The first flaw of a lesson: a blank id, then the number of its exercises, then their
commands. -/
def flaw? (lesson : Lesson) : Option LessonFlaw :=
  if Text.isBlankText lesson.id then some .blankId
  else if lesson.exercises.isEmpty then none
  else if lesson.exercises.length ≠ lesson.expected.length then
    some (.exerciseCount lesson.exercises.length lesson.expected.length)
  else (firstMismatch? lesson.exercises lesson.expected).map fun step =>
    .exerciseMismatch (step + 1)

end Lesson

end ShellPractice
