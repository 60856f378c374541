import ShellPractice.Main
import ShellPractice.Command.Document
import ShellPractice.Proofs.Catalog.Atomicity
import ShellPractice.Proofs.Plan.Matching
import ShellPractice.Proofs.Plan.Stall
import ShellPractice.Proofs.Session.Action
import ShellPractice.Proofs.Command.Display
import ShellPractice.Proofs.Session.Transcript
import ShellPractice.Proofs.Practice.Action
import ShellPractice.Proofs.Text.Keyword
import ShellPractice.Proofs.Text.Words
import ShellPractice.Proofs.Practice.Completion
import ShellPractice.Proofs.Text.LowerCaseWords
import ShellPractice.Proofs.Command.ArgumentCase
import ShellPractice.Proofs.Practice.Components
import ShellPractice.Proofs.Catalog.Invariant
import ShellPractice.Proofs.Catalog.Export
import ShellPractice.Proofs.Config.Store
import ShellPractice.Proofs.CommandLine.Capacity
import ShellPractice.Proofs.Config.SavedSearch
import ShellPractice.Proofs.Config.LastFound
import ShellPractice.Proofs.Catalog.Acceptance
import ShellPractice.Proofs.Command.LetterCase
import ShellPractice.Proofs.CommandLine.Guidance
import ShellPractice.Proofs.Practice.Events
import ShellPractice.Proofs.Plan.Typing
import ShellPractice.Proofs.Session.History
import ShellPractice.Proofs.Catalog.Removal
import ShellPractice.Proofs.Session.Export
import ShellPractice.Proofs.Config.Selection
import ShellPractice.Proofs.CommandLine.Options
import ShellPractice.Proofs.Text.Opening
