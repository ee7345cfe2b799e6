import ChomskyChart.Main
import ChomskyChart.Proofs.Language
import ChomskyChart.Proofs.Grammar.Lookup
import ChomskyChart.Proofs.Grammar.Keys
import ChomskyChart.Proofs.Tree.Occurrence
import ChomskyChart.Proofs.Text.Words
import ChomskyChart.Proofs.Builder.Acceptance
import ChomskyChart.Proofs.Builder.History
import ChomskyChart.Proofs.Reading.Format
import ChomskyChart.Proofs.Reading.Rules
import ChomskyChart.Proofs.Reading.Lexemes
import ChomskyChart.Proofs.Reading.Scanning
import ChomskyChart.Proofs.Reading.Text
import ChomskyChart.Proofs.Reading.RoundTrip
import ChomskyChart.Proofs.Derivation.Distinct
import ChomskyChart.Proofs.Derivation.Leftmost
import ChomskyChart.Proofs.Chart.Simulation
import ChomskyChart.Proofs.Chart.Editing
import ChomskyChart.Proofs.Chart.Grouping
import ChomskyChart.Proofs.Chart.Pruning
import ChomskyChart.Proofs.Chart.Renaming
import ChomskyChart.Proofs.Chart.Strict
import ChomskyChart.Proofs.Chart.Views
import ChomskyChart.Proofs.Chart.Membership
import ChomskyChart.Proofs.Chart.Targets
import ChomskyChart.Proofs.Chart.Exchange
import ChomskyChart.Proofs.Chart.TokenClasses
import ChomskyChart.Proofs.Chart.Counting
import ChomskyChart.Proofs.Console.Prompt
import ChomskyChart.Proofs.Console.Session
import ChomskyChart.Proofs.Console.Exit
import ChomskyChart.Proofs.Reading.Concatenation
import ChomskyChart.Proofs.Tree.Spans
import ChomskyChart.Proofs.Tree.Brackets
import ChomskyChart.Proofs.Text.Quoted
import ChomskyChart.Proofs.Tree.Drawing
import ChomskyChart.Proofs.Grammar.Printing
import ChomskyChart.Proofs.Reading.Layout
import ChomskyChart.Proofs.Reading.Alike
import ChomskyChart.Proofs.Reading.Progress
import ChomskyChart.Proofs.Reading.Places
import ChomskyChart.Proofs.Reading.Finality
import ChomskyChart.Proofs.Reading.Offence
import ChomskyChart.Proofs.Reading.Refusals
import ChomskyChart.Proofs.Chart.Interchange
import ChomskyChart.Proofs.Chart.Recursion
import ChomskyChart.Proofs.Chart.Joining
