import Bindery.Book
import Bindery.Command
import Bindery.CommandLine.Commands
import Bindery.CommandLine.Grammar
import Bindery.CommandLine.Help
import Bindery.CommandLine.Run
import Bindery.Diagram
import Bindery.Directive
import Bindery.Display.Cells
import Bindery.Display.Fault
import Bindery.Display.Handler
import Bindery.Display.Markup
import Bindery.Display.Page
import Bindery.Display.StyleName
import Bindery.Display.StyledText
import Bindery.Display.Table
import Bindery.Display.Width
import Bindery.Display.Wrap
import Bindery.Document
import Bindery.Excerpt
import Bindery.Fault
import Bindery.FileStore
import Bindery.Location
import Bindery.Logging
import Bindery.Main
import Bindery.Manuscript
import Bindery.Number.Binary64
import Bindery.Number.Fraction
import Bindery.Number.Limit
import Bindery.Outcome
import Bindery.Path
import Bindery.Phase
import Bindery.Phase.Program
import Bindery.Project
import Bindery.Proofs.FileStore.Access
import Bindery.Proofs.Path.Place
import Bindery.Rehearsal
import Bindery.Report.Artifacts
import Bindery.Report.Basic
import Bindery.Report.Outcome
import Bindery.Report.Timings
import Bindery.Repository.Basic
import Bindery.Repository.Git
import Bindery.Section
import Bindery.Settings.Basic
import Bindery.Settings.Environment
import Bindery.Settings.Issue
import Bindery.Settings.Load
import Bindery.Settings.Search
import Bindery.Shell.BuiltIn
import Bindery.Shell.Condition
import Bindery.Shell.Expansion
import Bindery.Shell.Field
import Bindery.Shell.Formula
import Bindery.Shell.Grammar
import Bindery.Shell.Machine
import Bindery.Shell.Octets
import Bindery.Shell.Printing
import Bindery.Shell.Run
import Bindery.Shell.Script
import Bindery.Shell.Session
import Bindery.Shell.Tool
import Bindery.Shell.Wildcard
import Bindery.Shell.Word
import Bindery.Source.Collection
import Bindery.Source.Pattern
import Bindery.SourceMark
import Bindery.Staleness
import Bindery.Substitution
import Bindery.Text.Blank
import Bindery.Text.Casing
import Bindery.Text.Digit
import Bindery.Text.Lines
import Bindery.Text.Lowercase
import Bindery.Text.Printable
import Bindery.Text.Quoted
import Bindery.Text.Scan
import Bindery.Text.Utf8
import Bindery.Text.WordChar
import Bindery.Toml.Document
import Bindery.Toml.Scalar
import Bindery.Value.Basic
import Bindery.Value.Json
import Bindery.Value.JsonReader
import Bindery.Value.Merge
import Bindery.World
import Bindery.Proofs.FileStore.Directories
import Bindery.Proofs.Press.Rendering
import Bindery.Proofs.World.Faults
import Bindery.Proofs.Command.Contract
import Bindery.Proofs.Staleness.Overdue
import Bindery.Proofs.Press.Publishing
import Bindery.Proofs.Build.Item
import Bindery.Proofs.Build.Treatment
import Bindery.Proofs.Build.Phases
import Bindery.Proofs.Build.Operation
import Bindery.Proofs.Build.Plan
import Bindery.Proofs.Build.Rerun
import Bindery.Proofs.Build.Repetition
import Bindery.Proofs.Build.Failure
import Bindery.Proofs.Build.Debt
import Bindery.Proofs.Build.Boundary
import Bindery.Proofs.Build.Written
import Bindery.Proofs.Build.Blame
import Bindery.Proofs.Build.Truncation
import Bindery.Proofs.Source.Listing
import Bindery.Proofs.Build.Fresh
import Bindery.Proofs.CommandLine.Piping
import Bindery.Proofs.Build.Inclusion
import Bindery.Proofs.Display.Cutting
import Bindery.Proofs.Display.Framed
import Bindery.Proofs.Display.Setting
import Bindery.Proofs.Display.Straight
import Bindery.Proofs.Display.Tags
import Bindery.Proofs.Excerpt.Extraction
import Bindery.Proofs.Press.Filling
import Bindery.Proofs.Build.Warning
import Bindery.Proofs.Build.Treatable
import Bindery.Proofs.Build.Partial
import Bindery.Proofs.World.Recording
import Bindery.Proofs.Build.Transparency
import Bindery.Proofs.Phase.Nesting
import Bindery.Proofs.World.Bounds
import Bindery.Proofs.Build.Containment
import Bindery.Proofs.World.Replay
import Bindery.Proofs.World.Exchange
import Bindery.Proofs.Build.Order
import Bindery.Proofs.Settings.Precedence
import Bindery.Proofs.CommandLine.Switches
import Bindery.Proofs.Report.Lossless
import Bindery.Proofs.Report.Naming
import Bindery.Proofs.Report.Remarks
import Bindery.Proofs.Report.Rows
import Bindery.Proofs.Report.Telling
import Bindery.Proofs.Press.Stripping
import Bindery.Proofs.Section.Slicing
import Bindery.Proofs.SourceMark.Agreement
import Bindery.Proofs.Directive.Expansion
import Bindery.Proofs.Substitution.Together
import Bindery.Proofs.Substitution.Exchange
import Bindery.Proofs.Directive.Comma
import Bindery.Proofs.Directive.Seam
import Bindery.Proofs.Press.PathTokens
import Bindery.Proofs.Directive.Course
import Bindery.Proofs.Location.Reading
import Bindery.Proofs.Excerpt.Verbatim
import Bindery.Proofs.Build.Showing
import Bindery.Proofs.Build.Drafting
import Bindery.Proofs.Path.Ascent
import Bindery.Proofs.Excerpt.WorkingTree
import Bindery.Proofs.FileStore.Lawful
import Bindery.Proofs.Source.Catalogue
import Bindery.Proofs.Build.Drawing
import Bindery.Proofs.Build.Timing
import Bindery.Proofs.Command.Output
import Bindery.Proofs.FileStore.Descent
import Bindery.Proofs.Repository.Beside
import Bindery.Proofs.Repository.Branches
import Bindery.Proofs.Repository.Limited
import Bindery.Proofs.Settings.Nearest
