import JavadocAudit.Text.Blank
import JavadocAudit.Text.CharacterName
import JavadocAudit.Text.Identifier
import JavadocAudit.Text.Lowercase
import JavadocAudit.Text.Numeral
import JavadocAudit.Text.Printable
import JavadocAudit.Text.Quoted
import JavadocAudit.Text.Template
import JavadocAudit.Text.Uppercase
import JavadocAudit.Text.Utf8
import JavadocAudit.Text.WholeNumber
import JavadocAudit.Value.Reader
import JavadocAudit.Value.Writer
import JavadocAudit.Pattern.Matcher
import JavadocAudit.Source.Lexer
import JavadocAudit.Source.Rule
import JavadocAudit.Source.Grammar
import JavadocAudit.Accessor
import JavadocAudit.Documentation
import JavadocAudit.Finding
import JavadocAudit.Audit
import JavadocAudit.Survey
import JavadocAudit.Check
import JavadocAudit.Disk.Edit
import JavadocAudit.Record
import JavadocAudit.Summary
import JavadocAudit.Command.CheckCommand
import JavadocAudit.Command.ServeCommand
import JavadocAudit.Service
import JavadocAudit.Main
import JavadocAudit.Proofs.Coverage
import JavadocAudit.Proofs.Uniqueness
import JavadocAudit.Proofs.Independence
import JavadocAudit.Proofs.Revision
import JavadocAudit.Proofs.Walk
import JavadocAudit.Proofs.AddedComments
import JavadocAudit.Proofs.AddedDocumentation
import JavadocAudit.Proofs.ChosenSettings
import JavadocAudit.Proofs.Surfaces
import JavadocAudit.Proofs.Exclusion
import JavadocAudit.Proofs.MissingPaths
import JavadocAudit.Proofs.SameFile
import JavadocAudit.Proofs.ClosedCode
import JavadocAudit.Proofs.Noninterference
import JavadocAudit.Proofs.TrivialAccessors
import JavadocAudit.Proofs.CommentRuns
import JavadocAudit.Proofs.SourceOrder
import JavadocAudit.Proofs.LastOption
import JavadocAudit.Proofs.LogLines
import JavadocAudit.Proofs.RelativePaths
import JavadocAudit.Proofs.Trace
import JavadocAudit.Proofs.LoadedSettings
import JavadocAudit.Proofs.TruthValues
import JavadocAudit.Proofs.Tallies
import JavadocAudit.Proofs.FindingTexts
import JavadocAudit.Proofs.Positions
import JavadocAudit.Proofs.Faults
