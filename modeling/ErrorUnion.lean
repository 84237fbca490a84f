import ErrorUnion.Main
import ErrorUnion.Sample.Session
import ErrorUnion.Proofs.Generation.Outcome
import ErrorUnion.Proofs.Union.Meaning
import ErrorUnion.Proofs.Union.Predicates
import ErrorUnion.Proofs.Union.Variants
import ErrorUnion.Proofs.Decl.Marks
import ErrorUnion.Proofs.Decl.Nesting
import ErrorUnion.Proofs.Generation.Crates
import ErrorUnion.Proofs.Text.Prose
import ErrorUnion.Proofs.Generation.Nesting
import ErrorUnion.Proofs.Model.Acceptance
import ErrorUnion.Proofs.Name.Collision
import ErrorUnion.Proofs.Generation.Identifiers
import ErrorUnion.Proofs.Model.Document
import ErrorUnion.Proofs.Union.Display
import ErrorUnion.Proofs.Generation.Documentation
import ErrorUnion.Proofs.Generation.Deprecation
import ErrorUnion.Proofs.Command.Settings
import ErrorUnion.Proofs.Command.Entries
import ErrorUnion.Proofs.Command.Report
import ErrorUnion.Proofs.Command.Path
import ErrorUnion.Proofs.Command.FileTree
import ErrorUnion.Proofs.Command.Manifest
import ErrorUnion.Proofs.Command.Outputs
import ErrorUnion.Proofs.Command.Order
import ErrorUnion.Proofs.Command.Check
import ErrorUnion.Proofs.Command.Changes
import ErrorUnion.Proofs.Record.Alarm
import ErrorUnion.Proofs.Text.Fences
import ErrorUnion.Proofs.Text.Blocks
import ErrorUnion.Proofs.Text.Containers
import ErrorUnion.Proofs.Decl.Attributes
import ErrorUnion.Proofs.Union.Bindings
import ErrorUnion.Proofs.Union.Lookups
import ErrorUnion.Proofs.Union.Recognition
import ErrorUnion.Proofs.Decl.Indentation
import ErrorUnion.Proofs.Record.Builder
import ErrorUnion.Proofs.Metadata
import ErrorUnion.Proofs.Name.Snake
