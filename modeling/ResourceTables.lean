import ResourceTables.Main
import ResourceTables.Proofs.Refinement.Basic
import ResourceTables.Proofs.Refinement.Operations
import ResourceTables.Proofs.Refinement.Choice
import ResourceTables.Proofs.Refinement.Evaluate
import ResourceTables.Proofs.Decimal.Inverse
import ResourceTables.Proofs.Operators.Choices
import ResourceTables.Proofs.Operators.Elements
import ResourceTables.Proofs.Operators.Rejection
import ResourceTables.Proofs.Refinement.Conditional
import ResourceTables.Proofs.Knownness.Evaluate
import ResourceTables.Proofs.Report.Fences
import ResourceTables.Proofs.Positions.Native
import ResourceTables.Proofs.Inventory.Blocks
import ResourceTables.Proofs.Inventory.Declarations
import ResourceTables.Proofs.Inventory.Session
import ResourceTables.Proofs.Inventory.Identity
import ResourceTables.Proofs.Inventory.Rows
import ResourceTables.Proofs.Encodings.Declarations
import ResourceTables.Proofs.Encodings.JsonTexts
import ResourceTables.Proofs.Encodings.NativeTokens
import ResourceTables.Proofs.Encodings.NativeFiles
import ResourceTables.Proofs.Encodings.JsonFiles
import ResourceTables.Proofs.Encodings.Contents
import ResourceTables.Proofs.Encodings.Agreement
import ResourceTables.Proofs.Inventory.Growth
import ResourceTables.Proofs.Layout.Evaluation
import ResourceTables.Proofs.Layout.Items
import ResourceTables.Proofs.Layout.Distribution
import ResourceTables.Proofs.Writing.Atoms
import ResourceTables.Proofs.Writing.Heredocs
import ResourceTables.Proofs.Writing.Texts
import ResourceTables.Proofs.Writing.Bodies
import ResourceTables.Proofs.Writing.Formulas
import ResourceTables.Proofs.Quotes.Files
import ResourceTables.Proofs.Cells.Requests
import ResourceTables.Proofs.Language.Strings
import ResourceTables.Proofs.Language.Numbers
import ResourceTables.Proofs.Language.Phrases
import ResourceTables.Proofs.Language.Files
import ResourceTables.Proofs.Report.Tables
import ResourceTables.Proofs.Sources.Ahead
import ResourceTables.Proofs.Sources.Copies
import ResourceTables.Proofs.Sources.Lockstep
import ResourceTables.Proofs.Command.Runs
import ResourceTables.Proofs.Inventory.Caches
import ResourceTables.Proofs.Inventory.Restriction
import ResourceTables.Proofs.Report.Lines
import ResourceTables.Proofs.Report.Markdown
import ResourceTables.Proofs.Sources.Attributes
import ResourceTables.Proofs.Addresses.Spellings
import ResourceTables.Proofs.Addresses.Registries
import ResourceTables.Proofs.Inventory.Requirements
import ResourceTables.Proofs.JsonBlocks.Respelled
import ResourceTables.Proofs.Comments.Answers
import ResourceTables.Proofs.Limits.Loading
import ResourceTables.Proofs.Templates.Directives
import ResourceTables.Proofs.Names.Loops
import ResourceTables.Proofs.Grouping.Groups
import ResourceTables.Proofs.Splats.Loops
import ResourceTables.Proofs.Templates.Indentation
import ResourceTables.Proofs.Newlines
import ResourceTables.Proofs.Grouping.Numbers
import ResourceTables.Proofs.Positions.Files
import ResourceTables.Proofs.Inventory.Providers
import ResourceTables.Proofs.Equality
