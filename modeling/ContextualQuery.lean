import ContextualQuery.Expression.Printer
import ContextualQuery.Expression.Walk
import ContextualQuery.Highlight
import ContextualQuery.Json.Printer
import ContextualQuery.Main
import ContextualQuery.Proofs.Expression.Boosts
import ContextualQuery.Proofs.Expression.Canonical
import ContextualQuery.Proofs.Expression.Joining
import ContextualQuery.Proofs.Expression.Mapping
import ContextualQuery.Proofs.Expression.Meaning
import ContextualQuery.Proofs.Parser.Beginning
import ContextualQuery.Proofs.Parser.Fault
import ContextualQuery.Proofs.Rendering.RoundTrip
import ContextualQuery.Tree.Lucene
import ContextualQuery.Tree.Outline
import ContextualQuery.Proofs.Config.Discovery
import ContextualQuery.Proofs.Text.LetterCase
import ContextualQuery.Proofs.Config.Merge
import ContextualQuery.Proofs.Config.Warnings
import ContextualQuery.Proofs.Number.Characters
import ContextualQuery.Proofs.Tree.Documented
import ContextualQuery.Proofs.Rendering.Flattened
import ContextualQuery.Proofs.Expression.Separation
import ContextualQuery.Proofs.Rendering.Precedence
import ContextualQuery.Proofs.Rendering.LuceneField
import ContextualQuery.Proofs.Rendering.LuceneShapes
import ContextualQuery.Proofs.Rendering.LuceneReading
import ContextualQuery.Proofs.Rendering.LuceneSpacing
import ContextualQuery.Proofs.Rendering.LuceneInjective
import ContextualQuery.Proofs.Rendering.LuceneRelations
import ContextualQuery.Proofs.Config.EqualsWarning
import ContextualQuery.Proofs.Command.ExitCode
import ContextualQuery.Proofs.Toml.Quoting
import ContextualQuery.Proofs.Toml.Lines
import ContextualQuery.Proofs.Config.Effective
import ContextualQuery.Proofs.FileSystem
import ContextualQuery.Proofs.Config.Template
import ContextualQuery.Proofs.Config.NewFile
import ContextualQuery.Proofs.Command.Init
import ContextualQuery.Proofs.Expression.Association
import ContextualQuery.Proofs.Expression.Gives
import ContextualQuery.Proofs.Expression.Leaves
import ContextualQuery.Proofs.Expression.Reports
import ContextualQuery.Proofs.Tree.Chain
import ContextualQuery.Proofs.Expression.Shapes
import ContextualQuery.Proofs.Token.Pattern
import ContextualQuery.Proofs.Token.Quoting
import ContextualQuery.Proofs.Rendering.LucenePhrases
import ContextualQuery.Proofs.Error.Hint
import ContextualQuery.Proofs.Config.Precedence
import ContextualQuery.Proofs.Expression.Calls
import ContextualQuery.Proofs.Highlight
import ContextualQuery.Proofs.Expression.Substitution
import ContextualQuery.Proofs.Tree.Printer
import ContextualQuery.Proofs.Tree.Rewriting
import ContextualQuery.Proofs.Token.Caret
import ContextualQuery.Proofs.Parser.Transactions
import ContextualQuery.Proofs.Cursor
