import MarkupChain.Text.Blank
import MarkupChain.Text.Quoted
import MarkupChain.Text.Similarity
import MarkupChain.Keyed
import MarkupChain.Event
import MarkupChain.Markup.Tag
import MarkupChain.Markup.Node
import MarkupChain.Markup.ReferenceNames
import MarkupChain.Markup.Reference
import MarkupChain.Markup.Vocabulary
import MarkupChain.Markup.Token
import MarkupChain.Markup.Tokenizer
import MarkupChain.Markup.Forest
import MarkupChain.Script.Expr
import MarkupChain.Script.Error
import MarkupChain.Script.Token
import MarkupChain.Script.Definition
import MarkupChain.Script.Layout
import MarkupChain.Script.Format
import MarkupChain.Component.Kind
import MarkupChain.Component.Style
import MarkupChain.Component.Property
import MarkupChain.Component.Emit
import MarkupChain.Component.Convert
import MarkupChain.Command.Arguments
import MarkupChain.Command.FileTree
import MarkupChain.Command.Run
import MarkupChain.Main
import MarkupChain.Proofs.Text.Escaping
import MarkupChain.Proofs.Keyed.Merge
import MarkupChain.Proofs.Script.Spacing
import MarkupChain.Proofs.Script.Scanning
import MarkupChain.Proofs.Script.Grammar
import MarkupChain.Proofs.Script.Acceptance
import MarkupChain.Proofs.Script.Printing
import MarkupChain.Proofs.Script.Splitting
import MarkupChain.Proofs.Script.PastedNames
import MarkupChain.Proofs.Script.Chains
import MarkupChain.Proofs.Script.Formatting
import MarkupChain.Proofs.Script.NormalForm
import MarkupChain.Proofs.Script.Brackets
import MarkupChain.Proofs.Script.PrintWidth
import MarkupChain.Proofs.Script.TidyLines
import MarkupChain.Proofs.Script.Quotation
import MarkupChain.Proofs.Component.Emission
import MarkupChain.Proofs.Component.Readability
import MarkupChain.Proofs.Component.TagNames
import MarkupChain.Proofs.Component.Endings
import MarkupChain.Proofs.Component.Declarations
import MarkupChain.Proofs.Markup.Traversal
import MarkupChain.Proofs.Markup.Nesting
import MarkupChain.Proofs.Markup.RoundTrip
import MarkupChain.Proofs.Markup.Effects
import MarkupChain.Proofs.Markup.RawTokens
import MarkupChain.Proofs.Markup.RawText
import MarkupChain.Proofs.Markup.AttributeNames
import MarkupChain.Proofs.Component.Properties
import MarkupChain.Proofs.Component.Trimming
import MarkupChain.Proofs.Component.Handlers
import MarkupChain.Proofs.Component.EmptyOutput
import MarkupChain.Proofs.Command.Places
import MarkupChain.Proofs.Command.Worlds
import MarkupChain.Proofs.Command.Atomicity
import MarkupChain.Proofs.Command.Directives
import MarkupChain.Proofs.Command.Choices
import MarkupChain.Proofs.Command.Spellings
