import Concordance.Check
import Concordance.Proofs.Index.Invariant
import Concordance.Proofs.Index.Numbers
import Concordance.Proofs.Notation.ReadBack
import Concordance.Proofs.Readme.Convergence
import Concordance.Proofs.Shield.Idempotence
import Concordance.Proofs.Text.Words
import Concordance.Proofs.Url.Anchor
import Concordance.Proofs.Markdown.LinkText
import Concordance.Proofs.Readme.Rows
import Concordance.Proofs.Readme.Branches
import Concordance.Proofs.Html.Elements
import Concordance.Proofs.Readme.Page
import Concordance.Proofs.Readme.Advice
import Concordance.Proofs.Markdown.Code
import Concordance.Proofs.Shield.Rewriting
import Concordance.Proofs.Shield.Restoring
import Concordance.Proofs.Model.Isolation
import Concordance.Proofs.Markdown.Quotes
import Concordance.Proofs.Markdown.MarkupBlocks
import Concordance.Proofs.Markdown.Parts
import Concordance.Proofs.Shield.RawMarkup
import Concordance.Proofs.Shield.Code
import Concordance.Proofs.Markdown.Reach
import Concordance.Proofs.Markdown.Containers
import Concordance.Proofs.Markdown.Lists
import Concordance.Proofs.Check.OneFile
import Concordance.Proofs.Model.Independence
import Concordance.Proofs.Notation.Joining
import Concordance.Proofs.Agreement.Fragments
import Concordance.Proofs.Html.Stack
import Concordance.Proofs.Readme.Items
import Concordance.Proofs.Readme.Passing
import Concordance.Proofs.Markdown.Numbering
import Concordance.Proofs.Readme.Markup
import Concordance.Proofs.Check.Endings
import Concordance.Proofs.Readme.Records
import Concordance.Proofs.Shield.Continuations
import Concordance.Proofs.Shield.NestedCode
import Concordance.Proofs.Check.OneLine
import Concordance.Proofs.Shield.Grid
import Concordance.Proofs.Index.Decision
import Concordance.Proofs.Notation.Recut
import Concordance.Proofs.Notation.Spans
import Concordance.Proofs.Notation.Seams
import Concordance.Proofs.Model.Splitting
import Concordance.Proofs.Html.Preorder
import Concordance.Proofs.Readme.Placement
import Concordance.Proofs.Readme.ItemOrder
import Concordance.Proofs.Agreement.Exactness
import Concordance.Proofs.Agreement.Linking
import Concordance.Proofs.Check.Authority
import Concordance.Proofs.Url.Reduction
import Concordance.Proofs.Reporter.Frames
import Concordance.Proofs.Reporter.Contexts
import Concordance.Proofs.Readme.Documents
import Concordance.Proofs.Html.Places
import Concordance.Proofs.Readme.Marks
import Concordance.Proofs.Readme.EachLink
import Concordance.Proofs.Url.Slug
import Concordance.Proofs.Markdown.Paragraphs
