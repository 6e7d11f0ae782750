import Concordance.Document
import Concordance.Markdown.Event
import Concordance.Markdown.Inline
import Concordance.Markdown.Structure
import Concordance.Shield

/-!
# The outline of a document

A text is read as blocks, and the definitions in it are gathered, before running text is read.  The
outline is what the outermost blocks say: the headings with their titles, the code, and of the
others only what they are.  It is taken from the events, those at level zero.
-/

namespace Concordance.Markdown

open Text

/-- Line breaks as line feeds, and no character with the number zero. -/
def prepare (t : Text) : Text :=
  (normalizeBreaks t).map fun c => if c.toNat = 0 then '\ufffd' else c

/-! ## Definitions -/

mutual

/-- The definitions in a block. -/
def Block.definitions : Block → Definitions
  | .definition key destination title => [(key, ⟨destination, title⟩)]
  | .quote _ body => definitionsIn body
  | .list _ _ _ items => definitionsInItems items
  | _ => []

/-- The definitions in an item. -/
def Item.definitions : Item → Definitions
  | .mk _ body => definitionsIn body

/-- The definitions in blocks, in order; of several with one label the first counts. -/
def definitionsIn : List Block → Definitions
  | [] => []
  | b :: bs => b.definitions ++ definitionsIn bs

/-- The definitions in items. -/
def definitionsInItems : List Item → Definitions
  | [] => []
  | i :: is => i.definitions ++ definitionsInItems is

end

/-! ## Outlines -/

/-- How content that a title cannot hold is called. -/
def Unsupported.name : Unsupported → Text
  | .image => "image".toList
  | .markup => "html_inline".toList

/-- The heading that spans make: their text on one line, and what it cannot hold. -/
def headingOf (line : Option Int) (level : Nat) (spans : List Span) : Heading :=
  { level := level
    text := joinWith [' '] (words (plainAll spans))
    line := line
    unsupported := (unsupportedAll spans).map Unsupported.name }

/-- How a block that says nothing else is called. -/
def Topic.name : Topic → Text
  | .paragraph => "paragraph".toList
  | .markup _ => "html_block".toList
  | .thematicBreak => "hr".toList
  | .quote => "blockquote".toList
  | .item => "list_item".toList
  | .table => "table".toList
  | .tableHead => "thead".toList
  | .tableBody => "tbody".toList
  | .row => "tr".toList
  | .headCell => "th".toList
  | .cell => "td".toList
  | .heading _ => "heading".toList
  | .code _ => "code_block".toList
  | .fence _ _ => "fence".toList
  | .list _ => "list".toList
  | .running _ => "inline".toList

/-- The running text that stands at the front of events. -/
def runningText : List Event → Text
  | ⟨.running text, _, _, _⟩ :: _ => text
  | _ => []

/-- How many items of the outermost list stand in front of its end. -/
def countItems (rest : List Event) : Nat :=
  (rest.takeWhile (·.level != 0)).countP fun e =>
    e.topic == .item && e.nesting == .opens && e.level == 1

/-- What the block says that an event begins; `rest` is behind the event. -/
def Event.paragraph (definitions : Definitions) (e : Event) (rest : List Event) : Paragraph :=
  let line : Option Int := e.line.map fun n => n + 1
  match e.topic with
  | .heading level => .heading (headingOf line level (readSpans definitions (runningText rest)))
  | .code text => .code [] text line
  | .fence info text => .code ((words info).headD []) text line
  | .list ordered => .list ordered (countItems rest) line
  | t => .other t.name line

/-- What the outermost blocks say that events make up. -/
def paragraphs (definitions : Definitions) : List Event → List Paragraph
  | [] => []
  | e :: rest =>
    if e.level = 0 ∧ e.nesting ≠ .closes then
      e.paragraph definitions rest :: paragraphs definitions rest
    else paragraphs definitions rest

/-- The outline of a text. -/
def outline (t : Text) : List Paragraph :=
  let bs := blocks (prepare t)
  paragraphs (definitionsIn bs) (eventsIn 0 bs)

end Concordance.Markdown

namespace Concordance

/-- Read the document at a path; what would be misread is shielded first. -/
def Document.read (path text : Text) : Document :=
  ⟨path, Markdown.outline (Shield.shield text)⟩

end Concordance
