import Concordance.Markdown.Block

/-!
# Events

The blocks of a document as one sequence: each container opens before what is in it and closes
behind it.  An event knows how many containers are open around it.
-/

namespace Concordance.Markdown

open Text

/-- Whether an event opens a container, closes it, or stands for itself. -/
inductive Nesting where
  | opens
  | closes
  | stands
  deriving DecidableEq, Repr

/-- What an event is about. -/
inductive Topic where
  | paragraph
  | heading (level : Nat)
  | code (text : Text)
  /-- Code between fences; `info` stands behind the opening fence. -/
  | fence (info text : Text)
  | markup (text : Text)
  | thematicBreak
  | quote
  | list (ordered : Bool)
  | item
  | table
  /-- The part of a table above its other rows. -/
  | tableHead
  | tableBody
  | row
  | headCell
  | cell
  /-- Running text. -/
  | running (text : Text)
  deriving DecidableEq, Repr

/-- An event. -/
structure Event where
  topic : Topic
  nesting : Nesting
  /-- How many containers are open around the event. -/
  level : Nat
  /-- The number of the first line from zero, where the event has lines of its own. -/
  line : Option Nat := none
  deriving DecidableEq, Repr

/-- The events of a container around others. -/
def enclosed (topic : Topic) (level : Nat) (line : Option Nat) (inner : List Event) : List Event :=
  ⟨topic, .opens, level, line⟩ :: (inner ++ [⟨topic, .closes, level, none⟩])

/-- The events of running text in a container. -/
def runningIn (topic : Topic) (level : Nat) (line : Option Nat) (text : Text) : List Event :=
  enclosed topic level line [⟨.running text, .stands, level + 1, line⟩]

/-- The events of a row of a table, whose cells are of one kind. -/
def rowEvents (topic : Topic) (level : Nat) (cells : List Text) : List Event :=
  enclosed .row level none (cells.flatMap (runningIn topic (level + 1) none))

/-- The events in a table; without other rows there is only its head. -/
def tableEvents (level : Nat) (head : List Text) (rows : List (List Text)) : List Event :=
  enclosed .tableHead level none (rowEvents .headCell (level + 1) head) ++
    if rows = [] then []
    else enclosed .tableBody level none (rows.flatMap (rowEvents .cell (level + 1)))

mutual

/-- The events of a block. -/
def Block.events (level : Nat) : Block → List Event
  | .paragraph line text => runningIn .paragraph level (some line) text
  | .heading line depth text => runningIn (.heading depth) level (some line) text
  | .code line text => [⟨.code text, .stands, level, some line⟩]
  | .fence line info text => [⟨.fence info text, .stands, level, some line⟩]
  | .markup line text => [⟨.markup text, .stands, level, some line⟩]
  | .thematicBreak line => [⟨.thematicBreak, .stands, level, some line⟩]
  | .quote line body => enclosed .quote level (some line) (eventsIn (level + 1) body)
  | .list line start _ items =>
    enclosed (.list start.isSome) level (some line) (eventsInItems (level + 1) items)
  | .table line head rows =>
    enclosed .table level (some line) (tableEvents (level + 1) head rows)
  | .definition _ _ _ => []

/-- The events of an item. -/
def Item.events (level : Nat) : Item → List Event
  | .mk line body => enclosed .item level (some line) (eventsIn (level + 1) body)

/-- The events of blocks, in order. -/
def eventsIn (level : Nat) : List Block → List Event
  | [] => []
  | b :: bs => b.events level ++ eventsIn level bs

/-- The events of items, in order. -/
def eventsInItems (level : Nat) : List Item → List Event
  | [] => []
  | i :: is => i.events level ++ eventsInItems level is

end

end Concordance.Markdown
