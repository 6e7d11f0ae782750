import Concordance.Markdown.Structure
import Concordance.Proofs.Markdown.LinkText
import Concordance.Proofs.Url.Anchor
import Concordance.Readme.Plan

/-!
# Lines that list headings

The index document lists a heading of the first level as an item of a list, and one of the second
level as an item of a list inside the item before it.  What such lines are to the readers of blocks
does not depend on the container they are read in.

* `Row` is such a line for a heading that is `IsListable`, and `Row.head` is what the item that it
  opens sees of it.
* `readBlock_line`: a line opens a list, and no other block takes it.
* `readBlock_head`: the content of an item is a paragraph, which ends with the line.
-/

namespace Concordance.Readme

open Text Markdown

/-! ## Lines -/

/-- A heading of the first two levels, whose title is made of words and whose document has a plain
name. -/
structure IsListable (s : Section) : Prop where
  level : s.level = 1 ∨ s.level = 2
  title : IsTitle s.title
  title_ne : s.title ≠ []
  slug_ne : slug s.title ≠ []
  file : IsDocumentName s.sourceFile
  anchor : s.anchor = anchor s.title s.sourceFile

/-- A line that lists a heading, and where it stands in the index document. -/
structure Row where
  heading : Section
  listable : IsListable heading
  number : Nat
  /-- Whether a line feed ends the line. -/
  ended : Bool

namespace Row

variable (r : Row)

/-- Whether the line is an item inside the item before it. -/
def nested : Bool := r.heading.level = 2

/-- The column at which the line begins. -/
def column : Nat := if r.nested then 2 else 0

/-- The link that the line holds. -/
def text : Text := linkText r.heading.title r.heading.anchor

/-- The line as a document has it. -/
def line : Line where
  number := r.number
  text := List.replicate r.column ' ' ++ '*' :: ' ' :: r.text
  shift := r.column
  indent := r.column
  ended := r.ended

/-- The line as the item sees it that it opens. -/
def head : Line := { r.line with shift := r.column + 2, indent := r.column + 2 }

/-- The container that the line makes. -/
def inner (c : Container) : Container := { indent := r.column + 2, listIndent := some c.indent }

/-- The paragraph that holds the link. -/
def paragraph : Block := .paragraph r.number r.text

theorem column_le : r.column ≤ 2 := by
  rw [column]
  split <;> decide

theorem indent_line : r.line.indent = r.column := rfl

theorem indent_line_le : 0 ≤ r.line.indent ∧ r.line.indent ≤ 2 := by
  have hcolumn := r.column_le
  rw [indent_line]
  omega

theorem isPlain_of_mem_title {c : Char} (hc : c ∈ r.heading.title) : isPlain c = true := by
  have hsigns : ∀ d ∈ "\n!#$%&*+-:<=>@[\\]^_\x60\x7b\x7d~".toList,
      isAlphanumeric d = false ∧ d ≠ ' ' := forall_mem_of_all (by decide)
  rw [isPlain, Bool.not_eq_true', Bool.eq_false_iff]
  intro hmem
  obtain ⟨hd, hspace⟩ := hsigns c (List.contains_iff_mem.1 hmem)
  exact r.listable.title.ne hc hd hspace rfl

theorem content_line : r.line.content = '*' :: ' ' :: r.text := by
  rw [Line.content, line]
  exact List.drop_left' (by simp)

theorem content_head : r.head.content = r.text := by
  have hsplit : r.line.text = (List.replicate r.column ' ' ++ ['*', ' ']) ++ r.text := by
    simp [line]
  rw [Line.content, head]
  simp only [hsplit]
  exact List.drop_left' (by simp)

theorem text_eq :
    r.text = '[' :: (r.heading.title ++ ']' :: '(' :: (r.heading.anchor ++ [')'])) := rfl

end Row

/-! ## Lines of items -/

section

variable (c : Container) (r : Row)

theorem isCode_line : c.isCode r.line = false := by
  have hindent := r.indent_line_le
  rw [Container.isCode, decide_eq_false_iff_not]
  omega

theorem isEmpty_line : r.line.isEmpty = false := by
  rw [Line.isEmpty, r.content_line]
  rfl

theorem isBreak_line : c.isBreak r.line = false := by
  rw [Container.isBreak, r.content_line, r.text_eq]
  simp [isBreakText, isSpace]

theorem fence?_line : c.fence? r.line = none := by
  rw [Container.fence?, isCode_line, r.content_line]
  simp [openFence?]

theorem opensQuote_line : c.opensQuote r.line = false := by
  rw [Container.opensQuote, r.content_line]
  simp

/-- The marker of a line. -/
def Row.marker : Marker := ⟨none, '*', 1, ' ' :: r.text⟩

theorem marker?_content_line : marker? r.line.content = some r.marker := by
  rw [r.content_line]
  rfl

theorem marker?_line : c.marker? r.line = some r.marker := by
  have hindent := r.indent_line_le
  have hout : (c.listIndent.any fun i => 4 ≤ r.line.indent - i && r.line.indent < c.indent) =
      false := by
    cases c.listIndent with
    | none => rfl
    | some i =>
      simp only [Option.pure_def, Option.bind_eq_bind, Option.bind_some, Option.any_some,
        Bool.and_eq_false_iff, decide_eq_false_iff_not]
      omega
  rw [Container.marker?, isCode_line, hout, marker?_content_line]
  rfl

theorem interruptsList_line : c.interruptsList r.line = false := by
  rw [Container.interruptsList, fence?_line, opensQuote_line, isBreak_line]
  rfl

/-- A line that lists a heading ends a paragraph before it. -/
theorem continues_line (ls : List Line) : c.continues r.line ls = false := by
  have hlist : c.listInterrupts r.line = true := by
    rw [Container.listInterrupts, marker?_line]
    simp [Row.marker, Row.text_eq, isSpace]
  have hparagraph : c.interruptsParagraph r.line ls = true := by
    rw [Container.interruptsParagraph, hlist]
    simp
  have hindent := r.indent_line_le
  have hnear : (decide (3 < r.line.indent - c.indent) || decide (r.line.indent < 0)) = false := by
    rw [Bool.or_eq_false_iff, decide_eq_false_iff_not, decide_eq_false_iff_not]
    omega
  rw [Container.continues, isEmpty_line, hparagraph, hnear]
  rfl

/-- No table has a head above a line that lists a heading. -/
theorem tableHead?_rows (l : Line) (rows : List Row) :
    c.tableHead? l (rows.map Row.line) = none := by
  cases rows with
  | nil => rfl
  | cons r rows =>
    have hcolumns : delimiterColumns? r.line.content = none := by
      rw [r.content_line]
      simp [delimiterColumns?, isSpace]
    rw [List.map_cons, Container.tableHead?, hcolumns]
    simp

theorem underlineAt?_rows (rows : List Row) : underlineAt? c (rows.map Row.line) = none := by
  cases rows with
  | nil => rfl
  | cons r rows =>
    have hsign : underline? r.line.content = none := by
      rw [r.content_line]
      simp [underline?]
    rw [List.map_cons, underlineAt?, hsign, continues_line]
    simp

theorem paragraphLength_rows (rows : List Row) : paragraphLength c (rows.map Row.line) = 0 := by
  cases rows with
  | nil => rfl
  | cons r rows =>
    rw [List.map_cons, paragraphLength, continues_line]
    rfl

end

/-! ## Blocks -/

/-- A label of plain characters ends at its bracket, to the reader of definitions, too. -/
theorem label?_append {label : Text} (h : ∀ c ∈ label, isPlain c = true) (rest : Text) :
    label? (label ++ ']' :: rest) = some (label, rest) := by
  induction label with
  | nil =>
    rw [List.nil_append, label?.eq_def]
    rfl
  | cons d label ih =>
    have hd : d ≠ '[' ∧ d ≠ ']' ∧ d ≠ '\\' := by
      refine ⟨?_, ?_, ?_⟩ <;> rintro rfl <;> exact absurd (h _ List.mem_cons_self) (by decide)
    rw [List.cons_append, label?.eq_def]
    simp only [hd, if_false, ih fun e he => h e (List.mem_cons_of_mem _ he), Option.map_some]

section

variable (quoteBody listBody : Reader) (c : Container) (r : Row) (rows : List Row)

/-- A line that lists a heading opens a list. -/
theorem readBlock_line :
    readBlock quoteBody listBody c r.line (rows.map Row.line) =
      (.list r.number none
          (readItems listBody c (rows.length + 1) false r.marker r.line (rows.map Row.line)).tight
          (readItems listBody c (rows.length + 1) false r.marker r.line (rows.map Row.line)).items,
        (readItems listBody c (rows.length + 1) false r.marker r.line
          (rows.map Row.line)).used) := by
  simp only [readBlock, Container.table?, tableHead?_rows, Container.code?, isCode_line,
    Container.fenced?, fence?_line, Container.quote?, opensQuote_line, readBlock.breakBlock?,
    isBreak_line, Container.list?, marker?_line]
  simp
  exact ⟨rfl, rfl⟩

theorem isCode_head : (r.inner c).isCode r.head = false := by
  rw [Container.isCode, decide_eq_false_iff_not]
  simp only [Row.inner, Row.head]
  omega

theorem definition?_text (rest : Text) : definition? (r.text ++ rest) = none := by
  have htext : r.text ++ rest =
      '[' :: (r.heading.title ++ ']' :: '(' :: (r.heading.anchor ++ [')'] ++ rest)) := by
    simp [Row.text_eq]
  rw [htext, definition?, label?_append fun d hd => r.isPlain_of_mem_title hd]
  rfl

theorem runningText_head : (r.inner c).runningText [r.head] = r.text := by
  have hcut : r.head.cut (r.column + 2) = r.text := by
    simp only [Line.cut, Row.head, Row.line, Row.column]
    cases r.nested with
    | false => rfl
    | true => rfl
  have hlast : ∀ d ∈ r.text.getLast?, isBlank d = false := by
    have htext : r.text =
        ('[' :: (r.heading.title ++ ']' :: '(' :: r.heading.anchor)) ++ [')'] := by
      simp [Row.text_eq]
    rw [htext, List.getLast?_concat]
    simp [isBlank]
  have hhead : ∀ d ∈ r.text.head?, isBlank d = false := by
    simp [Row.text_eq, isBlank]
  simp only [Container.runningText, Row.inner, Line.cutJoined, List.map_cons, List.map_nil, hcut,
    joinWith]
  exact trim_of_ends hhead hlast

/-- The content of an item is a paragraph that ends with the line. -/
theorem readBlock_head :
    readBlock quoteBody listBody (r.inner c) r.head (rows.map Row.line) = (r.paragraph, 1) := by
  have hfence : (r.inner c).fence? r.head = none := by
    rw [Container.fence?, isCode_head, r.content_head, Row.text_eq]
    simp [openFence?]
  have hquote : (r.inner c).opensQuote r.head = false := by
    rw [Container.opensQuote, r.content_head, Row.text_eq]
    simp
  have hbreak : (r.inner c).isBreak r.head = false := by
    rw [Container.isBreak, r.content_head, Row.text_eq]
    simp [isBreakText]
  have hmarker : (r.inner c).marker? r.head = none := by
    rw [Container.marker?, r.content_head, Row.text_eq]
    simp [Markdown.marker?]
  have hmarkup : (r.inner c).markup? r.head = none := by
    rw [Container.markup?, isCode_head, r.content_head, Row.text_eq]
    simp [markupEnd?]
  have hheading : (r.inner c).heading? r.head = none := by
    rw [Container.heading?, isCode_head, r.content_head, Row.text_eq]
    simp [signedHeading?]
  have hdefinition : (r.inner c).definition? r.head (rows.map Row.line) = none := by
    rw [Container.definition?, isCode_head, r.content_head, List.append_assoc, definition?_text]
    rfl
  simp only [readBlock, Container.table?, tableHead?_rows, Container.code?, isCode_head,
    Container.fenced?, hfence, Container.quote?, hquote, readBlock.breakBlock?, hbreak,
    Container.list?, hmarker, hdefinition, Container.markupBlock?, hmarkup,
    readBlock.headingBlock?, hheading, Container.underlined?, underlineAt?_rows,
    Container.paragraph, paragraphLength_rows, List.take_succ_cons, List.take_zero,
    runningText_head]
  rfl

end

end Concordance.Readme
