import Concordance.Markdown.Outline

/-!
# Documents as pages

A document is written as markup.  Each item of a list carries the number of its line, so that a
link found on the page can be traced to the document.
-/

namespace Concordance.Markdown

open Text

/-- A text whose characters stand for themselves in markup. -/
def escapeHtml (t : Text) : Text :=
  t.flatMap fun c =>
    if c = '&' then "&amp;".toList
    else if c = '<' then "&lt;".toList
    else if c = '>' then "&gt;".toList
    else if c = '\x22' then "&quot;".toList
    else [c]

/-- An attribute of a tag. -/
def attributeHtml (name : String) (value : Text) : Text :=
  [' '] ++ name.toList ++ ['=', '\x22'] ++ escapeHtml value ++ ['\x22']

/-- A title as an attribute, unless it is empty. -/
def titleAttribute (title : Text) : Text := if title = [] then [] else attributeHtml "title" title

/-- An element around markup. -/
def enclose (name : String) (attributes body : Text) : Text :=
  ['<'] ++ name.toList ++ attributes ++ ['>'] ++ body ++ "</".toList ++ name.toList ++ ['>']

/-! ## Running text -/

mutual

/-- A span as markup. -/
def Span.html : Span → Text
  | .text t => escapeHtml t
  | .code t => enclose "code" [] (escapeHtml t)
  | .softBreak => ['\n']
  | .hardBreak => "<br />\n".toList
  | .markup t => t
  | .image target label =>
    "<img".toList ++ attributeHtml "src" target.destination ++ attributeHtml "alt" label ++
      titleAttribute target.title ++ " />".toList
  | .emphasis _ body => enclose "em" [] (spansHtml body)
  | .strong body => enclose "strong" [] (spansHtml body)
  | .link target body =>
    enclose "a" (attributeHtml "href" target.destination ++ titleAttribute target.title)
      (spansHtml body)

/-- Spans as markup. -/
def spansHtml : List Span → Text
  | [] => []
  | s :: ss => s.html ++ spansHtml ss

end

/-- Running text as markup. -/
def textHtml (definitions : Definitions) (t : Text) : Text :=
  spansHtml (readSpans definitions t)

/-! ## Blocks -/

/-- A row of a table as markup. -/
def rowHtml (definitions : Definitions) (cell : String) (cells : List Text) : Text :=
  enclose "tr" [] ('\n' :: cells.flatMap fun c =>
    enclose cell [] (textHtml definitions c) ++ ['\n']) ++ ['\n']

/-- The language of code between fences, as an attribute. -/
def languageAttribute (info : Text) : Text :=
  match words (unescape info) with
  | [] => []
  | w :: _ => attributeHtml "class" ("language-".toList ++ w)

mutual

/-- A block as markup; in a `tight` item a paragraph is only its text. -/
def Block.html (definitions : Definitions) (tight : Bool) : Block → Text
  | .paragraph _ t =>
    if tight then textHtml definitions t ++ ['\n']
    else enclose "p" [] (textHtml definitions t) ++ ['\n']
  | .heading _ level t =>
    enclose (String.ofList ('h' :: ofInt level)) [] (textHtml definitions t) ++ ['\n']
  | .code _ t => enclose "pre" [] (enclose "code" [] (escapeHtml t)) ++ ['\n']
  | .fence _ info t =>
    enclose "pre" [] (enclose "code" (languageAttribute info) (escapeHtml t)) ++ ['\n']
  | .markup _ t => t
  | .thematicBreak _ => "<hr />\n".toList
  | .quote _ body => enclose "blockquote" [] ('\n' :: blocksHtml definitions false body) ++ ['\n']
  | .list _ none tight items =>
    enclose "ul" [] ('\n' :: itemsHtml definitions tight items) ++ ['\n']
  | .list _ (some start) tight items =>
    enclose "ol" (if start = 1 then [] else attributeHtml "start" (ofInt start))
      ('\n' :: itemsHtml definitions tight items) ++ ['\n']
  | .table _ head rows =>
    enclose "table" [] ('\n' :: enclose "thead" []
      ('\n' :: rowHtml definitions "th" head) ++ ['\n'] ++
      if rows = [] then []
      else enclose "tbody" [] ('\n' :: rows.flatMap (rowHtml definitions "td")) ++
        ['\n']) ++ ['\n']
  | .definition _ _ _ => []

/-- An item of a list as markup. -/
def Item.html (definitions : Definitions) (tight : Bool) : Item → Text
  | .mk line body =>
    enclose "li" (attributeHtml "data-line" (ofInt (line + 1 : Nat)))
      (blocksHtml definitions tight body) ++ ['\n']

/-- Blocks as markup. -/
def blocksHtml (definitions : Definitions) (tight : Bool) : List Block → Text
  | [] => []
  | b :: bs => b.html definitions tight ++ blocksHtml definitions tight bs

/-- Items as markup. -/
def itemsHtml (definitions : Definitions) (tight : Bool) : List Item → Text
  | [] => []
  | i :: is => i.html definitions tight ++ itemsHtml definitions tight is

end

/-- A text as a page. -/
def page (t : Text) : Text :=
  let bs := blocks (prepare t)
  blocksHtml (definitionsIn bs) false bs

end Concordance.Markdown
