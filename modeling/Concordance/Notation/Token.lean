import Concordance.Text.Basic

/-!
# Tokens of the grammar notation

The terminals of the notation, and for each the longest piece at the front of a text that it
covers.  Layout and comments may stand between any two tokens; together with the tokens they are
the pieces a text is cut into.
-/

namespace Concordance.Notation

/-! ## Terminals -/

/-- The shapes of token that grammars are written in. -/
inductive Terminal where
  | name | literal | charset | action | options | suffix | labelOp
  | fragment | grammar | colon | semicolon | bar | hash | arrow | comma
  | openParen | closeParen | dots | dot | tilde
  deriving DecidableEq, Repr

/-- A letter or underscore, as a name begins. -/
def isNameStart (c : Char) : Bool := c.isAlpha || c == '_'

/-- A letter, digit or underscore, as a name goes on. -/
def isNameChar (c : Char) : Bool := c.isAlphanum || c == '_'

/-- The characters of layout. -/
def isLayout (c : Char) : Bool := c == ' ' || c == '\t' || c == '\x0c' || c == '\r' || c == '\n'

/-! ## Delimited tokens

Each function takes the text after the opening character and cuts it behind the closing one. -/

/-- Cut behind `close`; a backslash protects the next character, which may not be a line feed. -/
def quoted? (close : Char) : Text → Option (Text × Text)
  | [] => none
  | ['\\'] => none
  | '\\' :: c :: t =>
    if c = '\n' then none else (quoted? close t).map fun (w, r) => ('\\' :: c :: w, r)
  | c :: t =>
    if c = close then some ([c], t) else (quoted? close t).map fun (w, r) => (c :: w, r)

/-- Cut behind `close`, with no `opener` before it. -/
def enclosed? (opener close : Char) : Text → Option (Text × Text)
  | [] => none
  | c :: t =>
    if c = close then some ([c], t)
    else if c = opener then none
    else (enclosed? opener close t).map fun (w, r) => (c :: w, r)

/-- Cut behind the first `*/`. -/
def blockComment? : Text → Option (Text × Text)
  | '*' :: '/' :: t => some (['*', '/'], t)
  | c :: t => (blockComment? t).map fun (w, r) => (c :: w, r)
  | [] => none

/-! ## Reading one token -/

/-- Cut off a fixed spelling. -/
def literal? (w t : Text) : Option (Text × Text) :=
  if w.isPrefixOf t then some (w, t.drop w.length) else none

/-- The spelling of the terminals that have only one. -/
def Terminal.spelling : Terminal → Text
  | .fragment => "fragment".toList
  | .grammar => "grammar".toList
  | .colon => [':']
  | .semicolon => [';']
  | .bar => ['|']
  | .hash => ['#']
  | .arrow => ['-', '>']
  | .comma => [',']
  | .openParen => ['(']
  | .closeParen => [')']
  | .dots => ['.', '.']
  | .dot => ['.']
  | .tilde => ['~']
  | _ => []

/-- The lexeme of a terminal at the front of a text, and the text behind it. -/
def Terminal.lexeme? (k : Terminal) (t : Text) : Option (Text × Text) :=
  match k, t with
  | .name, c :: r =>
    if isNameStart c then some (c :: r.takeWhile isNameChar, r.dropWhile isNameChar) else none
  | .literal, '\'' :: r => (quoted? '\'' r).map fun (w, r) => ('\'' :: w, r)
  | .charset, '[' :: r => (quoted? ']' r).map fun (w, r) => ('[' :: w, r)
  | .action, '\x7b' :: r => (enclosed? '\x7b' '\x7d' r).map fun (w, r) => ('\x7b' :: w, r)
  | .options, '<' :: r => (enclosed? '<' '>' r).map fun (w, r) => ('<' :: w, r)
  | .suffix, c :: r =>
    if c = '?' ∨ c = '*' ∨ c = '+' then
      match r with
      | '?' :: r => some ([c, '?'], r)
      | r => some ([c], r)
    else none
  | .labelOp, '+' :: '=' :: r => some (['+', '='], r)
  | .labelOp, '=' :: r => some (['='], r)
  | .name, _ | .literal, _ | .charset, _ | .action, _ | .options, _ | .suffix, _ | .labelOp, _ =>
    none
  | k, t => literal? k.spelling t

/-! ## Pieces -/

/-- A token: a terminal and the text it was read from. -/
structure Token where
  kind : Terminal
  lexeme : Text
  deriving DecidableEq, Repr

/-- What a text is cut into. -/
inductive Piece where
  | layout (text : Text)
  | comment (text : Text)
  | token (token : Token)
  deriving DecidableEq, Repr

/-- The text of a piece. -/
def Piece.text : Piece → Text
  | .layout t => t
  | .comment t => t
  | .token k => k.lexeme

/-- The order in which terminals other than words are tried; it matters where one spelling begins
another. -/
def Terminal.signs : List Terminal :=
  [.labelOp, .suffix, .dots, .dot, .arrow, .colon, .semicolon, .bar, .hash, .comma, .openParen,
    .closeParen, .tilde, .literal, .charset, .action, .options]

/-- Read a name or a keyword.  Where a name may stand, a keyword is a name with its spelling; where
only the keyword may stand, its spelling is cut off whatever follows. -/
def word? (accepts : Terminal → Bool) (t : Text) : Option (Token × Text) :=
  if accepts .name then
    (Terminal.lexeme? .name t).map fun (w, r) =>
      if accepts .fragment && w == Terminal.spelling .fragment then (⟨.fragment, w⟩, r)
      else if accepts .grammar && w == Terminal.spelling .grammar then (⟨.grammar, w⟩, r)
      else (⟨.name, w⟩, r)
  else [Terminal.fragment, .grammar].findSome? fun k =>
    if accepts k then (k.lexeme? t).map fun (w, r) => (⟨k, w⟩, r) else none

/-- Read a token that is not a word. -/
def sign? (accepts : Terminal → Bool) (t : Text) : Option (Token × Text) :=
  Terminal.signs.findSome? fun k =>
    if accepts k then (k.lexeme? t).map fun (w, r) => (⟨k, w⟩, r) else none

/-- Read the comment at the front of a text. -/
def comment? : Text → Option (Text × Text)
  | '/' :: '/' :: t => some ('/' :: '/' :: t.takeWhile (· != '\n'), t.dropWhile (· != '\n'))
  | '/' :: '*' :: t => (blockComment? t).map fun (w, r) => ('/' :: '*' :: w, r)
  | _ => none

/-- Read the piece at the front of a text, where only the terminals that `accepts` admits may
stand. -/
def piece? (accepts : Terminal → Bool) (t : Text) : Option (Piece × Text) :=
  match t with
  | [] => none
  | c :: _ =>
    if isLayout c then some (.layout (t.takeWhile isLayout), t.dropWhile isLayout)
    else match comment? t with
      | some (w, r) => some (.comment w, r)
      | none => ((word? accepts t).or (sign? accepts t)).map fun (k, r) => (.token k, r)

end Concordance.Notation
