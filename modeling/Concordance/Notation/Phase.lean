import Concordance.Notation.Token

/-!
# The order of tokens

Where the reader of a grammar stands between two tokens: a phase, and the number of groups that are
open.  A group begins and ends at an atom, so the number alone says how to go on when one closes.

The canonical form of a right-hand side is written token by token: the phase decides whether a
space stands before the next one.
-/

namespace Concordance.Notation

/-- The place between two tokens. -/
inductive Phase where
  /-- Between rules. -/
  | top
  /-- After a name between rules: it names a rule, or says what kind of grammar follows. -/
  | topName
  /-- After the word that opens a header. -/
  | headerWord
  /-- After the name in a header. -/
  | headerName
  /-- After the word that marks a fragment rule. -/
  | fragmentWord
  /-- After the name of a fragment rule. -/
  | fragmentName
  /-- At the start of an alternative. -/
  | start
  /-- Behind a finished part of an alternative that cannot be extended. -/
  | finished
  /-- Behind a name that may be a label or an atom. -/
  | named
  /-- Where an atom must follow: behind a label or a negation sign. -/
  | atom
  /-- Behind a literal, which may begin a range. -/
  | literal
  /-- Behind the dots of a range. -/
  | dots
  /-- Behind an atom. -/
  | element
  /-- Behind the options of an atom. -/
  | elementOptions
  /-- Behind the sign of an alternative's label. -/
  | hash
  /-- Behind an alternative's label. -/
  | alternativeLabel
  /-- Where the name of a command must follow. -/
  | command
  /-- Behind the name of a command. -/
  | commandName
  /-- Where the argument of a command must follow. -/
  | argument
  /-- Behind the argument of a command. -/
  | argumentName
  /-- Behind a command with its argument. -/
  | commandEnd
  deriving DecidableEq, Repr

/-- A phase and the number of open groups. -/
structure Place where
  phase : Phase
  depth : Nat
  deriving DecidableEq, Repr

/-! ## Transitions -/

/-- The token ends the alternative: a bar, the parenthesis of an open group, or the semicolon of
the rule. -/
def Place.close? (p : Place) : Terminal → Option Place
  | .bar => some ⟨.start, p.depth⟩
  | .semicolon => if p.depth = 0 then some ⟨.top, 0⟩ else none
  | .closeParen => if p.depth = 0 then none else some ⟨.element, p.depth - 1⟩
  | _ => none

/-- The token is or begins an atom. -/
def Place.atom? (p : Place) : Terminal → Option Place
  | .name => some ⟨.element, p.depth⟩
  | .literal => some ⟨.literal, p.depth⟩
  | .charset | .action | .dot => some ⟨.element, p.depth⟩
  | .tilde => some ⟨.atom, p.depth⟩
  | .openParen => some ⟨.start, p.depth + 1⟩
  | _ => none

/-- The token begins the next part of an alternative, or ends the alternative. -/
def Place.part? (p : Place) (k : Terminal) : Option Place :=
  match k with
  | .name => some ⟨.named, p.depth⟩
  | .hash => some ⟨.hash, p.depth⟩
  | .arrow => some ⟨.command, p.depth⟩
  | k => (p.atom? k).or (p.close? k)

/-- The token follows a command. -/
def Place.afterCommand? (p : Place) : Terminal → Option Place
  | .comma => some ⟨.command, p.depth⟩
  | k => p.close? k

/-- The token follows an atom. -/
def Place.afterAtom? (p : Place) : Terminal → Option Place
  | .options => some ⟨.elementOptions, p.depth⟩
  | .suffix => some ⟨.finished, p.depth⟩
  | k => p.part? k

/-- The place behind the next token, if it may stand here. -/
def Place.next? (p : Place) (k : Terminal) : Option Place :=
  match p.phase, k with
  | .top, .name => some ⟨.topName, 0⟩
  | .top, .fragment => some ⟨.fragmentWord, 0⟩
  | .top, .grammar => some ⟨.headerWord, 0⟩
  | .topName, .colon => some ⟨.start, 0⟩
  | .topName, .grammar => some ⟨.headerWord, 0⟩
  | .headerWord, .name => some ⟨.headerName, 0⟩
  | .headerName, .semicolon => some ⟨.top, 0⟩
  | .fragmentWord, .name => some ⟨.fragmentName, 0⟩
  | .fragmentName, .colon => some ⟨.start, 0⟩
  | .start, .options => some ⟨.finished, p.depth⟩
  | .start, k => p.part? k
  | .finished, k => p.part? k
  | .named, .labelOp => some ⟨.atom, p.depth⟩
  | .named, k => p.afterAtom? k
  | .atom, k => p.atom? k
  | .literal, .dots => some ⟨.dots, p.depth⟩
  | .literal, k => p.afterAtom? k
  | .dots, .literal => some ⟨.element, p.depth⟩
  | .element, k => p.afterAtom? k
  | .elementOptions, .suffix => some ⟨.finished, p.depth⟩
  | .elementOptions, k => p.part? k
  | .hash, .name => some ⟨.alternativeLabel, p.depth⟩
  | .alternativeLabel, .arrow => some ⟨.command, p.depth⟩
  | .alternativeLabel, k => p.close? k
  | .command, .name => some ⟨.commandName, p.depth⟩
  | .commandName, .openParen => some ⟨.argument, p.depth⟩
  | .commandName, k => p.afterCommand? k
  | .argument, .name => some ⟨.argumentName, p.depth⟩
  | .argumentName, .closeParen => some ⟨.commandEnd, p.depth⟩
  | .commandEnd, k => p.afterCommand? k
  | _, _ => none

/-! ## Canonical form -/

/-- A terminal that begins a part of an alternative. -/
def Terminal.beginsPart : Terminal → Bool
  | .name | .literal | .charset | .action | .dot | .tilde | .openParen | .hash | .arrow => true
  | _ => false

/-- Whether a space stands before the next token in canonical form. -/
def Phase.spaceBefore : Phase → Terminal → Bool
  | .command, _ => true
  | .finished, k | .named, k | .literal, k | .element, k | .elementOptions, k
  | .alternativeLabel, k => k.beginsPart
  | _, _ => false

/-- A token in canonical form: options lose their blanks, and a bar has a space on each side. -/
def Token.canonical (k : Token) : Text :=
  match k.kind with
  | .options => k.lexeme.filter fun c => !Text.isBlank c
  | .bar => [' ', '|', ' ']
  | _ => k.lexeme

/-- The canonical form of tokens that begin at a place. -/
def canonicalFrom (p : Place) : List Token → Text
  | [] => []
  | k :: ks =>
    (if p.phase.spaceBefore k.kind then [' '] else []) ++ k.canonical ++
      canonicalFrom ((p.next? k.kind).getD p) ks

/-- The canonical form of a right-hand side. -/
def canonicalBody (ks : List Token) : Text := canonicalFrom ⟨.start, 0⟩ ks

end Concordance.Notation
