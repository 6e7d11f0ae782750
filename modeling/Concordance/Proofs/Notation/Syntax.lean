import Concordance.Proofs.Notation.Order

/-!
# Rules as trees

A rule of the notation as a tree, the tokens that state it, and the right-hand side as the
canonical rendering writes it, construct by construct.
-/

namespace Concordance.Notation

/-! ## Trees -/

/-- A text that a terminal stands for. -/
abbrev Lexeme (k : Terminal) : Type := { w : Text // k.Matches w }

/-- Options without blanks. -/
abbrev OptionList : Type :=
  { w : Text // Terminal.options.Matches w ∧ ∀ c ∈ w, Text.isBlank c = false }

/-- A label and its sign. -/
structure Label where
  name : Lexeme .name
  sign : Lexeme .labelOp

/-- A command, and its argument if it has one. -/
structure Command where
  name : Lexeme .name
  argument : Option (Lexeme .name)

mutual

/-- What an element of an alternative is about.  A group holds at least one alternative. -/
inductive Atom where
  | ref (name : Lexeme .name)
  | literal (text : Lexeme .literal)
  | range (first last : Lexeme .literal)
  | charset (text : Lexeme .charset)
  | action (text : Lexeme .action)
  | wildcard
  | negation (atom : Atom)
  | group (first : Alternative) (others : List Alternative)

/-- An atom with its label, options and suffix. -/
inductive Element where
  | mk (label : Option Label) (atom : Atom) (options : Option OptionList)
      (suffix : Option (Lexeme .suffix))

/-- The parts of an alternative in order; there may be none.  An arrow stands before the commands
if there are any. -/
inductive Alternative where
  | mk (options : Option OptionList) (elements : List Element) (label : Option (Lexeme .name))
      (commands : List Command)

end

/-- A rule. -/
structure Rule where
  fragment : Bool
  name : Lexeme .name
  name_free : fragment = false →
    name.1 ≠ Terminal.spelling .fragment ∧ name.1 ≠ Terminal.spelling .grammar
  first : Alternative
  others : List Alternative

/-! ## Tokens -/

/-- The token with a lexeme. -/
def Lexeme.token {k : Terminal} (w : Lexeme k) : Token := ⟨k, w.1⟩

def OptionList.token (o : OptionList) : Token := ⟨.options, o.1⟩

def Label.tokens (l : Label) : List Token := [Lexeme.token l.name, Lexeme.token l.sign]

def Command.tokens (c : Command) : List Token :=
  Lexeme.token c.name :: match c.argument with
    | none => []
    | some n => [Terminal.token .openParen, Lexeme.token n, Terminal.token .closeParen]

/-- The tokens of an alternative's label, if it has one. -/
def labelTokens : Option (Lexeme .name) → List Token
  | none => []
  | some n => [Terminal.token .hash, Lexeme.token n]

/-- The tokens of commands, each with the token before it. -/
def commandTokens (before : Terminal) : List Command → List Token
  | [] => []
  | c :: cs => before.token :: (c.tokens ++ commandTokens .comma cs)

mutual

def Atom.tokens : Atom → List Token
  | .ref w => [Lexeme.token w]
  | .literal w => [Lexeme.token w]
  | .range v w => [Lexeme.token v, Terminal.token .dots, Lexeme.token w]
  | .charset w => [Lexeme.token w]
  | .action w => [Lexeme.token w]
  | .wildcard => [Terminal.token .dot]
  | .negation a => Terminal.token .tilde :: a.tokens
  | .group a as =>
    Terminal.token .openParen :: (a.tokens ++ (othersTokens as ++ [Terminal.token .closeParen]))

def Element.tokens : Element → List Token
  | .mk l a o s =>
    (l.map Label.tokens).getD [] ++
      (a.tokens ++ ((o.map OptionList.token).toList ++ (s.map Lexeme.token).toList))

def elementsTokens : List Element → List Token
  | [] => []
  | e :: es => e.tokens ++ elementsTokens es

def Alternative.tokens : Alternative → List Token
  | .mk o es l cs =>
    (o.map OptionList.token).toList ++
      (elementsTokens es ++ (labelTokens l ++ commandTokens .arrow cs))

/-- The tokens of alternatives behind another one. -/
def othersTokens : List Alternative → List Token
  | [] => []
  | a :: as => Terminal.token .bar :: (a.tokens ++ othersTokens as)

end

/-! ## Rendering -/

def Label.render (l : Label) : Text := l.name.1 ++ l.sign.1

def Command.render (c : Command) : Text :=
  c.name.1 ++ match c.argument with
    | none => []
    | some n => '(' :: (n.1 ++ [')'])

/-- The commands of an alternative, if it has any. -/
def renderCommands : List Command → List Text
  | [] => []
  | cs => ["-> ".toList ++ Text.joinWith ", ".toList (cs.map Command.render)]

mutual

def Atom.render : Atom → Text
  | .ref w => w.1
  | .literal w => w.1
  | .range v w => v.1 ++ "..".toList ++ w.1
  | .charset w => w.1
  | .action w => w.1
  | .wildcard => ['.']
  | .negation a => '~' :: a.render
  | .group a as => '(' :: (Text.joinWith " | ".toList (a.render :: renderAll as) ++ [')'])

def Element.render : Element → Text
  | .mk l a o s =>
    (l.map Label.render).getD [] ++ a.render ++ (o.map (·.1)).getD [] ++ (s.map (·.1)).getD []

def renderElements : List Element → List Text
  | [] => []
  | e :: es => e.render :: renderElements es

/-- The parts of an alternative with single spaces between them. -/
def Alternative.render : Alternative → Text
  | .mk o es l cs =>
    Text.joinWith [' ']
      ((o.map (·.1)).toList ++
        (renderElements es ++ ((l.map ('#' :: ·.1)).toList ++ renderCommands cs)))

def renderAll : List Alternative → List Text
  | [] => []
  | a :: as => a.render :: renderAll as

end

/-- The right-hand side of a rule. -/
def Rule.render (r : Rule) : Text :=
  Text.joinWith " | ".toList (r.first.render :: renderAll r.others)

/-- The production of a rule, apart from the text it is read from. -/
def Rule.production (r : Rule) : Production where
  name := some r.name.1
  body := r.render
  fragment := r.fragment

end Concordance.Notation
