import Concordance.Text.Basic

/-!
# Grammars

A grammar is a sequence of productions: named rules, and the comments that stand between them.  Two
rules are compared by their serialized form.
-/

namespace Concordance

/-- One rule of a grammar, or a comment between rules. -/
structure Production where
  /-- The rule's name; none for a comment. -/
  name : Option Text
  /-- The right-hand side in canonical form, or the comment. -/
  body : Text
  /-- The text the production was read from. -/
  text : Text := []
  /-- Whether the rule is a fragment of tokens only. -/
  fragment : Bool := false
  /-- The anchor of the section the production stands in. -/
  linkAnchor : Option Text := none
  /-- The title of that section. -/
  linkTitle : Option Text := none
  deriving DecidableEq, Repr

/-- The form in which productions are compared. -/
def Production.serialize (p : Production) : Text :=
  match p.name with
  | none => p.body
  | some n =>
    (if p.fragment then "fragment ".toList else []) ++ n ++ ": ".toList ++ p.body ++ [';']

/-- Productions in order. -/
abbrev Grammar := List Production

namespace Grammar

/-- The names of the named productions, in order, with repetitions. -/
def names (g : Grammar) : List Text := g.filterMap (·.name)

/-- The names of the named productions in the order of their first occurrence. -/
def distinctNames (g : Grammar) : List Text :=
  (names g).foldl (fun seen n => if n ∈ seen then seen else seen ++ [n]) []

/-- The first production of a name. -/
def first? (g : Grammar) (n : Text) : Option Production := g.find? fun p => p.name == some n

/-- The last production of a name. -/
def last? (g : Grammar) (n : Text) : Option Production := first? g.reverse n

/-- Whether some production has the name. -/
def has (g : Grammar) (n : Text) : Bool := g.any fun p => p.name == some n

/-- Each name in the order of its first occurrence, with its last production. -/
def byName (g : Grammar) : List (Text × Production) :=
  (distinctNames g).filterMap fun n => (last? g n).map fun p => (n, p)

end Grammar

end Concordance
