import Concordance.Grammar
import Concordance.Reporter

/-!
# Agreement of two grammars

The grammar collected from a specification must agree with the grammar that has authority: each
name has the same serialized production in both.  Of several productions of one name the last
counts.
-/

namespace Concordance

/-- In which way two grammars disagree about a name. -/
inductive DifferenceKind where
  /-- Both have the name, with different productions. -/
  | differs
  /-- Only the authority has the name. -/
  | missing
  /-- Only the collected grammar has the name. -/
  | extra
  deriving DecidableEq, Repr

/-- A disagreement, with the serialized productions that there are. -/
structure Difference where
  name : Text
  kind : DifferenceKind
  authority : Option Text := none
  extracted : Option Text := none
  deriving DecidableEq, Repr

/-! ## Comparison -/

namespace Grammar

/-- The names that both grammars have and serialize differently. -/
def differing (authority extracted : Grammar) : List Difference :=
  (byName authority).filterMap fun (n, p) =>
    (last? extracted n).bind fun q =>
      if p.serialize = q.serialize then none
      else some ⟨n, .differs, some p.serialize, some q.serialize⟩

/-- The names, other than the start symbol, that only the authority has. -/
def missing (authority extracted : Grammar) (start : Text) : List Difference :=
  (byName authority).filterMap fun (n, p) =>
    if n = start ∨ has extracted n then none else some ⟨n, .missing, some p.serialize, none⟩

/-- The names, other than the start symbol, that only the collected grammar has. -/
def extra (authority extracted : Grammar) (start : Text) : List Difference :=
  (byName extracted).filterMap fun (n, p) =>
    if n = start ∨ has authority n then none else some ⟨n, .extra, none, some p.serialize⟩

/-- Every disagreement of two grammars. -/
def compare (authority extracted : Grammar) (start : Text) : List Difference :=
  differing authority extracted ++ missing authority extracted start ++
    extra authority extracted start

/-- The authority with the links of the collected grammar: each named production takes those of the
first collected production of its name. -/
def linkFrom (authority extracted : Grammar) : Grammar :=
  authority.map fun p =>
    let source := p.name.bind (first? extracted)
    { p with linkAnchor := source.bind (·.linkAnchor), linkTitle := source.bind (·.linkTitle) }

end Grammar

/-! ## Reports -/

/-- A text on one line: the characters that would break it are written as escapes. -/
def onOneLine (t : Text) : Text :=
  t.flatMap fun c => if c = '\r' then ['\\', 'r'] else if c = '\n' then ['\\', 'n'] else [c]

namespace Difference

/-- The code of a disagreement. -/
def code (d : Difference) : Code :=
  match d.kind with
  | .differs => .grammarDiffers
  | .missing => .grammarMissing
  | .extra => .grammarExtra

/-- What is said about a disagreement. -/
def message (d : Difference) : Text :=
  match d.kind with
  | .extra => "extracted grammar has superfluous production '".toList ++ d.name ++ ['\x27']
  | .missing => "extracted grammar lacks production '".toList ++ d.name ++ ['\x27']
  | .differs =>
    "production '".toList ++ d.name ++ "' differs; authority says ".toList ++
      onOneLine (d.authority.getD []) ++ "; extracted says ".toList ++
      onOneLine (d.extracted.getD [])

end Difference

/-- Report disagreements at a location. -/
def reportDifferences (ds : List Difference) (location : Location) (r : Reporter) : Reporter :=
  ds.foldl (fun r d => r.error d.code d.message (some location)) r

end Concordance
