import Concordance.Text.Basic

/-!
# Diagnostics

A diagnostic is a coded finding at a location.  It is shown on one line: the location, the
severity, the code and the message.
-/

namespace Concordance

/-! ## Severities and codes -/

/-- How grave a finding is. -/
inductive Severity where
  | error
  | warning
  deriving DecidableEq, Repr

/-- The severities. -/
def Severity.all : List Severity := [.error, .warning]

/-- The name of a severity. -/
def Severity.name : Severity → Text
  | .error => "error".toList
  | .warning => "warning".toList

/-- The severity of a name. -/
def Severity.ofName? (n : Text) : Option Severity := Severity.all.find? fun s => s.name == n

/-- What a finding is about. -/
inductive Code where
  | headingDepth
  | duplicateAnchor
  | sectionConstructError
  | duplicateProduction
  | grammarParseError
  | readmeRemove
  | readmeInsert
  | grammarExtra
  | grammarMissing
  | grammarDiffers
  deriving DecidableEq, Repr

/-- The codes. -/
def Code.all : List Code :=
  [.headingDepth, .duplicateAnchor, .sectionConstructError, .duplicateProduction,
    .grammarParseError, .readmeRemove, .readmeInsert, .grammarExtra, .grammarMissing,
    .grammarDiffers]

/-- The name of a code. -/
def Code.name : Code → Text
  | .headingDepth => "heading-depth".toList
  | .duplicateAnchor => "duplicate-anchor".toList
  | .sectionConstructError => "section-construct-error".toList
  | .duplicateProduction => "duplicate-production".toList
  | .grammarParseError => "grammar-parse-error".toList
  | .readmeRemove => "readme-remove".toList
  | .readmeInsert => "readme-insert".toList
  | .grammarExtra => "grammar-extra".toList
  | .grammarMissing => "grammar-missing".toList
  | .grammarDiffers => "grammar-differs".toList

/-- The code of a name. -/
def Code.ofName? (n : Text) : Option Code := Code.all.find? fun c => c.name == n

/-! ## Locations -/

/-- A file, and where in it: a line, and the label of a section. -/
structure Location where
  file : Text := []
  line : Option Int := none
  label : Option Text := none
  deriving DecidableEq, Repr

/-- A location as it is shown: the line in parentheses, the label in brackets unless it is
empty. -/
def Location.render (l : Location) : Text :=
  l.file ++
    (match l.line with
      | some n => ['('] ++ Text.ofInt n ++ [')']
      | none => []) ++
    match l.label with
      | some (c :: s) => [' ', '['] ++ (c :: s) ++ [']']
      | _ => []

/-! ## Diagnostics -/

/-- A coded finding. -/
structure Diagnostic where
  code : Code
  severity : Severity
  message : Text
  location : Location
  deriving DecidableEq, Repr

/-- A diagnostic as it is shown. -/
def Diagnostic.render (d : Diagnostic) : Text :=
  d.location.render ++ ": ".toList ++ d.severity.name ++ [' '] ++ d.code.name ++ ": ".toList ++
    d.message

/-- Whether some diagnostic is an error. -/
def hasErrors (ds : List Diagnostic) : Bool := ds.any fun d => d.severity == .error

end Concordance
