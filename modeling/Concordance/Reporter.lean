import Concordance.Journal

/-!
# Reporting

A reporter collects diagnostics and knows where the run is: a stack of frames, each resolved
against the one around it when it is entered.  A diagnostic without a location of its own gets the
innermost frame.
-/

namespace Concordance

/-! ## Contexts -/

/-- What a context says about a field of its frame. -/
inductive Setting (α : Type) where
  /-- Nothing: the field is taken from the frame around it. -/
  | inherit
  /-- The field's value, which may be absent. -/
  | given (value : Option α)
  /-- A value of the wrong kind. -/
  | malformed
  deriving DecidableEq, Repr

/-- A field that can be malformed. -/
inductive Field where
  | line
  | label
  deriving DecidableEq, Repr

/-- A context to enter. -/
structure Context where
  file : Option Text := none
  line : Setting Int := .inherit
  label : Setting Text := .inherit

/-- The value of a field inside a context, where `outer` is its value around it. -/
def Setting.resolve {α : Type} (outer : Option α) : Setting α → Option α
  | .given v => v
  | _ => outer

/-- The malformed fields of a context. -/
def Context.malformed (c : Context) : List Field :=
  (if c.line matches .malformed then [.line] else []) ++
    (if c.label matches .malformed then [.label] else [])

/-- The frame of a context inside another.  A new file forgets the line and the label, unless they
are given too. -/
def Context.frame (outer : Location) (c : Context) : Location :=
  let base := match c.file with
    | some f => if f = outer.file then outer else { file := f }
    | none => outer
  { file := base.file, line := c.line.resolve base.line, label := c.label.resolve base.label }

/-! ## Reporters -/

/-- The diagnostics of a run so far, and where it is. -/
structure Reporter where
  /-- The frame outside every context. -/
  outermost : Location
  /-- The frames of the open contexts, innermost first. -/
  frames : List Location := []
  /-- What has been noted so far. -/
  journal : List Note := []
  deriving DecidableEq, Repr

namespace Reporter

/-- A reporter with no context open. -/
def new (defaultFile : Text := []) : Reporter := { outermost := { file := defaultFile } }

/-- The innermost frame. -/
def location (r : Reporter) : Location := r.frames.headD r.outermost

/-- Open a context, unless one of its fields is malformed. -/
def enter (r : Reporter) (c : Context) : Except (List Field) Reporter :=
  match c.malformed with
  | [] => .ok { r with frames := c.frame r.location :: r.frames }
  | fs => .error fs

/-- Leave the innermost context, if one is open. -/
def leave? (r : Reporter) : Option Reporter :=
  match r.frames with
  | [] => none
  | _ :: fs => some { r with frames := fs }

/-- Note something. -/
def note (r : Reporter) (n : Note) : Reporter := { r with journal := r.journal ++ [n] }

/-- Report a finding at a location, by default the innermost frame. -/
def report (r : Reporter) (severity : Severity) (code : Code) (message : Text)
    (location : Option Location := none) : Reporter :=
  r.note (.finding ⟨code, severity, message, location.getD r.location⟩)

/-- Report an error. -/
def error (r : Reporter) (code : Code) (message : Text) (location : Option Location := none) :
    Reporter := r.report .error code message location

/-- Report a warning. -/
def warning (r : Reporter) (code : Code) (message : Text) (location : Option Location := none) :
    Reporter := r.report .warning code message location

/-- Everything reported so far, in order. -/
def diagnostics (r : Reporter) : List Diagnostic := r.journal.filterMap (·.finding?)

/-- The errors reported so far, in order. -/
def errors (r : Reporter) : List Diagnostic := r.diagnostics.filter fun d => d.severity == .error

/-- The warnings reported so far, in order. -/
def warnings (r : Reporter) : List Diagnostic :=
  r.diagnostics.filter fun d => d.severity == .warning

/-- Run a step inside a context whose fields are well formed, and leave the context again. -/
def within {α : Type} (r : Reporter) (file : Option Text) (line : Setting Int)
    (label : Setting Text) (step : Reporter → α × Reporter) : α × Reporter :=
  let frame := Context.frame r.location ⟨file, line, label⟩
  let (a, inner) := step { r with frames := frame :: r.frames }
  (a, { inner with frames := r.frames })

end Reporter

end Concordance
