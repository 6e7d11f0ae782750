import Concordance.Diagnostic

/-!
# The journal of a run

Everything that happens in a run is noted in order: the diagnostics, and the stages the run goes
through.  A reader of the journal chooses the gravest notes that it wants to see.
-/

namespace Concordance

/-- A note in the journal. -/
inductive Note where
  /-- A finding was reported. -/
  | finding (diagnostic : Diagnostic)
  /-- The documents are about to be read. -/
  | reading (documents : Nat)
  /-- The sections and productions have been collected. -/
  | built (sections productions : Nat)
  /-- The grammar the specification must agree with is about to be read. -/
  | readingAuthority (file : Text)
  deriving DecidableEq, Repr

/-! ## Levels -/

/-- How grave a note is; a reader that names a level sees that level and the graver ones. -/
inductive NoteLevel where
  | notSet
  | debug
  | info
  | warning
  | error
  | critical
  deriving DecidableEq, Repr

/-- The rank of a level. -/
def NoteLevel.rank : NoteLevel → Nat
  | .notSet => 0
  | .debug => 10
  | .info => 20
  | .warning => 30
  | .error => 40
  | .critical => 50

/-- The name of a level. -/
def NoteLevel.name : NoteLevel → Text
  | .notSet => "NOTSET".toList
  | .debug => "DEBUG".toList
  | .info => "INFO".toList
  | .warning => "WARNING".toList
  | .error => "ERROR".toList
  | .critical => "CRITICAL".toList

/-- The level of a name; two levels have a second name. -/
def NoteLevel.ofName? (n : Text) : Option NoteLevel :=
  if n = "WARN".toList then some .warning
  else if n = "FATAL".toList then some .critical
  else [NoteLevel.notSet, .debug, .info, .warning, .error, .critical].find? fun l => l.name == n

/-- The rank from which notes are shown; a level that is not set shows warnings. -/
def NoteLevel.threshold : NoteLevel → Nat
  | .notSet => NoteLevel.warning.rank
  | l => l.rank

/-! ## Notes -/

namespace Note

/-- How grave a note is. -/
def level : Note → NoteLevel
  | .finding d => match d.severity with
    | .error => .error
    | .warning => .warning
  | _ => .info

/-- The part of the run that made the note. -/
def origin : Note → Text
  | .finding _ => "mdspec.reporter".toList
  | .built _ _ => "mdspec.extraction".toList
  | .reading _ | .readingAuthority _ => "mdspec.ingestion".toList

/-- What the note says. -/
def message : Note → Text
  | .finding d => d.render
  | .built _ _ => "Built specification model".toList
  | .reading _ => "Reading specification documents".toList
  | .readingAuthority _ => "Reading authority grammar".toList

/-- The finding that a note reports, if it reports one. -/
def finding? : Note → Option Diagnostic
  | .finding d => some d
  | _ => none

end Note

/-- The notes that a reader of the given level sees. -/
def visibleNotes (level : NoteLevel) (notes : List Note) : List Note :=
  notes.filter fun n => level.threshold ≤ n.level.rank

end Concordance
