import Concordance.Text.Basic

/-!
# Paths

A path is cut at its slashes into components.  Empty components and `.` say nothing about where a
path leads and are dropped; `..` stays, because the directory before it may be a link.
-/

namespace Concordance.Path

open Text

/-- The components of a path that say where it leads. -/
def components (p : Text) : List Text :=
  (splitOn '/' p).filter fun s => s != [] && s != ['.']

/-- The last component of a path, or nothing if it has none. -/
def name (p : Text) : Text := (components p).getLast?.getD []

/-- What a path begins with: nothing if it is relative, two slashes if exactly two stand there, and
one slash for any other number. -/
def root : Text → Text
  | '/' :: '/' :: '/' :: _ => ['/']
  | '/' :: '/' :: _ => ['/', '/']
  | '/' :: _ => ['/']
  | _ => []

/-- The one way of writing a path: its root and its components, or `.` if it has neither. -/
def normalize (p : Text) : Text :=
  match root p ++ joinWith ['/'] (components p) with
  | [] => ['.']
  | q => q

end Concordance.Path
