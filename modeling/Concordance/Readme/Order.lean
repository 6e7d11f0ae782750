import Concordance.Readme.Entries

/-!
# The order of documents

The documents of a specification may be taken in the order in which the index document first links
them.
-/

namespace Concordance.Readme

/-- Why documents cannot be put in order. -/
inductive OrderFault where
  | entries (fault : EntryFault)
  /-- The index document links a document that is not there. -/
  | unknown (name : Text)
  deriving DecidableEq, Repr

/-- What is said about a link to a document that is not there. -/
def unknownMessage (name : Text) : Text :=
  "readme link '".toList ++ name ++ "' is not one of the supplied documents".toList

/-- The last path with a file name. -/
def pathOf? (files : List Text) (name : Text) : Option Text :=
  files.reverse.find? fun p => Path.name p == name

/-- The paths that names lead to, each once, behind those that are there already. -/
def orderNames (files : List Text) :
    (ordered : List Text) → List Text → Except OrderFault (List Text)
  | ordered, [] => .ok ordered
  | ordered, n :: ns =>
    match pathOf? files n with
    | none => .error (.unknown n)
    | some p => orderNames files (if p ∈ ordered then ordered else ordered ++ [p]) ns

/-- The documents that an index document links, in the order of their first links. -/
def order (text : Text) (files : List Text) (extension : Text) : Except OrderFault (List Text) :=
  match entries text [] extension with
  | .error f => .error (.entries f)
  | .ok es => orderNames files [] (es.map fun e => (splitLink e.anchor).1)

end Concordance.Readme
