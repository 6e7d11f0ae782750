import Concordance.Encoding
import Concordance.Path
import Concordance.Text.Quoted

/-!
# Files

The files of a run are a value: a tree with bytes at its leaves, and what is known about the
encodings of these.  Reading a file can fail because the path leads nowhere, because it leads to a
directory, or because the bytes cannot be decoded.  A path that holds the character with the number
zero is none at all.
-/

namespace Concordance

/-- The files and directories of a run. -/
structure FileTree where
  files : List (List Text × List Nat)
  directories : List (List Text)
  /-- How bytes are decoded in the encodings that have no names here; the function takes the
  name. -/
  codecs : Text → Option Encoding.Decoder := fun _ => none

namespace FileTree

/-- What stands at a path. -/
inductive Node where
  | file (bytes : List Nat)
  | directory

/-- What stands at a path without `..`, if anything. -/
def node? (t : FileTree) (p : List Text) : Option Node :=
  match t.files.lookup p with
  | some bytes => some (.file bytes)
  | none =>
    if p = [] || t.files.any (fun f => p.isPrefixOf f.1) || t.directories.any p.isPrefixOf then
      some .directory
    else none

/-! ## Walking -/

/-- Why a path does not lead to a file. -/
inductive PathFault where
  | missing
  | notDirectory
  | isDirectory
  deriving DecidableEq, Repr

/-- Where a walk stands: in the tree, or above it. -/
inductive Standing where
  | inside (path : List Text)
  | above

/-- Follow components one by one. -/
def walk (t : FileTree) : Standing → List Text → Except PathFault (List Nat)
  | .above, [] => .error .isDirectory
  | .above, c :: cs => if c = ['.', '.'] then walk t .above cs else .error .missing
  | .inside p, cs =>
    match t.node? p, cs with
    | none, _ => .error .missing
    | some (.file bytes), [] => .ok bytes
    | some (.file _), _ :: _ => .error .notDirectory
    | some .directory, [] => .error .isDirectory
    | some .directory, c :: cs =>
      if c = ['.', '.'] then
        match p with
        | [] => walk t .above cs
        | _ => walk t (.inside p.dropLast) cs
      else walk t (.inside (p ++ [c])) cs

/-! ## Reading -/

/-- Why a text cannot be read. -/
inductive ReadFault where
  | path (fault : PathFault)
  | encoding (refusal : Encoding.Refusal)
  | unknownEncoding (name : Text)
  /-- The path holds the character with the number zero. -/
  | malformedPath
  deriving DecidableEq, Repr

/-- The reason that a path does not lead to a file, in words. -/
def PathFault.message : PathFault → Text
  | .missing => "[Errno 2] No such file or directory".toList
  | .notDirectory => "[Errno 20] Not a directory".toList
  | .isDirectory => "[Errno 21] Is a directory".toList

/-- What is said about a text that cannot be read from a path. -/
def ReadFault.message (path : Text) : ReadFault → Text
  | .unknownEncoding n => "unknown encoding: ".toList ++ n
  | .malformedPath => "embedded null byte".toList
  | .path f =>
    "Cannot read ".toList ++ Path.normalize path ++ ": ".toList ++ f.message ++ ": ".toList ++
      Text.quote (Path.normalize path)
  | .encoding (.bytes codec f) =>
    "Cannot read ".toList ++ Path.normalize path ++ ": ".toList ++ f.message codec
  | .encoding (.whole message) => message

/-- Where the walk along a path begins; a path with a root begins above the tree. -/
def start (path : Text) : Standing := if Path.root path = [] then .inside [] else .above

/-- The bytes in the file at a path. -/
def bytes (t : FileTree) (path : Text) : Except ReadFault (List Nat) :=
  if path.contains '\x00' then .error .malformedPath
  else (t.walk (start path) (Path.components path)).mapError .path

/-- How bytes are decoded in the encoding of a name, if there is one. -/
def decoder? (t : FileTree) (encoding : Text) : Option Encoding.Decoder :=
  match Encoding.ofName? encoding with
  | some e => some e.decoder
  | none => t.codecs encoding

/-- The text in the file at a path, with its line breaks as they are.  The path is followed before
the encoding is looked at. -/
def rawText (t : FileTree) (path encoding : Text) : Except ReadFault Text :=
  (t.bytes path).bind fun bs =>
    match t.decoder? encoding with
    | none => .error (.unknownEncoding encoding)
    | some decode => (decode bs).mapError .encoding

/-- Read a text from a path; every line break becomes a line feed. -/
def readText (t : FileTree) (path encoding : Text) : Except ReadFault Text :=
  (t.rawText path encoding).map Text.normalizeBreaks

end FileTree

end Concordance
