import Concordance.Grammar
import Concordance.Notation.Scan

/-!
# Reading a grammar

The tokens of a text that follows the notation fall into statements, each closed by a semicolon: a
statement with a colon is a rule, one without is a header and produces nothing.  The comments that
stand outside every rule become productions of their own, so that prose between rules is kept.
-/

namespace Concordance.Notation

/-- Where a text departs from the notation. -/
structure Fault where
  /-- The name of the text, for messages. -/
  source : Text
  /-- The line, counted from one; lines end at line feeds only. -/
  line : Nat
  /-- The column, counted from one. -/
  column : Nat
  deriving DecidableEq, Repr

/-- What is said about a fault. -/
def Fault.message (f : Fault) : Text :=
  (if f.source.isEmpty then [] else f.source ++ ": ".toList) ++
    "invalid grammar notation at line ".toList ++ Text.ofInt f.line ++
    ", column ".toList ++ Text.ofInt f.column

/-- The line and column of an offset. -/
def position (t : Text) (offset : Nat) : Nat × Nat :=
  let before := t.take offset
  (before.count '\n' + 1, (before.reverse.takeWhile (· != '\n')).length + 1)

/-- The fault at an offset of a text. -/
def Fault.ofOffset (source t : Text) (offset : Nat) : Fault :=
  let (line, column) := position t offset
  ⟨source, line, column⟩

/-! ## Rules -/

/-- Tokens with the offsets at which they start. -/
abbrev Tokens := List (Nat × Token)

/-- Cut tokens behind each semicolon. -/
def statements : Tokens → List Tokens
  | [] => []
  | k :: ks =>
    if k.2.kind = .semicolon then [k] :: statements ks
    else match statements ks with
      | [] => [[k]]
      | s :: ss => (k :: s) :: ss

/-- A production together with the stretch of text it was read from. -/
structure Span where
  start : Nat
  stop : Nat
  production : Production

/-- The rule that a statement states, if it states one. -/
def rule? (t : Text) (ks : Tokens) : Option Span :=
  let (front, back) := ks.span fun k => k.2.kind != .colon
  match front.head?, front.getLast?, back.drop 1, ks.getLast? with
  | some (start, k), some (_, n), body@(_ :: _), some (stop, _) =>
    some {
      start := start
      stop := stop + 1
      production := {
        name := some n.lexeme
        body := canonicalBody (body.dropLast.map (·.2))
        text := (t.drop start).take (stop + 1 - start)
        fragment := k.kind == .fragment } }
  | _, _, _, _ => none

/-- The tokens among located pieces. -/
def tokens (ps : List (Nat × Piece)) : Tokens :=
  ps.filterMap fun (o, p) => match p with
    | .token k => some (o, k)
    | _ => none

/-- The rules among located pieces of a text. -/
def rules (t : Text) (ps : List (Nat × Piece)) : List Span :=
  (statements (tokens ps)).filterMap (rule? t)

/-! ## Comments -/

/-- The comments among located pieces that start outside every given stretch. -/
def commentsOutside (spans : List Span) (ps : List (Nat × Piece)) : List Span :=
  ps.filterMap fun (o, p) => match p with
    | .comment w =>
      if spans.any fun s => s.start ≤ o && o < s.stop then none
      else
        let body := Text.trim w
        some ⟨o, o + w.length, { name := none, body := body, text := body }⟩
    | _ => none

/-- Put a stretch before the first one that starts behind it. -/
def insertSpan (s : Span) : List Span → List Span
  | [] => [s]
  | r :: rs => if s.start < r.start then s :: r :: rs else r :: insertSpan s rs

/-! ## Grammars -/

/-- Read a text in grammar notation. -/
def read (t : Text) (source : Text := []) : Except Fault Grammar :=
  match orderly.pieces ⟨.top, 0⟩ t, free.pieces () t with
  | .error o, _ => .error (.ofOffset source t o)
  | .ok _, .error o => .error (.ofOffset source t o)
  | .ok ps, .ok qs =>
    let rules := rules t (locate 0 ps)
    let comments := commentsOutside rules (locate 0 qs)
    .ok ((comments.foldl (fun spans s => insertSpan s spans) rules).map (·.production))

end Concordance.Notation
