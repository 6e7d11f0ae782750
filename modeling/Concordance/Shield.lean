import Concordance.Text.Basic

/-!
# Shielding text from the reader of documents

Three constructs would be misread: a bar inside code in a table row, a continuation paragraph that
follows a bullet of the second level, and a line that begins with a bullet inside a nested code
block.  Each is shielded by a sentinel.  The shield works line by line: it neither adds nor removes
a line, so a line number found afterwards holds for the text before.
-/

namespace Concordance.Shield

open Text

/-! ## Sentinels -/

/-- Stands for a bar inside code in a table row. -/
def pipeSentinel : Text := "ceci_n'est_pas_une_pipe".toList

/-- Stands in front of the text of a continuation paragraph. -/
def indentSentinel : Text := "ceci-n'est-pas-une-indent".toList

/-- Stands in front of a bullet inside a nested code block. -/
def bulletSentinel : Text := "ceci_n'est_pas_une_".toList

/-! ## Bars in table rows -/

/-- Shield the pieces of a row that stand between two backticks; `inside` says whether the first
piece does.  The last piece is not closed by a backtick and is left as it is. -/
def shieldPieces (inside : Bool) : List Text → List Text
  | [] => []
  | [p] => [p]
  | p :: q :: ps =>
    (if inside then replaceChar '|' pipeSentinel p else p) :: shieldPieces (!inside) (q :: ps)

/-- Shield the bars inside code in a line that begins with a bar. -/
def shieldPipes (line : Text) : Text :=
  if line.head? = some '|' then
    joinWith ['\x60'] (shieldPieces false (splitOn '\x60' line))
  else line

/-! ## Continuation paragraphs -/

/-- What the lines so far have opened. -/
inductive Level where
  | none
  | bullet
  | nestedBullet
  deriving DecidableEq, Repr

/-- `n` spaces. -/
def spaces (n : Nat) : Text := List.replicate n ' '

/-- Whether a line has exactly `depth` spaces before its text. -/
def isIndentedText (depth : Nat) (line : Text) : Bool :=
  startsWith (spaces depth) line &&
    match line.drop depth with
    | [] => false
    | c :: _ => c != ' '

/-- A bullet of the first level. -/
def isBullet (line : Text) : Bool := startsWith ('*' :: spaces 2) line

/-- A bullet of the second level. -/
def isNestedBullet (line : Text) : Bool := startsWith (spaces 3 ++ ['*', ' ']) line

/-- What a line opens after `level`, if it is a bullet or goes on with the text of one. -/
def Level.opens (level : Level) (line : Text) : Option Level :=
  if isBullet line then some .bullet
  else if level ≠ .none ∧ isNestedBullet line then some .nestedBullet
  else if level = .nestedBullet ∧ isIndentedText 6 line then some .nestedBullet
  else Option.none

/-- Whether a line after `level` continues the first level and is not marked yet. -/
def Level.continuesFirst (level : Level) (line : Text) : Bool :=
  level == .nestedBullet && isIndentedText 3 line && !startsWith (spaces 3 ++ indentSentinel) line

/-- Mark the continuation paragraphs among lines that follow `level`.  The last line is never
marked, and one blank line is stepped over behind a bullet or its text. -/
def markFrom (level : Level) : List Text → List Text
  | [] => []
  | [line] => [line]
  | line :: next :: rest =>
    match level.opens line with
    | some level' =>
      if isBlankText next then line :: next :: markFrom level' rest
      else line :: markFrom level' (next :: rest)
    | Option.none =>
      (if level.continuesFirst line then spaces 3 ++ indentSentinel ++ line.drop 3 else line) ::
        markFrom .none (next :: rest)

/-- Mark the continuation paragraphs of a document. -/
def markContinuations (lines : List Text) : List Text := markFrom .none lines

/-! ## Bullets in nested code -/

/-- A line that opens or closes a code block inside a list item. -/
def isNestedFence (line : Text) : Bool := startsWith (spaces 4 ++ ['\x60', '\x60', '\x60']) line

/-- A line of nested code that begins with a bullet. -/
def isCodeBullet (line : Text) : Bool :=
  startsWith (spaces 4 ++ ['*']) line || startsWith (spaces 4 ++ ['+']) line ||
    startsWith (spaces 4 ++ ['-']) line

/-- Shield the bullets that stand between an opening and a closing fence; `inside` says whether the
fence before the first line is an opening one. -/
def shieldBulletsFrom (inside : Bool) : List Text → List Text
  | [] => []
  | line :: rest =>
    if isNestedFence line then line :: shieldBulletsFrom (!inside) rest
    else
      (if inside && isCodeBullet line && rest.any isNestedFence then
        spaces 4 ++ bulletSentinel ++ line.drop 4
      else line) :: shieldBulletsFrom inside rest

/-- Shield the bullets in nested code.  The first line of a document is no fence and no code. -/
def shieldBullets : List Text → List Text
  | [] => []
  | first :: rest => first :: shieldBulletsFrom false rest

/-! ## The whole shield -/

/-- Shield every construct, line by line. -/
def shieldLines (lines : List Text) : List Text :=
  shieldBullets (markContinuations (lines.map shieldPipes))

/-- Shield a text; every line break becomes a line feed. -/
def shield (t : Text) : Text := unlines (shieldLines (lines t))

end Concordance.Shield
