import Concordance.Text.Basic
import Concordance.Text.CaseTable

/-!
# Lower and upper case

Full case mapping: one character may become several, and a capital sigma becomes the final form at
the end of a word.  A word ends at a sigma when the nearest character before it that is not skipped
is cased, and the nearest one after it is not.
-/

namespace Concordance.Text

/-- A character that is skipped when looking for the neighbour of a sigma. -/
def isCaseIgnorable (c : Char) : Bool := inRanges caseIgnorableRanges c.toNat

/-- A cased character that is not skipped. -/
def isCased (c : Char) : Bool := inRanges casedRanges c.toNat

/-- Whether the first character that is not skipped is cased. -/
def meetsCased : Text → Bool
  | [] => false
  | c :: t => if isCaseIgnorable c then meetsCased t else isCased c

/-- The lower-case form of a character on its own. -/
def lowerChar (c : Char) : Text :=
  if c.toNat < 128 then [c.toLower]
  else if c.toNat = 0x130 then ['i', '\u0307']
  else match CaseRun.find? lowerRuns c.toNat with
    | some n => [Char.ofNat n]
    | none => [c]

/-- Lower case for the rest of a text; `cased` says whether the nearest character before it that is
not skipped is cased. -/
def lowerFrom (cased : Bool) : Text → Text
  | [] => []
  | c :: t =>
    let head := if c = 'Σ' then (if cased && !meetsCased t then ['ς'] else ['σ']) else lowerChar c
    head ++ lowerFrom (if isCaseIgnorable c then cased else isCased c) t

/-- The lower-case form of a text. -/
def lower (t : Text) : Text := lowerFrom false t

/-- The upper-case form of a character. -/
def upperChar (c : Char) : Text :=
  if c.toNat < 128 then [c.toUpper]
  else match upperSequences.lookup c.toNat with
    | some ns => ns.map Char.ofNat
    | none => match CaseRun.find? upperRuns c.toNat with
      | some n => [Char.ofNat n]
      | none => [c]

/-- The upper-case form of a text. -/
def upper (t : Text) : Text := t.flatMap upperChar

end Concordance.Text
