import Concordance.Text.DecimalDigit
import Concordance.Text.Quoted

/-!
# Reading integers

An integer is written with decimal digits of any script, an optional sign in front of them, single
underscores between them, and blanks around them.
-/

namespace Concordance.Text

/-- Why a text is not read as an integer. -/
inductive IntegerFault where
  | notInteger (text : Text)
  | tooLong (digits : Nat)
  deriving DecidableEq, Repr

/-- The most digits that an integer may have. -/
def maxDigits : Nat := 4300

/-- What is said about a text that is not read as an integer. -/
def IntegerFault.message : IntegerFault → Text
  | .notInteger t => "invalid literal for int() with base 10: ".toList ++ (quote t).take 200
  | .tooLong n =>
    "Exceeds the limit (".toList ++ ofInt maxDigits ++
      " digits) for integer string conversion: value has ".toList ++ ofInt n ++
      " digits; use sys.set_int_max_str_digits() to increase the limit".toList

/-- A character as it counts in an integer: digits of other scripts as their values, and their
blanks as spaces. -/
def integerChar (c : Char) : Char :=
  if c.toNat < 127 then c
  else if isBlank c then ' '
  else match digitValue? c with
    | some n => Char.ofNat (48 + n)
    | none => c

/-- A blank around an integer. -/
def isIntegerBlank (c : Char) : Bool := c == ' ' || (9 ≤ c.toNat && c.toNat ≤ 13)

/-- The value of digits. -/
def ofDigits (ds : Text) : Nat := ds.foldl (fun n d => 10 * n + (d.toNat - 48)) 0

/-- Read an integer.  Too many digits are refused before anything behind them is looked at. -/
def readInteger (t : Text) : Except IntegerFault Int :=
  let s := (t.map integerChar).dropWhile isIntegerBlank
  let negative := s.head? = some '-'
  let s := if negative || s.head? = some '+' then s.drop 1 else s
  let run := s.takeWhile fun c => c.isDigit || c == '_'
  let groups := splitOn '_' run
  let digits := groups.flatten
  if groups.contains [] then .error (.notInteger t)
  else if maxDigits < digits.length then .error (.tooLong digits.length)
  else if !(s.drop run.length).all isIntegerBlank then .error (.notInteger t)
  else .ok (if negative then -(ofDigits digits : Int) else ofDigits digits)

end Concordance.Text
