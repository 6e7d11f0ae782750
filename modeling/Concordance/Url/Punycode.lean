import Concordance.Text.Basic

/-!
# Host names in the first 128 characters

A label of a host name that holds other characters is written as its plain characters, a hyphen,
and the places and values of the others as differences in a number system whose digits adapt to the
size of the differences.
-/

namespace Concordance.Url.Punycode

/-! ## Digits -/

/-- The digits, from zero to thirty-five. -/
def digits : Text := "abcdefghijklmnopqrstuvwxyz0123456789".toList

/-- A digit as a character. -/
def digit (n : Nat) : Char := digits.getD n 'a'

/-- The value of a digit, in either letter case. -/
def digitValue? (c : Char) : Option Nat := digits.findIdx? (· == c.toLower)

/-- The threshold of the digit at distance `k`. -/
def threshold (k bias : Nat) : Nat := if k ≤ bias then 1 else min 26 (k - bias)

/-- Divide a difference down to the range of a single digit, counting the steps; each step takes
the difference to a thirty-fifth, so `fuel` need not exceed it. -/
def scaleDown : (fuel delta steps : Nat) → Nat × Nat
  | 0, delta, steps => (delta, steps)
  | fuel + 1, delta, steps =>
    if 455 < delta then scaleDown fuel (delta / 35) (steps + 36) else (delta, steps)

/-- The bias after a difference, when `count` characters have been placed. -/
def adapt (delta count : Nat) (first : Bool) : Nat :=
  let delta := if first then delta / 700 else delta / 2
  let (d, k) := scaleDown delta (delta + delta / count) 0
  k + 36 * d / (d + 38)

/-- A difference as digits, the least first; each digit divides what is left by at least ten. -/
def writeDelta (bias : Nat) : (fuel k q : Nat) → Text
  | 0, _, q => [digit q]
  | fuel + 1, k, q =>
    let t := threshold k bias
    if q < t then [digit q]
    else digit (t + (q - t) % (36 - t)) :: writeDelta bias fuel (k + 36) ((q - t) / (36 - t))

/-! ## Writing -/

/-- What has been written so far. -/
structure Progress where
  out : Text
  delta : Nat
  bias : Nat
  placed : Nat

/-- Pass over one character when those of code `m` are being placed. -/
def Progress.step (plain m : Nat) (p : Progress) (c : Char) : Progress :=
  if c.toNat < m then { p with delta := p.delta + 1 }
  else if c.toNat = m then
    { out := p.out ++ writeDelta p.bias p.delta 36 p.delta
      delta := 0
      bias := adapt p.delta (p.placed + 1) (p.placed == plain)
      placed := p.placed + 1 }
  else p

/-- Place the characters of each code in turn; `n` is the least code not dealt with. -/
def place (label : Text) (plain : Nat) : List Nat → Nat → Progress → Progress
  | [], _, p => p
  | m :: ms, n, p =>
    let p := { p with delta := p.delta + (m - n) * (p.placed + 1) }
    let p := label.foldl (Progress.step plain m) p
    place label plain ms (m + 1) { p with delta := p.delta + 1 }

/-- Put a code into an ascending list, unless it is there already. -/
def insertCode (n : Nat) : List Nat → List Nat
  | [] => [n]
  | m :: ms => if n < m then n :: m :: ms else if n = m then m :: ms else m :: insertCode n ms

/-- Encode a label. -/
def encode (label : Text) : Text :=
  let plain := label.filter (·.toNat < 128)
  let others := (label.filter (128 ≤ ·.toNat)).foldl (fun ns c => insertCode c.toNat ns) []
  let head := if plain = [] then [] else plain ++ ['-']
  (place label plain.length others 128 ⟨head, 0, 72, plain.length⟩).out

/-! ## Reading -/

/-- Read a difference: its value, and what is behind it. -/
def readDelta (bias : Nat) : Text → (k weight sum : Nat) → Option (Nat × Text)
  | [], _, _, _ => none
  | c :: t, k, weight, sum =>
    (digitValue? c).bind fun d =>
      let h := threshold k bias
      let sum := sum + d * weight
      if d < h then some (sum, t) else readDelta bias t (k + 36) (weight * (36 - h)) sum

/-- Read differences and put the characters into place. -/
def readFrom : (fuel n at_ bias : Nat) → (first : Bool) → (out t : Text) → Option Text
  | _, _, _, _, _, out, [] => some out
  | 0, _, _, _, _, _, _ => none
  | fuel + 1, n, at_, bias, first, out, t =>
    (readDelta bias t 36 1 0).bind fun (delta, t) =>
      let count := out.length + 1
      let place := at_ + delta
      let n := n + place / count
      let place := place % count
      if n.isValidChar then
        readFrom fuel n (place + 1) (adapt delta count first) false
          (out.take place ++ Char.ofNat n :: out.drop place) t
      else none

/-- Decode a label. -/
def decode (label : Text) : Option Text :=
  let tail := (label.reverse.takeWhile (· != '-')).reverse
  let head := if label.contains '-' then label.take (label.length - tail.length - 1) else []
  if label.all (·.toNat < 128) then readFrom tail.length 128 0 72 true head tail else none

end Concordance.Url.Punycode
