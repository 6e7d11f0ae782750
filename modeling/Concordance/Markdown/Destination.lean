import Concordance.Markdown.Escape
import Concordance.Text.Case

/-!
# Destinations, titles and labels of links

Each reader takes a text that begins with what it looks for and returns it with its escapes
resolved, together with what is behind it.
-/

namespace Concordance.Markdown

open Text

/-- A space or a tab. -/
def isSpace (c : Char) : Bool := c == ' ' || c == '\t'

/-- A space, a tab or a line feed. -/
def isGap (c : Char) : Bool := isSpace c || c == '\n'

/-! ## Destinations -/

/-- The text up to a closing angle bracket. -/
def angled? : Text → Option (Text × Text)
  | [] => none
  | c :: t =>
    if c = '\n' ∨ c = '<' then none
    else if c = '>' then some ([], t)
    else if c = '\\' then
      match t with
      | d :: t => (angled? t).map fun (w, r) => (c :: d :: w, r)
      | [] => none
    else (angled? t).map fun (w, r) => (c :: w, r)

/-- The text up to a blank or a closing parenthesis that is not opened in it; `depth` parentheses
are open, and no more than thirty-two may be. -/
def bare? (depth : Nat) : Text → Option (Text × Text)
  | [] => if depth = 0 then some ([], []) else none
  | c :: t =>
    if c.toNat ≤ 0x20 ∨ c.toNat = 0x7F then if depth = 0 then some ([], c :: t) else none
    else if c = '\\' then
      match t with
      | [] => if depth = 0 then some ([c], []) else none
      | d :: r =>
        if d = ' ' then if depth = 0 then some ([], c :: t) else none
        else (bare? depth r).map fun (w, r) => (c :: d :: w, r)
    else if c = '(' then
      if depth = 32 then none else (bare? (depth + 1) t).map fun (w, r) => (c :: w, r)
    else if c = ')' then
      if depth = 0 then some ([], c :: t)
      else (bare? (depth - 1) t).map fun (w, r) => (c :: w, r)
    else (bare? depth t).map fun (w, r) => (c :: w, r)

/-- Read a destination: in angle brackets, or bare and then not empty. -/
def destination? : Text → Option (Text × Text)
  | '<' :: t => (angled? t).map fun (w, r) => (unescape w, r)
  | t =>
    match bare? 0 t with
    | some (c :: w, r) => some (unescape (c :: w), r)
    | _ => none

/-! ## Titles -/

/-- The text up to the closing mark of a title. -/
def titled? (close : Char) : Text → Option (Text × Text)
  | [] => none
  | c :: t =>
    if c = close then some ([], t)
    else if c = '(' ∧ close = ')' then none
    else if c = '\\' then
      match t with
      | d :: t => (titled? close t).map fun (w, r) => (c :: d :: w, r)
      | [] => none
    else (titled? close t).map fun (w, r) => (c :: w, r)

/-- Read a title between quotes or parentheses. -/
def title? : Text → Option (Text × Text)
  | [] => none
  | c :: t =>
    let close? :=
      if c = '\x22' ∨ c = '\x27' then some c else if c = '(' then some ')' else none
    (close?.bind fun close => titled? close t).map fun (w, r) => (unescape w, r)

/-! ## Labels -/

/-- The form in which labels are compared: blanks collapsed, and letter case removed. -/
def labelKey (label : Text) : Text := upper (lower (joinWith [' '] (words label)))

end Concordance.Markdown
