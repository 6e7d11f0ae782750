import Concordance.Markdown.Span
import Concordance.Url

/-!
# Autolinks

An address or a mail address between angle brackets is a link to itself.
-/

namespace Concordance.Markdown

open Text

/-- The first character of a text is a letter, and one to thirty-one letters, digits and signs
behind it lead to a colon; behind the colon there are no blanks and no angle brackets, but for a
line feed at the end. -/
def isAddress : Text → Bool
  | [] => false
  | c :: t =>
    let scheme := t.takeWhile fun c => c.isAlphanum || c == '+' || c == '.' || c == '-'
    match t.drop scheme.length with
    | ':' :: r =>
      let r := if r.getLast? = some '\n' then r.dropLast else r
      c.isAlpha && 1 ≤ scheme.length && scheme.length ≤ 31 &&
        r.all fun c => 0x20 < c.toNat && c != '<' && c != '>'
    | _ => false

/-- A part of a domain: at most sixty-three letters, digits and hyphens, with no hyphen at either
end. -/
def isDomainLabel (t : Text) : Bool :=
  t ≠ [] && t.length ≤ 63 && t.all (fun c => c.isAlphanum || c == '-') && t.head? ≠ some '-' &&
    t.getLast? ≠ some '-'

/-- A character that may stand before the sign in a mail address. -/
def isMailboxChar (c : Char) : Bool :=
  c.isAlphanum || ".!#$%&\x27*+/=?^_\x60\x7b|\x7d~-".toList.contains c

/-- Whether a text is a mail address; a line feed may end it. -/
def isMailAddress (t : Text) : Bool :=
  let mailbox := t.takeWhile isMailboxChar
  match t.drop mailbox.length with
  | '@' :: r =>
    let r := if r.getLast? = some '\n' then r.dropLast else r
    mailbox ≠ [] && (splitOn '.' r).all isDomainLabel
  | _ => false

/-- The link that a text begins with, and what is behind it. -/
def autolink? : Text → Option (Span × Text)
  | '<' :: t =>
    let address := t.takeWhile fun c => c != '<' && c != '>'
    match t.drop address.length with
    | '>' :: rest =>
      let href? :=
        if isAddress address then some (Url.normalize address)
        else if isMailAddress address then some (Url.normalize ("mailto:".toList ++ address))
        else none
      (href?.filter Url.isAllowed).map fun href =>
        (.link ⟨href, []⟩ [.text (Url.shown address)], rest)
    | _ => none
  | _ => none

end Concordance.Markdown
