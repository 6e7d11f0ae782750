import Concordance.Html.EntityTable
import Concordance.Text.Basic

/-!
# Characters by name

The characters that a name stands for between an ampersand and a semicolon.
-/

namespace Concordance.Html

/-- The characters that a name stands for. -/
def namedCharacters? (name : Text) : Option Text :=
  match name with
  | [] => none
  | c :: _ => ((entitiesFrom c).lookup (String.ofList name)).map fun ns => ns.map Char.ofNat

end Concordance.Html
