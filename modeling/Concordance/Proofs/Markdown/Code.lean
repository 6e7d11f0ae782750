import Concordance.Proofs.Markdown.Paragraphs

/-!
# The code of an outline

The code that an outline tells of is that of the outermost blocks.

* `code?_eq`: a block that says code is a block of code.
* `filter_isCode_outline`: the code of an outline, block by block.
-/

namespace Concordance

open Text

/-- Whether a paragraph is code. -/
def Paragraph.isCode : Paragraph → Bool
  | .code _ _ _ => true
  | _ => false

namespace Markdown

/-- What a block says in an outline, if it is code. -/
def Block.code? : Block → Option Paragraph
  | .code line text => some (.code [] text (some (line + 1)))
  | .fence line info text => some (.code ((words info).headD []) text (some (line + 1)))
  | _ => none

/-- What a block says is code exactly if the block is. -/
theorem code?_eq (definitions : Definitions) (b : Block) :
    (b.paragraph? definitions).filter Paragraph.isCode = b.code? := by
  cases b <;> rfl

/-- The code of an outline is that of the outermost blocks. -/
theorem filter_isCode_outline (t : Text) :
    (outline t).filter Paragraph.isCode = (blocks (prepare t)).filterMap Block.code? := by
  rw [outline_eq, List.filter_filterMap]
  exact congrArg (List.filterMap · (blocks (prepare t))) (funext (code?_eq _))

end Markdown

end Concordance
