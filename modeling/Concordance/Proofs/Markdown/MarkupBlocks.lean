import Concordance.Proofs.Markdown.CodeBlocks

/-!
# Raw markup at the margin

Raw markup goes on to an empty line, or to a line with the mark that ends it.

* `isClosed` says that a mark stands in the last of some lines, and in no other.
* `readBlock_markup`: what a line is that opens raw markup.
* `begins_markup` and `begins_closed`: the first code is that of the lines behind.
-/

namespace Concordance.Markdown

open Text

/-- Whether a line ends raw markup that goes on to a mark. -/
def endsMarkup (e : MarkupEnd) (t : Text) : Bool :=
  e.isEnd (t.dropWhile Line.isIndentation) && isSolid t

/-- Whether the last of some lines ends raw markup, and no other does. -/
def isClosed (e : MarkupEnd) : List Text → Bool
  | [] => false
  | [t] => endsMarkup e t
  | t :: u :: ts => !e.isEnd (t.dropWhile Line.isIndentation) && isClosed e (u :: ts)

theorem head?_of_markupEnd? {t : Text} (h : (markupEnd? t).isSome = true) :
    t.head? = some '<' := by
  cases t with
  | nil => exact absurd h (by simp [markupEnd?])
  | cons c t =>
    by_cases hc : c = '<'
    · rw [hc]
      rfl
    · simp [markupEnd?, hc] at h

theorem dropWhile_isIndentation_ne_nil {t : Text} (h : isSolid t = true) :
    t.dropWhile Line.isIndentation ≠ [] := by
  intro hnil
  rw [isSolid, ← isEmpty_ofText 0 t true, Line.isEmpty, content_ofText, hnil] at h
  exact absurd h (by decide)

/-- No line ends raw markup that goes on to an empty line. -/
theorem not_isClosed_emptyLine (ts : List Text) : ¬ isClosed .emptyLine ts = true := by
  intro h
  induction ts with
  | nil => exact Bool.noConfusion h
  | cons t ts ih =>
    cases ts with
    | nil =>
      rw [isClosed, endsMarkup, MarkupEnd.isEnd, Bool.and_eq_true, List.isEmpty_iff] at h
      exact dropWhile_isIndentation_ne_nil h.2 h.1
    | cons u us =>
      rw [isClosed, Bool.and_eq_true] at h
      exact ih h.2

theorem markupLength_cons (e : MarkupEnd) (n : Nat) (t : Text) (ls : List Line) :
    markupLength {} e (.ofText n t true :: ls) =
      if e.isEnd (t.dropWhile Line.isIndentation) then if isSolid t then 1 else 0
      else markupLength {} e ls + 1 := by
  have hin : ¬ (Line.ofText n t true).indent < (({} : Container).indent : Int) :=
    Int.not_lt.2 (indent_ofText_nonneg n t true)
  rw [markupLength, content_ofText, if_neg hin, isEmpty_ofText, isSolid]
  cases t.all Line.isIndentation <;> rfl

/-- Raw markup that goes on to an empty line takes all lines before. -/
theorem markupLength_emptyLine {ts : List Text} (h : ts.all isSolid = true) (n : Nat)
    (ls : List Line) :
    markupLength {} .emptyLine (numbered n (ts ++ [[]]) ++ ls) = ts.length := by
  induction ts generalizing n with
  | nil => exact markupLength_cons .emptyLine n [] ls
  | cons t ts ih =>
    rw [List.all_cons, Bool.and_eq_true] at h
    have hcontent := dropWhile_isIndentation_ne_nil h.1
    rw [List.cons_append, numbered, List.cons_append, markupLength_cons, MarkupEnd.isEnd,
      if_neg (by simpa using hcontent), ih h.2, List.length_cons]

/-- Raw markup takes the lines up to its mark. -/
theorem markupLength_closed {e : MarkupEnd} {ts : List Text} (h : isClosed e ts = true) (n : Nat)
    (ls : List Line) : markupLength {} e (numbered n ts ++ ls) = ts.length := by
  induction ts generalizing n with
  | nil => exact Bool.noConfusion h
  | cons t ts ih =>
    rw [numbered, List.cons_append, markupLength_cons]
    cases ts with
    | nil =>
      rw [isClosed, endsMarkup, Bool.and_eq_true] at h
      rw [if_pos h.1, if_pos h.2, List.length_singleton]
    | cons u us =>
      rw [isClosed, Bool.and_eq_true, Bool.not_eq_true'] at h
      rw [h.1, if_neg (by decide), ih h.2]
      rfl

/-- A line without a bar that opens raw markup begins a block of it. -/
theorem readBlock_markup (quoteBody listBody : Reader) {t : Text} {e : MarkupEnd}
    {interrupts : Bool}
    (h : markupEnd? t = some (e, interrupts)) (hbar : '|' ∉ t) (n : Nat) (ls : List Line) :
    ∃ text, readBlock quoteBody listBody {} (.ofText n t true) ls =
      (.markup n text, 1 + if e.isEnd t then 0 else markupLength {} e ls) := by
  obtain ⟨u, rfl⟩ := List.head?_eq_some_iff.1 (head?_of_markupEnd? (by rw [h]; rfl))
  have hline : Line.ofText n ('<' :: u) true =
      { number := n, text := '<' :: u, shift := 0, indent := 0 } :=
    ofText_cons (by decide) n u
  have htable := table?_of_not_mem (c := {}) (not_mem_content hbar n true) ls
  rw [hline] at htable ⊢
  generalize hl : ({ number := n, text := '<' :: u, shift := 0, indent := 0 } : Line) =
    l at htable ⊢
  have hcontent : l.content = '<' :: u := by
    rw [← hl]
    rfl
  have hcode : ({} : Container).isCode l = false := by
    rw [← hl]
    rfl
  have hmarkup : ({} : Container).markup? l = some (e, interrupts) := by
    rw [Container.markup?, hcode, hcontent]
    exact h
  have hnumber : l.number = n := by rw [← hl]
  have hfence : ({} : Container).fence? l = none := by
    rw [Container.fence?, hcode, hcontent]
    simp [openFence?]
  have hquote : ({} : Container).opensQuote l = false := by
    rw [Container.opensQuote, hcontent, Bool.and_eq_false_iff]
    exact Or.inr rfl
  have hbreak : ({} : Container).isBreak l = false := by
    rw [Container.isBreak, hcontent, Bool.and_eq_false_iff]
    exact Or.inr rfl
  have hmarker : ({} : Container).marker? l = none := by
    rw [marker?_of_indent_zero (by rw [← hl]), hcontent]
    rfl
  have hdefinition : ({} : Container).definition? l ls = none := by
    rw [Container.definition?, hcode, hcontent]
    simp [definition?]
  rw [readBlock, htable, Container.code?, hcode, Container.fenced?, hfence,
    Container.quote?, hquote, readBlock.breakBlock?, hbreak, Container.list?, hmarker, hdefinition,
    Container.markupBlock?, hmarkup, hcontent, hnumber]
  exact ⟨_, rfl⟩

section

variable {quoteBody listBody : Reader} {first : Text} {more : List Text} {e : MarkupEnd}
  {interrupts : Bool} (h : markupEnd? first = some (e, interrupts)) (hbar : '|' ∉ first)

include h hbar

/-- No code is in raw markup, however long it is. -/
theorem begins_of_markupEnd? (n : Nat) {ls : List Line}
    (hlength : (1 + if e.isEnd first then 0 else markupLength {} e (numbered (n + 1) more ++ ls)) =
      more.length + 1) {cs : List Paragraph}
    (hrest : Begins (readBlock quoteBody listBody) ls cs) :
    Begins (readBlock quoteBody listBody) (numbered n (first :: more) ++ ls) cs := by
  obtain ⟨text, hblock⟩ :=
    readBlock_markup quoteBody listBody h hbar n (numbered (n + 1) more ++ ls)
  rw [hlength] at hblock
  have hfull : (Line.ofText n first true).isEmpty = false := by
    obtain ⟨u, rfl⟩ := List.head?_eq_some_iff.1 (head?_of_markupEnd? (by rw [h]; rfl))
    rw [ofText_cons (by decide)]
    rfl
  exact begins_numbered hfull hblock hrest

/-- No code is in raw markup that a mark ends. -/
theorem begins_closed (n : Nat) (hclosed : isClosed e (first :: more) = true) {ls : List Line}
    {cs : List Paragraph} (hrest : Begins (readBlock quoteBody listBody) ls cs) :
    Begins (readBlock quoteBody listBody) (numbered n (first :: more) ++ ls) cs := by
  refine begins_of_markupEnd? h hbar n ?_ hrest
  have hcontent : first.dropWhile Line.isIndentation = first := by
    obtain ⟨u, rfl⟩ := List.head?_eq_some_iff.1 (head?_of_markupEnd? (by rw [h]; rfl))
    rfl
  cases more with
  | nil =>
    rw [isClosed, endsMarkup, hcontent, Bool.and_eq_true] at hclosed
    rw [if_pos hclosed.1]
    rfl
  | cons t ts =>
    rw [isClosed, hcontent, Bool.and_eq_true, Bool.not_eq_true'] at hclosed
    rw [hclosed.1, if_neg (by decide), markupLength_closed hclosed.2, Nat.add_comm]

end

/-- No code is in raw markup that an empty line ends. -/
theorem begins_markup {quoteBody listBody : Reader} {first : Text} {more : List Text}
    {interrupts : Bool} (h : markupEnd? first = some (.emptyLine, interrupts)) (hbar : '|' ∉ first)
    (hmore : more.all isSolid = true) (n : Nat) {ls : List Line} {cs : List Paragraph}
    (hrest : Begins (readBlock quoteBody listBody) ls cs) :
    Begins (readBlock quoteBody listBody) (numbered n (first :: (more ++ [[]])) ++ ls) cs := by
  have hsplit (k : Nat) : numbered k (more ++ [[]]) ++ ls =
      numbered k more ++ .ofText (k + more.length) [] true :: ls := by
    rw [numbered_append, List.append_assoc]
    rfl
  have hne : first ≠ [] := by
    rintro rfl
    exact absurd h (by simp [markupEnd?])
  rw [numbered, List.cons_append, hsplit]
  refine begins_of_markupEnd? h hbar n ?_ ((begins_cons_empty rfl).2 hrest)
  rw [← hsplit, markupLength_emptyLine hmore, MarkupEnd.isEnd, if_neg (by simpa using hne),
    Nat.add_comm]

end Concordance.Markdown
