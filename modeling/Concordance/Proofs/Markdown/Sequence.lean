import Concordance.Proofs.Markdown.Code
import Concordance.Proofs.Text.Pieces

/-!
# Sequences of blocks

The loop that reads blocks one after another, step by step.

* `readBlocks_outside` and `readBlocks_step`: where no line is empty, the loop stops at a line left
  of the container, and otherwise reads the block in front.
* `blocks_cons_empty`: an empty line in front changes no blocks.
* `Begins` relates lines to the code that their first blocks are; `begins_cons_empty` and
  `begins_block` are its steps.
-/

namespace Concordance.Markdown

open Text

/-! ## Lines -/

/-- A line with another one behind it ends with a line feed. -/
theorem ofPieces_cons (n : Nat) (t : Text) {ts : List Text} (h : ts ≠ []) :
    Line.ofPieces n (t :: ts) = Line.ofText n t true :: Line.ofPieces (n + 1) ts := by
  cases ts with
  | nil => exact absurd rfl h
  | cons u ts => rfl

theorem drop_measure (base column : Nat) (t : Text) :
    t.drop (Line.measure base column t).1 = t.dropWhile Line.isIndentation := by
  induction t generalizing column with
  | nil => rfl
  | cons c t ih =>
    rw [Line.measure, List.dropWhile_cons]
    split
    · rw [List.drop_succ_cons, ih]
    · rfl

/-- Spaces are measured up to the first character that is no blank. -/
theorem measure_spaces {c : Char} (hc : Line.isIndentation c = false) (n column : Nat) (t : Text) :
    Line.measure 0 column (List.replicate n ' ' ++ c :: t) = (n, column + n) := by
  induction n generalizing column with
  | zero =>
    rw [List.replicate_zero, List.nil_append, Line.measure, if_neg (by rw [hc]; decide)]
    rfl
  | succ n ih =>
    have hadvance : Line.advance 0 column ' ' = column + 1 := rfl
    rw [List.replicate_succ, List.cons_append, Line.measure, if_pos (by decide), hadvance, ih]
    simp only [Nat.add_assoc, Nat.add_comm 1 n]

theorem le_measure (base column : Nat) (t : Text) : column ≤ (Line.measure base column t).2 := by
  induction t generalizing column with
  | nil => exact Nat.le_refl _
  | cons c t ih =>
    rw [Line.measure]
    split
    · refine Nat.le_trans ?_ (ih _)
      rw [Line.advance]
      split
      · omega
      · exact Nat.le_succ column
    · exact Nat.le_refl _

/-- The lines of a text without the character zero are those that its blocks are read from. -/
theorem ofDocument_prepare {t : Text} (h : ∀ l ∈ lines t, '\x00' ∉ l) :
    Line.ofDocument (prepare t) = Line.ofPieces 0 (lines t) := by
  have hzero : ∀ c ∈ normalizeBreaks t, c.toNat ≠ 0 := by
    intro c hc heq
    have hc0 : c = '\x00' := by rw [← Char.ofNat_toNat c, heq]
    rcases mem_joinWith hc with hc | ⟨l, hl, hc⟩
    · rw [hc0] at hc
      exact absurd hc (by decide)
    · exact h l hl (hc0 ▸ hc)
  have hprepare : prepare t = unlines (lines t) :=
    (List.map_congr_left fun c hc => if_neg (hzero c hc)).trans (List.map_id _)
  rw [hprepare, Line.ofDocument, unlines,
    splitOn_joinWith (lines_ne_nil t) fun l hl => (isLine_of_mem_lines hl).2]

/-! ## Sequences of blocks -/

section

variable {block : Container → Line → List Line → Block × Nat} {c : Container} {fuel : Nat}

/-- Nothing is read where the first line stands left of the container. -/
theorem readBlocks_outside {blank tight : Bool} {ls : List Line}
    (h : ∀ l ∈ ls.head?, l.isEmpty = false ∧ l.indent < c.indent) :
    readBlocks block c fuel blank tight ls = { used := 0, tight := tight } := by
  cases fuel with
  | zero => rfl
  | succ fuel =>
    cases ls with
    | nil => rfl
    | cons l ls =>
      obtain ⟨hempty, hleft⟩ := h l rfl
      rw [readBlocks]
      simp only [List.takeWhile_cons, List.dropWhile_cons, hempty, Bool.false_eq_true,
        if_false, hleft, if_true]
      rfl

/-- Where no line is empty, the block in front is read and then the blocks behind it. -/
theorem readBlocks_step {tight : Bool} {l : Line} {ls : List Line} {b : Block} {n : Nat}
    (hfull : ∀ l' ∈ l :: ls, l'.isEmpty = false) (hin : c.indent ≤ l.indent)
    (hblock : block c l ls = (b, n)) :
    readBlocks block c (fuel + 1) false tight (l :: ls) =
      { blocks := b :: (readBlocks block c fuel false true ((l :: ls).drop n)).blocks
        used := n + (readBlocks block c fuel false true ((l :: ls).drop n)).used
        tight := (readBlocks block c fuel false true ((l :: ls).drop n)).tight } := by
  have hempty : l.isEmpty = false := hfull l List.mem_cons_self
  have hnext : ((l :: ls).drop n).head?.any Line.isEmpty = false := by
    cases hd : ((l :: ls).drop n).head? with
    | none => rfl
    | some l' => exact hfull l' (List.mem_of_mem_drop (List.mem_of_mem_head? hd))
  have hlast : ((l :: ls)[n - 1]?).any Line.isEmpty = false := by
    cases hd : (l :: ls)[n - 1]? with
    | none => rfl
    | some l' => exact hfull l' (List.mem_of_getElem? hd)
  rw [readBlocks]
  simp only [List.takeWhile_cons, List.dropWhile_cons, hempty, Bool.false_eq_true, if_false,
    show ¬ l.indent < c.indent by omega, hblock, hnext, hlast]
  simp

end

/-! ## Empty lines -/

section

variable {block : Container → Line → List Line → Block × Nat} {c : Container}

/-- An empty line in front changes no blocks. -/
theorem blocks_cons_empty {l : Line} (hl : l.isEmpty = true) (fuel : Nat) (blank tight : Bool)
    (ls : List Line) :
    (readBlocks block c fuel blank tight (l :: ls)).blocks =
      (readBlocks block c fuel blank tight ls).blocks := by
  cases fuel with
  | zero => rfl
  | succ fuel =>
    rw [readBlocks, readBlocks]
    simp only [List.dropWhile_cons, hl, if_true]
    split
    · rfl
    · split <;> rfl

end

/-! ## Code in front -/

/-- Whether the first code among the blocks of some lines is `cs`, whatever stands in front of the
lines.  A block takes at least one line that is not empty, so the number of these is enough
fuel. -/
def Begins (block : Container → Line → List Line → Block × Nat) (ls : List Line)
    (cs : List Paragraph) : Prop :=
  ∀ fuel blank tight, (ls.countP fun l => !l.isEmpty) < fuel →
    cs <+: (readBlocks block {} fuel blank tight ls).blocks.filterMap Block.code?

section

variable {block : Container → Line → List Line → Block × Nat} {ls : List Line}
  {cs : List Paragraph}

theorem begins_nil (block : Container → Line → List Line → Block × Nat) (ls : List Line) :
    Begins block ls [] :=
  fun _ _ _ _ => List.nil_prefix

theorem begins_cons_empty {l : Line} (hl : l.isEmpty = true) :
    Begins block (l :: ls) cs ↔ Begins block ls cs := by
  have hcount : ((l :: ls).countP fun l => !l.isEmpty) = ls.countP fun l => !l.isEmpty :=
    List.countP_cons_of_neg (by rw [hl]; decide)
  simp only [Begins, hcount, blocks_cons_empty hl]

theorem begins_append_empty {es : List Line} (h : ∀ e ∈ es, e.isEmpty = true) :
    Begins block (es ++ ls) cs ↔ Begins block ls cs := by
  induction es with
  | nil => rfl
  | cons e es ih =>
    rw [List.cons_append, begins_cons_empty (h e List.mem_cons_self)]
    exact ih fun e' he' => h e' (List.mem_cons_of_mem _ he')

/-- The block in front comes first, and then what the lines behind it begin with. -/
theorem begins_block {l : Line} {b : Block} {n : Nat} (hl : l.isEmpty = false) (hin : 0 ≤ l.indent)
    (hblock : block {} l ls = (b, n)) (hn : 1 ≤ n) (h : Begins block ((l :: ls).drop n) cs) :
    Begins block (l :: ls) (b.code?.toList ++ cs) := by
  intro fuel blank tight hfuel
  obtain ⟨fuel, rfl⟩ := Nat.exists_eq_succ_of_ne_zero (Nat.ne_zero_of_lt hfuel)
  have hfewer : (((l :: ls).drop n).countP fun l => !l.isEmpty) < fuel := by
    obtain ⟨n, rfl⟩ := Nat.exists_eq_add_of_le' hn
    rw [List.countP_cons_of_pos (by rw [hl]; rfl)] at hfuel
    exact Nat.lt_of_le_of_lt (List.drop_sublist n ls).countP_le (Nat.lt_of_succ_lt_succ hfuel)
  -- The loop itself passes over one empty line behind the block.
  have hgap : ∀ blank tight, (readBlocks block {} fuel blank tight (((l :: ls).drop n).drop
      (if ((l :: ls).drop n).head?.any Line.isEmpty then 1 else 0))).blocks =
        (readBlocks block {} fuel blank tight ((l :: ls).drop n)).blocks := by
    intro blank tight
    cases (l :: ls).drop n with
    | nil => rfl
    | cons l' ls' =>
      cases hl' : l'.isEmpty with
      | false => simp [hl']
      | true =>
        rw [blocks_cons_empty hl']
        simp [hl']
  have hread := h fuel (blank || ((l :: ls)[n - 1]?).any Line.isEmpty ||
    (if ((l :: ls).drop n).head?.any Line.isEmpty then 1 else 0) = 1) (!blank) hfewer
  rw [← hgap] at hread
  rw [readBlocks]
  simp only [List.takeWhile_cons, List.dropWhile_cons, hl, Bool.false_eq_true, if_false,
    show ¬ l.indent < (({} : Container).indent : Int) from Int.not_lt.2 hin, hblock]
  cases hc : b.code? with
  | none =>
    rw [List.filterMap_cons_none hc]
    exact hread
  | some c =>
    rw [List.filterMap_cons_some hc]
    exact (List.prefix_cons_inj c).2 hread

end

end Concordance.Markdown
