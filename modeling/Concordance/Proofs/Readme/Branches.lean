import Concordance.Proofs.Markdown.Sequence
import Concordance.Proofs.Readme.Rows

/-!
# Lists of headings

Lines that list headings are grouped into branches: a line of the first level with the lines of the
second level behind it.  Each branch is one item of the list, and its lines of the second level are
the items of a list inside it.

* `readItems_step` is one step of the loop that reads items.
* `readItems_branches`: a reader that takes each branch as it should makes one item of each.
* `blocks_branches`: the document is one list with an item for each branch.
-/

namespace Concordance.Readme

open Text Markdown

/-! ## Branches -/

/-- A line that lists a heading, and the lines behind it that are items inside its item. -/
structure Branch where
  top : Row
  below : List Row

/-- The item that a line makes where nothing stands inside it. -/
def Row.item (r : Row) : Item := .mk r.number [r.paragraph]

namespace Branch

variable (b : Branch)

/-- The lines of a branch. -/
def rows : List Row := b.top :: b.below

/-- A line without lines inside it. -/
def leaf (r : Row) : Branch := ⟨r, []⟩

/-- What is in the item that a branch makes. -/
def blocks : List Block :=
  match b.below with
  | [] => [b.top.paragraph]
  | r :: rs => [b.top.paragraph, .list r.number none true ((r :: rs).map Row.item)]

/-- The item that a branch makes. -/
def item : Item := .mk b.top.number b.blocks

/-- Whether the levels of the lines are those of a branch of the outermost list. -/
def IsOuter : Prop := b.top.nested = false ∧ ∀ r ∈ b.below, r.nested = true

/-- Whether a reader for the content of items takes a branch as one item, whatever lines stand
behind it that are not inside its item. -/
def Reads (body : Reader) (c : Container) : Prop :=
  ∀ rest : List Row, (∀ r ∈ rest.head?, r.column ≤ c.indent) →
    body (b.top.inner c) (b.top.head :: (b.below ++ rest).map Row.line) =
      { blocks := b.blocks, used := b.rows.length, tight := true }

end Branch

/-! ## Items -/

theorem isEmpty_of_mem_map {rows : List Row} {l : Line} (h : l ∈ rows.map Row.line) :
    l.isEmpty = false := by
  obtain ⟨r, -, rfl⟩ := List.mem_map.1 h
  exact isEmpty_line r

theorem isEmpty_head (r : Row) : r.head.isEmpty = false := by
  rw [Line.isEmpty, r.content_head]
  rfl

/-- What opens behind the marker of a line. -/
theorem openItem_line (c : Container) (r : Row) :
    openItem c r.marker r.line = (r.inner c, r.head) := by
  have hmeasure : ∀ base column, Line.measure base column (' ' :: r.text) = (1, column + 1) := by
    intro base column
    simp [Line.measure, Line.isIndentation, Line.advance, Row.text_eq]
  simp only [openItem, Row.marker, hmeasure]
  simp [Row.inner, Row.head, Row.line, Row.text_eq]
  omega

section

variable {body : Reader} {c : Container} {fuel : Nat} {b : Branch}

theorem drop_rows (b : Branch) (rest : List Row) :
    (b.top.line :: (b.below ++ rest).map Row.line).drop b.rows.length = rest.map Row.line := by
  rw [Branch.rows, List.length_cons, List.drop_succ_cons, List.map_append]
  exact List.drop_left' (List.length_map _)

theorem endsBlank_eq_false (b : Branch) (rest : List Row) (n : Nat) :
    ((b.top.line :: (b.below ++ rest).map Row.line)[n]?).any Line.isEmpty = false := by
  cases hd : (b.top.line :: (b.below ++ rest).map Row.line)[n]? with
  | none => rfl
  | some l =>
    have hmem : l ∈ (b.top :: (b.below ++ rest)).map Row.line := List.mem_of_getElem? hd
    exact isEmpty_of_mem_map hmem

/-- The last branch of a list: what stands behind it is left of the list. -/
theorem readItems_last {rest : List Row} (hb : b.Reads body c)
    (hrest : ∀ r ∈ rest.head?, r.column < c.indent) :
    readItems body c (fuel + 1) false b.top.marker b.top.line ((b.below ++ rest).map Row.line) =
      ⟨[b.item], b.rows.length, true⟩ := by
  have hread := hb rest fun r hr => Nat.le_of_lt (hrest r hr)
  rw [readItems, openItem_line]
  simp only [isEmpty_head, Bool.false_and, Bool.false_eq_true, if_false, hread, drop_rows,
    endsBlank_eq_false]
  cases rest with
  | nil => rfl
  | cons r rest =>
    have hleft : r.line.indent < c.indent := by
      rw [r.indent_line]
      exact Int.ofNat_lt.2 (hrest r rfl)
    simp only [List.map_cons, hleft, decide_true, Bool.true_or, if_true]
    rfl

/-- A branch with another one behind it. -/
theorem readItems_step {r : Row} {rest : List Row} (hb : b.Reads body c)
    (hr : r.column = c.indent) :
    readItems body c (fuel + 1) false b.top.marker b.top.line
        ((b.below ++ r :: rest).map Row.line) =
      ⟨b.item :: (readItems body c fuel false r.marker r.line (rest.map Row.line)).items,
        b.rows.length + (readItems body c fuel false r.marker r.line (rest.map Row.line)).used,
        (readItems body c fuel false r.marker r.line (rest.map Row.line)).tight⟩ := by
  have hread := hb (r :: rest) (by simp [hr])
  have hin : decide (r.line.indent < c.indent) = false := by
    rw [r.indent_line, hr]
    exact decide_eq_false (Int.lt_irrefl _)
  have hgoes : b.top.marker.goesWith r.marker = true := rfl
  rw [readItems, openItem_line]
  simp only [isEmpty_head, Bool.false_and, Bool.false_eq_true, if_false, hread, drop_rows,
    endsBlank_eq_false, List.map_cons, hin, isCode_line, interruptsList_line, marker?_content_line,
    Bool.or_false, Bool.and_false, Option.filter_some, hgoes, if_true, Option.map_some]
  rfl

/-- A reader that takes each branch of a list as one item makes one item of each. -/
theorem readItems_branches {bs : List Branch} {rest : List Row} (hfuel : bs.length < fuel)
    (hread : ∀ b' ∈ b :: bs, b'.Reads body c) (hcolumn : ∀ b' ∈ bs, b'.top.column = c.indent)
    (hrest : ∀ r ∈ rest.head?, r.column < c.indent) :
    readItems body c fuel false b.top.marker b.top.line
        ((b.below ++ (bs.flatMap Branch.rows ++ rest)).map Row.line) =
      ⟨(b :: bs).map Branch.item, ((b :: bs).flatMap Branch.rows).length, true⟩ := by
  induction bs generalizing b fuel with
  | nil =>
    obtain ⟨fuel, rfl⟩ := Nat.exists_eq_add_of_lt hfuel
    rw [List.flatMap_nil, List.nil_append, readItems_last (hread b List.mem_cons_self) hrest]
    simp
  | cons b' bs ih =>
    cases fuel with
    | zero => exact absurd hfuel (Nat.not_lt_zero _)
    | succ fuel =>
      have htail := ih (Nat.lt_of_succ_lt_succ hfuel)
        (fun b'' hb => hread b'' (List.mem_cons_of_mem _ hb))
        (fun b'' hb => hcolumn b'' (List.mem_cons_of_mem _ hb))
      rw [List.flatMap_cons, Branch.rows, List.append_assoc, List.cons_append,
        readItems_step (hread b List.mem_cons_self) (hcolumn b' List.mem_cons_self), htail]
      simp

end

/-! ## Readers -/

theorem Row.indent_inner (r : Row) (c : Container) : (r.inner c).indent = r.column + 2 := rfl

theorem outside_rows {c : Container} {rows : List Row}
    (h : ∀ r ∈ rows.head?, r.column < c.indent) :
    ∀ l ∈ (rows.map Row.line).head?, l.isEmpty = false ∧ l.indent < c.indent := by
  cases rows with
  | nil => simp
  | cons r rows =>
    rintro l ⟨⟩
    exact ⟨isEmpty_line r, Int.ofNat_lt.2 (h r rfl)⟩

theorem full_rows {l : Line} (hl : l.isEmpty = false) (rows : List Row) :
    ∀ l' ∈ l :: rows.map Row.line, l'.isEmpty = false := by
  intro l' hl'
  rcases List.mem_cons.1 hl' with rfl | hl'
  · exact hl
  · exact isEmpty_of_mem_map hl'

/-- A line without lines inside it is one item. -/
theorem reads_leaf (depth : Nat) {c : Container} {r : Row} (hc : r.column = c.indent) :
    (Branch.leaf r).Reads (reader (depth + 2)) c := by
  intro rest hrest
  have hout : ∀ r' ∈ rest.head?, r'.column < (r.inner c).indent := fun r' hr' =>
    Nat.lt_of_le_of_lt (hrest r' hr') (by rw [← hc, Row.indent_inner]; omega)
  have hparagraph := readBlock_head (reader (depth + 1)) (reader depth) c r rest
  change readBlocks _ (r.inner c) _ false true (r.head :: rest.map Row.line) = _
  rw [List.length_cons, readBlocks_step (full_rows (isEmpty_head r) rest) (Int.le_refl _)
    hparagraph, List.drop_succ_cons, List.drop_zero, readBlocks_outside (outside_rows hout)]
  rfl

/-- Lines in one column are items of one list, up to a line left of them. -/
theorem readItems_leaves (depth : Nat) {c : Container} {fuel : Nat} {r : Row} {rs rest : List Row}
    (hfuel : rs.length < fuel) (hcolumn : ∀ r' ∈ r :: rs, r'.column = c.indent)
    (hrest : ∀ r' ∈ rest.head?, r'.column < c.indent) :
    readItems (reader (depth + 2)) c fuel false r.marker r.line ((rs ++ rest).map Row.line) =
      ⟨(r :: rs).map Row.item, (r :: rs).length, true⟩ := by
  have hrows : ∀ rs : List Row, (rs.map Branch.leaf).flatMap Branch.rows = rs := by
    intro rs
    rw [List.flatMap_map]
    exact List.flatMap_singleton' rs
  have hread : ∀ b ∈ (r :: rs).map Branch.leaf, b.Reads (reader (depth + 2)) c := by
    intro b hb
    obtain ⟨r', hr', rfl⟩ := List.mem_map.1 hb
    exact reads_leaf depth (hcolumn r' hr')
  have htop : ∀ b ∈ rs.map Branch.leaf, b.top.column = c.indent := by
    intro b hb
    obtain ⟨r', hr', rfl⟩ := List.mem_map.1 hb
    exact hcolumn r' (List.mem_cons_of_mem _ hr')
  have hitems := readItems_branches (by simpa using hfuel) hread htop hrest
  rw [← List.map_cons, hrows, hrows, List.map_map] at hitems
  exact hitems

/-- A branch of the outermost list is one item. -/
theorem reads_outer (depth : Nat) {c : Container} {b : Branch} (hb : b.IsOuter)
    (hc : c.indent = 0) :
    b.Reads (reader (depth + 4)) c := by
  have hcolumn : b.top.column = 0 := by rw [Row.column, hb.1]; rfl
  obtain ⟨top, below⟩ := b
  cases below with
  | nil => exact reads_leaf (depth + 2) (hcolumn.trans hc.symm)
  | cons r rs =>
    intro rest hrest
    have hout : ∀ r' ∈ rest.head?, r'.column < (top.inner c).indent := fun r' hr' =>
      Nat.lt_of_le_of_lt (hrest r' hr') (by rw [hc, Row.indent_inner]; omega)
    have hcolumns : ∀ r' ∈ r :: rs, r'.column = (top.inner c).indent := by
      intro r' hr'
      rw [Row.column, hb.2 r' hr', Row.indent_inner, hcolumn]
      rfl
    have hfuel : rs.length < (rs ++ rest).length + 1 := by
      rw [List.length_append]
      omega
    have hparagraph :=
      readBlock_head (reader (depth + 3)) (reader (depth + 2)) c top (r :: (rs ++ rest))
    have hlist : readBlock (reader (depth + 3)) (reader (depth + 2)) (top.inner c) r.line
        ((rs ++ rest).map Row.line) =
          (.list r.number none true ((r :: rs).map Row.item), (r :: rs).length) := by
      rw [readBlock_line, readItems_leaves depth hfuel hcolumns hout]
    have hend : (r.line :: (rs ++ rest).map Row.line).drop (r :: rs).length = rest.map Row.line :=
      drop_rows ⟨r, rs⟩ rest
    have hin : ((top.inner c).indent : Int) ≤ r.line.indent :=
      Int.ofNat_le.2 (Nat.le_of_eq (hcolumns r List.mem_cons_self).symm)
    change readBlocks _ (top.inner c) _ false true
      (top.head :: (r :: (rs ++ rest)).map Row.line) = _
    rw [List.length_cons, readBlocks_step (full_rows (isEmpty_head _) _) (Int.le_refl _)
      hparagraph, List.drop_succ_cons, List.drop_zero, List.map_cons,
      readBlocks_step (full_rows (isEmpty_line r) _) hin hlist, hend,
      readBlocks_outside (outside_rows hout)]
    simp [Branch.blocks, Branch.rows, Nat.add_comm]

theorem length_le_flatMap_rows (bs : List Branch) :
    bs.length ≤ (bs.flatMap Branch.rows).length := by
  induction bs with
  | nil => exact Nat.le_refl _
  | cons b bs ih =>
    rw [List.flatMap_cons, List.length_append, List.length_cons, Branch.rows, List.length_cons]
    omega

/-- A document whose lines list headings is one list, with an item for each branch. -/
theorem reader_branches (depth : Nat) {b : Branch} {bs : List Branch}
    (h : ∀ b' ∈ b :: bs, b'.IsOuter) :
    (reader (depth + 6) {} (((b :: bs).flatMap Branch.rows).map Row.line)).blocks =
      [.list b.top.number none true ((b :: bs).map Branch.item)] := by
  have hcolumn : ∀ b' ∈ b :: bs, b'.top.column = 0 := by
    intro b' hb'
    rw [Row.column, (h b' hb').1]
    rfl
  have hrows : (b :: bs).flatMap Branch.rows = b.top :: (b.below ++ bs.flatMap Branch.rows) := rfl
  have hfuel : bs.length < (b.below ++ bs.flatMap Branch.rows).length + 1 := by
    have hlength := length_le_flatMap_rows bs
    rw [List.length_append]
    omega
  have hitems :=
    readItems_branches hfuel (fun b' hb' => reads_outer depth (h b' hb') (c := {}) rfl)
      (fun b' hb' => hcolumn b' (List.mem_cons_of_mem _ hb'))
      (show ∀ r ∈ ([] : List Row).head?, r.column < 0 by simp)
  have hlist : readBlock (reader (depth + 5)) (reader (depth + 4)) {} b.top.line
      ((b.below ++ bs.flatMap Branch.rows).map Row.line) =
        (.list b.top.number none true ((b :: bs).map Branch.item),
          ((b :: bs).flatMap Branch.rows).length) := by
    rw [List.append_nil] at hitems
    rw [readBlock_line, hitems]
  have hend : (b.top.line :: (b.below ++ bs.flatMap Branch.rows).map Row.line).drop
      ((b :: bs).flatMap Branch.rows).length = [] :=
    List.drop_eq_nil_of_le (by simp [hrows])
  have hin : ((({} : Container).indent : Nat) : Int) ≤ b.top.line.indent := b.top.indent_line_le.1
  change (readBlocks _ {} _ false true (((b :: bs).flatMap Branch.rows).map Row.line)).blocks = _
  rw [hrows, List.map_cons, List.length_cons,
    readBlocks_step (full_rows (isEmpty_line b.top) _) hin hlist, hend,
    readBlocks_outside (by simp)]

end Concordance.Readme
