import Concordance.Proofs.Markdown.Passages

/-!
# Lists at the margin

A list whose items are opened at the margin of the document holds all lines that reach as far as
the content of its items, and ends with an empty line before a line at the margin that opens no
item of it.

* `ListStyle` tells lists apart; `opensItem` and `isBelow` are the lines of a list.
* `used_readItems_eq`: its items take all its lines.
* `begins_list`: the first code is that of the lines behind.
-/

namespace Concordance.Markdown

open Text

/-! ## Lines of lists -/

/-- What the items of a list have in common. -/
structure ListStyle where
  ordered : Bool
  /-- The bullet, or the sign behind the numbers. -/
  sign : Char
  /-- The column up to which the content of each item begins. -/
  column : Nat
  deriving DecidableEq, Repr

namespace ListStyle

/-- Whether a marker opens an item of the list. -/
def accepts (style : ListStyle) (m : Marker) : Bool :=
  m.value.isSome == style.ordered && m.sign == style.sign

/-- Whether a line is one of the list where a paragraph may not go on: it is empty, indented, or
opens an item. -/
def goesOn (style : ListStyle) (l : Line) : Bool :=
  l.isEmpty || l.indent != 0 ||
    (!({} : Container).interruptsList l && (marker? l.content).any style.accepts)

end ListStyle

/-- Whether a line opens at most one item, and that not too far to the right. -/
def isShallow (l : Line) : Bool :=
  (marker? l.content).all fun m =>
    decide (l.indent ≤ 16) && (marker? (m.rest.dropWhile Line.isIndentation)).isNone

namespace ListStyle

/-- Whether a line at the margin opens one item, with something in it. -/
def opensItem (style : ListStyle) (l : Line) : Bool :=
  l.indent == 0 && !({} : Container).interruptsList l && isShallow l &&
    (marker? l.content).any fun m =>
      style.accepts m && (openItem {} m l).1.indent ≤ style.column && !(openItem {} m l).2.isEmpty

/-- Whether a line is empty, or indented so far that it belongs to an item.  Where items begin
behind the third column, no tabs may stand in front of it. -/
def isBelow (style : ListStyle) (t : Text) : Bool :=
  ((Line.ofText 0 t true).isEmpty ||
      (style.column ≤ (Line.ofText 0 t true).indent && isShallow (.ofText 0 t true))) &&
    (style.column ≤ 3 || !(t.takeWhile Line.isIndentation).contains '\t')

end ListStyle

theorem shallow_of_isShallow {l : Line} (h : isShallow l = true) : Shallow l := by
  intro m hm
  rw [isShallow, hm, Option.all_some, Bool.and_eq_true, decide_eq_true_eq,
    Option.isNone_iff_eq_none] at h
  exact h

theorem shallow_of_isEmpty {l : Line} (h : l.isEmpty = true) : Shallow l := by
  intro m hm
  rw [marker?_of_isEmpty h] at hm
  exact absurd hm (by simp)

/-- What a line is that opens an item of a list at the margin. -/
structure IsItem (style : ListStyle) (l : Line) : Prop where
  indent : l.indent = 0
  continues : ({} : Container).interruptsList l = false
  shallow : Shallow l
  marker : ∃ m, marker? l.content = some m ∧ style.accepts m = true ∧
    (openItem {} m l).1.indent ≤ style.column ∧ (openItem {} m l).2.isEmpty = false

theorem isItem_of_opensItem {style : ListStyle} {l : Line} (h : style.opensItem l = true) :
    IsItem style l := by
  rw [ListStyle.opensItem, Bool.and_eq_true, Bool.and_eq_true, Bool.and_eq_true, beq_iff_eq,
    Bool.not_eq_true', Option.any_eq_true] at h
  obtain ⟨⟨⟨hindent, hcontinues⟩, hshallow⟩, m, hm, hitem⟩ := h
  rw [Bool.and_eq_true, Bool.and_eq_true, decide_eq_true_eq, Bool.not_eq_true'] at hitem
  exact ⟨hindent, hcontinues, shallow_of_isShallow hshallow, m, hm, hitem.1.1, hitem.1.2, hitem.2⟩

/-- A line that belongs to an item at the margin is empty or indented, and opens no deep items. -/
theorem of_isBelow {style : ListStyle} {t : Text} (h : style.isBelow t = true) (n : Nat) :
    ((Line.ofText n t true).isEmpty = true ∨ style.column ≤ (Line.ofText n t true).indent) ∧
      Shallow (.ofText n t true) := by
  rw [ListStyle.isBelow, Bool.and_eq_true, Bool.or_eq_true, Bool.and_eq_true,
    decide_eq_true_eq] at h
  rcases h.1 with hempty | ⟨hfar, hshallow⟩
  · exact ⟨Or.inl hempty, shallow_of_isEmpty hempty⟩
  · exact ⟨Or.inr hfar, shallow_of_isShallow hshallow⟩

/-! ## Reading lists -/

section

variable {style : ListStyle} {l l' : Line} {m m' : Marker}

theorem IsItem.isEmpty_eq (hl : IsItem style l) : l.isEmpty = false := by
  obtain ⟨m, hm, -⟩ := hl.marker
  cases hempty : l.isEmpty with
  | false => rfl
  | true =>
    rw [marker?_of_isEmpty hempty] at hm
    exact absurd hm (by simp)

theorem IsItem.of_marker? (hl : IsItem style l) (hm : marker? l.content = some m) :
    style.accepts m = true ∧ (openItem {} m l).1.indent ≤ style.column ∧
      (openItem {} m l).2.isEmpty = false := by
  obtain ⟨m₀, hm₀, hitem⟩ := hl.marker
  obtain rfl : m₀ = m := Option.some.inj (hm₀.symm.trans hm)
  exact hitem

theorem IsItem.readItem_eq (hl : IsItem style l) (hm : marker? l.content = some m) (body : Reader)
    (ls : List Line) :
    readItem body {} m l ls = body (openItem {} m l).1 ((openItem {} m l).2 :: ls) := by
  rw [readItem, (hl.of_marker? hm).2.2]
  rfl

/-- Two markers of one list go with each other, and no others go with them. -/
theorem goesWith_eq_accepts (h : style.accepts m = true) (m' : Marker) :
    m.goesWith m' = style.accepts m' := by
  rw [ListStyle.accepts, Bool.and_eq_true, beq_iff_eq, beq_iff_eq] at h
  rw [Marker.goesWith, ListStyle.accepts, h.1, h.2, BEq.comm, BEq.comm (a := style.sign)]

/-- An item behind another one goes on with the list. -/
theorem IsItem.nextItem?_eq (hl : IsItem style l) (hm : marker? l.content = some m)
    (hl' : IsItem style l') (hm' : marker? l'.content = some m') (ls : List Line) :
    nextItem? {} m (l' :: ls) = some (m', l', ls) := by
  have hgoes : m.goesWith m' = true := by
    rw [goesWith_eq_accepts (hl.of_marker? hm).1, (hl'.of_marker? hm').1]
  rw [nextItem?, isCode_of_indent_zero hl'.indent, hl'.continues, hm', hl'.indent,
    Option.filter_some, if_pos hgoes]
  rfl

/-- A line at the margin that does not go on with a list opens no item of it. -/
theorem nextItem?_eq_none (hm : style.accepts m = true) (hl : style.goesOn l = false)
    (ls : List Line) : nextItem? {} m (l :: ls) = none := by
  simp only [ListStyle.goesOn, Bool.or_eq_false_iff, Bool.and_eq_false_iff,
    Bool.not_eq_false'] at hl
  rw [nextItem?]
  split
  · rfl
  · rename_i hends
    simp only [Bool.or_eq_true, not_or] at hends
    have hother : (marker? l.content).any style.accepts = false := hl.2.resolve_left hends.2
    rw [funext (goesWith_eq_accepts hm), Option.map_eq_none_iff, Option.filter_eq_none_iff]
    intro m' hm' haccepts
    rw [hm', Option.any_some, haccepts] at hother
    exact absurd hother (by decide)

end

/-- The items of a list at the margin take all its lines. -/
theorem used_readItems_eq {body : Reader} {style : ListStyle} {s : Line} {post : List Line}
    (hmargin : style.goesOn s = false) {l : Line} {m : Marker} {pre : List Line}
    (hl : IsItem style l) (hm : marker? l.content = some m)
    (hpre : ∀ l' ∈ pre, l'.isEmpty = true ∨ style.column ≤ l'.indent ∨ IsItem style l')
    (hbody : StopsInItems body {} (l :: pre) (s :: post)) {fuel : Nat} (hfuel : pre.length < fuel)
    (blank : Bool) :
    (readItems body {} fuel blank m l (pre ++ s :: post)).used = pre.length + 1 := by
  induction fuel generalizing blank l m pre with
  | zero => exact absurd hfuel (Nat.not_lt_zero _)
  | succ fuel ih =>
    have hin : (({} : Container).indent : Int) ≤ l.indent := by
      rw [hl.indent]
      exact Int.le_refl 0
    obtain ⟨haccepts, hindent, -⟩ := hl.of_marker? hm
    obtain ⟨k, hk, hstops⟩ :=
      (hbody m l pre (List.suffix_refl _) hm hin).exists_tail (openItem_indent_le hm)
    obtain ⟨blank', hused⟩ := exists_used_readItems body {} fuel blank m l (pre ++ s :: post)
    rw [hused, hl.readItem_eq hm, hk, List.drop_succ_cons, List.drop_append_of_le_length hstops.le]
    clear hused hk
    cases hbehind : pre.drop k with
    | nil =>
      have hle := hstops.le
      have hge := List.drop_eq_nil_iff.1 hbehind
      rw [List.nil_append, nextItem?_eq_none haccepts hmargin, Option.elim_none]
      omega
    | cons l' pre' =>
      have hsuffix : l' :: pre' <:+ pre := hbehind ▸ List.drop_suffix k pre
      have hlength := congrArg List.length hbehind
      rw [List.length_drop, List.length_cons] at hlength
      -- Where an item ends, a line stands left of what the item holds: it opens the next one.
      have hitem : IsItem style l' := by
        obtain ⟨hfull, hnear⟩ := hstops.left l' (by
          rw [List.drop_append_of_le_length hstops.le, hbehind]
          rfl)
        rcases hpre l' (hsuffix.subset List.mem_cons_self) with hempty | hfar | hitem
        · rw [hempty] at hfull
          exact absurd hfull (by decide)
        · omega
        · exact hitem
      obtain ⟨m', hm', -⟩ := hitem.marker
      have hitems := ih hitem hm'
        (fun l'' hl'' => hpre l'' (hsuffix.subset (List.mem_cons_of_mem _ hl'')))
        (hbody.of_suffix (hsuffix.trans (List.suffix_cons l pre))) (by omega) blank'
      rw [List.cons_append, hl.nextItem?_eq hm hitem hm']
      change k + 1 + (readItems body {} fuel blank' m' l' (pre' ++ s :: post)).used =
        pre.length + 1
      omega

/-! ## Lists -/

/-- Whether a line stands at the margin and does not go on with a list, with empty lines before
it. -/
def EndsList (style : ListStyle) (ls : List Line) : Prop :=
  ∃ es s post, ls = es ++ s :: post ∧ (∀ e ∈ es, e.isEmpty = true ∧ '\n' ∉ e.text) ∧
    style.goesOn s = false

section

variable {style : ListStyle} {more : List Text} {es : List Line}

/-- The lines of a list behind its first, with the empty ones behind them. -/
theorem of_mem_listLines
    (hmore : ∀ t ∈ more, style.opensItem (.ofText 0 t true) = true ∨ style.isBelow t = true)
    (hfeed : ∀ t ∈ more, '\n' ∉ t)
    (hempty : ∀ e ∈ es, e.isEmpty = true ∧ '\n' ∉ e.text) (n : Nat) :
    ∀ l ∈ numbered n (more ++ [[]]) ++ es,
      (l.isEmpty = true ∨ style.column ≤ l.indent ∨ IsItem style l) ∧ Shallow l ∧
        '\n' ∉ l.text := by
  intro l hl
  rcases List.mem_append.1 hl with hl | hl
  · obtain ⟨t, ht, k, rfl⟩ := of_mem_numbered hl
    rcases List.mem_append.1 ht with ht | ht
    · rcases hmore t ht with hopens | hunder
      · have hitem : IsItem style (.ofText k t true) := isItem_of_opensItem hopens
        exact ⟨Or.inr (Or.inr hitem), hitem.shallow, hfeed t ht⟩
      · obtain ⟨hfar, hshallow⟩ := of_isBelow hunder k
        exact ⟨hfar.imp_right Or.inl, hshallow, hfeed t ht⟩
    · rw [List.mem_singleton.1 ht]
      exact ⟨Or.inl rfl, shallow_of_isEmpty rfl, List.not_mem_nil⟩
  · obtain ⟨hl, hclean⟩ := hempty l hl
    exact ⟨Or.inl hl, shallow_of_isEmpty hl, hclean⟩

end

/-- An empty line is the last one of a list. -/
theorem isEmpty_of_getLast?_listLines (more : List Text) {es : List Line}
    (hempty : ∀ e ∈ es, e.isEmpty = true) (n : Nat) (l : Line) :
    ∀ e ∈ (l :: (numbered n (more ++ [[]]) ++ es)).getLast?, e.isEmpty = true := by
  have hsplit : l :: (numbered n (more ++ [[]]) ++ es) =
      (l :: numbered n more) ++ (.ofText (n + more.length) [] true :: es) := by
    rw [numbered_append, List.append_assoc]
    rfl
  intro e he
  rw [hsplit, List.getLast?_append, List.getLast?_eq_some_getLast (List.cons_ne_nil _ es),
    Option.some_or, Option.mem_some] at he
  rcases List.mem_cons.1 (he ▸ List.getLast_mem (List.cons_ne_nil _ es)) with rfl | he
  · rfl
  · exact hempty e he

/-- A line that opens an item without a bar in it begins a list. -/
theorem readBlock_item (quoteBody listBody : Reader) {style : ListStyle} {l : Line}
    (hl : IsItem style l) (hbar : '|' ∉ l.content) {m : Marker} (hm : marker? l.content = some m)
    (ls : List Line) :
    ∃ tight items, readBlock quoteBody listBody {} l ls =
      (.list l.number m.value tight items,
        (readItems listBody {} (ls.length + 1) false m l ls).used) := by
  have hcode : ({} : Container).code? l ls = none :=
    if_neg (by rw [isCode_of_indent_zero hl.indent]; decide)
  obtain ⟨⟨hfence, hquote⟩, hbreak⟩ : (({} : Container).fence? l = none ∧
      ({} : Container).opensQuote l = false) ∧ ({} : Container).isBreak l = false := by
    simpa [Container.interruptsList] using hl.continues
  rw [readBlock, table?_of_not_mem hbar, hcode, Container.fenced?, hfence, Container.quote?,
    hquote, readBlock.breakBlock?, hbreak, Container.list?, marker?_of_indent_zero hl.indent, hm]
  exact ⟨_, _, rfl⟩

/-- No code outside a list is in its items; the blocks behind it are read as they stand. -/
theorem begins_list {quoteBody : Reader} {depth : Nat} {style : ListStyle} {first : Text}
    {more : List Text} (n : Nat) (hdepth : 18 ≤ depth)
    (hfirst : style.opensItem (.ofText 0 first true) = true) (hbar : '|' ∉ first)
    (hmore : ∀ t ∈ more, style.opensItem (.ofText 0 t true) = true ∨ style.isBelow t = true)
    (hfeed : ∀ t ∈ first :: more, '\n' ∉ t) {ls : List Line} (hls : EndsList style ls)
    {cs : List Paragraph} (hrest : Begins (readBlock quoteBody (reader depth)) ls cs) :
    Begins (readBlock quoteBody (reader depth)) (numbered n (first :: (more ++ [[]])) ++
      ls) cs := by
  obtain ⟨es, s, post, rfl, hempty, hmargin⟩ := hls
  have hitem : IsItem style (.ofText n first true) := isItem_of_opensItem hfirst
  obtain ⟨m, hm, -⟩ := hitem.marker
  have hlines :=
    of_mem_listLines hmore (fun t ht => hfeed t (List.mem_cons_of_mem _ ht)) hempty (n + 1)
  have hlast :=
    isEmpty_of_getLast?_listLines more (fun e he => (hempty e he).1) (n + 1) (.ofText n first true)
  -- The list takes the empty lines up to the line at the margin, too.
  generalize hpre : numbered (n + 1) (more ++ [[]]) ++ es = pre at hlines hlast
  obtain ⟨hfull, hzero⟩ : s.isEmpty = false ∧ s.indent = 0 := by
    simp only [ListStyle.goesOn, Bool.or_eq_false_iff, bne_eq_false_iff_eq] at hmargin
    exact hmargin.1
  have hhalts : Halts { indent := 1 } (.ofText n first true :: pre) (s :: post) := by
    rintro s' ⟨⟩
    exact ⟨hfull, hzero, Nat.one_pos, Or.inr hlast⟩
  have hstops : StopsInItems (reader depth) {} (.ofText n first true :: pre) (s :: post) := by
    refine stopsInItems_reader (reader_stops depth) (fun l hl => ?_) hhalts
      (Or.inr ⟨Nat.add_le_add_right hdepth 2, fun l hl => ?_⟩)
    · rcases List.mem_cons.1 hl with rfl | hl
      · exact hfeed first List.mem_cons_self
      · exact (hlines l hl).2.2
    · rcases List.mem_cons.1 hl with rfl | hl
      · exact hitem.shallow
      · exact (hlines l hl).2.1
  have hfuel : pre.length < (pre ++ s :: post).length + 1 := by
    rw [List.length_append]
    omega
  have hused := used_readItems_eq hmargin hitem hm (fun l hl => (hlines l hl).1) hstops hfuel false
  obtain ⟨tight, items, hblock⟩ := readBlock_item quoteBody (reader depth) hitem
    (not_mem_content hbar n true) hm (pre ++ s :: post)
  rw [hused] at hblock
  have hdrop : (Line.ofText n first true :: (pre ++ s :: post)).drop (pre.length + 1) =
      s :: post := by
    rw [List.drop_succ_cons]
    exact List.drop_left
  rw [begins_append_empty fun e he => (hempty e he).1] at hrest
  have hread := begins_block hitem.isEmpty_eq (Int.le_of_eq hitem.indent.symm) hblock
    (Nat.le_add_left 1 _) (hdrop.symm ▸ hrest)
  rw [numbered, List.cons_append, ← List.append_assoc, hpre]
  exact hread

end Concordance.Markdown
