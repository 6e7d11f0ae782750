import Concordance.Proofs.Markdown.Reach

/-!
# How far readers go

A reader goes over all lines that are indented enough for its container, and stops at a line that
stands left of it.  Containers are nested only so deep, and what is nested deeper is passed over
with everything behind it; so this needs a bound on the columns in which items are opened.

* `Stops` is what is claimed of a reader.
* `readBlocks_stops`: if each block takes some lines, and none that the container must not go over,
  the loop stops there.
* `reader_stops`: so does every reader.
-/

namespace Concordance.Markdown

open Text

/-- Whether a reader that passes `used` lines stays in front of `rest`, and goes on to a line left
of its container. -/
structure Stops (c : Container) (pre rest : List Line) (used : Nat) : Prop where
  le : used ≤ pre.length
  left : ∀ l ∈ ((pre ++ rest).drop used).head?, l.isEmpty = false ∧ l.indent < c.indent

theorem Stops.pos {c : Container} {l : Line} {pre rest : List Line} {used : Nat}
    (h : Stops c (l :: pre) rest used) (hl : l.isEmpty = true ∨ c.indent ≤ l.indent) :
    1 ≤ used := by
  refine Nat.pos_of_ne_zero fun hzero => ?_
  subst hzero
  obtain ⟨hfull, hleft⟩ := h.left l rfl
  rcases hl with hempty | hin
  · rw [hempty] at hfull
    exact absurd hfull (by decide)
  · exact absurd hleft (Int.not_lt.2 hin)

/-- A reader passes nothing where the first line stands left of the container. -/
theorem Stops.outside {c : Container} {pre rest : List Line}
    (h : ∀ l ∈ (pre ++ rest).head?, l.isEmpty = false ∧ l.indent < c.indent) :
    Stops c pre rest 0 :=
  ⟨Nat.zero_le _, h⟩

/-- What stops behind the first lines stops. -/
theorem Stops.behind {c : Container} {pre rest : List Line} {n used : Nat} (hn : n ≤ pre.length)
    (h : Stops c (pre.drop n) rest used) : Stops c pre rest (n + used) := by
  refine ⟨?_, ?_⟩
  · have hle := h.le
    rw [List.length_drop] at hle
    omega
  · rw [← List.drop_drop, List.drop_append_of_le_length hn]
    exact h.left

/-- What stops behind the first line of its container stops in the lines behind it. -/
theorem Stops.exists_tail {c : Container} {l : Line} {pre rest : List Line} {used : Nat}
    (h : Stops c (l :: pre) rest used) (hl : l.isEmpty = true ∨ c.indent ≤ l.indent) :
    ∃ k, used = k + 1 ∧ Stops c pre rest k := by
  obtain ⟨k, rfl⟩ := Nat.exists_eq_add_of_le' (h.pos hl)
  exact ⟨k, rfl, Nat.le_of_succ_le_succ h.le, h.left⟩

/-! ## Sequences of blocks -/

section

variable {block : Container → Line → List Line → Block × Nat} {c : Container}

/-- The number of empty lines that the loop itself passes over behind a block. -/
def gap (ls : List Line) : Nat := if ls.head?.any Line.isEmpty then 1 else 0

theorem used_cons_empty {l : Line} (hl : l.isEmpty = true) (fuel : Nat) (blank tight : Bool)
    (ls : List Line) :
    (readBlocks block c (fuel + 1) blank tight (l :: ls)).used =
      (readBlocks block c (fuel + 1) blank tight ls).used + 1 := by
  rw [readBlocks, readBlocks]
  simp only [List.takeWhile_cons, List.dropWhile_cons, hl, if_true, List.length_cons]
  split
  · rfl
  · split
    · rfl
    · simp only
      omega

theorem exists_used_cons {l : Line} (hl : l.isEmpty = false) (hin : c.indent ≤ l.indent)
    (fuel : Nat) (blank tight : Bool) (ls : List Line) :
    ∃ blank' tight', (readBlocks block c (fuel + 1) blank tight (l :: ls)).used =
      (block c l ls).2 + gap ((l :: ls).drop (block c l ls).2) +
        (readBlocks block c fuel blank' tight' (((l :: ls).drop (block c l ls).2).drop
          (gap ((l :: ls).drop (block c l ls).2)))).used := by
  rw [readBlocks]
  simp only [List.takeWhile_cons, List.dropWhile_cons, hl, Bool.false_eq_true, if_false,
    Int.not_lt.2 hin]
  exact ⟨_, _, by rw [List.length_nil, Nat.zero_add]; rfl⟩

theorem gap_le {rest : List Line}
    (hleft : ∀ s ∈ rest.head?, s.isEmpty = false ∧ s.indent < c.indent) (pre : List Line) :
    gap (pre ++ rest) ≤ pre.length := by
  cases pre with
  | nil =>
    cases rest with
    | nil => exact Nat.le_refl _
    | cons s rest => simp [gap, (hleft s rfl).1]
  | cons l pre =>
    rw [gap]
    split
    · exact Nat.succ_le_succ (Nat.zero_le _)
    · exact Nat.zero_le _

/-- If each block takes some lines, and none of those the container must not go over, the loop
stops in front of them. -/
theorem readBlocks_stops {pre rest : List Line}
    (hleft : ∀ s ∈ rest.head?, s.isEmpty = false ∧ s.indent < c.indent)
    (hblock : ∀ l pre', l :: pre' <:+ pre → l.isEmpty = false → c.indent ≤ l.indent →
      Fits pre' (block c l (pre' ++ rest)))
    {fuel : Nat} (hfuel : pre.length < fuel) (blank tight : Bool) :
    Stops c pre rest (readBlocks block c fuel blank tight (pre ++ rest)).used := by
  -- A block may take any number of lines, so the induction is on how many lines there are.
  induction hlength : pre.length using Nat.strong_induction_on
    generalizing pre fuel blank tight with
  | _ k ih =>
  cases pre with
  | nil =>
    rw [List.nil_append, readBlocks_outside hleft]
    exact Stops.outside hleft
  | cons l pre =>
    obtain ⟨fuel, rfl⟩ := Nat.exists_eq_succ_of_ne_zero (Nat.ne_zero_of_lt hfuel)
    rw [List.length_cons] at hfuel hlength
    have hbehind {pre' : List Line} (hs : pre' <:+ l :: pre) (hfewer : pre'.length ≤ pre.length)
        {fuel' : Nat} (hfuel' : pre.length < fuel') (blank tight : Bool) :
        Stops c pre' rest (readBlocks block c fuel' blank tight (pre' ++ rest)).used :=
      ih pre'.length (by omega) (fun l' pre'' hs' => hblock l' pre'' (hs'.trans hs))
        (by omega) blank tight rfl
    cases hl : l.isEmpty with
    | true =>
      rw [List.cons_append, used_cons_empty hl, Nat.add_comm]
      exact Stops.behind (Nat.le_add_left 1 _)
        (hbehind (List.suffix_cons l pre) (Nat.le_refl _) (Nat.lt_of_succ_lt hfuel) blank tight)
    | false =>
      by_cases hin : c.indent ≤ l.indent
      · obtain ⟨hpos, hle⟩ := hblock l pre (List.suffix_refl _) hl hin
        obtain ⟨blank', tight', hused⟩ := exists_used_cons hl hin fuel blank tight (pre ++ rest)
        rw [List.cons_append, hused, ← List.cons_append, List.drop_append_of_le_length hle]
        clear hused
        generalize (block c l (pre ++ rest)).2 = n at hpos hle ⊢
        have hgap := gap_le hleft ((l :: pre).drop n)
        rw [List.drop_append_of_le_length hgap, Nat.add_assoc]
        generalize gap ((l :: pre).drop n ++ rest) = g at hgap ⊢
        have hfewer : (((l :: pre).drop n).drop g).length ≤ pre.length := by
          simp only [List.length_drop, List.length_cons]
          omega
        exact Stops.behind hle (Stops.behind hgap
          (hbehind ((List.drop_suffix _ _).trans (List.drop_suffix _ _)) hfewer
            (Nat.lt_of_succ_lt_succ hfuel) blank' tight'))
      · have hout : ∀ s ∈ (l :: (pre ++ rest)).head?, s.isEmpty = false ∧ s.indent < c.indent := by
          rintro s ⟨⟩
          exact ⟨hl, Int.not_le.1 hin⟩
        rw [List.cons_append, readBlocks_outside hout]
        exact Stops.outside hout

end

/-- The reader of what is nested too deep goes over all lines but those left of the container. -/
theorem skipAll_stops (c : Container) (ls : List Line) : Stops c ls [] (skipAll c ls).used := by
  have hsplit : ls.takeWhile Line.isEmpty ++ ls.dropWhile Line.isEmpty = ls :=
    List.takeWhile_append_dropWhile
  have hlength := congrArg List.length hsplit
  rw [List.length_append] at hlength
  have hdrop : ls.drop (ls.takeWhile Line.isEmpty).length = ls.dropWhile Line.isEmpty :=
    (congrArg (List.drop _) hsplit.symm).trans List.drop_left
  have hhead := List.head?_dropWhile_not Line.isEmpty ls
  have hall {n : Nat} (h : n = ls.length) : Stops c ls [] n :=
    ⟨Nat.le_of_eq h, by rw [List.append_nil, h, List.drop_length]; simp⟩
  rw [skipAll]
  cases hrest : ls.dropWhile Line.isEmpty with
  | nil =>
    rw [hrest] at hlength
    exact hall hlength
  | cons l rest =>
    rw [hrest, List.length_cons] at hlength
    rw [hrest] at hhead
    by_cases hleft : l.indent < c.indent
    · simp only [hleft, if_true, Nat.add_zero]
      refine ⟨by omega, ?_⟩
      rw [List.append_nil, hdrop, hrest]
      rintro l' ⟨⟩
      exact ⟨hhead, hleft⟩
    · simp only [hleft, if_false]
      exact hall hlength

/-! ## Quotes -/

theorem text_unquote_suffix (l : Line) : (unquote l).text <:+ l.text := by
  have hcontent : l.content.drop 1 <:+ l.text :=
    (List.drop_suffix _ _).trans (List.drop_suffix _ _)
  unfold unquote
  simp only
  split
  · rename_i t ht
    exact (List.suffix_cons ' ' t).trans (ht ▸ hcontent)
  · rename_i r ht
    split
    · exact (List.suffix_cons '\t' r).trans (ht ▸ hcontent)
    · exact hcontent
  · exact hcontent

theorem indent_unquote_nonneg (l : Line) : 0 ≤ (unquote l).indent := by
  have hbuild (t : Text) (column base extra : Nat) :
      0 ≤ (unquote.build l t column base extra).indent :=
    Int.sub_nonneg.2 (Int.ofNat_le.2 (le_measure _ column t))
  unfold unquote
  simp only
  split
  · exact hbuild _ _ _ _
  · split
    · exact hbuild _ _ _ _
    · exact hbuild _ _ _ _
  · exact hbuild _ _ _ _

/-- No character comes into a quote. -/
theorem not_mem_quoteLines {ch : Char} {c : Container} {blank : Bool} {ls : List Line}
    (h : ∀ l ∈ ls, ch ∉ l.text) : ∀ q ∈ quoteLines c blank ls, ch ∉ q.text := by
  induction ls generalizing blank with
  | nil => exact fun q hq => absurd hq List.not_mem_nil
  | cons l ls ih =>
    have hl := h l List.mem_cons_self
    have hls : ∀ l' ∈ ls, ch ∉ l'.text := fun l' hl' => h l' (List.mem_cons_of_mem _ hl')
    intro q hq
    rw [quoteLines] at hq
    split at hq
    · exact absurd hq List.not_mem_nil
    · split at hq
      · rcases List.mem_cons.1 hq with rfl | hq
        · exact fun hmem => hl ((text_unquote_suffix l).subset hmem)
        · exact ih hls q hq
      · split at hq
        · exact absurd hq List.not_mem_nil
        · rcases List.mem_cons.1 hq with rfl | hq
          · exact hl
          · exact ih hls q hq

theorem fits_quote {body : Reader} {c : Container} {l : Line}
    {pre rest : List Line} {x : Block × Nat} (hl : l.isEmpty = false) (h : Halts c (l :: pre) rest)
    (hfeed : ∀ l' ∈ l :: pre, '\n' ∉ l'.text)
    (hbody : ∀ ls : List Line, (∀ l' ∈ ls, '\n' ∉ l'.text) →
      Stops { c with indent := 0 } ls [] (body { c with indent := 0 } ls).used)
    (hx : c.quote? body l (pre ++ rest) = some x) : Fits pre x := by
  rw [Container.quote?, Option.ite_none_right_eq_some, Option.some_inj] at hx
  obtain ⟨pre', rest', hsplit, hfront, hbreaks⟩ := h.exists_breaks hl
  have hlines : quoteLines c (unquote l).isEmpty (pre ++ rest) =
      quoteLines c (unquote l).isEmpty pre' := by
    rw [hsplit, quoteLines_append hbreaks]
  rw [hlines] at hx
  have hread := hbody (unquote l :: quoteLines c (unquote l).isEmpty pre') (by
    intro q hq
    rcases List.mem_cons.1 hq with rfl | hq
    · exact fun hmem => hfeed l List.mem_cons_self ((text_unquote_suffix l).subset hmem)
    · exact not_mem_quoteLines
        (fun l' hl' => hfeed l' (List.mem_cons_of_mem _ (hfront.subset hl'))) q hq)
  have hlength := length_quoteLines_le c (unquote l).isEmpty pre'
  have hle := hfront.length_le
  have hused := hread.le
  rw [List.length_cons] at hused
  rw [← hx.2]
  exact ⟨hread.pos (Or.inr (indent_unquote_nonneg l)), by simp only; omega⟩

/-! ## Items -/

theorem of_marker? {t : Text} {m : Marker} (h : marker? t = some m) :
    1 ≤ m.width ∧ m.rest = t.drop m.width ∧ m.rest.head?.all isSpace = true := by
  obtain ⟨h, hspace⟩ := Option.filter_eq_some_iff.1 h
  refine and_assoc.1 ⟨?_, hspace⟩
  split at h
  · exact absurd h (by simp)
  · rename_i s rest hdrop
    have hrest : rest = t.drop ((t.takeWhile Char.isDigit).length + 1) := by
      rw [← List.drop_drop, hdrop]
      rfl
    split at h
    · rename_i hdigits
      rw [hdigits] at hrest
      rw [Option.ite_none_right_eq_some, Option.some_inj] at h
      rw [← h.2]
      exact ⟨Nat.le_refl 1, hrest⟩
    · rw [Option.ite_none_right_eq_some, Option.some_inj] at h
      rw [← h.2]
      exact ⟨Nat.le_add_left 1 _, hrest⟩

section

variable {c : Container} {m : Marker} {l : Line}

theorem content_openItem (h : marker? l.content = some m) :
    (openItem c m l).2.content = m.rest.dropWhile Line.isIndentation := by
  obtain ⟨-, hrest, -⟩ := of_marker? h
  have hcontent : (openItem c m l).2.content =
      m.rest.drop (Line.measure l.base (l.indent.toNat + m.width) m.rest).1 := by
    change l.text.drop (l.shift + m.width + _) = _
    rw [hrest, Line.content, List.drop_drop, List.drop_drop, Nat.add_assoc]
  rw [hcontent, drop_measure]

/-- How many columns of blanks belong to a marker; `column` is that of what stands behind them, and
the marker ends at `start`. -/
def markerBlanks (isEmpty : Bool) (column start : Nat) : Nat :=
  if isEmpty || 4 < column - start then 1 else column - start

theorem indent_openItem (c : Container) (m : Marker) (l : Line) :
    (openItem c m l).1.indent = l.indent.toNat + m.width +
      markerBlanks (m.rest.drop (Line.measure l.base (l.indent.toNat + m.width) m.rest).1).isEmpty
        (Line.measure l.base (l.indent.toNat + m.width) m.rest).2 (l.indent.toNat + m.width) := rfl

/-- The blocks of an item begin at least two columns behind its marker. -/
theorem add_two_le_openItem (h : marker? l.content = some m) :
    l.indent.toNat + 2 ≤ (openItem c m l).1.indent := by
  obtain ⟨hwidth, -, hspace⟩ := of_marker? h
  have hblanks : 1 ≤ markerBlanks
      (m.rest.drop (Line.measure l.base (l.indent.toNat + m.width) m.rest).1).isEmpty
      (Line.measure l.base (l.indent.toNat + m.width) m.rest).2 (l.indent.toNat + m.width) := by
    rw [markerBlanks]
    cases hrest : m.rest with
    | nil => exact Nat.le_refl 1
    | cons ch t =>
      have hblank : Line.isIndentation ch = true := by
        rw [hrest] at hspace
        exact hspace
      have hcolumn : l.indent.toNat + m.width + 1 ≤
          (Line.measure l.base (l.indent.toNat + m.width) (ch :: t)).2 := by
        rw [Line.measure, if_pos hblank]
        refine Nat.le_trans ?_ (le_measure _ _ _)
        rw [Line.advance]
        split <;> omega
      split <;> omega
  rw [indent_openItem]
  omega

/-- What stands behind a marker is empty, or stands where the blocks of the item begin or
behind. -/
theorem openItem_indent_le (h : marker? l.content = some m) :
    (openItem c m l).2.isEmpty = true ∨
      ((openItem c m l).1.indent : Int) ≤ (openItem c m l).2.indent := by
  have hcolumn := le_measure l.base (l.indent.toNat + m.width) m.rest
  have hfirst : (openItem c m l).2.indent =
      ((Line.measure l.base (l.indent.toNat + m.width) m.rest).2 : Int) := rfl
  rw [Line.isEmpty, content_openItem h, indent_openItem, hfirst, drop_measure, markerBlanks]
  cases hempty : (m.rest.dropWhile Line.isIndentation).isEmpty with
  | true => exact Or.inl rfl
  | false =>
    refine Or.inr (Int.ofNat_le.2 ?_)
    rw [Bool.false_or]
    split
    · rename_i hfar
      have hmany := of_decide_eq_true hfar
      omega
    · omega

end

/-- Whether the items that a line opens are none but one, and that not too far to the right. -/
def Shallow (l : Line) : Prop :=
  ∀ m, marker? l.content = some m → l.indent ≤ 16 ∧
    marker? (m.rest.dropWhile Line.isIndentation) = none

theorem shallow_openItem {l : Line} (hl : Shallow l) (c : Container) {m : Marker}
    (h : marker? l.content = some m) : Shallow (openItem c m l).2 := by
  intro m' hm'
  rw [content_openItem h, (hl m h).2] at hm'
  exact absurd hm' (by simp)

/-- The content of the item that a line opens. -/
def readItem (body : Reader) (c : Container) (m : Marker) (l : Line) (ls : List Line) : Progress :=
  if (openItem c m l).2.isEmpty && ls.head?.all Line.isEmpty then { used := min 2 (ls.length + 1) }
  else body (openItem c m l).1 ((openItem c m l).2 :: ls)

/-- The next item of a list, if the lines open one. -/
def nextItem? (c : Container) (m : Marker) : List Line → Option (Marker × Line × List Line)
  | [] => none
  | l :: ls =>
    if l.indent < c.indent || c.isCode l || c.interruptsList l then none
    else ((marker? l.content).filter m.goesWith).map fun m' => (m', l, ls)

theorem exists_used_readItems (body : Reader) (c : Container) (fuel : Nat) (blank : Bool)
    (m : Marker) (l : Line) (ls : List Line) :
    ∃ blank', (readItems body c (fuel + 1) blank m l ls).used = (readItem body c m l ls).used +
      (nextItem? c m ((l :: ls).drop (readItem body c m l ls).used)).elim 0 fun next =>
        (readItems body c fuel blank' next.1 next.2.1 next.2.2).used := by
  refine ⟨1 < (readItem body c m l ls).used &&
    ((l :: ls)[(readItem body c m l ls).used - 1]?).any Line.isEmpty, ?_⟩
  rw [readItems]
  dsimp only
  split
  · rename_i hnone
    have hnext : nextItem? c m ((l :: ls).drop (readItem body c m l ls).used) = none := hnone
    rw [hnext]
    rfl
  · rename_i m' l' ls' hsome
    have hnext : nextItem? c m ((l :: ls).drop (readItem body c m l ls).used) =
        some (m', l', ls') := hsome
    rw [hnext]
    rfl

theorem of_nextItem? {c : Container} {m m' : Marker} {l : Line} {ls ls' : List Line}
    (h : nextItem? c m ls = some (m', l, ls')) :
    ls = l :: ls' ∧ c.indent ≤ l.indent ∧ marker? l.content = some m' := by
  cases ls with
  | nil => exact absurd h (by simp [nextItem?])
  | cons l'' ls'' =>
    rw [nextItem?, Option.ite_none_left_eq_some] at h
    obtain ⟨hends, h⟩ := h
    obtain ⟨m'', hm, heq⟩ := Option.map_eq_some_iff.1 h
    simp only [Prod.mk.injEq] at heq
    obtain ⟨rfl, rfl, rfl⟩ := heq
    simp only [Bool.or_eq_true, not_or, decide_eq_true_eq] at hends
    exact ⟨rfl, Int.not_lt.1 hends.1.1, (Option.filter_eq_some_iff.1 hm).1⟩

/-- Whether a reader for the content of items stops in front of `rest`, for each item among the
lines. -/
def StopsInItems (body : Reader) (c : Container) (pre rest : List Line) : Prop :=
  ∀ m l pre', l :: pre' <:+ pre → marker? l.content = some m → c.indent ≤ l.indent →
    Stops (openItem c m l).1 ((openItem c m l).2 :: pre') rest
      (body (openItem c m l).1 ((openItem c m l).2 :: (pre' ++ rest))).used

section

variable {body : Reader} {c : Container} {l : Line} {pre rest : List Line} {m : Marker}

/-- An item takes at least one line, and none behind the container. -/
theorem readItem_fits (hfull : ∀ s ∈ rest.head?, s.isEmpty = false)
    (hbody : StopsInItems body c (l :: pre) rest) (hm : marker? l.content = some m)
    (hin : c.indent ≤ l.indent) :
    1 ≤ (readItem body c m l (pre ++ rest)).used ∧
      (readItem body c m l (pre ++ rest)).used ≤ pre.length + 1 := by
  rw [readItem]
  split
  · rename_i hempty
    rw [Bool.and_eq_true] at hempty
    refine ⟨by simp only; omega, ?_⟩
    cases pre with
    | nil =>
      cases rest with
      | nil => exact Nat.min_le_right 2 1
      | cons s rest =>
        rw [List.nil_append, List.head?_cons, Option.all_some, hfull s rfl] at hempty
        exact absurd hempty.2 (by decide)
    | cons l' pre => exact Nat.le_trans (Nat.min_le_left _ _) (Nat.le_add_left 2 _)
  · have hstops := hbody m l pre (List.suffix_refl _) hm hin
    exact ⟨hstops.pos (openItem_indent_le hm), hstops.le⟩

theorem StopsInItems.of_suffix {pre' : List Line} (h : StopsInItems body c pre rest)
    (hs : pre' <:+ pre) :
    StopsInItems body c pre' rest :=
  fun m l pre'' hpre => h m l pre'' (hpre.trans hs)

/-- The items of a list stop in front of a line left of the list. -/
theorem used_readItems_le (hleft : ∀ s ∈ rest.head?, s.isEmpty = false ∧ s.indent < c.indent)
    (hbody : StopsInItems body c (l :: pre) rest) (hm : marker? l.content = some m)
    (hin : c.indent ≤ l.indent) (fuel : Nat) (blank : Bool) :
    (readItems body c fuel blank m l (pre ++ rest)).used ≤ pre.length + 1 := by
  induction fuel generalizing blank l pre m with
  | zero => exact Nat.zero_le _
  | succ fuel ih =>
    obtain ⟨blank', hused⟩ := exists_used_readItems body c fuel blank m l (pre ++ rest)
    obtain ⟨-, hle⟩ := readItem_fits (fun s hs => (hleft s hs).1) hbody hm hin
    rw [hused]
    clear hused
    generalize (readItem body c m l (pre ++ rest)).used = n at hle ⊢
    cases hnext : nextItem? c m ((l :: (pre ++ rest)).drop n) with
    | none => exact hle
    | some next =>
      obtain ⟨m', l', ls'⟩ := next
      obtain ⟨hdrop, hin', hm'⟩ := of_nextItem? hnext
      rw [← List.cons_append, List.drop_append_of_le_length hle] at hdrop
      cases hbehind : (l :: pre).drop n with
      | nil =>
        rw [hbehind, List.nil_append] at hdrop
        rw [hdrop] at hleft
        exact absurd (hleft l' rfl).2 (Int.not_lt.2 hin')
      | cons l'' pre' =>
        rw [hbehind, List.cons_append, List.cons.injEq] at hdrop
        obtain ⟨rfl, rfl⟩ := hdrop
        have hsuffix : l'' :: pre' <:+ l :: pre := hbehind ▸ List.drop_suffix n (l :: pre)
        have hlength := congrArg List.length hbehind
        rw [List.length_drop, List.length_cons, List.length_cons] at hlength
        have hitems := ih (hbody.of_suffix hsuffix) hm' hin' blank'
        change n + (readItems body c fuel blank' m' l'' (pre' ++ rest)).used ≤ pre.length + 1
        omega

theorem fits_list (hleft : ∀ s ∈ rest.head?, s.isEmpty = false ∧ s.indent < c.indent)
    (hbody : StopsInItems body c (l :: pre) rest) (hin : c.indent ≤ l.indent) {x : Block × Nat}
    (hx : c.list? body l (pre ++ rest) = some x) : Fits pre x := by
  obtain ⟨m, hm, rfl⟩ := Option.map_eq_some_iff.1 hx
  have hmarker : marker? l.content = some m := by
    rw [Container.marker?, Option.ite_none_left_eq_some] at hm
    exact hm.2
  obtain ⟨blank, hused⟩ :=
    exists_used_readItems body c (pre ++ rest).length false m l (pre ++ rest)
  obtain ⟨hpos, -⟩ := readItem_fits (fun s hs => (hleft s hs).1) hbody hmarker hin
  exact ⟨by simp only; omega, used_readItems_le hleft hbody hmarker hin _ false⟩

end

/-! ## Readers -/

theorem of_getD_or {P : Block × Nat → Prop} {o o' : Option (Block × Nat)} {d : Block × Nat}
    (h : ∀ x, o = some x → P x) (h' : P (o'.getD d)) : P ((o.or o').getD d) := by
  cases o with
  | none => exact h'
  | some x => exact h x rfl

/-- A block takes at least one line, and none behind its container. -/
theorem readBlock_fits {quoteBody listBody : Reader} {c : Container} {l : Line}
    {pre rest : List Line} (hl : l.isEmpty = false) (hin : c.indent ≤ l.indent)
    (hfeed : ∀ l' ∈ l :: pre, '\n' ∉ l'.text) (h : Halts c (l :: pre) rest)
    (hquote : ∀ ls : List Line, (∀ l' ∈ ls, '\n' ∉ l'.text) →
      Stops { c with indent := 0 } ls [] (quoteBody { c with indent := 0 } ls).used)
    (hlist : StopsInItems listBody c (l :: pre) rest) :
    Fits pre (readBlock quoteBody listBody c l (pre ++ rest)) := by
  have htail : Halts c pre rest := h.of_suffix (List.suffix_cons l pre)
  have hcontent : ∀ l' ∈ l :: pre, '\n' ∉ l'.content := fun l' hl' hmem =>
    hfeed l' hl' (List.mem_of_mem_drop hmem)
  have hone : ∀ b, Fits pre (b, 1) := fun b => ⟨Nat.le_refl 1, Nat.le_add_left 1 _⟩
  rw [readBlock]
  refine of_getD_or (fun x hx => fits_table (fun s hs => Or.inr (htail.left s hs).2) hx) ?_
  refine of_getD_or (fun x hx => fits_code htail hx) ?_
  refine of_getD_or (fun x hx => fits_fenced htail hx) ?_
  refine of_getD_or (fun x hx => fits_quote hl h hfeed hquote hx) ?_
  refine of_getD_or (fun x hx => ?_) ?_
  · rw [readBlock.breakBlock?, Option.ite_none_right_eq_some, Option.some_inj] at hx
    exact hx.2 ▸ hone _
  refine of_getD_or (fun x hx => fits_list h.left hlist hin hx) ?_
  refine of_getD_or (fun x hx => fits_definition hl h hcontent hx) ?_
  refine of_getD_or (fun x hx => fits_markup htail hx) ?_
  refine of_getD_or (fun x hx => ?_) ?_
  · obtain ⟨⟨level, text⟩, -, rfl⟩ := Option.map_eq_some_iff.1 hx
    exact hone _
  cases hx : c.underlined? l (pre ++ rest) with
  | none => exact fits_paragraph hl h
  | some x => exact fits_underlined hl h hx

theorem readBlocks_readBlock_stops {quoteBody listBody : Reader} {c : Container}
    {pre rest : List Line} (hfeed : ∀ l ∈ pre, '\n' ∉ l.text) (h : Halts c pre rest)
    (hquote : ∀ ls : List Line, (∀ l' ∈ ls, '\n' ∉ l'.text) →
      Stops { c with indent := 0 } ls [] (quoteBody { c with indent := 0 } ls).used)
    (hlist : StopsInItems listBody c pre rest) :
    Stops c pre rest (readBlocks (readBlock quoteBody listBody) c ((pre ++ rest).length + 1)
      false true (pre ++ rest)).used := by
  have hfuel : pre.length < (pre ++ rest).length + 1 := by
    rw [List.length_append]
    omega
  refine readBlocks_stops h.left (fun l pre' hs hl hin => ?_) hfuel false true
  exact readBlock_fits hl hin (fun l' hl' => hfeed l' (hs.subset hl')) (h.of_suffix hs) hquote
    (hlist.of_suffix hs)

/-- If a reader stops, it does so in the items of a list that is not opened too far to the
right. -/
theorem stopsInItems_reader {depth : Nat}
    (ih : ∀ {c : Container} {pre rest : List Line}, (∀ l ∈ pre, '\n' ∉ l.text) → Halts c pre rest →
      (rest = [] ∨ (1 ≤ depth ∧ 20 ≤ depth + c.indent ∧ ∀ l ∈ pre, Shallow l)) →
        Stops c pre rest (reader depth c (pre ++ rest)).used)
    {c c' : Container} {pre rest : List Line} (hfeed : ∀ l ∈ pre, '\n' ∉ l.text)
    (h : Halts c' pre rest)
    (hdepth : rest = [] ∨ (20 ≤ depth + 2 + c.indent ∧ ∀ l ∈ pre, Shallow l)) :
    StopsInItems (reader depth) c pre rest := by
  intro m l pre' hs hm hin
  have hmem : ∀ l' ∈ l :: pre', l' ∈ pre := fun l' hl' => hs.subset hl'
  have hfull : l.isEmpty = false := by
    cases hl : l.isEmpty with
    | false => rfl
    | true =>
      rw [marker?_of_isEmpty hl] at hm
      exact absurd hm (by simp)
  have hindent := add_two_le_openItem (c := c) hm
  have hlines : ∀ l' ∈ (openItem c m l).2 :: pre', '\n' ∉ l'.text := by
    intro l' hl'
    rcases List.mem_cons.1 hl' with rfl | hl'
    · exact hfeed l (hmem l List.mem_cons_self)
    · exact hfeed l' (hmem l' (List.mem_cons_of_mem _ hl'))
  refine ih hlines ?_ ?_
  · -- What is read first is the line itself, behind its marker.
    intro s hrest
    obtain ⟨hsfull, hzero, -, hstop⟩ := h.of_suffix hs s hrest
    refine ⟨hsfull, hzero, by omega, ?_⟩
    cases pre' with
    | nil => exact Or.inl (hstop.resolve_right fun hlast => by
        rw [hlast l rfl] at hfull
        exact absurd hfull (by decide))
    | cons l' pre' =>
      rw [List.getLast?_cons_cons] at hstop ⊢
      exact hstop
  · refine hdepth.imp_right fun ⟨hsum, hshallow⟩ => ?_
    have hcolumn := (hshallow l (hmem l List.mem_cons_self) m hm).1
    refine ⟨by omega, by omega, fun l' hl' => ?_⟩
    rcases List.mem_cons.1 hl' with rfl | hl'
    · exact shallow_openItem (hshallow l (hmem l List.mem_cons_self)) c hm
    · exact hshallow l' (hmem l' (List.mem_cons_of_mem _ hl'))

/-- **Readers stop.**  A reader goes over the lines in front that belong to its container, if items
are not opened too far to the right, and stops at a line left of it. -/
theorem reader_stops : ∀ (depth : Nat) {c : Container} {pre rest : List Line},
    (∀ l ∈ pre, '\n' ∉ l.text) → Halts c pre rest →
      (rest = [] ∨ (1 ≤ depth ∧ 20 ≤ depth + c.indent ∧ ∀ l ∈ pre, Shallow l)) →
        Stops c pre rest (reader depth c (pre ++ rest)).used
  | 0, c, pre, rest, _, _, hdepth => by
    obtain rfl := hdepth.resolve_right fun h => absurd h.1 (by decide)
    rw [List.append_nil]
    exact skipAll_stops c pre
  | 1, c, pre, rest, hfeed, h, hdepth => by
    refine readBlocks_readBlock_stops hfeed h (fun ls _ => skipAll_stops _ ls) ?_
    exact stopsInItems_reader (reader_stops 0) hfeed h
      (hdepth.imp_right fun hdeep => ⟨by have := hdeep.2.1; omega, hdeep.2.2⟩)
  | depth + 2, c, pre, rest, hfeed, h, hdepth => by
    refine readBlocks_readBlock_stops hfeed h (fun ls hls => ?_) ?_
    · have hquote :=
        reader_stops (depth + 1) hls (Halts.nil { c with indent := 0 } ls) (Or.inl rfl)
      rwa [List.append_nil] at hquote
    · exact stopsInItems_reader (reader_stops depth) hfeed h
        (hdepth.imp_right fun hdeep => hdeep.2)

end Concordance.Markdown
