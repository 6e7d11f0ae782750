import Concordance.Proofs.Markdown.Sequence

/-!
# How far leaf blocks reach

A block takes at least one line, and it does not go over a line that stands left of its container,
if that line is a marker or an empty line stands before it.

* `Breaks` is a line that no running text goes over; `Halts` says of the lines behind some that
  they begin where a container must end.
* `Fits` bounds the lines a block takes, and there is a `fits_` lemma for each leaf block.
-/

namespace Concordance.Markdown

open Text

/-! ## Lines that end text -/

/-- A line that ends running text in a container: an empty one, or one at the margin of the
document that opens an item outside the container. -/
def Breaks (c : Container) (s : Line) : Prop :=
  s.isEmpty = true ∨ (s.indent = 0 ∧ 0 < c.indent ∧ (marker? s.content).isSome = true)

section

variable {c : Container} {s : Line}

theorem isCode_of_indent_zero (h : s.indent = 0) : c.isCode s = false := by
  rw [Container.isCode, h, decide_eq_false_iff_not]
  omega

/-- A line at the margin of the document may open an item, whatever list it stands behind. -/
theorem marker?_of_indent_zero (h : s.indent = 0) : c.marker? s = Markdown.marker? s.content := by
  have hnear : (c.listIndent.any fun i => 4 ≤ s.indent - i && s.indent < c.indent) = false := by
    cases c.listIndent with
    | none => rfl
    | some i =>
      simp only [Option.pure_def, Option.bind_eq_bind, Option.bind_some, Option.any_some, h,
        Bool.and_eq_false_iff, decide_eq_false_iff_not]
      omega
  rw [Container.marker?, isCode_of_indent_zero h, hnear]
  rfl

theorem content_of_isEmpty (h : s.isEmpty = true) : s.content = [] := List.isEmpty_iff.1 h

theorem marker?_of_isEmpty (h : s.isEmpty = true) : Markdown.marker? s.content = none := by
  rw [content_of_isEmpty h]
  rfl

theorem interruptsQuote_of_breaks (h : Breaks c s) (hs : s.isEmpty = false) :
    c.interruptsQuote s = true := by
  rcases h with h | ⟨hzero, -, hmarker⟩
  · rw [h] at hs
    exact absurd hs (by decide)
  · rw [Container.interruptsQuote, marker?_of_indent_zero hzero, hmarker]
    simp

theorem continues_of_breaks (h : Breaks c s) (ls : List Line) : c.continues s ls = false := by
  rcases h with h | ⟨hzero, hin, hmarker⟩
  · rw [Container.continues, h]
    rfl
  · obtain ⟨m, hm⟩ := Option.isSome_iff_exists.1 hmarker
    have hlist : c.listInterrupts s = true := by
      rw [Container.listInterrupts, marker?_of_indent_zero hzero, hm, hzero]
      simp [hin]
    have hparagraph : c.interruptsParagraph s ls = true := by
      rw [Container.interruptsParagraph, hlist]
      simp
    have hnear : (decide (3 < s.indent - c.indent) || decide (s.indent < 0)) = false := by
      rw [hzero, Bool.or_eq_false_iff, decide_eq_false_iff_not, decide_eq_false_iff_not]
      omega
    rw [Container.continues, hparagraph, hnear]
    simp

end

/-! ## Running text -/

section

variable {c : Container} {rest : List Line}

theorem paragraphLength_le (h : ∀ s ∈ rest.head?, Breaks c s) (pre : List Line) :
    paragraphLength c (pre ++ rest) ≤ pre.length := by
  induction pre with
  | nil =>
    cases rest with
    | nil => exact Nat.le_refl _
    | cons s rest =>
      rw [List.nil_append, paragraphLength, continues_of_breaks (h s rfl)]
      exact Nat.le_refl _
  | cons l pre ih =>
    rw [List.cons_append, paragraphLength]
    split
    · exact Nat.succ_le_succ ih
    · exact Nat.zero_le _

theorem underline?_of_isEmpty {s : Line} (h : s.isEmpty = true) : underline? s.content = none := by
  rw [content_of_isEmpty h]
  rfl

theorem underlineAt?_lt (h : ∀ s ∈ rest.head?, Breaks c s) {pre : List Line} {n level : Nat}
    (hat : underlineAt? c (pre ++ rest) = some (n, level)) : n < pre.length := by
  induction pre generalizing n level with
  | nil =>
    cases rest with
    | nil => exact absurd hat (by simp [underlineAt?])
    | cons s rest =>
      have hs := h s rfl
      have hnone :
          (if c.indent ≤ s.indent && s.indent - c.indent ≤ 3 then underline? s.content else none) =
            none := by
        rcases hs with hempty | ⟨hzero, hin, -⟩
        · rw [underline?_of_isEmpty hempty, ite_self]
        · rw [hzero, if_neg]
          simp only [Bool.and_eq_true, decide_eq_true_eq]
          omega
      rw [List.nil_append, underlineAt?, hnone, continues_of_breaks hs] at hat
      exact absurd hat (by simp)
  | cons l pre ih =>
    rw [List.cons_append, underlineAt?] at hat
    split at hat
    · rw [Option.some_inj, Prod.mk.injEq] at hat
      rw [← hat.1]
      exact Nat.succ_pos _
    · split at hat
      · obtain ⟨⟨m, level'⟩, hm, heq⟩ := Option.map_eq_some_iff.1 hat
        rw [Prod.mk.injEq] at heq
        rw [← heq.1]
        exact Nat.succ_lt_succ (ih hm)
      · exact absurd hat (by simp)

/-- The lines of a quote are those in front. -/
theorem quoteLines_append (h : ∀ s ∈ rest.head?, Breaks c s) (blank : Bool) (pre : List Line) :
    quoteLines c blank (pre ++ rest) = quoteLines c blank pre := by
  induction pre generalizing blank with
  | nil =>
    cases rest with
    | nil => rfl
    | cons s rest =>
      have hs := h s rfl
      change quoteLines c blank (s :: rest) = []
      rw [quoteLines]
      cases hempty : s.isEmpty with
      | true => rfl
      | false =>
        obtain ⟨hzero, hin, -⟩ := hs.resolve_left (by rw [hempty]; decide)
        have hout : decide ((c.indent : Int) ≤ s.indent) = false := by
          rw [hzero, decide_eq_false_iff_not]
          omega
        rw [hout, interruptsQuote_of_breaks hs hempty]
        simp
  | cons l pre ih => simp only [List.cons_append, quoteLines, ih]

theorem length_quoteLines_le (c : Container) (blank : Bool) (ls : List Line) :
    (quoteLines c blank ls).length ≤ ls.length := by
  induction ls generalizing blank with
  | nil => exact Nat.le_refl _
  | cons l ls ih =>
    rw [quoteLines]
    split
    · exact Nat.zero_le _
    · split
      · exact Nat.succ_le_succ (ih _)
      · split
        · exact Nat.zero_le _
        · exact Nat.succ_le_succ (ih _)

/-- The text of a definition is that of the lines in front. -/
theorem definitionText_eq (h : ∀ s ∈ rest.head?, Breaks c s) (pre : List Line) :
    ∃ k ≤ pre.length, definitionText c (pre ++ rest) =
      (pre.take k).flatMap fun l => l.content ++ l.feed := by
  induction pre with
  | nil =>
    refine ⟨0, Nat.le_refl _, ?_⟩
    cases rest with
    | nil => rfl
    | cons s rest =>
      have hs := h s rfl
      rw [List.nil_append, definitionText]
      cases hempty : s.isEmpty with
      | true => rfl
      | false =>
        obtain ⟨hzero, -, -⟩ := hs.resolve_left (by rw [hempty]; decide)
        have hends : c.interruptsDefinition s rest = true := by
          rw [Container.interruptsDefinition, interruptsQuote_of_breaks hs hempty, Bool.or_true]
        rw [isCode_of_indent_zero hzero, hends, hzero]
        rfl
  | cons l pre ih =>
    rw [List.cons_append, definitionText]
    split
    · exact ⟨0, Nat.zero_le _, rfl⟩
    · split
      · obtain ⟨k, hk, htext⟩ := ih
        exact ⟨k + 1, Nat.succ_le_succ hk, by rw [htext, List.take_succ_cons, List.flatMap_cons]⟩
      · exact ⟨0, Nat.zero_le _, rfl⟩

end

/-! ## Other lines -/

section

variable {c : Container} {rest : List Line}

theorem length_tableRows_le (h : ∀ s ∈ rest.head?, s.isEmpty = true ∨ s.indent < c.indent)
    (columns : Nat) (added : Int) (pre : List Line) :
    (tableRows c columns added (pre ++ rest)).length ≤ pre.length := by
  induction pre generalizing added with
  | nil =>
    cases rest with
    | nil => exact Nat.le_refl _
    | cons s rest =>
      rw [List.nil_append, tableRows]
      rcases h s rfl with hempty | hleft
      · rw [content_of_isEmpty hempty]
        simp [trim, trimBy, dropTailWhile]
      · simp [hleft]
  | cons l pre ih =>
    rw [List.cons_append, tableRows]
    split
    · exact Nat.zero_le _
    · exact Nat.succ_le_succ (ih _)

theorem codeLength_le (h : ∀ s ∈ rest.head?, s.isEmpty = false ∧ c.isCode s = false)
    (pre : List Line) {taken passed : Nat} (hle : taken ≤ passed) :
    taken ≤ codeLength c taken passed (pre ++ rest) ∧
      codeLength c taken passed (pre ++ rest) ≤ passed + pre.length := by
  induction pre generalizing taken passed with
  | nil =>
    cases rest with
    | nil => exact ⟨Nat.le_refl _, hle⟩
    | cons s rest =>
      obtain ⟨hempty, hcode⟩ := h s rfl
      rw [List.nil_append, codeLength, hempty, hcode]
      exact ⟨Nat.le_refl _, hle⟩
  | cons l pre ih =>
    rw [List.cons_append, codeLength, List.length_cons]
    split
    · have hbound := ih (show taken ≤ passed + 1 from Nat.le_succ_of_le hle)
      omega
    · split
      · have hbound := ih (Nat.le_refl (passed + 1))
        omega
      · omega

theorem length_fenceBody_le (h : ∀ s ∈ rest.head?, s.isEmpty = false ∧ s.indent < c.indent)
    (m : Char) (length : Nat) (pre : List Line) :
    (fenceBody c m length (pre ++ rest)).1.length +
      (if (fenceBody c m length (pre ++ rest)).2 then 1 else 0) ≤ pre.length := by
  induction pre with
  | nil =>
    cases rest with
    | nil => exact Nat.le_refl _
    | cons s rest =>
      obtain ⟨hempty, hleft⟩ := h s rfl
      rw [List.nil_append, fenceBody, hempty, decide_eq_true hleft]
      exact Nat.le_refl _
  | cons l pre ih =>
    rw [List.cons_append, fenceBody]
    split
    · exact Nat.zero_le _
    · split
      · exact Nat.zero_le _
      · split
        · exact Nat.succ_le_succ (Nat.zero_le _)
        · change (fenceBody c m length (pre ++ rest)).1.length + 1 +
            (if (fenceBody c m length (pre ++ rest)).2 then 1 else 0) ≤ pre.length + 1
          omega

theorem markupLength_le (h : ∀ s ∈ rest.head?, s.indent < c.indent) (e : MarkupEnd)
    (pre : List Line) :
    markupLength c e (pre ++ rest) ≤ pre.length := by
  induction pre with
  | nil =>
    cases rest with
    | nil => exact Nat.le_refl _
    | cons s rest =>
      rw [List.nil_append, markupLength, if_pos (h s rfl)]
      exact Nat.le_refl _
  | cons l pre ih =>
    rw [List.cons_append, markupLength, List.length_cons]
    split
    · exact Nat.zero_le _
    · split
      · split <;> omega
      · omega

end

/-! ## Definitions -/

theorem one_le_lineCount (u : Text) : 1 ≤ lineCount u := by
  rw [lineCount]
  split
  · rename_i hlast
    exact List.count_pos_iff.2 (List.mem_of_getLast? hlast)
  · exact Nat.le_add_left 1 _

theorem lineCount_le_of_not_mem {u : Text} (h : '\n' ∉ u) : lineCount u ≤ 1 := by
  rw [lineCount, List.count_eq_zero_of_not_mem h]
  split <;> omega

/-- A text that ends within a line begins no more lines than that. -/
theorem lineCount_le_of_within {l : Line} (hl : '\n' ∉ l.content) {u : Text}
    (hu : u <+: l.content ++ l.feed) : lineCount u ≤ 1 := by
  have hinside (h : u <+: l.content) : lineCount u ≤ 1 :=
    lineCount_le_of_not_mem fun hmem => hl (h.subset hmem)
  rw [Line.feed] at hu
  split at hu
  · rcases List.prefix_concat_iff.1 hu with rfl | h
    · rw [lineCount, if_pos List.getLast?_concat, List.count_append,
        List.count_eq_zero_of_not_mem hl]
      decide
    · exact hinside h
  · rw [List.append_nil] at hu
    exact hinside hu

theorem lineCount_append (v : Text) {u : Text} (hu : u ≠ []) :
    lineCount (v ++ u) = v.count '\n' + lineCount u := by
  have hlast : (v ++ u).getLast? = u.getLast? := by
    rw [List.getLast?_append, List.getLast?_eq_some_getLast hu, Option.some_or]
  rw [lineCount, lineCount, hlast, List.count_append, Nat.add_assoc]

theorem count_feed_le {l : Line} (hl : '\n' ∉ l.content) :
    (l.content ++ l.feed).count '\n' ≤ 1 := by
  rw [List.count_append, List.count_eq_zero_of_not_mem hl, Line.feed]
  split <;> decide

/-- What lines begin with goes over no more than these lines. -/
theorem lineCount_le {ls : List Line} (hls : ls ≠ []) (h : ∀ l ∈ ls, '\n' ∉ l.content) {u : Text}
    (hu : u <+: ls.flatMap fun l => l.content ++ l.feed) : lineCount u ≤ ls.length := by
  induction ls generalizing u with
  | nil => exact absurd rfl hls
  | cons l ls ih =>
    have hl := h l List.mem_cons_self
    rw [List.flatMap_cons] at hu
    rcases List.prefix_or_prefix_of_prefix hu (List.prefix_append _ _) with hshort | ⟨v, rfl⟩
    · exact Nat.le_trans (lineCount_le_of_within hl hshort) (Nat.le_add_left 1 _)
    · have hv : v <+: ls.flatMap fun l => l.content ++ l.feed :=
        (List.prefix_append_right_inj _).1 hu
      by_cases hnil : v = []
      · rw [hnil, List.append_nil]
        exact Nat.le_trans (lineCount_le_of_within hl (List.prefix_refl _)) (Nat.le_add_left 1 _)
      · have hmore : ls ≠ [] := by
          rintro rfl
          exact hnil (List.prefix_nil.1 hv)
        have hbehind := ih hmore (fun l' hl' => h l' (List.mem_cons_of_mem _ hl')) hv
        have hfeed := count_feed_le hl
        rw [lineCount_append _ hnil, List.length_cons]
        omega

/-- A definition takes the lines of a front of the text. -/
theorem exists_of_definition? {t : Text} {x : Block × Nat} (h : definition? t = some x) :
    ∃ key href title k, x = (.definition key href title, lineCount (t.take k)) := by
  unfold definition? at h
  split at h
  · obtain ⟨⟨label, r⟩, -, h⟩ := Option.bind_eq_some_iff.1 h
    simp only at h
    split at h
    · obtain ⟨⟨destination, behind⟩, -, h⟩ := Option.bind_eq_some_iff.1 h
      simp only [Option.ite_none_right_eq_some, Option.some_inj] at h
      exact ⟨_, _, _, _, h.2.symm⟩
    · exact absurd h (by simp)
  · exact absurd h (by simp)

/-! ## Leaf blocks -/

/-- Whether lines are behind which a container ends: the next one, if there is one, stands at the
margin of the document, left of the container, and is a marker or has an empty line before it. -/
def Halts (c : Container) (pre rest : List Line) : Prop :=
  ∀ s ∈ rest.head?, s.isEmpty = false ∧ s.indent = 0 ∧ 0 < c.indent ∧
    ((marker? s.content).isSome = true ∨ ∀ e ∈ pre.getLast?, e.isEmpty = true)

/-- Whether a block takes at least one line, and none behind `pre`. -/
def Fits (pre : List Line) (x : Block × Nat) : Prop := 1 ≤ x.2 ∧ x.2 ≤ pre.length + 1

namespace Halts

variable {c : Container} {l : Line} {pre rest : List Line}

theorem nil (c : Container) (pre : List Line) : Halts c pre [] := by
  intro s hs
  exact absurd hs (by simp)

theorem left (h : Halts c pre rest) :
    ∀ s ∈ rest.head?, s.isEmpty = false ∧ s.indent < c.indent := by
  intro s hs
  obtain ⟨hfull, hzero, hin, -⟩ := h s hs
  exact ⟨hfull, by rw [hzero]; exact Int.natCast_pos.2 hin⟩

theorem of_suffix {pre' : List Line} (h : Halts c pre rest) (hs : pre' <:+ pre) :
    Halts c pre' rest := by
  intro s hrest
  obtain ⟨hfull, hzero, hin, hstop⟩ := h s hrest
  refine ⟨hfull, hzero, hin, hstop.imp_right fun hlast e he => hlast e ?_⟩
  obtain ⟨front, rfl⟩ := hs
  rw [List.getLast?_append, Option.mem_def.1 he]
  rfl

/-- Behind a line that is not empty, there are lines that end running text. -/
theorem exists_breaks (h : Halts c (l :: pre) rest) (hl : l.isEmpty = false) :
    ∃ pre' rest', pre ++ rest = pre' ++ rest' ∧ pre' <+: pre ∧ ∀ s ∈ rest'.head?, Breaks c s := by
  cases rest with
  | nil => exact ⟨pre, [], rfl, List.prefix_refl _, by simp⟩
  | cons s rest =>
    obtain ⟨-, hzero, hin, hmarker | hlast⟩ := h s rfl
    · refine ⟨pre, s :: rest, rfl, List.prefix_refl _, fun s' hs' => Or.inr ?_⟩
      rw [← Option.some.inj hs']
      exact ⟨hzero, hin, hmarker⟩
    · cases hpre : pre.getLast? with
      | none =>
        rw [List.getLast?_eq_none_iff.1 hpre] at hlast
        rw [hlast l rfl] at hl
        exact absurd hl (by decide)
      | some e =>
        obtain ⟨front, rfl⟩ := List.getLast?_eq_some_iff.1 hpre
        have hempty : e.isEmpty = true := hlast e (by rw [List.getLast?_cons, hpre]; rfl)
        refine ⟨front, e :: s :: rest, by simp, List.prefix_append _ _, fun s' hs' => Or.inl ?_⟩
        rw [← Option.some.inj hs']
        exact hempty

end Halts

section

variable {c : Container} {l : Line} {pre rest : List Line} {x : Block × Nat}

theorem fits_table (h : ∀ s ∈ rest.head?, s.isEmpty = true ∨ s.indent < c.indent)
    (hx : c.table? l (pre ++ rest) = some x) : Fits pre x := by
  obtain ⟨head, hhead, rfl⟩ := Option.map_eq_some_iff.1 hx
  cases pre with
  | nil =>
    -- The next line is empty or stands left of the container, so it is no delimiter row.
    cases rest with
    | nil => exact absurd hhead (by simp [Container.tableHead?])
    | cons s rest =>
      rcases h s rfl with hempty | hleft
      · exact absurd hhead (by simp [Container.tableHead?, content_of_isEmpty hempty,
          delimiterColumns?])
      · exact absurd hhead (by simp [Container.tableHead?, hleft])
  | cons d pre =>
    have hrows := length_tableRows_le h head.length 0 pre
    refine ⟨Nat.le_add_right_of_le (by decide), ?_⟩
    change 2 + (tableRows c head.length 0 (pre ++ rest)).length ≤ pre.length + 1 + 1
    omega

theorem fits_code (h : Halts c pre rest) (hx : c.code? l (pre ++ rest) = some x) : Fits pre x := by
  rw [Container.code?, Option.ite_none_right_eq_some, Option.some_inj] at hx
  have hstop : ∀ s ∈ rest.head?, s.isEmpty = false ∧ c.isCode s = false := fun s hs =>
    ⟨(h s hs).1, isCode_of_indent_zero (h s hs).2.1⟩
  have hlength := codeLength_le hstop pre (Nat.le_refl 1)
  rw [← hx.2]
  exact ⟨hlength.1, Nat.le_trans hlength.2 (Nat.le_of_eq (Nat.add_comm 1 _))⟩

theorem fits_fenced (h : Halts c pre rest) (hx : c.fenced? l (pre ++ rest) = some x) :
    Fits pre x := by
  obtain ⟨⟨m, length, info⟩, -, rfl⟩ := Option.map_eq_some_iff.1 hx
  have hlength := length_fenceBody_le (fun s hs => h.left s hs) m length pre
  exact ⟨Nat.le_add_right_of_le (Nat.le_add_right 1 _), by simp only; omega⟩

theorem fits_markup (h : Halts c pre rest) (hx : c.markupBlock? l (pre ++ rest) = some x) :
    Fits pre x := by
  obtain ⟨⟨e, interrupts⟩, -, rfl⟩ := Option.map_eq_some_iff.1 hx
  have hlength := markupLength_le (fun s hs => (h.left s hs).2) e pre
  refine ⟨Nat.le_add_right 1 _, ?_⟩
  simp only
  split <;> omega

/-- Fewer lines than some are no more than these. -/
theorem Fits.of_front {pre' : List Line} (h : Fits pre' x) (hfront : pre' <+: pre) : Fits pre x :=
  ⟨h.1, Nat.le_trans h.2 (Nat.succ_le_succ hfront.length_le)⟩

theorem fits_definition_of_breaks (h : ∀ s ∈ rest.head?, Breaks c s)
    (hfeed : ∀ l' ∈ l :: pre, '\n' ∉ l'.content) (hx : c.definition? l (pre ++ rest) = some x) :
    Fits pre x := by
  rw [Container.definition?] at hx
  split at hx
  · exact absurd hx (by simp)
  · obtain ⟨key, href, title, k, rfl⟩ := exists_of_definition? hx
    refine ⟨one_le_lineCount _, ?_⟩
    obtain ⟨n, hn, htext⟩ := definitionText_eq h pre
    have hsub : ∀ l' ∈ l :: pre.take n, '\n' ∉ l'.content := by
      intro l' hl'
      rcases List.mem_cons.1 hl' with rfl | hl'
      · exact hfeed l' List.mem_cons_self
      · exact hfeed l' (List.mem_cons_of_mem _ (List.mem_of_mem_take hl'))
    have hcount := lineCount_le (List.cons_ne_nil l (pre.take n)) hsub
      (List.take_prefix k ((l :: pre.take n).flatMap fun l' => l'.content ++ l'.feed))
    rw [List.flatMap_cons] at hcount
    rw [htext]
    refine Nat.le_trans hcount ?_
    rw [List.length_cons, List.length_take]
    omega

theorem fits_definition (hl : l.isEmpty = false) (h : Halts c (l :: pre) rest)
    (hfeed : ∀ l' ∈ l :: pre, '\n' ∉ l'.content) (hx : c.definition? l (pre ++ rest) = some x) :
    Fits pre x := by
  obtain ⟨pre', rest', hsplit, hfront, hbreaks⟩ := h.exists_breaks hl
  refine (fits_definition_of_breaks hbreaks (fun l' hl' => ?_) (hsplit ▸ hx)).of_front hfront
  rcases List.mem_cons.1 hl' with rfl | hl'
  · exact hfeed l' List.mem_cons_self
  · exact hfeed l' (List.mem_cons_of_mem _ (hfront.subset hl'))

theorem fits_underlined_of_breaks (h : ∀ s ∈ rest.head?, Breaks c s)
    (hx : c.underlined? l (pre ++ rest) = some x) : Fits pre x := by
  rw [Container.underlined?] at hx
  split at hx
  · exact absurd hx (by simp)
  · obtain ⟨⟨n, level⟩, hn, rfl⟩ := Option.map_eq_some_iff.1 hx
    exact ⟨Nat.le_add_left 1 _, Nat.succ_le_succ (underlineAt?_lt h hn)⟩

theorem fits_underlined (hl : l.isEmpty = false) (h : Halts c (l :: pre) rest)
    (hx : c.underlined? l (pre ++ rest) = some x) : Fits pre x := by
  obtain ⟨pre', rest', hsplit, hfront, hbreaks⟩ := h.exists_breaks hl
  exact (fits_underlined_of_breaks hbreaks (hsplit ▸ hx)).of_front hfront

theorem fits_paragraph_of_breaks (h : ∀ s ∈ rest.head?, Breaks c s) :
    Fits pre (c.paragraph l (pre ++ rest)) :=
  ⟨Nat.le_add_left 1 _, Nat.succ_le_succ (paragraphLength_le h pre)⟩

theorem fits_paragraph (hl : l.isEmpty = false) (h : Halts c (l :: pre) rest) :
    Fits pre (c.paragraph l (pre ++ rest)) := by
  obtain ⟨pre', rest', hsplit, hfront, hbreaks⟩ := h.exists_breaks hl
  rw [hsplit]
  exact (fits_paragraph_of_breaks hbreaks).of_front hfront

end

end Concordance.Markdown
