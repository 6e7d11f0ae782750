import Concordance.Proofs.Markdown.Containers
import Concordance.Proofs.Text.Words

/-!
# Passages, headings and breaks

Blocks that hold no other blocks and no code.  A passage is some lines that open neither code nor a
quote, an item or raw markup, with an empty line behind them; whatever they are read as, that is
done before the empty line, and no code is among them.

* `begins_numbered`: the code of a block comes in front of that of the lines behind it.
* `readBlock_leaf`: what a line begins that opens nothing.
* `begins_passage`, `begins_heading`, `begins_underlined` and `begins_rule`: the first code is that
  of the lines behind.
-/

namespace Concordance.Markdown

open Text

/-! ## Numbered lines -/

/-- Lines of a document with others behind them. -/
def numbered (n : Nat) : List Text → List Line
  | [] => []
  | t :: ts => Line.ofText n t true :: numbered (n + 1) ts

@[simp] theorem length_numbered (n : Nat) (ts : List Text) :
    (numbered n ts).length = ts.length := by
  induction ts generalizing n with
  | nil => rfl
  | cons t ts ih => rw [numbered, List.length_cons, ih, List.length_cons]

theorem numbered_append (n : Nat) (ts us : List Text) :
    numbered n (ts ++ us) = numbered n ts ++ numbered (n + ts.length) us := by
  induction ts generalizing n with
  | nil => rfl
  | cons t ts ih =>
    rw [List.cons_append, numbered, numbered, ih, List.cons_append, List.length_cons,
      Nat.add_right_comm, Nat.add_assoc]

theorem drop_numbered (n k : Nat) (ts : List Text) :
    (numbered n ts).drop k = numbered (n + k) (ts.drop k) := by
  induction k generalizing n ts with
  | zero => rfl
  | succ k ih =>
    cases ts with
    | nil => rfl
    | cons t ts =>
      rw [numbered, List.drop_succ_cons, ih, List.drop_succ_cons,
        Nat.add_right_comm, Nat.add_assoc]

theorem of_mem_numbered {ts : List Text} {n : Nat} {l : Line} (h : l ∈ numbered n ts) :
    ∃ t ∈ ts, ∃ k, l = .ofText k t true := by
  induction ts generalizing n with
  | nil => exact absurd h List.not_mem_nil
  | cons t ts ih =>
    rcases List.mem_cons.1 h with rfl | h
    · exact ⟨t, List.mem_cons_self, n, rfl⟩
    · obtain ⟨t', ht', k, rfl⟩ := ih h
      exact ⟨t', List.mem_cons_of_mem _ ht', k, rfl⟩

theorem ofPieces_append (n : Nat) (ts : List Text) {us : List Text} (h : us ≠ []) :
    Line.ofPieces n (ts ++ us) = numbered n ts ++ Line.ofPieces (n + ts.length) us := by
  induction ts generalizing n with
  | nil => rfl
  | cons t ts ih =>
    rw [List.cons_append, ofPieces_cons n t (by simp [h]), ih, numbered, List.cons_append,
      List.length_cons, Nat.add_right_comm, Nat.add_assoc]

theorem indent_ofText_nonneg (n : Nat) (t : Text) (ended : Bool) :
    0 ≤ (Line.ofText n t ended).indent :=
  Int.natCast_nonneg _

theorem content_ofText (n : Nat) (t : Text) (ended : Bool) :
    (Line.ofText n t ended).content = t.dropWhile Line.isIndentation :=
  drop_measure 0 0 t

/-- No character comes into the content of a line. -/
theorem not_mem_content {c : Char} {t : Text} (h : c ∉ t) (n : Nat) (ended : Bool) :
    c ∉ (Line.ofText n t ended).content := fun hmem => h (List.mem_of_mem_drop hmem)

/-- A block that takes some lines from its first one on. -/
theorem begins_numbered {block : Container → Line → List Line → Block × Nat} {n : Nat}
    {first : Text} {more : List Text} {b : Block} {ls : List Line} {cs : List Paragraph}
    (hfull : (Line.ofText n first true).isEmpty = false)
    (hblock : block {} (.ofText n first true) (numbered (n + 1) more ++ ls) =
      (b, more.length + 1))
    (hrest : Begins block ls cs) :
    Begins block (numbered n (first :: more) ++ ls) (b.code?.toList ++ cs) := by
  have hdrop : (Line.ofText n first true :: (numbered (n + 1) more ++ ls)).drop
      (more.length + 1) = ls :=
    List.drop_left' (length_numbered (n + 1) more)
  exact begins_block hfull (indent_ofText_nonneg n first true) hblock (Nat.le_add_left 1 _)
    (hdrop.symm ▸ hrest)

/-! ## First characters -/

/-- A character that begins a paragraph or a heading, where it is the first of a line. -/
def beginsText (c : Char) : Bool := !c.isDigit && !("\t *+-<>[_\x60~".toList.contains c)

theorem ne_of_beginsText {c d : Char} (hc : beginsText c = true) (hd : beginsText d = false) :
    c ≠ d := by
  rintro rfl
  rw [hc] at hd
  exact absurd hd (by decide)

section

variable {c : Char} (h : beginsText c = true) (t : Text)

include h

theorem openFence?_of_beginsText : openFence? (c :: t) = none := by
  simp [openFence?, ne_of_beginsText h (show beginsText '~' = false by decide),
    ne_of_beginsText h (show beginsText '\x60' = false by decide)]

theorem marker?_of_beginsText : marker? (c :: t) = none := by
  have hdigit : c.isDigit = false := by
    rw [beginsText, Bool.and_eq_true, Bool.not_eq_true'] at h
    exact h.1
  simp [marker?, hdigit, ne_of_beginsText h (show beginsText '*' = false by decide),
    ne_of_beginsText h (show beginsText '-' = false by decide),
    ne_of_beginsText h (show beginsText '+' = false by decide)]

theorem markupEnd?_of_beginsText : markupEnd? (c :: t) = none := by
  have hc := ne_of_beginsText h (show beginsText '<' = false by decide)
  simp [markupEnd?, hc]

end

/-! ## Lines that open nothing -/

/-- Whether a line opens neither code nor a quote, an item or raw markup. -/
def isLeaf (l : Line) : Bool :=
  !l.isEmpty && l.indent ≤ 3 && (openFence? l.content).isNone && l.content.head? != some '>' &&
    (isBreakText l.content || (marker? l.content).isNone) && (markupEnd? l.content).isNone

section

variable {l : Line} (h : isLeaf l = true)

include h

theorem of_isLeaf :
    l.isEmpty = false ∧ ({} : Container).isCode l = false ∧ ({} : Container).fence? l = none ∧
      ({} : Container).opensQuote l = false ∧
      (({} : Container).isBreak l = true ∨ ({} : Container).marker? l = none) ∧
      ({} : Container).markup? l = none := by
  simp only [isLeaf, Bool.and_eq_true, Bool.or_eq_true, Bool.not_eq_true', decide_eq_true_eq,
    Option.isNone_iff_eq_none, bne_iff_ne] at h
  obtain ⟨⟨⟨⟨⟨hfull, hindent⟩, hfence⟩, hquote⟩, hitem⟩, hmarkup⟩ := h
  have hcode : ({} : Container).isCode l = false := by
    rw [Container.isCode, decide_eq_false_iff_not]
    change ¬ 4 ≤ l.indent - 0
    omega
  refine ⟨hfull, hcode, ?_, ?_, ?_, ?_⟩
  · rw [Container.fence?, hfence, ite_self]
  · rw [Container.opensQuote, beq_eq_false_iff_ne.2 hquote, Bool.and_false]
  · refine hitem.imp (fun hbreak => ?_) fun hmarker => ?_
    · rw [Container.isBreak, hcode, hbreak]
      rfl
    · rw [Container.marker?, hmarker, ite_self]
  · rw [Container.markup?, hmarkup, ite_self]

theorem indent_le_of_isLeaf : l.indent ≤ 3 := by
  simp only [isLeaf, Bool.and_eq_true, decide_eq_true_eq] at h
  exact h.1.1.1.1.2

/-- A line that opens nothing begins a table, a break, a definition, a heading or a paragraph. -/
theorem readBlock_leaf (quoteBody listBody : Reader) (ls : List Line) :
    readBlock quoteBody listBody {} l ls =
      ((({} : Container).table? l ls).or ((readBlock.breakBlock? {} l).or
        ((({} : Container).definition? l ls).or ((readBlock.headingBlock? {} l).or
          (({} : Container).underlined? l ls))))).getD (({} : Container).paragraph l ls) := by
  obtain ⟨-, hcode, hfence, hquote, hitem, hmarkup⟩ := of_isLeaf h
  have hlist : (readBlock.breakBlock? {} l).or ((({} : Container).list? listBody l ls).or
      ((({} : Container).definition? l ls).or ((readBlock.headingBlock? {} l).or
        (({} : Container).underlined? l ls)))) = (readBlock.breakBlock? {} l).or
      ((({} : Container).definition? l ls).or ((readBlock.headingBlock? {} l).or
        (({} : Container).underlined? l ls))) := by
    rcases hitem with hbreak | hmarker
    · rw [readBlock.breakBlock?, if_pos hbreak, Option.some_or, Option.some_or]
    · rw [Container.list?, hmarker, Option.map_none, Option.none_or]
  rw [readBlock, Container.code?, if_neg (by rw [hcode]; decide), Container.fenced?, hfence,
    Container.quote?, if_neg (by rw [hquote]; decide), Container.markupBlock?, hmarkup,
    Option.map_none, Option.map_none, Option.none_or, Option.none_or, Option.none_or,
    Option.none_or, hlist]

/-- Such a block is no code, and ends before an empty line. -/
theorem code?_readBlock_leaf (quoteBody listBody : Reader) {pre : List Line}
    (hfeed : ∀ l' ∈ l :: pre, '\n' ∉ l'.content) {e : Line} (he : e.isEmpty = true)
    (rest : List Line) :
    (readBlock quoteBody listBody {} l (pre ++ e :: rest)).1.code? = none ∧
      Fits pre (readBlock quoteBody listBody {} l (pre ++ e :: rest)) := by
  have hbreaks : ∀ s ∈ (e :: rest).head?, Breaks {} s := by
    rintro s ⟨⟩
    exact Or.inl he
  have hone : ∀ b, Fits pre (b, 1) := fun b => ⟨Nat.le_refl 1, Nat.le_add_left 1 _⟩
  rw [readBlock_leaf h]
  refine of_getD_or (P := fun x => x.1.code? = none ∧ Fits pre x) (fun x hx => ⟨?_, ?_⟩) ?_
  · obtain ⟨head, -, rfl⟩ := Option.map_eq_some_iff.1 hx
    rfl
  · refine fits_table (fun s hs => Or.inl ?_) hx
    rwa [← Option.some.inj hs]
  refine of_getD_or (P := fun x => x.1.code? = none ∧ Fits pre x) (fun x hx => ?_) ?_
  · rw [readBlock.breakBlock?, Option.ite_none_right_eq_some, Option.some_inj] at hx
    exact hx.2 ▸ ⟨rfl, hone _⟩
  refine of_getD_or (P := fun x => x.1.code? = none ∧ Fits pre x) (fun x hx => ⟨?_, ?_⟩) ?_
  · rw [Container.definition?, Option.ite_none_left_eq_some] at hx
    obtain ⟨key, href, title, k, rfl⟩ := exists_of_definition? hx.2
    rfl
  · exact fits_definition_of_breaks hbreaks hfeed hx
  refine of_getD_or (P := fun x => x.1.code? = none ∧ Fits pre x) (fun x hx => ?_) ?_
  · obtain ⟨⟨level, text⟩, -, rfl⟩ := Option.map_eq_some_iff.1 hx
    exact ⟨rfl, hone _⟩
  cases hx : ({} : Container).underlined? l (pre ++ e :: rest) with
  | none => exact ⟨rfl, fits_paragraph_of_breaks hbreaks⟩
  | some x =>
    refine ⟨?_, fits_underlined_of_breaks hbreaks hx⟩
    rw [Container.underlined?, Option.ite_none_left_eq_some] at hx
    obtain ⟨⟨n, level⟩, -, rfl⟩ := Option.map_eq_some_iff.1 hx.2
    rfl

end

/-! ## Passages -/

/-- Whether each line opens nothing. -/
def isPassage (ts : List Text) : Bool := ts.all fun t => isLeaf (.ofText 0 t true)

/-- No code is in a passage. -/
theorem begins_passage {quoteBody listBody : Reader} {ts : List Text} (n : Nat)
    (h : isPassage ts = true) (hfeed : ∀ t ∈ ts, '\n' ∉ t) {e : Line} (he : e.isEmpty = true)
    {rest : List Line} {cs : List Paragraph}
    (hrest : Begins (readBlock quoteBody listBody) rest cs) :
    Begins (readBlock quoteBody listBody) (numbered n ts ++ e :: rest) cs := by
  -- A block may take any number of the lines, so the induction is on how many there are.
  induction hlength : ts.length using Nat.strong_induction_on generalizing n ts with
  | _ k ih =>
  cases ts with
  | nil => exact (begins_cons_empty he).2 hrest
  | cons t ts =>
    rw [isPassage, List.all_cons, Bool.and_eq_true] at h
    have hleaf : isLeaf (.ofText n t true) = true := h.1
    have hcontent : ∀ l ∈ Line.ofText n t true :: numbered (n + 1) ts, '\n' ∉ l.content := by
      intro l hl
      obtain ⟨t', ht', j, rfl⟩ := @of_mem_numbered (t :: ts) n l hl
      exact not_mem_content (hfeed t' ht') j true
    obtain ⟨hcode, hpos, hle⟩ := code?_readBlock_leaf hleaf quoteBody listBody hcontent he rest
    generalize hblock : readBlock quoteBody listBody {} (.ofText n t true)
      (numbered (n + 1) ts ++ e :: rest) = x at hcode hpos hle
    obtain ⟨b, j⟩ := x
    rw [length_numbered] at hle
    have hbehind := ih ((t :: ts).drop j).length (by
        rw [← hlength, List.length_drop, List.length_cons]
        omega) (n + j)
      (List.all_eq_true.2 fun t' ht' => by
        rcases List.mem_cons.1 (List.mem_of_mem_drop ht') with rfl | ht'
        · exact h.1
        · exact List.all_eq_true.1 h.2 t' ht')
      (fun t' ht' => hfeed t' (List.mem_of_mem_drop ht')) rfl
    have hdrop : (Line.ofText n t true :: (numbered (n + 1) ts ++ e :: rest)).drop j =
        numbered (n + j) ((t :: ts).drop j) ++ e :: rest := by
      rw [← drop_numbered, ← List.drop_append_of_le_length (by rwa [length_numbered])]
      rfl
    have hstep := begins_block (of_isLeaf hleaf).1 (indent_ofText_nonneg n t true) hblock hpos
      (hdrop ▸ hbehind)
    rwa [hcode] at hstep

/-! ## Headings and breaks -/

/-- A line without a bar is the head of no table. -/
theorem table?_of_not_mem {c : Container} {l : Line} (h : '|' ∉ l.content) (ls : List Line) :
    c.table? l ls = none := by
  have hrow : (trim l.content).contains '|' = false :=
    Bool.eq_false_iff.2 fun hmem => h (mem_of_mem_trim (List.contains_iff_mem.1 hmem))
  rw [Container.table?, Option.map_eq_none_iff]
  cases ls with
  | nil => rfl
  | cons d ls =>
    simp only [Container.tableHead?, hrow]
    split
    · rfl
    · cases delimiterColumns? d.content <;> rfl

theorem head?_of_signedHeading? {t : Text} (h : (signedHeading? t).isSome = true) :
    t.head? = some '#' := by
  cases t with
  | nil => exact absurd h (by decide)
  | cons c t =>
    by_cases hc : c = '#'
    · rw [hc]
      rfl
    · simp [signedHeading?, hc] at h

/-- A line stands as far to the right as spaces begin it. -/
theorem ofText_spaces {c : Char} (hc : Line.isIndentation c = false) (n k : Nat) (t : Text) :
    Line.ofText n (List.replicate k ' ' ++ c :: t) true =
      { number := n, text := List.replicate k ' ' ++ c :: t, shift := k, indent := k } := by
  rw [Line.ofText, measure_spaces hc, Nat.zero_add]

/-- A line with a sign for its first character stands at the margin. -/
theorem ofText_cons {c : Char} (hc : Line.isIndentation c = false) (n : Nat) (t : Text) :
    Line.ofText n (c :: t) true = { number := n, text := c :: t, shift := 0, indent := 0 } :=
  ofText_spaces hc n 0 t

/-- A line that begins as a paragraph or a heading opens nothing. -/
theorem isLeaf_of_content {l : Line} {c : Char} {t : Text} (hl : l.content = c :: t)
    (hc : beginsText c = true) (hin : l.indent ≤ 3) : isLeaf l = true := by
  have hquote := ne_of_beginsText hc (show beginsText '>' = false by decide)
  simp [isLeaf, Line.isEmpty, hl, hin, openFence?_of_beginsText hc, marker?_of_beginsText hc,
    markupEnd?_of_beginsText hc, hquote]

/-- No code is in a heading. -/
theorem begins_heading {quoteBody listBody : Reader} {t : Text} (n : Nat)
    (hheading : (signedHeading? t).isSome = true) (hbar : '|' ∉ t) {ls : List Line}
    {cs : List Paragraph} (hrest : Begins (readBlock quoteBody listBody) ls cs) :
    Begins (readBlock quoteBody listBody) (.ofText n t true :: ls) cs := by
  obtain ⟨u, rfl⟩ := List.head?_eq_some_iff.1 (head?_of_signedHeading? hheading)
  obtain ⟨⟨level, text⟩, hlevel⟩ := Option.isSome_iff_exists.1 hheading
  have hleaf : isLeaf (.ofText n ('#' :: u) true) = true :=
    isLeaf_of_content rfl (show beginsText '#' = true by decide) (show (0 : Int) ≤ 3 by decide)
  have hread : readBlock.headingBlock? {} (.ofText n ('#' :: u) true) =
      some (.heading n level text, 1) := by
    rw [readBlock.headingBlock?, Container.heading?, (of_isLeaf hleaf).2.1]
    exact congrArg (Option.map _) hlevel
  have hblock : readBlock quoteBody listBody {} (.ofText n ('#' :: u) true) ls =
      (.heading n level text, 1) := by
    rw [readBlock_leaf hleaf, table?_of_not_mem (not_mem_content hbar n true), hread]
    rfl
  exact begins_block rfl (Int.le_refl 0) hblock (Nat.le_refl 1) hrest

/-- The signs of a break stand at the margin, without a bar between them. -/
theorem of_isBreakText {t : Text} (h : isBreakText t = true) :
    (∃ m u, t = m :: u ∧ (m = '*' ∨ m = '-' ∨ m = '_')) ∧ '|' ∉ t := by
  cases t with
  | nil => exact absurd h (by decide)
  | cons m u =>
    simp only [isBreakText, Bool.and_eq_true, Bool.or_eq_true, beq_iff_eq, List.all_eq_true] at h
    obtain ⟨⟨hsign, hall⟩, -⟩ := h
    rw [or_assoc] at hsign
    have hne : '|' ≠ m := by rcases hsign with rfl | rfl | rfl <;> decide
    refine ⟨⟨m, u, rfl, hsign⟩, fun hbar => ?_⟩
    rcases List.mem_cons.1 hbar with rfl | hbar
    · exact hne rfl
    · rcases hall '|' hbar with heq | hspace
      · exact hne heq
      · exact absurd hspace (by decide)

/-- No code is in a break. -/
theorem begins_rule {quoteBody listBody : Reader} {t : Text} (n : Nat) (h : isBreakText t = true)
    {ls : List Line} {cs : List Paragraph} (hrest : Begins (readBlock quoteBody listBody) ls cs) :
    Begins (readBlock quoteBody listBody) (.ofText n t true :: ls) cs := by
  obtain ⟨⟨m, u, rfl, hsign⟩, hbar⟩ := of_isBreakText h
  have hline : Line.ofText n (m :: u) true =
      { number := n, text := m :: u, shift := 0, indent := 0 } :=
    ofText_cons (by rcases hsign with rfl | rfl | rfl <;> decide) n u
  have hleaf : isLeaf (.ofText n (m :: u) true) = true := by
    rw [hline]
    rcases hsign with rfl | rfl | rfl <;>
      simp [isLeaf, Line.isEmpty, Line.content, h, openFence?, markupEnd?]
  have hread : readBlock.breakBlock? {} (.ofText n (m :: u) true) =
      some (.thematicBreak n, 1) := by
    rw [readBlock.breakBlock?, Container.isBreak, (of_isLeaf hleaf).2.1, hline]
    exact if_pos (by simpa [Line.content] using h)
  have hblock : readBlock quoteBody listBody {} (.ofText n (m :: u) true) ls =
      (.thematicBreak n, 1) := by
    rw [readBlock_leaf hleaf, table?_of_not_mem (not_mem_content hbar n true), hread]
    rfl
  exact begins_block (of_isLeaf hleaf).1 (indent_ofText_nonneg n _ true) hblock
    (Nat.le_refl 1) hrest

/-- Whether a line is one of a paragraph, and of nothing else. -/
def isRunning (l : Line) : Bool :=
  isLeaf l && !l.content.contains '|' && !isBreakText l.content && l.content.head? != some '[' &&
    (signedHeading? l.content).isNone && (underline? l.content).isNone

/-- A line that begins as a paragraph, and not as a heading, is one of a paragraph. -/
theorem isRunning_of_content {l : Line} {c : Char} {t : Text} (hl : l.content = c :: t)
    (hc : beginsText c = true) (hnumber : c ≠ '#') (hsign : c ≠ '=') (hbar : '|' ∉ l.content)
    (hin : l.indent ≤ 3) : isRunning l = true := by
  have hstar := ne_of_beginsText hc (show beginsText '*' = false by decide)
  have hdash := ne_of_beginsText hc (show beginsText '-' = false by decide)
  have hline := ne_of_beginsText hc (show beginsText '_' = false by decide)
  have hbracket := ne_of_beginsText hc (show beginsText '[' = false by decide)
  have hplain : l.content.contains '|' = false :=
    Bool.eq_false_iff.2 fun hmem => hbar (List.contains_iff_mem.1 hmem)
  rw [isRunning, isLeaf_of_content hl hc hin, hplain, hl]
  simp [isBreakText, signedHeading?, underline?, hstar, hdash, hline, hbracket, hnumber, hsign]

section

variable {l : Line} (h : isRunning l = true)

include h

theorem of_isRunning :
    isLeaf l = true ∧ '|' ∉ l.content ∧ ({} : Container).isBreak l = false ∧
      ({} : Container).marker? l = none ∧ l.content.head? ≠ some '[' ∧
      ({} : Container).heading? l = none ∧ underline? l.content = none := by
  simp only [isRunning, Bool.and_eq_true, Bool.not_eq_true', Option.isNone_iff_eq_none,
    bne_iff_ne] at h
  obtain ⟨⟨⟨⟨⟨hleaf, hbar⟩, hbreak⟩, hbracket⟩, hheading⟩, hunderline⟩ := h
  have hbreak : ({} : Container).isBreak l = false := by
    rw [Container.isBreak, hbreak, Bool.and_false]
  obtain ⟨-, -, -, -, hitem, -⟩ := of_isLeaf hleaf
  refine ⟨hleaf, fun hmem => ?_, hbreak, ?_, hbracket, ?_, hunderline⟩
  · rw [List.contains_iff_mem.2 hmem] at hbar
    exact absurd hbar (by decide)
  · exact hitem.resolve_left (by rw [hbreak]; decide)
  · rw [Container.heading?, hheading, ite_self]

theorem continues_of_isRunning (ls : List Line) : ({} : Container).continues l ls = true := by
  obtain ⟨hleaf, hbar, hbreak, hmarker, -, hheading, -⟩ := of_isRunning h
  obtain ⟨hfull, -, hfence, hquote, -, hmarkup⟩ := of_isLeaf hleaf
  have htable : ({} : Container).tableHead? l ls = none := by
    simpa [Container.table?] using table?_of_not_mem (c := {}) hbar ls
  rw [Container.continues, hfull, Container.interruptsParagraph, htable, Container.interruptsList,
    hfence, hquote, hbreak, Container.listInterrupts, hmarker, hmarkup, hheading]
  simp

end

theorem of_underline? {t : Text} (h : (underline? t).isSome = true) :
    ∃ m u, t = m :: u ∧ (m = '=' ∨ m = '-') := by
  cases t with
  | nil => exact absurd h (by decide)
  | cons m u =>
    obtain ⟨level, hlevel⟩ := Option.isSome_iff_exists.1 h
    rw [underline?, Option.ite_none_right_eq_some] at hlevel
    exact ⟨m, u, rfl, hlevel.1.1⟩

theorem underlineAt?_running {ts : List Text}
    (h : ts.all (fun t => isRunning (.ofText 0 t true)) = true) {underline : Text}
    (hunderline : (underline? underline).isSome = true) (n : Nat) (ls : List Line) :
    ∃ level, underlineAt? {} (numbered n (ts ++ [underline]) ++ ls) = some (ts.length, level) := by
  induction ts generalizing n with
  | nil =>
    obtain ⟨level, hlevel⟩ := Option.isSome_iff_exists.1 hunderline
    have hline : Line.ofText n underline true =
        { number := n, text := underline, shift := 0, indent := 0 } := by
      obtain ⟨m, u, rfl, hsign⟩ := of_underline? hunderline
      exact ofText_cons (by rcases hsign with rfl | rfl <;> decide) n u
    have hcontent : (Line.ofText n underline true).content = underline := by
      rw [hline]
      rfl
    have hnear :
        (decide ((({} : Container).indent : Int) ≤ (Line.ofText n underline true).indent) &&
          decide ((Line.ofText n underline true).indent - (({} : Container).indent : Int) ≤ 3)) =
        true := by
      rw [hline]
      rfl
    refine ⟨level, ?_⟩
    rw [List.nil_append, numbered, List.cons_append, underlineAt?, if_pos hnear, hcontent, hlevel]
    rfl
  | cons t ts ih =>
    rw [List.all_cons, Bool.and_eq_true] at h
    have hrunning : isRunning (.ofText n t true) = true := h.1
    obtain ⟨-, -, -, -, -, -, hsign⟩ := of_isRunning hrunning
    obtain ⟨level, hlevel⟩ := ih h.2 (n + 1)
    refine ⟨level, ?_⟩
    rw [List.cons_append, numbered, List.cons_append, underlineAt?, hsign, ite_self,
      continues_of_isRunning hrunning, hlevel]
    rfl

/-- No code is in a heading with a line of signs below it. -/
theorem begins_underlined {quoteBody listBody : Reader} {first underline : Text} {more : List Text}
    (n : Nat) (h : (first :: more).all (fun t => isRunning (.ofText 0 t true)) = true)
    (hunderline : (underline? underline).isSome = true) {ls : List Line} {cs : List Paragraph}
    (hrest : Begins (readBlock quoteBody listBody) ls cs) :
    Begins (readBlock quoteBody listBody) (numbered n (first :: (more ++ [underline])) ++
      ls) cs := by
  rw [List.all_cons, Bool.and_eq_true] at h
  have hrunning : isRunning (.ofText n first true) = true := h.1
  obtain ⟨hleaf, hbar, hbreak, -, hbracket, hheading, -⟩ := of_isRunning hrunning
  obtain ⟨level, hlevel⟩ := underlineAt?_running h.2 hunderline (n + 1) ls
  have hdefinition : ({} : Container).definition? (.ofText n first true)
      (numbered (n + 1) (more ++ [underline]) ++ ls) = none := by
    rw [Container.definition?, (of_isLeaf hleaf).2.1, if_neg (by decide)]
    cases hcontent : (Line.ofText n first true).content with
    | nil => exact absurd (of_isLeaf hleaf).1 (by rw [Line.isEmpty, hcontent]; decide)
    | cons c u =>
      rw [hcontent, List.head?_cons, Ne, Option.some_inj] at hbracket
      simp [definition?, hbracket]
  obtain ⟨text, hblock⟩ : ∃ text, readBlock quoteBody listBody {} (.ofText n first true)
      (numbered (n + 1) (more ++ [underline]) ++ ls) =
      (.heading n level text, (more ++ [underline]).length + 1) := by
    rw [List.length_append, readBlock_leaf hleaf, table?_of_not_mem hbar, readBlock.breakBlock?,
      hbreak, hdefinition, readBlock.headingBlock?, hheading, Container.underlined?,
      (of_isLeaf hleaf).2.1, hlevel]
    exact ⟨_, rfl⟩
  exact begins_numbered (of_isLeaf hleaf).1 hblock hrest

end Concordance.Markdown
