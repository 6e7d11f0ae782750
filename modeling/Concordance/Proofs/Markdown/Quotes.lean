import Concordance.Proofs.Markdown.Passages

/-!
# Quotes at the margin

A quote takes all lines with its mark.  Lines behind them may go on with its last paragraph; if
they do not, they are blocks of their own, which hold no code if the lines are a passage.

* `quoteLines_marked`: the lines with a mark belong to the quote.
* `used_quote?`: so a quote ends among the lines behind them.
* `begins_quote`: the first code is that of the lines behind.
-/

namespace Concordance.Markdown

open Text

/-- Whether a line has the mark of a quote at the margin. -/
def isQuoted (t : Text) : Bool := t.head? == some '>'

theorem ofText_of_isQuoted {t : Text} (h : isQuoted t = true) (n : Nat) :
    ∃ u, t = '>' :: u ∧
      Line.ofText n t true = { number := n, text := '>' :: u, shift := 0, indent := 0 } := by
  rw [isQuoted, beq_iff_eq] at h
  obtain ⟨u, rfl⟩ := List.head?_eq_some_iff.1 h
  exact ⟨u, rfl, ofText_cons (by decide) n u⟩

/-- A line with a mark is no delimiter row. -/
theorem delimiterColumns?_cons_quote (u : Text) : delimiterColumns? ('>' :: u) = none := by
  cases u with
  | nil => rfl
  | cons c u => simp [delimiterColumns?, isSpace]

/-- The lines with a mark belong to a quote. -/
theorem quoteLines_marked {ts : List Text} (h : ts.all isQuoted = true) (blank : Bool) (n : Nat)
    (ls : List Line) :
    ∃ blank', quoteLines {} blank (numbered n ts ++ ls) =
      (numbered n ts).map unquote ++ quoteLines {} blank' ls := by
  induction ts generalizing blank n with
  | nil => exact ⟨blank, rfl⟩
  | cons t ts ih =>
    rw [List.all_cons, Bool.and_eq_true] at h
    obtain ⟨u, rfl, hline⟩ := ofText_of_isQuoted h.1 n
    obtain ⟨blank', hlines⟩ := ih h.2 (unquote (.ofText n ('>' :: u) true)).isEmpty (n + 1)
    refine ⟨blank', ?_⟩
    have hmark :
        (decide ((Line.ofText n ('>' :: u) true).content.head? = some '>') &&
          decide ((({} : Container).indent : Int) ≤ (Line.ofText n ('>' :: u) true).indent)) =
        true := by
      rw [hline]
      rfl
    have hfull : (Line.ofText n ('>' :: u) true).isEmpty = false := by
      rw [hline]
      rfl
    rw [numbered, List.cons_append, quoteLines, hfull, if_neg (by decide), if_pos hmark]
    exact congrArg (unquote (.ofText n ('>' :: u) true) :: ·) hlines

section

variable {body : Reader}
  (hbody : ∀ ls : List Line, (∀ l ∈ ls, '\n' ∉ l.text) → Stops {} ls [] (body {} ls).used)

include hbody

/-- A quote takes the lines with a mark, and of those behind them at most the ones before an empty
line. -/
theorem used_quote? {first : Text} {more : List Text} (h : (first :: more).all isQuoted = true)
    (hfeed : ∀ t ∈ first :: more, '\n' ∉ t) {pre : List Line} (hpre : ∀ l ∈ pre, '\n' ∉ l.text)
    {e : Line} (he : e.isEmpty = true) (n : Nat) (rest : List Line) :
    ∃ blocks used, ({} : Container).quote? body (.ofText n first true)
        (numbered (n + 1) more ++ (pre ++ e :: rest)) = some (.quote n blocks, used) ∧
      more.length + 1 ≤ used ∧ used ≤ more.length + 1 + pre.length := by
  have hopens : ({} : Container).opensQuote (.ofText n first true) = true := by
    rw [List.all_cons, Bool.and_eq_true] at h
    obtain ⟨u, rfl, hline⟩ := ofText_of_isQuoted h.1 n
    rw [hline]
    rfl
  rw [List.all_cons, Bool.and_eq_true] at h
  obtain ⟨blank, hmarked⟩ :=
    quoteLines_marked h.2 (unquote (.ofText n first true)).isEmpty (n + 1) (pre ++ e :: rest)
  have hbreaks : ∀ s ∈ (e :: rest).head?, Breaks {} s := by
    rintro s ⟨⟩
    exact Or.inl he
  rw [quoteLines_append hbreaks] at hmarked
  -- What the quote sees are the lines with a mark, which stand at its margin or right of it.
  have hfront : ∀ l ∈ (numbered n (first :: more)).map unquote, 0 ≤ l.indent ∧ '\n' ∉ l.text := by
    intro l hl
    obtain ⟨l', hl', rfl⟩ := List.mem_map.1 hl
    obtain ⟨t, ht, k, rfl⟩ := of_mem_numbered hl'
    exact ⟨indent_unquote_nonneg _, fun hmem => hfeed t ht ((text_unquote_suffix _).subset hmem)⟩
  have hstops := hbody ((numbered n (first :: more)).map unquote ++ quoteLines {} blank pre) (by
    intro l hl
    rcases List.mem_append.1 hl with hl | hl
    · exact (hfront l hl).2
    · exact not_mem_quoteLines hpre l hl)
  have hle := hstops.le
  rw [List.length_append, List.length_map, length_numbered, List.length_cons] at hle
  have hlength := length_quoteLines_le {} blank pre
  refine ⟨_, _, if_pos hopens, ?_, ?_⟩
  · rw [hmarked]
    change more.length + 1 ≤
      (body {} ((numbered n (first :: more)).map unquote ++ quoteLines {} blank pre)).used
    generalize (body {} ((numbered n (first :: more)).map unquote ++
      quoteLines {} blank pre)).used = used at hstops
    by_contra hshort
    have hin : used < ((numbered n (first :: more)).map unquote).length := by
      rw [List.length_map, length_numbered, List.length_cons]
      omega
    obtain ⟨-, hleft⟩ := hstops.left _ (by
      rw [List.append_nil, List.drop_append_of_le_length (Nat.le_of_lt hin),
        List.drop_eq_getElem_cons hin, List.cons_append, List.head?_cons]
      exact rfl)
    have hnonneg := (hfront _ (List.getElem_mem hin)).1
    exact absurd hleft (Int.not_lt.2 hnonneg)
  · rw [hmarked]
    change (body {} ((numbered n (first :: more)).map unquote ++ quoteLines {} blank pre)).used ≤ _
    omega

end

/-- A line with a mark begins no table, if it has no bar or a line with a mark stands behind it. -/
theorem table?_of_isQuoted {first : Text} {more : List Text} (h : more.all isQuoted = true)
    (hbar : '|' ∉ first ∨ more ≠ []) (n : Nat) (ls : List Line) :
    ({} : Container).table? (.ofText n first true) (numbered (n + 1) more ++ ls) = none := by
  cases more with
  | nil =>
    exact table?_of_not_mem (not_mem_content (hbar.resolve_right fun hne => hne rfl) n true) ls
  | cons d ds =>
    rw [List.all_cons, Bool.and_eq_true] at h
    obtain ⟨u, rfl, hline⟩ := ofText_of_isQuoted h.1 (n + 1)
    have hdelimiter : delimiterColumns? (Line.ofText (n + 1) ('>' :: u) true).content = none := by
      rw [hline]
      exact delimiterColumns?_cons_quote u
    rw [Container.table?, Option.map_eq_none_iff, numbered, List.cons_append, Container.tableHead?,
      hdelimiter, Option.bind_none, ite_self]

/-- No code outside a quote is in it, nor in the lines that may go on with it. -/
theorem begins_quote {quoteBody listBody : Reader}
    (hbody : ∀ ls : List Line, (∀ l ∈ ls, '\n' ∉ l.text) → Stops {} ls [] (quoteBody {} ls).used)
    {first : Text} {more behind : List Text} (n : Nat) (h : (first :: more).all isQuoted = true)
    (hbar : '|' ∉ first ∨ more ≠ []) (hbehind : isPassage behind = true)
    (hfeed : ∀ t ∈ first :: more ++ behind, '\n' ∉ t) {rest : List Line} {cs : List Paragraph}
    (hrest : Begins (readBlock quoteBody listBody) rest cs) :
    Begins (readBlock quoteBody listBody)
      (numbered n (first :: (more ++ (behind ++ [[]]))) ++ rest) cs := by
  rw [List.forall_mem_append] at hfeed
  have hclean : ∀ l ∈ numbered (n + 1 + more.length) behind, '\n' ∉ l.text := by
    intro l hl
    obtain ⟨t, ht, k, rfl⟩ := of_mem_numbered hl
    exact hfeed.2 t ht
  generalize hempty : Line.ofText (n + 1 + more.length + behind.length) [] true = e
  have he : e.isEmpty = true := by
    rw [← hempty]
    rfl
  have hsplit : numbered (n + 1) (more ++ (behind ++ [[]])) ++ rest =
      numbered (n + 1) more ++ (numbered (n + 1 + more.length) behind ++ e :: rest) := by
    rw [numbered_append, numbered_append, List.append_assoc, List.append_assoc, ← hempty]
    rfl
  obtain ⟨blocks, used, hquote, hpos, hle⟩ := used_quote? hbody h hfeed.1 hclean he n rest
  rw [length_numbered] at hle
  obtain ⟨k, rfl⟩ := Nat.exists_eq_add_of_le hpos
  rw [List.all_cons, Bool.and_eq_true] at h
  obtain ⟨u, rfl, hline⟩ := ofText_of_isQuoted h.1 n
  have hblock : readBlock quoteBody listBody {} (.ofText n ('>' :: u) true)
      (numbered (n + 1) more ++ (numbered (n + 1 + more.length) behind ++ e :: rest)) =
        (.quote n blocks, more.length + 1 + k) := by
    have hcode : ({} : Container).isCode (.ofText n ('>' :: u) true) = false := by
      rw [hline]
      rfl
    have hfence : ({} : Container).fence? (.ofText n ('>' :: u) true) = none := by
      rw [Container.fence?, hcode, hline]
      simp [Line.content, openFence?]
    rw [readBlock, table?_of_isQuoted h.2 hbar, Container.code?, hcode,
      Container.fenced?, hfence, hquote]
    rfl
  have hdrop : (Line.ofText n ('>' :: u) true ::
      (numbered (n + 1) more ++ (numbered (n + 1 + more.length) behind ++ e :: rest))).drop
        (more.length + 1 + k) =
      numbered (n + 1 + more.length + k) (behind.drop k) ++ e :: rest := by
    rw [Nat.add_right_comm, List.drop_succ_cons, Nat.add_comm more.length, Nat.add_comm k,
      ← List.drop_drop, List.drop_left' (length_numbered _ _), ← drop_numbered,
      List.drop_append_of_le_length (by rw [length_numbered]; omega)]
  have hpassage : isPassage (behind.drop k) = true :=
    List.all_eq_true.2 fun t ht => List.all_eq_true.1 hbehind t (List.mem_of_mem_drop ht)
  have hread := begins_passage (n + 1 + more.length + k) hpassage
    (fun t ht => hfeed.2 t (List.mem_of_mem_drop ht)) he hrest
  rw [numbered, List.cons_append, hsplit]
  exact begins_block (by rw [hline]; rfl) (indent_ofText_nonneg n _ true) hblock
    (Nat.le_add_right_of_le (Nat.le_add_left 1 _)) (hdrop.symm ▸ hread)

end Concordance.Markdown
