import Concordance.Proofs.Readme.Page

/-!
# Documents that list headings

The lines that a plan would have inserted for headings, one below the other, make up an index
document of their own.

* `exists_rows`: such a document is a sequence of rows, and `exists_branches` groups rows.
* `entries_listing`: the entries of the document are those of the rows.
-/

namespace Concordance.Readme

open Text Markdown

/-! ## The document -/

/-- The lines of an index document that lists headings. -/
def listing (headings : List Section) : List Text :=
  headings.map fun h => Readme.link h.level h.title h.anchor

/-- The line for a heading, as a line of the document. -/
theorem ofText_link (r : Row) :
    Line.ofText r.number (Readme.link r.heading.level r.heading.title r.heading.anchor) r.ended =
      r.line := by
  have hcolumn : 2 * (r.heading.level - 1).toNat = r.column := by
    rcases r.listable.level with h | h <;> rw [Row.column, Row.nested, h] <;> rfl
  have htext : Readme.link r.heading.level r.heading.title r.heading.anchor =
      List.replicate r.column ' ' ++ '*' :: ' ' :: r.text := by
    simp only [Readme.link, hcolumn, Row.text_eq]
    simp
  rw [htext, Line.ofText, measure_spaces (by decide)]
  simp [Row.line]

/-- A document that lists headings is a sequence of rows; a line feed may end its last line. -/
theorem exists_rows {ss : List Section} (h : ∀ s ∈ ss, IsListable s) {tail : List Text}
    (htail : tail = [] ∨ tail = [[]]) (n : Nat) :
    ∃ rows : List Row, rows.map Row.heading = ss ∧
      Line.ofPieces n (listing ss ++ tail) = rows.map Row.line ∧
      ∀ r ∈ rows, r.number < n + ss.length := by
  induction ss generalizing n with
  | nil =>
    refine ⟨[], rfl, ?_, by simp⟩
    rcases htail with rfl | rfl <;> rfl
  | cons s ss ih =>
    have hs : IsListable s := h s List.mem_cons_self
    obtain ⟨rows, hheadings, hlines, hnumbers⟩ :=
      ih (fun t ht => h t (List.mem_cons_of_mem _ ht)) (n + 1)
    have hfirst : ∀ ended, Line.ofText n (Readme.link s.level s.title s.anchor) ended =
        Row.line ⟨s, hs, n, ended⟩ := fun ended => ofText_link ⟨s, hs, n, ended⟩
    by_cases hlast : listing ss ++ tail = []
    · obtain ⟨hss, rfl⟩ := List.append_eq_nil_iff.1 hlast
      obtain rfl : ss = [] := List.map_eq_nil_iff.1 hss
      refine ⟨[⟨s, hs, n, false⟩], rfl, ?_, by simp⟩
      have hsign : (Readme.link s.level s.title s.anchor).all Line.isIndentation = false := by
        simp [Readme.link, Line.isIndentation]
      rw [listing, List.map_singleton, List.append_nil, Line.ofPieces, hsign]
      exact congrArg (· :: []) (hfirst false)
    · refine ⟨⟨s, hs, n, true⟩ :: rows, by rw [List.map_cons, hheadings], ?_, ?_⟩
      · have hcons : listing (s :: ss) ++ tail =
            Readme.link s.level s.title s.anchor :: (listing ss ++ tail) := rfl
        rw [hcons, ofPieces_cons n _ hlast, hfirst, hlines, List.map_cons]
      · intro r hr
        rcases List.mem_cons.1 hr with rfl | hr
        · simp
        · have hnumber := hnumbers r hr
          rw [List.length_cons]
          omega

/-! ## Branches -/

/-- Rows whose first is of the first level are those of branches. -/
theorem exists_branches (rows : List Row) :
    ∃ (orphans : List Row) (bs : List Branch), rows = orphans ++ bs.flatMap Branch.rows ∧
      (∀ r ∈ orphans, r.nested = true) ∧ ∀ b ∈ bs, b.IsOuter := by
  induction rows with
  | nil => exact ⟨[], [], rfl, by simp, by simp⟩
  | cons r rows ih =>
    obtain ⟨orphans, bs, rfl, horphans, hbs⟩ := ih
    cases hr : r.nested with
    | true =>
      refine ⟨r :: orphans, bs, rfl, ?_, hbs⟩
      rintro r' (_ | ⟨_, hr'⟩)
      · exact hr
      · exact horphans r' hr'
    | false =>
      refine ⟨[], ⟨r, orphans⟩ :: bs, rfl, by simp, ?_⟩
      rintro b (_ | ⟨_, hb⟩)
      · exact ⟨hr, horphans⟩
      · exact hbs b hb

/-! ## Characters -/

/-- The characters of a line that lists a heading. -/
theorem mem_link {s : Section} (h : IsListable s) {c : Char}
    (hc : c ∈ Readme.link s.level s.title s.anchor) :
    isAlphanumeric c = true ∨ c ∈ " *[]().#-".toList := by
  have hopen : ∀ d ∈ "* [".toList, d ∈ " *[]().#-".toList := forall_mem_of_all (by decide)
  have hmiddle : ∀ d ∈ "](".toList, d ∈ " *[]().#-".toList := forall_mem_of_all (by decide)
  simp only [Readme.link, List.mem_append, List.mem_replicate, List.mem_singleton, h.anchor] at hc
  rcases hc with ((((⟨-, rfl⟩ | hc) | hc) | hc) | hc) | rfl
  · exact Or.inr (by decide)
  · exact Or.inr (hopen c hc)
  · rcases h.title.mem hc with hc | rfl
    · exact Or.inl hc
    · exact Or.inr (by decide)
  · exact Or.inr (hmiddle c hc)
  · rcases isAnchorChar_of_mem_anchor h.file hc with hc | rfl | rfl | rfl
    · exact Or.inl hc
    all_goals exact Or.inr (by decide)
  · exact Or.inr (by decide)

/-- No other character stands in such a line. -/
theorem not_mem_link {s : Section} (h : IsListable s) {d : Char} (hd : isAlphanumeric d = false)
    (hsign : d ∉ " *[]().#-".toList) : d ∉ Readme.link s.level s.title s.anchor := by
  intro hc
  rcases mem_link h hc with hc | hc
  · rw [hc] at hd
    exact absurd hd (by decide)
  · exact hsign hc

/-- The lines of a document that lists headings, as the blocks of the document see them. -/
theorem ofDocument_listing {ss : List Section} (hne : ss ≠ []) (h : ∀ s ∈ ss, IsListable s)
    {tail : List Text} (htail : tail = [] ∨ tail = [[]]) :
    Line.ofDocument (prepare (unlines (listing ss ++ tail))) =
      Line.ofPieces 0 (listing ss ++ tail) := by
  have hls : listing ss ++ tail ≠ [] := by simp [listing, hne]
  have hmem : ∀ l ∈ listing ss ++ tail, l = [] ∨ ∃ s, IsListable s ∧
      l = Readme.link s.level s.title s.anchor := by
    intro l hl
    rcases List.mem_append.1 hl with hl | hl
    · obtain ⟨s, hs, rfl⟩ := List.mem_map.1 hl
      exact Or.inr ⟨s, h s hs, rfl⟩
    · rcases htail with rfl | rfl
      · simp at hl
      · exact Or.inl (List.mem_singleton.1 hl)
  have hnot : ∀ l ∈ listing ss ++ tail, ∀ d, isAlphanumeric d = false → d ∉ " *[]().#-".toList →
      d ∉ l := by
    intro l hl d hd hsign
    rcases hmem l hl with rfl | ⟨s, hs, rfl⟩
    · exact List.not_mem_nil
    · exact not_mem_link hs hd hsign
  have hlines : ∀ l ∈ listing ss ++ tail, IsLine l := fun l hl =>
    ⟨hnot l hl _ (by decide) (by decide), hnot l hl _ (by decide) (by decide)⟩
  have hlist := lines_unlines hls hlines
  rw [ofDocument_prepare fun l hl => hnot l (hlist ▸ hl) _ (by decide) (by decide), hlist]

/-! ## Entries -/

theorem mapM_entries {rows : List Row}
    (h : ∀ r ∈ rows, r.number + 1 < 10 ^ maxDigits) (file : Text) :
    (rows.map fun r => r.listItem r.heading.level.toNat).mapM
      (ListItem.entries file ".md".toList) =
      .ok (rows.map fun r => [r.entry file]) := by
  induction rows with
  | nil => rfl
  | cons r rows ih =>
    rw [List.map_cons, List.mapM_cons, entries_listItem (h r List.mem_cons_self),
      ih fun r' hr' => h r' (List.mem_cons_of_mem _ hr')]
    rfl

/-- The entries of a document that lists headings are those of its rows. -/
theorem entries_listing {ss : List Section} (h : ∀ s ∈ ss, IsListable s)
    (hfirst : ∀ s ∈ ss.head?, s.level = 1) (hfew : ss.length < 10 ^ maxDigits) {tail : List Text}
    (htail : tail = [] ∨ tail = [[]]) (file : Text) :
    ∃ rows : List Row, rows.map Row.heading = ss ∧
      entries (unlines (listing ss ++ tail)) file ".md".toList =
        .ok (rows.map (Row.entry file)) := by
  by_cases hss : ss = []
  · subst hss
    refine ⟨[], rfl, ?_⟩
    rcases htail with rfl | rfl <;> rfl
  · obtain ⟨rows, hheadings, hlines, hnumbers⟩ := exists_rows h htail 0
    obtain ⟨orphans, bs, hrows, horphans, hbs⟩ := exists_branches rows
    refine ⟨rows, hheadings, ?_⟩
    have horphan : orphans = [] := by
      refine List.eq_nil_iff_forall_not_mem.2 fun r hr => ?_
      obtain ⟨o, os, rfl⟩ := List.exists_cons_of_ne_nil (List.ne_nil_of_mem hr)
      have hhead : o.heading ∈ ss.head? := by rw [← hheadings, hrows]; rfl
      have hnested := horphans o List.mem_cons_self
      rw [Row.nested, hfirst _ hhead] at hnested
      exact absurd hnested (by decide)
    rw [horphan, List.nil_append] at hrows
    obtain ⟨b, bs, rfl⟩ : ∃ b bs', bs = b :: bs' := by
      refine List.exists_cons_of_ne_nil ?_
      rintro rfl
      rw [hrows] at hheadings
      exact hss hheadings.symm
    have hblocks : blocks (prepare (unlines (listing ss ++ tail))) =
        [.list b.top.number none true ((b :: bs).map Branch.item)] := by
      rw [blocks, ofDocument_listing hss h htail, hlines, hrows]
      exact reader_branches 14 hbs
    have hitems : itemsInAll 0 (Html.parse (page (unlines (listing ss ++ tail)))) =
        rows.map fun r => r.listItem r.heading.level.toNat := by
      rw [page]
      simp only [hblocks]
      rw [parse_list, itemsIn_list hbs, ← hrows]
    have hread := mapM_entries (fun r hr => by have := hnumbers r hr; omega) file
    rw [entries, hitems, hread, Except.map, ← List.flatMap_def, ← List.map_eq_flatMap]

end Concordance.Readme
