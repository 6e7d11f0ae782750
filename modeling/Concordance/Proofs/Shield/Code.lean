import Concordance.Notation.Reading
import Concordance.Proofs.Markdown.Parts
import Concordance.Proofs.Shield.RawMarkup
import Mathlib.Data.List.TakeWhile

/-!
# Code under the shield

The shield does not ask whether a line is code.  It leaves the shape of a document alone, but a
line of code that looks like one of the constructs it rewrites is read with a sentinel in it.

* `Reshaping` is what may become of a part of a document: a part of the same shape.
* `codes_eq_iff`: parts of one shape are the same code exactly if the lines of code are the same.
* `take_code_read`: the code of a document is read as it is written exactly if the shield leaves
  its lines alone.
-/

namespace Concordance.Shield

open Text Markdown

/-! ## Lines -/

theorem three_le_indent (n : Nat) (t : Text) : 3 ≤ (Line.ofText n (spaces 3 ++ t) true).indent :=
  Int.ofNat_le.2 (le_measure 0 3 t)

theorem four_le_indent (n : Nat) (t : Text) : 4 ≤ (Line.ofText n (spaces 4 ++ t) true).indent :=
  Int.ofNat_le.2 (le_measure 0 4 t)

section

variable {t t' : Text} (h : Rewriting t t')

include h

/-- A line that opens nothing still opens nothing. -/
theorem isLeaf_of_rewriting (ht : isLeaf (.ofText 0 t true) = true) :
    isLeaf (.ofText 0 t' true) = true := by
  cases h with
  | same => exact ht
  | row line line' =>
    exact isLeaf_of_content rfl (show beginsText '|' = true by decide)
      (show (0 : Int) ≤ 3 by decide)
  | marked hc line =>
    exact isLeaf_of_content rfl (show beginsText 'c' = true by decide)
      (show (3 : Int) ≤ 3 by decide)
  | @shielded c hc line =>
    have hnear := indent_le_of_isLeaf ht
    have hfar := four_le_indent 0 (c :: line)
    omega

/-- A line of a heading stays one. -/
theorem isRunning_of_rewriting (ht : isRunning (.ofText 0 t true) = true) :
    isRunning (.ofText 0 t' true) = true := by
  obtain ⟨hleaf, hbar, -⟩ := of_isRunning ht
  have hleaf' := isLeaf_of_rewriting h hleaf
  cases h with
  | same => exact ht
  | row line line' => exact absurd List.mem_cons_self hbar
  | @marked c hc line =>
    have hplain : '|' ∉ c :: line := by
      intro hmem
      rw [content_ofText, List.dropWhile_append_of_pos fun d hd => by
        rw [(List.mem_replicate.1 hd).2]; rfl] at hbar
      rw [← List.takeWhile_append_dropWhile (p := Line.isIndentation) (l := c :: line),
        List.mem_append] at hmem
      exact hmem.elim (fun hblank => absurd (List.mem_takeWhile_imp hblank) (by decide)) hbar
    refine isRunning_of_content rfl (show beginsText 'c' = true by decide)
      (by decide) (by decide) ?_
      (show (3 : Int) ≤ 3 by decide)
    intro hmem
    have hmem : '|' ∈ indentSentinel ++ c :: line := hmem
    exact (List.mem_append.1 hmem).elim (by decide) hplain
  | @shielded c hc line =>
    have hnear := indent_le_of_isLeaf hleaf
    have hfar := four_le_indent 0 (c :: line)
    omega

/-- A line that holds more than blanks still does. -/
theorem isSolid_of_rewriting (ht : isSolid t = true) : isSolid t' = true := by
  cases h with
  | same => exact ht
  | _ => rfl

/-- A line that does not close a fence still does not. -/
theorem endsFence_of_rewriting {m : Char} {length : Nat} (hm : m = '~' ∨ m = '\x60')
    (ht : endsFence m length (.ofText 0 t true) = false) :
    endsFence m length (.ofText 0 t' true) = false := by
  have hother (c : Char) (l : Line) (hc : l.content.head? = some c) (hne : c ≠ m) :
      endsFence m length l = false := by
    rw [endsFence, hc, decide_eq_false (by simp [hne])]
    rfl
  have hbar : '|' ≠ m := by rcases hm with rfl | rfl <;> decide
  have hletter : 'c' ≠ m := by rcases hm with rfl | rfl <;> decide
  cases h with
  | same => exact ht
  | row line line' => exact hother '|' _ rfl hbar
  | marked _ line => exact hother 'c' _ rfl hletter
  | shielded _ line => exact hother 'c' _ rfl hletter

/-- A line that opens an item comes back as it was. -/
theorem eq_of_opensItem {style : ListStyle} (ht : style.opensItem (.ofText 0 t true) = true) :
    t' = t := by
  have hitem := isItem_of_opensItem ht
  obtain ⟨m, hm, -⟩ := hitem.marker
  refine h.eq_of_head (fun hbar => ?_) fun hspace => ?_
  · obtain ⟨u, rfl⟩ := List.head?_eq_some_iff.1 hbar
    rw [content_ofText, List.dropWhile_cons_of_neg (by decide),
      marker?_of_beginsText (by decide)] at hm
    exact absurd hm (by simp)
  · obtain ⟨u, rfl⟩ := List.head?_eq_some_iff.1 hspace
    have hfar : (1 : Int) ≤ (Line.ofText 0 (' ' :: u) true).indent :=
      Int.ofNat_le.2 (le_measure 0 1 u)
    rw [hitem.indent] at hfar
    exact absurd hfar (by decide)

/-- A line of an item stays one. -/
theorem isBelow_of_rewriting {style : ListStyle} (ht : style.isBelow t = true) :
    style.isBelow t' = true := by
  have hshallow {l : Line} {u : Text} (hl : l.content = 'c' :: u) : isShallow l = true := by
    rw [isShallow, hl, marker?_of_beginsText (by decide)]
    rfl
  simp only [ListStyle.isBelow, Bool.and_eq_true, Bool.or_eq_true, decide_eq_true_eq] at ht ⊢
  obtain ⟨hbelow, htabs⟩ := ht
  cases h with
  | same => exact ⟨hbelow, htabs⟩
  | row line line' =>
    have hrow (u : Text) : isShallow (.ofText 0 ('|' :: u) true) = true := by
      rw [isShallow, show (Line.ofText 0 ('|' :: u) true).content = '|' :: u from rfl,
        marker?_of_beginsText (by decide)]
      rfl
    exact ⟨Or.inr ⟨(hbelow.resolve_left Bool.noConfusion).1, hrow line'⟩, Or.inr rfl⟩
  | @marked c hc line =>
    have hnear : style.column ≤ 3 := by
      by_contra hfar
      -- Behind three spaces and no tab stands the text of the line.
      have htab := htabs.resolve_left hfar
      have hsolid : Line.isIndentation c = false := by
        rw [Line.isIndentation, Bool.or_eq_false_iff, beq_eq_false_iff_ne, beq_eq_false_iff_ne]
        refine ⟨hc, ?_⟩
        rintro rfl
        exact Bool.noConfusion htab
      rw [spaces, ofText_spaces hsolid] at hbelow
      have hreach := (hbelow.resolve_left Bool.noConfusion).1
      change ((style.column : Nat) : Int) ≤ 3 at hreach
      omega
    refine ⟨Or.inr ⟨?_, hshallow rfl⟩, Or.inl hnear⟩
    change ((style.column : Nat) : Int) ≤ 3
    omega
  | @shielded c hc line =>
    have hsolid : Line.isIndentation c = false := by rcases hc with rfl | rfl | rfl <;> rfl
    rw [spaces, ofText_spaces hsolid] at hbelow
    exact ⟨Or.inr ⟨(hbelow.resolve_left Bool.noConfusion).1, hshallow rfl⟩, Or.inr rfl⟩

/-- A line that ends a part still does. -/
theorem goesOn_of_rewriting {p : Part} {goesOn : Line → Bool} (hp : p.goesOn? = some goesOn)
    (ht : goesOn (.ofText 0 t true) = false) : goesOn (.ofText 0 t' true) = false := by
  cases p with
  | list style first more =>
    obtain rfl : style.goesOn = goesOn := Option.some.inj hp
    have hzero : (Line.ofText 0 t true).indent = 0 := by
      simp only [ListStyle.goesOn, Bool.or_eq_false_iff, bne_eq_false_iff_eq] at ht
      exact ht.1.2
    cases h with
    | same => exact ht
    | row line line' =>
      have hmarker : marker? (Line.ofText 0 ('|' :: line') true).content = none :=
        marker?_of_beginsText (show beginsText '|' = true by decide) line'
      rw [ListStyle.goesOn, hmarker, Option.any_none, Bool.and_false]
      rfl
    | @marked c hc line =>
      have hfar := three_le_indent 0 (c :: line)
      omega
    | @shielded c hc line =>
      have hfar := four_le_indent 0 (c :: line)
      omega
  | indented first more =>
    obtain rfl := Option.some.inj hp
    cases h with
    | same => exact ht
    | row => rfl
    | marked => rfl
    | @shielded c hc line =>
      have hfar := four_le_indent 0 (c :: line)
      have hcode : ({} : Container).isCode (.ofText 0 (spaces 4 ++ c :: line) true) = true := by
        rw [Container.isCode, decide_eq_true_iff]
        change 4 ≤ (Line.ofText 0 (spaces 4 ++ c :: line) true).indent - 0
        omega
      rw [(Bool.or_eq_false_iff.1 ht).2] at hcode
      exact Bool.noConfusion hcode
  | _ => simp [Part.goesOn?] at hp

end

/-- Raw markup ends with the line that it ended with. -/
theorem isClosed_of_reworking {e : MarkupEnd}
    (he : e = .emptyLine ∨ e = .literalTag ∨ ∃ w ∈ endMarks, e = .mark w) {ts ts' : List Text}
    (h : List.Forall₂ Reworking ts ts') (hts : isClosed e ts = true) : isClosed e ts' = true := by
  have hmark : e = .literalTag ∨ ∃ w ∈ endMarks, e = .mark w := by
    refine he.resolve_left ?_
    rintro rfl
    exact not_isClosed_emptyLine ts hts
  induction h with
  | nil => exact hts
  | @cons t t' ts ts' ht htail ih =>
    cases htail with
    | nil =>
      rw [isClosed, endsMarkup, Bool.and_eq_true] at hts ⊢
      exact ⟨(isEnd_of_reworking hmark ht).trans hts.1, isSolid_of_rewriting ht.rewriting hts.2⟩
    | cons hu hus =>
      rw [isClosed, Bool.and_eq_true] at hts ⊢
      exact ⟨(isEnd_of_reworking hmark ht) ▸ hts.1, ih hts.2⟩

/-! ## Lists of lines -/

theorem exists_append_of_forall₂ {α β : Type} {R : α → β → Prop} {as bs : List α} {cs : List β}
    (h : List.Forall₂ R (as ++ bs) cs) :
    ∃ as' bs', cs = as' ++ bs' ∧ List.Forall₂ R as as' ∧ List.Forall₂ R bs bs' := by
  induction as generalizing cs with
  | nil => exact ⟨[], cs, rfl, .nil, h⟩
  | cons a as ih =>
    cases h with
    | cons ha htail =>
      obtain ⟨as', bs', rfl, has, hbs⟩ := ih htail
      exact ⟨_ :: as', bs', rfl, .cons ha has, hbs⟩

/-- Related lists with a last element on the left have one on the right. -/
theorem exists_concat_of_forall₂ {α β : Type} {R : α → β → Prop} {as : List α} {a : α}
    {cs : List β} (h : List.Forall₂ R (as ++ [a]) cs) :
    ∃ as' a', cs = as' ++ [a'] ∧ List.Forall₂ R as as' ∧ R a a' := by
  obtain ⟨as', last, rfl, has, hlast⟩ := exists_append_of_forall₂ h
  obtain ⟨a', bs', ha, hbs, rfl⟩ := List.forall₂_cons_left_iff.1 hlast
  obtain rfl := List.forall₂_nil_left_iff.1 hbs
  exact ⟨as', a', rfl, has, ha⟩

/-- A test that related elements pass alike is passed by the whole list. -/
theorem all_of_forall₂ {α β : Type} {R : α → β → Prop} {f : α → Bool} {g : β → Bool}
    (hR : ∀ a b, R a b → f a = true → g b = true) {as : List α} {bs : List β}
    (h : List.Forall₂ R as bs) (has : as.all f = true) : bs.all g = true := by
  induction h with
  | nil => rfl
  | cons hab _ ih =>
    rw [List.all_cons, Bool.and_eq_true] at has ⊢
    exact ⟨hR _ _ hab has.1, ih has.2⟩

/-- So is a test of the last element. -/
theorem all_getLast?_of_forall₂ {α β : Type} {R : α → β → Prop} {f : α → Bool} {g : β → Bool}
    (hR : ∀ a b, R a b → f a = true → g b = true) {as : List α} {bs : List β}
    (h : List.Forall₂ R as bs) (has : as.getLast?.all f = true) : bs.getLast?.all g = true := by
  cases as using List.reverseRecOn with
  | nil =>
    rw [List.forall₂_nil_left_iff.1 h]
    rfl
  | append_singleton as a =>
    obtain ⟨bs, b, rfl, -, hab⟩ := exists_concat_of_forall₂ h
    rw [List.getLast?_concat] at has ⊢
    exact hR a b hab has

/-- Related elements are the same ones if those that pass a test have no others. -/
theorem eq_of_forall₂ {α : Type} {R : α → α → Prop} {f : α → Bool}
    (hR : ∀ a b, R a b → f a = true → b = a) {as bs : List α} (h : List.Forall₂ R as bs)
    (has : as.all f = true) : bs = as := by
  induction h with
  | nil => rfl
  | cons hab _ ih =>
    rw [List.all_cons, Bool.and_eq_true] at has
    rw [hR _ _ hab has.1, ih has.2]

/-! ## Parts -/

/-- What may become of a part: lines are rewritten, but not those that it is recognized by. -/
inductive Reshaping : Part → Part → Prop where
  | passage {ts ts' : List Text} (h : List.Forall₂ Reworking ts ts') :
      Reshaping (.passage ts) (.passage ts')
  | heading {t : Text} (h : Reworking t t) : Reshaping (.heading t) (.heading t)
  | underlined {first first' : Text} {more more' : List Text} {underline : Text}
      (h : List.Forall₂ Reworking (first :: more) (first' :: more'))
      (hunderline : Reworking underline underline) :
      Reshaping (.underlined first more underline) (.underlined first' more' underline)
  | rule {t : Text} (h : Reworking t t) : Reshaping (.rule t) (.rule t)
  | quote {first : Text} {more behind behind' : List Text}
      (h : List.Forall₂ Reworking (first :: more) (first :: more))
      (hbehind : List.Forall₂ Reworking behind behind') :
      Reshaping (.quote first more behind) (.quote first more behind')
  | list {style : ListStyle} {first : Text} {more more' : List Text}
      (hfirst : Reworking first first) (h : List.Forall₂ Reworking more more') :
      Reshaping (.list style first more) (.list style first more')
  | markup {first : Text} {more more' : List Text} (hfirst : Reworking first first)
      (h : List.Forall₂ Reworking more more') :
      Reshaping (.markup first more) (.markup first more')
  | closed {first : Text} {more more' : List Text} (hfirst : Reworking first first)
      (h : List.Forall₂ Reworking more more') :
      Reshaping (.closed first more) (.closed first more')
  | fenced {opening closing : Text} {body body' : List Text} (hopening : Reworking opening opening)
      (h : List.Forall₂ Reworking body body') (hclosing : Reworking closing closing) :
      Reshaping (.fenced opening body closing) (.fenced opening body' closing)
  | indented {first first' : Text} {more more' : List Text}
      (h : List.Forall₂ Reworking ((first :: more).map indentCode)
        ((first' :: more').map indentCode)) :
      Reshaping (.indented first more) (.indented first' more')

theorem indentCode_injective {t t' : Text} (h : indentCode t = indentCode t') : t = t' := by
  rw [← cut_indentCode 0 t, h, cut_indentCode]

/-- A line of indented code stays one, and does not become a blank one. -/
theorem exists_indentCode {t l : Text} (h : Rewriting (indentCode t) l) :
    ∃ t', l = indentCode t' ∧ (isSolid t = true → isSolid t' = true) := by
  by_cases ht : t = []
  · subst ht
    exact ⟨[], h.eq_of_head (by decide) (by decide), id⟩
  · have hline : indentCode t = spaces 4 ++ t := if_neg ht
    rw [hline] at h
    generalize hm : spaces 4 ++ t = m at h
    cases h with
    | same => exact ⟨t, hline.symm ▸ hm.symm, id⟩
    | row => simp [spaces, List.replicate_succ] at hm
    | marked hspace line =>
      -- A fourth space tells the line from those that are marked.
      simp only [spaces, List.replicate_succ, List.replicate_zero, List.cons_append,
        List.nil_append, List.cons.injEq, true_and] at hm
      exact absurd hm.1.symm hspace
    | @shielded c _ line => exact ⟨bulletSentinel ++ c :: line, rfl, fun _ => rfl⟩

theorem exists_map_indentCode {ts ls : List Text}
    (h : List.Forall₂ Reworking (ts.map indentCode) ls) :
    ∃ ts' : List Text, ls = ts'.map indentCode := by
  induction ts generalizing ls with
  | nil =>
    cases h
    exact ⟨[], rfl⟩
  | cons t ts ih =>
    cases h with
    | cons ht htail =>
      obtain ⟨t', rfl, -⟩ := exists_indentCode ht.rewriting
      obtain ⟨ts', rfl⟩ := ih htail
      exact ⟨t' :: ts', rfl⟩

/-- A line whose first character is neither a bar nor a space comes back as it was. -/
theorem eq_of_head? {t t' : Text} (h : Reworking t t') {c : Char} (hc : t.head? = some c)
    (hbar : c ≠ '|') (hspace : c ≠ ' ') : t' = t := by
  refine h.rewriting.eq_of_head ?_ ?_ <;> rw [hc, Ne, Option.some_inj]
  · exact hbar
  · exact hspace

/-- The lines of a part become those of a part of the same shape. -/
theorem exists_reshaping {p : Part} (hp : p.isProper = true) {ls : List Text}
    (h : List.Forall₂ Reworking p.lines ls) : ∃ p', ls = p'.lines ∧ Reshaping p p' := by
  -- An empty line is no more rewritten than the lines that a part is recognized by.
  have hnil {ts ls : List Text} (h : List.Forall₂ Reworking (ts ++ [[]]) ls) :
      ∃ ts', ls = ts' ++ [[]] ∧ List.Forall₂ Reworking ts ts' := by
    obtain ⟨ts', last, rfl, hts, hempty⟩ := exists_concat_of_forall₂ h
    obtain rfl := hempty.rewriting.eq_of_head (by decide) (by decide)
    exact ⟨ts', rfl, hts⟩
  cases p with
  | passage ts =>
    obtain ⟨ts', rfl, hts⟩ := hnil h
    exact ⟨.passage ts', rfl, .passage hts⟩
  | heading t =>
    rw [Part.isProper, Bool.and_eq_true] at hp
    cases h with
    | cons ht hrest =>
      cases hrest
      obtain rfl := eq_of_head? ht (head?_of_signedHeading? hp.1) (by decide) (by decide)
      exact ⟨.heading _, rfl, .heading ht⟩
  | underlined first more underline =>
    rw [Part.isProper, Bool.and_eq_true] at hp
    rw [Part.lines, ← List.cons_append] at h
    obtain ⟨ts', last, rfl, hts, hlast⟩ := exists_concat_of_forall₂ h
    obtain ⟨first', more', -, -, rfl⟩ := List.forall₂_cons_left_iff.1 hts
    obtain ⟨m, u, rfl, hm⟩ := of_underline? hp.2
    obtain rfl := eq_of_head? hlast rfl (by rcases hm with rfl | rfl <;> decide)
      (by rcases hm with rfl | rfl <;> decide)
    exact ⟨.underlined first' more' _, rfl, .underlined hts hlast⟩
  | rule t =>
    obtain ⟨⟨m, u, rfl, hm⟩, -⟩ := of_isBreakText hp
    cases h with
    | cons ht hrest =>
      cases hrest
      obtain rfl := eq_of_head? ht rfl (by rcases hm with rfl | rfl | rfl <;> decide)
        (by rcases hm with rfl | rfl | rfl <;> decide)
      exact ⟨.rule _, rfl, .rule ht⟩
  | quote first more behind =>
    rw [Part.isProper, Bool.and_eq_true, Bool.and_eq_true] at hp
    rw [Part.lines, ← List.cons_append] at h
    obtain ⟨ts', tail, rfl, hts, htail⟩ := exists_append_of_forall₂ h
    obtain rfl := eq_of_forall₂ (fun t t' ht hquoted =>
      eq_of_head? ht (beq_iff_eq.1 hquoted) (by decide) (by decide)) hts hp.1.1
    obtain ⟨behind', rfl, hbehind⟩ := hnil htail
    exact ⟨.quote first more behind', rfl, .quote hts hbehind⟩
  | list style first more =>
    rw [Part.isProper, Bool.and_eq_true, Bool.and_eq_true] at hp
    cases h with
    | cons hfirst htail =>
      obtain rfl := eq_of_opensItem hfirst.rewriting hp.1.1
      obtain ⟨more', rfl, hmore⟩ := hnil htail
      exact ⟨.list style _ more', rfl, .list hfirst hmore⟩
  | markup first more =>
    rw [Part.isProper, Bool.and_eq_true, Bool.and_eq_true, Option.any_eq_true] at hp
    obtain ⟨⟨⟨x, hx, -⟩, -⟩, -⟩ := hp
    cases h with
    | cons hfirst htail =>
      obtain rfl := eq_of_head? hfirst (head?_of_markupEnd? (Option.isSome_of_mem hx)) (by decide)
        (by decide)
      obtain ⟨more', rfl, hmore⟩ := hnil htail
      exact ⟨.markup _ more', rfl, .markup hfirst hmore⟩
  | closed first more =>
    rw [Part.isProper, Bool.and_eq_true, Option.any_eq_true] at hp
    obtain ⟨⟨x, hx, -⟩, -⟩ := hp
    cases h with
    | cons hfirst htail =>
      obtain rfl := eq_of_head? hfirst (head?_of_markupEnd? (Option.isSome_of_mem hx)) (by decide)
        (by decide)
      exact ⟨.closed _ _, rfl, .closed hfirst htail⟩
  | fenced opening body closing =>
    rw [Part.isProper, Bool.and_eq_true, Option.any_eq_true] at hp
    obtain ⟨-, ⟨m, length, info⟩, hopening, hfence⟩ := hp
    rw [Bool.and_eq_true, Bool.and_eq_true, beq_iff_eq] at hfence
    obtain ⟨hhead, hsign⟩ := of_openFence? hopening
    have hbar : m ≠ '|' := by rcases hsign with rfl | rfl <;> decide
    have hspace : m ≠ ' ' := by rcases hsign with rfl | rfl <;> decide
    cases h with
    | cons ho htail =>
      obtain rfl := eq_of_head? ho hhead hbar hspace
      obtain ⟨body', last, rfl, hbody, hc⟩ := exists_concat_of_forall₂ htail
      obtain rfl := eq_of_head? hc hfence.2.1 hbar hspace
      exact ⟨.fenced _ body' _, rfl, .fenced ho hbody hc⟩
  | indented first more =>
    obtain ⟨ts, rfl⟩ := exists_map_indentCode h
    cases ts with
    | nil => cases h
    | cons first' more' => exact ⟨.indented first' more', rfl, .indented h⟩

namespace Reshaping

variable {p p' : Part}

/-- Line by line, a part is reworked. -/
theorem forall₂_lines (h : Reshaping p p') : List.Forall₂ Reworking p.lines p'.lines := by
  have hnil {ts ts' : List Text} (h : List.Forall₂ Reworking ts ts') :
      List.Forall₂ Reworking (ts ++ [[]]) (ts' ++ [[]]) :=
    List.rel_append h (.cons (Reworking.row []) .nil)
  cases h with
  | passage h => exact hnil h
  | heading h => exact .cons h .nil
  | underlined h hunderline => exact List.rel_append h (.cons hunderline .nil)
  | rule h => exact .cons h .nil
  | quote h hbehind => exact List.rel_append h (hnil hbehind)
  | list hfirst h => exact .cons hfirst (hnil h)
  | markup hfirst h => exact .cons hfirst (hnil h)
  | closed hfirst h => exact .cons hfirst h
  | fenced hopening h hclosing => exact .cons hopening (List.rel_append h (.cons hclosing .nil))
  | indented h => exact h

theorem length_lines (h : Reshaping p p') : p'.lines.length = p.lines.length :=
  h.forall₂_lines.length_eq.symm

theorem length_code (h : Reshaping p p') (n : Nat) : (p'.code n).length = (p.code n).length := by
  cases h <;> rfl

theorem goesOn?_eq (h : Reshaping p p') : p'.goesOn? = p.goesOn? := by
  cases h <;> rfl

/-- What ends a part ends the one it becomes. -/
theorem isEndedBy (h : Reshaping p p') {ts ts' : List Text} (hts : List.Forall₂ Reworking ts ts')
    (hends : p.isEndedBy ts = true) : p'.isEndedBy ts' = true := by
  rw [Part.isEndedBy] at hends ⊢
  rw [h.goesOn?_eq]
  cases hp : p.goesOn? with
  | none => rfl
  | some goesOn =>
    rw [hp, Option.all_some] at hends
    rw [Option.all_some]
    induction hts with
    | nil => exact Bool.noConfusion hends
    | @cons t t' ts ts' ht _ ih =>
      have hempty : t'.isEmpty = t.isEmpty := by
        rw [Bool.eq_iff_iff, List.isEmpty_iff, List.isEmpty_iff, ← List.head?_eq_none_iff,
          ht.rewriting.head_eq, List.head?_eq_none_iff]
      rw [List.dropWhile_cons] at hends ⊢
      rw [hempty]
      split at hends
      · rename_i hnil
        rw [if_pos hnil]
        exact ih hends
      · rename_i hsome
        rw [List.head?_cons, Option.any_some, Bool.not_eq_true'] at hends
        rw [if_neg hsome, List.head?_cons, Option.any_some,
          goesOn_of_rewriting ht.rewriting hp hends]
        rfl

/-- A part of the same shape is read as one, too. -/
theorem isProper (h : Reshaping p p') (hp : p.isProper = true) : p'.isProper = true := by
  cases h with
  | passage h => exact all_of_forall₂ (fun t t' ht => isLeaf_of_rewriting ht.rewriting) h hp
  | heading => exact hp
  | underlined h hunderline =>
    rw [Part.isProper, Bool.and_eq_true] at hp ⊢
    exact ⟨all_of_forall₂ (fun t t' ht => isRunning_of_rewriting ht.rewriting) h hp.1, hp.2⟩
  | rule => exact hp
  | quote h hbehind =>
    rw [Part.isProper, Bool.and_eq_true] at hp ⊢
    exact ⟨hp.1, all_of_forall₂ (fun t t' ht => isLeaf_of_rewriting ht.rewriting) hbehind hp.2⟩
  | list hfirst h =>
    rw [Part.isProper, Bool.and_eq_true] at hp ⊢
    refine ⟨hp.1, all_of_forall₂ (fun t t' ht hitem => ?_) h hp.2⟩
    rw [Bool.or_eq_true] at hitem ⊢
    refine hitem.imp (fun hopens => ?_) (isBelow_of_rewriting ht.rewriting)
    rwa [eq_of_opensItem ht.rewriting hopens]
  | markup hfirst h =>
    rw [Part.isProper, Bool.and_eq_true] at hp ⊢
    exact ⟨hp.1, all_of_forall₂ (fun t t' ht => isSolid_of_rewriting ht.rewriting) h hp.2⟩
  | closed hfirst h =>
    rw [Part.isProper, Bool.and_eq_true, Option.any_eq_true] at hp ⊢
    obtain ⟨⟨⟨e, interrupts⟩, hx, hclosed⟩, hbar⟩ := hp
    exact ⟨⟨(e, interrupts), hx,
      isClosed_of_reworking (of_markupEnd? hx) (.cons hfirst h) hclosed⟩, hbar⟩
  | fenced hopening h hclosing =>
    rw [Part.isProper, Bool.and_eq_true, Option.any_eq_true] at hp ⊢
    obtain ⟨hbar, ⟨m, length, info⟩, hopens, hfence⟩ := hp
    rw [Bool.and_eq_true] at hfence
    refine ⟨hbar, ⟨m, length, info⟩, hopens, Bool.and_eq_true_iff.2 ⟨?_, hfence.2⟩⟩
    refine all_of_forall₂ (fun t t' ht hinside => ?_) h hfence.1
    rw [Bool.not_eq_true'] at hinside ⊢
    exact endsFence_of_rewriting ht.rewriting (of_openFence? hopens).2 hinside
  | @indented first first' more more' h =>
    have hsolid (t t' : Text) (ht : Reworking (indentCode t) (indentCode t'))
        (hs : isSolid t = true) :
        isSolid t' = true := by
      obtain ⟨t'', heq, hkeeps⟩ := exists_indentCode ht.rewriting
      rw [indentCode_injective heq]
      exact hkeeps hs
    rw [List.forall₂_map_left_iff, List.forall₂_map_right_iff] at h
    cases h with
    | cons hfirst hmore =>
      rw [Part.isProper, Bool.and_eq_true] at hp ⊢
      exact ⟨hsolid _ _ hfirst hp.1, all_getLast?_of_forall₂ hsolid hmore hp.2⟩

end Reshaping

theorem forall₂_flatMap_lines {ps ps' : List Part} (h : List.Forall₂ Reshaping ps ps') :
    List.Forall₂ Reworking (ps.flatMap Part.lines) (ps'.flatMap Part.lines) := by
  induction h with
  | nil => exact .nil
  | cons hp _ ih => exact List.rel_append hp.forall₂_lines ih

theorem areProper_of_reshaping {ps ps' : List Part} (h : List.Forall₂ Reshaping ps ps')
    (hps : areProper ps = true) : areProper ps' = true := by
  induction h with
  | nil => rfl
  | cons hp htail ih =>
    rw [areProper, Bool.and_eq_true, Bool.and_eq_true] at hps ⊢
    exact ⟨⟨hp.isProper hps.1.1, hp.isEndedBy (forall₂_flatMap_lines htail) hps.1.2⟩, ih hps.2⟩

/-- The lines of parts become those of parts of the same shapes, whatever stands behind them. -/
theorem exists_reshapings {ps : List Part} (hps : areProper ps = true) {rest ls : List Text}
    (h : List.Forall₂ Reworking (ps.flatMap Part.lines ++ rest) ls) :
    ∃ ps' rest', ls = ps'.flatMap Part.lines ++ rest' ∧ List.Forall₂ Reshaping ps ps' ∧
      List.Forall₂ Reworking rest rest' := by
  induction ps generalizing ls with
  | nil => exact ⟨[], ls, rfl, .nil, h⟩
  | cons p ps ih =>
    rw [areProper, Bool.and_eq_true, Bool.and_eq_true] at hps
    rw [List.flatMap_cons, List.append_assoc] at h
    obtain ⟨front, tail, rfl, hfront, htail⟩ := exists_append_of_forall₂ h
    obtain ⟨p', rfl, hp'⟩ := exists_reshaping hps.1.1 hfront
    obtain ⟨ps', rest', rfl, hps', hrest⟩ := ih hps.2 htail
    exact ⟨p' :: ps', rest', by rw [List.flatMap_cons, List.append_assoc], .cons hp' hps', hrest⟩

/-! ## Code -/

theorem forall_getElem?_eq_iff {α : Type} {pre pre' mid mid' : List α}
    (hpre : pre'.length = pre.length) (hmid : mid'.length = mid.length) (post post' : List α) :
    (∀ i ∈ List.range' pre.length mid.length,
      (pre' ++ (mid' ++ post'))[i]? = (pre ++ (mid ++ post))[i]?) ↔ mid' = mid := by
  have hinside {qs ms rs : List α} {i : Nat} (hi : i < ms.length) :
      (qs ++ (ms ++ rs))[qs.length + i]? = ms[i]? := by
    rw [List.getElem?_append_right (Nat.le_add_right _ _), Nat.add_sub_cancel_left,
      List.getElem?_append_left hi]
  constructor
  · intro h
    refine List.ext_getElem? fun i => ?_
    by_cases hi : i < mid.length
    · have hsame :=
        h (pre.length + i) (List.mem_range'_1.2 ⟨Nat.le_add_right _ _, Nat.add_lt_add_left hi _⟩)
      rwa [hinside hi, ← hpre, hinside (hmid ▸ hi)] at hsame
    · rw [List.getElem?_eq_none (Nat.le_of_not_lt hi),
        List.getElem?_eq_none (hmid ▸ Nat.le_of_not_lt hi)]
  · rintro rfl i hi
    obtain ⟨hle, hlt⟩ := List.mem_range'_1.1 hi
    obtain ⟨i, rfl⟩ := Nat.exists_eq_add_of_le hle
    have hi : i < mid'.length := Nat.lt_of_add_lt_add_left hlt
    rw [hinside hi, ← hpre, hinside hi]

/-- The text of code tells its lines. -/
theorem code_eq_iff {ts ts' : List Text} (hts : ∀ t ∈ ts, IsLine t) (hts' : ∀ t ∈ ts', IsLine t)
    (language : Text) (line : Option Int) :
    [Paragraph.code language (unlines (ts' ++ [[]])) line] =
        [Paragraph.code language (unlines (ts ++ [[]])) line] ↔ ts' = ts := by
  have hlines {us : List Text} (hus : ∀ u ∈ us, IsLine u) : lines (unlines (us ++ [[]])) =
      us ++ [[]] := by
    refine lines_unlines (by simp) fun u hu => ?_
    rcases List.mem_append.1 hu with hu | hu
    · exact hus u hu
    · rw [List.mem_singleton.1 hu]
      exact ⟨List.not_mem_nil, List.not_mem_nil⟩
  constructor
  · intro h
    have htext : unlines (ts' ++ [[]]) = unlines (ts ++ [[]]) := by
      injection h with h
      injection h
    exact List.append_cancel_right
      ((hlines hts').symm.trans ((congrArg lines htext).trans (hlines hts)))
  · rintro rfl
    rfl

theorem isLine_of_indentCode {t : Text} (h : IsLine (indentCode t)) : IsLine t := by
  rw [indentCode] at h
  split at h
  · rename_i ht
    exact ht ▸ h
  · exact (isLine_append.1 h).2

/-- Parts of one shape are the same code exactly if the lines of code are the same. -/
theorem part_code_eq_iff {p p' : Part} (h : Reshaping p p') (hp : ∀ l ∈ p.lines, IsLine l)
    (hp' : ∀ l ∈ p'.lines, IsLine l) {pre pre' : List Text} (hpre : pre'.length = pre.length)
    (post post' : List Text) :
    p'.code pre.length = p.code pre.length ↔
      ∀ i ∈ p.codeLines pre.length, (pre' ++ (p'.lines ++ post'))[i]? =
        (pre ++ (p.lines ++ post))[i]? := by
  cases h with
  | @fenced opening closing body body' _ h =>
    have hsplit (qs ms rs : List Text) : qs ++ (Part.lines (.fenced opening ms closing) ++ rs) =
        qs ++ [opening] ++ (ms ++ closing :: rs) := by
      simp [Part.lines]
    have hfront : (pre' ++ [opening]).length = (pre ++ [opening]).length := by simp [hpre]
    have hlines :=
      forall_getElem?_eq_iff hfront h.length_eq.symm (closing :: post) (closing :: post')
    rw [List.length_append, List.length_singleton] at hlines
    rw [hsplit, hsplit, Part.codeLines, hlines]
    exact code_eq_iff (fun t ht => hp t (List.mem_cons_of_mem _ (List.mem_append_left _ ht)))
      (fun t ht => hp' t (List.mem_cons_of_mem _ (List.mem_append_left _ ht))) _ _
  | @indented first first' more more' h =>
    have hlines := forall_getElem?_eq_iff hpre h.length_eq.symm post post'
    rw [List.length_map, List.length_cons,
      (List.map_injective_iff.2 fun _ _ => indentCode_injective).eq_iff] at hlines
    rw [Part.codeLines, Part.lines, Part.lines, hlines]
    exact code_eq_iff (fun t ht => isLine_of_indentCode (hp _ (List.mem_map_of_mem ht)))
      (fun t ht => isLine_of_indentCode (hp' _ (List.mem_map_of_mem ht))) _ _
  | _ => exact iff_of_true rfl fun i hi => absurd hi List.not_mem_nil

theorem length_codes {ps ps' : List Part} (h : List.Forall₂ Reshaping ps ps') (n : Nat) :
    (codes n ps').length = (codes n ps).length := by
  induction h generalizing n with
  | nil => rfl
  | cons hp _ ih => rw [codes, codes, List.length_append, List.length_append, hp.length_code,
      hp.length_lines, ih]

/-- Parts of the same shapes are the same code exactly if the lines of code are the same. -/
theorem codes_eq_iff {ps ps' : List Part} (h : List.Forall₂ Reshaping ps ps')
    (hps : ∀ p ∈ ps, ∀ l ∈ p.lines, IsLine l) (hps' : ∀ p ∈ ps', ∀ l ∈ p.lines, IsLine l)
    {pre pre' : List Text} (hpre : pre'.length = pre.length) (rest rest' : List Text) :
    codes pre.length ps' = codes pre.length ps ↔
      ∀ i ∈ codeLines pre.length ps,
        (pre' ++ (ps'.flatMap Part.lines ++ rest'))[i]? =
          (pre ++ (ps.flatMap Part.lines ++ rest))[i]? := by
  induction h generalizing pre pre' with
  | nil => exact iff_of_true rfl fun i hi => absurd hi List.not_mem_nil
  | @cons p p' ps ps' hp _ ih =>
    have hhead := part_code_eq_iff hp (hps p List.mem_cons_self) (hps' p' List.mem_cons_self) hpre
      (ps.flatMap Part.lines ++ rest) (ps'.flatMap Part.lines ++ rest')
    have hfront : (pre' ++ p'.lines).length = (pre ++ p.lines).length := by
      rw [List.length_append, List.length_append, hpre, hp.length_lines]
    have htail := ih (fun q hq => hps q (List.mem_cons_of_mem _ hq))
      (fun q hq => hps' q (List.mem_cons_of_mem _ hq)) hfront
    simp only [List.append_assoc, List.length_append] at htail
    have happend : codes pre.length (p' :: ps') = codes pre.length (p :: ps) ↔
        p'.code pre.length = p.code pre.length ∧
          codes (pre.length + p.lines.length) ps' = codes (pre.length + p.lines.length) ps := by
      rw [codes, codes, hp.length_lines]
      exact ⟨fun heq => List.append_inj heq (hp.length_code _), fun heq => by rw [heq.1, heq.2]⟩
    rw [happend, hhead, htail, codeLines, List.flatMap_cons, List.flatMap_cons, List.append_assoc,
      List.append_assoc, List.forall_mem_append]

/-! ## Documents -/

/-- **Code under the shield.**  Let a document begin with passages, headings, breaks, quotes,
lists, raw markup and code, and go on as it will.  The code in front is what stands there, and it
is the same when the document is read exactly if the shield leaves the lines of the code alone. -/
theorem take_code_read (path : Text) {t : Text} (hzero : '\x00' ∉ t) {ps : List Part}
    {rest : List Text} (hlines : lines t = ps.flatMap Part.lines ++ rest) (hrest : rest ≠ [])
    (hps : areProper ps = true) :
    ((outline t).filter Paragraph.isCode).take (codes 0 ps).length = codes 0 ps ∧
      (((Document.read path t).paragraphs.filter Paragraph.isCode).take (codes 0 ps).length =
          ((outline t).filter Paragraph.isCode).take (codes 0 ps).length ↔
        ∀ i ∈ codeLines 0 ps, (shieldLines (lines t))[i]? = (lines t)[i]?) := by
  have hzeros : ∀ l ∈ lines t, '\x00' ∉ l := fun l hl hc => hzero (mem_of_mem_lines hl hc)
  have hreworking : List.Forall₂ Reworking (ps.flatMap Part.lines ++ rest)
      (shieldLines (lines t)) := by
    rw [← hlines]
    exact forall₂_reworking_shieldLines (lines t)
  obtain ⟨ps', rest', hlines', hshape, htail⟩ := exists_reshapings hps hreworking
  have hrest' : rest' ≠ [] := fun hnil => by
    rw [hnil] at htail
    exact hrest (List.forall₂_nil_right_iff.1 htail)
  have hlinesShield : lines (shield t) = ps'.flatMap Part.lines ++ rest' := by
    rw [lines_shield, hlines']
  have hzeros' : ∀ l ∈ lines (shield t), '\x00' ∉ l := by
    rw [lines_shield]
    exact not_mem_shieldLines (by decide) (by decide) (by decide) (by decide) hzeros
  have hcodes := List.prefix_iff_eq_take.1 (codes_isPrefix_outline hzeros hlines hrest hps)
  have hcodes' := List.prefix_iff_eq_take.1
    (codes_isPrefix_outline hzeros' hlinesShield hrest' (areProper_of_reshaping hshape hps))
  rw [length_codes hshape] at hcodes'
  have hisLine {qs : List Part} {tail : List Text} {u : Text}
      (h : lines u = qs.flatMap Part.lines ++ tail) :
      ∀ p ∈ qs, ∀ l ∈ p.lines, IsLine l := fun p hp l hl =>
    isLine_of_mem_lines (h ▸ List.mem_append_left _ (List.mem_flatMap_of_mem hp hl))
  refine ⟨hcodes.symm, ?_⟩
  have hiff := codes_eq_iff hshape (hisLine hlines) (hisLine hlinesShield)
    (show ([] : List Text).length = ([] : List Text).length from rfl) rest rest'
  rw [List.nil_append, List.nil_append, ← hlines, ← hlines'] at hiff
  rw [Document.read, ← hcodes', ← hcodes]
  exact hiff

/-- A heading with its signs below it, an ordered list, a quote, a break, a comment, an item with
another one and a continuation in it, a row with a bar in code, and fenced code. -/
def manual : Text :=
  ("Rules\n=====\n1. Names\n2. Productions\n\n> As they\nare written.\n\n---\n<!-- *\n| -->\n" ++
    "*  Rules are named\n   * by letters\n   and digits.\n\n| \x60a|b\x60 |\n\n" ++
    "\x60\x60\x60antlr\nr : 'a'\n  | 'b' ;\n\x60\x60\x60\n").toList

/-- The continuation and the row of the manual are shielded; its code is read as it is written. -/
theorem take_code_read_manual :
    shield manual ≠ manual ∧
      ((Document.read "a.md".toList manual).paragraphs.filter Paragraph.isCode).take 1 =
        [.code "antlr".toList "r : 'a'\n  | 'b' ;\n".toList (some 18)] := by
  have hlines : lines manual = [.underlined "Rules".toList [] "=====".toList,
      .list ⟨true, '.', 3⟩ "1. Names".toList ["2. Productions".toList],
      .quote "> As they".toList [] ["are written.".toList], .rule "---".toList,
      .closed "<!-- *".toList ["| -->".toList],
      .list ⟨false, '*', 3⟩ "*  Rules are named".toList
        ["   * by letters".toList, "   and digits.".toList],
      .passage ["| \x60a|b\x60 |".toList],
      .fenced "\x60\x60\x60antlr".toList ["r : 'a'".toList, "  | 'b' ;".toList]
        "\x60\x60\x60".toList].flatMap Part.lines ++ [[]] := by
    decide +kernel
  obtain ⟨hcodes, hread⟩ :=
    take_code_read "a.md".toList (by decide +kernel) hlines (List.cons_ne_nil _ _)
      (by decide +kernel)
  exact ⟨by decide +kernel, (hread.2 (by decide +kernel)).trans hcodes⟩

/-- A line of code that begins with a bar gets a sentinel, and with it the code is no grammar any
more. -/
theorem read_quoted_bar :
    ∃ t written shielded : Text,
      t = "\x60\x60\x60antlr\nop : '+'\n| '\x60' '|' '\x60'\n;\n\x60\x60\x60\n".toList ∧
      outline t = [.code "antlr".toList written (some 1)] ∧
      (Document.read "a.md".toList t).paragraphs = [.code "antlr".toList shielded (some 1)] ∧
      written = "op : '+'\n| '\x60' '|' '\x60'\n;\n".toList ∧
      shielded = "op : '+'\n| '\x60' 'ceci_n'est_pas_une_pipe' '\x60'\n;\n".toList ∧
      (Notation.read written).isOk = true ∧ (Notation.read shielded).isOk = false :=
  ⟨_, _, _, rfl, by decide +kernel, by decide +kernel,
    rfl, rfl, by decide +kernel, by decide +kernel⟩

end Concordance.Shield
