import Concordance.Proofs.Model.Pass
import Mathlib.Data.List.Induction

/-!
# Section numbers in closed form

The counters of the index go up and start again heading by heading.  Here they are counted out of
the whole history instead: `tally` is how many headings of a level stand behind the last one of a
lesser level.

* `counters_after`: after any headings, the counters are the tallies of those that are counted.
* `index_along`: the pass leads its index past the headings among the paragraphs, and past nothing
  else.
* `sections_after_append` lists the sections of any headings, and the last theorem those of any
  documents, each with its number in closed form.
-/

namespace Concordance

open Text

/-! ## Tallies -/

/-- How many headings of a level stand behind the last one of a lesser level. -/
def tally (level : Int) (hs : List Heading) : Nat :=
  (hs.reverse.takeWhile fun h => decide (level ≤ h.level)).countP fun h => h.level == level

theorem tally_append_singleton (level : Int) (hs : List Heading) (h : Heading) :
    tally level (hs ++ [h]) =
      if h.level < level then 0 else tally level hs + if h.level = level then 1 else 0 := by
  rw [tally, List.reverse_append, List.reverse_singleton, List.singleton_append,
    List.takeWhile_cons]
  by_cases hl : h.level < level
  · simp [hl, Int.not_le.2 hl]
  · simp [hl, Int.not_lt.1 hl, tally, List.countP_cons]

/-- The tallies of the levels of sections. -/
def tallies (hs : List Heading) : Counters :=
  ⟨tally 1 hs, tally 2 hs, tally 3 hs, tally 4 hs⟩

/-- One more heading moves the tallies as it moves the counters. -/
theorem tallies_append_singleton {h : Heading} (hc : h.isCounted = true) (hs : List Heading) :
    tallies (hs ++ [h]) = (tallies hs).advance h.level := by
  obtain ⟨-, h1, h4⟩ := h.isCounted_iff.1 hc
  have h4 : h.level ≤ 4 := h4
  simp only [tallies, tally_append_singleton]
  obtain hl | hl | hl | hl : h.level = 1 ∨ h.level = 2 ∨ h.level = 3 ∨ h.level = 4 := by omega
  all_goals simp [hl, Counters.advance]

theorem number_tallies (hs : List Heading) {level : Int} (h1 : 1 ≤ level) (h4 : level ≤ maxLevel) :
    (tallies hs).number level =
      joinWith ['.'] ((List.range' 1 level.toNat).map fun k : Nat => ofInt (tally k hs)) := by
  have h4 : level ≤ 4 := h4
  obtain rfl | rfl | rfl | rfl : level = 1 ∨ level = 2 ∨ level = 3 ∨ level = 4 := by omega
  all_goals rfl

/-! ## The history of a run -/

/-- The counted headings among some. -/
def counted (hs : List (Heading × Text)) : List Heading := (hs.map (·.1)).filter Heading.isCounted

theorem counted_append_singleton (hs : List (Heading × Text)) (h : Heading) (file : Text) :
    counted (hs ++ [(h, file)]) = counted hs ++ if h.isCounted then [h] else [] := by
  simp [counted, List.filter_cons]

/-- The section that a heading of a file makes behind other headings: none if it is not counted, or
if a counted one among them has its anchor. -/
def sectionBehind (before : List (Heading × Text)) (h : Heading) (file : Text) : Option Section :=
  if h.isCounted ∧ ∀ x ∈ before, x.1.isCounted → anchor x.1.text x.2 ≠ anchor h.text file then
    some {
      level := h.level
      number := joinWith ['.'] ((List.range' 1 h.level.toNat).map fun k : Nat =>
        ofInt (tally k (counted (before ++ [(h, file)]))))
      title := h.text
      anchor := anchor h.text file
      sourceFile := file }
  else none

/-- The sections that headings make behind others, in order. -/
def sectionsBehind (before : List (Heading × Text)) : List (Heading × Text) → List Section
  | [] => []
  | (h, file) :: rest =>
    (sectionBehind before h file).toList ++ sectionsBehind (before ++ [(h, file)]) rest

namespace Index

theorem counters_add_of_isCounted (i : Index) {h : Heading} (file : Text)
    (hc : h.isCounted = true) : (i.add h file).counters = i.counters.advance h.level := by
  by_cases ha : anchor h.text file ∈ i.anchors
  · rw [add_of_taken i file hc ha]
  · rw [add_of_free i file hc ha]

/-- After any headings, the counters are the tallies of those that are counted. -/
theorem counters_after (hs : List (Heading × Text)) :
    (after hs).counters = tallies (counted hs) := by
  induction hs using List.reverseRecOn with
  | nil => rfl
  | append_singleton hs x ih =>
    obtain ⟨h, file⟩ := x
    rw [after_append_singleton, counted_append_singleton]
    cases hc : h.isCounted with
    | false => simp [add_of_not_isCounted _ file hc, ih]
    | true => simp [counters_add_of_isCounted _ file hc, tallies_append_singleton hc, ih]

/-- The anchors that are taken are those of the counted headings. -/
theorem mem_anchors_after {a : Text} (hs : List (Heading × Text)) :
    a ∈ (after hs).anchors ↔ ∃ x ∈ hs, x.1.isCounted = true ∧ anchor x.1.text x.2 = a := by
  induction hs using List.reverseRecOn with
  | nil => simp [after_nil]
  | append_singleton hs x ih =>
    obtain ⟨h, file⟩ := x
    rw [after_append_singleton]
    cases hc : h.isCounted with
    | false => simp [add_of_not_isCounted _ file hc, ih, or_and_right, exists_or, hc]
    | true =>
      by_cases ha : anchor h.text file ∈ (after hs).anchors
      · rw [add_of_taken _ file hc ha, ih]
        constructor
        · rintro ⟨x, hx, hxc⟩
          exact ⟨x, List.mem_append_left _ hx, hxc⟩
        · rintro ⟨x, hx, hxc, rfl⟩
          rcases List.mem_append.1 hx with hx | hx
          · exact ⟨x, hx, hxc, rfl⟩
          · obtain rfl := List.mem_singleton.1 hx
            exact ih.1 ha
      · rw [add_of_free _ file hc ha]
        simp only [List.mem_cons, ih, List.mem_append, List.not_mem_nil, or_false, or_and_right,
          exists_or, exists_eq_left, hc, true_and]
        exact or_comm.trans (or_congr_right eq_comm)

theorem anchor_free_iff {a : Text} {hs : List (Heading × Text)} :
    a ∉ (after hs).anchors ↔ ∀ x ∈ hs, x.1.isCounted → anchor x.1.text x.2 ≠ a := by
  simp only [mem_anchors_after, not_exists, not_and, ne_eq]

theorem sections_add_eq (before : List (Heading × Text)) (h : Heading) (file : Text) :
    ((after before).add h file).sections =
      (after before).sections ++ (sectionBehind before h file).toList := by
  rw [sectionBehind]
  cases hc : h.isCounted with
  | false => simp [add_of_not_isCounted _ file hc]
  | true =>
    obtain ⟨-, h1, h4⟩ := h.isCounted_iff.1 hc
    by_cases ha : anchor h.text file ∈ (after before).anchors
    · rw [add_of_taken _ file hc ha, if_neg fun hfree => anchor_free_iff.2 hfree.2 ha]
      simp
    · have hnumber : (after before).counters.advance h.level =
          tallies (counted (before ++ [(h, file)])) := by
        rw [counters_after, counted_append_singleton, hc, if_pos rfl, tallies_append_singleton hc]
      rw [add_of_free _ file hc ha, if_pos ⟨rfl, anchor_free_iff.1 ha⟩, hnumber, Heading.numbered,
        number_tallies _ h1 h4]
      rfl

theorem sections_after_append (before hs : List (Heading × Text)) :
    (after (before ++ hs)).sections = (after before).sections ++ sectionsBehind before hs := by
  induction hs generalizing before with
  | nil => simp [sectionsBehind]
  | cons x hs ih =>
    obtain ⟨h, file⟩ := x
    rw [sectionsBehind, ← List.append_assoc, ← sections_add_eq, ← after_append_singleton, ← ih,
      List.append_assoc, List.singleton_append]

end Index

/-! ## The pass over documents -/

/-- The heading that a paragraph is, if it is one. -/
def Paragraph.heading? : Paragraph → Option Heading
  | .heading h => some h
  | _ => none

/-- The headings of a document, each with the name of its file. -/
def Document.headings (d : Document) : List (Heading × Text) :=
  (d.paragraphs.filterMap Paragraph.heading?).map fun h => (h, d.name)

/-- The headings of documents, in order. -/
def headingsOf (documents : List Document) : List (Heading × Text) :=
  documents.flatMap Document.headings

/-- The headings among paragraphs, each with the name of its file. -/
def headingsAmong (xs : List (Text × Paragraph)) : List (Heading × Text) :=
  xs.filterMap fun x => x.2.heading?.map fun h => (h, Path.name x.1)

theorem headingsAmong_paragraphsOf (documents : List Document) :
    headingsAmong (paragraphsOf documents) = headingsOf documents := by
  have hdocument : ∀ d : Document, headingsAmong d.located = d.headings := fun d => by
    rw [headingsAmong, Document.located, List.filterMap_map, Document.headings, List.map_filterMap]
    rfl
  induction documents with
  | nil => rfl
  | cons d ds ih =>
    rw [paragraphsOf_cons, headingsAmong, List.filterMap_append, ← headingsAmong, ← headingsAmong,
      hdocument, ih, headingsOf, headingsOf, List.flatMap_cons]

namespace Pass

/-- A paragraph leads the index past its heading, if it is one. -/
theorem index_next (language file : Text) (p : Pass) (b : Paragraph) :
    (p.next language file b).index =
      (b.heading?.toList).foldl (fun i h => i.add h file) p.index := by
  cases b with
  | code l text line =>
    rw [next]
    split <;> rfl
  | _ => rfl

/-- The pass leads the index past the headings among the paragraphs, and past nothing else. -/
theorem index_along (language : Text) (p : Pass) (xs : List (Text × Paragraph)) :
    (p.along language xs).index = (headingsAmong xs).foldl (fun i x => i.add x.1 x.2) p.index := by
  induction xs generalizing p with
  | nil => rfl
  | cons x xs ih =>
    rw [along, List.foldl_cons, ← along, ih, index_next, headingsAmong, headingsAmong,
      List.filterMap_cons]
    cases x.2.heading? <;> rfl

end Pass

theorem sections_buildModel (language : Text) (documents : List Document) (r : Reporter) :
    (buildModel language documents r).1.sections =
      (Index.after (headingsOf documents)).sections := by
  rw [buildModel_eq, Pass.index_along, headingsAmong_paragraphsOf]
  rfl

/-- **The sections of documents, with their numbers in closed form.**  A counted heading is a
section unless an earlier one has its anchor.  Each component of its number counts the headings of
one level, up to and including its own, that stand behind the last one of a lesser level. -/
theorem sections_buildModel_eq (language : Text) (documents : List Document) (r : Reporter) :
    (buildModel language documents r).1.sections = sectionsBehind [] (headingsOf documents) := by
  rw [sections_buildModel, ← List.nil_append (headingsOf documents), Index.sections_after_append]
  rfl

end Concordance
