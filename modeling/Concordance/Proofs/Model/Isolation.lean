import Concordance.Proofs.Model.Findings

/-!
# Failures are isolated

A paragraph that is rejected might as well not be there.  What carries this is that the pass behind
a rejected paragraph is the pass before it, with its counters, anchors, current section and
grammar, and that a rejection is all that is said about the paragraph.  A heading whose anchor is
taken is no such paragraph: it is counted.

* `Pass.next_of_rejected`: a rejected paragraph leaves the pass as it was.
* `along_keep`: a run over the paragraphs that are kept ends where the run over all of them does.
-/

namespace Concordance

/-- Whether a finding with this code says that its paragraph has been left out. -/
def Code.isRejection : Code → Bool
  | .sectionConstructError | .headingDepth | .grammarParseError => true
  | _ => false

/-! ## One paragraph -/

namespace Pass

variable {language file path : Text} {p : Pass} {b : Paragraph}

/-- A rejected paragraph leaves the pass as it was, and nothing else is said about it. -/
theorem next_of_rejected {d : Diagnostic} (hd : d ∈ p.findings language file path b)
    (hr : d.code.isRejection = true) :
    p.next language file b = p ∧ p.findings language file path b = [d] := by
  cases b with
  | heading h =>
    rw [findings] at hd ⊢
    cases hc : h.isCounted with
    | false =>
      rw [Index.finding?_judge_of_not_isCounted _ file hc] at hd ⊢
      obtain rfl := List.mem_singleton.1 hd
      rw [next, Index.add_of_not_isCounted _ file hc]
      exact ⟨rfl, rfl⟩
    | true =>
      -- a counted heading is said at most to have an anchor that is taken
      rw [Index.finding?_judge_of_isCounted _ file hc, Heading.refusal_of_isCounted hc] at hd
      split at hd
      · obtain rfl := List.mem_singleton.1 hd
        cases hr
      · cases hd
  | code l text line =>
    by_cases hl : l = language
    · simp only [findings, next, if_pos hl, fragmentFindings_eq, productions_eq] at hd ⊢
      cases hread : Notation.read text file with
      | ok ps =>
        rw [hread] at hd
        obtain ⟨n, -, rfl⟩ := List.mem_map.1 hd
        cases hr
      | error f =>
        rw [hread] at hd
        obtain rfl := List.mem_singleton.1 hd
        simp
    · simp [findings, if_neg hl] at hd
  | list => cases hd
  | other => cases hd

end Pass

/-! ## Paragraphs that are kept -/

/-- Whether a paragraph is a heading, or a block of the language. -/
def Paragraph.isUsed (language : Text) : Paragraph → Bool
  | .heading _ => true
  | .code l _ _ => l == language
  | _ => false

theorem Pass.next_of_not_isUsed {language : Text} {b : Paragraph} (hb : b.isUsed language = false)
    (file path : Text) (p : Pass) :
    p.next language file b = p ∧ p.findings language file path b = [] := by
  cases b with
  | heading h => cases hb
  | code l text line =>
    have hl : ¬ l = language := by simpa [Paragraph.isUsed] using hb
    simp only [next, findings, if_neg hl, and_self]
  | list => exact ⟨rfl, rfl⟩
  | other => exact ⟨rfl, rfl⟩

/-- Whether a paragraph behind others is kept: it is a heading or a block of the language, and has
not been reported as rejected. -/
def isKept (language outer : Text) (before : List (Text × Paragraph))
    (x : Text × Paragraph) : Bool :=
  x.2.isUsed language && (findingsAt language outer before x).all fun d => !d.code.isRejection

/-- A paragraph behind others, if it is kept. -/
def keep (language outer : Text) (before : List (Text × Paragraph)) (x : Text × Paragraph) :
    List (Text × Paragraph) :=
  if isKept language outer before x then [x] else []

section

variable {language outer : Text} {before : List (Text × Paragraph)} {x : Text × Paragraph}

theorem filter_findingsAt_of_isKept (h : isKept language outer before x = true) :
    (findingsAt language outer before x).filter (fun d => !d.code.isRejection) =
      findingsAt language outer before x :=
  List.filter_eq_self.2 (List.all_eq_true.1 (Bool.and_eq_true_iff.1 h).2)

/-- A paragraph that is not kept leaves the pass as it was, and all that is said about it is that
it has been rejected. -/
theorem next_of_not_isKept (h : isKept language outer before x = false) :
    (Pass.along language {} before).next language (Path.name x.1) x.2 =
      Pass.along language {} before ∧
      (findingsAt language outer before x).filter (fun d => !d.code.isRejection) = [] := by
  have hfindings := Pass.findings_along language outer before x
  rcases Bool.and_eq_false_iff.1 h with hused | hrejected
  · obtain ⟨hnext, hnone⟩ :=
      Pass.next_of_not_isUsed hused (Path.name x.1) (Pass.shownPath outer x.1)
        (Pass.along language {} before)
    rw [← hfindings, hnone]
    exact ⟨hnext, rfl⟩
  · obtain ⟨d, hd, hr⟩ : ∃ d ∈ findingsAt language outer before x, d.code.isRejection = true := by
      simpa using hrejected
    rw [← hfindings] at hd ⊢
    obtain ⟨hnext, honly⟩ := Pass.next_of_rejected hd hr
    rw [honly]
    exact ⟨hnext, by simp [hr]⟩

end

/-! ## Runs over the paragraphs that are kept -/

/-- A run over the paragraphs that are kept ends where the run over all of them does, and reports
what that one reports, rejections apart. -/
theorem along_keep (language outer : Text) (before xs : List (Text × Paragraph)) :
    (Pass.along language {} before).along language (behind (keep language outer) before xs) =
      (Pass.along language {} before).along language xs ∧
    (Pass.along language {} before).findingsAlong language outer
        (behind (keep language outer) before xs) =
      ((Pass.along language {} before).findingsAlong language outer xs).filter
        fun d => !d.code.isRejection := by
  induction xs generalizing before with
  | nil => exact ⟨rfl, rfl⟩
  | cons x xs ih =>
    have hnext : Pass.along language {} (before ++ [x]) =
        (Pass.along language {} before).next language (Path.name x.1) x.2 := by
      rw [Pass.along_append]
      rfl
    have hrest := ih (before ++ [x])
    rw [hnext] at hrest
    rw [behind, keep, Pass.findingsAlong, Pass.findings_along, List.filter_append]
    cases hk : isKept language outer before x with
    | true =>
      rw [filter_findingsAt_of_isKept hk, if_pos rfl, List.singleton_append, Pass.findingsAlong,
        Pass.findings_along, hrest.2]
      exact ⟨hrest.1, rfl⟩
    | false =>
      obtain ⟨hstays, hsilent⟩ := next_of_not_isKept hk
      rw [hstays] at hrest
      rw [hsilent, if_neg Bool.false_ne_true, List.nil_append, List.nil_append, hstays, hrest.2]
      exact ⟨hrest.1.trans (congrArg (Pass.along language · xs) hstays.symm), rfl⟩

/-- A document without the paragraphs that are not kept. -/
def Document.kept (language outer : Text) (before : List (Text × Paragraph))
    (d : Document) : Document :=
  { d with paragraphs := (behind (keep language outer) before d.located).map (·.2) }

/-- Documents without the paragraphs that are not kept. -/
def keptDocuments (language outer : Text) (before : List (Text × Paragraph)) :
    List Document → List Document
  | [] => []
  | d :: ds =>
    d.kept language outer before :: keptDocuments language outer (before ++ d.located) ds

theorem Document.located_kept (language outer : Text)
    (before : List (Text × Paragraph)) (d : Document) :
    (d.kept language outer before).located = behind (keep language outer) before d.located := by
  have hpath : ∀ x ∈ behind (keep language outer) before d.located, x.1 = d.path := by
    intro x hx
    obtain ⟨xs, y, ys, heq, hx⟩ := mem_behind hx
    rw [keep] at hx
    split at hx
    · obtain rfl := List.mem_singleton.1 hx
      have hmem : x ∈ d.located := heq ▸ List.mem_append_right xs List.mem_cons_self
      obtain ⟨b, -, rfl⟩ := List.mem_map.1 hmem
      rfl
    · cases hx
  rw [located, kept, List.map_map]
  calc
    _ = (behind (keep language outer) before d.located).map id := by
      apply List.map_congr_left
      intro x hx
      exact Prod.ext (hpath x hx).symm rfl
    _ = _ := List.map_id _

theorem paragraphsOf_keptDocuments (language outer : Text) (before : List (Text × Paragraph))
    (ds : List Document) :
    paragraphsOf (keptDocuments language outer before ds) =
      behind (keep language outer) before (paragraphsOf ds) := by
  induction ds generalizing before with
  | nil => rfl
  | cons d ds ih =>
    rw [keptDocuments, paragraphsOf_cons, paragraphsOf_cons, Document.located_kept,
      ih, behind_append]

/-- **Failures are isolated.**  Take out of some documents every paragraph that is neither a
heading nor a block of the language, and every one that is reported as rejected.  The sections with
their numbers and the grammar with its links are the same as before, and so are the other findings,
in the same order. -/
theorem failures_isolated (language : Text) (documents : List Document) (r : Reporter) :
    let reported := behind (findingsAt language r.location.file) [] (paragraphsOf documents)
    let kept := keptDocuments language r.location.file [] documents
    (buildModel language documents r).2.diagnostics = r.diagnostics ++ reported ∧
    (buildModel language kept r).1 = (buildModel language documents r).1 ∧
    (buildModel language kept r).2.diagnostics =
      r.diagnostics ++ reported.filter fun d => !d.code.isRejection := by
  intro reported kept
  obtain ⟨hpass, hfindings⟩ := along_keep language r.location.file [] (paragraphsOf documents)
  rw [← paragraphsOf_keptDocuments] at hpass hfindings
  refine ⟨diagnostics_buildModel language documents r, ?_, ?_⟩
  · have hpass : Pass.along language {} (paragraphsOf kept) =
        Pass.along language {} (paragraphsOf documents) := hpass
    rw [buildModel_eq, buildModel_eq, hpass]
  · rw [diagnostics_buildModel, ← Pass.findingsAlong_eq]
    exact congrArg (r.diagnostics ++ ·)
      (hfindings.trans (congrArg (List.filter _) (Pass.findingsAlong_eq ..)))

end Concordance
