import Concordance.Proofs.Model.Links

/-!
# What a pass reports

Everything that a pass over documents reports is told from the paragraphs alone: at each paragraph,
from those before it.  Neither the index nor the grammar that the pass carries is mentioned, nor
the contexts that it opens.

* `Index.finding?_judge`: a heading is reported exactly if it does not become a section.
* `findings_along`: what the pass reports at a paragraph, told from the paragraphs before it.
* `length_repeats_add`: the warnings about names and the distinct names make up the named
  productions.
-/

namespace Concordance

open Text

/-! ## Headings -/

/-- Why a heading is not accepted, if it is not: its content makes no title, its level is not one
of a section, or else its anchor is not new. -/
def Heading.refusal (h : Heading) (file : Text) : Code × Text :=
  match h.fault? with
  | some f => (.sectionConstructError, f.message)
  | none =>
    if h.level < 1 then (.sectionConstructError, Pass.levelMessage h.level)
    else if maxLevel < h.level then
      (.headingDepth, "Only heading depths up to #### are supported".toList)
    else (.duplicateAnchor, "Duplicate section title ".toList ++ anchor h.text file)

theorem Heading.refusal_of_isCounted {h : Heading} (hc : h.isCounted = true) (file : Text) :
    h.refusal file = (.duplicateAnchor, "Duplicate section title ".toList ++
      anchor h.text file) := by
  obtain ⟨hf, h1, h4⟩ := h.isCounted_iff.1 hc
  simp only [refusal, hf, if_neg (Int.not_lt.2 h1), if_neg (Int.not_lt.2 h4)]

namespace Index

theorem finding?_judge_of_not_isCounted (i : Index) {h : Heading} (file : Text)
    (hc : h.isCounted = false) : (i.judge h file).finding? h = some (h.refusal file) := by
  rw [judge, Heading.refusal]
  cases hf : h.fault? with
  | some f => rfl
  | none =>
    by_cases h4 : maxLevel < h.level
    · have h1 : ¬ h.level < 1 := by
        have : (4 : Int) < h.level := h4
        omega
      simp only [gt_iff_lt, if_pos h4, if_neg h1, Verdict.finding?]
    · have h1 : h.level < 1 := by
        refine Int.not_le.1 fun h1 => ?_
        rw [h.isCounted_iff.2 ⟨hf, h1, Int.not_lt.1 h4⟩] at hc
        exact absurd hc (by decide)
      simp only [gt_iff_lt, if_neg h4, if_pos h1, Heading.section_of_lt h1, Verdict.finding?]

theorem finding?_judge_of_isCounted (i : Index) {h : Heading} (file : Text)
    (hc : h.isCounted = true) :
    (i.judge h file).finding? h =
      if anchor h.text file ∈ i.anchors then some (h.refusal file) else none := by
  rw [judge_of_isCounted i file hc, Heading.refusal_of_isCounted hc]
  split <;> rfl

theorem isSome_sectionBehind_iff {before : List (Heading × Text)} {h : Heading} {file : Text} :
    (sectionBehind before h file).isSome = true ↔
      h.isCounted = true ∧ anchor h.text file ∉ (after before).anchors := by
  rw [anchor_free_iff, sectionBehind, Option.isSome_ite]

/-- A heading is reported exactly if it does not become a section. -/
theorem finding?_judge (before : List (Heading × Text)) (h : Heading) (file : Text) :
    ((after before).judge h file).finding? h =
      if (sectionBehind before h file).isSome then none else some (h.refusal file) := by
  simp only [isSome_sectionBehind_iff]
  cases hc : h.isCounted with
  | false => simp [finding?_judge_of_not_isCounted _ file hc]
  | true => simp [finding?_judge_of_isCounted _ file hc]

end Index

/-! ## Findings told from the paragraphs before -/

/-- What is reported at a paragraph behind others.  A heading that does not become a section is an
error on its line, in no section.  A block of the language is an error if it cannot be read; else
each of its named productions whose name occurs in the grammar by then is a warning.  Both stand on
the line of the block, in the section accepted last. -/
def findingsAt (language outer : Text) (before : List (Text × Paragraph)) (x : Text × Paragraph) :
    List Diagnostic :=
  match x.2 with
  | .heading h =>
    if (sectionBehind (headingsAmong before) h (Path.name x.1)).isSome then []
    else [Location.error ⟨Pass.shownPath outer x.1, h.line, none⟩ (h.refusal (Path.name x.1))]
  | .code l text line =>
    let location := ⟨Pass.shownPath outer x.1, line, (sectionBehindAll before).map Section.label⟩
    if l = language then
      match Notation.read text (Path.name x.1) with
      | .ok _ =>
        (behind Grammar.repeats (behind (productionsAt language) [] before)
          (productionsAt language before x)).map (Location.repeated location)
      | .error f => [Location.error location (.grammarParseError, f.message)]
    else []
  | _ => []

namespace Pass

theorem fragmentFindings_eq (p : Pass) (code file : Text) (l : Location) :
    p.fragmentFindings code file l =
      match Notation.read code file with
      | .ok _ => (behind Grammar.repeats p.grammar (p.productions code file)).map l.repeated
      | .error f => [l.error (.grammarParseError, f.message)] := by
  rw [fragmentFindings, productions, readFragment]
  cases Notation.read code file <;> rfl

theorem findings_along (language outer : Text) (before : List (Text × Paragraph))
    (x : Text × Paragraph) :
    (along language {} before).findings language (Path.name x.1) (shownPath outer x.1) x.2 =
      findingsAt language outer before x := by
  obtain ⟨path, b⟩ := x
  cases b with
  | heading h =>
    simp only [findings, findingsAt, index_along_empty, Index.finding?_judge]
    split <;> rfl
  | code l text line =>
    by_cases hl : l = language
    · subst hl
      simp only [findings, findingsAt, if_true, fragmentFindings_eq, current_along, grammar_along,
        productions_along l before path text line]
    · simp only [findings, findingsAt, if_neg hl]
  | _ => rfl

end Pass

/-! ## Counting -/

namespace Grammar

theorem repeats_eq (g : Grammar) (p : Production) :
    repeats g p = (p.name.filter fun n => decide (n ∈ names g)).toList := by
  have hhas : g.has = fun n => decide (n ∈ names g) := by
    funext n
    rw [Bool.eq_iff_iff, decide_eq_true_iff]
    simp [has, names]
  rw [repeats, hhas]

/-- The productions whose name occurs before them and the distinct names make up the named
productions. -/
theorem length_repeats_add (g : Grammar) :
    (behind repeats [] g).length + (names g).toFinset.card = (names g).length := by
  induction g using List.reverseRecOn with
  | nil => rfl
  | append_singleton g p ih =>
    have hnames : names (g ++ [p]) = names g ++ p.name.toList := by
      cases hn : p.name <;> simp [names, hn]
    rw [behind_append, behind_singleton, List.nil_append, repeats_eq, hnames, List.length_append,
      List.length_append, List.toFinset_append, ← ih]
    cases hn : p.name with
    | none => simp
    | some n =>
      by_cases hold : n ∈ names g
      · simp [Option.filter_some, hold, Nat.add_right_comm]
      · simp [Option.filter_some, hold, Nat.add_assoc]

end Grammar

theorem Heading.code_refusal_ne (h : Heading) (file : Text) :
    (h.refusal file).1 ≠ .duplicateProduction := by
  rw [refusal]
  split
  · exact nofun
  · split
    · exact nofun
    · split <;> exact nofun

/-- The warnings are the findings about names that occur again. -/
theorem severity_of_mem_findingsAt {language outer : Text} {before : List (Text × Paragraph)}
    {x : Text × Paragraph} {d : Diagnostic} (h : d ∈ findingsAt language outer before x) :
    d.severity = .warning ↔ d.code = .duplicateProduction := by
  rw [findingsAt] at h
  split at h
  · rename_i g _
    split at h
    · cases h
    · obtain rfl := List.mem_singleton.1 h
      exact iff_of_false nofun (g.code_refusal_ne _)
  · dsimp only at h
    split at h
    · split at h
      · obtain ⟨n, -, rfl⟩ := List.mem_map.1 h
        exact iff_of_true rfl rfl
      · obtain rfl := List.mem_singleton.1 h
        exact iff_of_false nofun nofun
    · cases h
  · cases h

/-- At a paragraph there are as many warnings as productions whose name occurs before them. -/
theorem length_warnings_findingsAt (language outer : Text) (before : List (Text × Paragraph))
    (x : Text × Paragraph) :
    ((findingsAt language outer before x).filter fun d => d.severity == .warning).length =
      (behind Grammar.repeats (behind (productionsAt language) [] before)
        (productionsAt language before x)).length := by
  obtain ⟨path, b⟩ := x
  cases b with
  | heading h =>
    simp only [findingsAt, productionsAt, behind]
    split <;> rfl
  | code l text line =>
    by_cases hl : l = language
    · simp only [findingsAt, productionsAt, if_pos hl]
      cases Notation.read text (Path.name path) with
      | ok ps => simp [List.filter_map, Function.comp_def, Location.repeated]
      | error f => rfl
    · simp only [findingsAt, productionsAt, if_neg hl]
      rfl
  | _ => rfl

theorem length_warnings (language outer : Text) (xs : List (Text × Paragraph)) :
    ((behind (findingsAt language outer) [] xs).filter fun d => d.severity == .warning).length =
      (behind Grammar.repeats [] (behind (productionsAt language) [] xs)).length := by
  induction xs using List.reverseRecOn with
  | nil => rfl
  | append_singleton xs x ih =>
    simp only [behind_append, behind_singleton, List.nil_append, List.filter_append,
      List.length_append, ih, length_warnings_findingsAt]

/-! ## Runs -/

theorem Pass.findingsAlong_eq (language outer : Text) (xs : List (Text × Paragraph)) :
    findingsAlong language outer {} xs = behind (findingsAt language outer) [] xs := by
  have h := findingsAlong_eq_behind language outer [] xs
  simp only [findings_along] at h
  exact h

theorem diagnostics_buildModel (language : Text) (documents : List Document) (r : Reporter) :
    (buildModel language documents r).2.diagnostics =
      r.diagnostics ++ behind (findingsAt language r.location.file) []
        (paragraphsOf documents) := by
  simp [buildModel_eq, Pass.findingsAlong_eq]

/-- **What a run reports.**  Whatever the documents are and whichever contexts are open, nothing
ends the pass.  It leaves the contexts as they were, and adds what is told from the paragraphs
alone, in their order.  The warnings are the findings about names that occur again; with the
distinct names they make up the named productions. -/
theorem diagnostics_of_documents (language : Text) (documents : List Document) (r : Reporter) :
    let reported := behind (findingsAt language r.location.file) [] (paragraphsOf documents)
    let names := (buildModel language documents r).1.grammar.names
    (buildModel language documents r).2.location = r.location ∧
    (buildModel language documents r).2.frames = r.frames ∧
    (buildModel language documents r).2.diagnostics = r.diagnostics ++ reported ∧
    (∀ d ∈ reported, d.severity = .warning ↔ d.code = .duplicateProduction) ∧
    (reported.filter fun d => d.severity == .warning).length + names.toFinset.card =
      names.length := by
  intro reported names
  have hnames : names =
      Grammar.names (behind (productionsAt language) [] (paragraphsOf documents)) :=
    congrArg Grammar.names (grammar_buildModel language documents r)
  refine ⟨?_, ?_, diagnostics_buildModel language documents r, fun d hd => ?_, ?_⟩
  · rw [buildModel_eq]
    rfl
  · rw [buildModel_eq]
    rfl
  · obtain ⟨before, x, -, -, hd⟩ := mem_behind hd
    exact severity_of_mem_findingsAt hd
  · rw [hnames, length_warnings]
    exact Grammar.length_repeats_add _

end Concordance
