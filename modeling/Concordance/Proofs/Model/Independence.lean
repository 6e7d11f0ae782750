import Concordance.Proofs.Model.Findings
import Concordance.Proofs.Url.Anchor

/-!
# Documents do not disturb each other's headings

The anchors of all documents share one index, and so do the counters.  Which headings of a document
become sections, and what is said about the others, is nevertheless told from the document alone:
an anchor begins with the name of its file, and the last number sign in it stands behind that name
(`anchor_eq_iff`).

* `sectionsBehind_append_others` and `filter_behind_findingsAt_append`: headings of other files may
  be left out, as far as numbers do not matter.
* `share_eq_alone`: what a run takes from a document behind others is what it takes from it alone.
-/

namespace Concordance

open Text

/-! ## Headings of other files -/

/-- A section without its number. -/
def Section.unnumbered (s : Section) : Section := { s with number := [] }

section

variable {others : List (Heading × Text)} (own : List (Heading × Text))

theorem sectionBehind_append {h : Heading} {file : Text} (hothers : ∀ x ∈ others, x.2 ≠ file) :
    (sectionBehind (others ++ own) h file).map Section.unnumbered =
      (sectionBehind own h file).map Section.unnumbered := by
  have hfree : (∀ x ∈ others ++ own, x.1.isCounted → anchor x.1.text x.2 ≠ anchor h.text file) ↔
      ∀ x ∈ own, x.1.isCounted → anchor x.1.text x.2 ≠ anchor h.text file := by
    constructor
    · exact fun hall x hx => hall x (List.mem_append_right _ hx)
    · intro hown x hx hc heq
      rcases List.mem_append.1 hx with hx | hx
      · exact hothers x hx (anchor_eq_iff.1 heq).1
      · exact hown x hx hc heq
  simp only [sectionBehind, hfree]
  split <;> rfl

theorem isSome_sectionBehind_append {h : Heading} {file : Text}
    (hothers : ∀ x ∈ others, x.2 ≠ file) :
    (sectionBehind (others ++ own) h file).isSome = (sectionBehind own h file).isSome := by
  have hmap := congrArg Option.isSome (sectionBehind_append own (h := h) hothers)
  rwa [Option.isSome_map, Option.isSome_map] at hmap

/-- The sections that headings of a file make do not depend on headings of other files, but for
their numbers. -/
theorem sectionsBehind_append_others {hs : List (Heading × Text)}
    (hothers : ∀ x ∈ others, ∀ y ∈ hs, x.2 ≠ y.2) :
    (sectionsBehind (others ++ own) hs).map Section.unnumbered =
      (sectionsBehind own hs).map Section.unnumbered := by
  induction hs generalizing own with
  | nil => rfl
  | cons y hs ih =>
    obtain ⟨h, file⟩ := y
    have hhead := sectionBehind_append own (h := h) fun x hx => hothers x hx _ List.mem_cons_self
    have hrest := ih (own ++ [(h, file)]) fun x hx y hy =>
      hothers x hx y (List.mem_cons_of_mem _ hy)
    simp only [sectionsBehind, List.map_append, ← Option.toList_map, hhead,
      List.append_assoc, hrest]

end

/-! ## What is said about headings -/

/-- Whether a finding with this code is about a heading. -/
def Code.isOfHeading : Code → Bool
  | .sectionConstructError | .headingDepth | .duplicateAnchor => true
  | _ => false

theorem Heading.isOfHeading_refusal (h : Heading) (file : Text) :
    (h.refusal file).1.isOfHeading = true := by
  rw [refusal]
  split
  · rfl
  · split
    · rfl
    · split <;> rfl

/-- Of what is said at a paragraph, that which is about a heading is told from the section that it
makes. -/
theorem filter_findingsAt (language outer : Text) (before : List (Text × Paragraph))
    (x : Text × Paragraph) :
    (findingsAt language outer before x).filter (fun d => d.code.isOfHeading) =
      match x.2 with
      | .heading h =>
        if (sectionBehind (headingsAmong before) h (Path.name x.1)).isSome then []
        else [Location.error ⟨Pass.shownPath outer x.1, h.line, none⟩ (h.refusal (Path.name x.1))]
      | _ => [] := by
  obtain ⟨path, b⟩ := x
  cases b with
  | heading h =>
    simp only [findingsAt]
    split
    · rfl
    · exact List.filter_eq_self.2 fun d hd => by
        rw [List.mem_singleton.1 hd]
        exact h.isOfHeading_refusal _
  | code l text line =>
    rw [List.filter_eq_nil_iff]
    intro d hd
    simp only [findingsAt] at hd
    split at hd
    · cases hread : Notation.read text (Path.name path) with
      | ok ps =>
        rw [hread] at hd
        obtain ⟨n, -, rfl⟩ := List.mem_map.1 hd
        exact Bool.false_ne_true
      | error f =>
        rw [hread] at hd
        rw [List.mem_singleton.1 hd]
        exact Bool.false_ne_true
    · cases hd
  | list => rfl
  | other => rfl

theorem headingsAmong_append (xs ys : List (Text × Paragraph)) :
    headingsAmong (xs ++ ys) = headingsAmong xs ++ headingsAmong ys := List.filterMap_append

/-- What is said about the headings of a file does not depend on paragraphs of other files. -/
theorem filter_behind_findingsAt_append {language outer : Text}
    {others xs : List (Text × Paragraph)} (own : List (Text × Paragraph))
    (hothers : ∀ x ∈ others, ∀ y ∈ xs, Path.name x.1 ≠ Path.name y.1) :
    (behind (findingsAt language outer) (others ++ own) xs).filter (fun d => d.code.isOfHeading) =
      (behind (findingsAt language outer) own xs).filter fun d => d.code.isOfHeading := by
  induction xs generalizing own with
  | nil => rfl
  | cons y xs ih =>
    have hfiles : ∀ x ∈ headingsAmong others, x.2 ≠ Path.name y.1 := by
      intro x hx
      obtain ⟨z, hz, hx⟩ := List.mem_filterMap.1 hx
      obtain ⟨h, -, rfl⟩ := Option.map_eq_some_iff.1 hx
      exact hothers z hz y List.mem_cons_self
    rw [behind, behind, List.filter_append, List.filter_append, List.append_assoc,
      ih _ fun x hx z hz => hothers x hx z (List.mem_cons_of_mem _ hz), filter_findingsAt,
      filter_findingsAt]
    simp only [headingsAmong_append, isSome_sectionBehind_append _ hfiles]

/-! ## Shares -/

/-- What a run takes from the headings of one of its documents. -/
@[ext]
structure Share where
  document : Document
  /-- The sections that are accepted, without their numbers. -/
  accepted : List Section
  /-- What is said about the other headings. -/
  findings : List Diagnostic
  deriving DecidableEq

/-- The share of a document behind others: what a run that ends with it has beyond one that ends
before it. -/
def share (language : Text) (r : Reporter) (before : List Document) (d : Document) : Share where
  document := d
  accepted := ((buildModel language (before ++ [d]) r).1.sections.drop
    (buildModel language before r).1.sections.length).map Section.unnumbered
  findings := ((buildModel language (before ++ [d]) r).2.diagnostics.drop
    (buildModel language before r).2.diagnostics.length).filter fun x => x.code.isOfHeading

/-- The shares of documents, in order. -/
def shares (language : Text) (r : Reporter) (documents : List Document) : List Share :=
  behind (fun before d => [share language r before d]) [] documents

section

variable (language : Text) (r : Reporter) (before : List Document) (d : Document)

theorem paragraphsOf_append_singleton :
    paragraphsOf (before ++ [d]) = paragraphsOf before ++ d.located := by
  simp [paragraphsOf]

theorem headingsOf_append_singleton :
    headingsOf (before ++ [d]) = headingsOf before ++ d.headings := by
  simp [headingsOf]

theorem sections_buildModel_append_singleton :
    (buildModel language (before ++ [d]) r).1.sections =
      (buildModel language before r).1.sections ++
        sectionsBehind (headingsOf before) d.headings := by
  rw [sections_buildModel_eq, sections_buildModel_eq, headingsOf_append_singleton,
    sectionsBehind_append]

theorem diagnostics_buildModel_append_singleton :
    (buildModel language (before ++ [d]) r).2.diagnostics =
      (buildModel language before r).2.diagnostics ++
        behind (findingsAt language r.location.file) (paragraphsOf before) d.located := by
  rw [diagnostics_buildModel, diagnostics_buildModel, paragraphsOf_append_singleton, behind_append,
    List.nil_append, List.append_assoc]

theorem accepted_share :
    (share language r before d).accepted =
      (sectionsBehind (headingsOf before) d.headings).map Section.unnumbered := by
  rw [share, sections_buildModel_append_singleton, List.drop_left]

theorem findings_share :
    (share language r before d).findings =
      (behind (findingsAt language r.location.file) (paragraphsOf before) d.located).filter
        fun x => x.code.isOfHeading := by
  rw [share, diagnostics_buildModel_append_singleton, List.drop_left]

end

section

variable {language : Text} {r : Reporter} {before documents : List Document} {d : Document}

theorem name_of_mem_headingsOf {x : Heading × Text} (h : x ∈ headingsOf before) :
    ∃ b ∈ before, x.2 = b.name := by
  obtain ⟨b, hb, hx⟩ := List.mem_flatMap.1 h
  obtain ⟨k, -, rfl⟩ := List.mem_map.1 hx
  exact ⟨b, hb, rfl⟩

theorem path_of_mem_paragraphsOf {x : Text × Paragraph} (h : x ∈ paragraphsOf before) :
    ∃ b ∈ before, x.1 = b.path := by
  obtain ⟨b, hb, hx⟩ := List.mem_flatMap.1 h
  obtain ⟨p, -, rfl⟩ := List.mem_map.1 hx
  exact ⟨b, hb, rfl⟩

/-- Behind documents of other names, a run takes from a document what it takes from it alone. -/
theorem share_eq_alone (h : ∀ b ∈ before, b.name ≠ d.name) :
    share language r before d = share language r [] d := by
  have haccepted : (share language r before d).accepted = (share language r [] d).accepted := by
    rw [accepted_share, accepted_share, ← List.append_nil (headingsOf before)]
    refine sectionsBehind_append_others [] fun x hx y hy => ?_
    obtain ⟨b, hb, hx⟩ := name_of_mem_headingsOf hx
    obtain ⟨k, -, rfl⟩ := List.mem_map.1 hy
    exact hx ▸ h b hb
  have hfindings : (share language r before d).findings = (share language r [] d).findings := by
    rw [findings_share, findings_share, ← List.append_nil (paragraphsOf before)]
    refine filter_behind_findingsAt_append [] fun x hx y hy => ?_
    obtain ⟨b, hb, hx⟩ := path_of_mem_paragraphsOf hx
    obtain ⟨p, -, rfl⟩ := List.mem_map.1 hy
    exact hx ▸ h b hb
  exact Share.ext rfl haccepted hfindings

/-- Where all names differ, the shares are those of the documents alone. -/
theorem behind_share_eq_map (hnames : ((before ++ documents).map Document.name).Nodup) :
    behind (fun before d => [share language r before d]) before documents =
      documents.map (share language r []) := by
  induction documents generalizing before with
  | nil => rfl
  | cons d ds ih =>
    have hbefore : ∀ b ∈ before, b.name ≠ d.name := by
      rw [List.map_append, List.nodup_append'] at hnames
      exact fun b hb heq => hnames.2.2 (List.mem_map_of_mem hb)
        (heq ▸ List.mem_map_of_mem List.mem_cons_self)
    rw [List.append_cons] at hnames
    rw [behind, ih hnames, share_eq_alone hbefore]
    rfl

theorem shares_eq_map (hnames : (documents.map Document.name).Nodup) :
    shares language r documents = documents.map (share language r []) := by
  rw [shares]
  exact behind_share_eq_map hnames

end

/-- The shares of documents, laid end to end, are what a run takes from all headings. -/
theorem flatMap_shares (language : Text) (r : Reporter) (documents : List Document) :
    (shares language r documents).flatMap (·.accepted) =
        (buildModel language documents r).1.sections.map Section.unnumbered ∧
      r.diagnostics.filter (fun x => x.code.isOfHeading) ++
          (shares language r documents).flatMap (·.findings) =
        (buildModel language documents r).2.diagnostics.filter fun x => x.code.isOfHeading := by
  induction documents using List.reverseRecOn with
  | nil => exact ⟨rfl, by simp [shares, behind, diagnostics_buildModel, paragraphsOf]⟩
  | append_singleton ds d ih =>
    have hshares : shares language r (ds ++ [d]) =
        shares language r ds ++ [share language r ds d] := by
      rw [shares, behind_append, behind_singleton, List.nil_append, ← shares]
    simp only [hshares, List.flatMap_append, List.flatMap_singleton, ← List.append_assoc,
      ih.1, ih.2, accepted_share, findings_share, sections_buildModel_append_singleton,
      diagnostics_buildModel_append_singleton, List.map_append, List.filter_append, and_self]

/-- **Documents do not disturb each other's headings.**  Where the names of documents are distinct,
permuting them permutes the shares: from each document the same sections are accepted, but for
their numbers, and the same is said about its headings, each in the same order.  The shares, laid
end to end, are what the run takes from all headings. -/
theorem shares_perm (language : Text) (r : Reporter) {documents others : List Document}
    (hperm : documents.Perm others) (hnames : (documents.map Document.name).Nodup) :
    (shares language r documents).map (·.document) = documents ∧
    (shares language r documents).Perm (shares language r others) ∧
    (∀ ds, (shares language r ds).flatMap (·.accepted) =
        (buildModel language ds r).1.sections.map Section.unnumbered ∧
      r.diagnostics.filter (fun x => x.code.isOfHeading) ++
          (shares language r ds).flatMap (·.findings) =
        (buildModel language ds r).2.diagnostics.filter fun x => x.code.isOfHeading) := by
  have hothers : (others.map Document.name).Nodup := (hperm.map Document.name).nodup_iff.1 hnames
  refine ⟨?_, ?_, fun ds => flatMap_shares language r ds⟩
  · rw [shares_eq_map hnames, List.map_map]
    exact List.map_id documents
  · rw [shares_eq_map hnames, shares_eq_map hothers]
    exact hperm.map _

/-- A document whose name holds a number sign, so that its anchors begin as those of another
document do. -/
def markedDocument : Document where
  path := "d/a.md#one".toList
  paragraphs := [.heading { level := 2, text := "One".toList, line := some 1 },
    .heading { level := 5, text := "Deep".toList, line := some 3 }]

/-- A document that repeats a heading. -/
def repeatingDocument : Document where
  path := "a.md".toList
  paragraphs := [.heading { level := 1, text := "One".toList, line := some 1 },
    .heading { level := 1, text := "One!".toList, line := some 2 }]

theorem shares_perm_marked :
    (shares [] (Reporter.new []) [markedDocument, repeatingDocument]).map
        (fun s => (s.accepted.map (·.anchor), s.findings.map (·.code))) =
      [(["a.md#one#one".toList], [.headingDepth]), (["a.md#one".toList], [.duplicateAnchor])] ∧
    (shares [] (Reporter.new []) [markedDocument, repeatingDocument]).Perm
      (shares [] (Reporter.new []) [repeatingDocument, markedDocument]) :=
  ⟨by decide +kernel,
    (shares_perm [] (Reporter.new []) (List.Perm.swap repeatingDocument markedDocument [])
      (by decide +kernel)).2.1⟩

end Concordance
