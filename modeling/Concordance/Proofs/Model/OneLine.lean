import Concordance.Proofs.Markdown.Titles
import Concordance.Proofs.Model.Findings

/-!
# Findings on one line

What the pass over documents reports is shown on one line each, if the paths of the documents are.
Text of the documents comes into a finding in four ways, and none lets a line break in: titles have
single spaces between their words, slugs are made of letters, digits and hyphens, the names of
productions are tokens, and a fault of a fragment is told by its place only.

* `Diagnostic.isLine_render`: what a diagnostic is shown as is a line if and only if its parts are.
* `isShowable_of_mem_sectionsBehind`: the sections of headings that are fit to be shown.
* `isLine_of_mem_findingsAt` is the step, `isLine_of_mem_findings` the run.
-/

namespace Concordance

open Text

/-! ## Parts of a diagnostic -/

theorem Location.isLine_render (l : Location) :
    IsLine l.render ↔ IsLine l.file ∧ ∀ s ∈ l.label, IsLine s := by
  obtain ⟨file, line, label⟩ := l
  have hnil : IsLine [] := by decide
  rcases line with _ | n <;> rcases label with _ | _ | ⟨c, s⟩ <;>
    simp [Location.render, isLine_append, isLine_cons, isLine_ofInt, hnil]

theorem Severity.isLine_name (s : Severity) : IsLine s.name := by
  cases s <;> decide

theorem Code.isLine_name (c : Code) : IsLine c.name := by
  cases c <;> decide

/-- A diagnostic is shown on one line if and only if its file, its label and its message are
lines. -/
theorem Diagnostic.isLine_render (d : Diagnostic) :
    IsLine d.render ↔ (IsLine d.location.file ∧ ∀ s ∈ d.location.label, IsLine s) ∧
      IsLine d.message := by
  have hcolon : IsLine ": ".toList := by decide
  have hspace : IsLine [' '] := by decide
  simp only [Diagnostic.render, isLine_append, Location.isLine_render, hcolon, hspace,
    d.severity.isLine_name, d.code.isLine_name, and_true]

/-! ## Headings -/

theorem mem_insertText {t u : Text} {us : List Text} (h : t ∈ insertText u us) :
    t = u ∨ t ∈ us := by
  induction us with
  | nil => exact Or.inl (List.mem_singleton.1 h)
  | cons v vs ih =>
    rw [insertText] at h
    split at h
    · exact Or.inr h
    split at h
    · exact List.mem_cons.1 h
    · rcases List.mem_cons.1 h with rfl | h
      · exact Or.inr List.mem_cons_self
      · exact (ih h).imp_right (List.mem_cons_of_mem v)

theorem mem_sortTexts {t : Text} {ts : List Text} (h : t ∈ sortTexts ts) : t ∈ ts := by
  induction ts using List.reverseRecOn with
  | nil => exact h
  | append_singleton ts u ih =>
    rw [sortTexts, List.foldl_append] at h
    rcases mem_insertText h with rfl | h
    · exact List.mem_append_right _ List.mem_cons_self
    · exact List.mem_append_left _ (ih h)

theorem HeadingFault.isLine_message {h : Heading} {f : HeadingFault} (hh : h.IsShowable)
    (hf : h.fault? = some f) : IsLine f.message := by
  rw [Heading.fault?] at hf
  split at hf
  · obtain rfl := Option.some.inj hf
    have hlead : IsLine "Unsupported content in heading: ".toList := by decide
    have hcomma : IsLine ", ".toList := by decide
    exact isLine_append.2 ⟨hlead,
      isLine_joinWith hcomma fun k hk => hh.unsupported k (mem_sortTexts hk)⟩
  split at hf
  · obtain rfl := Option.some.inj hf
    decide
  split at hf
  · obtain rfl := Option.some.inj hf
    have hlead : IsLine "Cannot derive an anchor from heading '".toList := by decide
    exact isLine_append.2 ⟨isLine_append.2 ⟨hlead, hh.text⟩, by decide⟩
  · cases hf

/-- What is said about a heading that is fit to be shown, but is not accepted. -/
theorem Heading.isLine_refusal {h : Heading} (hh : h.IsShowable) {file : Text}
    (hfile : IsLine file) :
    IsLine (h.refusal file).2 := by
  rw [Heading.refusal]
  split
  · rename_i f hf
    exact HeadingFault.isLine_message hh hf
  · rw [if_neg (Int.not_lt.2 hh.level)]
    split
    · decide
    · have hlead : IsLine "Duplicate section title ".toList := by decide
      exact isLine_append.2 ⟨hlead, isLine_anchor h.text hfile⟩

/-! ## Sections -/

/-- A section that is fit to be shown. -/
structure Section.IsShowable (s : Section) : Prop where
  number : IsLine s.number
  title : IsLine s.title
  anchor : IsLine s.anchor

theorem Section.IsShowable.label {s : Section} (h : s.IsShowable) : IsLine s.label :=
  isLine_append.2 ⟨isLine_append.2 ⟨h.number, by decide⟩, h.title⟩

theorem isShowable_of_sectionBehind {before : List (Heading × Text)} {h : Heading} {file : Text}
    {s : Section} (hh : h.IsShowable) (hfile : IsLine file)
    (hs : sectionBehind before h file = some s) : s.IsShowable := by
  rw [sectionBehind, Option.ite_none_right_eq_some, Option.some_inj] at hs
  obtain ⟨-, rfl⟩ := hs
  refine ⟨isLine_joinWith (by decide) fun p hp => ?_, hh.text, isLine_anchor h.text hfile⟩
  obtain ⟨k, -, rfl⟩ := List.mem_map.1 hp
  exact isLine_ofInt _

theorem isShowable_of_mem_sectionsBehind {before hs : List (Heading × Text)} {s : Section}
    (h : ∀ x ∈ hs, x.1.IsShowable ∧ IsLine x.2)
    (hmem : s ∈ sectionsBehind before hs) : s.IsShowable := by
  induction hs generalizing before with
  | nil => cases hmem
  | cons x hs ih =>
    obtain ⟨⟨hh, hfile⟩, hhs⟩ := List.forall_mem_cons.1 h
    rcases List.mem_append.1 hmem with hmem | hmem
    · exact isShowable_of_sectionBehind hh hfile (Option.mem_toList.1 hmem)
    · exact ih hhs hmem

/-! ## Productions -/

namespace Notation

/-- The name of a production that has been read is a token. -/
theorem isLine_name_of_mem_read {t source n : Text} {g : Grammar} {p : Production}
    (h : read t source = .ok g) (hp : p ∈ g) (hname : p.name = some n) : IsLine n := by
  obtain ⟨r, w, rfl⟩ := exists_tokens_of_mem_read h hp (by rw [hname]; rfl)
  obtain rfl := Option.some.inj hname
  obtain ⟨c, v, hv, hc, hall⟩ := r.name_matches
  rw [hv]
  refine isLine_cons.2 ⟨⟨?_, ?_⟩, isLine_of_all (p := isNameChar) (by decide) (by decide) hall⟩
  · rintro rfl
    exact absurd hc (by decide)
  · rintro rfl
    exact absurd hc (by decide)

theorem source_of_read {t source : Text} {f : Fault} (h : read t source = .error f) :
    f.source = source := by
  rw [read] at h
  split at h
  · obtain rfl := Except.error.inj h
    rfl
  · obtain rfl := Except.error.inj h
    rfl
  · cases h

/-- A fault is told by its place: the text that it stands in is named and not quoted. -/
theorem Fault.isLine_message {f : Fault} (hf : IsLine f.source) : IsLine f.message := by
  have hcolon : IsLine ": ".toList := by decide
  have hline : IsLine "invalid grammar notation at line ".toList := by decide
  have hcolumn : IsLine ", column ".toList := by decide
  have hsource : IsLine (if f.source.isEmpty then [] else f.source ++ ": ".toList) := by
    split
    · decide
    · exact isLine_append.2 ⟨hf, hcolon⟩
  simp only [Fault.message, isLine_append, hsource, hline, hcolumn, isLine_ofInt, and_true]

end Notation

theorem isLine_name_of_mem_productionsAt {language n : Text} {before : List (Text × Paragraph)}
    {x : Text × Paragraph} {p : Production} (hp : p ∈ productionsAt language before x)
    (hname : p.name = some n) : IsLine n := by
  rw [productionsAt] at hp
  split at hp
  · split at hp
    · split at hp
      · rename_i hread
        obtain ⟨q, hq, rfl⟩ := List.mem_map.1 hp
        exact Notation.isLine_name_of_mem_read hread hq hname
      · cases hp
    · cases hp
  · cases hp

/-! ## The pass -/

/-- A paragraph whose path is a line and which, if it is a heading, is fit to be shown. -/
structure IsShowableAt (x : Text × Paragraph) : Prop where
  path : IsLine x.1
  path_ne : x.1 ≠ []
  heading : ∀ h, x.2 = .heading h → h.IsShowable

theorem isShowable_of_mem_headingsAmong {xs : List (Text × Paragraph)}
    (h : ∀ x ∈ xs, IsShowableAt x) :
    ∀ y ∈ headingsAmong xs, y.1.IsShowable ∧ IsLine y.2 := by
  intro y hy
  obtain ⟨⟨path, b⟩, hx, hy⟩ := List.mem_filterMap.1 hy
  obtain ⟨hh, hb, rfl⟩ := Option.map_eq_some_iff.1 hy
  have hshow := h _ hx
  cases b with
  | heading g =>
    obtain rfl := Option.some.inj hb
    exact ⟨hshow.heading _ rfl, Path.isLine_name hshow.path⟩
  | _ => cases hb

theorem isLine_label_sectionBehindAll {before : List (Text × Paragraph)}
    (h : ∀ x ∈ before, IsShowableAt x) :
    ∀ l ∈ (sectionBehindAll before).map Section.label, IsLine l := by
  intro l hl
  obtain ⟨s, hs, rfl⟩ := Option.map_eq_some_iff.1 hl
  exact (isShowable_of_mem_sectionsBehind (isShowable_of_mem_headingsAmong h)
    (List.mem_of_getLast? hs)).label

/-- What is reported at a paragraph is shown on one line. -/
theorem isLine_of_mem_findingsAt {language outer : Text} {before : List (Text × Paragraph)}
    {x : Text × Paragraph} {d : Diagnostic} (hbefore : ∀ y ∈ before, IsShowableAt y)
    (hx : IsShowableAt x) (hd : d ∈ findingsAt language outer before x) : IsLine d.render := by
  have hpath : Pass.shownPath outer x.1 = x.1 := if_neg hx.path_ne
  have hname : IsLine (Path.name x.1) := Path.isLine_name hx.path
  rw [findingsAt] at hd
  split at hd
  · rename_i h hh
    split at hd
    · cases hd
    · obtain rfl := List.mem_singleton.1 hd
      rw [Diagnostic.isLine_render, hpath]
      exact ⟨⟨hx.path, by rintro _ ⟨⟩⟩, Heading.isLine_refusal (hx.heading h hh) hname⟩
  · rename_i l text line hcode
    dsimp only at hd
    have hlabel := isLine_label_sectionBehindAll hbefore
    split at hd
    · split at hd
      · obtain ⟨n, hn, rfl⟩ := List.mem_map.1 hd
        obtain ⟨prior, p, later, hsplit, hn⟩ := mem_behind hn
        have hp : p ∈ productionsAt language before x :=
          hsplit ▸ List.mem_append_right _ List.mem_cons_self
        obtain ⟨hname, -⟩ := Option.filter_eq_some_iff.1 (Option.mem_toList.1 hn)
        have hlead : IsLine "Duplicate grammar for ".toList := by decide
        rw [Diagnostic.isLine_render, Location.repeated, hpath]
        exact ⟨⟨hx.path, hlabel⟩,
          isLine_append.2 ⟨hlead, isLine_name_of_mem_productionsAt hp hname⟩⟩
      · rename_i f hf
        obtain rfl := List.mem_singleton.1 hd
        rw [Diagnostic.isLine_render, hpath]
        have hsource : IsLine f.source := (Notation.source_of_read hf).symm ▸ hname
        exact ⟨⟨hx.path, hlabel⟩, Notation.Fault.isLine_message hsource⟩
    · cases hd
  · cases hd

theorem isLine_of_mem_findings {language outer : Text} {xs : List (Text × Paragraph)}
    (h : ∀ x ∈ xs, IsShowableAt x) {d : Diagnostic}
    (hd : d ∈ behind (findingsAt language outer) [] xs) : IsLine d.render := by
  obtain ⟨before, x, rest, rfl, hat⟩ := mem_behind hd
  rw [List.nil_append] at hat
  have hx : x ∈ before ++ x :: rest := List.mem_append_right _ List.mem_cons_self
  exact isLine_of_mem_findingsAt (fun y hy => h y (List.mem_append_left _ hy)) (h x hx) hat

/-! ## Documents -/

/-- Whatever is written in a document, its paragraphs are fit to be shown if its path is. -/
theorem isShowableAt_of_mem_read {path text : Text} (hpath : IsLine path) (hne : path ≠ [])
    {x : Text × Paragraph} (hx : x ∈ (Document.read path text).located) : IsShowableAt x := by
  obtain ⟨b, hb, rfl⟩ := List.mem_map.1 hx
  refine ⟨hpath, hne, fun h hh => ?_⟩
  obtain rfl : b = .heading h := hh
  exact Markdown.isShowable_of_mem_outline hb

section

variable {language : Text} {documents : List Document}

theorem isShowable_of_mem_sections
    (h : ∀ x ∈ paragraphsOf documents, IsShowableAt x) (r : Reporter) :
    ∀ s ∈ (buildModel language documents r).1.sections, s.IsShowable := by
  rw [buildModel_eq, Pass.index_along_empty, Index.sections_after]
  exact fun s hs => isShowable_of_mem_sectionsBehind (isShowable_of_mem_headingsAmong h) hs

theorem isLine_name_of_mem_grammar (r : Reporter) {p : Production} {n : Text}
    (hp : p ∈ (buildModel language documents r).1.grammar)
    (hname : p.name = some n) : IsLine n := by
  rw [grammar_buildModel] at hp
  obtain ⟨before, x, -, -, hp⟩ := mem_behind hp
  exact isLine_name_of_mem_productionsAt hp hname

end

end Concordance
