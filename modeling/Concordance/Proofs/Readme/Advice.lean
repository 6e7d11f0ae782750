import Concordance.Proofs.Index.Invariant
import Concordance.Proofs.Index.Numbers
import Concordance.Proofs.Readme.Convergence
import Concordance.Proofs.Readme.Listing

/-!
# Reading the advice back

An index document that lists the headings as the plan would have them inserted is read back.  Each
line is an entry for its heading, but its anchor has been encoded on the way: the entry is found
among the headings exactly if the slug of its title holds none but the first 128 characters.

* `planFrom_rows`: entries that carry the anchors of the headings ask for no edits.
* `position?_of_not_isPlain` and `removal_mem_planFrom`: any other entry is to be removed.
* The last theorem puts them together for the headings of any documents.
-/

namespace Concordance.Readme

open Text Markdown

/-! ## The plan -/

section

variable {headings : List Section}

/-- Entries that list the headings in order, each with its anchor, ask for nothing. -/
theorem planFrom_rows (hkeys : (headings.map fun h => (h.level, h.anchor)).Nodup)
    (hanchors : ∀ h ∈ headings, linkAnchor h.anchor = h.anchor) (file : Text) {rows : List Row}
    (hplain : ∀ r ∈ rows, r.href = r.heading.anchor) {expected : Nat}
    (hrows : rows.map Row.heading = headings.drop expected) :
    planFrom headings expected (rows.map (Row.entry file)) = [] := by
  induction rows generalizing expected with
  | nil => rfl
  | cons r rows ih =>
    have hlt : expected < headings.length := by
      refine Nat.lt_of_not_le fun hle => ?_
      rw [List.drop_eq_nil_of_le hle] at hrows
      exact absurd hrows (List.cons_ne_nil _ _)
    rw [List.drop_eq_getElem_cons hlt, List.map_cons] at hrows
    obtain ⟨hhead, htail⟩ := List.cons.inj hrows
    have hentry : r.entry file = Entry.listing (r.entry file).location headings[expected] := by
      rw [← hhead, Entry.listing, ← hplain r List.mem_cons_self]
      rfl
    have hposition : position? headings (r.entry file) = some expected := by
      rw [hentry]
      exact position?_listing hkeys hanchors hlt _
    rw [List.map_cons, planFrom_cons_expected hposition]
    exact ih (fun r' hr' => hplain r' (List.mem_cons_of_mem _ hr')) htail

/-- An entry that lists no heading is to be removed. -/
theorem removal_mem_planFrom {e : Entry} (he : position? headings e = none) {es : List Entry}
    (hmem : e ∈ es) (expected : Nat) : removal e ∈ planFrom headings expected es := by
  induction es generalizing expected with
  | nil => exact absurd hmem List.not_mem_nil
  | cons e' es ih =>
    rcases List.mem_cons.1 hmem with rfl | hmem
    · rw [planFrom, he]
      exact List.mem_cons_self
    · rw [planFrom]
      split
      · exact List.mem_cons_of_mem _ (ih hmem _)
      · split
        · exact ih hmem _
        · exact List.mem_append_right _ (ih hmem _)

end

/-- Without headings nothing is checked; otherwise nothing is reported if nothing is planned. -/
theorem reconcile_eq_iff (sections : List Section) (es : List Entry) (r : Reporter) :
    reconcile sections es r = ([], r) ↔
      bodyHeadings sections = [] ∨ plan (bodyHeadings sections) es = [] := by
  rw [reconcile]
  split
  · rename_i hnone
    simp [hnone]
  · rename_i hsome
    constructor
    · exact fun h => Or.inr (Prod.mk.inj h).1
    · rintro (hnone | hplan)
      · exact absurd hnone hsome
      · rw [hplan]
        rfl

/-! ## Slugs -/

/-- The slug of the heading holds none but the first 128 characters. -/
def Row.IsPlain (r : Row) : Prop := ∀ c ∈ slug r.heading.title, c.toNat < 128

theorem Row.IsPlain.href_eq {r : Row} (h : r.IsPlain) : r.href = r.heading.anchor := by
  rw [Row.href, Url.writtenAnchor, Url.encode_slug_of_plain h, r.listable.anchor, anchor_eq_append]

theorem IsListable.linkAnchor_eq {s : Section} (h : IsListable s) :
    linkAnchor s.anchor = s.anchor := by
  rw [h.anchor, anchor_eq_append, linkAnchor_document h.file h.slug_ne]

/-- The link of any other heading lists no heading at all. -/
theorem position?_of_not_isPlain {headings : List Section} (hlist : ∀ s ∈ headings, IsListable s)
    {r : Row} (h : ¬ r.IsPlain) (file : Text) : position? headings (r.entry file) = none := by
  simp only [Row.IsPlain, not_forall, Nat.not_lt] at h
  obtain ⟨c, hc, hge⟩ := h
  have hpercent : '%' ∈ Url.encode (slug r.heading.title) := Url.percent_mem_encode_slug hc hge
  have hlink : linkAnchor r.href = r.href :=
    linkAnchor_document r.listable.file (List.ne_nil_of_mem hpercent)
  rw [position?, List.findIdx?_eq_none_iff]
  intro s hs
  have hanchor : s.anchor ≠ r.href := by
    intro heq
    have hmem : '%' ∈ s.anchor := by
      rw [heq, Row.href, Url.writtenAnchor]
      exact List.mem_append_right _ (List.mem_cons_of_mem _ hpercent)
    rw [(hlist s hs).anchor] at hmem
    exact (isAnchorChar_of_mem_anchor (hlist s hs).file hmem).ne (by decide) (by decide) rfl
  simp [Row.entry, hlink, hanchor]

/-! ## Headings of documents -/

/-- No two headings of documents share level and anchor. -/
theorem nodup_keys (hs : List (Heading × Text)) :
    ((bodyHeadings (Index.after hs).sections).map fun h => (h.level, h.anchor)).Nodup := by
  refine List.Nodup.of_map Prod.snd ?_
  rw [List.map_map]
  exact (Index.consistent_after hs).nodup.sublist ((List.filter_sublist).map _)

section

variable {documents : List Document} (hnames : ∀ d ∈ documents, IsDocumentName d.name)
  (htitles : ∀ x ∈ headingsOf documents, IsTitle x.1.text)

include hnames htitles

/-- The headings of the first two levels can be listed. -/
theorem isListable_of_mem {s : Section}
    (hs : s ∈ bodyHeadings (Index.after (headingsOf documents)).sections) : IsListable s := by
  obtain ⟨hmem, hlevel⟩ := List.mem_filter.1 hs
  obtain ⟨before, h, file, rest, heq, haccepted⟩ := Index.exists_accepted hmem
  obtain ⟨hcounted, rfl⟩ := Index.numbered_of_accepted haccepted
  obtain ⟨hfault, hleast, -⟩ := h.isCounted_iff.1 hcounted
  have hx : (h, file) ∈ headingsOf documents := by
    rw [heq]
    simp
  have hfile : IsDocumentName file := by
    obtain ⟨d, hd, hx⟩ := List.mem_flatMap.1 hx
    obtain ⟨h', -, heq⟩ := List.mem_map.1 hx
    exact (Prod.mk.inj heq).2 ▸ hnames d hd
  have hslug : slug h.text ≠ [] := by
    intro hempty
    simp only [Heading.fault?, hempty] at hfault
    split at hfault
    · exact absurd hfault (by simp)
    · split at hfault <;> exact absurd hfault (by simp)
  have hne : h.text ≠ [] := by
    intro hempty
    rw [hempty] at hslug
    exact hslug rfl
  have hlevels : h.level = 1 ∨ h.level = 2 := by
    have hmost : h.level ≤ 2 := of_decide_eq_true hlevel
    omega
  exact ⟨hlevels, htitles _ hx, hne, hslug, hfile, rfl⟩

/-- **Reading the advice back.**  Let the index document hold a line for each heading of the first
two levels, as the plan would have it inserted.  All its lines are read as entries, and nothing is
reported about them exactly if the slugs hold none but the first 128 characters: a slug with any
other is encoded when the page is made, and the entry is then to be removed. -/
theorem reconcile_listing (language : Text) (r r' : Reporter) (file : Text)
    (hfirst : ∀ s ∈ (bodyHeadings (buildModel language documents r).1.sections).head?, s.level = 1)
    (hfew : (bodyHeadings (buildModel language documents r).1.sections).length < 10 ^ maxDigits)
    {tail : List Text} (htail : tail = [] ∨ tail = [[]]) :
    ∃ es, entries (unlines (listing (bodyHeadings (buildModel language documents r).1.sections) ++
      tail)) file ".md".toList = .ok es ∧
      (reconcile (buildModel language documents r).1.sections es r' = ([], r') ↔
        ∀ s ∈ bodyHeadings (buildModel language documents r).1.sections,
          ∀ c ∈ slug s.title, c.toNat < 128) := by
  rw [sections_buildModel] at *
  have hlist : ∀ s ∈ bodyHeadings (Index.after (headingsOf documents)).sections, IsListable s :=
    fun s hs => isListable_of_mem hnames htitles hs
  obtain ⟨rows, hrows, hentries⟩ := entries_listing hlist hfirst hfew htail file
  refine ⟨rows.map (Row.entry file), hentries, ?_⟩
  have hanchors : ∀ s ∈ bodyHeadings (Index.after (headingsOf documents)).sections,
      linkAnchor s.anchor = s.anchor := fun s hs => (hlist s hs).linkAnchor_eq
  rw [reconcile_eq_iff]
  constructor
  · rintro hnothing s hs
    obtain ⟨row, hrow, rfl⟩ := List.mem_map.1 (hrows ▸ hs)
    refine Classical.not_not.1 fun hplain => ?_
    have hremoval := removal_mem_planFrom (position?_of_not_isPlain hlist hplain file)
      (List.mem_map_of_mem hrow) 0
    rcases hnothing with hnone | hplan
    · rw [hnone] at hs
      exact absurd hs List.not_mem_nil
    · rw [plan] at hplan
      rw [hplan] at hremoval
      exact absurd hremoval List.not_mem_nil
  · intro hplain
    refine Or.inr (planFrom_rows (nodup_keys _) hanchors file (fun row hrow => ?_) hrows)
    exact Row.IsPlain.href_eq (hplain row.heading (hrows ▸ List.mem_map_of_mem hrow))

end

/-- A document with two headings whose slugs are plain. -/
def guide : Document :=
  ⟨"guide.md".toList, [.heading { level := 1, text := "Start here".toList },
    .heading { level := 2, text := "Part 2".toList }]⟩

/-- The lines for the two headings of the guide are read back without a report. -/
theorem reconcile_listing_guide :
    (bodyHeadings (buildModel "antlr".toList [guide] .new).1.sections).length = 2 ∧
      ∃ es, entries (unlines (listing
          (bodyHeadings (buildModel "antlr".toList [guide] .new).1.sections) ++ [[]]))
          "README.md".toList ".md".toList = .ok es ∧
        reconcile (buildModel "antlr".toList [guide] .new).1.sections es .new = ([], .new) := by
  have hnames : ∀ d ∈ [guide], IsDocumentName d.name := by
    intro d hd
    rw [List.mem_singleton.1 hd]
    exact .of_all (show ("guide".toList.all Char.isAlpha) = true by decide +kernel)
  have htitles : ∀ x ∈ headingsOf [guide], IsTitle x.1.text := by
    rintro x (_ | ⟨_, _ | ⟨_, ⟨⟩⟩⟩)
    · exact .of_all (show (["Start".toList, "here".toList].all _) = true by decide +kernel)
    · exact .of_all (show (["Part".toList, "2".toList].all _) = true by decide +kernel)
  have hlength :
      (bodyHeadings (buildModel "antlr".toList [guide] .new).1.sections).length = 2 := by
    decide +kernel
  have hfew : (bodyHeadings (buildModel "antlr".toList [guide] .new).1.sections).length <
      10 ^ maxDigits := by
    rw [hlength]
    exact Nat.lt_of_lt_of_le (by decide) (Nat.le_self_pow (by decide) 10)
  have hplain : ((bodyHeadings (buildModel "antlr".toList [guide] .new).1.sections).all fun s =>
      (slug s.title).all fun c => c.toNat < 128) = true := by decide +kernel
  obtain ⟨es, hes, hreport⟩ := reconcile_listing hnames htitles "antlr".toList .new .new
    "README.md".toList (by decide +kernel) hfew (Or.inr rfl)
  refine ⟨hlength, es, hes, hreport.2 fun s hs c hc => ?_⟩
  exact of_decide_eq_true (List.all_eq_true.1 (List.all_eq_true.1 hplain s hs) c hc)

/-- The line for a title with an umlaut is the one that the plan asks for, and is to be removed
when it is read back. -/
theorem reconcile_listing_umlaut :
    ∃ documents : List Document, ∃ es,
      documents = [Document.read "a.md".toList "# Über\n".toList] ∧
      (∀ d ∈ documents, IsDocumentName d.name) ∧
      (∀ x ∈ headingsOf documents, IsTitle x.1.text) ∧
      (∀ s ∈ (bodyHeadings (buildModel "antlr".toList documents .new).1.sections).head?,
        s.level = 1) ∧
      entries
        (unlines (listing (bodyHeadings (buildModel "antlr".toList documents .new).1.sections)))
        "README.md".toList ".md".toList = .ok es ∧
      (reconcile (buildModel "antlr".toList documents .new).1.sections es .new).1.map Edit.link =
        ["* [Über](a.md#%C3%BCber)".toList] := by
  refine ⟨[⟨"a.md".toList, [.heading { level := 1, text := "Über".toList, line := some 1 }]⟩],
    [⟨1, "Über".toList, "a.md#%C3%BCber".toList, { file := "README.md".toList, line := some 1 }⟩],
    by decide +kernel, ?_, ?_, by decide +kernel, ?_, by decide +kernel⟩
  · intro d hd
    rw [List.mem_singleton.1 hd]
    exact .of_all (show ("a".toList.all Char.isAlpha) = true by decide +kernel)
  · rintro x (_ | ⟨_, ⟨⟩⟩)
    exact .of_all (show (["Über".toList].all _) = true by decide +kernel)
  · decide +kernel

end Concordance.Readme
