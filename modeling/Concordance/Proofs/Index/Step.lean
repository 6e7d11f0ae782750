import Concordance.Index

/-!
# One heading

What the index makes of one heading.  A heading is *counted* if its content makes a title and its
level is a level of a section.

* `add_of_not_isCounted`: a heading that is not counted leaves the index alone.
* `add_of_taken`: a counted heading whose anchor is taken advances the counters, and that is all.
* `add_of_free`: any other counted heading becomes the last section, numbered by the counters that
  have counted it.
-/

namespace Concordance

/-! ## Counted headings -/

/-- Whether the content of a heading makes a title and its level is a level of a section. -/
def Heading.isCounted (h : Heading) : Bool :=
  h.fault?.isNone && decide (1 ≤ h.level) && decide (h.level ≤ maxLevel)

/-- The section that a heading makes, whatever its level. -/
def Heading.numbered (h : Heading) (c : Counters) (file : Text) : Section :=
  { level := h.level
    number := c.number h.level
    title := h.text
    anchor := anchor h.text file
    sourceFile := file }

theorem Heading.isCounted_iff (h : Heading) :
    h.isCounted = true ↔ h.fault? = none ∧ 1 ≤ h.level ∧ h.level ≤ maxLevel := by
  simp [isCounted, and_assoc]

theorem Heading.section_of_levels {h : Heading} (h1 : 1 ≤ h.level) (h4 : h.level ≤ maxLevel)
    (c : Counters) (file : Text) : h.section c file = .ok (h.numbered c file) := by
  have hcheck : checkLevel h.level (some maxLevel) = .ok () := by
    rw [checkLevel, if_neg (by omega)]
    exact if_neg (by omega)
  simp only [Heading.section, Section.validate, hcheck]
  rfl

theorem Heading.section_of_lt {h : Heading} (h1 : h.level < 1) (c : Counters) (file : Text) :
    h.section c file = .error .tooSmall := by
  simp only [Heading.section, Section.validate, checkLevel, if_pos h1]
  rfl

/-- Only the levels of sections are counted. -/
theorem Counters.advance_of_lt (c : Counters) {level : Int} (h : level < 1) :
    c.advance level = c := by
  rw [Counters.advance]
  all_goals omega

namespace Index

variable (i : Index) {h : Heading} (file : Text)

/-- The index after one more heading of a file. -/
def add (h : Heading) (file : Text) : Index := i.apply h (i.judge h file)

theorem add_of_not_isCounted (hc : h.isCounted = false) : i.add h file = i := by
  rw [add, judge]
  cases hf : h.fault? with
  | some f => rfl
  | none =>
    by_cases h4 : h.level > maxLevel
    · simp only [h4, if_true, apply]
    · have h1 : h.level < 1 := by
        refine Int.not_le.1 fun h1 => ?_
        rw [h.isCounted_iff.2 ⟨hf, h1, by omega⟩] at hc
        exact absurd hc (by decide)
      simp only [h4, if_false, Heading.section_of_lt h1, apply, Counters.advance_of_lt _ h1]

/-- A counted heading is judged by its anchor alone. -/
theorem judge_of_isCounted (hc : h.isCounted = true) :
    i.judge h file =
      if anchor h.text file ∈ i.anchors then
        .duplicate (h.numbered (i.counters.advance h.level) file)
      else .accepted (h.numbered (i.counters.advance h.level) file) := by
  obtain ⟨hf, h1, h4⟩ := h.isCounted_iff.1 hc
  rw [judge, hf]
  simp only [show ¬ h.level > maxLevel by omega, if_false, Heading.section_of_levels h1 h4]
  rfl

theorem add_of_taken (hc : h.isCounted = true) (ha : anchor h.text file ∈ i.anchors) :
    i.add h file = { i with counters := i.counters.advance h.level } := by
  rw [add, judge_of_isCounted i file hc, if_pos ha, apply]

theorem add_of_free (hc : h.isCounted = true) (ha : anchor h.text file ∉ i.anchors) :
    i.add h file =
      { counters := i.counters.advance h.level
        sections := i.sections ++ [h.numbered (i.counters.advance h.level) file]
        anchors := anchor h.text file :: i.anchors
        current := some (h.numbered (i.counters.advance h.level) file) } := by
  rw [add, judge_of_isCounted i file hc, if_neg ha, apply]
  rfl

/-! ## Runs -/

/-- The index after some headings, each of a file. -/
def after (hs : List (Heading × Text)) : Index := hs.foldl (fun i x => i.add x.1 x.2) {}

theorem after_nil : after [] = {} := rfl

theorem after_append_singleton (hs : List (Heading × Text)) (h : Heading) (file : Text) :
    after (hs ++ [(h, file)]) = (after hs).add h file := by
  rw [after, List.foldl_append]
  rfl

end Index

end Concordance
