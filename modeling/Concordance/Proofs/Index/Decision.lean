import Concordance.Proofs.Index.Numbers
import Concordance.Proofs.Url.Anchor

/-!
# What becomes of a heading

A heading that comes to the index is refused in one of four ways, or it becomes a section.  The
index decides by the anchors that are taken.  Here the decision is told from the headings that came
before, whatever became of them: the anchors that are taken are those of the counted headings, the
rejected ones included, and an anchor tells its file and its slug.

* `Fate` lists what can become of a heading; `Fate.Befalls` says when, and `Fate.outcome` what it
  brings about.
* `mem_anchors_iff_hasTwin`: an anchor is taken exactly by a counted heading of the same file with
  the same slug.
* `existsUnique_befalls` and `take_eq_outcome`: one fate befalls a heading, and nothing else
  happens.
-/

namespace Concordance.Index

variable {before : List (Heading × Text)} {h : Heading} {file : Text}

/-! ## A heading comes to the index -/

/-- What a heading brings about: what is returned or raised, and the index and the reporter behind
it. -/
structure Outcome where
  result : Except LevelFault (Option Section)
  index : Index
  reporter : Reporter

/-- What is returned or raised on a verdict. -/
def Verdict.result : Verdict → Except LevelFault (Option Section)
  | .unfit _ | .tooDeep | .duplicate _ => .ok none
  | .noLevel f => .error f
  | .accepted s => .ok (some s)

/-- A heading of a file comes to the index. -/
def take (i : Index) (h : Heading) (file : Text) (r : Reporter) : Outcome :=
  ⟨(i.judge h file).result, i.add h file, (i.judge h file).report r⟩

/-! ## Fates -/

/-- A counted heading before is of the same file and has the same slug. -/
def HasTwin (before : List (Heading × Text)) (h : Heading) (file : Text) : Prop :=
  ∃ x ∈ before, x.1.isCounted = true ∧ x.2 = file ∧ slug x.1.text = slug h.text

/-- What can become of a heading. -/
inductive Fate where
  | unfit (fault : HeadingFault)
  | tooDeep
  | noLevel
  | duplicate
  | accepted
  deriving DecidableEq, Repr

variable {fate : Fate}

namespace Fate

/-- When a fate befalls a heading of a file behind other headings. -/
def Befalls (before : List (Heading × Text)) (h : Heading) (file : Text) : Fate → Prop
  | .unfit fault => h.fault? = some fault
  | .tooDeep => h.fault? = none ∧ maxLevel < h.level
  | .noLevel => h.fault? = none ∧ h.level < 1
  | .duplicate => h.fault? = none ∧ 1 ≤ h.level ∧ h.level ≤ maxLevel ∧ HasTwin before h file
  | .accepted => h.fault? = none ∧ 1 ≤ h.level ∧ h.level ≤ maxLevel ∧ ¬ HasTwin before h file

/-- An error that is noted where the reporter is. -/
def noting (r : Reporter) (code : Code) (message : Text) : Reporter :=
  { r with journal := r.journal ++ [.finding ⟨code, .error, message, r.location⟩] }

/-- What a fate brings about. -/
def outcome (i : Index) (h : Heading) (file : Text) (r : Reporter) : Fate → Outcome
  | .unfit fault => ⟨.ok none, i, noting r .sectionConstructError fault.message⟩
  | .tooDeep =>
    ⟨.ok none, i, noting r .headingDepth "Only heading depths up to #### are supported".toList⟩
  | .noLevel => ⟨.error .tooSmall, i, r⟩
  | .duplicate =>
    ⟨.ok none, { i with counters := i.counters.advance h.level },
      noting r .duplicateAnchor ("Duplicate section title ".toList ++ anchor h.text file)⟩
  | .accepted =>
    let s := h.numbered (i.counters.advance h.level) file
    ⟨.ok (some s),
      { counters := i.counters.advance h.level
        sections := i.sections ++ [s]
        anchors := s.anchor :: i.anchors
        current := some s }, r⟩

/-- Only a counted heading is a duplicate or accepted. -/
theorem befalls_duplicate_iff :
    duplicate.Befalls before h file ↔ h.isCounted = true ∧ HasTwin before h file := by
  rw [h.isCounted_iff, Befalls, and_assoc, and_assoc]

theorem befalls_accepted_iff :
    accepted.Befalls before h file ↔ h.isCounted = true ∧ ¬ HasTwin before h file := by
  rw [h.isCounted_iff, Befalls, and_assoc, and_assoc]

end Fate

/-- An anchor is taken exactly by a counted heading of the same file with the same slug. -/
theorem mem_anchors_iff_hasTwin :
    anchor h.text file ∈ (after before).anchors ↔ HasTwin before h file := by
  simp only [mem_anchors_after, anchor_eq_iff, HasTwin]

/-! ## The decision -/

open Fate

theorem exists_befalls (before : List (Heading × Text)) (h : Heading) (file : Text) :
    ∃ fate : Fate, fate.Befalls before h file := by
  cases hfault : h.fault? with
  | some fault => exact ⟨.unfit fault, hfault⟩
  | none =>
    by_cases hdeep : maxLevel < h.level
    · exact ⟨.tooDeep, hfault, hdeep⟩
    have hdeep := Int.not_lt.1 hdeep
    by_cases hsmall : h.level < 1
    · exact ⟨.noLevel, hfault, hsmall⟩
    have hsmall := Int.not_lt.1 hsmall
    by_cases htwin : HasTwin before h file
    · exact ⟨.duplicate, hfault, hsmall, hdeep, htwin⟩
    · exact ⟨.accepted, hfault, hsmall, hdeep, htwin⟩

/-- No heading has two fates. -/
theorem befalls_unique {fate' : Fate} (hfate : fate.Befalls before h file)
    (hfate' : fate'.Befalls before h file) : fate = fate' := by
  have hlevels : (1 : Int) ≤ maxLevel := by decide
  cases fate <;> cases fate' <;> simp only [Befalls] at hfate hfate' <;> grind

theorem existsUnique_befalls (before : List (Heading × Text)) (h : Heading) (file : Text) :
    ∃! fate : Fate, fate.Befalls before h file := by
  obtain ⟨fate, hfate⟩ := exists_befalls before h file
  exact ⟨fate, hfate, fun fate' hfate' => befalls_unique hfate' hfate⟩

theorem judge_of_fault {i : Index} {fault : HeadingFault} (hfault : h.fault? = some fault) :
    i.judge h file = .unfit fault := by
  rw [judge, hfault]

theorem judge_of_lt {i : Index} (hfault : h.fault? = none) (hdeep : maxLevel < h.level) :
    i.judge h file = .tooDeep := by
  rw [judge, hfault]
  exact if_pos hdeep

theorem judge_of_lt_one {i : Index} (hfault : h.fault? = none) (hsmall : h.level < 1) :
    i.judge h file = .noLevel .tooSmall := by
  have hdeep : ¬ h.level > maxLevel := fun hdeep => by
    have hlevels : (1 : Int) ≤ maxLevel := by decide
    omega
  rw [judge, hfault]
  simp only [if_neg hdeep, Heading.section_of_lt hsmall]

/-- What befalls a heading tells everything that happens. -/
theorem take_eq_outcome (r : Reporter) (hfate : fate.Befalls before h file) :
    (after before).take h file r = fate.outcome (after before) h file r := by
  cases fate with
  | unfit fault =>
    rw [take, add, judge_of_fault hfate]
    rfl
  | tooDeep =>
    rw [take, add, judge_of_lt hfate.1 hfate.2]
    rfl
  | noLevel =>
    rw [take, add, judge_of_lt_one hfate.1 hfate.2, apply, Counters.advance_of_lt _ hfate.2]
    rfl
  | duplicate =>
    obtain ⟨hcounted, htwin⟩ := befalls_duplicate_iff.1 hfate
    have htaken := mem_anchors_iff_hasTwin.2 htwin
    rw [take, add_of_taken _ file hcounted htaken,
      judge_of_isCounted _ file hcounted, if_pos htaken]
    rfl
  | accepted =>
    obtain ⟨hcounted, htwin⟩ := befalls_accepted_iff.1 hfate
    have hfree := mt mem_anchors_iff_hasTwin.1 htwin
    rw [take, add_of_free _ file hcounted hfree, judge_of_isCounted _ file hcounted, if_neg hfree]
    rfl

/-- A section is returned only to a heading that is accepted. -/
theorem befalls_accepted_of_result {r : Reporter} {s : Section}
    (hresult : ((after before).take h file r).result = .ok (some s)) :
    accepted.Befalls before h file ∧
      s = h.numbered ((after before).counters.advance h.level) file := by
  obtain ⟨fate, hfate⟩ := exists_befalls before h file
  rw [take_eq_outcome r hfate] at hresult
  cases fate with
  | accepted => exact ⟨hfate, (Option.some.inj (Except.ok.inj hresult)).symm⟩
  | noLevel => cases hresult
  | _ => cases Except.ok.inj hresult

/-- **Every heading is decided, and cleanly.**  Behind any headings exactly one fate befalls a
heading of a file, and what it brings about is everything that happens: an error and nothing else
for a heading without a title or too deep, a fault and nothing at all for one without a level, an
error and counters for a duplicate, a new section otherwise.  The section is the one that the
heading makes with the counters that have counted it, and a heading becomes one exactly if it is
counted and the first such of its file with its slug. -/
theorem take_after (before : List (Heading × Text)) (h : Heading) (file : Text) (r : Reporter) :
    (∃! fate : Fate, fate.Befalls before h file) ∧
    (∀ fate : Fate, fate.Befalls before h file →
      (after before).take h file r = fate.outcome (after before) h file r) ∧
    (∀ s, ((after before).take h file r).result = .ok (some s) →
      h.section ((after before).counters.advance h.level) file = .ok s) ∧
    ((∃ s, ((after before).take h file r).result = .ok (some s)) ↔
      h.isCounted = true ∧ ¬ HasTwin before h file) := by
  refine ⟨existsUnique_befalls before h file, fun fate => take_eq_outcome r,
    fun s hresult => ?_, ?_, ?_⟩
  · obtain ⟨⟨-, hsmall, hdeep, -⟩, rfl⟩ := befalls_accepted_of_result hresult
    exact Heading.section_of_levels hsmall hdeep _ file
  · rintro ⟨s, hresult⟩
    exact befalls_accepted_iff.1 (befalls_accepted_of_result hresult).1
  · intro hfirst
    rw [take_eq_outcome r (befalls_accepted_iff.2 hfirst)]
    exact ⟨_, rfl⟩

end Concordance.Index
