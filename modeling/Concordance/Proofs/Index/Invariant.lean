import Concordance.Proofs.Index.Step
import Concordance.Proofs.Text.Digits
import Concordance.Proofs.Text.Pieces
import Mathlib

/-!
# What holds of every index

`Consistent` is what each heading preserves.  That the numbers of the sections ascend cannot be
seen at one heading alone: what carries it is that every number lies at or below the counters, that
counting a heading takes the counters past themselves, and that its number lies past what they
were.

* `Counters.lt_leading_advance`: the number of a heading lies past the counters before it.
* `Consistent.add`: one heading preserves consistency, whatever is made of it.
* `exists_accepted` and `Consistent.number_of_accepted`: every section was accepted at some
  heading, and its number tells the counters there.
* The last theorem puts them together for every run of headings.
-/

namespace Concordance

open Text

/-! ## Numbers as lists -/

/-- The components of a section's number. -/
def Section.components (s : Section) : List Int :=
  (splitOn '.' s.number).map fun p => (ofDigits p : Int)

namespace Counters

/-- No counter is negative. -/
def Nonneg (c : Counters) : Prop := ∀ n ∈ c.toList, 0 ≤ n

theorem levels_cases {level : Int} (h1 : 1 ≤ level) (h4 : level ≤ maxLevel) :
    level = 1 ∨ level = 2 ∨ level = 3 ∨ level = 4 := by
  have h4 : level ≤ 4 := h4
  omega

theorem Nonneg.advance {c : Counters} (h : c.Nonneg) (level : Int) : (c.advance level).Nonneg := by
  simp only [Nonneg, toList, List.forall_mem_cons] at h ⊢
  obtain ⟨h1, h2, h3, h4, -⟩ := h
  rw [Counters.advance.eq_def]
  split <;> simp only [h1, h2, h3, h4, List.not_mem_nil, false_implies, implies_true, and_true,
    true_and] <;> omega

theorem leading_isPrefix (c : Counters) (level : Int) : c.leading level <+: c.toList := by
  rw [leading]
  split <;> exact List.take_prefix _ _

theorem length_leading (c : Counters) {level : Int} (h1 : 1 ≤ level) (h4 : level ≤ maxLevel) :
    ((c.leading level).length : Int) = level := by
  have h4 : level ≤ 4 := h4
  rw [leading, if_pos (by omega), List.length_take, toList]
  simp only [List.length_cons, List.length_nil]
  omega

theorem leading_le (c : Counters) (level : Int) : c.leading level ≤ c.toList :=
  not_lt.1 fun hlt => (c.leading_isPrefix level).le hlt

/-- The number of a heading lies past the counters before it. -/
theorem lt_leading_advance (c : Counters) {level : Int} (h1 : 1 ≤ level) (h4 : level ≤ maxLevel) :
    c.toList < (c.advance level).leading level := by
  obtain rfl | rfl | rfl | rfl := levels_cases h1 h4
  · exact List.Lex.rel (by simp [advance])
  · exact List.Lex.cons (List.Lex.rel (by simp [advance]))
  · exact List.Lex.cons (List.Lex.cons (List.Lex.rel (by simp [advance])))
  · exact List.Lex.cons (List.Lex.cons (List.Lex.cons (List.Lex.rel (by simp [advance]))))

/-- A number is read as the counters that it was written from. -/
theorem components_number {c : Counters} (hc : c.Nonneg) {level : Int} (h1 : 1 ≤ level)
    (h4 : level ≤ maxLevel) :
    (splitOn '.' (c.number level)).map (fun p => (ofDigits p : Int)) = c.leading level := by
  have hne : (c.leading level).map ofInt ≠ [] := by
    intro h
    have hlen := c.length_leading h1 h4
    rw [List.map_eq_nil_iff.1 h] at hlen
    simp only [List.length_nil, Nat.cast_zero] at hlen
    omega
  have hnonneg : ∀ n ∈ c.leading level, 0 ≤ n :=
    fun n hn => hc n ((c.leading_isPrefix level).subset hn)
  have hdot : ∀ p ∈ (c.leading level).map ofInt, '.' ∉ p := by
    intro p hp
    obtain ⟨n, hn, rfl⟩ := List.mem_map.1 hp
    obtain ⟨m, rfl⟩ := Int.eq_ofNat_of_zero_le (hnonneg n hn)
    exact not_mem_ofInt (by decide) m
  rw [number, splitOn_joinWith hne hdot, List.map_map]
  exact (List.map_congr_left fun n hn => ofDigits_ofInt (hnonneg n hn)).trans (List.map_id _)

end Counters

namespace Index

/-! ## Consistency -/

/-- An index in which the anchors are those of the sections, each taken once, and the numbers of
the sections ascend up to the counters. -/
structure Consistent (i : Index) : Prop where
  nodup : (i.sections.map (·.anchor)).Nodup
  mem_anchors : ∀ a, a ∈ i.anchors ↔ a ∈ i.sections.map (·.anchor)
  current : i.current = i.sections.getLast?
  nonneg : i.counters.Nonneg
  ascending : i.sections.Pairwise fun s t => s.components < t.components
  components_le : ∀ s ∈ i.sections, s.components ≤ i.counters.toList

namespace Consistent

theorem empty : Consistent {} where
  nodup := List.nodup_nil
  mem_anchors := by simp
  current := rfl
  nonneg := by simp [Counters.Nonneg, Counters.toList]
  ascending := List.Pairwise.nil
  components_le := by simp

variable {i : Index} (hi : i.Consistent) {h : Heading} {file : Text}

include hi

theorem components_numbered (hc : h.isCounted = true) (file : Text) :
    (h.numbered (i.counters.advance h.level) file).components =
      (i.counters.advance h.level).leading h.level := by
  obtain ⟨-, h1, h4⟩ := h.isCounted_iff.1 hc
  exact Counters.components_number (hi.nonneg.advance _) h1 h4

/-- Every number so far lies before the number of the next section. -/
theorem components_lt (hc : h.isCounted = true) {s : Section} (hs : s ∈ i.sections) :
    s.components < (i.counters.advance h.level).leading h.level := by
  obtain ⟨-, h1, h4⟩ := h.isCounted_iff.1 hc
  exact lt_of_le_of_lt (hi.components_le s hs) (i.counters.lt_leading_advance h1 h4)

/-- No number so far lies past the counters that have counted the next heading. -/
theorem components_le_advance (hc : h.isCounted = true) {s : Section} (hs : s ∈ i.sections) :
    s.components ≤ (i.counters.advance h.level).toList :=
  le_of_lt (lt_of_lt_of_le (hi.components_lt hc hs) (Counters.leading_le _ h.level))

/-- A duplicate moves the counters only. -/
theorem add_taken (hc : h.isCounted = true) (ha : anchor h.text file ∈ i.anchors) :
    (i.add h file).Consistent := by
  rw [add_of_taken i file hc ha]
  exact {
    nodup := hi.nodup
    mem_anchors := hi.mem_anchors
    current := hi.current
    nonneg := hi.nonneg.advance _
    ascending := hi.ascending
    components_le := fun s hs => hi.components_le_advance hc hs }

theorem add_free (hc : h.isCounted = true) (ha : anchor h.text file ∉ i.anchors) :
    (i.add h file).Consistent := by
  have hnumber := hi.components_numbered hc file
  rw [add_of_free i file hc ha]
  refine ⟨?_, ?_, ?_, hi.nonneg.advance _, ?_, ?_⟩
  · have ha : anchor h.text file ∉ i.sections.map (·.anchor) :=
      fun h => ha ((hi.mem_anchors _).2 h)
    rw [List.map_append, List.nodup_append']
    refine ⟨hi.nodup, List.nodup_singleton _, ?_⟩
    simpa [Heading.numbered] using ha
  · intro a
    rw [List.map_append, List.mem_append, List.mem_cons, hi.mem_anchors a, or_comm]
    simp [Heading.numbered]
  · simp
  · refine List.pairwise_append.2 ⟨hi.ascending, List.pairwise_singleton _ _, ?_⟩
    intro s hs t ht
    rw [List.mem_singleton.1 ht, hnumber]
    exact hi.components_lt hc hs
  · intro s hs
    rcases List.mem_append.1 hs with hs | hs
    · exact hi.components_le_advance hc hs
    · rw [List.mem_singleton.1 hs, hnumber]
      exact Counters.leading_le _ h.level

/-- One heading preserves consistency, whatever is made of it. -/
theorem add (h : Heading) (file : Text) : (i.add h file).Consistent := by
  cases hc : h.isCounted with
  | false => exact (add_of_not_isCounted i file hc).symm ▸ hi
  | true =>
    by_cases ha : anchor h.text file ∈ i.anchors
    · exact hi.add_taken hc ha
    · exact hi.add_free hc ha

end Consistent

theorem consistent_after (hs : List (Heading × Text)) : (after hs).Consistent := by
  induction hs using List.reverseRecOn with
  | nil => exact Consistent.empty
  | append_singleton hs x ih => exact after_append_singleton hs x.1 x.2 ▸ ih.add x.1 x.2

/-! ## Acceptance -/

/-- The sections behind one more heading: those before it, and perhaps one that is accepted. -/
theorem sections_add (i : Index) (h : Heading) (file : Text) :
    (i.add h file).sections = i.sections ∨
      ∃ s, i.judge h file = .accepted s ∧ (i.add h file).sections = i.sections ++ [s] := by
  cases hc : h.isCounted with
  | false => exact Or.inl (by rw [add_of_not_isCounted i file hc])
  | true =>
    by_cases ha : anchor h.text file ∈ i.anchors
    · exact Or.inl (by rw [add_of_taken i file hc ha])
    · refine Or.inr ⟨h.numbered (i.counters.advance h.level) file, ?_, ?_⟩
      · rw [judge_of_isCounted i file hc, if_neg ha]
      · rw [add_of_free i file hc ha]

/-- Every section was accepted at some heading. -/
theorem exists_accepted {hs : List (Heading × Text)} {s : Section} (h : s ∈ (after hs).sections) :
    ∃ before h file rest, hs = before ++ (h, file) :: rest ∧
      (after before).judge h file = .accepted s := by
  induction hs using List.reverseRecOn with
  | nil => simp [after_nil] at h
  | append_singleton hs x ih =>
    have hold : s ∈ (after hs).sections → ∃ before h file rest,
        hs ++ [x] = before ++ (h, file) :: rest ∧ (after before).judge h file = .accepted s := by
      intro h
      obtain ⟨before, k, file, rest, rfl, hj⟩ := ih h
      exact ⟨before, k, file, rest ++ [x], by simp, hj⟩
    rw [after_append_singleton] at h
    rcases sections_add (after hs) x.1 x.2 with heq | ⟨t, hj, heq⟩
    · exact hold (heq ▸ h)
    · rw [heq, List.mem_append, List.mem_singleton] at h
      rcases h with h | rfl
      · exact hold h
      · exact ⟨hs, x.1, x.2, [], rfl, hj⟩

/-- An accepted section is numbered by the counters that have counted its heading. -/
theorem numbered_of_accepted {i : Index} {h : Heading} {file : Text} {s : Section}
    (hj : i.judge h file = .accepted s) :
    h.isCounted = true ∧ s = h.numbered (i.add h file).counters file := by
  cases hc : h.isCounted with
  | false =>
    exfalso
    have hadd := add_of_not_isCounted i file hc
    rw [Index.add, hj, apply] at hadd
    have hlen := congrArg (fun j => j.sections.length) hadd
    simp at hlen
  | true =>
    refine ⟨rfl, ?_⟩
    rw [judge_of_isCounted i file hc] at hj
    split at hj
    · exact absurd hj (by simp)
    · rename_i ha
      rw [add_of_free i file hc ha]
      exact (Verdict.accepted.inj hj).symm

namespace Consistent

variable {i : Index} (hi : i.Consistent)

include hi

/-- The number of an accepted section tells the counters at its acceptance. -/
theorem number_of_accepted {h : Heading} {file : Text} {s : Section}
    (hj : i.judge h file = .accepted s) :
    s.components = (i.add h file).counters.leading s.level ∧
      s.number = joinWith ['.'] (s.components.map ofInt) ∧
      (s.components.length : Int) = s.level := by
  obtain ⟨hc, rfl⟩ := numbered_of_accepted hj
  obtain ⟨-, h1, h4⟩ := h.isCounted_iff.1 hc
  have hcomponents : (h.numbered (i.add h file).counters file).components =
      (i.add h file).counters.leading h.level :=
    Counters.components_number (hi.add h file).nonneg h1 h4
  refine ⟨hcomponents, ?_, ?_⟩
  · rw [hcomponents]
    rfl
  · rw [hcomponents]
    exact Counters.length_leading _ h1 h4

/-- Numbers that ascend as lists differ as texts. -/
theorem nodup_numbers : (i.sections.map (·.number)).Nodup := by
  refine List.pairwise_map.2 (hi.ascending.imp fun {s t} hlt heq => ?_)
  have hcomponents : s.components = t.components := by
    rw [Section.components, heq, Section.components]
  exact absurd hlt (hcomponents ▸ lt_irrefl _)

end Consistent

/-- **The index is consistent after every run of headings**, of any level and content: the anchors
of the sections are distinct and are exactly those that are taken, the current section is the last
one, each number has as many components as its section's level and tells the counters at its
acceptance, and the numbers ascend. -/
theorem after_consistent (hs : List (Heading × Text)) :
    ((after hs).sections.map (·.anchor)).Nodup ∧
    (∀ a, a ∈ (after hs).anchors ↔ a ∈ (after hs).sections.map (·.anchor)) ∧
    (after hs).current = (after hs).sections.getLast? ∧
    (∀ s ∈ (after hs).sections, ∃ before h file rest,
      hs = before ++ (h, file) :: rest ∧ (after before).judge h file = .accepted s ∧
      s.components = (after (before ++ [(h, file)])).counters.leading s.level ∧
      s.number = joinWith ['.'] (s.components.map ofInt) ∧
      (s.components.length : Int) = s.level) ∧
    (after hs).sections.Pairwise (fun s t => List.Lex (· < ·) s.components t.components) ∧
    ((after hs).sections.map (·.number)).Nodup := by
  have hi := consistent_after hs
  refine ⟨hi.nodup, hi.mem_anchors, hi.current, ?_, hi.ascending, hi.nodup_numbers⟩
  intro s hs
  obtain ⟨before, h, file, rest, rfl, hj⟩ := exists_accepted hs
  obtain ⟨hcomponents, hnumber, hlength⟩ := (consistent_after before).number_of_accepted hj
  refine ⟨before, h, file, rest, rfl, hj, ?_, hnumber, hlength⟩
  rw [after_append_singleton]
  exact hcomponents

end Index

end Concordance
