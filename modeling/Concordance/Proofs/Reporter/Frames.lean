import Concordance.Reporter
import Mathlib.Data.List.Basic

/-!
# Where a reporter is

Each frame is resolved against the one around it when its context is entered.  What the innermost
frame holds can be told from the open contexts at once: its file is the last one that was given,
and its line is the last one that was given, unless a context inside that one moved to another file
and so forgot it.  The label goes the same way.

* `place` resolves contexts one inside another, as a reporter does; `IsValue` says what comes out
  for a field.
* `isValue_place`: the innermost frame is as described, for both fields by one argument.
* `IsValue.unique`: the description leaves no choice.
-/

namespace Concordance

variable {α : Type} {f : Text} {c : Context} {contexts inner outer : List Context}

/-! ## One frame -/

/-- A context in another file than the one around it. -/
def Context.Moves (outer : Text) (c : Context) : Prop := ∃ g, c.file = some g ∧ g ≠ outer

instance (outer : Text) (c : Context) : Decidable (c.Moves outer) :=
  match h : c.file with
  | none => isFalse (by simp [Context.Moves, h])
  | some g => decidable_of_iff (g ≠ outer) (by simp [Context.Moves, h])

namespace Context

theorem frame_file (l : Location) (c : Context) : (c.frame l).file = c.file.getD l.file := by
  unfold frame
  cases hfile : c.file with
  | none => simp
  | some g =>
    by_cases hg : g = l.file
    · simp [hg]
    · simp [hg]

theorem frame_line (l : Location) (c : Context) :
    (c.frame l).line = c.line.resolve (if c.Moves l.file then none else l.line) := by
  unfold frame
  cases hfile : c.file with
  | none => simp [Moves, hfile]
  | some g =>
    by_cases hg : g = l.file
    · simp [Moves, hfile, hg]
    · simp [Moves, hfile, hg]

theorem frame_label (l : Location) (c : Context) :
    (c.frame l).label = c.label.resolve (if c.Moves l.file then none else l.label) := by
  unfold frame
  cases hfile : c.file with
  | none => simp [Moves, hfile]
  | some g =>
    by_cases hg : g = l.file
    · simp [Moves, hfile, hg]
    · simp [Moves, hfile, hg]

theorem malformed_eq_nil_iff (c : Context) :
    c.malformed = [] ↔ c.line ≠ .malformed ∧ c.label ≠ .malformed := by
  unfold malformed
  cases c.line <;> cases c.label <;> simp

end Context

/-! ## Frames inside one another -/

/-- The frame of contexts inside one another, the innermost first, where a run reports in `f`
outside all of them. -/
def place (f : Text) : List Context → Location
  | [] => { file := f }
  | c :: outer => c.frame (place f outer)

/-- The last file that contexts give, or `f` if they give none. -/
def fileAmong (f : Text) (contexts : List Context) : Text :=
  (contexts.findSome? Context.file).getD f

theorem fileAmong_cons (f : Text) (c : Context) (outer : List Context) :
    fileAmong f (c :: outer) = c.file.getD (fileAmong f outer) := by
  unfold fileAmong
  cases hfile : c.file with
  | none => simp [hfile]
  | some g => simp [hfile]

theorem place_file (f : Text) (contexts : List Context) :
    (place f contexts).file = fileAmong f contexts := by
  induction contexts with
  | nil => rfl
  | cons c outer ih => rw [place, Context.frame_file, ih, fileAmong_cons]

/-! ## Fields -/

/-- One of the contexts `inner` moves to another file, where those of `outer` are around them. -/
def MovesAmong (f : Text) (inner outer : List Context) : Prop :=
  ∃ before c behind, inner = before ++ c :: behind ∧ c.Moves (fileAmong f (behind ++ outer))

/-- What a field is inside contexts, the innermost first. -/
structure IsValue (field : Context → Setting α) (f : Text) (contexts : List Context)
    (v : Option α) : Prop where
  /-- No context gives the field. -/
  absent : (∀ c ∈ contexts, field c = .inherit) → v = none
  /-- The last context to give it is in the file that the run is in. -/
  given : ∀ inner c outer w, contexts = inner ++ c :: outer → (∀ d ∈ inner, field d = .inherit) →
    field c = .given w → ¬ MovesAmong f inner (c :: outer) → v = w
  /-- The run has moved to another file since. -/
  forgotten : ∀ inner c outer w, contexts = inner ++ c :: outer →
    (∀ d ∈ inner, field d = .inherit) →
    field c = .given w → MovesAmong f inner (c :: outer) → v = none

theorem movesAmong_nil (f : Text) (outer : List Context) : ¬ MovesAmong f [] outer := by
  rintro ⟨before, c, behind, heq, -⟩
  simp at heq

theorem movesAmong_cons : MovesAmong f (c :: inner) outer ↔
    c.Moves (fileAmong f (inner ++ outer)) ∨ MovesAmong f inner outer := by
  constructor
  · rintro ⟨before, d, behind, heq, hmoves⟩
    cases before with
    | nil =>
      obtain ⟨rfl, rfl⟩ := List.cons.inj heq
      exact Or.inl hmoves
    | cons e before =>
      obtain ⟨rfl, rfl⟩ := List.cons.inj heq
      exact Or.inr ⟨before, d, behind, rfl, hmoves⟩
  · rintro (hmoves | ⟨before, d, behind, rfl, hmoves⟩)
    · exact ⟨[], c, inner, rfl, hmoves⟩
    · exact ⟨c :: before, d, behind, rfl, hmoves⟩

section

variable {field : Context → Setting α} {v w : Option α}

theorem IsValue.nil : IsValue field f [] none where
  absent _ := rfl
  given inner c outer w heq := by simp at heq
  forgotten inner c outer w heq := by simp at heq

/-- No context that gives the field is passed over. -/
theorem eq_nil_of_given (hc : field c = .given v) {inner outer' : List Context} {d : Context}
    (heq : c :: outer = inner ++ d :: outer') (hinner : ∀ e ∈ inner, field e = .inherit) :
    inner = [] ∧ c = d := by
  cases inner with
  | nil => exact ⟨rfl, (List.cons.inj heq).1⟩
  | cons e inner =>
    obtain ⟨rfl, -⟩ := List.cons.inj heq
    have hnone := hinner c List.mem_cons_self
    rw [hc] at hnone
    cases hnone

/-- A context that does not give the field is passed over. -/
theorem exists_cons_of_inherit (hc : field c = .inherit) {inner outer' : List Context}
    {d : Context} (heq : c :: outer = inner ++ d :: outer') (hd : field d = .given w) :
    ∃ inner', inner = c :: inner' ∧ outer = inner' ++ d :: outer' := by
  cases inner with
  | nil =>
    obtain ⟨rfl, -⟩ := List.cons.inj heq
    rw [hc] at hd
    cases hd
  | cons e inner =>
    obtain ⟨rfl, houter⟩ := List.cons.inj heq
    exact ⟨inner, rfl, houter⟩

/-- A context that gives the field decides it. -/
theorem IsValue.cons_given (hc : field c = .given v) : IsValue field f (c :: outer) v where
  absent h := by
    have hnone := h c List.mem_cons_self
    rw [hc] at hnone
    cases hnone
  given inner d outer' w heq hinner hd hmoves := by
    obtain ⟨-, rfl⟩ := eq_nil_of_given hc heq hinner
    exact Setting.given.inj (hc.symm.trans hd)
  forgotten inner d outer' w heq hinner hd hmoves := by
    obtain ⟨rfl, -⟩ := eq_nil_of_given hc heq hinner
    exact absurd hmoves (movesAmong_nil f _)

/-- A context that does not give the field keeps it, unless it moves to another file. -/
theorem IsValue.cons_inherit (h : IsValue field f outer v) (hc : field c = .inherit) :
    IsValue field f (c :: outer) (if c.Moves (fileAmong f outer) then none else v) where
  absent hall := by
    rw [h.absent fun d hd => hall d (List.mem_cons_of_mem _ hd), ite_self]
  given inner d outer' w heq hinner hd hmoves := by
    obtain ⟨inner, rfl, rfl⟩ := exists_cons_of_inherit hc heq hd
    rw [movesAmong_cons, not_or] at hmoves
    rw [if_neg hmoves.1]
    exact h.given inner d outer' w rfl (List.forall_mem_cons.1 hinner).2 hd hmoves.2
  forgotten inner d outer' w heq hinner hd hmoves := by
    obtain ⟨inner, rfl, rfl⟩ := exists_cons_of_inherit hc heq hd
    rw [movesAmong_cons] at hmoves
    by_cases hfirst : c.Moves (fileAmong f (inner ++ d :: outer'))
    · rw [if_pos hfirst]
    · rw [if_neg hfirst]
      exact h.forgotten inner d outer' w rfl (List.forall_mem_cons.1 hinner).2 hd
        (hmoves.resolve_left hfirst)

/-- A field of the frames is as described, if a frame holds what its context gives, and otherwise
what the frame around it holds in the same file. -/
theorem isValue_place {value : Location → Option α} (hstart : ∀ f, value { file := f } = none)
    (hframe : ∀ l c, value (c.frame l) =
      (field c).resolve (if c.Moves l.file then none else value l))
    (hfields : ∀ c ∈ contexts, field c ≠ .malformed) :
    IsValue field f contexts (value (place f contexts)) := by
  induction contexts with
  | nil =>
    rw [place, hstart]
    exact .nil
  | cons c outer ih =>
    have houter := ih fun d hd => hfields d (List.mem_cons_of_mem _ hd)
    rw [place, hframe, place_file]
    cases hc : field c with
    | inherit => exact houter.cons_inherit hc
    | given w => exact .cons_given hc
    | malformed => exact absurd hc (hfields c List.mem_cons_self)

/-- No two values are as described. -/
theorem IsValue.unique (h : IsValue field f contexts v) (h' : IsValue field f contexts w)
    (hfields : ∀ c ∈ contexts, field c ≠ .malformed) : v = w := by
  by_cases hall : ∀ c ∈ contexts, field c = .inherit
  · rw [h.absent hall, h'.absent hall]
  · simp only [not_forall] at hall
    obtain ⟨d, hd, hne⟩ := hall
    obtain ⟨c, hfound⟩ : ∃ c, contexts.find? (fun c => !(field c matches .inherit)) = some c := by
      rw [← Option.isSome_iff_exists, List.find?_isSome]
      refine ⟨d, hd, ?_⟩
      cases hfield : field d <;> simp_all
    obtain ⟨hc, inner, outer, heq, hinner⟩ := List.find?_eq_some_iff_append.1 hfound
    have hbefore : ∀ d ∈ inner, field d = .inherit := by
      intro d hd
      have hnot := hinner d hd
      cases hfield : field d <;> simp_all
    cases hgiven : field c with
    | inherit => simp [hgiven] at hc
    | malformed =>
      exact absurd hgiven (hfields c (heq ▸ List.mem_append_right _ List.mem_cons_self))
    | given u =>
      by_cases hmoves : MovesAmong f inner (c :: outer)
      · have hv := h.forgotten inner c outer u heq hbefore hgiven hmoves
        have hw := h'.forgotten inner c outer u heq hbefore hgiven hmoves
        rw [hv, hw]
      · have hv := h.given inner c outer u heq hbefore hgiven hmoves
        have hw := h'.given inner c outer u heq hbefore hgiven hmoves
        rw [hv, hw]

end

/-- The line and the label inside contexts that may be entered. -/
theorem place_line_iff (hcontexts : ∀ c ∈ contexts, c.malformed = []) (v : Option Int) :
    v = (place f contexts).line ↔ IsValue Context.line f contexts v := by
  have hfields : ∀ c ∈ contexts, c.line ≠ .malformed := by
    intro c hc
    exact (c.malformed_eq_nil_iff.1 (hcontexts c hc)).1
  have hplace : IsValue Context.line f contexts (place f contexts).line :=
    isValue_place (fun _ => rfl) Context.frame_line hfields
  exact ⟨fun heq => heq ▸ hplace, fun h => h.unique hplace hfields⟩

theorem place_label_iff (hcontexts : ∀ c ∈ contexts, c.malformed = []) (v : Option Text) :
    v = (place f contexts).label ↔ IsValue Context.label f contexts v := by
  have hfields : ∀ c ∈ contexts, c.label ≠ .malformed := by
    intro c hc
    exact (c.malformed_eq_nil_iff.1 (hcontexts c hc)).2
  have hplace : IsValue Context.label f contexts (place f contexts).label :=
    isValue_place (fun _ => rfl) Context.frame_label hfields
  exact ⟨fun heq => heq ▸ hplace, fun h => h.unique hplace hfields⟩

end Concordance
