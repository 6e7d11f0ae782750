import Concordance.Proofs.Model.Pass
import Concordance.Proofs.Reporter.Frames
import Mathlib.Logic.Function.Iterate
import Mathlib.Data.List.Basic
import Mathlib.Data.List.Infix

/-!
# The contexts of a reporter

A reporter is told to open contexts, to leave them, and to report.  Contexts are left at their end
or because an exception passes through them, any number at once; one that is refused was never
open.

* `Reporter.isInside_after`: the frames are those of the open contexts, one inside another.
* `Reporter.stack_restored`: leaving a context restores the frames around it, whatever was done
  inside.
* `Reporter.diagnostics_after`: what is reported without a location is reported where the run is.
* `Reporter.perm_errors_warnings`: every diagnostic is an error or a warning, and none is both.
-/

namespace Concordance

namespace Reporter

/-! ## Steps -/

/-- What is done with a reporter. -/
inductive Step where
  /-- A context is opened. -/
  | enter (c : Context)
  /-- The innermost context ends. -/
  | leave
  /-- An exception passes through contexts, the innermost ones first, and is caught around them. -/
  | raise (passed : Nat)
  /-- Something is reported. -/
  | report (severity : Severity) (code : Code) (message : Text) (location : Option Location)

/-- Leave the innermost context; outside all of them nothing happens. -/
def leave (r : Reporter) : Reporter := r.leave?.getD r

/-- Take a step.  A context that is refused is not opened. -/
def perform (r : Reporter) : Step → Reporter
  | .enter c => match r.enter c with
    | .ok inner => inner
    | .error _ => r
  | .leave => r.leave
  | .raise passed => leave^[passed] r
  | .report severity code message location => r.report severity code message location

/-- The reporter behind steps, where the run reports in `f` outside all contexts. -/
def after (f : Text) (steps : List Step) : Reporter := steps.foldl perform (new f)

/-- All frames, the innermost first; the last one is outside all contexts. -/
def stack (r : Reporter) : List Location := r.frames ++ [r.outermost]

/-- The contexts that are open behind a step, the innermost first. -/
def Step.openBehind (contexts : List Context) : Step → List Context
  | .enter c => if c.malformed = [] then c :: contexts else contexts
  | .leave => contexts.tail
  | .raise passed => contexts.drop passed
  | .report _ _ _ _ => contexts

/-- The contexts that are open behind steps, the innermost first. -/
def openContexts (steps : List Step) : List Context := steps.foldl Step.openBehind []

/-- What a step reports, where the run is at `l`. -/
def Step.findings (l : Location) : Step → List Diagnostic
  | .report severity code message location => [⟨code, severity, message, location.getD l⟩]
  | _ => []

theorem after_append (f : Text) (steps more : List Step) :
    after f (steps ++ more) = more.foldl perform (after f steps) := by
  unfold after
  rw [List.foldl_append]

theorem openContexts_append (steps more : List Step) :
    openContexts (steps ++ more) = more.foldl Step.openBehind (openContexts steps) := by
  unfold openContexts
  rw [List.foldl_append]

/-! ## Frames -/

/-- The frames of contexts inside one another, the innermost first. -/
def places (f : Text) : List Context → List Location
  | [] => []
  | c :: outer => place f (c :: outer) :: places f outer

theorem length_places (f : Text) (contexts : List Context) :
    (places f contexts).length = contexts.length := by
  induction contexts with
  | nil => rfl
  | cons c outer ih => simp [places, ih]

/-- A reporter whose frames are those of contexts inside one another. -/
structure IsInside (f : Text) (contexts : List Context) (r : Reporter) : Prop where
  outermost_eq : r.outermost = { file := f }
  frames_eq : r.frames = places f contexts
  wellFormed : ∀ c ∈ contexts, c.malformed = []

variable {f : Text} {contexts : List Context} {r : Reporter} {s : Step} {steps block : List Step}

theorem head?_stack (r : Reporter) : r.stack.head? = some r.location := by
  unfold stack location
  cases r.frames <;> rfl

theorem IsInside.location_eq (h : IsInside f contexts r) : r.location = place f contexts := by
  unfold location
  rw [h.frames_eq, h.outermost_eq]
  cases contexts <;> rfl

theorem IsInside.stack_eq (h : IsInside f contexts r) :
    r.stack = places f contexts ++ [{ file := f }] := by
  unfold stack
  rw [h.frames_eq, h.outermost_eq]

theorem enter_eq_error (r : Reporter) {c : Context} (hc : c.malformed ≠ []) :
    r.enter c = .error c.malformed := by
  unfold enter
  cases hfields : c.malformed with
  | nil => exact absurd hfields hc
  | cons field fields => rfl

theorem perform_enter_of_ne (r : Reporter) {c : Context} (hc : c.malformed ≠ []) :
    r.perform (.enter c) = r := by
  unfold perform
  simp only [enter_eq_error r hc]

theorem perform_enter (r : Reporter) {c : Context} (hc : c.malformed = []) :
    r.perform (.enter c) = { r with frames := c.frame r.location :: r.frames } := by
  unfold perform enter
  simp only [hc]

theorem IsInside.enter (h : IsInside f contexts r) {c : Context} (hc : c.malformed = []) :
    IsInside f (c :: contexts) (r.perform (.enter c)) := by
  rw [perform_enter r hc]
  refine ⟨h.outermost_eq, ?_, ?_⟩
  · show c.frame r.location :: r.frames = places f (c :: contexts)
    rw [h.location_eq, h.frames_eq]
    rfl
  · intro d hd
    rcases List.mem_cons.1 hd with rfl | hd
    · exact hc
    · exact h.wellFormed d hd

theorem IsInside.leave (h : IsInside f contexts r) : IsInside f contexts.tail r.leave := by
  unfold Reporter.leave leave?
  cases contexts with
  | nil =>
    have hframes : r.frames = [] := h.frames_eq
    rw [hframes]
    exact h
  | cons c outer =>
    have hframes : r.frames = place f (c :: outer) :: places f outer := h.frames_eq
    rw [hframes]
    exact ⟨h.outermost_eq, rfl, fun d hd => h.wellFormed d (List.mem_cons_of_mem c hd)⟩

theorem IsInside.iterate_leave (h : IsInside f contexts r) (passed : Nat) :
    IsInside f (contexts.drop passed) (Reporter.leave^[passed] r) := by
  induction passed with
  | zero => exact h
  | succ n ih =>
    rw [Function.iterate_succ_apply', ← List.tail_drop]
    exact ih.leave

/-- A step keeps the frames those of the open contexts. -/
theorem IsInside.perform (h : IsInside f contexts r) (s : Step) :
    IsInside f (s.openBehind contexts) (r.perform s) := by
  cases s with
  | enter c =>
    by_cases hc : c.malformed = []
    · simp only [Step.openBehind, if_pos hc]
      exact h.enter hc
    · simp only [Step.openBehind, if_neg hc]
      rwa [perform_enter_of_ne r hc]
  | leave => exact h.leave
  | raise passed => exact h.iterate_leave passed
  | report severity code message location => exact ⟨h.outermost_eq, h.frames_eq, h.wellFormed⟩

theorem isInside_after (f : Text) (steps : List Step) :
    IsInside f (openContexts steps) (after f steps) := by
  induction steps using List.reverseRecOn with
  | nil => exact ⟨rfl, rfl, fun c hc => absurd hc List.not_mem_nil⟩
  | append_singleton steps s ih =>
    rw [openContexts_append, after_append]
    exact ih.perform s

theorem location_after (f : Text) (steps : List Step) :
    (after f steps).location = place f (openContexts steps) := (isInside_after f steps).location_eq

theorem length_stack_after (f : Text) (steps : List Step) :
    (after f steps).stack.length = (openContexts steps).length + 1 := by
  rw [(isInside_after f steps).stack_eq, List.length_append, length_places]
  rfl

/-! ## Contexts left again -/

/-- Steps that leave no context which was open before them. -/
def StaysInside (steps block : List Step) : Prop :=
  ∀ part, part <+: block → (openContexts steps).length ≤ (openContexts (steps ++ part)).length

instance (steps block : List Step) : Decidable (StaysInside steps block) :=
  decidable_of_iff (∀ part ∈ block.inits,
    (openContexts steps).length ≤ (openContexts (steps ++ part)).length)
    (by simp only [List.mem_inits, StaysInside])

/-- A step keeps at the bottom what lies there, if it does not leave so much. -/
theorem suffix_openBehind {outer : List Context} (h : outer <:+ contexts)
    (hlength : outer.length ≤ (s.openBehind contexts).length) :
    outer <:+ s.openBehind contexts := by
  cases s with
  | enter c =>
    by_cases hc : c.malformed = []
    · simp only [Step.openBehind, if_pos hc]
      exact h.trans (List.suffix_cons c contexts)
    · simp only [Step.openBehind, if_neg hc]
      exact h
  | leave => exact List.suffix_of_suffix_length_le h (List.tail_suffix contexts) hlength
  | raise passed =>
    exact List.suffix_of_suffix_length_le h (List.drop_suffix passed contexts) hlength
  | report severity code message location => exact h

theorem suffix_openContexts (h : StaysInside steps block) :
    openContexts steps <:+ openContexts (steps ++ block) := by
  induction block using List.reverseRecOn with
  | nil => rw [List.append_nil]
  | append_singleton block s ih =>
    have hblock := ih fun part hpart => h part (hpart.trans (List.prefix_append block [s]))
    have hlength := h (block ++ [s]) List.prefix_rfl
    rw [← List.append_assoc, openContexts_append (steps ++ block)] at hlength ⊢
    exact suffix_openBehind hblock hlength

/-- When everything opened in between is left again, everything is where it was. -/
theorem stack_restored (f : Text) (h : StaysInside steps block)
    (hlength : (openContexts (steps ++ block)).length = (openContexts steps).length) :
    (after f (steps ++ block)).stack = (after f steps).stack := by
  have hopen : openContexts steps = openContexts (steps ++ block) :=
    (suffix_openContexts h).eq_of_length hlength.symm
  rw [(isInside_after f _).stack_eq, (isInside_after f _).stack_eq, hopen]

/-- A pass opens its contexts and leaves them in this way. -/
theorem within_eq_foldl_perform (r : Reporter) (c : Context) (hc : c.malformed = [])
    (hblock : (block.foldl perform (r.perform (.enter c))).frames =
      (r.perform (.enter c)).frames) :
    (r.within c.file c.line c.label fun inner => ((), block.foldl perform inner)).2 =
      (Step.enter c :: block ++ [Step.leave]).foldl perform r := by
  rw [perform_enter r hc] at hblock
  rw [List.cons_append, List.foldl_cons, List.foldl_append, perform_enter r hc,
    List.foldl_cons, List.foldl_nil]
  simp only [within, perform, leave, leave?, hblock, Option.getD_some]

/-! ## Diagnostics -/

theorem journal_leave (r : Reporter) : r.leave.journal = r.journal := by
  unfold leave leave?
  cases r.frames <;> rfl

theorem journal_iterate_leave (r : Reporter) (passed : Nat) :
    (leave^[passed] r).journal = r.journal := by
  induction passed with
  | zero => rfl
  | succ n ih => rw [Function.iterate_succ_apply', journal_leave, ih]

theorem journal_enter (r : Reporter) (c : Context) :
    (r.perform (.enter c)).journal = r.journal := by
  by_cases hc : c.malformed = []
  · rw [perform_enter r hc]
  · rw [perform_enter_of_ne r hc]

/-- A step adds what it reports, and takes nothing back. -/
theorem diagnostics_perform (r : Reporter) (s : Step) :
    (r.perform s).diagnostics = r.diagnostics ++ s.findings r.location := by
  unfold diagnostics
  cases s with
  | enter c => simp [Step.findings, journal_enter]
  | leave => simp [Step.findings, perform, journal_leave]
  | raise passed => simp [Step.findings, perform, journal_iterate_leave]
  | report severity code message location =>
    simp [Step.findings, perform, report, note, Note.finding?]

theorem diagnostics_after (f : Text) (steps : List Step) : (after f steps).diagnostics =
    behind (fun before s => s.findings (after f before).location) [] steps := by
  induction steps using List.reverseRecOn with
  | nil => rfl
  | append_singleton steps s ih =>
    rw [after_append, behind_append, behind_singleton, ← ih]
    exact diagnostics_perform _ s

theorem diagnostics_prefix (f : Text) (steps more : List Step) :
    (after f steps).diagnostics <+: (after f (steps ++ more)).diagnostics := by
  rw [diagnostics_after, diagnostics_after, behind_append]
  exact List.prefix_append _ _

theorem perm_errors_warnings (r : Reporter) : (r.errors ++ r.warnings).Perm r.diagnostics := by
  unfold errors warnings
  have hnot : ∀ d : Diagnostic, (d.severity == .warning) = !(d.severity == .error) := by
    intro d
    cases d.severity <;> rfl
  simp only [hnot]
  exact List.filter_append_perm _ _

/-- **A reporter knows where the run is.**  The innermost frame is told from the open contexts
alone; there is one frame for each of them, and one outside.  Whatever is opened and left again
leaves no trace in the frames, whether contexts end or an exception passes through them, and a
context that is refused changes nothing.  Every diagnostic carries its own location, or else that
of the moment it was reported; none is ever lost, and each is in its place among the errors or
among the warnings. -/
theorem contexts_kept (f : Text) (steps : List Step) :
    (after f steps).location.file = fileAmong f (openContexts steps) ∧
      (∀ v, v = (after f steps).location.line ↔ IsValue Context.line f (openContexts steps) v) ∧
      (∀ v, v = (after f steps).location.label ↔ IsValue Context.label f (openContexts steps) v) ∧
      (after f steps).stack.length = (openContexts steps).length + 1 ∧
      (∀ block, StaysInside steps block →
        (openContexts (steps ++ block)).length = (openContexts steps).length →
        (after f (steps ++ block)).stack = (after f steps).stack ∧
          (after f (steps ++ block)).location = (after f steps).location) ∧
      (∀ c : Context, c.malformed ≠ [] →
        (after f steps).enter c = .error c.malformed ∧
          after f (steps ++ [.enter c]) = after f steps) ∧
      (after f steps).diagnostics =
        behind (fun before s => s.findings (after f before).location) [] steps ∧
      (∀ more, (after f steps).diagnostics <+: (after f (steps ++ more)).diagnostics) ∧
      (after f steps).errors.Sublist (after f steps).diagnostics ∧
      (after f steps).warnings.Sublist (after f steps).diagnostics ∧
      (∀ d ∈ (after f steps).errors, d.severity = .error) ∧
      (∀ d ∈ (after f steps).warnings, d.severity = .warning) ∧
      ((after f steps).errors ++ (after f steps).warnings).Perm (after f steps).diagnostics := by
  have hwellFormed := (isInside_after f steps).wellFormed
  refine ⟨?_, ?_, ?_, length_stack_after f steps, ?_, ?_, diagnostics_after f steps,
    diagnostics_prefix f steps,
    List.filter_sublist, List.filter_sublist, ?_, ?_, perm_errors_warnings _⟩
  · rw [location_after, place_file]
  · rw [location_after]
    exact place_line_iff hwellFormed
  · rw [location_after]
    exact place_label_iff hwellFormed
  · intro block hstays hlength
    have hstack := stack_restored f hstays hlength
    have hheads := congrArg List.head? hstack
    rw [head?_stack, head?_stack] at hheads
    exact ⟨hstack, Option.some.inj hheads⟩
  · intro c hc
    refine ⟨enter_eq_error _ hc, ?_⟩
    rw [after_append]
    exact perform_enter_of_ne _ hc
  · intro d hd
    exact eq_of_beq (List.mem_filter.1 hd).2
  · intro d hd
    exact eq_of_beq (List.mem_filter.1 hd).2

/-- A context in another document is opened at the fourth line of one: it has no line.  An
exception leaves both, and the run is in the first document again; so it is behind a context that
is refused. -/
theorem contexts_kept_raise :
    (after "run".toList ([.enter { file := some "a.md".toList }] ++
        [.enter { line := .given (some 4) }, .enter { file := some "b.md".toList },
          .raise 2])).location =
      (after "run".toList [.enter { file := some "a.md".toList }]).location ∧
    (after "run".toList [.enter { file := some "a.md".toList }, .enter { line := .given (some 4) },
        .enter { file := some "b.md".toList }]).location.line = none ∧
    after "run".toList ([.enter { file := some "a.md".toList }] ++
      [.enter { line := .malformed }]) =
      after "run".toList [.enter { file := some "a.md".toList }] ∧
    (after "run".toList [.enter { file := some "a.md".toList }, .enter { line := .given (some 4) },
        .report .error .headingDepth "deep".toList none]).diagnostics =
      [⟨.headingDepth, .error, "deep".toList, ⟨"a.md".toList, some 4, none⟩⟩] := by
  have hfirst := contexts_kept "run".toList [.enter { file := some "a.md".toList }]
  have hother := contexts_kept "run".toList [.enter { file := some "a.md".toList },
    .enter { line := .given (some 4) }, .enter { file := some "b.md".toList }]
  have hdeep := contexts_kept "run".toList [.enter { file := some "a.md".toList },
    .enter { line := .given (some 4) }, .report .error .headingDepth "deep".toList none]
  have hline := (hother.2.1 _).1 rfl
  refine ⟨(hfirst.2.2.2.2.1 _ (by decide) (by decide)).2, ?_, (hfirst.2.2.2.2.2.1 _ (by decide)).2,
    hdeep.2.2.2.2.2.2.1.trans (by decide)⟩
  refine hline.forgotten [{ file := some "b.md".toList }] _ [{ file := some "a.md".toList }]
    _ rfl ?_ rfl ?_
  · intro c hc
    rw [List.mem_singleton.1 hc]
  · exact ⟨[], _, [], rfl, by decide⟩

end Reporter

end Concordance
