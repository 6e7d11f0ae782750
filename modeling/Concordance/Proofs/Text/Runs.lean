import Concordance.Proofs.Text.Pieces
import Mathlib.Data.List.Chain

/-!
# Runs with separators between them

The runs of characters of one kind, and the texts that are made of runs with a single separator
between neighbours: titles, slugs and texts on one line are of this form.

* `runs_append_cons`: a character of no run cuts the runs.  All that is said about runs follows
  from this equation and from `runs_of_forall`.
* `flatten_runs`: the runs hold the characters of their kind, and no others.
* `IsSpaced` is the form, and `joinWith_runs_eq_self_iff` says that joining the runs of a text
  brings it into this form and leaves exactly the texts of this form alone.
* `IsSpaced.head`, `IsSpaced.last` and `IsSpaced.not_doubled`: where separators cannot stand.
-/

namespace Concordance.Text

variable {p : Char → Bool} {sep c : Char} {run t w : Text} {ws : List Text}

/-! ## Runs -/

theorem runsFrom_nil (p : Char → Bool) (run : Text) :
    runsFrom p run [] = if run.isEmpty then [] else [run.reverse] :=
  rfl

theorem runsFrom_cons_of_pos (hc : p c = true) (run t : Text) :
    runsFrom p run (c :: t) = runsFrom p (c :: run) t :=
  if_pos hc

/-- A character of no run ends the run before it. -/
theorem runsFrom_cons_of_neg (hc : p c = false) (run t : Text) :
    runsFrom p run (c :: t) = runsFrom p run [] ++ runs p t := by
  have hcons : runsFrom p run (c :: t) =
      if run.isEmpty then runsFrom p [] t else run.reverse :: runsFrom p [] t :=
    if_neg (by simp [hc])
  rw [hcons, runsFrom_nil]
  split <;> rfl

theorem mem_runsFrom (hrun : ∀ c ∈ run, p c = true) (h : w ∈ runsFrom p run t) :
    w ≠ [] ∧ ∀ c ∈ w, p c = true := by
  have hlast {run : Text} (hrun : ∀ c ∈ run, p c = true) (h : w ∈ runsFrom p run []) :
      w ≠ [] ∧ ∀ c ∈ w, p c = true := by
    rw [runsFrom_nil] at h
    split at h
    · cases h
    · rename_i hne
      obtain rfl := List.mem_singleton.1 h
      exact ⟨by simpa using hne, by simpa using hrun⟩
  induction t generalizing run with
  | nil => exact hlast hrun h
  | cons d t ih =>
    cases hd : p d with
    | true =>
      rw [runsFrom_cons_of_pos hd] at h
      exact ih (by simpa using ⟨hd, hrun⟩) h
    | false =>
      rw [runsFrom_cons_of_neg hd] at h
      rcases List.mem_append.1 h with h | h
      · exact hlast hrun h
      · exact ih (by simp) h

/-- The characters of a run are of its kind. -/
theorem mem_runs (h : w ∈ runs p t) : ∀ c ∈ w, p c = true :=
  (mem_runsFrom (by simp) h).2

theorem ne_nil_of_mem_runs (h : w ∈ runs p t) : w ≠ [] :=
  (mem_runsFrom (by simp) h).1

theorem runsFrom_append_cons (hc : p c = false) (run t u : Text) :
    runsFrom p run (t ++ c :: u) = runsFrom p run t ++ runs p u := by
  induction t generalizing run with
  | nil => exact runsFrom_cons_of_neg hc run u
  | cons d t ih =>
    cases hd : p d with
    | true => rw [List.cons_append, runsFrom_cons_of_pos hd, runsFrom_cons_of_pos hd, ih]
    | false =>
      have hrest : runs p (t ++ c :: u) = runs p t ++ runs p u := ih []
      rw [List.cons_append, runsFrom_cons_of_neg hd, runsFrom_cons_of_neg hd, hrest,
        List.append_assoc]

/-- A character of no run cuts the runs. -/
theorem runs_append_cons (hc : p c = false) (t u : Text) :
    runs p (t ++ c :: u) = runs p t ++ runs p u :=
  runsFrom_append_cons hc [] t u

theorem runsFrom_of_forall (h : ∀ c ∈ w, p c = true) (run : Text) :
    runsFrom p run w = runsFrom p (w.reverse ++ run) [] := by
  induction w generalizing run with
  | nil => rfl
  | cons c w ih =>
    rw [runsFrom_cons_of_pos (h c List.mem_cons_self),
      ih fun d hd => h d (List.mem_cons_of_mem _ hd)]
    simp

/-- A text of one kind is its only run. -/
theorem runs_of_forall (hne : w ≠ []) (h : ∀ c ∈ w, p c = true) : runs p w = [w] := by
  rw [runs, runsFrom_of_forall h, runsFrom_nil, List.append_nil, if_neg (by simpa using hne),
    List.reverse_reverse]

/-- What is in front of a text and of another kind belongs to no run. -/
theorem runs_append_left {s : Text} (h : ∀ c ∈ s, p c = false) (t : Text) :
    runs p (s ++ t) = runs p t := by
  induction s with
  | nil => rfl
  | cons c s ih =>
    have hcons : runs p (c :: (s ++ t)) = runs p (s ++ t) :=
      runs_append_cons (h c List.mem_cons_self) [] (s ++ t)
    rw [List.cons_append, hcons, ih fun d hd => h d (List.mem_cons_of_mem _ hd)]

/-- So does what is behind it. -/
theorem runs_append_right {s : Text} (h : ∀ c ∈ s, p c = false) (t : Text) :
    runs p (t ++ s) = runs p t := by
  cases s with
  | nil => rw [List.append_nil]
  | cons c s =>
    have hnone := runs_append_left (fun d hd => h d (List.mem_cons_of_mem _ hd)) []
    rw [runs_append_cons (h c List.mem_cons_self), ← List.append_nil s, hnone]
    exact List.append_nil _

theorem flatten_runsFrom (p : Char → Bool) (run t : Text) :
    (runsFrom p run t).flatten = run.reverse ++ t.filter p := by
  have hlast (run : Text) : (runsFrom p run []).flatten = run.reverse := by
    rw [runsFrom_nil]
    split
    · rename_i hnil
      simp [List.isEmpty_iff.1 hnil]
    · simp
  induction t generalizing run with
  | nil => rw [hlast, List.filter_nil, List.append_nil]
  | cons c t ih =>
    cases hc : p c with
    | true => rw [runsFrom_cons_of_pos hc, ih, List.filter_cons_of_pos hc, List.reverse_cons,
        ← List.append_cons]
    | false =>
      rw [runsFrom_cons_of_neg hc, List.flatten_append, hlast, runs, ih,
        List.filter_cons_of_neg (by simp [hc])]
      rfl

/-- The runs hold the characters of their kind, and no others. -/
theorem flatten_runs (p : Char → Bool) (t : Text) : (runs p t).flatten = t.filter p :=
  flatten_runsFrom p [] t

theorem runs_eq_nil_iff : runs p t = [] ↔ ∀ c ∈ t, p c = false := by
  constructor
  · intro h c hc
    have hnone : t.filter p = [] := by rw [← flatten_runs, h, List.flatten_nil]
    simpa using List.filter_eq_nil_iff.1 hnone c hc
  · intro h
    have hnone := runs_append_left h []
    rwa [List.append_nil] at hnone

/-! ## Separators -/

/-- Runs of characters of one kind with a single separator between neighbours. -/
def IsSpaced (p : Char → Bool) (sep : Char) (t : Text) : Prop :=
  ∃ ws, (∀ w ∈ ws, w ≠ [] ∧ ∀ c ∈ w, p c = true) ∧ t = joinWith [sep] ws

theorem joinWith_eq_nil_iff (hws : ∀ w ∈ ws, w ≠ []) : joinWith [sep] ws = [] ↔ ws = [] := by
  cases ws with
  | nil => simp [joinWith]
  | cons w ws =>
    have hw : w ≠ [] := hws w List.mem_cons_self
    cases ws <;> simp [joinWith, hw]

theorem isSpaced_joinWith_runs (p : Char → Bool) (sep : Char) (t : Text) :
    IsSpaced p sep (joinWith [sep] (runs p t)) :=
  ⟨runs p t, fun _ hw => ⟨ne_nil_of_mem_runs hw, mem_runs hw⟩, rfl⟩

/-- Words of one kind are found again in the text they are joined to. -/
theorem runs_joinWith (hsep : p sep = false) (hws : ∀ w ∈ ws, w ≠ [] ∧ ∀ c ∈ w, p c = true) :
    runs p (joinWith [sep] ws) = ws := by
  induction ws with
  | nil => rfl
  | cons w ws ih =>
    obtain ⟨hne, hw⟩ := hws w List.mem_cons_self
    cases ws with
    | nil => exact runs_of_forall hne hw
    | cons v ws =>
      rw [joinWith_cons_cons, List.append_assoc, List.singleton_append, runs_append_cons hsep,
        runs_of_forall hne hw,
        ih fun u hu => hws u (List.mem_cons_of_mem _ hu), List.singleton_append]

/-- Exactly the texts of the form are left alone. -/
theorem joinWith_runs_eq_self_iff (hsep : p sep = false) :
    joinWith [sep] (runs p t) = t ↔ IsSpaced p sep t := by
  constructor
  · intro h
    rw [← h]
    exact isSpaced_joinWith_runs p sep t
  · rintro ⟨ws, hws, rfl⟩
    rw [runs_joinWith hsep hws]

namespace IsSpaced

theorem mem (h : IsSpaced p sep t) (hc : c ∈ t) : p c = true ∨ c = sep := by
  obtain ⟨ws, hws, rfl⟩ := h
  rcases mem_joinWith hc with hc | ⟨w, hw, hc⟩
  · exact Or.inr (List.mem_singleton.1 hc)
  · exact Or.inl ((hws w hw).2 c hc)

/-- The first character is no separator. -/
theorem head (h : IsSpaced p sep t) (hc : c ∈ t.head?) : p c = true := by
  obtain ⟨ws, hws, rfl⟩ := h
  cases ws with
  | nil => simp [joinWith] at hc
  | cons w ws =>
    obtain ⟨hne, hw⟩ := hws w List.mem_cons_self
    obtain ⟨d, w, rfl⟩ := List.exists_cons_of_ne_nil hne
    have hcd : d = c := by
      cases ws with
      | nil => simpa [joinWith] using hc
      | cons v ws => simpa [joinWith] using hc
    exact hcd ▸ hw d List.mem_cons_self

/-- The last character is no separator. -/
theorem last (h : IsSpaced p sep t) (hc : c ∈ t.getLast?) : p c = true := by
  obtain ⟨ws, hws, rfl⟩ := h
  induction ws with
  | nil => simp [joinWith] at hc
  | cons w ws ih =>
    have hw := (hws w List.mem_cons_self).2
    have hws := fun v hv => hws v (List.mem_cons_of_mem _ hv)
    cases ws with
    | nil => exact hw c (List.mem_of_mem_getLast? hc)
    | cons v ws =>
      have hjoin : joinWith [sep] (v :: ws) ≠ [] := by
        rw [ne_eq, joinWith_eq_nil_iff fun u hu => (hws u hu).1]
        exact List.cons_ne_nil v ws
      refine ih hws ?_
      rwa [joinWith_cons_cons, List.getLast?_append,
        Option.or_of_isSome (by simpa using hjoin)] at hc

/-- Of two neighbours one is no separator. -/
theorem isChain (h : IsSpaced p sep t) : t.IsChain fun c d => p c = true ∨ p d = true := by
  obtain ⟨ws, hws, rfl⟩ := h
  induction ws with
  | nil => exact List.isChain_nil
  | cons w ws ih =>
    have hw := (hws w List.mem_cons_self).2
    have hws := fun v hv => hws v (List.mem_cons_of_mem _ hv)
    have hword : w.IsChain fun c d => p c = true ∨ p d = true :=
      (List.pairwise_of_forall_mem_list fun c hc _ _ => Or.inl (hw c hc)).isChain
    cases ws with
    | nil => exact hword
    | cons v ws =>
      have hrest : IsSpaced p sep (joinWith [sep] (v :: ws)) := ⟨v :: ws, hws, rfl⟩
      rw [joinWith_cons_cons, List.isChain_append, List.isChain_append]
      refine ⟨⟨hword, List.isChain_singleton sep, ?_⟩, ih hws, ?_⟩
      · intro c hc _ _
        exact Or.inl (hw c (List.mem_of_mem_getLast? hc))
      · intro _ _ d hd
        exact Or.inr (hrest.head hd)

/-- Two separators never stand side by side. -/
theorem not_doubled (hsep : p sep = false) (h : IsSpaced p sep t) : ¬ [sep, sep] <:+: t := by
  intro hinfix
  have hpair : [sep, sep].IsChain fun c d => p c = true ∨ p d = true :=
    List.IsChain.infix h.isChain hinfix
  simp [hsep] at hpair

end IsSpaced

end Concordance.Text
