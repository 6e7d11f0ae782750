import Concordance.Proofs.Notation.Joining
import Concordance.Proofs.Notation.Statements
import Mathlib.Data.List.Basic

/-!
# Reading texts joined by line feeds

What the statements of a text say depends on its tokens alone, apart from the text that each
production keeps of what it was read from.  A text that is read ends behind a semicolon, so the
statements of joined texts are those of the one and then those of the other, and so are the
productions.

* `stated_eq`: located tokens state what the tokens alone do.
* `statedBy_append`: tokens that end with a semicolon state what they state before any others.
* `read_append_feed`: two texts that are read make a text that is read, with the productions of
  both.
* `read_unlines`: so do any number of them.
-/

namespace Concordance

/-- A production apart from the text it was read from. -/
def Production.withoutText (p : Production) : Production := { p with text := [] }

namespace Notation

open Grammar (named)
open Text (unlines)

variable {t u : Text} {ps : List Piece} {g h : Grammar}

/-! ## The productions that tokens state -/

/-- Tokens as if all stood at the start of a text. -/
def unlocated (ks : Tokens) : Tokens := ks.map fun k => (0, k.2)

/-- The productions that located tokens of a text state, apart from their texts. -/
def stated (t : Text) (ks : Tokens) : Grammar :=
  ((statements ks).filterMap (rule? t)).map (·.production.withoutText)

/-- The productions that tokens state. -/
def statedBy (ks : List Token) : Grammar := stated [] (ks.map fun k => (0, k))

theorem statements_unlocated (ks : Tokens) :
    statements (unlocated ks) = (statements ks).map unlocated := by
  induction ks with
  | nil => rfl
  | cons k ks ih =>
    have ih : statements (ks.map fun k => (0, k.2)) = (statements ks).map unlocated := ih
    by_cases hk : k.2.kind = .semicolon
    · simp [unlocated, statements, hk, ih]
    · cases hs : statements ks <;> simp [unlocated, statements, hk, ih, hs]

theorem rule?_unlocated (t : Text) (s : Tokens) :
    (rule? [] (unlocated s)).map (·.production.withoutText) =
      (rule? t s).map (·.production.withoutText) := by
  simp only [rule?, unlocated, List.span_eq_takeWhile_dropWhile, List.takeWhile_map,
    List.dropWhile_map, List.head?_map, List.getLast?_map, ← List.map_drop, Function.comp_def]
  cases (s.takeWhile fun k => k.2.kind != .colon).head? with
  | none => rfl
  | some first =>
    cases (s.takeWhile fun k => k.2.kind != .colon).getLast? with
    | none => rfl
    | some name =>
      cases (s.dropWhile fun k => k.2.kind != .colon).drop 1 with
      | nil => rfl
      | cons k body =>
        cases s.getLast? with
        | none => rfl
        | some stop =>
          simp only [Option.map_some, Production.withoutText, List.map_dropLast,
            List.map_cons, List.map_map]
          rfl

theorem stated_eq (t : Text) (ks : Tokens) : stated t ks = statedBy (ks.map (·.2)) := by
  have hunlocated : (ks.map (·.2)).map (fun k => (0, k)) = unlocated ks := List.map_map
  rw [statedBy, hunlocated, stated, stated, statements_unlocated, List.map_filterMap,
    List.map_filterMap, List.filterMap_map]
  exact List.filterMap_congr fun s _ => (rule?_unlocated t s).symm

theorem statements_ne_nil {ks : Tokens} (h : ks ≠ []) : statements ks ≠ [] := by
  obtain ⟨k, ks, rfl⟩ := List.exists_cons_of_ne_nil h
  rw [statements]
  split
  · exact List.cons_ne_nil _ _
  · split <;> exact List.cons_ne_nil _ _

theorem statements_append {ks : Tokens}
    (h : ∀ k ∈ ks.getLast?, k.2.kind = .semicolon) (js : Tokens) :
    statements (ks ++ js) = statements ks ++ statements js := by
  induction ks with
  | nil => rfl
  | cons k ks ih =>
    by_cases hk : k.2.kind = .semicolon
    · have hrest : ∀ k ∈ ks.getLast?, k.2.kind = .semicolon :=
        fun j hj => h j (List.mem_getLast?_cons hj)
      rw [List.cons_append, statements, statements, if_pos hk, if_pos hk, ih hrest,
        List.cons_append]
    · cases ks with
      | nil => exact absurd (h k rfl) hk
      | cons j ks =>
        have hrest : ∀ k ∈ (j :: ks).getLast?, k.2.kind = .semicolon := by
          rwa [List.getLast?_cons_cons] at h
        obtain ⟨s, ss, hs⟩ :=
          List.exists_cons_of_ne_nil (statements_ne_nil (List.cons_ne_nil j ks))
        rw [List.cons_append, statements, statements, if_neg hk, if_neg hk, ih hrest, hs]
        rfl

theorem statedBy_append {ks : List Token} (h : ∀ k ∈ ks.getLast?, k.kind = .semicolon)
    (js : List Token) :
    statedBy (ks ++ js) = statedBy ks ++ statedBy js := by
  have hlast : ∀ k ∈ (ks.map fun k => (0, k)).getLast?, k.2.kind = .semicolon := by
    intro k hk
    rw [List.getLast?_map] at hk
    obtain ⟨j, hj, rfl⟩ := Option.map_eq_some_iff.1 hk
    exact h j hj
  simp only [statedBy, stated, List.map_append, statements_append hlast, List.filterMap_append]

/-! ## The ends of texts -/

/-- Only a semicolon leads to a place between rules. -/
theorem kind_getLast?_of_runs {p q : Place} {ks : List Token} (h : orderly.Runs p ks q)
    (hq : q.phase = .top) :
    ∀ k ∈ ks.getLast?, k.kind = .semicolon := by
  induction h with
  | nil => exact fun k hk => by cases hk
  | @cons p p' q k ks hn _ _ hrest ih =>
    cases hrest with
    | nil =>
      intro j hj
      obtain rfl := Option.some.inj hj
      exact (eq_semicolon_of_next?_top hn hq).1
    | cons =>
      rw [List.getLast?_cons_cons]
      exact ih hq

theorem kind_getLast?_tokensOf (h : orderly.Cuts ⟨.top, 0⟩ t ps) :
    ∀ k ∈ (tokensOf ps).getLast?, k.kind = .semicolon := by
  obtain ⟨q, hend, hruns⟩ := h.runs
  exact kind_getLast?_of_runs hruns (beq_iff_eq.1 hend)

/-! ## Reading -/

/-- The named productions of a text that is read are those its tokens state, apart from their
texts. -/
theorem named_read_eq {source : Text} (h : read t source = .ok g) :
    ∃ ps, orderly.Cuts ⟨.top, 0⟩ t ps ∧
      (named g).map Production.withoutText = statedBy (tokensOf ps) := by
  obtain ⟨ps, hps, hnamed⟩ := named_read h
  refine ⟨ps, hps, ?_⟩
  rw [hnamed, List.map_map, ← tokens_locate 0, ← stated_eq t]
  rfl

/-- Two texts that are read make a text that is read, and its named productions are those of the
two. -/
theorem read_append_feed {a b : Text} (ht : read t a = .ok g)
    (hu : read u b = .ok h) (source : Text) :
    ∃ k, read (t ++ '\n' :: u) source = .ok k ∧
      (named k).map Production.withoutText =
        (named g).map Production.withoutText ++ (named h).map Production.withoutText := by
  obtain ⟨ps, hps, hg⟩ := named_read_eq ht
  obtain ⟨us, hus, hh⟩ := named_read_eq hu
  have hvs := orderly_append_feed hps hus
  have htokens := tokensOf_seamed ps us
  obtain ⟨ps', qs, -, hqs, -⟩ := read_eq_ok.1 ht
  obtain ⟨us', ws, -, hws, -⟩ := read_eq_ok.1 hu
  obtain ⟨xs, hxs, -⟩ := hqs.append_feed fun _ _ => ⟨ws, hws, rfl⟩
  have hread : ∃ k, read (t ++ '\n' :: u) source = .ok k :=
    ⟨_, read_eq_ok.2 ⟨_, xs, hvs, hxs, rfl⟩⟩
  obtain ⟨k, hk⟩ := hread
  obtain ⟨vs', hvs', hnamed⟩ := named_read_eq hk
  obtain rfl := hvs.unique hvs'
  exact ⟨k, hk, by rw [hnamed, htokens, statedBy_append (kind_getLast?_tokensOf hps), hg, hh]⟩

theorem read_nil (source : Text) : read [] source = .ok [] := rfl

/-- **Texts that are read make a text that is read**: joined by line feeds, they have the named
productions of all of them, in order. -/
theorem read_unlines {codes : List Text} {gs : List Grammar}
    (h : List.Forall₂ (fun code g => ∃ source, read code source = .ok g) codes gs)
    (source : Text) :
    ∃ k, read (unlines codes) source = .ok k ∧
      (named k).map Production.withoutText =
        gs.flatMap fun g => (named g).map Production.withoutText := by
  induction h with
  | nil => exact ⟨[], read_nil source, rfl⟩
  | @cons code g codes gs hcode hrest ih =>
    obtain ⟨a, hcode⟩ := hcode
    obtain ⟨k, hk, hnamed⟩ := ih
    rw [List.flatMap_cons]
    cases hrest with
    | nil =>
      have hread : read code source = .ok g := read_eq_ok.2 (read_eq_ok.1 hcode)
      exact ⟨g, hread, (List.append_nil _).symm⟩
    | cons =>
      obtain ⟨k', hk', hnamed'⟩ := read_append_feed hcode hk source
      rw [Text.unlines_cons _ (List.cons_ne_nil _ _)]
      exact ⟨k', hk', by rw [hnamed', hnamed]⟩

end Notation

end Concordance
