import Concordance.Readme.Plan
import Mathlib.Data.List.Nodup

/-!
# Following the plan

The pass answers each entry of the index document by itself: it wants the entry removed, or it
wants some headings listed directly before it.  `responses` records these answers, and `follow` is
the index document after every answer has been carried out.

* `planFrom_eq_flatMap`: the edits of the plan are those of the answers, entry by entry.
* `planFrom_respond`: over what stands in an entry's stead, a second pass says nothing, and goes on
  expecting the heading that the first one went on with.
* Hence a second pass over the edited entries says nothing at all.
-/

namespace Concordance.Readme

/-! ## The answer to one entry -/

/-- What the pass wants done about an entry. -/
inductive Response where
  /-- The entry lists no heading. -/
  | remove
  /-- The entry stays; the headings that it skips, if any, are to be listed directly before it. -/
  | keep (skipped : List Section)
  deriving DecidableEq, Repr

/-- The answer to an entry when the headings before `expected` have been dealt with, and how many
have been dealt with behind it. -/
def respond (headings : List Section) (expected : Nat) (e : Entry) : Response × Nat :=
  match position? headings e with
  | none => (.remove, expected)
  | some p =>
    if p < expected then (.keep [], expected)
    else (.keep ((headings.drop expected).take (p - expected)), p + 1)

/-- Each entry with its answer. -/
def responses (headings : List Section) (expected : Nat) : List Entry → List (Entry × Response)
  | [] => []
  | e :: es =>
    (e, (respond headings expected e).1) :: responses headings (respond headings expected e).2 es

/-- The edits that tell of an answer. -/
def Response.edits (e : Entry) : Response → List Edit
  | .remove => [removal e]
  | .keep skipped => skipped.map (insertion e.location)

/-- The edits of the plan are those of the answers, entry by entry. -/
theorem planFrom_eq_flatMap (headings : List Section) (expected : Nat) (es : List Entry) :
    planFrom headings expected es =
      (responses headings expected es).flatMap fun a => a.2.edits a.1 := by
  induction es generalizing expected with
  | nil => rfl
  | cons e es ih =>
    rw [planFrom, responses, List.flatMap_cons, ← ih, respond]
    cases position? headings e with
    | none => rfl
    | some p =>
      by_cases hp : p < expected
      · simp only [hp, if_true]
        rfl
      · simp only [hp, if_false]
        rfl

/-! ## Carrying the answers out -/

/-- An entry that lists a heading. -/
def Entry.listing (location : Location) (h : Section) : Entry :=
  ⟨h.level, h.title, h.anchor, location⟩

/-- What stands in an entry's stead when its answer has been carried out.  Where a new entry is
located is up to whoever writes it. -/
def Response.entries (locate : Entry → Section → Location) (e : Entry) : Response → List Entry
  | .remove => []
  | .keep skipped => skipped.map (fun h => Entry.listing (locate e h) h) ++ [e]

/-- The index document after the answers to entries have been carried out. -/
def followFrom (locate : Entry → Section → Location) (headings : List Section) (expected : Nat)
    (es : List Entry) : List Entry :=
  (responses headings expected es).flatMap fun a => a.2.entries locate a.1

/-- The index document after the whole plan has been carried out. -/
def follow (locate : Entry → Section → Location) (headings : List Section) (es : List Entry) :
    List Entry :=
  followFrom locate headings 0 es

/-! ## The second pass -/

section

variable {headings : List Section}

theorem position?_lt {e : Entry} {p : Nat} (h : position? headings e = some p) :
    p < headings.length :=
  (List.findIdx?_eq_some_iff_getElem.1 h).1

/-- With distinct keys, and anchors that a link keeps, an entry that lists a heading is found at
that heading. -/
theorem position?_listing (hkeys : (headings.map fun h => (h.level, h.anchor)).Nodup)
    (hanchors : ∀ h ∈ headings, linkAnchor h.anchor = h.anchor) {i : Nat}
    (hi : i < headings.length) (location : Location) :
    position? headings (Entry.listing location headings[i]) = some i := by
  rw [position?, List.findIdx?_eq_some_iff_getElem]
  refine ⟨hi, ?_, ?_⟩
  · simp [Entry.listing, hanchors _ (List.getElem_mem hi)]
  · intro j hj hp
    simp only [Entry.listing, hanchors _ (List.getElem_mem hi), Bool.and_eq_true, beq_iff_eq] at hp
    have hlength : (headings.map fun h => (h.level, h.anchor)).length = headings.length := by simp
    have hj : j < (headings.map fun h => (h.level, h.anchor)).length := by omega
    have hi : i < (headings.map fun h => (h.level, h.anchor)).length := by omega
    have hkey : (headings.map fun h => (h.level, h.anchor))[j] =
        (headings.map fun h => (h.level, h.anchor))[i] := by
      simp [hp.1, hp.2]
    have hij : j = i := (List.Nodup.getElem_inj_iff hkeys).1 hkey
    omega

theorem planFrom_cons_expected {e : Entry} {p : Nat} (h : position? headings e = some p)
    (es : List Entry) : planFrom headings p (e :: es) = planFrom headings (p + 1) es := by
  rw [planFrom, h]
  simp

/-- Over entries that list the next headings in order the pass says nothing. -/
theorem planFrom_listing (hkeys : (headings.map fun h => (h.level, h.anchor)).Nodup)
    (hanchors : ∀ h ∈ headings, linkAnchor h.anchor = h.anchor) (locate : Section → Location)
    (n : Nat) {expected : Nat} (hn : expected + n ≤ headings.length) (es : List Entry) :
    planFrom headings expected
        (((headings.drop expected).take n).map (fun h => Entry.listing (locate h) h) ++ es) =
      planFrom headings (expected + n) es := by
  induction n generalizing expected with
  | zero => simp
  | succ n ih =>
    have hlt : expected < headings.length := by omega
    rw [List.drop_eq_getElem_cons hlt, List.take_succ_cons, List.map_cons, List.cons_append,
      planFrom_cons_expected (position?_listing hkeys hanchors hlt _), ih (by omega)]
    congr 1
    omega

/-- The second pass keeps in step with the first over what stands in an entry's stead, and says
nothing about it. -/
theorem planFrom_respond (hkeys : (headings.map fun h => (h.level, h.anchor)).Nodup)
    (hanchors : ∀ h ∈ headings, linkAnchor h.anchor = h.anchor)
    (locate : Entry → Section → Location) (expected : Nat) (e : Entry) (es : List Entry) :
    planFrom headings expected ((respond headings expected e).1.entries locate e ++ es) =
      planFrom headings (respond headings expected e).2 es := by
  rw [respond]
  cases hpos : position? headings e with
  | none => rfl
  | some p =>
    by_cases hp : p < expected
    · simp only [hp, if_true, Response.entries, List.map_nil, List.nil_append]
      rw [List.singleton_append, planFrom, hpos]
      simp only [hp, if_true]
    · have hlen : p < headings.length := position?_lt hpos
      simp only [hp, if_false, Response.entries, List.append_assoc]
      rw [planFrom_listing hkeys hanchors (locate e) (p - expected) (by omega),
        show expected + (p - expected) = p by omega, List.singleton_append,
        planFrom_cons_expected hpos]

theorem planFrom_followFrom (hkeys : (headings.map fun h => (h.level, h.anchor)).Nodup)
    (hanchors : ∀ h ∈ headings, linkAnchor h.anchor = h.anchor)
    (locate : Entry → Section → Location) (expected : Nat) (es : List Entry) :
    planFrom headings expected (followFrom locate headings expected es) = [] := by
  induction es generalizing expected with
  | nil => rfl
  | cons e es ih =>
    rw [followFrom, responses, List.flatMap_cons, planFrom_respond hkeys hanchors]
    exact ih _

/-- **Following the plan converges.**  If no two headings share level and anchor, and no anchor is
changed by reducing it like a link, then the plan for the entries that the plan leads to is
empty. -/
theorem plan_follow (hkeys : (headings.map fun h => (h.level, h.anchor)).Nodup)
    (hanchors : ∀ h ∈ headings, linkAnchor h.anchor = h.anchor)
    (locate : Entry → Section → Location) (entries : List Entry) :
    plan headings entries = (responses headings 0 entries).flatMap (fun a => a.2.edits a.1) ∧
      plan headings (follow locate headings entries) = [] :=
  ⟨planFrom_eq_flatMap headings 0 entries, planFrom_followFrom hkeys hanchors locate 0 entries⟩

end

/-- Three headings, and an index document that lists an unknown one, jumps to the last one and then
points back: its plan has three edits, and following it leaves nothing to do. -/
theorem plan_follow_jump :
    ∃ (headings : List Section) (entries : List Entry),
      (headings.map fun h => (h.level, h.anchor)).Nodup ∧
      (∀ h ∈ headings, linkAnchor h.anchor = h.anchor) ∧
      (plan headings entries).length = 3 ∧
      plan headings (follow (fun e _ => e.location) headings entries) = [] := by
  refine ⟨[⟨1, "1".toList, "X".toList, "a.md#x".toList, "a.md".toList⟩,
      ⟨2, "1.1".toList, "Y".toList, "a.md#y".toList, "a.md".toList⟩,
      ⟨1, "2".toList, "Z".toList, "b.md#z".toList, "b.md".toList⟩],
    [⟨3, "X".toList, "a.md#x".toList, {}⟩, ⟨1, "Z".toList, "d/b.md#z".toList, {}⟩,
      ⟨2, "Y".toList, "a.md#y".toList, {}⟩],
    by decide, by decide, by decide, ?_⟩
  exact (plan_follow (by decide) (by decide) _ _).2

end Concordance.Readme
