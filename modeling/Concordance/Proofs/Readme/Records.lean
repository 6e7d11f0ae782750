import Concordance.Proofs.Model.Pass
import Concordance.Readme.Plan
import Mathlib.Data.List.Induction
import Mathlib.Order.Bounds.Defs

/-!
# The plan, told from the entries before

What the plan says about an entry is told from the entries before it.  An entry is a record if it
lists a heading behind those that all entries before it list.  Only a record asks for insertions:
of the headings between the record before it and its own.  The invariant that carries this is that
the pass expects the heading next to the last record, and that this is the heading next to the last
one listed so far (`lt_next_iff`).

* `plan_eq_behind`: the edits of the plan, entry by entry.
* `count_inserted_add`: up to the last heading that is listed, each heading is inserted or is that
  of a record, once.
* `reconcile_eq`: what is reported about a plan.
-/

namespace Concordance.Readme

/-! ## Positions and records -/

/-- The positions of those entries that list a heading. -/
def positions (headings : List Section) (es : List Entry) : List Nat :=
  es.filterMap (position? headings)

/-- The position of an entry behind others, if it is a record: if it exceeds all positions before
it. -/
def recordAt (headings : List Section) (before : List Entry) (e : Entry) : List Nat :=
  ((position? headings e).filter fun p => (positions headings before).all (· < p)).toList

/-- The positions of the records among entries. -/
def records (headings : List Section) (es : List Entry) : List Nat :=
  behind (recordAt headings) [] es

/-- The headings strictly between a position, or the very beginning, and another position, each
with its own. -/
def between (headings : List Section) (low : Option Nat) (high : Nat) : List (Section × Nat) :=
  headings.zipIdx.filter fun x => low.all (· < x.2) && x.2 < high

/-- The headings that an entry skips: if it is a record, those between the record before it and its
own position. -/
def skippedAt (headings : List Section) (before : List Entry) (e : Entry) : List (Section × Nat) :=
  (recordAt headings before e).flatMap (between headings (records headings before).getLast?)

/-- The edits for an entry behind others. -/
def editsAt (headings : List Section) (before : List Entry) (e : Entry) : List Edit :=
  match position? headings e with
  | none => [removal e]
  | some _ => (skippedAt headings before e).map fun x => insertion e.location x.1

/-- The headings that entries skip, in the order in which they are to be inserted. -/
def inserted (headings : List Section) (es : List Entry) : List (Section × Nat) :=
  behind (skippedAt headings) [] es

/-- One past the position of the last record. -/
def next (headings : List Section) (es : List Entry) : Nat :=
  (records headings es).getLast?.elim 0 (· + 1)

section

variable {headings : List Section} {before es : List Entry} {e : Entry} {p : Nat}

/-- The position of an entry is the least one of a heading with its level and its link. -/
theorem position?_eq_some_iff_isLeast :
    position? headings e = some p ↔
      IsLeast {i | ∃ h, headings[i]? = some h ∧ h.level = e.level ∧
        h.anchor = linkAnchor e.anchor} p := by
  have hlisted : ∀ h : Section, (h.level == e.level && h.anchor == linkAnchor e.anchor) = true ↔
      h.level = e.level ∧ h.anchor = linkAnchor e.anchor := by simp
  rw [position?, List.findIdx?_eq_some_iff_getElem]
  constructor
  · rintro ⟨hp, hlists, hmin⟩
    refine ⟨⟨headings[p], List.getElem?_eq_getElem hp, (hlisted _).1 hlists⟩, ?_⟩
    rintro i ⟨h, hi, hh⟩
    refine Nat.not_lt.1 fun hip => hmin i hip ?_
    obtain ⟨hlt, rfl⟩ := List.getElem?_eq_some_iff.1 hi
    exact (hlisted _).2 hh
  · rintro ⟨⟨h, hp, hh⟩, hmin⟩
    obtain ⟨hlt, rfl⟩ := List.getElem?_eq_some_iff.1 hp
    refine ⟨hlt, (hlisted _).2 hh, fun j hjp hj => ?_⟩
    have hjlt : j < headings.length := Nat.lt_trans hjp hlt
    exact Nat.not_lt.2 (hmin ⟨headings[j], List.getElem?_eq_getElem hjlt, (hlisted _).1 hj⟩) hjp

theorem recordAt_of_none (h : position? headings e = none) : recordAt headings before e = [] := by
  rw [recordAt, h]
  rfl

theorem recordAt_of_some (before : List Entry) (h : position? headings e = some p) :
    recordAt headings before e = if ∀ q ∈ positions headings before, q < p then [p] else [] := by
  rw [recordAt, h, Option.filter_some]
  by_cases hall : ∀ q ∈ positions headings before, q < p
  · rw [if_pos hall, if_pos (by simpa using hall)]
    rfl
  · rw [if_neg hall, if_neg (by simpa using hall)]
    rfl

/-! ## What the pass expects -/

theorem positions_append_singleton :
    positions headings (es ++ [e]) = positions headings es ++ (position? headings e).toList := by
  cases h : position? headings e <;> simp [positions, h]

theorem records_append_singleton :
    records headings (es ++ [e]) = records headings es ++ recordAt headings es e := by
  rw [records, behind_append, behind_singleton, List.nil_append, records]

theorem inserted_append_singleton :
    inserted headings (es ++ [e]) = inserted headings es ++ skippedAt headings es e := by
  rw [inserted, behind_append, behind_singleton, List.nil_append, inserted]

theorem next_of_recordAt_nil (h : recordAt headings es e = []) :
    next headings (es ++ [e]) = next headings es := by
  rw [next, records_append_singleton, h, List.append_nil, next]

theorem next_of_recordAt_singleton (h : recordAt headings es e = [p]) :
    next headings (es ++ [e]) = p + 1 := by
  rw [next, records_append_singleton, h, List.getLast?_concat]
  rfl

/-- What stands before the heading next to the last record is what stands before one that is
listed. -/
theorem lt_next_iff {i : Nat} : i < next headings es ↔ ∃ q ∈ positions headings es, i ≤ q := by
  induction es using List.reverseRecOn with
  | nil => simp [next, records, behind, positions]
  | append_singleton es e ih =>
    rw [positions_append_singleton]
    cases hp : position? headings e with
    | none => rw [next_of_recordAt_nil (recordAt_of_none hp), ih, Option.toList_none,
        List.append_nil]
    | some p =>
      by_cases hall : ∀ q ∈ positions headings es, q < p
      · rw [next_of_recordAt_singleton ((recordAt_of_some es hp).trans (if_pos hall)),
          Nat.lt_succ_iff]
        constructor
        · exact fun hi => ⟨p, by simp, hi⟩
        · rintro ⟨q, hq, hi⟩
          rcases List.mem_append.1 hq with hq | hq
          · exact Nat.le_trans hi (Nat.le_of_lt (hall q hq))
          · obtain rfl : q = p := by simpa using hq
            exact hi
      · rw [next_of_recordAt_nil ((recordAt_of_some es hp).trans (if_neg hall)), ih]
        constructor
        · rintro ⟨q, hq, hi⟩
          exact ⟨q, List.mem_append_left _ hq, hi⟩
        · rintro ⟨q, hq, hi⟩
          rcases List.mem_append.1 hq with hq | hq
          · exact ⟨q, hq, hi⟩
          · obtain rfl : q = p := by simpa using hq
            obtain ⟨m, hm, hpm⟩ : ∃ m ∈ positions headings es, q ≤ m := by simpa using hall
            exact ⟨m, hm, Nat.le_trans hi hpm⟩

/-- An entry is a record exactly if the pass has not come past its heading. -/
theorem forall_lt_iff_next_le : (∀ q ∈ positions headings es, q < p) ↔ next headings es ≤ p := by
  rw [← Nat.not_lt, lt_next_iff]
  simp

/-! ## The headings between two positions -/

/-- Of elements with their places, those between two places stand next to each other. -/
theorem filter_zipIdx {α : Type} (xs : List α) (k low high : Nat) :
    (xs.zipIdx k).filter (fun x => decide (low ≤ x.2) && decide (x.2 < high)) =
      ((xs.zipIdx k).drop (low - k)).take (high - max k low) := by
  induction xs generalizing k with
  | nil => simp
  | cons x xs ih =>
    rw [List.zipIdx_cons, List.filter_cons, ih]
    by_cases hlow : low ≤ k
    · have hdrop : low - (k + 1) = 0 ∧ low - k = 0 := by omega
      have hmax : max (k + 1) low = k + 1 ∧ max k low = k := by omega
      simp only [hlow, hdrop, hmax, decide_true, Bool.true_and, List.drop_zero, decide_eq_true_eq]
      by_cases hhigh : k < high
      · have hsub : high - k = high - (k + 1) + 1 := by omega
        rw [if_pos hhigh, hsub, List.take_succ_cons]
      · have hsub : high - (k + 1) = 0 ∧ high - k = 0 := by omega
        rw [if_neg hhigh, hsub.1, hsub.2, List.take_zero, List.take_zero]
    · have hdrop : low - k = low - (k + 1) + 1 := by omega
      have hmax : max (k + 1) low = max k low := by omega
      simp only [hlow, hdrop, hmax, decide_false, Bool.false_and, Bool.false_eq_true, if_false,
        List.drop_succ_cons]

theorem between_eq (headings : List Section) (low : Option Nat) (high : Nat) :
    between headings low high =
      (headings.zipIdx.drop (low.elim 0 (· + 1))).take (high - low.elim 0 (· + 1)) := by
  have hlow : ∀ i, low.all (· < i) = decide (low.elim 0 (· + 1) ≤ i) := by
    intro i
    cases low with
    | none => exact (decide_eq_true (Nat.zero_le i)).symm
    | some p => rfl
  simp only [between, hlow, filter_zipIdx, Nat.sub_zero, Nat.zero_max]

/-- The headings between two positions are those that the pass finds there. -/
theorem map_fst_between (headings : List Section) (low : Option Nat) (high : Nat) :
    (between headings low high).map Prod.fst =
      (headings.drop (low.elim 0 (· + 1))).take (high - low.elim 0 (· + 1)) := by
  rw [between_eq, List.map_take, List.map_drop, List.zipIdx_map_fst]

theorem map_snd_between (low : Option Nat) (hp : p ≤ headings.length) :
    (between headings low p).map Prod.snd =
      List.range' (low.elim 0 (· + 1)) (p - low.elim 0 (· + 1)) := by
  have hlength : p - low.elim 0 (· + 1) ≤ headings.length - low.elim 0 (· + 1) :=
    Nat.sub_le_sub_right hp _
  rw [between_eq, List.map_take, List.map_drop, List.zipIdx_map_snd, List.drop_range', Nat.mul_one,
    Nat.zero_add, List.take_range'_of_length_ge hlength]

/-! ## The plan -/

theorem skippedAt_of_none (h : position? headings e = none) :
    skippedAt headings before e = [] := by
  rw [skippedAt, recordAt_of_none h, List.flatMap_nil]

theorem skippedAt_of_some (h : position? headings e = some p) :
    skippedAt headings before e =
      if next headings before ≤ p then between headings (records headings before).getLast? p
        else [] := by
  rw [skippedAt, recordAt_of_some before h]
  simp only [forall_lt_iff_next_le]
  split
  · exact List.flatMap_singleton _ _
  · rfl

theorem next_append_singleton (h : position? headings e = some p) :
    next headings (before ++ [e]) =
      if next headings before ≤ p then p + 1 else next headings before := by
  have hrecord := recordAt_of_some before h
  simp only [forall_lt_iff_next_le] at hrecord
  split
  · rename_i hp
    exact next_of_recordAt_singleton (hrecord.trans (if_pos hp))
  · rename_i hp
    exact next_of_recordAt_nil (hrecord.trans (if_neg hp))

/-- The pass answers one entry, and goes on with the heading next to the last record. -/
theorem planFrom_next_cons (headings : List Section) (before : List Entry) (e : Entry)
    (es : List Entry) :
    planFrom headings (next headings before) (e :: es) =
      editsAt headings before e ++ planFrom headings (next headings (before ++ [e])) es := by
  rw [planFrom, editsAt]
  cases hp : position? headings e with
  | none => rw [next_of_recordAt_nil (recordAt_of_none hp), List.singleton_append]
  | some p =>
    simp only [skippedAt_of_some hp, next_append_singleton hp]
    by_cases hlt : p < next headings before
    · simp only [if_pos hlt, if_neg (Nat.not_le.2 hlt), List.map_nil, List.nil_append]
    · simp only [if_neg hlt, if_pos (Nat.not_lt.1 hlt)]
      have hskipped := map_fst_between headings (records headings before).getLast? p
      rw [next, ← hskipped, List.map_map]
      rfl

theorem planFrom_eq_behind (headings : List Section) (before es : List Entry) :
    planFrom headings (next headings before) es = behind (editsAt headings) before es := by
  induction es generalizing before with
  | nil => rfl
  | cons e es ih => rw [planFrom_next_cons, behind, ih]

/-- The edits of the plan, told entry by entry from the entries before. -/
theorem plan_eq_behind (headings : List Section) (es : List Entry) :
    plan headings es = behind (editsAt headings) [] es :=
  planFrom_eq_behind headings [] es

/-! ## What is inserted -/

theorem mem_between {low : Option Nat} {x : Section × Nat} (h : x ∈ between headings low p) :
    headings[x.2]? = some x.1 :=
  List.mem_zipIdx_iff_getElem?.1 (List.mem_filter.1 h).1

/-- What is inserted is a heading, at its own position. -/
theorem getElem?_of_mem_inserted {x : Section × Nat} (h : x ∈ inserted headings es) :
    headings[x.2]? = some x.1 := by
  obtain ⟨before, e, -, -, hx⟩ := mem_behind h
  obtain ⟨p, -, hx⟩ := List.mem_flatMap.1 hx
  exact mem_between hx

theorem map_snd_skippedAt (h : position? headings e = some p) :
    (skippedAt headings es e).map Prod.snd =
      List.range' (next headings es) (p - next headings es) := by
  have hp : p ≤ headings.length := Nat.le_of_lt (List.findIdx?_eq_some_iff_getElem.1 h).1
  rw [skippedAt_of_some h]
  split
  · exact map_snd_between _ hp
  · rename_i hle
    rw [Nat.sub_eq_zero_of_le (Nat.le_of_not_le hle)]
    rfl

/-- Up to the last heading that is listed, each heading is inserted or is that of a record,
once. -/
theorem count_inserted_add (headings : List Section) (es : List Entry) (i : Nat) :
    ((inserted headings es).map Prod.snd).count i + (records headings es).count i =
      if i < next headings es then 1 else 0 := by
  induction es using List.reverseRecOn with
  | nil => rfl
  | append_singleton es e ih =>
    rw [inserted_append_singleton, records_append_singleton, List.map_append, List.count_append,
      List.count_append]
    cases hp : position? headings e with
    | none =>
      rw [skippedAt_of_none hp, recordAt_of_none hp, next_of_recordAt_nil (recordAt_of_none hp)]
      exact ih
    | some p =>
      have hrecord := recordAt_of_some es hp
      rw [map_snd_skippedAt hp, hrecord, next_append_singleton hp]
      simp only [forall_lt_iff_next_le]
      by_cases hle : next headings es ≤ p
      · have hrange :=
          (List.nodup_range' (s := next headings es) (n := p - next headings es)).count (a := i)
        simp only [if_pos hle, hrange, List.mem_range'_1, List.count_singleton, beq_iff_eq]
        split_ifs at ih ⊢ <;> omega
      · simp only [if_neg hle, Nat.sub_eq_zero_of_le (Nat.le_of_not_le hle)]
        exact ih

theorem lt_next_of_mem_inserted {i : Nat} (h : i ∈ (inserted headings es).map Prod.snd) :
    i < next headings es := by
  have hcount := count_inserted_add headings es i
  have hpos := List.count_pos_iff.2 h
  by_contra hlt
  rw [if_neg hlt] at hcount
  omega

/-- The headings are inserted in their order. -/
theorem pairwise_inserted (headings : List Section) (es : List Entry) :
    ((inserted headings es).map Prod.snd).Pairwise (· < ·) := by
  induction es using List.reverseRecOn with
  | nil => exact .nil
  | append_singleton es e ih =>
    rw [inserted_append_singleton, List.map_append, List.pairwise_append]
    cases hp : position? headings e with
    | none =>
      rw [skippedAt_of_none hp]
      exact ⟨ih, .nil, fun _ _ _ hj => absurd hj List.not_mem_nil⟩
    | some p =>
      rw [map_snd_skippedAt hp]
      refine ⟨ih, List.pairwise_lt_range', fun i hi j hj => ?_⟩
      exact Nat.lt_of_lt_of_le (lt_next_of_mem_inserted hi) (List.mem_range'_1.1 hj).1

/-- The lines to insert are those of the headings that are inserted. -/
theorem filter_plan (headings : List Section) (es : List Entry) :
    ((plan headings es).filter fun d => d.kind = .insert).map Edit.link =
      (inserted headings es).map fun x => link x.1.level x.1.title x.1.anchor := by
  rw [plan_eq_behind]
  induction es using List.reverseRecOn with
  | nil => rfl
  | append_singleton es e ih =>
    rw [behind_append, behind_singleton, List.nil_append, List.filter_append, List.map_append, ih,
      inserted_append_singleton, List.map_append, editsAt]
    cases hp : position? headings e with
    | none =>
      rw [skippedAt_of_none hp]
      rfl
    | some p =>
      have hinsert : ∀ x ∈ (skippedAt headings es e).map fun x => insertion e.location x.1,
          x.kind = .insert := by
        intro x hx
        obtain ⟨y, -, rfl⟩ := List.mem_map.1 hx
        rfl
      simp only
      rw [List.filter_eq_self.2 fun x hx => decide_eq_true (hinsert x hx), List.map_map]
      rfl

end

/-! ## Reports -/

/-- What is said about an edit. -/
def Edit.finding (d : Edit) : Diagnostic :=
  match d.kind with
  | .remove => d.location.error (.readmeRemove, "Remove: ".toList ++ d.link)
  | .insert => d.location.error (.readmeInsert, "Insert: ".toList ++ d.link)

theorem Edit.report_eq (r : Reporter) (d : Edit) : d.report r = r.found [d.finding] := by
  rw [Edit.report, Edit.finding]
  cases d.kind <;> rfl

theorem foldl_report_eq (ds : List Edit) (r : Reporter) :
    ds.foldl Edit.report r = r.found (ds.map Edit.finding) := by
  induction ds generalizing r with
  | nil => rw [List.foldl_nil, List.map_nil, Reporter.found_nil]
  | cons d ds ih => rw [List.foldl_cons, ih, Edit.report_eq, Reporter.found_found, List.map_cons,
      List.singleton_append]

/-- Each edit of a plan is reported once, in order; without headings of the first two levels
nothing is planned. -/
theorem reconcile_eq (sections : List Section) (es : List Entry) (r : Reporter) :
    reconcile sections es r =
      let edits := if bodyHeadings sections = [] then [] else plan (bodyHeadings sections) es
      (edits, r.found (edits.map Edit.finding)) := by
  rw [reconcile]
  cases bodyHeadings sections with
  | nil => simp
  | cons h hs => simp [foldl_report_eq]

/-- **The plan is told by its records.**  The place of an entry is that of the first heading with
its level and its link.  Entry by entry, the plan removes those that list no heading, and at each
record inserts the headings between the record before it and its own; it says nothing about other
entries.  So over the whole list headings are inserted in their order, and up to the last heading
that is listed each one is that of a record or is inserted, exactly once; none behind it is
inserted.  Each edit is reported once, as an error where it stands. -/
theorem plan_records (headings : List Section) (es : List Entry) :
    (∀ e p, position? headings e = some p ↔
      IsLeast {i | ∃ h, headings[i]? = some h ∧ h.level = e.level ∧
        h.anchor = linkAnchor e.anchor} p) ∧
    plan headings es = behind (editsAt headings) [] es ∧
    ((plan headings es).filter fun d => d.kind = .insert).map Edit.link =
      (inserted headings es).map (fun x => link x.1.level x.1.title x.1.anchor) ∧
    (∀ x ∈ inserted headings es, headings[x.2]? = some x.1) ∧
    ((inserted headings es).map Prod.snd).Pairwise (· < ·) ∧
    (∀ i, ((inserted headings es).map Prod.snd).count i + (records headings es).count i =
      if ∃ q ∈ positions headings es, i ≤ q then 1 else 0) ∧
    ∀ sections r, reconcile sections es r =
      let edits := if bodyHeadings sections = [] then [] else plan (bodyHeadings sections) es
      (edits, r.found (edits.map Edit.finding)) := by
  refine ⟨fun _ _ => position?_eq_some_iff_isLeast, plan_eq_behind headings es,
    filter_plan headings es,
    fun _ => getElem?_of_mem_inserted, pairwise_inserted headings es, fun i => ?_,
    fun sections r => reconcile_eq sections es r⟩
  simp only [count_inserted_add, lt_next_iff]

end Concordance.Readme
