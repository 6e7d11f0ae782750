import Concordance.Proofs.Agreement.Fragments
import Concordance.Proofs.Text.Occurrences
import Mathlib.Data.List.Sort

/-!
# What a comparison lists

Of several productions of one name only the last one is compared, and the name stands where it
first occurs.  A comparison lists each disagreement once: the names that differ, those that are
missing, and those that are extra.

* `last?_eq_some_iff` says which production is the last of a name, `mem_byName` that just these are
  looked at.
* `mem_differing`, `mem_missing` and `mem_extra` say what is listed, `Lists.names` that it is in
  order.
* `Lists.eq`: nothing else is a list of the disagreements in their order.
* `missing_exchange`, `extra_exchange` and `differing_exchange`: the comparison the other way
  around.
-/

namespace Concordance

open Text (eachOnce FirstBefore mem_eachOnce pairwise_eachOnce nodup_eachOnce)

namespace Grammar

variable {g authority extracted : Grammar} {n start : Text} {p : Production} {d : Difference}

/-! ## The productions of a name -/

/-- A production of the name behind which there is no other. -/
def IsLast (g : Grammar) (n : Text) (p : Production) : Prop :=
  p.name = some n ∧ ∃ before behind, g = before ++ p :: behind ∧ ∀ q ∈ behind, q.name ≠ some n

/-- A production of the name before which there is no other. -/
def IsFirst (g : Grammar) (n : Text) (p : Production) : Prop :=
  p.name = some n ∧ ∃ before behind, g = before ++ p :: behind ∧ ∀ q ∈ before, q.name ≠ some n

theorem first?_eq_some_iff : first? g n = some p ↔ IsFirst g n p := by
  rw [first?, List.find?_eq_some_iff_append]
  simp only [IsFirst, beq_iff_eq, Bool.not_eq_true', beq_eq_false_iff_ne]

theorem last?_eq_some_iff : last? g n = some p ↔ IsLast g n p := by
  rw [last?, first?_eq_some_iff, IsFirst, IsLast]
  refine and_congr_right fun _ => ⟨?_, ?_⟩
  · rintro ⟨before, behind, heq, hbefore⟩
    refine ⟨behind.reverse, before.reverse, ?_, fun q hq => hbefore q (List.mem_reverse.1 hq)⟩
    rw [← List.reverse_reverse g, heq]
    simp
  · rintro ⟨before, behind, rfl, hbehind⟩
    exact ⟨behind.reverse, before.reverse, by simp, fun q hq => hbehind q (List.mem_reverse.1 hq)⟩

theorem mem_names : n ∈ names g ↔ ∃ p ∈ g, p.name = some n := List.mem_filterMap

theorem first?_eq_none_iff : first? g n = none ↔ n ∉ names g := by
  rw [first?, List.find?_eq_none, mem_names]
  simp only [beq_iff_eq, not_exists, not_and]

theorem last?_eq_none_iff : last? g n = none ↔ n ∉ names g := by
  rw [last?, first?_eq_none_iff, mem_names, mem_names]
  simp only [List.mem_reverse]

theorem has_eq_true_iff : has g n = true ↔ n ∈ names g := by
  rw [has, List.any_eq_true, mem_names]
  simp only [beq_iff_eq]

theorem mem_names_iff_isLast : n ∈ names g ↔ ∃ p, IsLast g n p := by
  rw [← not_iff_not, ← last?_eq_none_iff, Option.eq_none_iff_forall_ne_some, not_exists]
  simp only [ne_eq, last?_eq_some_iff]

theorem distinctNames_eq (g : Grammar) : distinctNames g = eachOnce (names g) := rfl

/-- The productions that a comparison looks at. -/
theorem mem_byName : (n, p) ∈ byName g ↔ last? g n = some p := by
  refine ⟨last?_of_mem_byName, fun h => ?_⟩
  have hn : n ∈ distinctNames g :=
    mem_eachOnce.2 (mem_names_iff_isLast.2 ⟨p, last?_eq_some_iff.1 h⟩)
  exact List.mem_filterMap.2 ⟨n, hn, by rw [h, Option.map_some]⟩

/-- They stand in the order in which their names first occur. -/
theorem map_fst_byName (g : Grammar) : (byName g).map Prod.fst = eachOnce (names g) := by
  rw [byName, List.map_filterMap, ← distinctNames_eq]
  refine (List.filterMap_congr fun n hn => ?_).trans List.filterMap_some
  obtain ⟨p, hp⟩ := mem_names_iff_isLast.1 (mem_eachOnce.1 hn)
  rw [last?_eq_some_iff.2 hp]
  rfl

/-! ## What is listed -/

theorem mem_differing : d ∈ differing authority extracted ↔
    ∃ n p q, last? authority n = some p ∧ last? extracted n = some q ∧ p.serialize ≠ q.serialize ∧
      d = ⟨n, .differs, some p.serialize, some q.serialize⟩ := by
  rw [differing, List.mem_filterMap]
  constructor
  · rintro ⟨⟨n, p⟩, hp, hd⟩
    obtain ⟨q, hq, hd⟩ := Option.bind_eq_some_iff.1 hd
    obtain ⟨hne, hd⟩ := Option.ite_none_left_eq_some.1 hd
    exact ⟨n, p, q, mem_byName.1 hp, hq, hne, (Option.some.inj hd).symm⟩
  · rintro ⟨n, p, q, hp, hq, hne, rfl⟩
    refine ⟨(n, p), mem_byName.2 hp, ?_⟩
    simp only [hq, Option.bind_some, if_neg hne]

theorem mem_missing : d ∈ missing authority extracted start ↔
    ∃ n p, n ≠ start ∧ last? authority n = some p ∧ n ∉ names extracted ∧
      d = ⟨n, .missing, some p.serialize, none⟩ := by
  rw [missing, List.mem_filterMap]
  constructor
  · rintro ⟨⟨n, p⟩, hp, hd⟩
    obtain ⟨hne, hd⟩ := Option.ite_none_left_eq_some.1 hd
    rw [not_or, has_eq_true_iff] at hne
    exact ⟨n, p, hne.1, mem_byName.1 hp, hne.2, (Option.some.inj hd).symm⟩
  · rintro ⟨n, p, hstart, hp, hn, rfl⟩
    refine ⟨(n, p), mem_byName.2 hp, if_neg ?_⟩
    rw [not_or, has_eq_true_iff]
    exact ⟨hstart, hn⟩

end Grammar

/-! ## The other way around -/

/-- The kind of a disagreement when the two grammars change places. -/
def DifferenceKind.exchange : DifferenceKind → DifferenceKind
  | .differs => .differs
  | .missing => .extra
  | .extra => .missing

/-- The same disagreement when the two grammars change places. -/
def Difference.exchange (d : Difference) : Difference :=
  ⟨d.name, d.kind.exchange, d.extracted, d.authority⟩

theorem Difference.exchange_exchange (d : Difference) : d.exchange.exchange = d := by
  obtain ⟨name, kind, authority, extracted⟩ := d
  cases kind <;> rfl

namespace Grammar

variable {g authority extracted : Grammar} {n start : Text} {p : Production} {d : Difference}

theorem missing_exchange (authority extracted : Grammar) (start : Text) :
    missing extracted authority start =
      (extra authority extracted start).map Difference.exchange := by
  rw [missing, extra, List.map_filterMap]
  refine List.filterMap_congr fun x _ => ?_
  simp only [apply_ite (Option.map Difference.exchange)]
  rfl

theorem extra_exchange (authority extracted : Grammar) (start : Text) :
    extra extracted authority start =
      (missing authority extracted start).map Difference.exchange := by
  have htwice : Difference.exchange ∘ Difference.exchange = id :=
    funext Difference.exchange_exchange
  rw [missing_exchange extracted authority, List.map_map, htwice, List.map_id]

theorem mem_extra : d ∈ extra authority extracted start ↔
    ∃ n q, n ≠ start ∧ last? extracted n = some q ∧ n ∉ names authority ∧
      d = ⟨n, .extra, none, some q.serialize⟩ := by
  rw [extra_exchange extracted authority, List.mem_map]
  constructor
  · rintro ⟨d, hd, rfl⟩
    obtain ⟨n, q, hstart, hq, hn, rfl⟩ := mem_missing.1 hd
    exact ⟨n, q, hstart, hq, hn, rfl⟩
  · rintro ⟨n, q, hstart, hq, hn, rfl⟩
    exact ⟨_, mem_missing.2 ⟨n, q, hstart, hq, hn, rfl⟩, rfl⟩

/-! ## Once each, in order -/

/-- What is made of some elements under names of their own comes in the order of those names. -/
theorem map_filterMap_sublist {α β γ : Type} {f : α → Option β} {name : β → γ} {key : α → γ}
    (h : ∀ x y, f x = some y → name y = key x) (xs : List α) :
    ((xs.filterMap f).map name).Sublist (xs.map key) := by
  induction xs with
  | nil => exact .slnil
  | cons x xs ih =>
    rw [List.filterMap_cons, List.map_cons]
    split
    · exact ih.cons _
    · rename_i y hy
      rw [List.map_cons, h x y hy]
      exact ih.cons_cons _

theorem names_differing (authority extracted : Grammar) :
    ((differing authority extracted).map (·.name)).Sublist (eachOnce (names authority)) := by
  rw [← map_fst_byName]
  refine map_filterMap_sublist (fun x d hd => ?_) _
  obtain ⟨q, -, hd⟩ := Option.bind_eq_some_iff.1 hd
  obtain ⟨-, hd⟩ := Option.ite_none_left_eq_some.1 hd
  rw [← Option.some.inj hd]

theorem names_missing (authority extracted : Grammar) (start : Text) :
    ((missing authority extracted start).map (·.name)).Sublist (eachOnce (names authority)) := by
  rw [← map_fst_byName]
  refine map_filterMap_sublist (fun x d hd => ?_) _
  obtain ⟨-, hd⟩ := Option.ite_none_left_eq_some.1 hd
  rw [← Option.some.inj hd]

theorem names_extra (authority extracted : Grammar) (start : Text) :
    ((extra authority extracted start).map (·.name)).Sublist (eachOnce (names extracted)) := by
  rw [extra_exchange extracted authority, List.map_map]
  exact names_missing extracted authority start

/-- No name is listed twice. -/
theorem nodup_names_compare (authority extracted : Grammar) (start : Text) :
    ((compare authority extracted start).map (·.name)).Nodup := by
  have hdiffering := (nodup_eachOnce _).sublist (names_differing authority extracted)
  have hmissing := (nodup_eachOnce _).sublist (names_missing authority extracted start)
  have hextra := (nodup_eachOnce _).sublist (names_extra authority extracted start)
  rw [compare, List.map_append, List.map_append, List.nodup_append, List.nodup_append]
  refine ⟨⟨hdiffering, hmissing, ?_⟩, hextra, ?_⟩
  · -- a name that differs is one of both grammars
    intro m hm n hn hmn
    obtain ⟨d, hd, rfl⟩ := List.mem_map.1 hm
    obtain ⟨d', hd', rfl⟩ := List.mem_map.1 hn
    obtain ⟨k, p, q, -, hq, -, rfl⟩ := mem_differing.1 hd
    obtain ⟨k', p', -, -, hk', rfl⟩ := mem_missing.1 hd'
    obtain rfl : k = k' := hmn
    exact hk' (mem_names_iff_isLast.2 ⟨q, last?_eq_some_iff.1 hq⟩)
  · -- an extra name is none of the authority
    intro m hm n hn hmn
    obtain ⟨d', hd', rfl⟩ := List.mem_map.1 hn
    obtain ⟨k', q', -, -, hk', rfl⟩ := mem_extra.1 hd'
    obtain rfl : m = k' := hmn
    rcases List.mem_append.1 hm with hm | hm
    · exact hk' (mem_eachOnce.1 ((names_differing authority extracted).subset hm))
    · exact hk' (mem_eachOnce.1 ((names_missing authority extracted start).subset hm))

/-- The order of disagreements: names that differ, then missing ones, both in the order of the
authority, then the others in the order of the collected grammar. -/
def Precedes (authority extracted : Grammar) (d d' : Difference) : Prop :=
  match d.kind, d'.kind with
  | .differs, .differs | .missing, .missing => FirstBefore (names authority) d.name d'.name
  | .extra, .extra => FirstBefore (names extracted) d.name d'.name
  | .differs, _ | .missing, .extra => True
  | _, _ => False

/-- The disagreements of two grammars, each once and in order. -/
structure Lists (authority extracted : Grammar) (start : Text) (ds : List Difference) : Prop where
  differs : ∀ d, d ∈ ds ∧ d.kind = .differs ↔
    ∃ n p q, IsLast authority n p ∧ IsLast extracted n q ∧ p.serialize ≠ q.serialize ∧
      d = ⟨n, .differs, some p.serialize, some q.serialize⟩
  missing : ∀ d, d ∈ ds ∧ d.kind = .missing ↔
    ∃ n p, n ≠ start ∧ IsLast authority n p ∧ n ∉ names extracted ∧
      d = ⟨n, .missing, some p.serialize, none⟩
  extra : ∀ d, d ∈ ds ∧ d.kind = .extra ↔
    ∃ n q, n ≠ start ∧ IsLast extracted n q ∧ n ∉ names authority ∧
      d = ⟨n, .extra, none, some q.serialize⟩
  once : (ds.map (·.name)).Nodup
  ordered : ds.Pairwise (Precedes authority extracted)

theorem kind_of_mem_differing (h : d ∈ differing authority extracted) : d.kind = .differs := by
  obtain ⟨n, p, q, -, -, -, rfl⟩ := mem_differing.1 h
  rfl

theorem kind_of_mem_missing (h : d ∈ missing authority extracted start) : d.kind = .missing := by
  obtain ⟨n, p, -, -, -, rfl⟩ := mem_missing.1 h
  rfl

theorem kind_of_mem_extra (h : d ∈ extra authority extracted start) : d.kind = .extra := by
  obtain ⟨n, q, -, -, -, rfl⟩ := mem_extra.1 h
  rfl

theorem mem_compare : d ∈ compare authority extracted start ↔
    d ∈ differing authority extracted ∨ d ∈ missing authority extracted start ∨
      d ∈ extra authority extracted start := by
  rw [compare, List.mem_append, List.mem_append, or_assoc]

/-- Disagreements whose names come in the order of their first occurrences are in order. -/
theorem pairwise_precedes_of_names {ns : List Text} {ds : List Difference}
    (hnames : (ds.map (·.name)).Sublist (eachOnce ns))
    (h : ∀ d ∈ ds, ∀ d' ∈ ds, FirstBefore ns d.name d'.name → Precedes authority extracted d d') :
    ds.Pairwise (Precedes authority extracted) := by
  have hordered := List.pairwise_map.1 ((pairwise_eachOnce ns).sublist hnames)
  exact hordered.imp_of_mem fun hd hd' hfirst => h _ hd _ hd' hfirst

theorem pairwise_precedes_compare (authority extracted : Grammar) (start : Text) :
    (compare authority extracted start).Pairwise (Precedes authority extracted) := by
  rw [compare, List.pairwise_append, List.pairwise_append]
  refine ⟨⟨?_, ?_, fun d hd d' hd' => ?_⟩, ?_, fun d hd d' hd' => ?_⟩
  · refine pairwise_precedes_of_names (names_differing authority extracted) fun d hd d' hd' h => ?_
    rwa [Precedes, kind_of_mem_differing hd, kind_of_mem_differing hd']
  · refine pairwise_precedes_of_names
      (names_missing authority extracted start) fun d hd d' hd' h => ?_
    rwa [Precedes, kind_of_mem_missing hd, kind_of_mem_missing hd']
  · rw [Precedes, kind_of_mem_differing hd, kind_of_mem_missing hd']
    trivial
  · refine pairwise_precedes_of_names
      (names_extra authority extracted start) fun d hd d' hd' h => ?_
    rwa [Precedes, kind_of_mem_extra hd, kind_of_mem_extra hd']
  · rw [Precedes, kind_of_mem_extra hd']
    rcases List.mem_append.1 hd with hd | hd
    · rw [kind_of_mem_differing hd]
      trivial
    · rw [kind_of_mem_missing hd]
      trivial

/-- A comparison lists the disagreements. -/
theorem lists_compare (authority extracted : Grammar) (start : Text) :
    Lists authority extracted start (compare authority extracted start) where
  differs d := by
    simp only [← last?_eq_some_iff, ← mem_differing, mem_compare]
    refine ⟨?_, fun h => ⟨Or.inl h, kind_of_mem_differing h⟩⟩
    rintro ⟨h | h | h, hkind⟩
    · exact h
    · cases (kind_of_mem_missing h).symm.trans hkind
    · cases (kind_of_mem_extra h).symm.trans hkind
  missing d := by
    simp only [← last?_eq_some_iff, ← mem_missing, mem_compare]
    refine ⟨?_, fun h => ⟨Or.inr (Or.inl h), kind_of_mem_missing h⟩⟩
    rintro ⟨h | h | h, hkind⟩
    · cases (kind_of_mem_differing h).symm.trans hkind
    · exact h
    · cases (kind_of_mem_extra h).symm.trans hkind
  extra d := by
    simp only [← last?_eq_some_iff, ← mem_extra, mem_compare]
    refine ⟨?_, fun h => ⟨Or.inr (Or.inr h), kind_of_mem_extra h⟩⟩
    rintro ⟨h | h | h, hkind⟩
    · cases (kind_of_mem_differing h).symm.trans hkind
    · cases (kind_of_mem_missing h).symm.trans hkind
    · exact h
  once := nodup_names_compare authority extracted start
  ordered := pairwise_precedes_compare authority extracted start

theorem Precedes.not_symm {d d' : Difference} (h : Precedes authority extracted d d') :
    ¬ Precedes authority extracted d' d := by
  intro h'
  obtain ⟨n, kind, _, _⟩ := d
  obtain ⟨n', kind', _, _⟩ := d'
  cases kind <;> cases kind' <;> first | exact h | exact h' | exact Nat.lt_asymm h h'

/-- Two lists of the disagreements of two grammars are the same. -/
theorem Lists.eq {ds ds' : List Difference} (h : Lists authority extracted start ds)
    (h' : Lists authority extracted start ds') : ds = ds' := by
  have hmem : ∀ d, d ∈ ds ↔ d ∈ ds' := by
    intro d
    have hkinds : ∀ k, d ∈ ds ∧ d.kind = k ↔ d ∈ ds' ∧ d.kind = k := by
      rintro (_ | _ | _)
      · rw [h.differs, h'.differs]
      · rw [h.missing, h'.missing]
      · rw [h.extra, h'.extra]
    simpa only [and_true] using hkinds d.kind
  have : Std.Irrefl (Precedes authority extracted) := ⟨fun d hd => hd.not_symm hd⟩
  have : Std.Antisymm (Precedes authority extracted) := ⟨fun d d' hd hd' => absurd hd' hd.not_symm⟩
  exact h.ordered.eq_of_mem_iff h'.ordered hmem

/-! ## What a comparison depends on -/

theorem nodup_compare (authority extracted : Grammar) (start : Text) :
    (compare authority extracted start).Nodup :=
  (nodup_names_compare authority extracted start).of_map

/-- The other way around the same names are listed. -/
theorem compare_exchange (authority extracted : Grammar) (start : Text) :
    (compare extracted authority start).Perm
      ((compare authority extracted start).map Difference.exchange) := by
  have hinjective : Function.Injective Difference.exchange :=
    Function.LeftInverse.injective Difference.exchange_exchange
  refine (List.perm_ext_iff_of_nodup (nodup_compare _ _ _)
    ((nodup_compare _ _ _).map hinjective)).2 fun d => ?_
  rw [mem_compare, compare, List.map_append, List.map_append, ← missing_exchange, ← extra_exchange,
    List.mem_append, List.mem_append]
  have hdiffering : d ∈ differing extracted authority ↔
      d ∈ (differing authority extracted).map Difference.exchange := by
    rw [List.mem_map, mem_differing]
    constructor
    · rintro ⟨n, p, q, hp, hq, hne, rfl⟩
      exact ⟨_, mem_differing.2 ⟨n, q, p, hq, hp, hne.symm, rfl⟩, rfl⟩
    · rintro ⟨d, hd, rfl⟩
      obtain ⟨n, p, q, hp, hq, hne, rfl⟩ := mem_differing.1 hd
      exact ⟨n, q, p, hq, hp, hne.symm, rfl⟩
  rw [hdiffering]
  tauto

variable {authority' extracted' : Grammar}

theorem names_congr (h : ∀ n, last? g n = last? authority n) :
    n ∈ names g ↔ n ∈ names authority := by
  rw [← not_iff_not, ← last?_eq_none_iff, ← last?_eq_none_iff, h]

/-- The last productions of the names decide what is listed. -/
theorem compare_perm (ha : ∀ n, last? authority' n = last? authority n)
    (he : ∀ n, last? extracted' n = last? extracted n) (start : Text) :
    (compare authority' extracted' start).Perm (compare authority extracted start) := by
  refine (List.perm_ext_iff_of_nodup (nodup_compare _ _ _) (nodup_compare _ _ _)).2 fun d => ?_
  simp only [mem_compare, mem_differing, mem_missing, mem_extra, ha, he,
    names_congr ha, names_congr he]

/-- Where the names also come in the same order, the lists are the same. -/
theorem compare_congr (ha : ∀ n, last? authority' n = last? authority n)
    (he : ∀ n, last? extracted' n = last? extracted n)
    (hauthority : distinctNames authority' = distinctNames authority)
    (hextracted : distinctNames extracted' = distinctNames extracted) (start : Text) :
    compare authority' extracted' start = compare authority extracted start := by
  have hhas : ∀ {g g' : Grammar}, (∀ n, last? g' n = last? g n) → ∀ n, has g' n = has g n := by
    intro g g' h n
    rw [Bool.eq_iff_iff, has_eq_true_iff, has_eq_true_iff, names_congr h]
  simp only [compare, differing, missing, extra, byName, hauthority, hextracted, ha, he,
    hhas ha, hhas he]

/-- **A comparison is exact.**  It lists, once each and in order, the names whose last productions
differ, with both forms, and the names other than the start symbol that only one of the grammars
has, with the form of the last production; and no other list does.  So the same names are listed
when the grammars change places, missing ones as extra and the forms of the others exchanged, and
nothing counts but the last production of each name, and where the names first occur. -/
theorem compare_exact (authority extracted : Grammar) (start : Text) :
    (∀ ds, Lists authority extracted start ds ↔ ds = compare authority extracted start) ∧
    (compare extracted authority start).Perm
      ((compare authority extracted start).map Difference.exchange) ∧
    ∀ authority' extracted' : Grammar, (∀ n p, IsLast authority' n p ↔ IsLast authority n p) →
      (∀ n p, IsLast extracted' n p ↔ IsLast extracted n p) →
      (compare authority' extracted' start).Perm (compare authority extracted start) ∧
      (distinctNames authority' = distinctNames authority →
        distinctNames extracted' = distinctNames extracted →
        compare authority' extracted' start = compare authority extracted start) := by
  refine ⟨fun ds => ⟨fun h => h.eq (lists_compare _ _ _), ?_⟩, compare_exchange _ _ _, ?_⟩
  · rintro rfl
    exact lists_compare _ _ _
  · intro authority' extracted' ha he
    have hlast : ∀ {g g' : Grammar}, (∀ n p, IsLast g' n p ↔ IsLast g n p) →
        ∀ n, last? g' n = last? g n := by
      intro g g' h n
      refine Option.ext fun p => ?_
      rw [last?_eq_some_iff, last?_eq_some_iff, h]
    exact ⟨compare_perm (hlast ha) (hlast he) start, fun hauthority hextracted =>
      compare_congr (hlast ha) (hlast he) hauthority hextracted start⟩

/-- A rule with a name and a body. -/
def ruleOf (name body : String) : Production := { name := some name.toList, body := body.toList }

/-- A grammar in which a rule is stated twice, around a comment. -/
def restated (first : String) : Grammar :=
  [ruleOf "r" first, { name := none, body := "// r".toList }, ruleOf "top" "r",
    ruleOf "r" "b", ruleOf "s" "c"]

theorem compare_exact_restated :
    let extracted := [ruleOf "t" "r", ruleOf "s" "c", ruleOf "s" "d", ruleOf "r" "b"]
    let listed : List Difference := [
      ⟨"s".toList, .differs, some "s: c;".toList, some "s: d;".toList⟩,
        ⟨"t".toList, .extra, none, some "t: r;".toList⟩]
    (∀ n p, IsLast (restated "x") n p ↔ IsLast (restated "a") n p) ∧
    distinctNames (restated "x") = distinctNames (restated "a") ∧
    Lists (restated "a") extracted "top".toList listed ∧
    compare (restated "x") extracted "top".toList = listed := by
  intro extracted listed
  have hlast : ∀ n p, IsLast (restated "x") n p ↔ IsLast (restated "a") n p := by
    intro n p
    have hfirst : ∀ a : String, last? (restated a) n = last? (restated a).tail n := by
      intro a
      have hr : last? (restated a).tail "r".toList = some (ruleOf "r" "b") := rfl
      by_cases hn : n = "r".toList
      · rw [hn, hr]
        rfl
      · have hne : (ruleOf "r" a).name ≠ some n := fun h => hn (Option.some.inj h).symm
        rw [last?, last?, restated, List.reverse_cons, first?, List.find?_append,
          List.find?_singleton]
        simp only [beq_eq_false_iff_ne.2 hne, Bool.false_eq_true, if_false, Option.or_none]
        rfl
    rw [← last?_eq_some_iff, ← last?_eq_some_iff, hfirst, hfirst]
    rfl
  have hnames : distinctNames (restated "x") = distinctNames (restated "a") := rfl
  have hlisted : compare (restated "a") extracted "top".toList = listed := by decide
  have hexact := compare_exact (restated "a") extracted "top".toList
  refine ⟨hlast, hnames, (hexact.1 _).2 hlisted.symm, ?_⟩
  rw [((hexact.2.2 (restated "x") extracted) hlast fun _ _ => Iff.rfl).2 hnames rfl, hlisted]

end Grammar

end Concordance
