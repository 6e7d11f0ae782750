import Concordance.Agreement

/-!
# Comparing named productions

A comparison reads only the productions that have a name.

* `compare_named`: the others may be left out of both grammars.
* `compare_singleton`: two grammars of one named production each agree exactly if the productions
  have the same name and the same serialized form, whatever the start symbol is.
-/

namespace Concordance.Grammar

variable {p q : Production} {n m : Text}

/-- The productions that have a name. -/
def named (g : Grammar) : Grammar := g.filter (·.name.isSome)

theorem named_reverse (g : Grammar) : named g.reverse = (named g).reverse := by
  simp only [named, List.filter_reverse]

theorem names_named (g : Grammar) : names (named g) = names g := by
  rw [names, named, List.filterMap_filter, names]
  congr 1
  funext p
  cases p.name <;> rfl

theorem first?_named (g : Grammar) (n : Text) : first? (named g) n = first? g n := by
  rw [first?, named, List.find?_filter, first?]
  congr 1
  funext p
  cases p.name with
  | none => rfl
  | some m => exact Bool.eq_iff_iff.2 (by simp)

theorem last?_named (g : Grammar) (n : Text) : last? (named g) n = last? g n := by
  rw [last?, ← named_reverse, first?_named, last?]

theorem has_named (g : Grammar) (n : Text) : has (named g) n = has g n := by
  rw [has, named, List.any_filter, has]
  congr 1
  funext p
  cases p.name <;> simp

theorem byName_named (g : Grammar) : byName (named g) = byName g := by
  simp only [byName, distinctNames, names_named, last?_named]

theorem compare_named (authority extracted : Grammar) (start : Text) :
    compare (named authority) (named extracted) start = compare authority extracted start := by
  simp only [compare, differing, missing, extra, byName_named, last?_named, has_named]

theorem byName_singleton (hp : p.name = some n) : byName [p] = [(n, p)] := by
  simp [byName, distinctNames, names, last?, first?, hp]

theorem last?_singleton (hp : p.name = some n) (m : Text) :
    last? [p] m = if n = m then some p else none := by
  by_cases h : n = m <;> simp [last?, first?, hp, h]

theorem has_singleton (hp : p.name = some n) (m : Text) : has [p] m = (n == m) := by
  simp [has, hp]

/-- Two grammars of one named production each agree exactly if the productions do. -/
theorem compare_singleton (hp : p.name = some n) (hq : q.name = some m) (start : Text) :
    compare [p] [q] start = [] ↔ n = m ∧ p.serialize = q.serialize := by
  simp only [compare, differing, missing, extra, byName_singleton hp, byName_singleton hq,
    last?_singleton hq, has_singleton hp, has_singleton hq]
  by_cases hn : n = m
  · subst hn
    by_cases hs : p.serialize = q.serialize <;> simp [hs]
  · by_cases hstart : n = start
    · have hm : m ≠ start := fun h => hn (hstart.trans h.symm)
      simp [hn, hm, Ne.symm hn]
    · simp [hn, hstart, Ne.symm hn]

end Concordance.Grammar
