import Concordance.Proofs.Agreement.Exactness

/-!
# Linking touches only links

A grammar that takes its links from another one keeps all that is said in it.  A named production
has the links of the first production of its name, all others have none; what links there were
before does not matter.

* `unlinked_linkFrom`: nothing but links is changed.
* `takesLinks_linkedFrom` and `linkedFrom_eq_self`: the links that a production takes, and that it
  takes them once.
* `eq_linkFrom_iff`: this says all about the linked grammar.
* `compare_linkFrom`: a comparison does not see links.
-/

namespace Concordance

/-- A production apart from its links. -/
def Production.unlinked (p : Production) : Production :=
  { p with linkAnchor := none, linkTitle := none }

namespace Grammar

variable {g authority extracted : Grammar} {p : Production}

/-- A production with the links that a grammar gives to its name. -/
def linkedFrom (extracted : Grammar) (p : Production) : Production :=
  let source := p.name.bind (first? extracted)
  { p with linkAnchor := source.bind (·.linkAnchor), linkTitle := source.bind (·.linkTitle) }

theorem linkFrom_eq (authority extracted : Grammar) :
    linkFrom authority extracted = authority.map (linkedFrom extracted) := rfl

/-- A production carries the links that a grammar gives to its name: those of the first production
of the name, and none if there is no name, or no production of it. -/
structure TakesLinks (extracted : Grammar) (p : Production) : Prop where
  anonymous : p.name = none → p.linkAnchor = none ∧ p.linkTitle = none
  absent : ∀ n, p.name = some n → n ∉ names extracted → p.linkAnchor = none ∧ p.linkTitle = none
  first : ∀ n q, p.name = some n → IsFirst extracted n q →
    p.linkAnchor = q.linkAnchor ∧ p.linkTitle = q.linkTitle

theorem takesLinks_linkedFrom (extracted : Grammar) (p : Production) :
    TakesLinks extracted (linkedFrom extracted p) where
  anonymous hname := by
    have hname : p.name = none := hname
    simp only [linkedFrom, hname, Option.bind_none, and_self]
  absent n hname hn := by
    have hname : p.name = some n := hname
    simp only [linkedFrom, hname, Option.bind_some, first?_eq_none_iff.2 hn,
      Option.bind_none, and_self]
  first n q hname hq := by
    have hname : p.name = some n := hname
    simp only [linkedFrom, hname, Option.bind_some, first?_eq_some_iff.2 hq, and_self]

theorem linkedFrom_eq_self (h : TakesLinks extracted p) : linkedFrom extracted p = p := by
  obtain ⟨name, body, text, fragment, anchor, title⟩ := p
  cases name with
  | none =>
    obtain ⟨rfl, rfl⟩ := h.anonymous rfl
    rfl
  | some n =>
    cases hfirst : first? extracted n with
    | none =>
      obtain ⟨rfl, rfl⟩ := h.absent n rfl (first?_eq_none_iff.1 hfirst)
      simp only [linkedFrom, Option.bind_some, hfirst, Option.bind_none]
    | some q =>
      obtain ⟨rfl, rfl⟩ := h.first n q rfl (first?_eq_some_iff.1 hfirst)
      simp only [linkedFrom, Option.bind_some, hfirst]

/-- Nothing but links is changed. -/
theorem unlinked_linkFrom (authority extracted : Grammar) :
    (linkFrom authority extracted).map Production.unlinked =
      authority.map Production.unlinked := by
  rw [linkFrom_eq, List.map_map]
  rfl

example :
    let r : Production := { name := some ['r'], body := ['x'], linkAnchor := some "old".toList }
    let first : Production := { name := some ['r'], body := ['y'], linkTitle := some "A".toList }
    let second : Production :=
      { name := some ['r'], body := ['z'], linkAnchor := some "b.md#b".toList }
    linkFrom [{ r with name := none }, r] [first, second] =
      [{ name := none, body := ['x'] },
        { name := some ['r'], body := ['x'], linkTitle := some "A".toList }] := by
  decide

/-- What links there were before does not matter. -/
theorem linkFrom_unlinked (authority extracted : Grammar) :
    linkFrom (authority.map Production.unlinked) extracted = linkFrom authority extracted := by
  rw [linkFrom_eq, List.map_map]
  rfl

/-- The linked grammar is the one that differs in links only and has the links of the first
productions. -/
theorem eq_linkFrom_iff :
    g = linkFrom authority extracted ↔
      g.map Production.unlinked = authority.map Production.unlinked ∧
        ∀ p ∈ g, TakesLinks extracted p := by
  constructor
  · rintro rfl
    refine ⟨unlinked_linkFrom _ _, fun p hp => ?_⟩
    obtain ⟨q, -, rfl⟩ := List.mem_map.1 hp
    exact takesLinks_linkedFrom extracted q
  · rintro ⟨hsame, hlinks⟩
    have hkept : linkFrom g extracted = g :=
      (List.map_congr_left fun p hp => linkedFrom_eq_self (hlinks p hp)).trans (List.map_id g)
    calc g = linkFrom g extracted := hkept.symm
      _ = linkFrom (g.map Production.unlinked) extracted := (linkFrom_unlinked _ _).symm
      _ = linkFrom authority extracted := by rw [hsame, linkFrom_unlinked]

/-- Linking again changes nothing. -/
theorem linkFrom_linkFrom (authority extracted : Grammar) :
    linkFrom (linkFrom authority extracted) extracted = linkFrom authority extracted :=
  (eq_linkFrom_iff.2 ⟨rfl, (eq_linkFrom_iff.1 rfl).2⟩).symm

theorem compare_unlinked (authority extracted : Grammar) (start : Text) :
    compare (authority.map Production.unlinked) (extracted.map Production.unlinked) start =
      compare authority extracted start :=
  compare_map (f := Production.unlinked) (fun _ => rfl) (fun _ => rfl) authority extracted start

/-- A comparison does not see links. -/
theorem compare_linkFrom (authority extracted : Grammar) (start : Text) :
    compare (linkFrom authority extracted) extracted start =
      compare authority extracted start := by
  rw [← compare_unlinked, unlinked_linkFrom, compare_unlinked]

end Grammar

end Concordance
