import Concordance.Proofs.Html.Preorder
import Mathlib.Data.List.Nodup

/-!
# Places on a page

A node of a page is found from outside inwards: which of the outermost nodes it is in, which child
of that one, and so on.  Nodes may look alike, but each has a place of its own.

* `standing?` is the node at a place, with the elements around it; `standingAll` lists nodes with
  their places.
* `mem_standingAll_iff`: the list has the nodes at all places.
* `nodup_places_standingAll`: it has each place once.
* `subset_headsInAll_of_standing?`: the elements around a node are elements of the page.
-/

namespace Concordance.Html

/-- How a node is found: the number of a node among others, and then those of children, from
outside inwards. -/
abbrev Place := List Nat

/-- A node where it stands, with the elements around it, the outermost first. -/
abbrev Standing := List Head × Node

/-- The node at a place inside a node, or the node itself. -/
def within? : Node → Place → Option Standing
  | n, [] => some ([], n)
  | .element name attributes children, k :: p =>
    (children[k]?.bind fun n => within? n p).map fun s => ((name, attributes) :: s.1, s.2)
  | _, _ :: _ => none

/-- The node at a place. -/
def standing? (ns : List Node) : Place → Option Standing
  | [] => none
  | k :: p => ns[k]?.bind fun n => within? n p

mutual

/-- A node and those inside it, with their places in it. -/
def standing : Node → List (Place × Standing)
  | .element name attributes children =>
    ([], [], .element name attributes children) ::
      (standingAll 0 children).map fun x => (x.1, (name, attributes) :: x.2.1, x.2.2)
  | n => [([], [], n)]

/-- Nodes and those inside them, with their places, where `k` others stand before them. -/
def standingAll (k : Nat) : List Node → List (Place × Standing)
  | [] => []
  | n :: ns => (standing n).map (fun x => (k :: x.1, x.2)) ++ standingAll (k + 1) ns

end

variable {ns : List Node} {p : Place} {s : Standing}

/-! ## All places -/

theorem within?_element (name : Text) (as : Attributes) (ns : List Node) (k : Nat) (p : Place) :
    within? (.element name as ns) (k :: p) = (standing? ns (k :: p)).map fun s =>
      ((name, as) :: s.1, s.2) := rfl

mutual

theorem mem_standing :
    ∀ (m : Node) (p : Place) (s : Standing), (p, s) ∈ standing m ↔ within? m p = some s
  | .element name as children, p, s => by
    rw [standing, List.mem_cons, List.mem_map]
    cases p with
    | nil =>
      constructor
      · rintro (h | ⟨⟨q, s'⟩, h, heq⟩)
        · exact congrArg some (Prod.mk.inj h).2.symm
        · obtain ⟨j, q', hq, -⟩ := (mem_standingAll children 0 q s').1 h
          rw [hq] at heq
          cases heq
      · intro h
        exact Or.inl (congrArg (Prod.mk []) (Option.some.inj h).symm)
    | cons k p =>
      rw [within?_element, Option.map_eq_some_iff]
      constructor
      · rintro (h | ⟨⟨q, s'⟩, h, heq⟩)
        · cases h
        · obtain ⟨j, q', hq, hstands⟩ := (mem_standingAll children 0 q s').1 h
          have hplace : q = k :: p := (Prod.mk.inj heq).1
          rw [hplace, Nat.zero_add] at hq
          rw [← hq] at hstands
          exact ⟨s', hstands, (Prod.mk.inj heq).2⟩
      · rintro ⟨s', hstands, rfl⟩
        refine Or.inr ⟨(k :: p, s'), ?_, rfl⟩
        exact (mem_standingAll children 0 _ s').2 ⟨k, p, by rw [Nat.zero_add], hstands⟩
  | .text t, p, s => by
    cases p with
    | nil => simp [standing, within?, eq_comm]
    | cons k p => simp [standing, within?]
  | .comment, p, s => by
    cases p with
    | nil => simp [standing, within?, eq_comm]
    | cons k p => simp [standing, within?]

/-- The nodes that are listed are those at all places. -/
theorem mem_standingAll : ∀ (ns : List Node) (k : Nat) (q : Place) (s : Standing),
    (q, s) ∈ standingAll k ns ↔ ∃ j p, q = (k + j) :: p ∧ standing? ns (j :: p) = some s
  | [], k, q, s => by simp [standingAll, standing?]
  | m :: ns, k, q, s => by
    rw [standingAll, List.mem_append, List.mem_map, mem_standingAll ns (k + 1) q s]
    constructor
    · rintro (⟨⟨p, s'⟩, h, heq⟩ | ⟨j, p, rfl, hstands⟩)
      · obtain ⟨rfl, rfl⟩ := Prod.mk.inj heq
        exact ⟨0, p, rfl, (mem_standing m p s').1 h⟩
      · exact ⟨j + 1, p, by rw [Nat.add_assoc, Nat.add_comm 1 j], hstands⟩
    · rintro ⟨j, p, rfl, hstands⟩
      cases j with
      | zero => exact Or.inl ⟨(p, s), (mem_standing m p s).2 hstands, rfl⟩
      | succ j => exact Or.inr ⟨j, p, by rw [Nat.add_assoc, Nat.add_comm 1 j], hstands⟩

end

theorem mem_standingAll_iff : (p, s) ∈ standingAll 0 ns ↔ standing? ns p = some s := by
  rw [mem_standingAll]
  simp only [Nat.zero_add]
  constructor
  · rintro ⟨j, q, rfl, h⟩
    exact h
  · intro h
    cases p with
    | nil => cases h
    | cons j q => exact ⟨j, q, rfl, h⟩

/-! ## One place each -/

mutual

theorem nodup_places_standing : ∀ m : Node, ((standing m).map Prod.fst).Nodup
  | .element name as children => by
    have hinside := nodup_places_standingAll children 0
    have hnone : [] ∉ (standingAll 0 children).map Prod.fst := by
      intro h
      obtain ⟨⟨q, s⟩, h, rfl⟩ := List.mem_map.1 h
      obtain ⟨j, p, heq, -⟩ := (mem_standingAll children 0 [] s).1 h
      cases heq
    rw [standing, List.map_cons, List.map_map]
    exact List.nodup_cons.2 ⟨hnone, hinside⟩
  | .text t => by simp [standing]
  | .comment => by simp [standing]

/-- No place is listed twice. -/
theorem nodup_places_standingAll :
    ∀ (ns : List Node) (k : Nat), ((standingAll k ns).map Prod.fst).Nodup
  | [], k => by simp [standingAll]
  | m :: ns, k => by
    rw [standingAll, List.map_append, List.map_map]
    refine List.nodup_append.2 ⟨?_, nodup_places_standingAll ns (k + 1), ?_⟩
    · have hfirst := nodup_places_standing m
      have hcons : (Prod.fst ∘ fun x : Place × Standing => (k :: x.1, x.2)) =
          List.cons k ∘ Prod.fst := rfl
      rw [hcons, ← List.map_map]
      exact hfirst.map (List.cons_injective)
    · rintro p hp q hq rfl
      obtain ⟨x, -, rfl⟩ := List.mem_map.1 hp
      obtain ⟨⟨q, s⟩, hmem, heq⟩ := List.mem_map.1 hq
      obtain ⟨j, p, rfl, -⟩ := (mem_standingAll ns (k + 1) q s).1 hmem
      have := (List.cons.inj heq).1
      omega

end

/-! ## The elements around a node -/

theorem headsIn_subset {n : Node} (h : n ∈ ns) : headsIn n ⊆ headsInAll ns := by
  obtain ⟨before, behind, rfl⟩ := List.append_of_mem h
  rw [headsInAll_append, headsInAll]
  exact List.Subset.trans (List.subset_append_left _ _) (List.subset_append_right _ _)

theorem subset_headsIn_of_within? {n m : Node} {hs : List Head} (h : within? n p = some (hs, m)) :
    hs ⊆ headsIn n := by
  induction p generalizing n m hs with
  | nil =>
    cases h
    exact List.nil_subset _
  | cons k p ih =>
    cases n with
    | element name as children =>
      obtain ⟨⟨hs', m'⟩, hinside, heq⟩ := Option.map_eq_some_iff.1 h
      obtain ⟨c, hc, hwithin⟩ := Option.bind_eq_some_iff.1 hinside
      have hchildren := List.Subset.trans (ih hwithin) (headsIn_subset (List.mem_of_getElem? hc))
      rw [headsIn, ← (Prod.mk.inj heq).1]
      exact List.cons_subset_cons _ hchildren
    | text t => cases h
    | comment => cases h

/-- The elements around a node are elements of the page. -/
theorem subset_headsInAll_of_standing? {m : Node} {hs : List Head}
    (h : standing? ns p = some (hs, m)) : hs ⊆ headsInAll ns := by
  cases p with
  | nil => cases h
  | cons k p =>
    obtain ⟨n, hn, hwithin⟩ := Option.bind_eq_some_iff.1 h
    exact List.Subset.trans (subset_headsIn_of_within? hwithin)
      (headsIn_subset (List.mem_of_getElem? hn))

end Concordance.Html
