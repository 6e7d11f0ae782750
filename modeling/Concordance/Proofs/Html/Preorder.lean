import Concordance.Proofs.Html.Stack

/-!
# The tree of a page keeps the order of its tags

Elements may be closed by other tags than their own, but none of them changes its place: in the
tree of a page each element stands where its opening tag stands, in front of what is inside it.

* `headsIn` lists the elements of nodes, each in front of those inside it.
* `Growing.heads_read`: a token adds its own element behind all others, whatever it closes.
* `heads_parse`: the elements of a page are those of its opening tags, in their order.
-/

namespace Concordance.Html

/-! ## Elements in order -/

/-- The name and the attributes of an element. -/
abbrev Head := Text × Attributes

mutual

/-- The elements in a node, each in front of those inside it. -/
def headsIn : Node → List Head
  | .element name attributes children => (name, attributes) :: headsInAll children
  | _ => []

/-- The elements in nodes, in order. -/
def headsInAll : List Node → List Head
  | [] => []
  | n :: ns => headsIn n ++ headsInAll ns

end

theorem headsIn_text (t : Text) : headsIn (.text t) = [] := by rw [headsIn]; exact nofun

theorem headsInAll_append (ns ms : List Node) :
    headsInAll (ns ++ ms) = headsInAll ns ++ headsInAll ms := by
  induction ns with
  | nil => rfl
  | cons n ns ih => rw [List.cons_append, headsInAll, ih, headsInAll, List.append_assoc]

theorem headsInAll_reverse_cons (n : Node) (ns : List Node) :
    headsInAll (n :: ns).reverse = headsInAll ns.reverse ++ headsIn n := by
  rw [List.reverse_cons, headsInAll_append, headsInAll, headsInAll, List.append_nil]

/-- A text that goes on with another one holds no element, and neither did the two. -/
theorem headsInAll_reverse_push (n : Node) (ns : List Node) :
    headsInAll (Growing.push n ns).reverse = headsInAll ns.reverse ++ headsIn n := by
  unfold Growing.push
  split
  · simp only [headsInAll_reverse_cons, headsIn_text, List.append_nil]
  · exact headsInAll_reverse_cons n ns

/-- The element that a token begins, if it does. -/
def Token.head? : Token → Option Head
  | .opening name attributes _ => if frameTags.contains name then none else some (name, attributes)
  | _ => none

/-! ## Growing trees -/

/-- The elements in an open element and that element itself. -/
def OpenElement.heads (e : OpenElement) : List Head :=
  (e.name, e.attributes) :: headsInAll e.children.reverse

namespace Growing

/-- The elements so far: those in nodes outside the open ones, and then those that are open, from
the outermost inwards, each with what is inside it. -/
def heads (g : Growing) : List Head :=
  headsInAll g.roots.reverse ++ g.elements.reverse.flatMap OpenElement.heads

theorem heads_add (g : Growing) (n : Node) : (g.add n).heads = g.heads ++ headsIn n := by
  obtain ⟨elements, roots⟩ := g
  cases elements with
  | nil => simp only [add, heads, headsInAll_reverse_push, List.reverse_nil, List.flatMap_nil,
      List.append_nil]
  | cons e es =>
    simp only [add, heads, List.reverse_cons, List.flatMap_append, List.flatMap_singleton,
      OpenElement.heads, headsInAll_reverse_push, List.append_assoc, List.cons_append]

theorem heads_closeOne (g : Growing) : g.closeOne.heads = g.heads := by
  obtain ⟨elements, roots⟩ := g
  cases elements with
  | nil => rfl
  | cons e es =>
    rw [closeOne, heads_add, heads, heads, headsIn, List.reverse_cons, List.flatMap_append,
      List.flatMap_singleton, List.append_assoc]
    rfl

theorem heads_close (n : Nat) (g : Growing) : (g.close n).heads = g.heads := by
  induction n with
  | zero => rfl
  | succ n ih => exact (heads_closeOne (g.close n)).trans ih

/-- A token adds its own element behind all others, whatever it closes. -/
theorem heads_read (g : Growing) (t : Token) : (g.read t).heads = g.heads ++ t.head?.toList := by
  cases t with
  | text t => exact heads_add g _
  | comment => exact heads_add g _
  | closing name =>
    simp only [read]
    split
    · exact (heads_close _ g).trans (List.append_nil _).symm
    · exact (List.append_nil _).symm
  | opening name as empty =>
    simp only [read, Token.head?]
    split
    · exact (List.append_nil _).symm
    · rw [Option.toList_some]
      split
      · rw [heads_add, heads_close]
        rfl
      · rw [← heads_close _ g, heads, heads, List.reverse_cons, List.flatMap_append,
          ← List.append_assoc]
        rfl

theorem heads_foldl_read (g : Growing) (ts : List Token) :
    (ts.foldl read g).heads = g.heads ++ ts.filterMap Token.head? := by
  induction ts generalizing g with
  | nil => exact (List.append_nil _).symm
  | cons t ts ih =>
    rw [List.foldl_cons, ih, heads_read, List.append_assoc, List.filterMap_cons]
    cases t.head? <;> rfl

theorem headsInAll_nodes (g : Growing) : headsInAll g.nodes = g.heads := by
  have hclosed : (g.close g.elements.length).names = [] := by
    have hlength : g.elements.length = g.names.length := (List.length_map _).symm
    rw [names_close, hlength, List.drop_length]
  have hnone : (g.close g.elements.length).elements = [] := List.map_eq_nil_iff.1 hclosed
  rw [← heads_close g.elements.length g, heads, hnone]
  exact (List.append_nil _).symm

end Growing

/-- The elements of a page are those of its opening tags, in their order. -/
theorem heads_parse (t : Text) : headsInAll (parse t) = (tokens t).filterMap Token.head? := by
  rw [parse, Growing.headsInAll_nodes, Growing.heads_foldl_read]
  rfl

end Concordance.Html
