import Concordance.Proofs.Html.Preorder
import Concordance.Proofs.Readme.Links

/-!
# Where the links of a page stand

The items of a page are numbered as they begin, and so an item has a smaller number than those
inside it.  A link stands in the innermost item around it.  Of two links on a page the first one
stands in the item with the smaller number, or else the item of the second one lies around that of
the first: then that item goes on behind items inside it.

* `linksWithin` lists the links in a node in the order of the page.
* `Placement` says where they stand and whose they are, and has one lemma for each way in which
  links come together.
* `placement_linksWithinAll`: the links of a page are placed so.
* `sublist_tokens`: the order of the page is that of its tags.
-/

namespace Concordance.Readme

open Text Html

/-! ## Links in page order -/

/-- An item that begins on a page. -/
structure NumberedItem where
  /-- How many items begin before it. -/
  number : Nat
  level : Nat
  line : Option Text
  deriving DecidableEq

/-- A link in an item. -/
structure PlacedLink where
  item : NumberedItem
  /-- The items around that item, the innermost first. -/
  outer : List NumberedItem
  link : Link

/-- A link inside items, if there are any. -/
def linkWithin (items : List NumberedItem) (l : Link) : List PlacedLink :=
  match items with
  | [] => []
  | i :: outer => [⟨i, outer, l⟩]

mutual

/-- The links of items in a node, where `next` items begin before the node and `items` are around
it. -/
def linksWithin (level : Nat) (items : List NumberedItem) (next : Nat) : Node → List PlacedLink
  | .element name attributes children =>
    if name = "li".toList then
      linksWithinAll level (⟨next, level, attributes.lookup "data-line".toList⟩ :: items)
        (next + 1) children
    else
      (if name = "a".toList then linkWithin items (linkOf attributes children) else []) ++
        linksWithinAll (if isList name then level + 1 else level) items next children
  | _ => []

/-- The links of items in nodes, in the order of the page. -/
def linksWithinAll (level : Nat) (items : List NumberedItem) (next : Nat) :
    List Node → List PlacedLink
  | [] => []
  | n :: ns =>
    linksWithin level items next n ++ linksWithinAll level items
      (next + (itemsIn level n).length) ns

end

/-! ## Placements -/

/-- Items inside one another, the innermost first, when `next` items have begun. -/
def Nested (next : Nat) (items : List NumberedItem) : Prop :=
  (next :: items.map NumberedItem.number).Pairwise (· > ·)

variable {next level : Nat} {items : List NumberedItem} {i : NumberedItem} {l : Link}
  {own own' : List Link}
  {inner inner' : List ListItem} {xs ys : List PlacedLink} {line : Option Text}

theorem Nested.lt (h : Nested next items) (hi : i ∈ items) : i.number < next :=
  (List.pairwise_cons.1 h).1 _ (List.mem_map_of_mem hi)

theorem Nested.lt_head {outer : List NumberedItem} (h : Nested next (i :: outer))
    {o : NumberedItem} (ho : o ∈ outer) : o.number < i.number :=
  (List.pairwise_cons.1 (List.pairwise_cons.1 h).2).1 _ (List.mem_map_of_mem ho)

theorem Nested.mono (h : Nested next items) {later : Nat} (hle : next ≤ later) :
    Nested later items :=
  List.pairwise_cons.2 ⟨fun k hk => Nat.lt_of_lt_of_le ((List.pairwise_cons.1 h).1 k hk) hle,
    (List.pairwise_cons.1 h).2⟩

/-- An item begins inside those around it. -/
theorem Nested.cons (h : Nested next items) (level : Nat) (line : Option Text) :
    Nested (next + 1) (⟨next, level, line⟩ :: items) :=
  List.pairwise_cons.2 ⟨List.forall_mem_cons.2 ⟨Nat.lt_succ_self next,
    fun k hk => Nat.lt_succ_of_lt ((List.pairwise_cons.1 h).1 k hk)⟩, h⟩

/-- The links of one item. -/
def ofItem (k : Nat) (xs : List PlacedLink) : List PlacedLink := xs.filter (·.item.number = k)

theorem ofItem_append (k : Nat) (xs ys : List PlacedLink) :
    ofItem k (xs ++ ys) = ofItem k xs ++ ofItem k ys :=
  List.filter_append ..

theorem ofItem_cons (k : Nat) (x : PlacedLink) (xs : List PlacedLink) :
    ofItem k (x :: xs) = if x.item.number = k then x :: ofItem k xs else ofItem k xs := by
  simp only [ofItem, List.filter_cons, decide_eq_true_eq]

/-- Links among nodes inside `items`, when `next` items have begun before.  They are the links
`own` of the innermost item around the nodes, and those of the items `inner` that begin among the
nodes. -/
structure Placement (next : Nat) (items : List NumberedItem) (own : List Link)
    (inner : List ListItem) (xs : List PlacedLink) : Prop where
  /-- A link stands in the innermost item around the nodes, or in one that begins among them. -/
  stands : ∀ x ∈ xs, x.item :: x.outer = items ∨
    next ≤ x.item.number ∧ x.item.number < next + inner.length ∧ items <:+ x.outer
  /-- The links of the innermost item around the nodes. -/
  ofOuter : ∀ i outer, items = i :: outer → ofItem i.number xs = own.map fun l => ⟨i, outer, l⟩
  /-- The links of the items that begin among the nodes. -/
  ofInner : ∀ x ∈ inner.zipIdx next, (ofItem x.2 xs).map (fun y => (y.item, y.link)) =
    x.1.links.map fun l => (⟨x.2, x.1.level, x.1.line⟩, l)
  /-- An item begins behind those around it. -/
  outward : ∀ x ∈ xs, ∀ o ∈ x.outer, o.number < x.item.number
  /-- Of two links the second stands in an item around that of the first, unless its item begins no
  earlier. -/
  order : xs.Pairwise fun x y => x.item.number ≤ y.item.number ∨ y.item ∈ x.outer

namespace Placement

theorem nil : Placement next items [] [] [] where
  stands := nofun
  ofOuter _ _ _ := rfl
  ofInner := nofun
  outward := nofun
  order := .nil

theorem number_lt (h : Placement next items own inner xs) (hitems : Nested next items)
    {x : PlacedLink} (hx : x ∈ xs) : x.item.number < next + inner.length := by
  rcases h.stands x hx with heq | ⟨-, hlt, -⟩
  · exact Nat.lt_of_lt_of_le (hitems.lt (heq ▸ List.mem_cons_self)) (Nat.le_add_right _ _)
  · exact hlt

/-- No other item has links among the nodes than the innermost one around them and those that begin
there. -/
theorem ofItem_eq_nil (h : Placement next items own inner xs) {k : Nat}
    (houter : ∀ i ∈ items.head?, i.number ≠ k) (hinner : k < next ∨ next + inner.length ≤ k) :
    ofItem k xs = [] := by
  refine List.filter_eq_nil_iff.2 fun x hx hk => ?_
  have hk : x.item.number = k := of_decide_eq_true hk
  rcases h.stands x hx with heq | ⟨hle, hlt, -⟩
  · exact houter x.item (heq ▸ rfl) hk
  · omega

/-- Nodes behind others. -/
theorem append (h : Placement next items own inner xs)
    (h' : Placement (next + inner.length) items own' inner' ys) (hitems : Nested next items) :
    Placement next items (own ++ own') (inner ++ inner') (xs ++ ys) where
  stands x hx := by
    rw [List.length_append]
    rcases List.mem_append.1 hx with hx | hx
    · exact (h.stands x hx).imp_right fun ⟨hle, hlt, hsuffix⟩ => ⟨hle, by omega, hsuffix⟩
    · exact (h'.stands x hx).imp_right fun ⟨hle, hlt, hsuffix⟩ => ⟨by omega, by omega, hsuffix⟩
  ofOuter i outer hi := by
    rw [ofItem_append, h.ofOuter i outer hi, h'.ofOuter i outer hi, List.map_append]
  ofInner x hx := by
    have hnot : ∀ k, next ≤ k → ∀ i ∈ items.head?, i.number ≠ k := fun k hk i hi =>
      Nat.ne_of_lt (Nat.lt_of_lt_of_le (hitems.lt (List.mem_of_mem_head? hi)) hk)
    rw [ofItem_append]
    rw [List.zipIdx_append] at hx
    rcases List.mem_append.1 hx with hx | hx
    · obtain ⟨hfirst, hlast, -⟩ := List.mem_zipIdx hx
      rw [h'.ofItem_eq_nil (hnot _ hfirst) (Or.inl hlast), List.append_nil, h.ofInner x hx]
    · obtain ⟨hfirst, -, -⟩ := List.mem_zipIdx hx
      rw [h.ofItem_eq_nil (hnot _ (by omega)) (Or.inr hfirst), List.nil_append, h'.ofInner x hx]
  outward x hx := (List.mem_append.1 hx).elim (h.outward x) (h'.outward x)
  order := by
    refine List.pairwise_append.2 ⟨h.order, h'.order, fun x hx y hy => ?_⟩
    have hlt := h.number_lt hitems hx
    rcases h'.stands y hy with heq | ⟨hle, -, -⟩
    · -- The second link stands in the innermost item around the nodes, and so that item is
      -- around the first one.
      rcases h.stands x hx with heq' | ⟨-, -, hsuffix⟩
      · rw [← heq] at heq'
        exact Or.inl (Nat.le_of_eq (congrArg NumberedItem.number (List.cons.inj heq').1))
      · exact Or.inr (hsuffix.subset (heq ▸ List.mem_cons_self))
    · exact Or.inl (by omega)

/-- A link in front of what is inside it. -/
theorem cons_link (h : Placement next items own inner xs) (hitems : Nested next items) (l : Link) :
    Placement next items (l :: own) inner (linkWithin items l ++ xs) := by
  cases items with
  | nil => exact { h with ofOuter := nofun }
  | cons i outer =>
    exact {
      stands := List.forall_mem_cons.2 ⟨Or.inl rfl, h.stands⟩
      ofOuter := by
        intro i' outer' heq
        obtain ⟨rfl, rfl⟩ := List.cons.inj heq
        rw [linkWithin, List.singleton_append, ofItem_cons,
          if_pos rfl, h.ofOuter i outer rfl, List.map_cons]
      ofInner := by
        intro x hx
        obtain ⟨hfirst, -, -⟩ := List.mem_zipIdx hx
        have hne : ¬ i.number = x.2 :=
          Nat.ne_of_lt (Nat.lt_of_lt_of_le (hitems.lt List.mem_cons_self) hfirst)
        rw [linkWithin, List.singleton_append, ofItem_cons, if_neg hne, h.ofInner x hx]
      outward := List.forall_mem_cons.2 ⟨fun o ho => hitems.lt_head ho, h.outward⟩
      order := by
        refine .cons (fun y hy => Or.inl ?_) h.order
        rcases h.stands y hy with heq | ⟨hle, -, -⟩
        · exact Nat.le_of_eq (congrArg NumberedItem.number (List.cons.inj heq).1.symm)
        · exact Nat.le_of_lt (Nat.lt_of_lt_of_le (hitems.lt List.mem_cons_self) hle) }

/-- An item around what is inside it. -/
theorem item (h : Placement (next + 1) (⟨next, level, line⟩ :: items) own inner xs)
    (hitems : Nested next items) :
    Placement next items [] (⟨level, line, own⟩ :: inner) xs := by
  have hinside : ∀ x ∈ xs, next ≤ x.item.number ∧ x.item.number < next + (inner.length + 1) ∧
      items <:+ x.outer := by
    intro x hx
    rcases h.stands x hx with heq | ⟨hle, hlt, hsuffix⟩
    · obtain ⟨hitem, houter⟩ := List.cons.inj heq
      rw [hitem, houter]
      exact ⟨Nat.le_refl next, Nat.lt_add_of_pos_right (Nat.succ_pos _), List.suffix_refl items⟩
    · exact ⟨by omega, by omega, (List.suffix_cons _ items).trans hsuffix⟩
  exact {
    stands := fun x hx => Or.inr (hinside x hx)
    ofOuter := by
      rintro i outer rfl
      refine List.filter_eq_nil_iff.2 fun x hx hk => ?_
      have hlt := hitems.lt (i := i) List.mem_cons_self
      exact absurd (of_decide_eq_true hk) (Nat.ne_of_gt (Nat.lt_of_lt_of_le hlt (hinside x hx).1))
    ofInner := by
      rw [List.zipIdx_cons]
      refine List.forall_mem_cons.2 ⟨?_, h.ofInner⟩
      rw [h.ofOuter _ _ rfl, List.map_map]
      rfl
    outward := h.outward
    order := h.order }

end Placement

/-! ## The links of a page -/

mutual

theorem placement_linksWithin (level : Nat) :
    ∀ (n : Node) (next : Nat) (items : List NumberedItem),
    Nested next items →
      Placement next items (linksIn n) (itemsIn level n) (linksWithin level items next n)
  | .element name attributes children, next, items, hitems => by
    rw [linksIn, itemsIn, linksWithin]
    by_cases hli : name = "li".toList
    · simp only [if_pos hli]
      exact (placement_linksWithinAll level children (next + 1) _ (hitems.cons _ _)).item hitems
    · have hinside := placement_linksWithinAll (if isList name then level + 1 else level) children
        next items hitems
      simp only [if_neg hli]
      split
      · exact hinside.cons_link hitems _
      · exact hinside
  | .text t, next, items, _ => by simpa only [linksIn, itemsIn, linksWithin] using Placement.nil
  | .comment, next, items, _ => by simpa only [linksIn, itemsIn, linksWithin] using Placement.nil

/-- The links among nodes are placed where they stand. -/
theorem placement_linksWithinAll (level : Nat) :
    ∀ (ns : List Node) (next : Nat) (items : List NumberedItem),
    Nested next items →
      Placement next items (linksInAll ns) (itemsInAll level ns)
        (linksWithinAll level items next ns)
  | [], next, items, _ => by
    rw [linksInAll, itemsInAll, linksWithinAll]
    exact .nil
  | n :: ns, next, items, hitems => by
    rw [linksInAll, itemsInAll, linksWithinAll]
    exact (placement_linksWithin level n next items hitems).append
      (placement_linksWithinAll level ns _ items (hitems.mono (Nat.le_add_right _ _))) hitems

end

/-! ## Page order and tag order -/

/-- Where the element leads, if it is a link. -/
def linkTarget? (h : Head) : Option Text :=
  if h.1 = "a".toList then some ((h.2.lookup "href".toList).getD []) else none

mutual

theorem sublist_headsIn (level : Nat) : ∀ (n : Node) (next : Nat) (items : List NumberedItem),
    ((linksWithin level items next n).map fun x => x.link.href).Sublist
      ((headsIn n).filterMap linkTarget?)
  | .element name attributes children, next, items => by
    rw [linksWithin, headsIn, List.filterMap_cons, linkTarget?]
    by_cases hli : name = "li".toList
    · have hnot : ¬ name = "a".toList := by rw [hli]; decide
      simp only [if_pos hli, if_neg hnot]
      exact sublist_headsInAll level children _ _
    · have hinside :=
        sublist_headsInAll (if isList name then level + 1 else level) children next items
      simp only [if_neg hli]
      split
      · cases items with
        | nil => exact hinside.cons _
        | cons i outer => exact hinside.cons_cons _
      · exact hinside
  | .text t, next, items => by simp [linksWithin]
  | .comment, next, items => by simp [linksWithin]

/-- The links among nodes are links among their elements, in the same order. -/
theorem sublist_headsInAll (level : Nat) :
    ∀ (ns : List Node) (next : Nat) (items : List NumberedItem),
    ((linksWithinAll level items next ns).map fun x => x.link.href).Sublist
      ((headsInAll ns).filterMap linkTarget?)
  | [], next, items => by
    rw [linksWithinAll, headsInAll]
    exact .slnil
  | n :: ns, next, items => by
    rw [linksWithinAll, headsInAll, List.map_append, List.filterMap_append]
    exact (sublist_headsIn level n next items).append (sublist_headsInAll level ns _ items)

end

/-- Where a tag leads, if it opens a link. -/
def tagTarget? (x : Token) : Option Text := x.head?.bind linkTarget?

/-- The links in the items of a page come in the order of its tags. -/
theorem sublist_tokens (t : Text) :
    ((linksWithinAll 0 [] 0 (Html.parse t)).map fun x => x.link.href).Sublist
      ((tokens t).filterMap tagTarget?) := by
  have hheads := sublist_headsInAll 0 (Html.parse t) 0 []
  rwa [heads_parse, List.filterMap_filterMap] at hheads

end Concordance.Readme
