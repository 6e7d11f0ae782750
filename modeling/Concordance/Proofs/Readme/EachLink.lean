import Concordance.Proofs.Html.Places
import Concordance.Proofs.Readme.ItemOrder
import Concordance.Proofs.Readme.Marks
import Mathlib.Data.List.Forall2
import Mathlib.Data.List.Perm.Basic

/-!
# Each link once

A link of the page is collected at the innermost item around it and at no other, although it is a
link of all of them.  So the entries and the links to documents that stand in items belong together
one by one.

* `itemAround` is the innermost item around a node; `itemAround_eq_some_iff` tells it from the
  elements around.
* `map_linksWithinAll`: the links of items, with the elements around them, are those at all places
  of the page.
* `exists_places`: each of them has a place of its own.
-/

namespace Concordance.Readme

open Text Html
open Markdown (page rawMarkup blocks prepare itemLinesIn)

variable {t file extension : Text} {es : List Entry} {level : Nat}
  {item : Option (Nat × Option Text)} {hs outer inner : List Head} {h : Head}

/-! ## The item around a link -/

/-- Whether an element is an item. -/
def IsItem (h : Head) : Prop := h.1 = "li".toList

instance (h : Head) : Decidable (IsItem h) := inferInstanceAs (Decidable (h.1 = "li".toList))

/-- How many elements are lists. -/
def listsAmong (hs : List Head) : Nat := hs.countP fun h => isList h.1

/-- The level and the line of the innermost item among elements, the outermost first; around them
are `level` lists, and `item` is the innermost item there. -/
def itemAround (level : Nat) (item : Option (Nat × Option Text)) :
    List Head → Option (Nat × Option Text)
  | [] => item
  | h :: hs =>
    if IsItem h then itemAround level (some (level, h.2.lookup "data-line".toList)) hs
    else itemAround (if isList h.1 then level + 1 else level) item hs

theorem not_isList_of_isItem (hitem : IsItem h) : isList h.1 = false := by
  rw [hitem]
  decide

theorem itemAround_cons (level : Nat) (item : Option (Nat × Option Text)) (h : Head)
    (hs : List Head) :
    itemAround level item (h :: hs) = itemAround (level + listsAmong [h])
      (if IsItem h then some (level, h.2.lookup "data-line".toList) else item) hs := by
  have hlists : listsAmong [h] = if isList h.1 then 1 else 0 := by
    unfold listsAmong
    rw [List.countP_singleton]
  rw [itemAround, hlists]
  by_cases hitem : IsItem h
  · simp only [if_pos hitem, not_isList_of_isItem hitem, Bool.false_eq_true,
      if_false, Nat.add_zero]
  · simp only [if_neg hitem]
    split <;> rfl

/-- Elements that are no items have the item around them. -/
theorem itemAround_of_not_isItem (hinner : ∀ h ∈ hs, ¬ IsItem h) :
    itemAround level item hs = item := by
  induction hs generalizing level with
  | nil => rfl
  | cons h hs ih =>
    rw [itemAround_cons, if_neg (hinner h List.mem_cons_self)]
    exact ih fun h' hh' => hinner h' (List.mem_cons_of_mem h hh')

theorem itemAround_append (hitem : IsItem h) (hinner : ∀ h ∈ inner, ¬ IsItem h) :
    itemAround level item (outer ++ h :: inner) =
      some (level + listsAmong outer, h.2.lookup "data-line".toList) := by
  induction outer generalizing level item with
  | nil =>
    rw [List.nil_append, itemAround_cons, if_pos hitem, itemAround_of_not_isItem hinner]
    rfl
  | cons o outer ih =>
    have hlists : listsAmong (o :: outer) = listsAmong [o] + listsAmong outer := by
      unfold listsAmong
      rw [← List.singleton_append, List.countP_append]
    rw [List.cons_append, itemAround_cons, ih, hlists, Nat.add_assoc]

/-- Among elements there is no item, or there is an innermost one. -/
theorem not_isItem_or_exists (hs : List Head) : (∀ h ∈ hs, ¬ IsItem h) ∨
    ∃ outer h inner, hs = outer ++ h :: inner ∧ IsItem h ∧ ∀ h ∈ inner, ¬ IsItem h := by
  induction hs with
  | nil => exact Or.inl nofun
  | cons h hs ih =>
    rcases ih with hnone | ⟨outer, i, inner, rfl, hitem, hinner⟩
    · by_cases hitem : IsItem h
      · exact Or.inr ⟨[], h, hs, rfl, hitem, hnone⟩
      · exact Or.inl (List.forall_mem_cons.2 ⟨hitem, hnone⟩)
    · exact Or.inr ⟨h :: outer, i, inner, rfl, hitem, hinner⟩

theorem itemAround_eq_some_iff {i : Nat × Option Text} : itemAround 0 none hs = some i ↔
    ∃ outer h inner, hs = outer ++ h :: inner ∧ IsItem h ∧ (∀ h ∈ inner, ¬ IsItem h) ∧
      i = (listsAmong outer, h.2.lookup "data-line".toList) := by
  constructor
  · intro hi
    rcases not_isItem_or_exists hs with hnone | ⟨outer, h, inner, rfl, hitem, hinner⟩
    · rw [itemAround_of_not_isItem hnone] at hi
      cases hi
    · rw [itemAround_append hitem hinner, Nat.zero_add] at hi
      exact ⟨outer, h, inner, rfl, hitem, hinner, (Option.some.inj hi).symm⟩
  · rintro ⟨outer, h, inner, rfl, hitem, hinner, rfl⟩
    rw [itemAround_append hitem hinner, Nat.zero_add]

theorem isSome_itemAround_iff : (itemAround 0 none hs).isSome ↔ ∃ h ∈ hs, IsItem h := by
  rcases not_isItem_or_exists hs with hnone | ⟨outer, h, inner, rfl, hitem, hinner⟩
  · rw [itemAround_of_not_isItem hnone]
    simpa using hnone
  · rw [itemAround_append hitem hinner]
    exact ⟨fun _ => ⟨h, List.mem_append_right outer List.mem_cons_self, hitem⟩, fun _ => rfl⟩

/-! ## Links at their places -/

/-- The level and the line of the item that a link stands in, and the link. -/
abbrev ItemLink := (Nat × Option Text) × Link

/-- A link, without the number of its item. -/
def PlacedLink.itemLink (x : PlacedLink) : ItemLink := ((x.item.level, x.item.line), x.link)

/-- The innermost of some items. -/
def innermost (items : List NumberedItem) : Option (Nat × Option Text) :=
  items.head?.map fun i => (i.level, i.line)

/-- The link that a node is, if it is one in an item. -/
def linkAt (level : Nat) (item : Option (Nat × Option Text)) (s : Standing) : Option ItemLink :=
  match s.2 with
  | .element name as children =>
    if name = "a".toList then
      (itemAround level item s.1).map fun i => (i, linkOf as children) else none
  | _ => none

theorem linkAt_inside (level : Nat) (item : Option (Nat × Option Text)) (h : Head) (s : Standing) :
    linkAt level item (h :: s.1, s.2) = linkAt (level + listsAmong [h])
      (if IsItem h then some (level, h.2.lookup "data-line".toList) else item) s := by
  unfold linkAt
  simp only [itemAround_cons]

mutual

theorem map_linksWithin (level : Nat) : ∀ (n : Node) (next : Nat) (items : List NumberedItem),
    (linksWithin level items next n).map PlacedLink.itemLink =
      (standing n).filterMap fun x => linkAt level (innermost items) x.2
  | .element name as children, next, items => by
    have hinside : (fun x : Place × Standing => linkAt level (innermost items)
        ((name, as) :: x.2.1, x.2.2)) =
        fun x => linkAt (level + listsAmong [(name, as)])
          (if IsItem (name, as) then some (level, as.lookup "data-line".toList)
            else innermost items) x.2 :=
      funext fun x => linkAt_inside level (innermost items) (name, as) x.2
    have hlists : listsAmong [(name, as)] = if isList name then 1 else 0 := List.countP_singleton
    have hhere : linkAt level (innermost items) ([], .element name as children) =
      if name = "a".toList then (innermost items).map fun i => (i, linkOf as children)
      else none := rfl
    rw [linksWithin, standing, List.filterMap_cons, List.filterMap_map, Function.comp_def]
    simp only [hinside, hhere]
    by_cases hli : name = "li".toList
    · have hitem : IsItem (name, as) := hli
      have hlist : isList name = false := not_isList_of_isItem hitem
      have hnot : ¬ name = "a".toList := by
        rw [hli]
        decide
      simp only [if_pos hli, if_pos hitem, if_neg hnot, hlists, hlist]
      exact map_linksWithinAll level children (next + 1) 0 _
    · have hitem : ¬ IsItem (name, as) := hli
      have hlevel : (if isList name then level + 1 else level) =
          level + if isList name then 1 else 0 := by
        split <;> rfl
      have hchildren :=
        map_linksWithinAll (level + if isList name then 1 else 0) children next 0 items
      simp only [if_neg hli, if_neg hitem, hlists, hlevel, List.map_append, hchildren]
      by_cases ha : name = "a".toList
      · simp only [if_pos ha]
        cases items <;> rfl
      · simp only [if_neg ha, List.map_nil, List.nil_append]
  | .text t, next, items => by simp [linksWithin, standing, linkAt]
  | .comment, next, items => by simp [linksWithin, standing, linkAt]

/-- The links of items are those at all places. -/
theorem map_linksWithinAll (level : Nat) :
    ∀ (ns : List Node) (next k : Nat) (items : List NumberedItem),
    (linksWithinAll level items next ns).map PlacedLink.itemLink =
      (standingAll k ns).filterMap fun x => linkAt level (innermost items) x.2
  | [], next, k, items => by simp [linksWithinAll, standingAll]
  | n :: ns, next, k, items => by
    rw [linksWithinAll, standingAll, List.map_append, List.filterMap_append, List.filterMap_map,
      map_linksWithin level n next items, map_linksWithinAll level ns _ (k + 1) items]
    rfl

end

/-- The link that a node is, if it is one in an item and leads to a document. -/
def documentLinkAt (extension : Text) (s : Standing) : Option ItemLink :=
  (linkAt 0 none s).filter fun x => leadsToDocument extension x.2.href

theorem map_documentLinks (t extension : Text) :
    (documentLinks t extension).map PlacedLink.itemLink =
      (standingAll 0 (Html.parse (page t))).filterMap fun x => documentLinkAt extension x.2 := by
  have hlinks := map_linksWithinAll 0 (Html.parse (page t)) 0 0 []
  have hnone : innermost [] = none := rfl
  rw [hnone] at hlinks
  have hfilter : (documentLinks t extension).map PlacedLink.itemLink =
      ((linksWithinAll 0 [] 0 (Html.parse (page t))).map PlacedLink.itemLink).filter
        fun x => leadsToDocument extension x.2.href := by
    unfold documentLinks
    rw [List.filter_map]
    rfl
  rw [hfilter, hlinks, List.filter_filterMap]
  rfl

/-- Where a link leads. -/
def target (as : Attributes) : Text := (as.lookup "href".toList).getD []

theorem leadsToDocument_iff (extension href : Text) : leadsToDocument extension href = true ↔
    (cut '#' href).1 ≠ [] ∧ lower extension <:+ lower (cut '#' href).1 := by
  unfold leadsToDocument endsWith
  rw [Bool.and_eq_true, decide_eq_true_eq, List.isSuffixOf_iff_suffix]

theorem documentLinkAt_eq_some_iff {s : Standing} {x : ItemLink} :
    documentLinkAt extension s = some x ↔
      ∃ as children, s.2 = .element "a".toList as children ∧ itemAround 0 none s.1 = some x.1 ∧
        x.2 = linkOf as children ∧ leadsToDocument extension (target as) = true := by
  obtain ⟨hs, n⟩ := s
  obtain ⟨i, l⟩ := x
  unfold documentLinkAt
  rw [Option.filter_eq_some_iff]
  constructor
  · rintro ⟨hlink, hleads⟩
    cases n with
    | element name as children =>
      by_cases ha : name = "a".toList
      · simp only [linkAt, if_pos ha, Option.map_eq_some_iff] at hlink
        obtain ⟨j, hitem, heq⟩ := hlink
        obtain ⟨rfl, rfl⟩ := Prod.mk.inj heq
        exact ⟨as, children, congrArg (Node.element · as children) ha, hitem, rfl, hleads⟩
      · simp only [linkAt, if_neg ha] at hlink
        cases hlink
    | text t => cases hlink
    | comment => cases hlink
  · rintro ⟨as, children, rfl, hitem, rfl, hleads⟩
    refine ⟨?_, hleads⟩
    simp only [linkAt, if_true, hitem, Option.map_some]

/-! ## The lines of items -/

mutual

theorem map_line_itemsIn (level : Nat) : ∀ n : Node,
    (itemsIn level n).map ListItem.line =
      (itemHeads (headsIn n)).map fun h => h.2.lookup "data-line".toList
  | .element name as children => by
    have hchildren := fun level => map_line_itemsInAll level children
    rw [itemsIn, headsIn]
    unfold itemHeads at hchildren ⊢
    by_cases hli : name = "li".toList
    · simp only [List.filter_cons, hli, decide_true, if_true, List.map_cons, hchildren]
    · simp only [List.filter_cons, hli, decide_false, Bool.false_eq_true, if_false, hchildren]
  | .text t => by simp [itemsIn, headsIn, itemHeads]
  | .comment => by simp [itemsIn, headsIn, itemHeads]

/-- Items are listed in the order of the elements that they are, with the lines that these
carry. -/
theorem map_line_itemsInAll (level : Nat) : ∀ ns : List Node,
    (itemsInAll level ns).map ListItem.line = (itemHeads (headsInAll ns)).map fun h =>
      h.2.lookup "data-line".toList
  | [] => by simp [itemsInAll, headsInAll, itemHeads]
  | n :: ns => by
    have hn := map_line_itemsIn level n
    have hns := map_line_itemsInAll level ns
    unfold itemHeads at hn hns ⊢
    rw [itemsInAll, headsInAll, List.map_append, List.filter_append, List.map_append, hn, hns]

end

/-- Where the entries can be read, so can the lines of all items. -/
theorem lineNumber_of_mem_itemLinesIn (hraw : ∀ w ∈ rawMarkup t, IsBalanced w)
    (hes : entries t file extension = .ok es) {line : Nat}
    (hline : line ∈ itemLinesIn (blocks (prepare t))) :
    lineNumber (some (ofInt (line + 1 : Nat))) = some ((line + 1 : Nat) : Int) := by
  obtain ⟨c, u, hdigits⟩ :=
    List.exists_cons_of_ne_nil (Nat.toDigits_ne_nil (n := line + 1) (b := 10))
  have hmark : some (ofInt (line + 1 : Nat)) ∈ (listItems t).map ListItem.line := by
    rw [listItems, map_line_itemsInAll, items_page hraw, List.map_map]
    exact List.mem_map.2 ⟨line, hline, rfl⟩
  obtain ⟨i, hi, hmark⟩ := List.mem_map.1 hmark
  have hread : IsReadable i.line := by
    by_contra hnot
    obtain ⟨f, hf⟩ := (entries_eq_error_iff t file extension).2 ⟨i, hi, Or.inl hnot⟩
    rw [hes] at hf
    cases hf
  rw [hmark, ofInt_natCast, hdigits] at hread
  obtain ⟨m, hm⟩ := hread c u rfl
  have hvalue : m = ((line + 1 : Nat) : Int) := by
    rw [← hdigits, ← ofInt_natCast] at hm
    exact eq_of_readInteger_ofInt hm
  rw [ofInt_natCast, hdigits, lineNumber, hm, hvalue]
  rfl

/-! ## Each link once -/

/-- The link at a place stands in an item and leads to a document. -/
def IsDocumentLink (ns : List Node) (extension : Text) (p : Place) : Prop :=
  ∃ hs as children, standing? ns p = some (hs, .element "a".toList as children) ∧
    (∃ h ∈ hs, IsItem h) ∧
    (cut '#' (target as)).1 ≠ [] ∧ lower extension <:+ lower (cut '#' (target as)).1

/-- An entry comes from the link at a place: its level is the number of lists around the innermost
item there, and its line is that of the item in the document. -/
def IsEntryOf (t file : Text) (e : Entry) (p : Place) : Prop :=
  ∃ outer line inner as children,
    standing? (Html.parse (page t)) p =
    some (outer ++ itemHead line :: inner, .element "a".toList as children) ∧
    (∀ h ∈ inner, ¬ IsItem h) ∧ line ∈ itemLinesIn (blocks (prepare t)) ∧
    e = ⟨listsAmong outer, titleOf children, target as,
      { file := file, line := some (line + 1 : Nat) }⟩

/-- The places of the links that lead to documents from inside an item, in the order of the
page. -/
def documentPlaces (t extension : Text) : List Place :=
  ((standingAll 0 (Html.parse (page t))).filter fun x =>
    (documentLinkAt extension x.2).isSome).map Prod.fst

theorem nodup_documentPlaces (t extension : Text) : (documentPlaces t extension).Nodup :=
  (nodup_places_standingAll (Html.parse (page t)) 0).sublist (List.filter_sublist.map Prod.fst)

theorem mem_documentPlaces {p : Place} :
    p ∈ documentPlaces t extension ↔ IsDocumentLink (Html.parse (page t)) extension p := by
  unfold documentPlaces IsDocumentLink
  simp only [List.mem_map, List.mem_filter, Option.isSome_iff_exists]
  constructor
  · rintro ⟨⟨q, hs, n⟩, ⟨hstands, ⟨x, hx⟩⟩, rfl⟩
    obtain ⟨as, children, hn, hitem, -, hleads⟩ := documentLinkAt_eq_some_iff.1 hx
    obtain rfl : n = .element "a".toList as children := hn
    have haround : (itemAround 0 none hs).isSome := by
      rw [hitem]
      rfl
    exact ⟨hs, as, children, mem_standingAll_iff.1 hstands, isSome_itemAround_iff.1 haround,
      (leadsToDocument_iff _ _).1 hleads⟩
  · rintro ⟨hs, as, children, hstands, hitem, hleads⟩
    obtain ⟨i, hi⟩ := Option.isSome_iff_exists.1 (isSome_itemAround_iff.2 hitem)
    have hlink : documentLinkAt extension (hs, .element "a".toList as children) =
        some (i, linkOf as children) :=
      documentLinkAt_eq_some_iff.2 ⟨as, children, rfl, hi, rfl, (leadsToDocument_iff _ _).2 hleads⟩
    exact ⟨(p, hs, .element "a".toList as children),
      ⟨mem_standingAll_iff.2 hstands, ⟨_, hlink⟩⟩, rfl⟩

/-- What is found among elements belongs to those that it is found at. -/
theorem forall₂_filterMap {α β γ : Type} {f : α → Option β} {g : α → γ} {R : β → γ → Prop}
    {xs : List α} (hR : ∀ x ∈ xs, ∀ y, f x = some y → R y (g x)) :
    List.Forall₂ R (xs.filterMap f) ((xs.filter fun x => (f x).isSome).map g) := by
  induction xs with
  | nil => exact .nil
  | cons x xs ih =>
    have hxs := ih fun x' hx' => hR x' (List.mem_cons_of_mem x hx')
    cases hx : f x with
    | none =>
      rw [List.filterMap_cons_none hx, List.filter_cons_of_neg (by simp [hx])]
      exact hxs
    | some y =>
      rw [List.filterMap_cons_some hx, List.filter_cons_of_pos (by simp [hx]), List.map_cons]
      exact .cons (hR x List.mem_cons_self y hx) hxs

/-- The links of the page that lead to documents are those at the places of such links. -/
theorem forall₂_documentLinks (t extension : Text) :
    List.Forall₂ (fun x p => ∃ s, standing? (Html.parse (page t)) p = some s ∧
      documentLinkAt extension s = some (PlacedLink.itemLink x)) (documentLinks t extension)
      (documentPlaces t extension) := by
  have hforall : List.Forall₂ (fun x p => ∃ s, standing? (Html.parse (page t)) p = some s ∧
      documentLinkAt extension s = some x) ((documentLinks t extension).map PlacedLink.itemLink)
      (documentPlaces t extension) := by
    rw [map_documentLinks]
    refine forall₂_filterMap fun x hx y hy => ?_
    obtain ⟨p, s⟩ := x
    exact ⟨s, mem_standingAll_iff.1 hx, hy⟩
  exact List.forall₂_map_left_iff.1 hforall

/-- The entry of a link at a place. -/
theorem isEntryOf_entry (hraw : ∀ w ∈ rawMarkup t, IsBalanced w)
    (hes : entries t file extension = .ok es) {x : PlacedLink} {p : Place} {s : Standing}
    (hstands : standing? (Html.parse (page t)) p = some s)
    (hlink : documentLinkAt extension s = some x.itemLink) :
    IsEntryOf t file (x.entry file) p := by
  obtain ⟨hs, n⟩ := s
  obtain ⟨as, children, rfl, haround, hl, -⟩ := documentLinkAt_eq_some_iff.1 hlink
  obtain ⟨outer, h, inner, rfl, hitem, hinner, heq⟩ := itemAround_eq_some_iff.1 haround
  obtain ⟨hlevel, hmark⟩ := Prod.mk.inj heq
  have hmem : h ∈ itemHeads (headsInAll (Html.parse (page t))) := by
    have hheads :=
      subset_headsInAll_of_standing? hstands (List.mem_append_right outer List.mem_cons_self)
    exact List.mem_filter.2 ⟨hheads, decide_eq_true hitem⟩
  rw [items_page hraw] at hmem
  obtain ⟨line, hline, rfl⟩ := List.mem_map.1 hmem
  have hnumber : lineNumber x.item.line = some ((line + 1 : Nat) : Int) := by
    rw [hmark]
    exact lineNumber_of_mem_itemLinesIn hraw hes hline
  refine ⟨outer, line, inner, as, children, hstands, hinner, hline, ?_⟩
  rw [PlacedLink.entry, hnumber, hlevel, show x.link = linkOf as children from hl]
  rfl

/-- **Each link is collected once.**  Where raw markup, if there is any, closes what it opens, the
entries of an index document and the links to documents inside items belong together one by one: no
place of such a link is left out or taken twice.  The level of an entry is the number of lists
around the innermost item around its link, so at least one, and its line is that of the item; for
the items of the page are those of the document, in its order, and each carries its line. -/
theorem entries_each_once (hraw : ∀ w ∈ rawMarkup t, IsBalanced w) (file extension : Text) :
    (t.length < 10 ^ maxDigits → ∃ es, entries t file extension = .ok es) ∧
    itemHeads (headsInAll (Html.parse (page t))) =
      (itemLinesIn (blocks (prepare t))).map itemHead ∧
    ∀ es, entries t file extension = .ok es → (∀ e ∈ es, 1 ≤ e.level) ∧
      ∃ ps : List Place, ps.Nodup ∧
        (∀ p, p ∈ ps ↔ IsDocumentLink (Html.parse (page t)) extension p) ∧
        List.Forall₂ (IsEntryOf t file) es ps := by
  have hwell := isWellFormed_of_isBalanced hraw
  refine ⟨fun hlength => exists_entries_of_isWellFormed hwell hlength file extension,
    items_page hraw, fun es hes => ?_⟩
  refine ⟨one_le_level_of_mem_entries hes, ?_⟩
  obtain ⟨ps, hforall, hperm⟩ :=
    List.perm_comp_forall₂ (perm_itemByItem t extension) (forall₂_documentLinks t extension)
  refine ⟨ps, hperm.nodup_iff.2 (nodup_documentPlaces t extension), fun p => ?_, ?_⟩
  · rw [hperm.mem_iff, mem_documentPlaces]
  · rw [entries_eq hes, List.forall₂_map_left_iff]
    exact hforall.imp fun x p ⟨s, hstands, hlink⟩ => isEntryOf_entry hraw hes hstands hlink

/-- The list in a quote and the one below it hold four links to documents; one of them stands in
two items. -/
theorem entries_each_once_quoted :
    ∃ es ps, entries quotedList "README.md".toList ".md".toList = .ok es ∧
    List.Forall₂ (IsEntryOf quotedList "README.md".toList) es ps ∧ ps.Nodup ∧ ps.length = 4 ∧
    (∀ e ∈ es, 1 ≤ e.level) ∧ itemLinesIn (blocks (prepare quotedList)) = [0, 1, 5] := by
  have hmarkup : rawMarkup quotedList = [] := by decide +kernel
  have hraw : ∀ w ∈ rawMarkup quotedList, IsBalanced w := by
    rw [hmarkup]
    exact nofun
  have hlength : quotedList.length < 10 ^ maxDigits :=
    Nat.lt_of_lt_of_le (show quotedList.length < 10 ^ 2 by decide +kernel)
      (Nat.pow_le_pow_right (by decide) (by decide))
  obtain ⟨hread, -, hentries⟩ := entries_each_once hraw "README.md".toList ".md".toList
  obtain ⟨es, hes⟩ := hread hlength
  obtain ⟨hlevels, ps, hnodup, -, hforall⟩ := hentries es hes
  have hcount : (entries quotedList "README.md".toList ".md".toList).map List.length = .ok 4 := by
    decide +kernel
  rw [hes] at hcount
  have hplaces : ps.length = 4 := hforall.length_eq.symm.trans (Except.ok.inj hcount)
  exact ⟨es, ps, hes, hforall, hnodup, hplaces, hlevels, by decide +kernel⟩

end Concordance.Readme
