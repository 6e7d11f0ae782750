import Concordance.Proofs.Readme.Placement
import Concordance.Proofs.Text.Occurrences

/-!
# The order of the entries

The entries of an index document come item by item: first all links of the item that begins first,
then those of the next one.  This is the order of the page unless an item goes on with a link
behind a link of an item inside it.  The documents come in the order in which the entries name them
first.

* `entries_eq`: the entries are the links of the page, item by item.
* `itemByItem_eq_iff`: when that is the order of the page.
* `orderNames_eq_ok_iff`: the documents that names lead to, each where its name occurs first.
-/

namespace Concordance.Readme

open Text Html
open Markdown (page)

variable {t file extension : Text} {files ns os : List Text} {es : List Entry} {n : Nat}
  {xs : List PlacedLink}

/-! ## Links item by item -/

/-- The links of items on a page that lead to documents, in the order of the page. -/
def documentLinks (t extension : Text) : List PlacedLink :=
  (linksWithinAll 0 [] 0 (Html.parse (page t))).filter fun x =>
    leadsToDocument extension x.link.href

/-- These links item by item, in the order in which the items begin. -/
def itemByItem (t extension : Text) : List PlacedLink :=
  (List.range (listItems t).length).flatMap fun k => ofItem k (documentLinks t extension)

theorem placement_page (t : Text) :
    Placement 0 [] (linksInAll (Html.parse (page t))) (listItems t)
      (linksWithinAll 0 [] 0 (Html.parse (page t))) :=
  placement_linksWithinAll 0 _ 0 [] (List.pairwise_singleton _ _)

/-- Links whose items begin one behind another fall apart at each item. -/
theorem filter_lt_append_ofItem
    (h : xs.Pairwise fun x y => x.item.number ≤ y.item.number) (n : Nat) :
    xs.filter (·.item.number < n) ++ ofItem n xs = xs.filter (·.item.number < n + 1) := by
  induction h with
  | nil => rfl
  | @cons x xs hx _ ih =>
    by_cases hlt : x.item.number < n
    · have hne : ¬ x.item.number = n := Nat.ne_of_lt hlt
      simp only [List.filter_cons, ofItem_cons, hlt, hne, Nat.lt_succ_of_lt hlt, decide_true,
        if_true, if_false, List.cons_append, ih]
    · have hle : ∀ y ∈ x :: xs, n ≤ y.item.number :=
        List.forall_mem_cons.2 ⟨Nat.not_lt.1 hlt, fun y hy => Nat.le_trans
          (Nat.not_lt.1 hlt) (hx y hy)⟩
      have hnone : (x :: xs).filter (·.item.number < n) = [] :=
        List.filter_eq_nil_iff.2 fun y hy hlt => Nat.not_lt.2 (hle y hy) (of_decide_eq_true hlt)
      rw [hnone, List.nil_append]
      refine List.filter_congr fun y hy => decide_eq_decide.2 ?_
      have := hle y hy
      omega

/-- Item by item, no link is lost and none is new. -/
theorem perm_flatMap_ofItem (hn : ∀ x ∈ xs, x.item.number < n) :
    ((List.range n).flatMap fun k => ofItem k xs).Perm xs := by
  have hbelow : ∀ m, ((List.range m).flatMap fun k => ofItem k xs).Perm
      (xs.filter (·.item.number < m)) := by
    intro m
    induction m with
    | zero =>
      have hnone : xs.filter (·.item.number < 0) = [] :=
        List.filter_eq_nil_iff.2 fun x _ hx => Nat.not_lt_zero _ (of_decide_eq_true hx)
      exact .of_eq hnone.symm
    | succ m ih =>
      have hbefore : (xs.filter (·.item.number < m + 1)).filter (·.item.number < m) =
          xs.filter (·.item.number < m) := by
        rw [List.filter_filter]
        refine List.filter_congr fun x _ => Bool.eq_iff_iff.2 ?_
        simp only [Bool.and_eq_true, decide_eq_true_eq]
        omega
      have hitem : (xs.filter (·.item.number < m + 1)).filter
          (fun x => !decide (x.item.number < m)) =
          ofItem m xs := by
        rw [List.filter_filter]
        refine List.filter_congr fun x _ => Bool.eq_iff_iff.2 ?_
        simp only [Bool.and_eq_true, Bool.not_eq_true', decide_eq_true_eq, decide_eq_false_iff_not]
        omega
      have hsplit := List.filter_append_perm (fun x : PlacedLink => x.item.number < m)
        (xs.filter (·.item.number < m + 1))
      rw [hbefore, hitem] at hsplit
      rw [List.range_succ, List.flatMap_append, List.flatMap_singleton]
      exact (ih.append_right _).trans hsplit
  refine (hbelow n).trans (.of_eq ?_)
  exact List.filter_eq_self.2 fun x hx => decide_eq_true (hn x hx)

theorem flatMap_ofItem_eq_iff (hn : ∀ x ∈ xs, x.item.number < n) :
    (List.range n).flatMap (fun k => ofItem k xs) = xs ↔
      xs.Pairwise fun x y => x.item.number ≤ y.item.number := by
  constructor
  · intro h
    rw [← h, List.pairwise_flatMap]
    have hnumber : ∀ k, ∀ x ∈ ofItem k xs, x.item.number = k :=
      fun k x hx => of_decide_eq_true (List.mem_filter.1 hx).2
    refine ⟨fun k _ => List.pairwise_of_forall_mem_list fun x hx y hy => ?_, ?_⟩
    · rw [hnumber k x hx, hnumber k y hy]
    · refine List.pairwise_lt_range.imp fun {j k} hjk x hx y hy => ?_
      rw [hnumber j x hx, hnumber k y hy]
      exact Nat.le_of_lt hjk
  · intro h
    have hbelow : ∀ m, (List.range m).flatMap (fun k => ofItem k xs) =
        xs.filter (·.item.number < m) := by
      intro m
      induction m with
      | zero => exact (List.filter_eq_nil_iff.2 fun x _ hx =>
          Nat.not_lt_zero _ (of_decide_eq_true hx)).symm
      | succ m ih =>
        rw [List.range_succ, List.flatMap_append, ih, List.flatMap_singleton,
          filter_lt_append_ofItem h]
    rw [hbelow n]
    exact List.filter_eq_self.2 fun x hx => decide_eq_true (hn x hx)

theorem number_lt_of_mem {x : PlacedLink} (hx : x ∈ documentLinks t extension) :
    x.item.number < (listItems t).length := by
  have hlt := (placement_page t).number_lt (List.pairwise_singleton _ _) (List.mem_filter.1 hx).1
  rwa [Nat.zero_add] at hlt

theorem perm_itemByItem (t extension : Text) :
    (itemByItem t extension).Perm (documentLinks t extension) :=
  perm_flatMap_ofItem fun _ => number_lt_of_mem

/-- The links come item by item in the order of the page, unless a link stands behind another one
in an item inside its own. -/
theorem itemByItem_eq_iff (t extension : Text) :
    itemByItem t extension = documentLinks t extension ↔
      (documentLinks t extension).Pairwise fun x y => y.item ∉ x.outer := by
  have hplaced := placement_page t
  have horder := hplaced.order.filter fun x => leadsToDocument extension x.link.href
  rw [itemByItem, flatMap_ofItem_eq_iff fun x => number_lt_of_mem]
  constructor
  · refine fun h => h.imp_of_mem fun {x y} hx _ hle hmem => ?_
    exact Nat.not_lt.2 hle (hplaced.outward x (List.mem_filter.1 hx).1 y.item hmem)
  · exact fun h => (horder.and h).imp fun hxy => hxy.1.resolve_right hxy.2

/-! ## Entries -/

/-- The entry that a link in an item becomes. -/
def ListItem.entryOf (file : Text) (i : ListItem) (l : Link) : Entry :=
  ⟨i.level, l.title, l.href, { file := file, line := lineNumber i.line }⟩

/-- The entry that a link on a page becomes: it has the level and the line of its item. -/
def PlacedLink.entry (file : Text) (x : PlacedLink) : Entry :=
  ⟨x.item.level, x.link.title, x.link.href, { file := file, line := lineNumber x.item.line }⟩

theorem ListItem.eq_of_entries_eq_ok {i : ListItem} (h : i.entries file extension = .ok es) :
    es = (i.documentLinks extension).map (i.entryOf file) := by
  by_cases hline : IsReadable i.line
  · rw [ListItem.entries_eq hline] at h
    refine eq_map_of_mapM_eq_ok h fun l e he => ?_
    rw [validate_eq] at he
    split at he
    · cases he
    · exact (Except.ok.inj he).symm
  · obtain ⟨f, hf⟩ := exists_entries_eq_error hline file extension
    rw [hf] at h
    cases h

/-- The links of an item lead to documents as those of its number do. -/
theorem map_entry_ofItem {x : ListItem × Nat} (hx : x ∈ (listItems t).zipIdx)
    (file extension : Text) :
    (ofItem x.2 (documentLinks t extension)).map (PlacedLink.entry file) =
      (x.1.documentLinks extension).map (x.1.entryOf file) := by
  let toEntry : NumberedItem × Link → Entry := fun y =>
    ⟨y.1.level, y.2.title, y.2.href, { file := file, line := lineNumber y.1.line }⟩
  have hfilter : ofItem x.2 (documentLinks t extension) =
      (ofItem x.2 (linksWithinAll 0 [] 0 (Html.parse (page t)))).filter
        fun y => leadsToDocument extension y.link.href := List.filter_comm ..
  calc
    _ = ((((ofItem x.2 (linksWithinAll 0 [] 0 (Html.parse (page t)))).map
          fun y => (y.item, y.link)).filter
          fun y => leadsToDocument extension y.2.href).map toEntry) := by
      rw [hfilter, List.filter_map, List.map_map]
      rfl
    _ = ((x.1.links.map fun l => ((⟨x.2, x.1.level, x.1.line⟩ : NumberedItem), l)).filter
          fun y => leadsToDocument extension y.2.href).map toEntry := by
      rw [(placement_page t).ofInner x hx]
    _ = _ := by
      rw [List.filter_map, List.map_map]
      rfl

/-- The entries of an index document are the links of its page, item by item. -/
theorem entries_eq (h : entries t file extension = .ok es) :
    es = (itemByItem t extension).map (PlacedLink.entry file) := by
  rw [entries, ← listItems] at h
  cases hitems : (listItems t).mapM (ListItem.entries file extension) with
  | error f =>
    rw [hitems] at h
    cases h
  | ok ess =>
    rw [hitems] at h
    cases h
    have hess := eq_map_of_mapM_eq_ok hitems fun i es hes => ListItem.eq_of_entries_eq_ok hes
    have hrange : List.range (listItems t).length = (listItems t).zipIdx.map (·.2) := by
      rw [List.zipIdx_map_snd, List.range_eq_range']
    calc ess.flatten = (listItems t).flatMap fun i =>
      (i.documentLinks extension).map (i.entryOf file) := by rw [hess]; rfl
      _ = (listItems t).zipIdx.flatMap fun x => (x.1.documentLinks extension).map
        (x.1.entryOf file) := by
        conv_lhs => rw [← List.zipIdx_map_fst 0 (listItems t), List.flatMap_map]
      _ = (listItems t).zipIdx.flatMap fun x => (ofItem x.2 (documentLinks t extension)).map
        (PlacedLink.entry file) :=
        List.flatMap_congr fun x hx => (map_entry_ofItem hx file extension).symm
      _ = (itemByItem t extension).map (PlacedLink.entry file) := by
        rw [itemByItem, hrange, List.flatMap_map, List.map_flatMap]

/-- The links to documents come in the order of the tags. -/
theorem sublist_documentLinks (t extension : Text) :
    ((documentLinks t extension).map fun x => x.link.href).Sublist
      ((tokens (page t)).filterMap tagTarget?) :=
  (List.filter_sublist.map _).trans (sublist_tokens (page t))

/-! ## Documents -/

theorem eq_name_of_pathOf? {p m : Text} (h : pathOf? files m = some p) : Path.name p = m :=
  beq_iff_eq.1 (List.find?_some (p := fun p : Text => Path.name p == m) h)

/-- The documents that names lead to, each where its name occurs first. -/
def documentsOf (files ns : List Text) : List Text := (eachOnce ns).filterMap (pathOf? files)

theorem mem_documentsOf {p : Text} :
    p ∈ documentsOf files ns ↔ ∃ m ∈ ns, pathOf? files m = some p := by
  simp only [documentsOf, List.mem_filterMap, mem_eachOnce]

theorem documentsOf_concat {m p : Text} (hp : pathOf? files m = some p) (ns : List Text) :
    documentsOf files (ns ++ [m]) =
      if p ∈ documentsOf files ns then documentsOf files ns else documentsOf files ns ++ [p] := by
  have hmem : p ∈ documentsOf files ns ↔ m ∈ eachOnce ns := by
    rw [mem_documentsOf, mem_eachOnce]
    constructor
    · rintro ⟨k, hk, hkp⟩
      rwa [← eq_name_of_pathOf? hp, eq_name_of_pathOf? hkp]
    · exact fun hm => ⟨m, hm, hp⟩
  by_cases hm : m ∈ eachOnce ns
  · rw [if_pos (hmem.2 hm), documentsOf, eachOnce_concat, if_pos hm, documentsOf]
  · rw [if_neg fun h => hm (hmem.1 h), documentsOf, eachOnce_concat, if_neg hm,
      List.filterMap_append, documentsOf, List.filterMap_cons_some hp, List.filterMap_nil]

/-- Names are added to others exactly if each of them leads to a document, and then each document
stands where its name occurs first. -/
theorem orderNames_eq_ok_iff (seen : List Text) :
    orderNames files (documentsOf files seen) ns = .ok os ↔
      (∀ m ∈ ns, (pathOf? files m).isSome) ∧ os = documentsOf files (seen ++ ns) := by
  induction ns generalizing seen with
  | nil =>
    rw [orderNames, List.append_nil]
    constructor
    · intro h
      exact ⟨fun m hm => absurd hm List.not_mem_nil, (Except.ok.inj h).symm⟩
    · intro h
      exact congrArg Except.ok h.2.symm
  | cons m ns ih =>
    cases hp : pathOf? files m with
    | none =>
      simp only [orderNames, hp]
      constructor
      · intro h
        cases h
      · intro h
        have hsome := h.1 m List.mem_cons_self
        rw [hp] at hsome
        cases hsome
    | some p =>
      have hfound : (∀ k ∈ m :: ns, (pathOf? files k).isSome) ↔
          ∀ k ∈ ns, (pathOf? files k).isSome := by
        rw [List.forall_mem_cons, hp, Option.isSome_some, eq_self, true_and]
      simp only [orderNames, hp]
      rw [← documentsOf_concat hp, ih, hfound, List.append_assoc, List.singleton_append]

/-- The documents come in the order in which their names occur first. -/
theorem pairwise_documentsOf (files ns : List Text) :
    (documentsOf files ns).Pairwise fun p q => FirstBefore ns (Path.name p) (Path.name q) := by
  rw [documentsOf, List.pairwise_filterMap]
  refine (pairwise_eachOnce ns).imp fun {m k} hmk p hp q hq => ?_
  rwa [eq_name_of_pathOf? hp, eq_name_of_pathOf? hq]

/-- The name of the document that a link leads to. -/
def PlacedLink.name (x : PlacedLink) : Text := (splitLink x.link.href).1

/-- Documents are put in order if each entry names one of them, and then each stands where an entry
names it first. -/
theorem order_eq_ok (h : order t files extension = .ok os) :
    os = documentsOf files ((itemByItem t extension).map PlacedLink.name) := by
  rw [order] at h
  cases hentries : entries t [] extension with
  | error f =>
    rw [hentries] at h
    cases h
  | ok es =>
    rw [hentries] at h
    obtain ⟨-, hos⟩ := (orderNames_eq_ok_iff []).1 h
    rw [hos, List.nil_append, entries_eq hentries, List.map_map]
    rfl

/-- **The entries come item by item.**  They are the links of the page to documents, each with the
level and the line of its item: all those of an item together, in the order in which the items
begin.  The documents that are linked come in the order in which the entries name them first.  This
is the order in which the links stand on the page exactly if no link stands behind a link of an
item inside its own; and the order of the page is that of its tags. -/
theorem entries_item_by_item (t extension : Text) :
    (∀ file es, entries t file extension = .ok es →
      es = (itemByItem t extension).map (PlacedLink.entry file)) ∧
    (∀ files os, order t files extension = .ok os →
      os.Pairwise (fun p q => FirstBefore ((itemByItem t extension).map PlacedLink.name)
        (Path.name p) (Path.name q)) ∧
      ∀ p, p ∈ os ↔ ∃ x ∈ documentLinks t extension, pathOf? files x.name = some p) ∧
    (itemByItem t extension).Perm (documentLinks t extension) ∧
    (itemByItem t extension = documentLinks t extension ↔
      (documentLinks t extension).Pairwise fun x y => y.item ∉ x.outer) ∧
    ((documentLinks t extension).map fun x => x.link.href).Sublist
      ((tokens (page t)).filterMap tagTarget?) := by
  have hperm := perm_itemByItem t extension
  refine ⟨fun _ _ => entries_eq, fun files os h => ?_, hperm, itemByItem_eq_iff t extension,
    sublist_documentLinks t extension⟩
  rw [order_eq_ok h]
  refine ⟨pairwise_documentsOf _ _, fun p => ?_⟩
  simp only [mem_documentsOf, List.mem_map, exists_exists_and_eq_and, hperm.mem_iff]

/-- An index document with a list in a quote, in which no item goes on behind the items inside
it. -/
def quotedList : Text :=
  "> * [A](a.md#a)\n>   * [B](b.md)\n>\n> and\n\n1. [C](c.md) [A](x/a.md)\n".toList

theorem entries_item_by_item_quoted :
    ∃ es, entries quotedList "README.md".toList ".md".toList = .ok es ∧
    es.map Entry.anchor = ["a.md#a".toList, "b.md".toList, "c.md".toList, "x/a.md".toList] ∧
    es = (documentLinks quotedList ".md".toList).map (PlacedLink.entry "README.md".toList) := by
  obtain ⟨hentries, -, -, hiff, -⟩ := entries_item_by_item quotedList ".md".toList
  have hpage := hiff.2 (by decide +kernel)
  have hanchors : (entries quotedList "README.md".toList ".md".toList).map
      (List.map Entry.anchor) =
      .ok ["a.md#a".toList, "b.md".toList, "c.md".toList, "x/a.md".toList] := by decide +kernel
  cases h : entries quotedList "README.md".toList ".md".toList with
  | error f =>
    rw [h] at hanchors
    cases hanchors
  | ok es =>
    rw [h] at hanchors
    exact ⟨es, rfl, Except.ok.inj hanchors, hpage ▸ hentries _ es h⟩

/-- An index document whose first item goes on behind the item inside it. -/
def resumedItem : Text := "* [A](a.md)\n  * [B](b.md)\n\n  [C](c.md)\n".toList

theorem entries_resumedItem :
    (documentLinks resumedItem ".md".toList).map PlacedLink.name =
      ["a.md".toList, "b.md".toList, "c.md".toList] ∧
    (entries resumedItem [] ".md".toList).map (List.map Entry.anchor) =
      .ok ["a.md".toList, "c.md".toList, "b.md".toList] ∧
    order resumedItem ["a.md".toList, "b.md".toList, "c.md".toList] ".md".toList =
      .ok ["a.md".toList, "c.md".toList, "b.md".toList] := by
  decide +kernel

end Concordance.Readme
