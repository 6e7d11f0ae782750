import Concordance.Proofs.Html.Elements
import Concordance.Proofs.Readme.Branches
import Concordance.Proofs.Text.Digits
import Concordance.Readme.Entries
import Mathlib.Data.List.Basic

/-!
# The page of a list of headings

Each line that lists a heading is an item on the page of the index document, with the number of the
line and one link; the link leads to the encoded anchor of the heading.

* `readSpans_row`: the text of a line is that link.
* `parse_list`: the page is one list, with an item for each branch.
* `itemsIn_list`: the items of the page are those of the lines, in order.
-/

namespace Concordance.Readme

open Text Markdown Html

/-! ## Lines as nodes -/

/-- A line feed between elements. -/
def feed : Node := .text ['\n']

/-- A list with its items. -/
def listNode (items : List Node) : Node :=
  .element "ul".toList [] (feed :: items.flatMap fun i => [i, feed])

namespace Row

variable (r : Row)

/-- Where the link of a line leads on the page. -/
def href : Text := Url.writtenAnchor r.heading.title r.heading.sourceFile

/-- The number of the line, as its item carries it. -/
def mark : Text := ofInt (r.number + 1 : Nat)

/-- The link of a line. -/
def link : Node := .element "a".toList [("href".toList, r.href)] [.text r.heading.title]

/-- The item of a line with nothing inside it. -/
def node : Node := .element "li".toList [("data-line".toList, r.mark)] [r.link, feed]

end Row

/-- The item of a branch. -/
def Branch.node (b : Branch) : Node :=
  .element "li".toList [("data-line".toList, b.top.mark)]
    (match b.below with
      | [] => [b.top.link, feed]
      | r :: rs => [b.top.link, feed, listNode ((r :: rs).map Row.node), feed])

/-! ## Links -/

theorem isBare_of_isAnchorChar {c : Char} (h : IsAnchorChar c) : IsBare c := by
  have hsigns : ∀ d ∈ ['\\', '(', ')', '<', '&'],
      isAlphanumeric d = false ∧ d ≠ '.' ∧ d ≠ '#' ∧ d ≠ '-' := forall_mem_of_all (by decide)
  have hne : ∀ d ∈ ['\\', '(', ')', '<', '&'], c ≠ d := fun d hd =>
    h.ne (hsigns d hd).1 (hsigns d hd).2
  have hcode : 0x20 < c.toNat ∧ c.toNat ≠ 0x7F := by
    by_cases hc : c.toNat < 128
    · have hlow : ∀ n < 128, (Char.ofNat n).isAlphanum = true ∨ Char.ofNat n ∈ ['.', '#', '-'] →
          0x20 < n ∧ n ≠ 0x7F := by decide
      refine hlow c.toNat hc ?_
      rw [Char.ofNat_toNat]
      rcases h with h | rfl | rfl | rfl
      · exact Or.inl (isAlphanum_of_isAlphanumeric h hc)
      all_goals decide
    · omega
  exact ⟨hcode.1, hcode.2, hne _ (by simp), hne _ (by simp), hne _ (by simp), hne _ (by simp),
    hne _ (by simp)⟩

theorem isUnescaped_title (r : Row) : IsUnescaped r.heading.title := fun c hc =>
  ⟨r.listable.title.ne hc (by decide) (by decide), r.listable.title.ne hc (by decide) (by decide),
    r.listable.title.ne hc (by decide) (by decide), r.listable.title.ne hc (by decide) (by decide)⟩

theorem isUnescaped_href (r : Row) : IsUnescaped r.href := by
  intro c hc
  rcases Url.isWritten_of_mem_writtenAnchor r.listable.file hc with h | rfl | rfl | rfl | rfl
  · refine ⟨?_, ?_, ?_, ?_⟩ <;> rintro rfl <;> exact absurd h (by decide)
  all_goals decide

theorem isUnescaped_mark (r : Row) : IsUnescaped r.mark := isUnescaped_ofInt _

/-- The text of a line is its link. -/
theorem readSpans_row (definitions : Definitions) (r : Row) :
    readSpans definitions r.text = [.link ⟨r.href, []⟩ [.text r.heading.title]] := by
  have hnormalize : Url.normalize r.heading.anchor = r.href := by
    rw [r.listable.anchor, Url.normalize_anchor r.listable.file, Row.href]
  have hallowed : Url.isAllowed (Url.normalize r.heading.anchor) = true := by
    rw [hnormalize]
    exact Url.isAllowed_writtenAnchor r.listable.file
  have hbare : ∀ c ∈ r.heading.anchor, IsBare c := by
    rw [r.listable.anchor]
    exact fun c hc => isBare_of_isAnchorChar (isAnchorChar_of_mem_anchor r.listable.file hc)
  have hne : r.heading.anchor ≠ [] := by
    rw [r.listable.anchor]
    simp [anchor]
  rw [Row.text, readSpans_linkText definitions r.listable.title_ne
    (fun c hc => r.isPlain_of_mem_title hc) hne hbare hallowed, hnormalize]

/-! ## Markup -/

-- These equations hold by evaluation; the general ones for all blocks and spans are much slower to
-- get.

section

variable (definitions : Definitions) (tight : Bool) (line : Nat)

theorem html_link (target : Target) (t : Text) :
    spansHtml [.link target [.text t]] =
      enclose "a" (attributeHtml "href" target.destination ++ titleAttribute target.title)
        (escapeHtml t ++ []) ++ [] := rfl

theorem html_paragraph (t : Text) :
    (Block.paragraph line t).html definitions true = textHtml definitions t ++ ['\n'] := rfl

theorem html_list (items : List Item) :
    (Block.list line none true items).html definitions tight =
      enclose "ul" [] ('\n' :: itemsHtml definitions true items) ++ ['\n'] := rfl

theorem html_item (body : List Block) :
    (Item.mk line body).html definitions tight =
      enclose "li" (attributeHtml "data-line" (ofInt (line + 1 : Nat)))
        (blocksHtml definitions tight body) ++ ['\n'] := rfl

theorem blocksHtml_cons (b : Block) (bs : List Block) :
    blocksHtml definitions tight (b :: bs) =
      b.html definitions tight ++ blocksHtml definitions tight bs := rfl

theorem blocksHtml_singleton (b : Block) :
    blocksHtml definitions tight [b] = b.html definitions tight := by
  rw [blocksHtml_cons]
  exact List.append_nil _

theorem itemsHtml_cons (i : Item) (items : List Item) :
    itemsHtml definitions tight (i :: items) =
      i.html definitions tight ++ itemsHtml definitions tight items := rfl

end

/-! ## The page -/

theorem isPlainElement_a : IsPlainElement (some "li".toList) "a".toList where
  toIsElementName := .of_all (.of_all (by decide) (by decide)) (by decide) (by decide)
  opens := by decide
  holds := by decide
  stays := by decide

theorem isPlainElement_li : IsPlainElement (some "ul".toList) "li".toList where
  toIsElementName := .of_all (.of_all (by decide) (by decide)) (by decide) (by decide)
  opens := by decide
  holds := by decide
  stays := by decide

theorem isPlainElement_ul {parent : Option Text} (h : ∀ p ∈ parent, closes "ul".toList p = false) :
    IsPlainElement parent "ul".toList where
  toIsElementName := .of_all (.of_all (by decide) (by decide)) (by decide) (by decide)
  opens := by decide
  holds := by decide
  stays := h

theorem renders_link (definitions : Definitions) (r : Row) :
    Renders (some "li".toList) (r.paragraph.html definitions true) [r.link, feed] := by
  have hhref : IsTagName "href".toList := .of_all (by decide) (by decide)
  have htitle : Renders (some "a".toList) r.heading.title [.text r.heading.title] :=
    .text r.listable.title_ne (isUnescaped_title r)
  have hseparated : Separated [.text r.heading.title] := rfl
  have hhtml : r.paragraph.html definitions true =
      enclose "a" (attributeHtml "href" r.href) r.heading.title ++ ['\n'] := by
    rw [Row.paragraph, html_paragraph, textHtml, readSpans_row, html_link,
      titleAttribute, if_pos rfl,
      (isUnescaped_title r).escapeHtml_eq, List.append_nil, List.append_nil, List.append_nil]
  rw [hhtml]
  exact htitle.element isPlainElement_a (.attribute hhref (isUnescaped_href r)) hseparated

/-- An item, and what it holds. -/
theorem renders_item {definitions : Definitions} {number : Nat} {body : List Block} {r : Row}
    {ns : List Node} (hnumber : number = r.number)
    (h : Renders (some "li".toList) (blocksHtml definitions true body) ns) (hns : Separated ns) :
    Renders (some "ul".toList) ((Item.mk number body).html definitions true)
      [.element "li".toList [("data-line".toList, r.mark)] ns, feed] := by
  have hline : IsTagName "data-line".toList := .of_all (by decide) (by decide)
  rw [html_item, hnumber]
  exact h.element isPlainElement_li (.attribute hline (isUnescaped_mark r)) hns

theorem renders_row (definitions : Definitions) (r : Row) :
    Renders (some "ul".toList) (r.item.html definitions true) [r.node, feed] := by
  refine renders_item rfl ?_ rfl
  rw [blocksHtml_singleton]
  exact renders_link definitions r

theorem head_itemsHtml (definitions : Definitions) (items : List Item) :
    ∀ c ∈ (itemsHtml definitions true items).head?, c = '<' := by
  cases items with
  | nil => exact fun c hc => absurd hc (by rw [itemsHtml]; simp)
  | cons i items =>
    obtain ⟨line, body⟩ := i
    rw [itemsHtml_cons, html_item]
    simp [enclose]

/-- Elements with a line feed behind each are no neighbouring texts. -/
theorem separated_listNode {items : List Node}
    (h : ∀ i ∈ items, ∃ name as ns, i = .element name as ns) :
    Separated (feed :: items.flatMap fun i => [i, feed]) := by
  have hpush : ∀ before,
      (items.flatMap fun i => [i, feed]).foldl (fun ms n => Growing.push n ms) before =
      (items.flatMap fun i => [i, feed]).reverse ++ before := by
    induction items with
    | nil => exact fun _ => rfl
    | cons i items ih =>
      intro before
      obtain ⟨name, as, ns, rfl⟩ := h i List.mem_cons_self
      have hfirst : ([.element name as ns, feed] : List Node).foldl
          (fun ms n => Growing.push n ms) before =
          feed :: .element name as ns :: before := rfl
      rw [List.flatMap_cons, List.foldl_append, hfirst,
        ih fun j hj => h j (List.mem_cons_of_mem _ hj)]
      simp
  rw [Separated, List.foldl_cons, hpush, List.reverse_cons]
  rfl

section

variable {α : Type} {definitions : Definitions} {item : α → Item} {node : α → Node} {xs : List α}
  (h : ∀ x ∈ xs, Renders (some "ul".toList) ((item x).html definitions true) [node x, feed])

include h

theorem renders_items :
    Renders (some "ul".toList) (itemsHtml definitions true (xs.map item))
      ((xs.map node).flatMap fun i => [i, feed]) := by
  induction xs with
  | nil => exact .nil
  | cons x xs ih =>
    have htail := ih fun y hy => h y (List.mem_cons_of_mem _ hy)
    exact (h x List.mem_cons_self).append htail (head_itemsHtml definitions _)

/-- A list, whose items are elements. -/
theorem renders_list {parent : Option Text} (hparent : ∀ p ∈ parent, closes "ul".toList p = false)
    (hnode : ∀ x ∈ xs, ∃ name as ns, node x = .element name as ns) (number : Nat) (tight : Bool) :
    Renders parent ((Block.list number none true (xs.map item)).html definitions tight)
      [listNode (xs.map node), feed] := by
  have hfeed : Renders (some "ul".toList) ['\n'] [feed] :=
    .text (by decide) (by simp [IsUnescaped])
  have hbody := hfeed.append (renders_items h) (head_itemsHtml definitions _)
  have hnodes : ∀ i ∈ xs.map node, ∃ name as ns, i = .element name as ns := by
    intro i hi
    obtain ⟨x, hx, rfl⟩ := List.mem_map.1 hi
    exact hnode x hx
  rw [html_list]
  exact hbody.element (isPlainElement_ul hparent) .nil (separated_listNode hnodes)

end

theorem renders_branch (definitions : Definitions) (b : Branch) :
    Renders (some "ul".toList) (b.item.html definitions true) [b.node, feed] := by
  obtain ⟨top, below⟩ := b
  cases below with
  | nil => exact renders_row definitions top
  | cons r rs =>
    have hlist : Renders (some "li".toList)
        ((Block.list r.number none true ((r :: rs).map Row.item)).html definitions true)
        [listNode ((r :: rs).map Row.node), feed] :=
      renders_list (fun r _ => renders_row definitions r) (by decide)
        (fun r _ => ⟨_, _, _, rfl⟩) _ _
    have hbody := (renders_link definitions top).append hlist (by rw [html_list]; simp [enclose])
    refine renders_item rfl ?_ rfl
    rw [Branch.blocks, blocksHtml_cons, blocksHtml_singleton]
    exact hbody

/-- The page of a list of branches. -/
theorem parse_list (definitions : Definitions) (number : Nat) (bs : List Branch) :
    Html.parse (blocksHtml definitions false [.list number none true (bs.map Branch.item)]) =
      [listNode (bs.map Branch.node), feed] := by
  have hlist : Renders none
      ((Block.list number none true (bs.map Branch.item)).html definitions false)
      [listNode (bs.map Branch.node), feed] :=
    renders_list (fun b _ => renders_branch definitions b) (by decide)
      (fun b _ => ⟨_, _, _, rfl⟩) _ _
  rw [blocksHtml_singleton]
  exact parse_of_renders hlist rfl

/-! ## Items -/

/-- The item of a line on the page. -/
def Row.listItem (level : Nat) (r : Row) : ListItem :=
  ⟨level, some r.mark, [⟨r.href, r.heading.title⟩]⟩

theorem linksIn_feed : linksIn feed = [] := by
  rw [feed, linksIn]
  exact fun _ _ _ h => Node.noConfusion h

theorem itemsIn_feed (level : Nat) : itemsIn level feed = [] := by
  rw [feed, itemsIn]
  exact fun _ _ _ h => Node.noConfusion h

theorem linksIn_link (r : Row) : linksIn r.link = [⟨r.href, r.heading.title⟩] := by
  have htitle : titleOf [.text r.heading.title] = r.heading.title := by
    simp [titleOf, textsInAll, textsIn, r.listable.title.trim_eq, r.listable.title_ne, joinWith]
  rw [Row.link, linksIn, if_neg (by decide), if_pos rfl, htitle]
  rfl

theorem itemsIn_link (level : Nat) (r : Row) : itemsIn level r.link = [] := by
  rw [Row.link, itemsIn, if_neg (by decide)]
  rfl

theorem itemsIn_row (level : Nat) (r : Row) : itemsIn level r.node = [r.listItem level] := by
  rw [Row.node, itemsIn, if_pos rfl]
  simp [linksInAll, linksIn_link, itemsInAll, itemsIn_link, linksIn_feed,
    itemsIn_feed, Row.listItem]

/-- The items of a list are one level deeper than the list. -/
theorem itemsIn_listNode (level : Nat) (items : List Node) :
    itemsIn level (listNode items) = items.flatMap (itemsIn (level + 1)) := by
  have hitems : itemsInAll (level + 1) (items.flatMap fun i => [i, feed]) =
      items.flatMap (itemsIn (level + 1)) := by
    induction items with
    | nil => rfl
    | cons i items ih => simp [itemsInAll, ih, itemsIn_feed]
  rw [listNode, itemsIn, if_neg (by decide)]
  simp [itemsInAll, hitems, itemsIn_feed]

/-- The links of items do not belong to what is around their list. -/
theorem linksIn_rows (rs : List Row) : linksIn (listNode (rs.map Row.node)) = [] := by
  have hitems : linksInAll ((rs.map Row.node).flatMap fun i => [i, feed]) = [] := by
    induction rs with
    | nil => rfl
    | cons r rs ih => simp [linksInAll, ih, linksIn_feed, Row.node, linksIn]
  rw [listNode, linksIn, if_neg (by decide), if_neg (by decide)]
  simp [linksInAll, hitems, linksIn_feed]

theorem itemsIn_rows (level : Nat) (rs : List Row) :
    itemsIn level (listNode (rs.map Row.node)) = rs.map (Row.listItem (level + 1)) := by
  rw [itemsIn_listNode, List.flatMap_map]
  simp only [itemsIn_row]
  exact List.map_eq_flatMap.symm

theorem itemsIn_branch (level : Nat) (b : Branch) :
    itemsIn level b.node = b.top.listItem level :: b.below.map (Row.listItem (level + 1)) := by
  obtain ⟨top, below⟩ := b
  cases below with
  | nil => exact itemsIn_row level top
  | cons r rs =>
    rw [Branch.node, itemsIn, if_pos rfl]
    simp only [linksInAll, linksIn_link, linksIn_feed, linksIn_rows, itemsInAll, itemsIn_link,
      itemsIn_feed, itemsIn_rows, List.append_nil, List.nil_append]
    rfl

/-- The items of the page are those of the lines, in order; the level of an item is that of the
heading. -/
theorem itemsIn_list {bs : List Branch} (h : ∀ b ∈ bs, b.IsOuter) :
    itemsInAll 0 [listNode (bs.map Branch.node), feed] =
      (bs.flatMap Branch.rows).map fun r => r.listItem r.heading.level.toNat := by
  have hbranch : ∀ b ∈ bs, itemsIn 1 b.node =
      b.rows.map fun r => r.listItem r.heading.level.toNat := by
    intro b hb
    obtain ⟨htop, hbelow⟩ := h b hb
    have hnested : ∀ r ∈ b.below, r.listItem r.heading.level.toNat = r.listItem 2 := by
      intro r hr
      have hlevel := hbelow r hr
      rw [Row.nested, decide_eq_true_eq] at hlevel
      rw [hlevel]
      rfl
    have houter : b.top.heading.level = 1 := by
      rcases b.top.listable.level with h1 | h2
      · exact h1
      · rw [Row.nested, h2] at htop
        exact absurd htop (by decide)
    rw [itemsIn_branch, Branch.rows, List.map_cons, houter, List.map_congr_left hnested]
    rfl
  rw [itemsInAll, itemsInAll, itemsIn_listNode, itemsIn_feed, List.flatMap_map, List.map_flatMap]
  simpa [itemsInAll] using List.flatMap_congr hbranch

/-! ## Entries -/

/-- The entry that a line makes. -/
def Row.entry (file : Text) (r : Row) : Entry :=
  ⟨r.heading.level, r.heading.title, r.href, { file := file, line := some (r.number + 1 : Nat) }⟩

theorem leadsToDocument_href (r : Row) : leadsToDocument ".md".toList r.href = true := by
  have hfile := r.listable.file
  have hcut : cut '#' r.href = (r.heading.sourceFile, Url.encode (slug r.heading.title)) :=
    cut_append (hfile.not_mem (show ('#' : Char).isAlpha = false by decide) (by decide))
  have hascii : ∀ c ∈ r.heading.sourceFile, c.toNat < 128 := by
    intro c hc
    rcases hfile.mem hc with h | rfl
    · exact toNat_lt_of_isAlphanum (isAlphanum_of_isAlpha h)
    · decide
  have hextension : ∀ c ∈ ".md".toList, c.toNat < 128 := forall_mem_of_all (by decide)
  have hsuffix : endsWith (lower ".md".toList) (lower r.heading.sourceFile) = true := by
    rw [endsWith, List.isSuffixOf_iff_suffix, lower_of_ascii hascii, lower_of_ascii hextension]
    obtain ⟨stem, -, hstem⟩ := hfile
    rw [hstem, List.map_append]
    exact List.suffix_append _ _
  simp only [leadsToDocument, hcut, hsuffix, hfile.ne_nil, ne_eq, not_false_eq_true, decide_true,
    Bool.and_self]

theorem entries_listItem {r : Row} (h : r.number + 1 < 10 ^ maxDigits) (file : Text) :
    (r.listItem r.heading.level.toNat).entries file ".md".toList = .ok [r.entry file] := by
  have hmark : readInteger r.mark = .ok (r.number + 1 : Nat) := readInteger_ofInt h
  have hlevel : (r.heading.level.toNat : Int) = r.heading.level := by
    have := r.listable.level
    omega
  have hcheck : checkLevel r.heading.level = .ok () := by
    have := r.listable.level
    rw [checkLevel, if_neg (by omega)]
  obtain ⟨c, t, hc⟩ := List.exists_cons_of_ne_nil (show r.mark ≠ [] from Nat.toDigits_ne_nil)
  rw [hc] at hmark
  have hfilter : ([⟨r.href, r.heading.title⟩] : List Link).filter
      (fun l => leadsToDocument ".md".toList l.href) = [⟨r.href, r.heading.title⟩] := by
    simp only [List.filter_cons, leadsToDocument_href, if_true, List.filter_nil]
  simp only [ListItem.entries, Row.listItem, hc, hmark, hfilter, hlevel, Entry.validate, hcheck]
  rfl

end Concordance.Readme
