import Concordance.Proofs.Markdown.Numbering
import Concordance.Proofs.Readme.Markup
import Concordance.Proofs.Readme.Passing

/-!
# Documents with well-formed raw markup

Raw markup may stand anywhere in a document, and its tags act on a page as the others do.  It is
well formed if it closes what it opens within each element that a block is written as, and if its
items stand in lists and carry no line, or a line that is a number.  Then every item of the page
stands in a list.

* `Course` tells what reading does to the open elements; `blocksCourse` puts the raw markup of a
  document in its place between the elements that are written.
* `IsWellFormed`: the raw markup of a document as a whole is well formed.
* `leads_blocks`: the tags of a document take this course.
* `isWellFormed_of_isBalanced`: where each piece closes what it opens, and nothing else, this
  holds.
* `isSound_page`: every item of the page stands in a list and carries a line that can be read.
-/

namespace Concordance.Readme

open Text Html
open Markdown hiding Token

variable {ns ms : List Text} {ts : List Token} {definitions : Definitions} {t : Text}

/-! ## Courses -/

/-- What reading does to the open elements: nothing, if something is not well formed, or those that
are open behind it. -/
abbrev Course := List Text → Option (List Text)

/-- The course of tags, each of which fits where it stands. -/
def through (ts : List Token) : Course := fun ns =>
  if Fitting ns ts then some (ts.foldl Token.behind ns) else none

/-- The course of an element within which all that is opened is closed; its tag may close some of
the open elements. -/
def within (name : Text) (c : Course) : Course := fun ns =>
  let under := namesUnder name ns
  if c (name :: under) = some (name :: under) then some under else none

/-- Courses one behind the other. -/
def along : List Course → Course
  | [] => some
  | c :: cs => fun ns => (c ns).bind (along cs)

/-- The course of a row of a table. -/
def rowCourse (definitions : Definitions) (cell : String) (cells : List Text) : Course :=
  within "tr".toList
    (along (cells.map fun c => within cell.toList (through (textTags definitions c))))

mutual

/-- The course of a block: within the elements that it is written as, its running text and its raw
markup close what they open. -/
def blockCourse (definitions : Definitions) (tight : Bool) : Block → Course
  | .paragraph _ t =>
    if tight then through (textTags definitions t)
    else within "p".toList (through (textTags definitions t))
  | .heading _ level t => within ('h' :: ofInt level) (through (textTags definitions t))
  | .code _ _ => within "pre".toList (within "code".toList some)
  | .fence _ _ _ => within "pre".toList (within "code".toList some)
  | .markup _ t => through (tags (tokens t))
  | .thematicBreak _ => fun ns => some (namesUnder "hr".toList ns)
  | .quote _ body => within "blockquote".toList (blocksCourse definitions false body)
  | .list _ none tight items => within "ul".toList (itemsCourse definitions tight items)
  | .list _ (some _) tight items => within "ol".toList (itemsCourse definitions tight items)
  | .table _ head rows =>
    within "table".toList (along (within "thead".toList (rowCourse definitions "th" head) ::
      if rows = [] then []
      else [within "tbody".toList (along (rows.map (rowCourse definitions "td")))]))
  | .definition _ _ _ => some

/-- The course of blocks. -/
def blocksCourse (definitions : Definitions) (tight : Bool) : List Block → Course
  | [] => some
  | b :: bs =>
    fun ns => (blockCourse definitions tight b ns).bind (blocksCourse definitions tight bs)

/-- The course of an item. -/
def itemCourse (definitions : Definitions) (tight : Bool) : Item → Course
  | .mk _ body => within "li".toList (blocksCourse definitions tight body)

/-- The course of the items of a list. -/
def itemsCourse (definitions : Definitions) (tight : Bool) : List Item → Course
  | [] => some
  | i :: is =>
    fun ns => (itemCourse definitions tight i ns).bind (itemsCourse definitions tight is)

end

/-- The course of a document. -/
def pageCourse (t : Text) : Course :=
  let bs := blocks (prepare t)
  blocksCourse (definitionsIn bs) false bs

/-- The raw markup of a document is well formed on its page: each piece of it is whole, and on the
page as a whole it closes what it opens, and it opens items in lists only. -/
structure IsWellFormed (t : Text) : Prop where
  whole : ∀ w ∈ rawMarkup t, IsWhole w
  course : pageCourse t [] = some []

/-! ## Tags that take a course -/

theorem through_eq_some_iff : through ts ns = some ms ↔ Leads ts ns ms := by
  unfold through
  constructor
  · intro h
    split at h
    · rename_i hfitting
      exact ⟨hfitting, Option.some.inj h⟩
    · cases h
  · intro h
    rw [if_pos h.fitting, h.behind_eq]

theorem within_eq_some_iff {c : Course} {name : Text} :
    within name c ns = some ms ↔ ms = namesUnder name ns ∧ c (name :: ms) = some (name :: ms) := by
  unfold within
  constructor
  · intro h
    dsimp only at h
    split at h
    · rename_i hbody
      cases h
      exact ⟨rfl, hbody⟩
    · cases h
  · rintro ⟨rfl, hbody⟩
    exact if_pos hbody

theorem leads_within {c : Course} {name : Text} {as : Attributes} (hn : IsPlainElement none name)
    (hli : name ≠ "li".toList) (h : ∀ ks, c ks = some ks → Leads ts ks ks)
    (hc : within name c ns = some ms) : Leads (elementTags name as ts) ns ms := by
  obtain ⟨rfl, hbody⟩ := within_eq_some_iff.1 hc
  exact .element hn (fun h => absurd h hli) (h _ hbody)

/-- An element that blocks or spans are written as, other than an item. -/
theorem leads_named {c : Course} {name : String} {as : Attributes}
    (hname : name ∈ inlineTags ++ blockElements) (hli : name ≠ "li")
    (h : ∀ ks, c ks = some ks → Leads ts ks ks) (hc : within name.toList c ns = some ms) :
    Leads (elementTags name.toList as ts) ns ms :=
  leads_within (isPlainElement_of_mem hname (by simp)) (fun h => hli (String.toList_inj.1 h)) h hc

theorem leads_nothing (h : some ns = some ms) : Leads [] ns ms := by
  cases h
  exact Leads.nil ns

theorem leads_along {α : Type} {f : α → List Token} {c : α → Course} {xs : List α}
    (h : ∀ x ∈ xs, ∀ ks ls, c x ks = some ls → Leads (f x) ks ls)
    (hc : along (xs.map c) ns = some ms) : Leads (xs.flatMap f) ns ms := by
  induction xs generalizing ns with
  | nil => exact leads_nothing hc
  | cons x xs ih =>
    obtain ⟨ks, hx, hxs⟩ := Option.bind_eq_some_iff.1 hc
    exact (h x List.mem_cons_self _ _ hx).append
      (ih (fun y hy => h y (List.mem_cons_of_mem _ hy)) hxs)

theorem leads_preformatted {as : Attributes}
    (hc : within "pre".toList (within "code".toList some) ns = some ms) :
    Leads (elementTags "pre".toList [] (elementTags "code".toList as [])) ns ms :=
  leads_named (by decide) (by decide)
    (fun _ hcode => leads_named (by decide) (by decide) (fun _ _ => Leads.nil _) hcode) hc

theorem leads_rule (hc : some (namesUnder "hr".toList ns) = some ms) :
    Leads [.opening "hr".toList [] true] ns ms := by
  cases hc
  have hbehind : (Token.opening "hr".toList [] true).behind ns = namesUnder "hr".toList ns := by
    have hframe : frameTags.contains "hr".toList = false := by decide
    simp only [Token.behind, hframe, Bool.true_or, if_true, Bool.false_eq_true, if_false]
  have htag : Leads [.opening "hr".toList [] true] ns
      ((Token.opening "hr".toList [] true).behind ns) :=
    .tag fun h => absurd h (by decide)
  rwa [hbehind] at htag

theorem leads_row {cell : String} (hcell : cell ∈ ["th", "td"]) {cells : List Text}
    (hc : rowCourse definitions cell cells ns = some ms) :
    Leads (rowTags definitions cell cells) ns ms := by
  have hnames : ∀ n ∈ ["th", "td"], n ∈ inlineTags ++ blockElements ∧ n ≠ "li" := by decide
  obtain ⟨hmem, hli⟩ := hnames cell hcell
  refine leads_named (by decide) (by decide) (fun _ hcells => ?_) hc
  exact leads_along
    (fun _ _ _ _ h => leads_named hmem hli (fun _ htext => through_eq_some_iff.1 htext) h) hcells

theorem leads_table {head : List Text} {rows : List (List Text)} {tight : Bool} {line : Nat}
    (hc : blockCourse definitions tight (.table line head rows) ns = some ms) :
    Leads ((Block.table line head rows).tags definitions tight) ns ms := by
  refine leads_named (by decide) (by decide) (fun ks hparts => ?_) hc
  obtain ⟨ls, hhead, hrows⟩ := Option.bind_eq_some_iff.1 hparts
  have hpart : Leads (elementTags "thead".toList [] (rowTags definitions "th" head)) ks ls :=
    leads_named (by decide) (by decide) (fun _ h => leads_row (by decide) h) hhead
  refine hpart.append ?_
  split at hrows
  · rename_i hnil
    rw [if_pos hnil]
    exact leads_nothing hrows
  · rename_i hnil
    obtain ⟨_, hbody, hbehind⟩ := Option.bind_eq_some_iff.1 hrows
    cases hbehind
    rw [if_neg hnil]
    exact leads_named (by decide) (by decide)
      (fun _ h => leads_along (fun _ _ _ _ hrow => leads_row (by decide) hrow) h) hbody

/-! ## Items -/

/-- An item of a list carries its line, and stands in the list. -/
theorem leads_item {name : String} (hname : name ∈ ["ul", "ol"]) {line : Nat}
    (hline : line + 1 < 10 ^ maxDigits) {bs : List Block} {tight : Bool}
    (hbody : ∀ ks, blocksCourse definitions tight bs ks = some ks →
      Leads (tagsIn definitions tight bs) ks ks)
    (hc : itemCourse definitions tight (.mk line bs) (name.toList :: ns) = some ms) :
    Leads ((Item.mk line bs).tags definitions tight) (name.toList :: ns) ms ∧
      ms = name.toList :: ns := by
  have hnames : ∀ n ∈ ["ul", "ol"], isList n.toList = true ∧
      closes "li".toList n.toList = false := by
    decide
  obtain ⟨hlist, hcloses⟩ := hnames name hname
  have hunder : namesUnder "li".toList (name.toList :: ns) = name.toList :: ns :=
    namesUnder_eq fun _ he => Option.some.inj he ▸ hcloses
  obtain ⟨rfl, hc⟩ := within_eq_some_iff.1 hc
  have hreadable : IsReadable (some (ofInt (line + 1 : Nat))) := by
    intro c t hct
    rw [← Option.some.inj hct]
    exact ⟨_, readInteger_ofInt hline⟩
  have hdepth : 1 ≤ listDepth (name.toList :: ns) := by
    rw [listDepth_cons, if_pos hlist]
    exact Nat.le_add_left 1 _
  have hplain : IsPlainElement none "li".toList := isPlainElement_of_mem (by decide) (by simp)
  refine ⟨.element hplain (fun _ => ⟨hunder.symm ▸ hdepth, hreadable⟩) (hbody _ hc), hunder⟩

theorem leads_list {name : String} {as : Attributes} {c : Course} (hname : name ∈ ["ul", "ol"])
    (hitems : ∀ {ks}, c (name.toList :: namesUnder name.toList ns) = some ks →
      Leads ts (name.toList :: namesUnder name.toList ns) ks)
    (hc : within name.toList c ns = some ms) : Leads (elementTags name.toList as ts) ns ms := by
  have hnames : ∀ n ∈ ["ul", "ol"], n ∈ inlineTags ++ blockElements ∧ n.toList ≠ "li".toList := by
    decide
  obtain ⟨hmem, hli⟩ := hnames name hname
  obtain ⟨rfl, hbody⟩ := within_eq_some_iff.1 hc
  exact .element (isPlainElement_of_mem hmem (by simp)) (fun h => absurd h hli) (hitems hbody)

section

variable (definitions : Definitions)

mutual

/-- The tags of a block take its course. -/
theorem leads_block : ∀ b : Block, (∀ n ∈ b.itemLines, n + 1 < 10 ^ maxDigits) → ∀ {tight ns ms},
    blockCourse definitions tight b ns = some ms → Leads (b.tags definitions tight) ns ms
  | .paragraph _ t, _, tight, _, _, hc => by
    cases tight with
    | true => exact through_eq_some_iff.1 hc
    | false =>
      show Leads (elementTags "p".toList [] (textTags definitions t)) _ _
      exact leads_named (by decide) (by decide) (fun _ h => through_eq_some_iff.1 h) hc
  | .heading _ level _, _, _, _, _, hc =>
    leads_within (isPlainElement_heading level) (fun h => absurd (List.cons.inj h).1 (by decide))
      (fun _ h => through_eq_some_iff.1 h) hc
  | .code _ _, _, _, _, _, hc => leads_preformatted hc
  | .fence _ _ _, _, _, _, _, hc => leads_preformatted hc
  | .markup _ _, _, _, _, _, hc => through_eq_some_iff.1 hc
  | .thematicBreak _, _, _, _, _, hc => leads_rule hc
  | .quote _ body, hlines, _, _, _, hc =>
    leads_named (by decide) (by decide) (fun _ h => leads_blocks body hlines h) hc
  | .list _ none _ items, hlines, _, _, _, hc => by
    have hname : "ul" ∈ ["ul", "ol"] := by decide
    exact leads_list hname (fun h => (leads_items items hlines hname h).1) hc
  | .list _ (some _) _ items, hlines, _, _, _, hc => by
    have hname : "ol" ∈ ["ul", "ol"] := by decide
    exact leads_list hname (fun h => (leads_items items hlines hname h).1) hc
  | .table _ _ _, _, _, _, _, hc => leads_table hc
  | .definition _ _ _, _, _, _, _, hc => leads_nothing hc

theorem leads_blocks : ∀ bs : List Block, (∀ n ∈ itemLinesIn bs, n + 1 < 10 ^ maxDigits) →
    ∀ {tight ns ms}, blocksCourse definitions tight bs ns = some ms →
      Leads (tagsIn definitions tight bs) ns ms
  | [], _, _, _, _, hc => leads_nothing hc
  | b :: bs, hlines, _, _, _, hc => by
    obtain ⟨hbLines, hbsLines⟩ := List.forall_mem_append.1 hlines
    obtain ⟨ks, hb, hbs⟩ := Option.bind_eq_some_iff.1 hc
    exact (leads_block b hbLines hb).append (leads_blocks bs hbsLines hbs)

/-- The items of a list leave the list open. -/
theorem leads_items : ∀ items : List Item, (∀ n ∈ itemLinesInItems items, n + 1 < 10 ^ maxDigits) →
    ∀ {tight name ns ms}, name ∈ ["ul", "ol"] →
      itemsCourse definitions tight items (name.toList :: ns) = some ms →
      Leads (tagsInItems definitions tight items) (name.toList :: ns) ms ∧ ms = name.toList :: ns
  | [], _, _, _, _, _, _, hc => ⟨leads_nothing hc, (Option.some.inj hc).symm⟩
  | .mk line body :: items, hlines, _, _, _, _, hname, hc => by
    obtain ⟨hitemLines, hitemsLines⟩ := List.forall_mem_append.1 hlines
    obtain ⟨hline, hbodyLines⟩ := List.forall_mem_cons.1 hitemLines
    obtain ⟨ks, hitem, hitems⟩ := Option.bind_eq_some_iff.1 hc
    obtain ⟨hitem, rfl⟩ :=
      leads_item hname hline (fun _ h => leads_blocks body hbodyLines h) hitem
    obtain ⟨hitems, rfl⟩ := leads_items items hitemsLines hname hitems
    exact ⟨hitem.append hitems, rfl⟩

end

end

/-- Every item of a page stands in a list and carries a line that can be read, if the raw markup of
the document is well formed. -/
theorem isSound_page (h : IsWellFormed t) (hlength : t.length < 10 ^ maxDigits) :
    ∀ i ∈ itemsInAll 0 (Html.parse (page t)), i.IsSound := by
  have hlines : ∀ n ∈ itemLinesIn (blocks (prepare t)), n + 1 < 10 ^ maxDigits := fun n hn =>
    Nat.lt_of_le_of_lt (itemLine_lt hn) hlength
  have hpage : Leads (pageTags t) [] [] := leads_blocks _ _ hlines h.course
  rw [← tags_page h.whole] at hpage
  exact isSound_of_fitting (fitting_tags.1 hpage.fitting)

/-! ## Markup that is balanced piece by piece -/

/-- No element of running text is open. -/
def Bears (ns : List Text) : Prop := ∀ name ∈ inlineTags, name.toList ∉ ns

theorem Bears.cons (h : Bears ns) {name : Text} (hname : String.ofList name ∉ inlineTags) :
    Bears (name :: ns) := by
  intro n hn hmem
  rcases List.mem_cons.1 hmem with rfl | hmem
  · exact hname (by rwa [String.ofList_toList])
  · exact h n hn hmem

theorem bears_cons {name : String} (hns : Bears ns) (hname : name ∉ inlineTags) :
    Bears (name.toList :: ns) :=
  hns.cons (by rwa [String.ofList_toList])

/-- A tag of running text closes no element that is open around the running text. -/
theorem spills_inline {name : String} {as : Attributes} (hname : name ∈ inlineTags)
    (hns : Bears ns) (h : Spills ts ns) : Spills (elementTags name.toList as ts) ns := by
  have hstays : ∀ p ∈ ns.head?, closes name.toList p = false := by
    intro p hp
    refine Bool.eq_false_iff.2 fun hcloses => ?_
    have hclosed : ∀ n ∈ inlineTags,
        ∀ e ∈ (closers.filter fun p => p.2.contains n).map (·.1), e ∈ inlineTags := by decide
    have hmem := mem_of_closes hcloses
    rw [String.ofList_toList] at hmem
    refine hns _ (hclosed name hname _ hmem) ?_
    rw [String.toList_ofList]
    exact List.mem_of_mem_head? hp
  have hli : ∀ n ∈ inlineTags, n.toList ≠ "li".toList := by decide
  exact h.element (isPlainElement_of_mem (List.mem_append_left _ hname) hstays) (hli name hname)
    (hns name hname)

/-- The tag of an element of running text that holds nothing. -/
theorem isIdle_tag {name : String} (hname : name ∈ ["br", "img"]) (as : Attributes) :
    IsIdle [.opening name.toList as true] := by
  have hall : ∀ n ∈ ["br", "img"], emptyElements.contains n.toList = true ∧
      closers.all (fun p => !p.2.contains n) = true := by
    decide
  obtain ⟨hempty, hclosers⟩ := hall name hname
  exact .tag hempty (closes_of_closers hclosers) as true

mutual

/-- Behind a span, elements of running text may have been closed, and nothing else. -/
theorem spills_span (hns : Bears ns) : ∀ s : Span, (∀ w ∈ s.raw, IsBalanced w) → Spills s.tags ns
  | .text _, _ => .nil ns
  | .code _, _ => spills_inline (by decide) hns (.nil ns)
  | .softBreak, _ => .nil ns
  | .hardBreak, _ => by
    have hname : "br" ∈ ["br", "img"] := by decide
    exact .of_leads (isIdle_tag hname []).leads ns
  | .markup t, h => .of_leads (h t (List.mem_singleton_self t)).isIdle.leads ns
  | .image target label, _ => by
    have hname : "img" ∈ ["br", "img"] := by decide
    exact .of_leads (isIdle_tag hname _).leads ns
  | .emphasis _ body, h => spills_inline (by decide) hns (spills_spans hns body h)
  | .strong body, h => spills_inline (by decide) hns (spills_spans hns body h)
  | .link target body, h => spills_inline (by decide) hns (spills_spans hns body h)

theorem spills_spans (hns : Bears ns) :
    ∀ ss : List Span, (∀ w ∈ rawInSpans ss, IsBalanced w) → Spills (tagsInSpans ss) ns
  | [], _ => .nil ns
  | s :: ss, h => by
    obtain ⟨hs, hss⟩ := List.forall_mem_append.1 h
    exact (spills_span hns s hs).append (spills_spans hns ss hss)

end

/-- Running text leaves the elements around it as they are. -/
theorem through_text (hns : Bears ns) (h : ∀ w ∈ rawInText definitions t, IsBalanced w) :
    through (textTags definitions t) ns = some ns :=
  through_eq_some_iff.2 (spills_spans hns (readSpans definitions t) h).leads

/-- Blocks may stand here: outside all elements, in a quote or in an item. -/
structure Holds (ns : List Text) : Prop where
  bears : Bears ns
  head : ∀ e ∈ ns.head?, e = "blockquote".toList ∨ e = "li".toList

/-- No tag but that of an item closes an element in which blocks may stand. -/
theorem Holds.namesUnder_eq (hns : Holds ns) {tag : Text} (htag : tag ≠ "li".toList) :
    namesUnder tag ns = ns := by
  refine Html.namesUnder_eq fun e he => ?_
  rcases hns.head e he with rfl | rfl
  · exact closes_of_lookup (by decide)
  · refine Bool.eq_false_iff.2 fun hcloses => htag ?_
    have hlookup : closers.lookup (String.ofList "li".toList) = some ["li"] := by decide
    rw [closes, hlookup, Option.getD_some, List.contains_iff_mem, List.mem_singleton] at hcloses
    rw [← hcloses, String.toList_ofList]

theorem Holds.within {c : Course} {name : Text} (hns : Holds ns) (hli : name ≠ "li".toList)
    (h : c (name :: ns) = some (name :: ns)) : within name c ns = some ns :=
  within_eq_some_iff.2 ⟨(hns.namesUnder_eq hli).symm, h⟩

/-- An element that stands directly inside another. -/
theorem within_inside {c : Course} {outer name : Text} (hcloses : closes name outer = false)
    (h : c (name :: outer :: ns) = some (name :: outer :: ns)) :
    within name c (outer :: ns) = some (outer :: ns) :=
  within_eq_some_iff.2 ⟨(namesUnder_eq fun _ he => Option.some.inj he ▸ hcloses).symm, h⟩

theorem along_self {cs : List Course} (h : ∀ c ∈ cs, c ns = some ns) : along cs ns = some ns := by
  induction cs with
  | nil => rfl
  | cons c cs ih =>
    exact Option.bind_eq_some_iff.2
      ⟨ns, h c List.mem_cons_self, ih fun d hd => h d (List.mem_cons_of_mem _ hd)⟩

theorem rowCourse_self {cell part : String} (hcell : cell ∈ ["th", "td"])
    (hpart : part ∈ ["thead", "tbody"]) (hns : Bears (part.toList :: ns)) {cells : List Text}
    (h : ∀ c ∈ cells, ∀ w ∈ rawInText definitions c, IsBalanced w) :
    rowCourse definitions cell cells (part.toList :: ns) = some (part.toList :: ns) := by
  have hparts : ∀ n ∈ ["thead", "tbody"], closes "tr".toList n.toList = false := by decide
  have hcells : ∀ n ∈ ["th", "td"], n ∉ inlineTags ∧ closes n.toList "tr".toList = false := by
    decide
  obtain ⟨htag, hcloses⟩ := hcells cell hcell
  have hrow : Bears ("tr".toList :: part.toList :: ns) := bears_cons hns (by decide)
  refine within_inside (hparts part hpart) (along_self fun c hc => ?_)
  obtain ⟨c, hmem, rfl⟩ := List.mem_map.1 hc
  exact within_inside hcloses (through_text (bears_cons hrow htag) (h c hmem))

theorem tableCourse_self (hns : Holds ns) {head : List Text} {rows : List (List Text)}
    (h : ∀ cells ∈ head :: rows, ∀ c ∈ cells, ∀ w ∈ rawInText definitions c, IsBalanced w)
    (tight : Bool) (line : Nat) :
    blockCourse definitions tight (.table line head rows) ns = some ns := by
  have htable : Bears ("table".toList :: ns) := bears_cons hns.bears (by decide)
  refine hns.within (by decide) (along_self (List.forall_mem_cons.2 ⟨?_, ?_⟩))
  · exact within_inside (by decide) (rowCourse_self (by decide) (by decide)
      (bears_cons htable (by decide)) (h head List.mem_cons_self))
  · split
    · exact nofun
    · refine List.forall_mem_singleton.2 (within_inside (by decide) (along_self fun c hc => ?_))
      obtain ⟨cells, hcells, rfl⟩ := List.mem_map.1 hc
      exact rowCourse_self (by decide) (by decide) (bears_cons htable (by decide))
        (h cells (List.mem_cons_of_mem _ hcells))

section

variable (definitions : Definitions)

mutual

theorem blockCourse_self :
    ∀ b : Block, (∀ w ∈ b.raw definitions, IsBalanced w) → ∀ {ns}, Holds ns →
    ∀ tight, blockCourse definitions tight b ns = some ns
  | .paragraph _ _, h, _, hns, true => through_text hns.bears h
  | .paragraph _ _, h, _, hns, false =>
    hns.within (by decide) (through_text (bears_cons hns.bears (by decide)) h)
  | .heading _ level _, h, _, hns, _ => by
    have hli : 'h' :: ofInt level ≠ "li".toList := fun h => absurd (List.cons.inj h).1 (by decide)
    have hother : ∀ n ∈ inlineTags, n.toList.head? ≠ some 'h' := by decide
    refine hns.within hli (through_text (hns.bears.cons fun hmem => hother _ hmem ?_) h)
    rw [String.toList_ofList]
    rfl
  | .code _ _, _, _, hns, _ => hns.within (by decide) (within_inside (by decide) rfl)
  | .fence _ _ _, _, _, hns, _ => hns.within (by decide) (within_inside (by decide) rfl)
  | .markup _ t, h, ns, _, _ =>
    through_eq_some_iff.2 ((h t (List.mem_singleton_self t)).isIdle.leads ns)
  | .thematicBreak _, _, _, hns, _ => congrArg some (hns.namesUnder_eq (by decide))
  | .quote _ body, h, _, hns, _ => by
    have hquote : Holds ("blockquote".toList :: _) :=
      ⟨bears_cons hns.bears (by decide), by rintro _ ⟨⟩; exact Or.inl rfl⟩
    exact hns.within (by decide) (blocksCourse_self body h hquote false)
  | .list _ none tight items, h, _, hns, _ => by
    have hname : "ul" ∈ ["ul", "ol"] := by decide
    exact hns.within (by decide) (itemsCourse_self items h hname hns.bears tight)
  | .list _ (some _) tight items, h, _, hns, _ => by
    have hname : "ol" ∈ ["ul", "ol"] := by decide
    exact hns.within (by decide) (itemsCourse_self items h hname hns.bears tight)
  | .table line _ _, h, _, hns, tight =>
    tableCourse_self hns (fun _ hcells _ hc w hw => h w (mem_raw_table hcells hc hw)) tight line
  | .definition _ _ _, _, _, _, _ => rfl

theorem blocksCourse_self : ∀ bs : List Block, (∀ w ∈ rawIn definitions bs, IsBalanced w) → ∀ {ns},
    Holds ns → ∀ tight, blocksCourse definitions tight bs ns = some ns
  | [], _, _, _, _ => rfl
  | b :: bs, h, _, hns, tight => by
    obtain ⟨hb, hbs⟩ := List.forall_mem_append.1 h
    exact Option.bind_eq_some_iff.2
      ⟨_, blockCourse_self b hb hns tight, blocksCourse_self bs hbs hns tight⟩

theorem itemsCourse_self :
    ∀ items : List Item, (∀ w ∈ rawInItems definitions items, IsBalanced w) →
    ∀ {name ns}, name ∈ ["ul", "ol"] → Bears ns →
      ∀ tight, itemsCourse definitions tight items (name.toList :: ns) = some (name.toList :: ns)
  | [], _, _, _, _, _, _ => rfl
  | .mk _ body :: items, h, name, ns, hname, hns, tight => by
    obtain ⟨hbody, hitems⟩ := List.forall_mem_append.1 h
    have hnames : ∀ n ∈ ["ul", "ol"], n ∉ inlineTags ∧ closes "li".toList n.toList = false := by
      decide
    obtain ⟨htag, hcloses⟩ := hnames name hname
    have hitem : Holds ("li".toList :: name.toList :: ns) :=
      ⟨bears_cons (bears_cons hns htag) (by decide), by rintro _ ⟨⟩; exact Or.inr rfl⟩
    exact Option.bind_eq_some_iff.2
      ⟨_, within_inside hcloses (blocksCourse_self body hbody hitem tight),
        itemsCourse_self items hitems hname hns tight⟩

end

end

/-- Where each piece of raw markup closes what it opens, and nothing else, the raw markup is well
formed. -/
theorem isWellFormed_of_isBalanced (h : ∀ w ∈ rawMarkup t, IsBalanced w) : IsWellFormed t := by
  have hroot : Holds [] := ⟨fun _ _ => List.not_mem_nil, fun _ h => absurd h (by simp)⟩
  exact ⟨fun w hw => (h w hw).isWhole, blocksCourse_self _ _ h hroot false⟩

end Concordance.Readme
