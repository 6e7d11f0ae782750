import Concordance.Markdown.Html
import Concordance.Proofs.Html.Tags

/-!
# The tags of documents

A document is written as a page block by block, and the tags of the page are those of its blocks:
the elements that blocks and spans are written as, and the raw markup in them as it stands.

* `rawMarkup`: the raw markup in a document.
* `pageTags`: the tags of a document.
* `tags_page`: as long as each piece of raw markup is whole, these are the tags of its page.
-/

namespace Concordance.Markdown

open Text
open Html (Attributes elementTags readAttribute titleAttributes languageAttributes)

/-! ## Raw markup -/

mutual

/-- The raw markup in a span. -/
def Span.raw : Span → List Text
  | .markup t => [t]
  | .emphasis _ body => rawInSpans body
  | .strong body => rawInSpans body
  | .link _ body => rawInSpans body
  | _ => []

/-- The raw markup in spans. -/
def rawInSpans : List Span → List Text
  | [] => []
  | s :: ss => s.raw ++ rawInSpans ss

end

/-- The raw markup in running text. -/
def rawInText (definitions : Definitions) (t : Text) : List Text :=
  rawInSpans (readSpans definitions t)

mutual

/-- The raw markup in a block. -/
def Block.raw (definitions : Definitions) : Block → List Text
  | .paragraph _ t => rawInText definitions t
  | .heading _ _ t => rawInText definitions t
  | .markup _ t => [t]
  | .quote _ body => rawIn definitions body
  | .list _ _ _ items => rawInItems definitions items
  | .table _ head rows => (head :: rows).flatMap fun cells => cells.flatMap (rawInText definitions)
  | _ => []

/-- The raw markup in an item. -/
def Item.raw (definitions : Definitions) : Item → List Text
  | .mk _ body => rawIn definitions body

/-- The raw markup in blocks. -/
def rawIn (definitions : Definitions) : List Block → List Text
  | [] => []
  | b :: bs => b.raw definitions ++ rawIn definitions bs

/-- The raw markup in items. -/
def rawInItems (definitions : Definitions) : List Item → List Text
  | [] => []
  | i :: is => i.raw definitions ++ rawInItems definitions is

end

/-- The raw markup in a cell of a table is in the table. -/
theorem mem_raw_table {definitions : Definitions} {head cells : List Text}
    {rows : List (List Text)} {c w : Text} {line : Nat} (hcells : cells ∈ head :: rows)
    (hc : c ∈ cells) (hw : w ∈ rawInText definitions c) :
    w ∈ (Block.table line head rows).raw definitions :=
  List.mem_flatMap.2 ⟨cells, hcells, List.mem_flatMap.2 ⟨c, hc, hw⟩⟩

/-- The raw markup in a document. -/
def rawMarkup (t : Text) : List Text :=
  let bs := blocks (prepare t)
  rawIn (definitionsIn bs) bs

/-! ## Tags -/

mutual

/-- The tags of a span; raw markup has those that are read in it. -/
def Span.tags : Span → List Html.Token
  | .code _ => elementTags "code".toList [] []
  | .hardBreak => [.opening "br".toList [] true]
  | .markup t => Html.tags (Html.tokens t)
  | .image target label =>
    [.opening "img".toList (readAttribute "src" target.destination :: readAttribute "alt" label ::
      (titleAttributes target.title ++ [])) true]
  | .emphasis _ body => elementTags "em".toList [] (tagsInSpans body)
  | .strong body => elementTags "strong".toList [] (tagsInSpans body)
  | .link target body =>
    elementTags "a".toList
      (readAttribute "href" target.destination :: (titleAttributes target.title ++ []))
      (tagsInSpans body)
  | _ => []

/-- The tags of spans. -/
def tagsInSpans : List Span → List Html.Token
  | [] => []
  | s :: ss => s.tags ++ tagsInSpans ss

end

/-- The tags of running text. -/
def textTags (definitions : Definitions) (t : Text) : List Html.Token :=
  tagsInSpans (readSpans definitions t)

/-- The tags of a row of a table. -/
def rowTags (definitions : Definitions) (cell : String) (cells : List Text) : List Html.Token :=
  elementTags "tr".toList [] (cells.flatMap fun c =>
    elementTags cell.toList [] (textTags definitions c))

mutual

/-- The tags of a block; in a `tight` item a paragraph has those of its text. -/
def Block.tags (definitions : Definitions) (tight : Bool) : Block → List Html.Token
  | .paragraph _ t =>
    if tight then textTags definitions t else elementTags "p".toList [] (textTags definitions t)
  | .heading _ level t => elementTags ('h' :: ofInt level) [] (textTags definitions t)
  | .code _ _ => elementTags "pre".toList [] (elementTags "code".toList [] [])
  | .fence _ info _ =>
    elementTags "pre".toList [] (elementTags "code".toList (languageAttributes info ++ []) [])
  | .markup _ t => Html.tags (Html.tokens t)
  | .thematicBreak _ => [.opening "hr".toList [] true]
  | .quote _ body => elementTags "blockquote".toList [] (tagsIn definitions false body)
  | .list _ none tight items => elementTags "ul".toList [] (tagsInItems definitions tight items)
  | .list _ (some start) tight items =>
    elementTags "ol".toList (if start = 1 then [] else [readAttribute "start" (ofInt start)])
      (tagsInItems definitions tight items)
  | .table _ head rows =>
    elementTags "table".toList [] (elementTags "thead".toList [] (rowTags definitions "th" head) ++
      if rows = [] then []
      else elementTags "tbody".toList [] (rows.flatMap (rowTags definitions "td")))
  | .definition _ _ _ => []

/-- The tags of an item. -/
def Item.tags (definitions : Definitions) (tight : Bool) : Item → List Html.Token
  | .mk line body =>
    elementTags "li".toList [("data-line".toList, ofInt (line + 1 : Nat))]
      (tagsIn definitions tight body)

/-- The tags of blocks. -/
def tagsIn (definitions : Definitions) (tight : Bool) : List Block → List Html.Token
  | [] => []
  | b :: bs => b.tags definitions tight ++ tagsIn definitions tight bs

/-- The tags of items. -/
def tagsInItems (definitions : Definitions) (tight : Bool) : List Item → List Html.Token
  | [] => []
  | i :: is => i.tags definitions tight ++ tagsInItems definitions tight is

end

/-- The tags of a document. -/
def pageTags (t : Text) : List Html.Token :=
  let bs := blocks (prepare t)
  tagsIn (definitionsIn bs) false bs

end Concordance.Markdown

namespace Concordance.Readme

open Text Html Markdown

variable {s t u body : Text} {as : Attributes} {ts : List Html.Token} {definitions : Definitions}

/-! ## Elements -/

/-- The open elements that a tag closes. -/
theorem mem_of_closes {tag e : Text} (h : closes tag e = true) :
    String.ofList e ∈ (closers.filter fun p => p.2.contains (String.ofList tag)).map (·.1) := by
  rw [closes] at h
  cases hlookup : closers.lookup (String.ofList e) with
  | none =>
    rw [hlookup] at h
    cases h
  | some tags =>
    rw [hlookup] at h
    obtain ⟨before, behind, hsplit, -⟩ := List.lookup_eq_some_iff.1 hlookup
    have hmem : (String.ofList e, tags) ∈ closers := by
      rw [hsplit]
      exact List.mem_append_right _ List.mem_cons_self
    exact List.mem_map.2 ⟨_, List.mem_filter.2 ⟨hmem, h⟩, rfl⟩

/-- A tag that is in none of the lists closes nothing. -/
theorem closes_of_closers {tag : String}
    (h : closers.all (fun p => !p.2.contains tag) = true) (e : Text) :
    closes tag.toList e = false := by
  refine Bool.eq_false_iff.2 fun hcloses => ?_
  obtain ⟨p, hp, -⟩ := List.mem_map.1 (mem_of_closes hcloses)
  rw [String.ofList_toList, List.mem_filter] at hp
  have hnone := List.all_eq_true.1 h p hp.1
  rw [hp.2] at hnone
  cases hnone

theorem closes_of_lookup {tag e : Text} (h : closers.lookup (String.ofList e) = none) :
    closes tag e = false := by
  rw [closes, h]
  rfl

/-- The elements of running text. -/
def inlineTags : List String := ["code", "em", "strong", "a"]

/-- The elements that blocks are written as, apart from headings. -/
def blockElements : List String :=
  ["p", "pre", "blockquote", "ul", "ol", "li", "table", "thead", "tbody", "tr", "th", "td"]

theorem isElementName_of_mem {name : String}
    (h : name ∈ inlineTags ++ blockElements ++ ["br", "img", "hr"]) :
    IsElementName name.toList := by
  have hall : ∀ n ∈ inlineTags ++ blockElements ++ ["br", "img", "hr"],
      n.toList ≠ [] ∧
      (n.toList.all fun c => !endsTagName c && c != '=' && c.toLower == c) = true ∧
      n.toList.all Char.isAlpha = true ∧ textElements.lookup n.toList = none := by
    decide
  obtain ⟨hne, hchars, halpha, hnodes⟩ := hall name h
  exact .of_all (.of_all hne hchars) halpha hnodes

theorem isPlainElement_of_mem {name : String} (h : name ∈ inlineTags ++ blockElements)
    {parent : Option Text} (hstays : ∀ p ∈ parent, closes name.toList p = false) :
    IsPlainElement parent name.toList := by
  have hall : ∀ n ∈ inlineTags ++ blockElements,
      frameTags.contains n.toList = false ∧ emptyElements.contains n.toList = false := by
    decide
  obtain ⟨hframe, hempty⟩ := hall name h
  exact ⟨isElementName_of_mem (List.mem_append_left _ h), hframe, hempty, hstays⟩

/-- A heading is an element of its own at each level. -/
theorem isPlainElement_heading (level : Nat) : IsPlainElement none ('h' :: ofInt level) := by
  have hdigits : ∀ c ∈ ofInt level, c.isDigit = true := fun c hc => isDigit_of_mem_toDigits hc
  have hchar : ∀ c ∈ 'h' :: ofInt level,
      (endsTagName c = false ∧ c ≠ '=') ∧ c.toLower = c := by
    have hcode : ∀ n < 128, (Char.ofNat n).isDigit = true →
        (endsTagName (Char.ofNat n) = false ∧ Char.ofNat n ≠ '=') ∧
          (Char.ofNat n).toLower = Char.ofNat n := by
      decide
    intro c hc
    rcases List.mem_cons.1 hc with rfl | hc
    · decide
    · have hdigit := hdigits c hc
      have hlt : c.toNat < 128 :=
        toNat_lt_of_isAlphanum (by rw [Char.isAlphanum, hdigit, Bool.or_true])
      have h := hcode c.toNat hlt
      rw [Char.ofNat_toNat] at h
      exact h hdigit
  have hother : ∀ n ∈ frameTags ++ emptyElements ++ textElements.map (·.1),
      n ≠ 'h' :: ofInt level := by
    have hall : ∀ n ∈ frameTags ++ emptyElements ++ textElements.map (·.1),
        n.tail.all Char.isDigit = false := by
      decide
    rintro n hn rfl
    have htail := hall _ hn
    rw [List.tail_cons, List.all_eq_true.2 hdigits] at htail
    cases htail
  refine ⟨⟨⟨List.cons_ne_nil _ _, fun c hc => (hchar c hc).1, fun c hc => (hchar c hc).2⟩,
    ?_, ?_⟩, ?_, ?_, by simp⟩
  · rintro c ⟨⟩
    decide
  · refine List.lookup_eq_none_iff.2 fun p hp => bne_iff_ne.2 fun heq => ?_
    exact hother p.1 (List.mem_append_right _ (List.mem_map_of_mem hp)) heq.symm
  · refine Bool.eq_false_iff.2 fun hmem => hother _ ?_ rfl
    exact List.mem_append_left _ (List.mem_append_left _ (List.contains_iff_mem.1 hmem))
  · refine Bool.eq_false_iff.2 fun hmem => hother _ ?_ rfl
    exact List.mem_append_left _ (List.mem_append_right _ (List.contains_iff_mem.1 hmem))

/-! ## Writing tags -/

theorem not_mem_escapeHtml_open (t : Text) : '<' ∉ escapeHtml t :=
  not_mem_escapeHtml (Or.inl rfl) t

theorem spells_line (h : Spells t ts) : Spells (t ++ ['\n']) ts := by
  have hline := h.append (.ofText (u := ['\n']) (by decide))
  rwa [List.append_nil] at hline

theorem spells_feed (h : Spells t ts) : Spells ('\n' :: t) ts :=
  Spells.text (u := ['\n']) (by decide) h

/-- An element that spans or blocks are written as. -/
theorem spells_element {name : String} (hname : name ∈ inlineTags ++ blockElements)
    (hs : EndsTag (s ++ ['>']) as false) (h : Spells body ts) :
    Spells (enclose name s body) (elementTags name.toList as ts) :=
  .element (isElementName_of_mem (List.mem_append_left _ hname)) hs h

theorem spells_flatMap {α : Type} {f : α → Text} {g : α → List Html.Token} {xs : List α}
    (h : ∀ x ∈ xs, Spells (f x) (g x)) : Spells (xs.flatMap f) (xs.flatMap g) := by
  induction xs with
  | nil => exact .nil
  | cons x xs ih =>
    exact (h x List.mem_cons_self).append (ih fun y hy => h y (List.mem_cons_of_mem _ hy))

theorem spells_image (target : Target) (label : Text) :
    Spells (Span.image target label).html (Span.image target label).tags := by
  have hsrc : IsTagName "src".toList := .of_all (by decide) (by decide)
  have halt : IsTagName "alt".toList := .of_all (by decide) (by decide)
  have htag := ((EndsTag.selfClose.title target.title).attribute halt label).attribute hsrc
    target.destination
  have hname : "img" ∈ inlineTags ++ blockElements ++ ["br", "img", "hr"] := by decide
  have hhtml : (Span.image target label).html =
      '<' :: ("img".toList ++ (attributeHtml "src" target.destination ++
        (attributeHtml "alt" label ++ (titleAttribute target.title ++ " />".toList)))) := by
    show "<img".toList ++ attributeHtml "src" target.destination ++ attributeHtml "alt" label ++
      titleAttribute target.title ++ " />".toList = _
    simp
  rw [hhtml]
  exact .opening (isElementName_of_mem hname) htag

-- What is written is shown by evaluation here; the equations for all spans and blocks are much
-- slower to get.

mutual

theorem spells_span : ∀ s : Span, (∀ w ∈ s.raw, IsWhole w) → Spells s.html s.tags
  | .text t, _ => .ofText (not_mem_escapeHtml_open t)
  | .code t, _ => by
    show Spells (enclose "code" [] (escapeHtml t)) (elementTags "code".toList [] [])
    exact spells_element (by decide) .close (.ofText (not_mem_escapeHtml_open t))
  | .softBreak, _ => .ofText (u := ['\n']) (by decide)
  | .hardBreak, _ => by
    have hname : IsElementName "br".toList := isElementName_of_mem (by decide)
    exact spells_line (.opening hname .selfClose)
  | .markup t, h => h t (List.mem_singleton_self t)
  | .image target label, _ => spells_image target label
  | .emphasis _ body, h => by
    show Spells (enclose "em" [] (spansHtml body)) (elementTags "em".toList [] (tagsInSpans body))
    exact spells_element (by decide) .close (spells_spans body h)
  | .strong body, h => by
    show Spells (enclose "strong" [] (spansHtml body))
      (elementTags "strong".toList [] (tagsInSpans body))
    exact spells_element (by decide) .close (spells_spans body h)
  | .link target body, h => by
    show Spells
      (enclose "a" (attributeHtml "href" target.destination ++ titleAttribute target.title)
        (spansHtml body))
      (elementTags "a".toList
        (readAttribute "href" target.destination :: (titleAttributes target.title ++ []))
        (tagsInSpans body))
    exact spells_element (by decide) (.link target.destination target.title) (spells_spans body h)

theorem spells_spans :
    ∀ ss : List Span, (∀ w ∈ rawInSpans ss, IsWhole w) → Spells (spansHtml ss) (tagsInSpans ss)
  | [], _ => .nil
  | s :: ss, h => by
    obtain ⟨hs, hss⟩ := List.forall_mem_append.1 h
    show Spells (s.html ++ spansHtml ss) (s.tags ++ tagsInSpans ss)
    exact (spells_span s hs).append (spells_spans ss hss)

end

theorem spells_text (h : ∀ w ∈ rawInText definitions t, IsWhole w) :
    Spells (textHtml definitions t) (textTags definitions t) :=
  spells_spans (readSpans definitions t) h

/-! ## Blocks -/

theorem spells_paragraph (h : ∀ w ∈ rawInText definitions t, IsWhole w)
    (tight : Bool) (line : Nat) :
    Spells ((Block.paragraph line t).html definitions tight)
      ((Block.paragraph line t).tags definitions tight) := by
  cases tight with
  | true =>
    show Spells (textHtml definitions t ++ ['\n']) (textTags definitions t)
    exact spells_line (spells_text h)
  | false =>
    show Spells (enclose "p" [] (textHtml definitions t) ++ ['\n'])
      (elementTags "p".toList [] (textTags definitions t))
    exact spells_line (spells_element (by decide) .close (spells_text h))

theorem spells_heading (h : ∀ w ∈ rawInText definitions t, IsWhole w) (tight : Bool)
    (line level : Nat) :
    Spells ((Block.heading line level t).html definitions tight)
      ((Block.heading line level t).tags definitions tight) := by
  have hname : (String.ofList ('h' :: ofInt level)).toList = 'h' :: ofInt level :=
    String.toList_ofList
  have helement := (isPlainElement_heading level).toIsElementName
  rw [← hname] at helement
  have hheading := spells_line (Spells.element (s := []) helement .close (spells_text h))
  rwa [hname] at hheading

theorem spells_preformatted (hs : EndsTag (s ++ ['>']) as false) (t : Text) :
    Spells (enclose "pre" [] (enclose "code" s (escapeHtml t)) ++ ['\n'])
      (elementTags "pre".toList [] (elementTags "code".toList as [])) :=
  spells_line (spells_element (by decide) .close
    (spells_element (by decide) hs (.ofText (not_mem_escapeHtml_open t))))

theorem spells_list {items : List Item} (hitems : ∀ tight,
    Spells (itemsHtml definitions tight items) (tagsInItems definitions tight items))
    (outer tight : Bool) (line : Nat) (start : Option Nat) :
    Spells ((Block.list line start tight items).html definitions outer)
      ((Block.list line start tight items).tags definitions outer) := by
  have hbody := spells_feed (hitems tight)
  cases start with
  | none =>
    show Spells (enclose "ul" [] ('\n' :: itemsHtml definitions tight items) ++ ['\n'])
      (elementTags "ul".toList [] (tagsInItems definitions tight items))
    exact spells_line (spells_element (by decide) .close hbody)
  | some start =>
    show Spells (enclose "ol" (if start = 1 then [] else attributeHtml "start" (ofInt start))
        ('\n' :: itemsHtml definitions tight items) ++ ['\n'])
      (elementTags "ol".toList (if start = 1 then [] else [readAttribute "start" (ofInt start)])
        (tagsInItems definitions tight items))
    split
    · exact spells_line (spells_element (by decide) .close hbody)
    · have hstart : IsTagName "start".toList := .of_all (by decide) (by decide)
      exact spells_line (spells_element (by decide) (EndsTag.close.attribute hstart _) hbody)

theorem spells_row {cell : String} (hcell : cell ∈ ["th", "td"]) {cells : List Text}
    (h : ∀ c ∈ cells, ∀ w ∈ rawInText definitions c, IsWhole w) :
    Spells (rowHtml definitions cell cells) (rowTags definitions cell cells) := by
  have hmem : cell ∈ inlineTags ++ blockElements :=
    (show ∀ n ∈ ["th", "td"], n ∈ inlineTags ++ blockElements by decide) cell hcell
  have hcells : Spells (cells.flatMap fun c => enclose cell [] (textHtml definitions c) ++ ['\n'])
      (cells.flatMap fun c => elementTags cell.toList [] (textTags definitions c)) :=
    spells_flatMap fun c hc => spells_line (spells_element hmem .close (spells_text (h c hc)))
  exact spells_line (spells_element (by decide) .close (spells_feed hcells))

theorem spells_table {head : List Text} {rows : List (List Text)}
    (h : ∀ cells ∈ head :: rows, ∀ c ∈ cells, ∀ w ∈ rawInText definitions c, IsWhole w)
    (tight : Bool) (line : Nat) :
    Spells ((Block.table line head rows).html definitions tight)
      ((Block.table line head rows).tags definitions tight) := by
  have hpart : "thead" ∈ inlineTags ++ blockElements := by decide
  have htable : "table" ∈ inlineTags ++ blockElements := by decide
  have hcell : "th" ∈ ["th", "td"] := by decide
  have hhead := spells_line (spells_element (s := []) hpart .close
    (spells_feed (spells_row hcell (h head List.mem_cons_self))))
  have hrows : Spells
      (if rows = [] then []
        else enclose "tbody" [] ('\n' :: rows.flatMap (rowHtml definitions "td")) ++ ['\n'])
      (if rows = [] then []
        else elementTags "tbody".toList [] (rows.flatMap (rowTags definitions "td"))) := by
    split
    · exact .nil
    · have hbody : Spells (rows.flatMap (rowHtml definitions "td"))
          (rows.flatMap (rowTags definitions "td")) :=
        spells_flatMap fun cells hcells =>
          spells_row (by decide) (h cells (List.mem_cons_of_mem _ hcells))
      exact spells_line (spells_element (by decide) .close (spells_feed hbody))
  exact spells_line (spells_element (s := []) htable .close (spells_feed (hhead.append hrows)))

theorem spells_item {bs : List Block} {tight : Bool} (line : Nat)
    (hbody : Spells (blocksHtml definitions tight bs) (tagsIn definitions tight bs)) :
    Spells ((Item.mk line bs).html definitions tight)
      ((Item.mk line bs).tags definitions tight) := by
  have hattribute : IsTagName "data-line".toList := .of_all (by decide) (by decide)
  have hopening := (EmitsAttributes.attribute hattribute (isUnescaped_ofInt (line + 1))).endsTag
  have hname : "li" ∈ inlineTags ++ blockElements := by decide
  exact spells_line (spells_element hname hopening hbody)

section

variable (definitions : Definitions)

mutual

theorem spells_block : ∀ b : Block, (∀ w ∈ b.raw definitions, IsWhole w) →
    ∀ tight, Spells (b.html definitions tight) (b.tags definitions tight)
  | .paragraph line _, h, tight => spells_paragraph h tight line
  | .heading line level _, h, tight => spells_heading h tight line level
  | .code _ t, _, _ => spells_preformatted (s := []) .close t
  | .fence _ info t, _, _ => spells_preformatted (EndsTag.close.language info) t
  | .markup _ t, h, _ => h t (List.mem_singleton_self t)
  | .thematicBreak _, _, _ => by
    have hname : IsElementName "hr".toList := isElementName_of_mem (by decide)
    exact spells_line (.opening hname .selfClose)
  | .quote _ body, h, _ => by
    show Spells (enclose "blockquote" [] ('\n' :: blocksHtml definitions false body) ++ ['\n'])
      (elementTags "blockquote".toList [] (tagsIn definitions false body))
    exact spells_line (spells_element (by decide) .close
      (spells_feed (spells_blocks body h false)))
  | .list line start tight items, h, outer =>
    spells_list (spells_items items h) outer tight line start
  | .table line _ _, h, tight =>
    spells_table (fun _ hcells _ hc w hw => h w (mem_raw_table hcells hc hw)) tight line
  | .definition _ _ _, _, _ => .nil

theorem spells_blocks : ∀ bs : List Block, (∀ w ∈ rawIn definitions bs, IsWhole w) →
    ∀ tight, Spells (blocksHtml definitions tight bs) (tagsIn definitions tight bs)
  | [], _, _ => .nil
  | b :: bs, h, tight => by
    obtain ⟨hb, hbs⟩ := List.forall_mem_append.1 h
    exact (spells_block b hb tight).append (spells_blocks bs hbs tight)

theorem spells_items : ∀ items : List Item, (∀ w ∈ rawInItems definitions items, IsWhole w) →
    ∀ tight, Spells (itemsHtml definitions tight items) (tagsInItems definitions tight items)
  | [], _, _ => .nil
  | .mk line body :: items, h, tight => by
    obtain ⟨hbody, hitems⟩ := List.forall_mem_append.1 h
    exact (spells_item line (spells_blocks body hbody tight)).append
      (spells_items items hitems tight)

end

end

/-- The tags of a page are those of the document, if each piece of its raw markup is whole. -/
theorem tags_page (hraw : ∀ w ∈ rawMarkup t, IsWhole w) : tags (tokens (page t)) = pageTags t :=
  (spells_blocks _ _ hraw false).tags_tokens

end Concordance.Readme
