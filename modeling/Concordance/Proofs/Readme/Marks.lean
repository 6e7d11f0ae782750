import Concordance.Proofs.Html.Preorder
import Concordance.Proofs.Readme.WellFormed

/-!
# The lines that items carry

The items of a page are those of the document, in the same order, and each carries the number of
the line that opens it, counted from one.  This holds however the tags of the page nest, because a
tag adds its own element behind all others.

* `itemsAmong` are the items that tokens begin, and `Marks` says which lines these carry.
* `Marks.element`: an element adds itself, if it is an item, and the items inside it.
* `marks_blocks`: the tags of blocks mark the items in them.
* `items_page`: the items of a page.
-/

namespace Concordance.Readme

open Text Html
open Markdown hiding Token

variable {t : Text} {as : Attributes} {lines inner : List Nat} {ts us : List Token}

/-! ## Items among tokens -/

/-- An item as it is written for a line. -/
def itemHead (line : Nat) : Head := ("li".toList, [("data-line".toList, ofInt (line + 1 : Nat))])

/-- The items among elements. -/
def itemHeads (hs : List Head) : List Head := hs.filter fun h => h.1 = "li".toList

/-- The items that tokens begin. -/
def itemsAmong (ts : List Token) : List Head := itemHeads (ts.filterMap Token.head?)

theorem itemsAmong_append (ts us : List Token) :
    itemsAmong (ts ++ us) = itemsAmong ts ++ itemsAmong us := by
  unfold itemsAmong itemHeads
  rw [List.filterMap_append, List.filter_append]

theorem itemsAmong_tags (ts : List Token) : itemsAmong (tags ts) = itemsAmong ts := by
  induction ts with
  | nil => rfl
  | cons t ts ih =>
    have hcons : ∀ us, itemsAmong (t :: us) = itemsAmong [t] ++ itemsAmong us :=
      fun us => itemsAmong_append [t] us
    cases t with
    | text t => exact ih
    | comment => exact ih
    | opening name as empty => rw [tags_cons rfl, hcons, ih, ← hcons]
    | closing name => exact ih

/-- Where no token opens an item, there is none. -/
theorem itemsAmong_eq_nil (h : ∀ {n as empty}, Token.opening n as empty ∈ ts → n ≠ "li".toList) :
    itemsAmong ts = [] := by
  refine List.filter_eq_nil_iff.2 fun head hhead => ?_
  obtain ⟨token, htoken, hhead⟩ := List.mem_filterMap.1 hhead
  cases token with
  | opening n as empty =>
    rw [Token.head?, Option.ite_none_left_eq_some] at hhead
    rw [← Option.some.inj hhead.2]
    simpa using h htoken
  | text t => cases hhead
  | comment => cases hhead
  | closing n => cases hhead

/-! ## Tags that mark items -/

/-- The items that tags begin are those of some lines. -/
def Marks (ts : List Token) (lines : List Nat) : Prop := itemsAmong ts = lines.map itemHead

namespace Marks

theorem nil : Marks [] [] := rfl

theorem append (h : Marks ts lines) (h' : Marks us inner) : Marks (ts ++ us) (lines ++ inner) := by
  rw [Marks, itemsAmong_append, h, h', List.map_append]

/-- An element adds itself, if it is an item, and the items inside it. -/
theorem element {name : Text} (hopening : Marks [.opening name as false] lines)
    (h : Marks ts inner) :
    Marks (elementTags name as ts) (lines ++ inner) := by
  have hclosing : Marks [.closing name] [] := rfl
  have hbody := h.append hclosing
  rw [List.append_nil] at hbody
  exact hopening.append hbody

theorem opening {n : Text} (hn : n ≠ "li".toList) (as : Attributes) (empty : Bool) :
    Marks [.opening n as empty] [] := by
  refine itemsAmong_eq_nil fun hmem => ?_
  cases List.mem_singleton.1 hmem
  exact hn

/-- An element that is no item. -/
theorem around {name : Text} (hli : name ≠ "li".toList) (h : Marks ts lines) :
    Marks (elementTags name as ts) lines :=
  .element (.opening hli as false) h

theorem flatMap {α : Type} {f : α → List Token} {xs : List α} (h : ∀ x ∈ xs, Marks (f x) []) :
    Marks (xs.flatMap f) [] := by
  induction xs with
  | nil => exact nil
  | cons x xs ih =>
    exact (h x List.mem_cons_self).append (ih fun y hy => h y (List.mem_cons_of_mem _ hy))

end Marks

/-- Markup that closes what it opens, and nothing else, holds no item. -/
theorem IsBalanced.marks (h : IsBalanced t) : Marks (tags (tokens t)) [] :=
  itemsAmong_eq_nil h.isIdle.ne_item

/-! ## Running text -/

mutual

theorem marks_span : ∀ s : Span, (∀ w ∈ s.raw, IsBalanced w) → Marks s.tags []
  | .text _, _ => .nil
  | .code _, _ => .around (by decide) .nil
  | .softBreak, _ => .nil
  | .hardBreak, _ => .opening (by decide) [] true
  | .markup t, h => (h t (List.mem_singleton_self t)).marks
  | .image _ _, _ => .opening (by decide) _ true
  | .emphasis _ body, h => .around (by decide) (marks_spans body h)
  | .strong body, h => .around (by decide) (marks_spans body h)
  | .link _ body, h => .around (by decide) (marks_spans body h)

/-- Running text holds no item. -/
theorem marks_spans :
    ∀ ss : List Span, (∀ w ∈ rawInSpans ss, IsBalanced w) → Marks (tagsInSpans ss) []
  | [], _ => .nil
  | s :: ss, h => by
    obtain ⟨hs, hss⟩ := List.forall_mem_append.1 h
    exact (marks_span s hs).append (marks_spans ss hss)

end

section

variable {definitions : Definitions}

theorem marks_text (h : ∀ w ∈ rawInText definitions t, IsBalanced w) :
    Marks (textTags definitions t) [] :=
  marks_spans (readSpans definitions t) h

/-! ## Blocks -/

theorem marks_row {cell : String} (hcell : cell ∈ ["th", "td"]) {cells : List Text}
    (h : ∀ c ∈ cells, ∀ w ∈ rawInText definitions c, IsBalanced w) :
    Marks (rowTags definitions cell cells) [] := by
  have hnames : ∀ n ∈ ["th", "td"], n.toList ≠ "li".toList := by decide
  exact .around (by decide) (.flatMap fun c hc => .around (hnames cell hcell)
    (marks_text (h c hc)))

theorem marks_table {head : List Text} {rows : List (List Text)}
    (h : ∀ cells ∈ head :: rows, ∀ c ∈ cells, ∀ w ∈ rawInText definitions c, IsBalanced w)
    (tight : Bool) (line : Nat) :
    Marks ((Block.table line head rows).tags definitions tight) [] := by
  have hhead : Marks (elementTags "thead".toList [] (rowTags definitions "th" head)) [] :=
    .around (by decide) (marks_row (by decide) (h head List.mem_cons_self))
  have hrows : Marks (if rows = [] then []
      else elementTags "tbody".toList [] (rows.flatMap (rowTags definitions "td"))) [] := by
    split
    · exact .nil
    · exact .around (by decide) (.flatMap fun cells hcells =>
        marks_row (by decide) (h cells (List.mem_cons_of_mem _ hcells)))
  exact .around (by decide) (hhead.append hrows)

end

section

variable (definitions : Definitions)

mutual

theorem marks_block : ∀ b : Block, (∀ w ∈ b.raw definitions, IsBalanced w) →
    ∀ tight, Marks (b.tags definitions tight) b.itemLines
  | .paragraph _ _, h, true => marks_text h
  | .paragraph _ _, h, false => .around (by decide) (marks_text h)
  | .heading _ _ _, h, _ =>
    .around (fun h => absurd (List.cons.inj h).1 (by decide)) (marks_text h)
  | .code _ _, _, _ => .around (by decide) (.around (by decide) .nil)
  | .fence _ _ _, _, _ => .around (by decide) (.around (by decide) .nil)
  | .markup _ t, h, _ => (h t (List.mem_singleton_self t)).marks
  | .thematicBreak _, _, _ => .opening (by decide) [] true
  | .quote _ body, h, _ => .around (by decide) (marks_blocks body h false)
  | .list _ none tight items, h, _ => .around (by decide) (marks_items items h tight)
  | .list _ (some _) tight items, h, _ => .around (by decide) (marks_items items h tight)
  | .table line _ _, h, tight =>
    marks_table (fun _ hcells _ hc w hw => h w (mem_raw_table hcells hc hw)) tight line
  | .definition _ _ _, _, _ => .nil

/-- The tags of blocks mark the items in them. -/
theorem marks_blocks : ∀ bs : List Block, (∀ w ∈ rawIn definitions bs, IsBalanced w) →
    ∀ tight, Marks (tagsIn definitions tight bs) (itemLinesIn bs)
  | [], _, _ => .nil
  | b :: bs, h, tight => by
    obtain ⟨hb, hbs⟩ := List.forall_mem_append.1 h
    exact (marks_block b hb tight).append (marks_blocks bs hbs tight)

theorem marks_items : ∀ items : List Item, (∀ w ∈ rawInItems definitions items, IsBalanced w) →
    ∀ tight, Marks (tagsInItems definitions tight items) (itemLinesInItems items)
  | [], _, _ => .nil
  | .mk line body :: items, h, tight => by
    obtain ⟨hbody, hitems⟩ := List.forall_mem_append.1 h
    have hopening : Marks [.opening "li".toList
        [("data-line".toList, ofInt (line + 1 : Nat))] false]
        [line] := rfl
    exact (Marks.element hopening (marks_blocks body hbody tight)).append
      (marks_items items hitems tight)

end

end

/-! ## Pages -/

/-- The items of a page are those of the document, in its order, each with the number of its
line. -/
theorem items_page (hraw : ∀ w ∈ rawMarkup t, IsBalanced w) :
    itemHeads (headsInAll (Html.parse (page t))) =
      (itemLinesIn (blocks (prepare t))).map itemHead := by
  have hpage : itemsAmong (pageTags t) = _ := marks_blocks _ _ hraw false
  rw [heads_parse, ← hpage, ← tags_page fun w hw => (hraw w hw).isWhole, itemsAmong_tags]
  rfl

end Concordance.Readme
