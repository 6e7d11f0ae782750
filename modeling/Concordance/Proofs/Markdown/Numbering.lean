import Concordance.Proofs.Markdown.Containers
import Concordance.Proofs.Markdown.Sequence
import Concordance.Proofs.Text.Replacement

/-!
# The lines that open items

Each item of a list remembers the line that opens it.  However deep a list is nested, this is the
number of one of the lines that the document has.

* `Numbers` says so of a reader; `numbers_readBlocks`, `numberedBy_readBlock` and `numbers_reader`
  prove it, block by block and level by level.
* `itemLine_lt`: the number is less than the length of the text.
-/

namespace Concordance.Markdown

open Text

/-! ## The lines of items -/

mutual

/-- The numbers of the lines that open the items in a block. -/
def Block.itemLines : Block → List Nat
  | .quote _ body => itemLinesIn body
  | .list _ _ _ items => itemLinesInItems items
  | _ => []

/-- The number of the line that opens an item, and those of the items inside it. -/
def Item.itemLines : Item → List Nat
  | .mk line body => line :: itemLinesIn body

/-- The numbers of the lines that open the items in blocks. -/
def itemLinesIn : List Block → List Nat
  | [] => []
  | b :: bs => b.itemLines ++ itemLinesIn bs

/-- The numbers of the lines that open items, and those of the items inside them. -/
def itemLinesInItems : List Item → List Nat
  | [] => []
  | i :: is => i.itemLines ++ itemLinesInItems is

end

/-- The numbers of lines. -/
def numbersOf (ls : List Line) : List Nat := ls.map Line.number

/-- Whether the items that a reader finds are opened by lines that it was given. -/
def Numbers (body : Reader) : Prop := ∀ c ls, itemLinesIn (body c ls).blocks ⊆ numbersOf ls

variable {body : Reader} {c : Container} {l : Line} {ls : List Line}

theorem numbersOf_subset {ls' : List Line} (h : ls ⊆ ls') : numbersOf ls ⊆ numbersOf ls' :=
  List.map_subset _ h

theorem numbers_skipAll : Numbers skipAll := fun _ _ => List.nil_subset _

/-! ## Sequences of blocks -/

theorem numbers_readBlocks {block : Container → Line → List Line → Block × Nat}
    (h : ∀ l ls, (block c l ls).1.itemLines ⊆ numbersOf (l :: ls)) (fuel : Nat)
    (blank tight : Bool) (ls : List Line) :
    itemLinesIn (readBlocks block c fuel blank tight ls).blocks ⊆ numbersOf ls := by
  induction fuel generalizing blank tight ls with
  | zero => exact List.nil_subset _
  | succ fuel ih =>
    rw [readBlocks]
    split
    · exact List.nil_subset _
    · rename_i l rest hrest
      have hsub : l :: rest ⊆ ls := hrest ▸ (List.dropWhile_sublist _).subset
      split
      · exact List.nil_subset _
      · refine List.append_subset.2 ⟨List.Subset.trans (h l rest) (numbersOf_subset hsub), ?_⟩
        refine List.Subset.trans (ih _ _ _) (numbersOf_subset fun l' hl' => hsub ?_)
        exact List.mem_of_mem_drop (List.mem_of_mem_drop hl')

/-! ## Quotes -/

theorem number_unquote (l : Line) : (unquote l).number = l.number := by
  have hbuild : ∀ t column base extra, (unquote.build l t column base extra).number = l.number :=
    fun _ _ _ _ => rfl
  rw [unquote]
  split
  · exact hbuild _ _ _ _
  · split <;> exact hbuild _ _ _ _
  · exact hbuild _ _ _ _

theorem numbersOf_quoteLines (c : Container) (blank : Bool) (ls : List Line) :
    numbersOf (quoteLines c blank ls) ⊆ numbersOf ls := by
  induction ls generalizing blank with
  | nil => exact List.nil_subset _
  | cons l ls ih =>
    rw [quoteLines]
    split
    · exact List.nil_subset _
    split
    · rw [numbersOf, List.map_cons, number_unquote]
      exact List.cons_subset_cons _ (ih _)
    split
    · exact List.nil_subset _
    · exact List.cons_subset_cons _ (ih _)

theorem numbers_quote (hbody : Numbers body) {x : Block × Nat} (hx : c.quote? body l ls = some x) :
    x.1.itemLines ⊆ numbersOf (l :: ls) := by
  rw [Container.quote?, Option.ite_none_right_eq_some, Option.some_inj] at hx
  obtain ⟨-, rfl⟩ := hx
  refine List.Subset.trans (hbody _ _) ?_
  rw [numbersOf, List.map_cons, number_unquote]
  exact List.cons_subset_cons _ (numbersOf_quoteLines _ _ ls)

/-! ## Lists -/

theorem numbers_readItem (hbody : Numbers body) (m : Marker) (l : Line) (ls : List Line) :
    itemLinesIn (readItem body c m l ls).blocks ⊆ numbersOf (l :: ls) := by
  rw [readItem]
  split
  · exact List.nil_subset _
  · exact hbody _ _

theorem numbers_readItems (hbody : Numbers body) (fuel : Nat) (blank : Bool) (m : Marker)
    (l : Line) (ls : List Line) :
    itemLinesInItems (readItems body c fuel blank m l ls).items ⊆ numbersOf (l :: ls) := by
  induction fuel generalizing blank m l ls with
  | zero => exact List.nil_subset _
  | succ fuel ih =>
    have hitem : (Item.mk l.number (readItem body c m l ls).blocks).itemLines ⊆
        numbersOf (l :: ls) :=
      List.cons_subset.2 ⟨List.mem_cons_self, numbers_readItem hbody m l ls⟩
    rw [readItems]
    dsimp only
    split
    · exact List.append_subset.2 ⟨hitem, List.nil_subset _⟩
    · rename_i m' l' ls' hsome
      have hnext : nextItem? c m ((l :: ls).drop (readItem body c m l ls).used) =
          some (m', l', ls') := hsome
      have hdrop := (of_nextItem? hnext).1
      refine List.append_subset.2 ⟨hitem, List.Subset.trans (ih _ m' l' ls') (numbersOf_subset ?_)⟩
      rw [← hdrop]
      exact List.drop_subset _ _

theorem numbers_list (hbody : Numbers body) {x : Block × Nat} (hx : c.list? body l ls = some x) :
    x.1.itemLines ⊆ numbersOf (l :: ls) := by
  obtain ⟨m, -, rfl⟩ := Option.map_eq_some_iff.1 hx
  exact numbers_readItems hbody _ _ m l ls

/-! ## Blocks -/

/-- The items of a block that has been read are opened by some lines. -/
def NumberedBy (ls : List Line) (x : Block × Nat) : Prop := x.1.itemLines ⊆ numbersOf ls

/-- What is neither a quote nor a list holds no item. -/
theorem numberedBy_leaf {x : Block × Nat} (h : x.1.itemLines = []) (ls : List Line) :
    NumberedBy ls x := by
  rw [NumberedBy, h]
  exact List.nil_subset _

theorem numberedBy_of_map {α : Type} {o : Option α} {f : α → Block × Nat} {x : Block × Nat}
    (hf : ∀ a, (f a).1.itemLines = []) (hx : o.map f = some x) (ls : List Line) :
    NumberedBy ls x := by
  obtain ⟨a, -, rfl⟩ := Option.map_eq_some_iff.1 hx
  exact numberedBy_leaf (hf a) ls

theorem numberedBy_readBlock {quoteBody listBody : Reader} (hquote : Numbers quoteBody)
    (hlist : Numbers listBody) (c : Container) (l : Line) (ls : List Line) :
    NumberedBy (l :: ls) (readBlock quoteBody listBody c l ls) := by
  rw [readBlock]
  refine of_getD_or (fun x hx => numberedBy_of_map (fun _ => rfl) hx _) ?_
  refine of_getD_or (fun x hx => ?_) ?_
  · rw [Container.code?, Option.ite_none_right_eq_some, Option.some_inj] at hx
    exact numberedBy_leaf (hx.2 ▸ rfl) _
  refine of_getD_or (fun x hx => numberedBy_of_map (fun _ => rfl) hx _) ?_
  refine of_getD_or (fun x hx => numbers_quote hquote hx) ?_
  refine of_getD_or (fun x hx => ?_) ?_
  · rw [readBlock.breakBlock?, Option.ite_none_right_eq_some, Option.some_inj] at hx
    exact numberedBy_leaf (hx.2 ▸ rfl) _
  refine of_getD_or (fun x hx => numbers_list hlist hx) ?_
  refine of_getD_or (fun x hx => ?_) ?_
  · rw [Container.definition?, Option.ite_none_left_eq_some] at hx
    obtain ⟨key, href, title, k, rfl⟩ := exists_of_definition? hx.2
    exact numberedBy_leaf rfl _
  refine of_getD_or (fun x hx => numberedBy_of_map (fun _ => rfl) hx _) ?_
  refine of_getD_or (fun x hx => numberedBy_of_map (fun _ => rfl) hx _) ?_
  cases hx : c.underlined? l ls with
  | none => exact numberedBy_leaf rfl _
  | some x =>
    rw [Container.underlined?, Option.ite_none_left_eq_some] at hx
    exact numberedBy_of_map (fun _ => rfl) hx.2 _

/-- Readers of any depth find items that are opened by lines they were given. -/
theorem numbers_reader : ∀ depth : Nat, Numbers (reader depth)
  | 0 => numbers_skipAll
  | 1 => fun c ls =>
    numbers_readBlocks (numberedBy_readBlock numbers_skipAll numbers_skipAll c) _ _ _ ls
  | depth + 2 => fun c ls =>
    numbers_readBlocks (numberedBy_readBlock (numbers_reader (depth + 1))
      (numbers_reader depth) c) _ _ _ ls

/-! ## Documents -/

/-- Each line has a character of its own, be it the line feed behind it. -/
theorem number_lt_of_mem_ofPieces {n : Nat} {ts : List Text} (h : l ∈ Line.ofPieces n ts) :
    l.number < n + (joinWith ['\n'] ts).length := by
  have hnumber : ∀ t ended, (Line.ofText n t ended).number = n := fun _ _ => rfl
  induction ts generalizing n with
  | nil => cases h
  | cons t ts ih =>
    cases ts with
    | nil =>
      rw [Line.ofPieces] at h
      split at h
      · cases h
      · rename_i hblank
        obtain rfl := List.mem_singleton.1 h
        have hpos : 0 < t.length := List.length_pos_iff.2 fun ht => hblank (by rw [ht]; rfl)
        rw [hnumber, joinWith]
        omega
    | cons u ts =>
      rw [ofPieces_cons n t (List.cons_ne_nil u ts), List.mem_cons] at h
      rw [joinWith_cons_cons, List.length_append, List.length_append, List.length_singleton]
      rcases h with rfl | h
      · rw [hnumber]
        omega
      · have hlt := ih h fun _ _ => rfl
        omega

theorem length_normalizeBreaks_le (t : Text) : (normalizeBreaks t).length ≤ t.length := by
  rw [normalizeBreaks]
  fun_induction lines t with
  | case1 => exact Nat.le_refl 0
  | case2 t ih =>
    rw [unlines_cons _ (lines_ne_nil t), List.nil_append, List.length_cons, List.length_cons,
      List.length_cons]
    omega
  | case3 c t _ _ ih =>
    rw [unlines_cons _ (lines_ne_nil t), List.nil_append, List.length_cons, List.length_cons]
    omega
  | case4 c t _ _ ih =>
    rw [unlines_consFirst c (lines_ne_nil t), List.length_cons, List.length_cons]
    omega

/-- The items of a document are opened by its lines, and there are no more lines than
characters. -/
theorem itemLine_lt {t : Text} {n : Nat} (h : n ∈ itemLinesIn (blocks (prepare t))) :
    n < t.length := by
  obtain ⟨l, hl, rfl⟩ := List.mem_map.1 (numbers_reader maxDepth {} _ h)
  have hlt := number_lt_of_mem_ofPieces hl
  rw [joinWith_splitOn, Nat.zero_add, prepare, List.length_map] at hlt
  exact Nat.lt_of_lt_of_le hlt (length_normalizeBreaks_le t)

end Concordance.Markdown
