import Concordance.Proofs.Readme.WellFormed
import Concordance.Readme.Order

/-!
# Pages whose entries cannot be read

The entries of a page are read item by item, and an item may keep them from being read.  Raw markup
can make such items; where it is well formed, there are none.

* `ListItem.IsFaulty`: what is wrong with such an item.
* `entries_eq_error_iff`: the entries of a page cannot be read exactly if it has such an item.
* `one_le_level_of_mem_entries`: the levels of entries that have been read.
* `exists_entries_of_isWellFormed`: entries that can be read.
-/

namespace Concordance

/-! ## Traversals -/

section

variable {α β ε : Type} {f : α → Except ε β} {xs : List α}

/-- What ends a traversal is what is wrong with one of the elements. -/
theorem exists_of_mapM_eq_error {e : ε} (h : xs.mapM f = .error e) : ∃ x ∈ xs, f x = .error e := by
  induction xs with
  | nil => cases h
  | cons x xs ih =>
    rw [List.mapM_cons] at h
    cases hx : f x with
    | error e' =>
      rw [hx] at h
      cases h
      exact ⟨x, List.mem_cons_self, hx⟩
    | ok y =>
      cases hxs : xs.mapM f with
      | error e' =>
        rw [hx, hxs] at h
        cases h
        obtain ⟨x', hmem, hx'⟩ := ih hxs
        exact ⟨x', List.mem_cons_of_mem x hmem, hx'⟩
      | ok ys =>
        rw [hx, hxs] at h
        cases h

/-- A traversal that ends well has a result for each element, and no others. -/
theorem of_mapM_eq_ok {ys : List β} (h : xs.mapM f = .ok ys) :
    (∀ x ∈ xs, ∃ y, f x = .ok y) ∧ ∀ y ∈ ys, ∃ x ∈ xs, f x = .ok y := by
  induction xs generalizing ys with
  | nil =>
    cases h
    exact ⟨fun _ hx => absurd hx List.not_mem_nil, fun _ hy => absurd hy List.not_mem_nil⟩
  | cons x xs ih =>
    rw [List.mapM_cons] at h
    cases hx : f x with
    | error e =>
      rw [hx] at h
      cases h
    | ok y =>
      cases hxs : xs.mapM f with
      | error e =>
        rw [hx, hxs] at h
        cases h
      | ok zs =>
        rw [hx, hxs] at h
        cases h
        obtain ⟨hresults, helements⟩ := ih hxs
        have hzs : ∀ z ∈ zs, ∃ x' ∈ x :: xs, f x' = .ok z := by
          intro z hz
          obtain ⟨x', hmem, hx'⟩ := helements z hz
          exact ⟨x', List.mem_cons_of_mem x hmem, hx'⟩
        exact ⟨List.forall_mem_cons.2 ⟨⟨y, hx⟩, hresults⟩,
          List.forall_mem_cons.2 ⟨⟨x, List.mem_cons_self, hx⟩, hzs⟩⟩

/-- A traversal that ends well maps each element to its result. -/
theorem eq_map_of_mapM_eq_ok {ys : List β} {g : α → β} (h : xs.mapM f = .ok ys)
    (hg : ∀ x y, f x = .ok y → y = g x) : ys = xs.map g := by
  induction xs generalizing ys with
  | nil =>
    cases h
    rfl
  | cons x xs ih =>
    rw [List.mapM_cons] at h
    cases hx : f x with
    | error e =>
      rw [hx] at h
      cases h
    | ok y =>
      cases hxs : xs.mapM f with
      | error e =>
        rw [hx, hxs] at h
        cases h
      | ok zs =>
        rw [hx, hxs] at h
        cases h
        rw [List.map_cons, ← hg x y hx, ← ih hxs]

/-- Something ends a traversal exactly if something is wrong with one of the elements. -/
theorem mapM_eq_error_iff : (∃ e, xs.mapM f = .error e) ↔ ∃ x ∈ xs, ∃ e, f x = .error e := by
  constructor
  · rintro ⟨e, h⟩
    obtain ⟨x, hx, he⟩ := exists_of_mapM_eq_error h
    exact ⟨x, hx, e, he⟩
  · rintro ⟨x, hx, e, he⟩
    cases h : xs.mapM f with
    | error e' => exact ⟨e', rfl⟩
    | ok ys =>
      obtain ⟨y, hy⟩ := (of_mapM_eq_ok h).1 x hx
      rw [he] at hy
      cases hy

end

end Concordance

namespace Concordance.Readme

open Text Html
open Markdown (page)

/-! ## Items -/

/-- The items on the page of a text. -/
def listItems (t : Text) : List ListItem := itemsInAll 0 (Html.parse (page t))

/-- Something keeps the entries of an item from being read: it carries a line that is no number, or
it stands in no list and links a document. -/
def ListItem.IsFaulty (extension : Text) (i : ListItem) : Prop :=
  ¬ IsReadable i.line ∨ i.level = 0 ∧ ∃ l ∈ i.links, leadsToDocument extension l.href = true

/-- The number of the line that an item carries, if it carries one. -/
def lineNumber : Option Text → Option Int
  | some (c :: t) => (readInteger (c :: t)).toOption
  | _ => none

namespace ListItem

variable {i : ListItem} {file extension : Text}

theorem IsSound.not_isFaulty (h : i.IsSound) (extension : Text) : ¬ i.IsFaulty extension := by
  rintro (hline | ⟨hlevel, -⟩)
  · exact hline h.line
  · have := h.level
    omega

/-- The links of an item that lead to documents. -/
def documentLinks (extension : Text) (i : ListItem) : List Link :=
  i.links.filter fun l => leadsToDocument extension l.href

theorem entries_eq (h : IsReadable i.line) (file extension : Text) :
    i.entries file extension = (i.documentLinks extension).mapM fun l =>
      (Entry.validate ⟨i.level, l.title, l.href,
        { file := file, line := lineNumber i.line }⟩).mapError .level := by
  obtain ⟨level, line, links⟩ := i
  match line, h with
  | none, _ => rfl
  | some [], _ => rfl
  | some (c :: t), h =>
    obtain ⟨n, hn⟩ := h c t rfl
    simp only [entries, lineNumber, hn]
    rfl

theorem exists_entries_eq (h : IsReadable i.line) (file extension : Text) :
    ∃ line, i.entries file extension = (i.documentLinks extension).mapM fun l =>
      (Entry.validate ⟨i.level, l.title, l.href,
        { file := file, line := line }⟩).mapError .level :=
  ⟨_, entries_eq h file extension⟩

theorem exists_entries_eq_error (h : ¬ IsReadable i.line) (file extension : Text) :
    ∃ f, i.entries file extension = .error f := by
  obtain ⟨level, line, links⟩ := i
  match line, h with
  | none, h => exact absurd (fun _ _ heq => by cases heq) h
  | some [], h => exact absurd (fun _ _ heq => by cases heq) h
  | some (c :: t), h =>
    cases hn : readInteger (c :: t) with
    | error f =>
      refine ⟨.line f, ?_⟩
      simp only [entries, hn]
      rfl
    | ok n =>
      refine absurd (fun c' t' heq => ⟨n, ?_⟩) h
      rw [← Option.some.inj heq]
      exact hn

/-- An entry is in order unless its level is zero. -/
theorem validate_eq (level : Nat) (title href : Text) (location : Location) :
    Entry.validate ⟨level, title, href, location⟩ =
      if level = 0 then .error .tooSmall else .ok ⟨level, title, href, location⟩ := by
  have hlevel : (level : Int) < 1 ↔ level = 0 := by omega
  simp only [Entry.validate, checkLevel, hlevel]
  split <;> rfl

/-- The entries of an item cannot be read exactly if the item is faulty. -/
theorem entries_eq_error_iff (file : Text) :
    (∃ f, i.entries file extension = .error f) ↔ i.IsFaulty extension := by
  by_cases hline : IsReadable i.line
  · obtain ⟨line, heq⟩ := exists_entries_eq hline file extension
    rw [heq, mapM_eq_error_iff, IsFaulty]
    simp only [validate_eq]
    by_cases hlevel : i.level = 0
    · simp [hline, hlevel, documentLinks, Except.mapError]
    · simp [hline, hlevel, Except.mapError]
  · exact ⟨fun _ => Or.inl hline, fun _ => exists_entries_eq_error hline file extension⟩

theorem one_le_level_of_mem {es : List Entry} (h : i.entries file extension = .ok es) :
    ∀ e ∈ es, 1 ≤ e.level := by
  intro e he
  by_cases hline : IsReadable i.line
  · obtain ⟨line, heq⟩ := exists_entries_eq hline file extension
    rw [heq] at h
    obtain ⟨l, -, hl⟩ := (of_mapM_eq_ok h).2 e he
    simp only [validate_eq] at hl
    split at hl
    · cases hl
    · rename_i hlevel
      cases hl
      exact Int.natCast_pos.2 (Nat.pos_of_ne_zero hlevel)
  · obtain ⟨f, hf⟩ := exists_entries_eq_error hline file extension
    rw [hf] at h
    cases h

end ListItem

/-! ## Pages -/

variable {t file extension : Text}

/-- The entries of a page cannot be read exactly if one of its items is faulty. -/
theorem entries_eq_error_iff (t file extension : Text) :
    (∃ f, entries t file extension = .error f) ↔ ∃ i ∈ listItems t, i.IsFaulty extension := by
  have hmap : (∃ f, entries t file extension = .error f) ↔
      ∃ f, (listItems t).mapM (ListItem.entries file extension) = .error f := by
    rw [entries, ← listItems]
    cases (listItems t).mapM (ListItem.entries file extension) <;> simp [Except.map]
  rw [hmap, mapM_eq_error_iff]
  simp only [ListItem.entries_eq_error_iff]

/-- Each entry of a page is one of an item on it. -/
theorem exists_item_of_mem_entries {es : List Entry}
    {e : Entry} (h : entries t file extension = .ok es) (he : e ∈ es) :
    ∃ i ∈ listItems t, ∃ es', i.entries file extension = .ok es' ∧ e ∈ es' := by
  rw [entries, ← listItems] at h
  cases hitems : (listItems t).mapM (ListItem.entries file extension) with
  | error f =>
    rw [hitems] at h
    cases h
  | ok ess =>
    rw [hitems] at h
    cases h
    obtain ⟨es, hes, he⟩ := List.mem_flatten.1 he
    obtain ⟨i, hi, hentries⟩ := (of_mapM_eq_ok hitems).2 es hes
    exact ⟨i, hi, es, hentries, he⟩

theorem one_le_level_of_mem_entries {es : List Entry} (h : entries t file extension = .ok es) :
    ∀ e ∈ es, 1 ≤ e.level := by
  intro e he
  obtain ⟨i, -, es', hentries, he⟩ := exists_item_of_mem_entries h he
  exact ListItem.one_le_level_of_mem hentries e he

/-- Where raw markup is well formed, the entries can be read. -/
theorem exists_entries_of_isWellFormed (hraw : IsWellFormed t)
    (hlength : t.length < 10 ^ maxDigits) (file extension : Text) :
    ∃ es, entries t file extension = .ok es := by
  cases h : entries t file extension with
  | ok es => exact ⟨es, rfl⟩
  | error f =>
    obtain ⟨i, hi, hfaulty⟩ := (entries_eq_error_iff t file extension).1 ⟨f, h⟩
    exact absurd hfaulty ((isSound_page hraw hlength i hi).not_isFaulty extension)

/-- Names that lead nowhere are all that keeps documents from being put in order. -/
theorem exists_unknown {files ordered names : List Text} {fault : OrderFault}
    (h : orderNames files ordered names = .error fault) : ∃ n, fault = .unknown n := by
  induction names generalizing ordered with
  | nil => cases h
  | cons n ns ih =>
    rw [orderNames] at h
    split at h
    · cases h
      exact ⟨n, rfl⟩
    · exact ih h

end Concordance.Readme
