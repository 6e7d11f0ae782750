import Concordance.Proofs.Readme.Faults
import Concordance.Proofs.Text.OneLine

/-!
# Links on a page

Each entry of an index document comes from a link on its page.  The title of the entry is made of
the texts in the link, and its anchor is where the link leads.  Only the ends of each text are
trimmed, so a line break inside a text stays in the title.

* `exists_link_of_mem_linksInAll` and `exists_item_of_mem_itemsInAll` find links and items on a
  page.
* `isLine_titleOf`: when a title is a line.
* `exists_link_of_mem_entries`: the link of an entry.
-/

namespace Concordance.Readme

open Text Html
open Markdown (page)

/-! ## Nodes inside nodes -/

/-- A node is one of some nodes, or stands inside one of them. -/
inductive Stands (n : Node) : List Node → Prop where
  | here {ns : List Node} : n ∈ ns → Stands n ns
  | inside {name : Text} {as : Attributes} {children ns : List Node} :
      .element name as children ∈ ns → Stands n children → Stands n ns

variable {n : Node} {ns ms : List Node} {l : Link} {i : ListItem} {level : Nat}

theorem Stands.trans {name : Text} {as : Attributes} (h : Stands n ns)
    (hns : Stands (.element name as ns) ms) : Stands n ms := by
  generalize hm : Node.element name as ns = m at hns
  induction hns with
  | here hmem => exact .inside (hm ▸ hmem) h
  | inside hmem _ ih => exact .inside hmem ih

theorem Stands.mono (h : Stands n ns) (hsub : ns ⊆ ms) : Stands n ms := by
  cases h with
  | here hmem => exact .here (hsub hmem)
  | inside hmem h => exact .inside (hsub hmem) h

/-! ## Links and items -/

/-- The link that an element is. -/
def linkOf (as : Attributes) (children : List Node) : Link :=
  ⟨(as.lookup "href".toList).getD [], titleOf children⟩

mutual

theorem exists_link_of_mem_linksIn : ∀ n : Node, l ∈ linksIn n →
    ∃ as children, Stands (.element "a".toList as children) [n] ∧ l = linkOf as children
  | .element name as children, hl => by
    rw [linksIn] at hl
    have hinside : l ∈ linksInAll children → ∃ as' children',
        Stands (.element "a".toList as' children') [.element name as children] ∧
          l = linkOf as' children' := by
      intro hl
      obtain ⟨as', children', hstands, rfl⟩ := exists_link_of_mem_linksInAll children hl
      exact ⟨as', children', .inside List.mem_cons_self hstands, rfl⟩
    split at hl
    · cases hl
    split at hl
    · rename_i hname
      rcases List.mem_cons.1 hl with rfl | hl
      · exact ⟨as, children, .here (hname ▸ List.mem_cons_self), rfl⟩
      · exact hinside hl
    · exact hinside hl
  | .text t, hl => by simp [linksIn] at hl
  | .comment, hl => by simp [linksIn] at hl

/-- A link that is found among nodes is an element among them. -/
theorem exists_link_of_mem_linksInAll : ∀ ns : List Node, l ∈ linksInAll ns →
    ∃ as children, Stands (.element "a".toList as children) ns ∧ l = linkOf as children
  | [], hl => by simp [linksInAll] at hl
  | n :: ns, hl => by
    rw [linksInAll] at hl
    rcases List.mem_append.1 hl with hl | hl
    · obtain ⟨as, children, hstands, rfl⟩ := exists_link_of_mem_linksIn n hl
      exact ⟨as, children, hstands.mono (List.cons_subset_cons n (List.nil_subset ns)), rfl⟩
    · obtain ⟨as, children, hstands, rfl⟩ := exists_link_of_mem_linksInAll ns hl
      exact ⟨as, children, hstands.mono (List.subset_cons_self n ns), rfl⟩

end

mutual

theorem exists_item_of_mem_itemsIn : ∀ (level : Nat) (n : Node), i ∈ itemsIn level n →
    ∃ as children, Stands (.element "li".toList as children) [n] ∧ i.links = linksInAll children
  | level, .element name as children, hi => by
    have hinside : ∀ level, i ∈ itemsInAll level children → ∃ as' children',
        Stands (.element "li".toList as' children') [.element name as children] ∧
          i.links = linksInAll children' := by
      intro level hi
      obtain ⟨as', children', hstands, hlinks⟩ := exists_item_of_mem_itemsInAll level children hi
      exact ⟨as', children', .inside List.mem_cons_self hstands, hlinks⟩
    rw [itemsIn] at hi
    split at hi
    · rename_i hname
      rcases List.mem_cons.1 hi with rfl | hi
      · exact ⟨as, children, .here (hname ▸ List.mem_cons_self), rfl⟩
      · exact hinside level hi
    · exact hinside _ hi
  | level, .text t, hi => by simp [itemsIn] at hi
  | level, .comment, hi => by simp [itemsIn] at hi

/-- An item that is found among nodes is an element among them. -/
theorem exists_item_of_mem_itemsInAll : ∀ (level : Nat) (ns : List Node), i ∈ itemsInAll level ns →
    ∃ as children, Stands (.element "li".toList as children) ns ∧ i.links = linksInAll children
  | level, [], hi => by simp [itemsInAll] at hi
  | level, n :: ns, hi => by
    rw [itemsInAll] at hi
    rcases List.mem_append.1 hi with hi | hi
    · obtain ⟨as, children, hstands, hlinks⟩ := exists_item_of_mem_itemsIn level n hi
      exact ⟨as, children, hstands.mono (List.cons_subset_cons n (List.nil_subset ns)), hlinks⟩
    · obtain ⟨as, children, hstands, hlinks⟩ := exists_item_of_mem_itemsInAll level ns hi
      exact ⟨as, children, hstands.mono (List.subset_cons_self n ns), hlinks⟩

end

/-! ## Titles -/

theorem subset_joinWith {sep p : Text} {ps : List Text} (hp : p ∈ ps) : p ⊆ joinWith sep ps := by
  induction ps with
  | nil => cases hp
  | cons q qs ih =>
    intro c hc
    rcases List.mem_cons.1 hp with rfl | hp
    · cases qs with
      | nil => exact hc
      | cons r rs => exact List.mem_append_left _ (List.mem_append_left _ hc)
    · obtain ⟨r, rs, rfl⟩ := List.exists_cons_of_ne_nil (List.ne_nil_of_mem hp)
      exact List.mem_append_right _ (ih hp hc)

/-- A title is a line if and only if its texts are, without the blanks around them. -/
theorem isLine_titleOf (children : List Node) :
    IsLine (titleOf children) ↔ ∀ t ∈ textsInAll children, IsLine (trim t) := by
  constructor
  · intro h t ht
    by_cases hne : trim t = []
    · rw [hne]
      decide
    · have hmem : trim t ∈ ((textsInAll children).map trim).filter (· ≠ []) :=
        List.mem_filter.2 ⟨List.mem_map_of_mem ht, by simpa using hne⟩
      exact isLine_of_subset fun c hc => ⟨_, h, subset_joinWith hmem hc⟩
  · intro h
    refine isLine_joinWith (by decide) fun p hp => ?_
    obtain ⟨t, ht, rfl⟩ := List.mem_map.1 (List.mem_filter.1 hp).1
    exact h t ht

/-! ## Entries -/

variable {t file extension : Text} {es : List Entry} {e : Entry}

theorem ListItem.exists_link_of_mem (h : i.entries file extension = .ok es) (he : e ∈ es) :
    ∃ l ∈ i.links, e.title = l.title ∧ e.anchor = l.href ∧
      ∃ line, e.location = { file := file, line := line } := by
  by_cases hline : IsReadable i.line
  · obtain ⟨line, heq⟩ := exists_entries_eq hline file extension
    rw [heq] at h
    obtain ⟨l, hl, hvalid⟩ := (of_mapM_eq_ok h).2 e he
    simp only [validate_eq] at hvalid
    split at hvalid
    · cases hvalid
    · cases hvalid
      exact ⟨l, (List.mem_filter.1 hl).1, rfl, rfl, line, rfl⟩
  · obtain ⟨f, hf⟩ := exists_entries_eq_error hline file extension
    rw [hf] at h
    cases h

/-- An entry of a page comes from a link in an item of the page, and stands in the file at its
line. -/
theorem exists_link_of_mem_entries (h : entries t file extension = .ok es) (he : e ∈ es) :
    (∃ as children, Stands (.element "a".toList as children) (Html.parse (page t)) ∧
      e.anchor = (as.lookup "href".toList).getD [] ∧ e.title = titleOf children) ∧
    ∃ line, e.location = { file := file, line := line } := by
  obtain ⟨i, hi, es', hentries, he⟩ := exists_item_of_mem_entries h he
  obtain ⟨l, hl, htitle, hanchor, hlocation⟩ := ListItem.exists_link_of_mem hentries he
  obtain ⟨_, _, hitem, hlinks⟩ := exists_item_of_mem_itemsInAll 0 _ hi
  obtain ⟨as, children, hlink, rfl⟩ := exists_link_of_mem_linksInAll _ (hlinks ▸ hl)
  exact ⟨⟨as, children, hlink.trans hitem, hanchor, htitle⟩, hlocation⟩

end Concordance.Readme
