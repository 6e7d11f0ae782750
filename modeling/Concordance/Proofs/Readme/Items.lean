import Concordance.Proofs.Html.Stack
import Concordance.Readme.Entries

/-!
# Items that can be read

The links of an item are read if the item stands in a list and if the line it carries, where it
carries one, is a number.  Whether all items of a page are so is seen from its tokens: it is enough
to look at each tag that opens an item, and at the names of the elements that are open there.

* `ListItem.IsSound` is the condition on an item, and `Fits` the one on a token.
* `Sound`: the nodes that have been built hold sound items only.  `Sound.read` is the step,
  `Sound.foldl_read` the run.
* `isSound_of_fitting`: if every token of a page fits where it stands, every item of the page is
  sound.
-/

namespace Concordance.Readme

open Text Html

/-! ## Sound items -/

/-- A line that an item may carry: none, or a number. -/
def IsReadable (line : Option Text) : Prop :=
  ∀ c t, line = some (c :: t) → ∃ n, readInteger (c :: t) = .ok n

instance (line : Option Text) : Decidable (IsReadable line) :=
  match line with
  | some (c :: t) =>
    match h : readInteger (c :: t) with
    | .ok n => isTrue fun _ _ heq => ⟨n, Option.some.inj heq ▸ h⟩
    | .error _ => isFalse fun hread => by
      obtain ⟨n, hn⟩ := hread c t rfl
      rw [h] at hn
      cases hn
  | some [] => isTrue fun _ _ heq => by cases heq
  | none => isTrue fun _ _ heq => by cases heq

/-- An item that stands in a list and whose line can be read. -/
structure ListItem.IsSound (i : ListItem) : Prop where
  level : 1 ≤ i.level
  line : IsReadable i.line

/-- Whether elements of a name are lists. -/
def isList (name : Text) : Bool := name = "ul".toList || name = "ol".toList

/-- How many of the open elements are lists. -/
def listDepth (ns : List Text) : Nat := ns.countP isList

/-- An element that holds items stands where it may: an item stands in a list and carries a line
that can be read. -/
def MayHold (level : Nat) (name : Text) (as : Attributes) : Prop :=
  name = "li".toList → 1 ≤ level ∧ IsReadable (as.lookup "data-line".toList)

instance (level : Nat) (name : Text) (as : Attributes) : Decidable (MayHold level name as) :=
  inferInstanceAs (Decidable (_ → _))

/-- A node in `level` lists all of whose items are sound. -/
def SoundNode (level : Nat) (n : Node) : Prop := ∀ i ∈ itemsIn level n, i.IsSound

theorem mem_itemsInAll {i : ListItem} {level : Nat} {ns : List Node} :
    i ∈ itemsInAll level ns ↔ ∃ n ∈ ns, i ∈ itemsIn level n := by
  induction ns with
  | nil => simp [itemsInAll]
  | cons n ns ih => simp only [itemsInAll, List.mem_append, ih, List.mem_cons, exists_eq_or_imp]

theorem soundNode_text (level : Nat) (t : Text) : SoundNode level (.text t) := by
  intro i hi
  simp [itemsIn] at hi

theorem soundNode_comment (level : Nat) : SoundNode level .comment := by
  intro i hi
  simp [itemsIn] at hi

theorem soundNode_element {level : Nat} {name : Text} {as : Attributes} {children : List Node}
    (hname : MayHold level name as)
    (h : ∀ n ∈ children, SoundNode (if isList name then level + 1 else level) n) :
    SoundNode level (.element name as children) := by
  intro i hi
  by_cases hli : name = "li".toList
  · obtain ⟨hlevel, hline⟩ := hname hli
    have hlist : isList name = false := by rw [hli]; decide
    rw [itemsIn, if_pos hli, List.mem_cons, mem_itemsInAll] at hi
    rcases hi with rfl | ⟨n, hn, hi⟩
    · exact ⟨hlevel, hline⟩
    · have hsound := h n hn
      rw [hlist] at hsound
      exact hsound i hi
  · rw [itemsIn, if_neg hli, mem_itemsInAll] at hi
    obtain ⟨n, hn, hi⟩ := hi
    exact h n hn i hi

/-! ## Sound trees -/

/-- Open elements that hold sound items only, the innermost element first. -/
def SoundElements : List OpenElement → Prop
  | [] => True
  | e :: es =>
    (∀ n ∈ e.children, SoundNode (listDepth (e.name :: es.map (·.name))) n) ∧
      MayHold (listDepth (es.map (·.name))) e.name e.attributes ∧ SoundElements es

/-- A growing tree whose items are sound, wherever its elements are closed. -/
structure Sound (g : Growing) : Prop where
  elements : SoundElements g.elements
  roots : ∀ n ∈ g.roots, SoundNode 0 n

theorem soundNode_of_mem_push {level : Nat} {m n : Node} {ns : List Node} (hn : SoundNode level n)
    (hns : ∀ n ∈ ns, SoundNode level n) (hm : m ∈ Growing.push n ns) : SoundNode level m := by
  unfold Growing.push at hm
  split at hm
  · rcases List.mem_cons.1 hm with rfl | hm
    · exact soundNode_text level _
    · exact hns m (List.mem_cons_of_mem _ hm)
  · rcases List.mem_cons.1 hm with rfl | hm
    · exact hn
    · exact hns m hm

theorem listDepth_cons (name : Text) (ns : List Text) :
    listDepth (name :: ns) = if isList name then listDepth ns + 1 else listDepth ns := by
  rw [listDepth, List.countP_cons, listDepth]
  split <;> rfl

namespace Sound

variable {g : Growing}

theorem add (h : Sound g) {n : Node} (hn : SoundNode (listDepth g.names) n) : Sound (g.add n) := by
  obtain ⟨elements, roots⟩ := g
  obtain ⟨helements, hroots⟩ := h
  cases elements with
  | nil => exact ⟨trivial, fun m hm => soundNode_of_mem_push hn hroots hm⟩
  | cons e es =>
    obtain ⟨hchildren, hname, hes⟩ := helements
    exact ⟨⟨fun m hm => soundNode_of_mem_push hn hchildren hm, hname, hes⟩, hroots⟩

theorem closeOne (h : Sound g) : Sound g.closeOne := by
  obtain ⟨elements, roots⟩ := g
  obtain ⟨helements, hroots⟩ := h
  cases elements with
  | nil => exact ⟨helements, hroots⟩
  | cons e es =>
    obtain ⟨hchildren, hname, hes⟩ := helements
    have houter : Sound ⟨es, roots⟩ := ⟨hes, hroots⟩
    refine houter.add (soundNode_element hname fun n hn => ?_)
    have hn := hchildren n (List.mem_reverse.1 hn)
    rwa [listDepth_cons] at hn

theorem close (h : Sound g) (n : Nat) : Sound (g.close n) := by
  induction n with
  | zero => exact h
  | succ n ih => exact ih.closeOne

end Sound

/-! ## Tokens that fit -/

/-- A token fits among open elements: if it opens an item, the item stands in a list and carries a
line that can be read. -/
def Fits (ns : List Text) : Token → Prop
  | .opening name as _ => MayHold (listDepth (namesUnder name ns)) name as
  | _ => True

/-- Each of the tokens fits where it stands. -/
def Fitting : List Text → List Token → Prop
  | _, [] => True
  | ns, t :: ts => Fits ns t ∧ Fitting (t.behind ns) ts

instance (ns : List Text) (t : Token) : Decidable (Fits ns t) :=
  match t with
  | .opening name as _ => inferInstanceAs (Decidable (MayHold _ name as))
  | .closing _ | .text _ | .comment => isTrue trivial

instance decidableFitting : (ns : List Text) → (ts : List Token) → Decidable (Fitting ns ts)
  | _, [] => isTrue trivial
  | ns, t :: ts =>
    have := decidableFitting (t.behind ns) ts
    inferInstanceAs (Decidable (_ ∧ _))

namespace Sound

variable {g : Growing}

theorem read (h : Sound g) {t : Token} (ht : Fits g.names t) : Sound (g.read t) := by
  cases t with
  | text t => exact h.add (soundNode_text _ t)
  | comment => exact h.add (soundNode_comment _)
  | opening name as empty =>
    have hunder := Growing.names_close_takeWhile g (closes name)
    have hclosed := h.close (g.elements.takeWhile fun e => closes name e.name).length
    have hname : MayHold (listDepth (namesUnder name g.names)) name as := ht
    rw [namesUnder, ← hunder] at hname
    simp only [Growing.read]
    split
    · exact h
    split
    · exact hclosed.add (soundNode_element hname fun n hn => absurd hn List.not_mem_nil)
    · exact ⟨⟨fun n hn => absurd hn List.not_mem_nil, hname, hclosed.elements⟩, hclosed.roots⟩
  | closing name =>
    simp only [Growing.read]
    split
    · exact h.close _
    · exact h

/-- Tokens that fit keep the items sound. -/
theorem foldl_read (h : Sound g) {ts : List Token} (hts : Fitting g.names ts) :
    Sound (ts.foldl Growing.read g) := by
  induction ts generalizing g with
  | nil => exact h
  | cons t ts ih =>
    obtain ⟨ht, hts⟩ := hts
    rw [← Growing.names_read] at hts
    exact ih (h.read ht) hts

end Sound

/-- If every token of a page fits where it stands, every item of the page is sound. -/
theorem isSound_of_fitting {t : Text} (h : Fitting [] (tokens t)) :
    ∀ i ∈ itemsInAll 0 (Html.parse t), i.IsSound := by
  intro i hi
  have hempty : Sound {} := ⟨trivial, fun n hn => absurd hn List.not_mem_nil⟩
  obtain ⟨n, hn, hi⟩ := mem_itemsInAll.1 hi
  have hclosed := (hempty.foldl_read h).close ((tokens t).foldl Growing.read {}).elements.length
  exact hclosed.roots n (List.mem_reverse.1 hn) i hi

end Concordance.Readme
