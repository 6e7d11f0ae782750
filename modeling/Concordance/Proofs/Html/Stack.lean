import Concordance.Html.Tree
import Mathlib.Data.List.TakeWhile

/-!
# The names of the open elements

What a tag does to the elements that are open depends on their names alone.

* `Token.behind`: the names of the open elements behind a token.
* `exists_behind_closing`: which elements a closing tag leaves open.
* `Growing.names_read`: reading a token of a page has this effect.
-/

namespace Concordance.Html

open Text

/-! ## The effect of a token -/

/-- The open elements that an opening tag does not close. -/
def namesUnder (tag : Text) (ns : List Text) : List Text := ns.dropWhile (closes tag)

/-- The names of the open elements behind a token, the innermost first. -/
def Token.behind (ns : List Text) : Token → List Text
  | .text _ => ns
  | .comment => ns
  | .opening name _ empty =>
    if frameTags.contains name then ns
    else if empty || emptyElements.contains name then namesUnder name ns
    else name :: namesUnder name ns
  | .closing name =>
    let inner := ns.takeWhile (· != name)
    if inner.length < ns.length && inner.all (fun n => rank n ≤ rank name) then
      ns.drop (inner.length + 1)
    else ns

variable {name : Text} {ns : List Text}

theorem namesUnder_eq (h : ∀ e ∈ ns.head?, closes name e = false) : namesUnder name ns = ns := by
  cases ns with
  | nil => rfl
  | cons e ns => rw [namesUnder, List.dropWhile_cons, h e rfl, if_neg Bool.false_ne_true]

/-- An opening tag closes elements from the innermost on, and none outside one that it does not
close. -/
theorem exists_namesUnder (h : ∀ e ∈ ns.head?, closes name e = false) (is : List Text) :
    ∃ js, js <:+ is ∧ namesUnder name (is ++ ns) = js ++ ns := by
  induction is with
  | nil => exact ⟨[], List.suffix_refl [], namesUnder_eq h⟩
  | cons i is ih =>
    obtain ⟨js, hjs, hunder⟩ := ih
    by_cases hi : closes name i = true
    · refine ⟨js, hjs.trans (List.suffix_cons i is), ?_⟩
      rw [← hunder, namesUnder, List.cons_append, List.dropWhile_cons_of_pos hi, namesUnder]
    · refine ⟨i :: is, List.suffix_refl _, ?_⟩
      rw [namesUnder, List.cons_append, List.dropWhile_cons_of_neg hi]

theorem behind_opening {as : Attributes} (hframe : frameTags.contains name = false)
    (hempty : emptyElements.contains name = false) :
    (Token.opening name as false).behind ns = name :: namesUnder name ns := by
  simp only [Token.behind, hframe, hempty, Bool.or_false, Bool.false_eq_true, if_false]

/-- A closing tag closes the innermost element of its name, if it is the innermost of all. -/
theorem behind_closing_self (name : Text) (ns : List Text) :
    (Token.closing name).behind (name :: ns) = ns := by
  simp [Token.behind]

/-- What a closing tag closes begins with the innermost element.  No element is closed that stands
outside all elements of the tag's name. -/
theorem exists_behind_closing (hns : name ∉ ns) (is : List Text) :
    ∃ js, js <:+ is ∧ (Token.closing name).behind (is ++ ns) = js ++ ns := by
  by_cases hmem : name ∈ is
  · have hinner : ((is ++ ns).takeWhile (· != name)).length + 1 ≤ is.length := by
      obtain ⟨us, vs, rfl, hus⟩ := List.eq_append_cons_of_mem hmem
      have hall : ∀ n ∈ us, (n != name) = true :=
        fun n hn => bne_iff_ne.2 fun heq => hus (heq ▸ hn)
      rw [List.append_assoc, List.takeWhile_append_of_pos hall, List.cons_append,
        List.takeWhile_cons, bne_self_eq_false, if_neg Bool.false_ne_true, List.append_nil,
        List.length_append, List.length_cons]
      omega
    simp only [Token.behind]
    split
    · refine ⟨is.drop (((is ++ ns).takeWhile (· != name)).length + 1), List.drop_suffix _ _, ?_⟩
      exact List.drop_append_of_le_length hinner
    · exact ⟨is, List.suffix_refl is, rfl⟩
  · have hall : ∀ n ∈ is ++ ns, (n != name) = true := by
      intro n hn
      rw [bne_iff_ne]
      rintro rfl
      exact (List.mem_append.1 hn).elim hmem hns
    have htake : (is ++ ns).takeWhile (· != name) = is ++ ns := List.takeWhile_eq_self_iff.2 hall
    refine ⟨is, List.suffix_refl is, ?_⟩
    simp only [Token.behind, htake, Nat.lt_irrefl, decide_false, Bool.false_and,
      Bool.false_eq_true, if_false]

namespace Growing

/-- The names of the open elements, the innermost first. -/
def names (g : Growing) : List Text := g.elements.map (·.name)

@[simp] theorem names_add (g : Growing) (n : Node) : (g.add n).names = g.names := by
  obtain ⟨elements, roots⟩ := g
  cases elements <;> rfl

@[simp] theorem names_closeOne (g : Growing) : g.closeOne.names = g.names.tail := by
  obtain ⟨elements, roots⟩ := g
  cases elements with
  | nil => rfl
  | cons e es => exact names_add _ _

@[simp] theorem names_close (n : Nat) (g : Growing) : (g.close n).names = g.names.drop n := by
  induction n with
  | zero => rfl
  | succ n ih =>
    have hclose : g.close (n + 1) = (g.close n).closeOne := rfl
    rw [hclose, names_closeOne, ih, List.tail_drop]

theorem takeWhile_names (g : Growing) (p : Text → Bool) :
    g.names.takeWhile p = (g.elements.takeWhile fun e => p e.name).map (·.name) :=
  List.takeWhile_map

theorem names_close_takeWhile (g : Growing) (p : Text → Bool) :
    (g.close (g.elements.takeWhile fun e => p e.name).length).names = g.names.dropWhile p := by
  have hlength : (g.elements.takeWhile fun e => p e.name).length =
      (g.names.takeWhile p).length := by
    rw [takeWhile_names, List.length_map]
  calc (g.close (g.elements.takeWhile fun e => p e.name).length).names
      = g.names.drop (g.names.takeWhile p).length := by rw [names_close, hlength]
    _ = (g.names.takeWhile p ++ g.names.dropWhile p).drop (g.names.takeWhile p).length := by
        rw [List.takeWhile_append_dropWhile]
    _ = g.names.dropWhile p := List.drop_left

/-- The names of the open elements decide what a token does to them. -/
theorem names_read (g : Growing) (t : Token) : (g.read t).names = t.behind g.names := by
  cases t with
  | text t => exact names_add g _
  | comment => exact names_add g _
  | opening name as empty =>
    by_cases hframe : frameTags.contains name = true
    · simp only [read, Token.behind, if_pos hframe]
    · have hunder := names_close_takeWhile g (closes name)
      by_cases hempty : (empty || emptyElements.contains name) = true
      · simp only [read, Token.behind, if_neg hframe, if_pos hempty, names_add, hunder, namesUnder]
      · simp only [read, Token.behind, if_neg hframe, if_neg hempty, namesUnder, ← hunder]
        rfl
  | closing name =>
    have hinner := takeWhile_names g (· != name)
    have hlength : g.names.length = g.elements.length := List.length_map _
    simp only [read, Token.behind, hinner, hlength, List.length_map, List.all_map,
      Function.comp_def]
    split
    · exact names_close _ g
    · rfl

end Growing

end Concordance.Html
