import Concordance.Text.Basic
import Mathlib.Data.List.Basic
import Mathlib.Data.List.Induction

/-!
# First occurrences

Names that come again and again are often taken once each, in the order in which they first occur.

* `mem_eachOnce`: no name is lost, and none is new.
* `pairwise_eachOnce`: the names come in the order of their first occurrences, so each comes once.
-/

namespace Concordance.Text

variable {ns : List Text} {m n : Text}

/-- Each of some names once, in the order in which they first occur. -/
def eachOnce (ns : List Text) : List Text :=
  ns.foldl (fun seen n => if n ∈ seen then seen else seen ++ [n]) []

/-- One name occurs for the first time before another one does. -/
def FirstBefore (ns : List Text) (m n : Text) : Prop := ns.idxOf m < ns.idxOf n

theorem eachOnce_concat (ns : List Text) (n : Text) :
    eachOnce (ns ++ [n]) = if n ∈ eachOnce ns then eachOnce ns else eachOnce ns ++ [n] :=
  List.foldl_concat _ _ _ _

@[simp] theorem mem_eachOnce : n ∈ eachOnce ns ↔ n ∈ ns := by
  induction ns using List.reverseRecOn with
  | nil => rfl
  | append_singleton ns k ih =>
    rw [eachOnce_concat, List.mem_append, List.mem_singleton, ← ih]
    split
    · rename_i hk
      exact ⟨Or.inl, fun h => h.elim id fun h => h ▸ hk⟩
    · rw [List.mem_append, List.mem_singleton]

theorem FirstBefore.append (h : FirstBefore ns m n) (hm : m ∈ ns) (hn : n ∈ ns) (ks : List Text) :
    FirstBefore (ns ++ ks) m n := by
  rwa [FirstBefore, List.idxOf_append_of_mem hm, List.idxOf_append_of_mem hn]

theorem firstBefore_concat (hm : m ∈ ns) (hn : n ∉ ns) : FirstBefore (ns ++ [n]) m n := by
  rw [FirstBefore, List.idxOf_append_of_mem hm, List.idxOf_append_of_notMem hn]
  exact Nat.lt_add_right _ (List.idxOf_lt_length_of_mem hm)

/-- The names come in the order of their first occurrences. -/
theorem pairwise_eachOnce (ns : List Text) : (eachOnce ns).Pairwise (FirstBefore ns) := by
  induction ns using List.reverseRecOn with
  | nil => exact .nil
  | append_singleton ns k ih =>
    have hold : (eachOnce ns).Pairwise (FirstBefore (ns ++ [k])) :=
      ih.imp_of_mem fun hm hn h => h.append (mem_eachOnce.1 hm) (mem_eachOnce.1 hn) [k]
    rw [eachOnce_concat]
    split
    · exact hold
    · rename_i hk
      refine List.pairwise_append.2 ⟨hold, List.pairwise_singleton _ _, fun m hm n hn => ?_⟩
      obtain rfl := List.mem_singleton.1 hn
      exact firstBefore_concat (mem_eachOnce.1 hm) fun hn => hk (mem_eachOnce.2 hn)

theorem nodup_eachOnce (ns : List Text) : (eachOnce ns).Nodup :=
  (pairwise_eachOnce ns).imp fun {m n} h => by
    rintro rfl
    exact Nat.lt_irrefl _ h

end Concordance.Text
