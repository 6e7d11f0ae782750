import Concordance.Proofs.Text.Digits

/-!
# What fits on one line

Texts that hold no line break because of how they are made: from characters of one kind, from
pieces that are lines, or as a part of a line.

* `isLine_of_all`: no line break is of the kind.
* `isLine_joinWith`: pieces that are lines, joined by a line.
* `Path.isLine_normalize` and `isLine_anchor`: what is made from the path of a document.
-/

namespace Concordance.Text

variable {t : Text}

instance (t : Text) : Decidable (IsLine t) := inferInstanceAs (Decidable ('\r' ∉ t ∧ '\n' ∉ t))

/-! ## Characters of one kind -/

theorem isLine_of_all {p : Char → Bool} (hr : p '\r' = false) (hn : p '\n' = false)
    (h : ∀ c ∈ t, p c = true) : IsLine t := by
  constructor
  · intro hc
    rw [h _ hc] at hr
    cases hr
  · intro hc
    rw [h _ hc] at hn
    cases hn

theorem isLine_of_mem_runs {p : Char → Bool} (hr : p '\r' = false) (hn : p '\n' = false) {w : Text}
    (h : w ∈ runs p t) : IsLine w :=
  isLine_of_all hr hn (mem_runs h)

theorem isLine_ofInt (n : Int) : IsLine (ofInt n) := by
  have hdigits : ∀ n : Nat, IsLine (Nat.toDigits 10 n) := fun n =>
    isLine_of_all (p := Char.isDigit) rfl rfl fun _ hc => isDigit_of_mem_toDigits hc
  cases n with
  | ofNat n => exact hdigits n
  | negSucc n => exact isLine_cons.2 ⟨by decide, hdigits (n + 1)⟩

/-! ## Pieces -/

theorem isLine_joinWith {sep : Text} {ps : List Text} (hsep : IsLine sep)
    (h : ∀ p ∈ ps, IsLine p) : IsLine (joinWith sep ps) := by
  refine isLine_of_subset fun c hc => ?_
  rcases mem_joinWith hc with hc | ⟨p, hp, hc⟩
  · exact ⟨sep, hsep, hc⟩
  · exact ⟨p, h p hp, hc⟩

theorem isLine_of_mem_splitOn {sep : Char} {p : Text} (ht : IsLine t)
    (hp : p ∈ splitOn sep t) : IsLine p :=
  isLine_of_subset fun _ hc => ⟨t, ht, mem_of_mem_splitOn hp hc⟩

/-- The words of a text, whatever stands between them, fit on one line. -/
theorem isLine_joinWith_words (t : Text) : IsLine (joinWith [' '] (words t)) :=
  isLine_joinWith (by decide) fun _ hw => isLine_of_mem_runs (by decide) (by decide) hw

end Concordance.Text

namespace Concordance

open Text

variable {p : Text}

/-! ## Paths -/

namespace Path

theorem isLine_of_mem_components {s : Text} (hp : IsLine p) (hs : s ∈ components p) : IsLine s :=
  isLine_of_mem_splitOn hp (List.mem_filter.1 hs).1

theorem isLine_name (hp : IsLine p) : IsLine (name p) := by
  rw [name]
  cases h : (components p).getLast? with
  | none => decide
  | some s => exact isLine_of_mem_components hp (List.mem_of_getLast? h)

theorem isLine_root (p : Text) : IsLine (root p) := by
  rw [root.eq_def]
  split <;> decide

theorem isLine_normalize (hp : IsLine p) : IsLine (normalize p) := by
  have hslash : IsLine ['/'] := by decide
  rw [normalize]
  split
  · decide
  · exact isLine_append.2 ⟨isLine_root p,
      isLine_joinWith hslash fun _ hs => isLine_of_mem_components hp hs⟩

end Path

/-! ## Anchors -/

theorem isLine_slug (title : Text) : IsLine (slug title) :=
  isLine_joinWith (by decide) fun _ hw => isLine_of_mem_runs (by decide) (by decide) hw

theorem isLine_anchor (title : Text) {file : Text} (hfile : IsLine file) :
    IsLine (anchor title file) := by
  have hsign : IsLine ['#'] := by decide
  exact isLine_append.2 ⟨isLine_append.2 ⟨hfile, hsign⟩, isLine_slug title⟩

end Concordance
