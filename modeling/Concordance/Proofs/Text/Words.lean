import Concordance.Proofs.Text.Runs
import Concordance.Section

/-!
# Words, titles and slugs

What letters and digits of every script have in common, and what follows for texts that are made of
them.

* `ne_of_isAlphanumeric` and `isBlank_of_isAlphanumeric` tell them from signs and from blanks.
* `IsTitle` is a text of such words with single spaces between them; trimming leaves it alone.
* `mem_slug`: a slug holds letters, digits and hyphens only.
-/

namespace Concordance.Text

/-! ## Letters and digits -/

theorem ne_of_isAlphanumeric {c d : Char} (hc : isAlphanumeric c = true)
    (hd : isAlphanumeric d = false) : c ≠ d := by
  rintro rfl
  rw [hc] at hd
  exact absurd hd (by decide)

theorem toNat_lt_of_isAlphanum {c : Char} (h : c.isAlphanum = true) : c.toNat < 128 := by
  have hbelow {m : UInt32} (h : c.val ≤ m) (hm : m.toNat < 128) : c.toNat < 128 :=
    Nat.lt_of_le_of_lt (UInt32.le_iff_toNat_le.1 h) hm
  rcases Bool.or_eq_true_iff.1 h with h | hdigit
  · rcases Bool.or_eq_true_iff.1 h with hupper | hlower
    · exact hbelow (of_decide_eq_true hupper).2 (by decide)
    · exact hbelow (of_decide_eq_true (Bool.and_eq_true_iff.1 hlower).2) (by decide)
  · exact hbelow (of_decide_eq_true (Bool.and_eq_true_iff.1 hdigit).2) (by decide)

theorem isAlphanumeric_of_isAlphanum {c : Char} (h : c.isAlphanum = true) :
    isAlphanumeric c = true := by
  rw [isAlphanumeric, if_pos (toNat_lt_of_isAlphanum h), h]

theorem isAlphanum_of_isAlphanumeric {c : Char} (h : isAlphanumeric c = true)
    (hlt : c.toNat < 128) : c.isAlphanum = true := by
  rwa [isAlphanumeric, if_pos hlt] at h

/-- The blanks by their codes. -/
theorem toNat_of_isBlank {c : Char} (h : isBlank c = true) :
    c.toNat ≤ 32 ∨ c.toNat ∈ [0x85, 0xA0, 0x1680, 0x2000, 0x2001, 0x2002, 0x2003, 0x2004, 0x2005,
      0x2006, 0x2007, 0x2008, 0x2009, 0x200A, 0x2028, 0x2029, 0x202F, 0x205F, 0x3000] := by
  simp only [isBlank, Bool.or_eq_true, Bool.and_eq_true, decide_eq_true_eq, beq_iff_eq] at h
  simp only [List.mem_cons, List.not_mem_nil, or_false]
  omega

/-- No letter or digit is a blank. -/
theorem isBlank_of_isAlphanumeric {c : Char} (h : isAlphanumeric c = true) :
    isBlank c = false := by
  refine Bool.eq_false_iff.2 fun hb => ?_
  rcases toNat_of_isBlank hb with hle | hmem
  · have hlow : ∀ n, n ≤ 32 → (Char.ofNat n).isAlphanum = false := by decide
    have hc := hlow c.toNat hle
    rw [Char.ofNat_toNat, isAlphanum_of_isAlphanumeric h (by omega)] at hc
    exact absurd hc (by decide)
  · have hhigh : ∀ n ∈ [0x85, 0xA0, 0x1680, 0x2000, 0x2001, 0x2002, 0x2003, 0x2004, 0x2005, 0x2006,
        0x2007, 0x2008, 0x2009, 0x200A, 0x2028, 0x2029, 0x202F, 0x205F, 0x3000],
        128 ≤ n ∧ inRanges alphanumericRanges n = false := by decide +kernel
    obtain ⟨hge, hout⟩ := hhigh c.toNat hmem
    rw [isAlphanumeric, if_neg (by omega), hout] at h
    exact absurd h (by decide)

/-! ## Trimming -/

theorem trim_of_ends {t : Text} (hhead : ∀ c ∈ t.head?, isBlank c = false)
    (hlast : ∀ c ∈ t.getLast?, isBlank c = false) : trim t = t := by
  rw [trim, trimBy, dropWhile_of_head hhead, dropTailWhile,
    dropWhile_of_head (by simpa using hlast), List.reverse_reverse]

theorem trim_of_forall {t : Text} (h : ∀ c ∈ t, isBlank c = false) : trim t = t :=
  trim_of_ends (fun c hc => h c (List.mem_of_mem_head? hc))
    (fun c hc => h c (List.mem_of_mem_getLast? hc))

theorem mem_of_mem_dropTailWhile {p : Char → Bool} {t : Text} {c : Char}
    (h : c ∈ dropTailWhile p t) : c ∈ t :=
  List.mem_reverse.1 ((List.dropWhile_sublist p).subset (List.mem_reverse.1 h))

theorem mem_of_mem_trim {t : Text} {c : Char} (h : c ∈ trim t) : c ∈ t :=
  (List.dropWhile_sublist _).subset (mem_of_mem_dropTailWhile h)

/-! ## Character by character -/

/-- What is true of all characters of a text, checked one after another. -/
theorem forall_mem_of_all {p : Char → Prop} [DecidablePred p] {t : Text}
    (h : (t.all fun c => decide (p c)) = true) : ∀ c ∈ t, p c :=
  fun c hc => of_decide_eq_true (List.all_eq_true.1 h c hc)

theorem flatMap_eq_self {f : Char → Text} {t : Text} (h : ∀ c ∈ t, f c = [c]) :
    t.flatMap f = t :=
  (List.flatMap_congr h).trans (List.flatMap_singleton' t)

/-! ## Lower case -/

/-- Among the first 128 characters each has one lower-case form of its own. -/
theorem lowerFrom_of_ascii (cased : Bool) {t : Text} (h : ∀ c ∈ t, c.toNat < 128) :
    lowerFrom cased t = t.map Char.toLower := by
  induction t generalizing cased with
  | nil => rfl
  | cons c t ih =>
    have hc : c.toNat < 128 := h c List.mem_cons_self
    have hsigma : c ≠ 'Σ' := by
      rintro rfl
      exact absurd hc (by decide)
    rw [lowerFrom, if_neg hsigma, lowerChar, if_pos hc,
      ih _ fun d hd => h d (List.mem_cons_of_mem _ hd)]
    rfl

theorem lower_of_ascii {t : Text} (h : ∀ c ∈ t, c.toNat < 128) : lower t = t.map Char.toLower :=
  lowerFrom_of_ascii false h

/-! ## Titles -/

/-- Words of letters and digits with single spaces between them. -/
def IsTitle (t : Text) : Prop :=
  ∃ ws, (∀ w ∈ ws, w ≠ [] ∧ ∀ c ∈ w, isAlphanumeric c = true) ∧ t = joinWith [' '] ws

namespace IsTitle

/-- A title from its words. -/
theorem of_all {ws : List Text} (h : (ws.all fun w => !w.isEmpty && w.all isAlphanumeric) = true) :
    IsTitle (joinWith [' '] ws) := by
  refine ⟨ws, fun w hw => ?_, rfl⟩
  have hword := List.all_eq_true.1 h w hw
  rw [Bool.and_eq_true, Bool.not_eq_true', List.isEmpty_eq_false_iff, List.all_eq_true] at hword
  exact hword

theorem isSpaced {t : Text} (h : IsTitle t) : IsSpaced isAlphanumeric ' ' t := h

theorem mem {t : Text} (h : IsTitle t) {c : Char} (hc : c ∈ t) :
    isAlphanumeric c = true ∨ c = ' ' :=
  h.isSpaced.mem hc

/-- A sign that is not a space stands in no title. -/
theorem ne {t : Text} (h : IsTitle t) {c d : Char} (hc : c ∈ t) (hd : isAlphanumeric d = false)
    (hspace : d ≠ ' ') : c ≠ d := by
  rcases h.mem hc with hc | rfl
  · exact ne_of_isAlphanumeric hc hd
  · exact Ne.symm hspace

theorem head {t : Text} (h : IsTitle t) {c : Char} (hc : c ∈ t.head?) : isAlphanumeric c = true :=
  h.isSpaced.head hc

theorem last {t : Text} (h : IsTitle t) {c : Char} (hc : c ∈ t.getLast?) :
    isAlphanumeric c = true :=
  h.isSpaced.last hc

theorem trim_eq {t : Text} (h : IsTitle t) : trim t = t :=
  trim_of_ends (fun _ hc => isBlank_of_isAlphanumeric (h.head hc))
    (fun _ hc => isBlank_of_isAlphanumeric (h.last hc))

end IsTitle

end Concordance.Text

namespace Concordance

open Text

/-- A slug holds letters, digits and hyphens only. -/
theorem mem_slug {t : Text} {c : Char} (h : c ∈ slug t) : isAlphanumeric c = true ∨ c = '-' := by
  rcases mem_joinWith h with h | ⟨w, hw, h⟩
  · exact Or.inr (List.mem_singleton.1 h)
  · exact Or.inl (mem_runs hw c h)

end Concordance
