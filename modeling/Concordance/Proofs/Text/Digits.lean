import Concordance.Proofs.Text.Words
import Concordance.Text.Integer
import Mathlib.Algebra.Group.Nat.Defs

/-!
# Decimal digits

What the digits of a number are read as, and which characters they are made of.  A number without
too many digits is read back from them.
-/

namespace Concordance.Text

theorem ofDigits_toDigits (n : Nat) : ofDigits (Nat.toDigits 10 n) = n := by
  have h : ofDigits (Nat.toDigits 10 n) = Nat.ofDigitChars 10 (Nat.toDigits 10 n) 0 := by
    rw [Nat.ofDigitChars_eq_foldl]
    rfl
  rw [h, Nat.ofDigitChars_ten_toDigits]

theorem isDigit_of_mem_toDigits {n : Nat} {c : Char} (h : c ∈ Nat.toDigits 10 n) :
    c.isDigit = true :=
  Nat.isDigit_of_mem_toDigits (by decide) (by decide) h

theorem ofInt_natCast (n : Nat) : ofInt n = Nat.toDigits 10 n := rfl

theorem not_mem_ofInt {c : Char} (hc : c.isDigit = false) (n : Nat) : c ∉ ofInt n := by
  intro h
  rw [ofInt_natCast] at h
  rw [isDigit_of_mem_toDigits h] at hc
  exact absurd hc (by decide)

theorem ofDigits_ofInt {n : Int} (h : 0 ≤ n) : (ofDigits (ofInt n) : Int) = n := by
  obtain ⟨m, rfl⟩ := Int.eq_ofNat_of_zero_le h
  rw [ofInt_natCast, ofDigits_toDigits]

/-- A digit stands for itself in an integer. -/
theorem integerChar_of_isDigit {c : Char} (h : c.isDigit = true) : integerChar c = c := by
  have hlt : c.toNat < 128 := toNat_lt_of_isAlphanum (by rw [Char.isAlphanum, h, Bool.or_true])
  have hcode : ∀ n < 128, (Char.ofNat n).isDigit = true → n < 127 := by decide
  rw [integerChar, if_pos (hcode c.toNat hlt (by rwa [Char.ofNat_toNat]))]

theorem isIntegerBlank_of_isDigit {c : Char} (h : c.isDigit = true) :
    isIntegerBlank c = false := by
  have hlt : c.toNat < 128 := toNat_lt_of_isAlphanum (by rw [Char.isAlphanum, h, Bool.or_true])
  have hcode : ∀ n < 128, (Char.ofNat n).isDigit = true →
      isIntegerBlank (Char.ofNat n) = false := by
    decide
  have hblank := hcode c.toNat hlt
  rw [Char.ofNat_toNat] at hblank
  exact hblank h

/-- A number is read back from its digits, unless there are too many. -/
theorem readInteger_ofInt_eq (n : Nat) : readInteger (ofInt n) =
    if maxDigits < (ofInt n).length then .error (.tooLong (ofInt n).length) else .ok n := by
  have hdigits : ∀ c ∈ ofInt n, c.isDigit = true := fun c hc => isDigit_of_mem_toDigits hc
  have hmap : (ofInt n).map integerChar = ofInt n := by
    rw [List.map_congr_left fun c hc => integerChar_of_isDigit (hdigits c hc)]
    exact List.map_id _
  have hhead : ∀ c ∈ (ofInt n).head?, isIntegerBlank c = false := fun c hc =>
    isIntegerBlank_of_isDigit (hdigits c (List.mem_of_mem_head? hc))
  have hsign : ∀ d, d.isDigit = false → (ofInt n).head? ≠ some d := by
    intro d hd heq
    rw [hdigits d (List.mem_of_mem_head? heq)] at hd
    exact absurd hd (by decide)
  have hrun : (ofInt n).takeWhile (fun c => c.isDigit || c == '_') = ofInt n := by
    have htake := takeWhile_append_of_head (fun c hc => by rw [hdigits c hc, Bool.true_or])
      (show ∀ c ∈ ([] : Text).head?, (c.isDigit || c == '_') = false by simp)
    rwa [List.append_nil] at htake
  have hgroups : splitOn '_' (ofInt n) = [ofInt n] :=
    splitOn_of_not_mem (not_mem_ofInt (by decide) n)
  have hne : ofInt n ≠ [] := Nat.toDigits_ne_nil
  have hvalue : ofDigits (ofInt n) = n := by rw [ofInt_natCast, ofDigits_toDigits]
  rw [readInteger]
  simp only [hmap, dropWhile_of_head hhead, hsign '-' (by decide), hsign '+' (by decide),
    decide_false, Bool.or_self, Bool.false_eq_true, if_false, hrun, hgroups]
  simp [hne, hvalue]

theorem readInteger_ofInt {n : Nat} (h : n < 10 ^ maxDigits) : readInteger (ofInt n) = .ok n := by
  have hlength : ¬ maxDigits < (ofInt n).length :=
    Nat.not_lt.2 ((Nat.length_toDigits_le_iff (by decide) (by decide)).2 h)
  rw [readInteger_ofInt_eq, if_neg hlength]

theorem eq_of_readInteger_ofInt {n : Nat} {m : Int} (h : readInteger (ofInt n) = .ok m) :
    m = n := by
  rw [readInteger_ofInt_eq] at h
  split at h
  · cases h
  · exact (Except.ok.inj h).symm

end Concordance.Text
