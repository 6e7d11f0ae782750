import Concordance.Proofs.Text.Words

/-!
# Lower case is stable

A text in lower case is left alone by lower-casing.  One character may become two, and a capital
sigma takes one of two forms, but whatever a character becomes, it is a character that is its own
lower-case form.

* `CaseRun.find?_of_avoids`: a stretch of numbers that no run holds.  `lowerRuns_avoid` checks this
  for the targets of all runs of the table, run by run and not number by number.
* `IsLower` is a character that is its own lower-case form; by `isLower_of_mem_lower` a text in
  lower case is made of such characters, and by `lower_of_isLower` it is its own lower-case form.
* `lower_append_blanks` and `lower_blanks_append`: blanks around a text matter to none of its
  characters, not even to a sigma at its end.
-/

namespace Concordance.Text

variable {c d : Char} {t : Text}

/-! ## The table -/

namespace CaseRun

/-- Whether none of the numbers `first, first + step, …` up to `last` is in one of the runs, as far
as a comparison of bounds and of parities tells. -/
def avoids (first last step : Nat) : List CaseRun → Bool
  | [] => true
  | r :: rs => last.blt r.first ||
      ((r.last.blt first || (r.step == 2 && (first == last || step == 2) &&
        (first + r.first) % 2 == 1)) &&
        avoids first last step rs)

theorem find?_of_avoids {first last step n : Nat} {rs : List CaseRun}
    (h : avoids first last step rs = true) (hfirst : first ≤ n) (hlast : n ≤ last)
    (hstep : (n - first) % step = 0) : find? rs n = none := by
  induction rs with
  | nil => rfl
  | cons r rs ih =>
    rw [find?]
    rw [avoids, Bool.or_eq_true, Nat.blt_eq, Bool.and_eq_true] at h
    rcases h with h | ⟨h, hrest⟩
    · rw [if_pos (by omega)]
    · by_cases hbelow : n < r.first
      · rw [if_pos hbelow]
      · rw [if_neg hbelow, ih hrest]
        by_cases hin : n ≤ r.last
        · rw [if_pos hin, if_neg]
          -- The run is not behind its end, so it is told from the numbers by the parity.
          simp only [Bool.or_eq_true, Nat.blt_eq, Bool.and_eq_true, beq_iff_eq] at h
          rcases h with h | ⟨⟨htwo, hstep'⟩, hparity⟩
          · omega
          · rcases hstep' with rfl | rfl <;> rw [htwo] <;> omega
        · rw [if_neg hin]

theorem of_find? {rs : List CaseRun} {n m : Nat} (h : find? rs n = some m) :
    ∃ r ∈ rs, n ≤ r.last ∧ (n - r.first) % r.step = 0 ∧ m = r.target + (n - r.first) := by
  induction rs with
  | nil => cases h
  | cons r rs ih =>
    have hrest : find? rs n = some m →
        ∃ r' ∈ r :: rs, n ≤ r'.last ∧ (n - r'.first) % r'.step = 0 ∧
          m = r'.target + (n - r'.first) := by
      intro hrs
      obtain ⟨r', hr', hfound⟩ := ih hrs
      exact ⟨r', List.mem_cons_of_mem r hr', hfound⟩
    rw [find?] at h
    split at h
    · cases h
    · split at h
      · rename_i hlast
        split at h
        · rename_i hstep
          exact ⟨r, List.mem_cons_self, hlast, hstep, (Option.some.inj h).symm⟩
        · exact hrest h
      · exact hrest h

end CaseRun

/-- The targets of the table are no capitals: none is in a run, and none is one of those the table
leaves out. -/
theorem lowerRuns_avoid : (lowerRuns.all fun r =>
    CaseRun.avoids r.target (r.target + (r.last - r.first)) r.step lowerRuns &&
      Nat.blt 90 r.target &&
      (Nat.blt (r.target + (r.last - r.first)) 0x130 || Nat.blt 0x130 r.target)) = true := by
  decide +kernel

/-- What the table gives is in none of its runs. -/
theorem find?_of_find? {n m : Nat} (h : CaseRun.find? lowerRuns n = some m) :
    CaseRun.find? lowerRuns m = none ∧ 90 < m ∧ m ≠ 0x130 := by
  obtain ⟨r, hr, hlast, hstep, rfl⟩ := CaseRun.of_find? h
  have hall := List.all_eq_true.1 lowerRuns_avoid r hr
  simp only [Bool.and_eq_true, Bool.or_eq_true, Nat.blt_eq] at hall
  obtain ⟨⟨havoids, hlow⟩, haround⟩ := hall
  refine ⟨CaseRun.find?_of_avoids havoids (by omega) (by omega) ?_, by omega, by omega⟩
  rwa [Nat.add_sub_cancel_left]

/-! ## Characters -/

/-- A character that is its own lower-case form. -/
def IsLower (c : Char) : Prop := lowerChar c = [c]

instance (c : Char) : Decidable (IsLower c) := inferInstanceAs (Decidable (lowerChar c = [c]))

theorem IsLower.ne_sigma (h : IsLower c) : c ≠ 'Σ' := by
  rintro rfl
  exact absurd h (by decide +kernel)

theorem toLower_ascii : ∀ n, n < 128 → (Char.ofNat n).toLower.toNat < 128 ∧
    (Char.ofNat n).toLower.toLower = (Char.ofNat n).toLower ∧
    (90 < n → (Char.ofNat n).toLower = Char.ofNat n) := by
  decide

theorem isLower_ofNat {m : Nat} (hfind : CaseRun.find? lowerRuns m = none) (hlow : 90 < m)
    (hne : m ≠ 0x130) : IsLower (Char.ofNat m) := by
  by_cases hvalid : m.isValidChar
  · have hcode : (Char.ofNat m).toNat = m := by
      rw [Char.ofNat, dif_pos hvalid]
      rfl
    rw [IsLower, lowerChar, hcode]
    by_cases hascii : m < 128
    · rw [if_pos hascii, (toLower_ascii m hascii).2.2 hlow]
    · rw [if_neg hascii, if_neg hne, hfind]
  · have hzero : Char.ofNat m = '\x00' := by
      rw [Char.ofNat, dif_neg hvalid]
      rfl
    rw [hzero]
    decide

/-- Whatever a character becomes is its own lower-case form. -/
theorem isLower_of_mem_lowerChar (h : d ∈ lowerChar c) : IsLower d := by
  rw [lowerChar] at h
  split at h
  · rename_i hascii
    obtain ⟨hlt, hidem, -⟩ := toLower_ascii c.toNat hascii
    rw [Char.ofNat_toNat] at hlt hidem
    obtain rfl := List.mem_singleton.1 h
    rw [IsLower, lowerChar, if_pos hlt, hidem]
  · rename_i hascii
    split at h
    · have hmark : IsLower '\u0307' := by decide +kernel
      rcases List.mem_cons.1 h with rfl | h
      · decide
      · exact List.mem_singleton.1 h ▸ hmark
    · rename_i hdot
      split at h
      · rename_i m hfind
        obtain rfl := List.mem_singleton.1 h
        obtain ⟨hnone, hlow, hne⟩ := find?_of_find? hfind
        exact isLower_ofNat hnone hlow hne
      · rename_i hfind
        obtain rfl := List.mem_singleton.1 h
        rw [IsLower, lowerChar, if_neg hascii, if_neg hdot, hfind]

/-! ## Texts -/

/-- Either form of a sigma is in lower case, too. -/
theorem isLower_of_mem_lowerFrom {cased : Bool} (h : d ∈ lowerFrom cased t) : IsLower d := by
  have hfinal : IsLower 'ς' := by decide +kernel
  have hsigma : IsLower 'σ' := by decide +kernel
  induction t generalizing cased with
  | nil => cases h
  | cons c t ih =>
    rw [lowerFrom] at h
    rcases List.mem_append.1 h with h | h
    · split at h
      · split at h
        · exact List.mem_singleton.1 h ▸ hfinal
        · exact List.mem_singleton.1 h ▸ hsigma
      · exact isLower_of_mem_lowerChar h
    · exact ih h

theorem isLower_of_mem_lower (h : d ∈ lower t) : IsLower d :=
  isLower_of_mem_lowerFrom h

theorem lowerFrom_of_isLower (cased : Bool) (h : ∀ c ∈ t, IsLower c) : lowerFrom cased t = t := by
  induction t generalizing cased with
  | nil => rfl
  | cons c t ih =>
    have hc : IsLower c := h c List.mem_cons_self
    rw [lowerFrom, if_neg hc.ne_sigma, hc, ih _ fun d hd => h d (List.mem_cons_of_mem _ hd),
      List.singleton_append]

/-- A text in lower case is left alone. -/
theorem lower_of_isLower (h : ∀ c ∈ t, IsLower c) : lower t = t :=
  lowerFrom_of_isLower false h

/-! ## Blanks around a text -/

/-- A blank has no case, and the search for the neighbour of a sigma ends at it. -/
theorem caseless_of_isBlank (h : isBlank c = true) :
    isCaseIgnorable c = false ∧ isCased c = false ∧ IsLower c := by
  have hlow : ∀ n, n ≤ 32 → isCaseIgnorable (Char.ofNat n) = false ∧
      isCased (Char.ofNat n) = false ∧
      IsLower (Char.ofNat n) := by decide +kernel
  have hhigh : ∀ n ∈ [0x85, 0xA0, 0x1680, 0x2000, 0x2001, 0x2002, 0x2003, 0x2004,
      0x2005, 0x2006, 0x2007, 0x2008, 0x2009, 0x200A, 0x2028, 0x2029, 0x202F, 0x205F, 0x3000],
      isCaseIgnorable (Char.ofNat n) = false ∧
      isCased (Char.ofNat n) = false ∧ IsLower (Char.ofNat n) := by decide +kernel
  rw [← Char.ofNat_toNat c]
  rcases toNat_of_isBlank h with hle | hmem
  · exact hlow _ hle
  · exact hhigh _ hmem

theorem meetsCased_append_blanks {s : Text} (hs : ∀ c ∈ s, isBlank c = true) (t : Text) :
    meetsCased (t ++ s) = meetsCased t := by
  induction t with
  | nil =>
    cases s with
    | nil => rfl
    | cons c s =>
      obtain ⟨hignorable, hcased, -⟩ := caseless_of_isBlank (hs c List.mem_cons_self)
      have hstop : meetsCased (c :: s) = false := by
        rw [meetsCased, hignorable, hcased]
        rfl
      exact hstop
  | cons c t ih => rw [List.cons_append, meetsCased, meetsCased, ih]

theorem lowerFrom_append_blanks {s : Text} (hs : ∀ c ∈ s, isBlank c = true)
    (cased : Bool) (t : Text) :
    lowerFrom cased (t ++ s) = lowerFrom cased t ++ s := by
  induction t generalizing cased with
  | nil => exact lowerFrom_of_isLower cased fun c hc => (caseless_of_isBlank (hs c hc)).2.2
  | cons c t ih => rw [List.cons_append, lowerFrom, lowerFrom, ih, meetsCased_append_blanks hs,
      List.append_assoc]

/-- Blanks behind a text do not matter to the form of a sigma in it. -/
theorem lower_append_blanks {s : Text} (hs : ∀ c ∈ s, isBlank c = true) (t : Text) :
    lower (t ++ s) = lower t ++ s :=
  lowerFrom_append_blanks hs false t

theorem lower_blanks_append {s : Text} (hs : ∀ c ∈ s, isBlank c = true) (t : Text) :
    lower (s ++ t) = s ++ lower t := by
  induction s with
  | nil => rfl
  | cons c s ih =>
    obtain ⟨hignorable, hcased, hlower⟩ := caseless_of_isBlank (hs c List.mem_cons_self)
    have hrest : lowerFrom false (s ++ t) = s ++ lowerFrom false t :=
      ih fun d hd => hs d (List.mem_cons_of_mem _ hd)
    rw [lower, List.cons_append, lowerFrom, if_neg hlower.ne_sigma, hlower, hignorable, hcased,
      if_neg (by decide), hrest]
    rfl

/-- A text is what is left of it when it is trimmed, and blanks. -/
theorem exists_blanks_around (t : Text) : ∃ before behind : Text, t = before ++ trim t ++ behind ∧
    (∀ c ∈ before, isBlank c = true) ∧ ∀ c ∈ behind, isBlank c = true := by
  refine ⟨t.takeWhile isBlank, ((t.dropWhile isBlank).reverse.takeWhile isBlank).reverse,
    ?_, ?_, ?_⟩
  · have htail : t.dropWhile isBlank =
        trim t ++ ((t.dropWhile isBlank).reverse.takeWhile isBlank).reverse := by
      rw [trim, trimBy, dropTailWhile, ← List.reverse_append, List.takeWhile_append_dropWhile,
        List.reverse_reverse]
    rw [List.append_assoc, ← htail, List.takeWhile_append_dropWhile]
  · exact List.all_eq_true.1 List.all_takeWhile
  · intro c hc
    exact List.all_eq_true.1 List.all_takeWhile c (List.mem_reverse.1 hc)

/-- Trimming before or after lower-casing makes no difference to what is between the blanks. -/
theorem exists_blanks_around_lower (t : Text) :
    ∃ before behind : Text, lower t = before ++ lower (trim t) ++ behind ∧
    (∀ c ∈ before, isBlank c = true) ∧ ∀ c ∈ behind, isBlank c = true := by
  obtain ⟨before, behind, ht, hbefore, hbehind⟩ := exists_blanks_around t
  refine ⟨before, behind, ?_, hbefore, hbehind⟩
  rw [← lower_blanks_append hbefore, ← lower_append_blanks hbehind, ← ht]

end Concordance.Text
