import Concordance.Proofs.Text.Pieces

/-!
# Replacing a text by another

Every occurrence of a text is replaced, from left to right, and what is put in is not searched
again.

* `replaceAll_append_self` and `replaceAll_cons_of_absent` say what happens at the front of a text.
* `replaceAll_unlines`: a text without line feeds is replaced line by line.
* `normalizeBreaks_eq_replaceAll`: every line break becomes a line feed by two replacements.
-/

namespace Concordance.Text

/-! ## Replacement -/

/-- Drop `skip` characters, and replace the occurrences of `p` by `r` behind them. -/
def replaceFrom (p r : Text) : Nat → Text → Text
  | _, [] => []
  | skip + 1, _ :: t => replaceFrom p r skip t
  | 0, c :: t =>
    if startsWith p (c :: t) then r ++ replaceFrom p r (p.length - 1) t
    else c :: replaceFrom p r 0 t

/-- Replace the occurrences of `p` by `r`, from left to right; what is put in is not searched. -/
def replaceAll (p r t : Text) : Text := replaceFrom p r 0 t

/-- Remove the occurrences of `p`, from left to right. -/
def removeAll (p t : Text) : Text := replaceAll p [] t

variable {p r t : Text} {c : Char}

theorem replaceFrom_eq (p r : Text) (skip : Nat) (t : Text) :
    replaceFrom p r skip t = replaceAll p r (t.drop skip) := by
  induction t generalizing skip with
  | nil => cases skip <;> rfl
  | cons c t ih =>
    cases skip with
    | zero => rfl
    | succ skip => rw [replaceFrom, ih, List.drop_succ_cons]

theorem replaceAll_cons_of_absent (h : ¬ p <+: c :: t) :
    replaceAll p r (c :: t) = c :: replaceAll p r t := by
  rw [replaceAll, replaceFrom, if_neg fun hstart => h (startsWith_iff.1 hstart), replaceAll]

theorem replaceAll_append_self (hp : p ≠ []) (r t : Text) :
    replaceAll p r (p ++ t) = r ++ replaceAll p r t := by
  obtain ⟨c, q, rfl⟩ := List.exists_cons_of_ne_nil hp
  have hstart : startsWith (c :: q) (c :: (q ++ t)) = true :=
    startsWith_iff.2 (List.prefix_append (c :: q) t)
  rw [List.cons_append, replaceAll, replaceFrom, if_pos hstart, replaceFrom_eq, List.length_cons,
    Nat.add_sub_cancel, List.drop_left]

theorem replaceAll_of_absent (h : ¬ p <:+: t) (r : Text) : replaceAll p r t = t := by
  induction t with
  | nil => rfl
  | cons c t ih =>
    rw [List.infix_cons_iff, not_or] at h
    rw [replaceAll_cons_of_absent h.1, ih h.2]

/-! ## Line by line -/

/-- What begins a text with a line feed and holds none begins what stands before the line feed. -/
theorem prefix_of_prefix_append_feed {l : Text} (hp : '\n' ∉ p) (h : p <+: l ++ '\n' :: t) :
    p <+: l := by
  refine List.prefix_of_prefix_length_le h (List.prefix_append l _) (Nat.not_lt.1 fun hlt => hp ?_)
  have hfeed : l ++ ['\n'] <+: p :=
    List.prefix_of_prefix_length_le (by simp) h (by simpa using Nat.succ_le_of_lt hlt)
  exact hfeed.subset (by simp)

theorem replaceAll_append_feed (hne : p ≠ []) (hp : '\n' ∉ p) (r l t : Text) :
    replaceAll p r (l ++ '\n' :: t) = replaceAll p r l ++ '\n' :: replaceAll p r t := by
  -- An occurrence takes away several characters at once, so the induction is on the length.
  induction hlength : l.length using Nat.strongRecOn generalizing l with
  | ind n ih =>
    cases l with
    | nil =>
      refine replaceAll_cons_of_absent fun h => ?_
      exact hne (List.prefix_nil.1 (prefix_of_prefix_append_feed (l := []) hp h))
    | cons c l =>
      by_cases hpre : p <+: c :: l
      · obtain ⟨l', hl'⟩ := hpre
        have hlt : l'.length < n := by
          have hpos := List.length_pos_iff.2 hne
          have hsum := congrArg List.length hl'
          rw [List.length_append] at hsum
          omega
        rw [← hl', List.append_assoc, replaceAll_append_self hne, ih l'.length hlt l' rfl,
          replaceAll_append_self hne, List.append_assoc]
      · have hpre' : ¬ p <+: c :: (l ++ '\n' :: t) := fun h =>
          hpre (prefix_of_prefix_append_feed hp (by simpa using h))
        rw [List.cons_append, replaceAll_cons_of_absent hpre', replaceAll_cons_of_absent hpre,
          ih l.length (by rw [← hlength, List.length_cons]; omega) l rfl, List.cons_append]

theorem unlines_cons (l : Text) {ls : List Text} (h : ls ≠ []) :
    unlines (l :: ls) = l ++ '\n' :: unlines ls := by
  obtain ⟨m, ms, rfl⟩ := List.exists_cons_of_ne_nil h
  rw [unlines, joinWith_cons_cons, List.append_assoc, List.singleton_append, unlines]

/-- A text without line feeds is replaced line by line. -/
theorem replaceAll_unlines (hne : p ≠ []) (hp : '\n' ∉ p) (r : Text) (ls : List Text) :
    replaceAll p r (unlines ls) = unlines (ls.map (replaceAll p r)) := by
  induction ls with
  | nil => rfl
  | cons l ls ih =>
    cases ls with
    | nil => rfl
    | cons m ms =>
      rw [unlines_cons l (List.cons_ne_nil m ms), replaceAll_append_feed hne hp, ih]
      exact (unlines_cons _ (List.cons_ne_nil _ _)).symm

/-! ## Line breaks -/

theorem unlines_consFirst (c : Char) {ls : List Text} (h : ls ≠ []) :
    unlines (consFirst c ls) = c :: unlines ls := by
  obtain ⟨l, ls, rfl⟩ := List.exists_cons_of_ne_nil h
  cases ls <;> rfl

/-- Every line break becomes a line feed, those of two characters first. -/
theorem normalizeBreaks_eq_replaceAll (t : Text) :
    normalizeBreaks t = replaceAll ['\r'] ['\n'] (replaceAll ['\r', '\n'] ['\n'] t) := by
  rw [normalizeBreaks]
  fun_induction lines t with
  | case1 => rfl
  | case2 t ih =>
    rw [unlines_cons _ (lines_ne_nil t), ih]
    exact (replaceAll_cons_of_absent (by simp [List.cons_prefix_cons])).symm
  | case3 c t hpair hc ih =>
    have hfirst : ¬ ['\r', '\n'] <+: c :: t := by
      rintro ⟨s, hs⟩
      obtain ⟨rfl, rfl⟩ := List.cons.inj hs
      exact hpair _ rfl rfl
    rw [unlines_cons _ (lines_ne_nil t), ih, replaceAll_cons_of_absent hfirst]
    rcases hc with rfl | rfl
    · exact (replaceAll_append_self (List.cons_ne_nil '\r' []) ['\n'] _).symm
    · exact (replaceAll_cons_of_absent (by simp [List.cons_prefix_cons])).symm
  | case4 c t hpair hc ih =>
    have hcr : '\r' ≠ c := fun h => hc (Or.inl h.symm)
    rw [unlines_consFirst c (lines_ne_nil t), ih,
      replaceAll_cons_of_absent (by simp [List.cons_prefix_cons, hcr]),
      replaceAll_cons_of_absent (by simp [List.cons_prefix_cons, hcr])]

/-! ## Lines as parts of a text -/

/-- A text is a part of one that begins with the first of the texts and has the others as parts. -/
theorem infix_of_mem_of_cons {ls : List Text}
    (h : ∀ l rest, ls = l :: rest → l <+: t ∧ ∀ m ∈ rest, m <:+: t) {k : Text} (hk : k ∈ ls) :
    k <:+: t := by
  obtain ⟨l, rest, rfl⟩ := List.exists_cons_of_ne_nil (List.ne_nil_of_mem hk)
  obtain ⟨hfirst, hrest⟩ := h l rest rfl
  rcases List.mem_cons.1 hk with rfl | hk
  · exact hfirst.isInfix
  · exact hrest k hk

/-- The first line begins the text, and every line is a part of it. -/
theorem prefix_and_infix_of_lines {l : Text} {ls : List Text} (h : lines t = l :: ls) :
    l <+: t ∧ ∀ m ∈ ls, m <:+: t := by
  fun_induction lines t generalizing l ls with
  | case1 =>
    obtain ⟨rfl, rfl⟩ := List.cons.inj h
    exact ⟨List.nil_prefix, by simp⟩
  | case2 t ih =>
    obtain ⟨rfl, rfl⟩ := List.cons.inj h
    exact ⟨List.nil_prefix, fun k hk =>
      List.infix_cons (List.infix_cons (infix_of_mem_of_cons (fun _ _ => ih) hk))⟩
  | case3 c t _ _ ih =>
    obtain ⟨rfl, rfl⟩ := List.cons.inj h
    exact ⟨List.nil_prefix, fun k hk => List.infix_cons (infix_of_mem_of_cons (fun _ _ => ih) hk)⟩
  | case4 c t _ _ ih =>
    obtain ⟨m, ms, hm⟩ := List.exists_cons_of_ne_nil (lines_ne_nil t)
    rw [hm, consFirst] at h
    obtain ⟨rfl, rfl⟩ := List.cons.inj h
    exact ⟨List.cons_prefix_cons.2 ⟨rfl, (ih hm).1⟩, fun k hk => List.infix_cons ((ih hm).2 k hk)⟩

theorem infix_of_mem_lines {l : Text} (h : l ∈ lines t) : l <:+: t :=
  infix_of_mem_of_cons (fun _ _ => prefix_and_infix_of_lines) h

end Concordance.Text
