import Concordance.Text.Basic

/-!
# Pieces and lines of a text

Cutting a text and joining the pieces again.

* `takeWhile_append_of_head` and `dropWhile_append_of_head`: a front ends before the first
  character that does not belong to it.
* `splitOn_joinWith`: pieces without the separator are found again in the text they are joined to.
* `lines_unlines`: so are lines without line breaks, whatever else they hold.
* `replaceChar_idem`: a character whose replacement does not hold it is replaced once and for all.
-/

namespace Concordance.Text

/-! ## Fronts -/

theorem startsWith_iff {p t : Text} : startsWith p t = true ↔ p <+: t := by
  rw [startsWith, List.isPrefixOf_iff_prefix]

theorem dropWhile_of_head {p : Char → Bool} {t : Text} (h : ∀ c ∈ t.head?, p c = false) :
    t.dropWhile p = t := by
  cases t with
  | nil => rfl
  | cons c t => rw [List.dropWhile_cons, if_neg (by simp [h c rfl])]

/-- What is taken ends with a text, if the next character is not taken. -/
theorem takeWhile_append_of_head {p : Char → Bool} {t rest : Text} (h : ∀ c ∈ t, p c = true)
    (hrest : ∀ c ∈ rest.head?, p c = false) : (t ++ rest).takeWhile p = t := by
  rw [List.takeWhile_append_of_pos h]
  cases rest with
  | nil => exact List.append_nil t
  | cons c rest => rw [List.takeWhile_cons, if_neg (by simp [hrest c rfl]), List.append_nil]

theorem dropWhile_append_of_head {p : Char → Bool} {t rest : Text} (h : ∀ c ∈ t, p c = true)
    (hrest : ∀ c ∈ rest.head?, p c = false) : (t ++ rest).dropWhile p = rest := by
  rw [List.dropWhile_append_of_pos h, dropWhile_of_head hrest]

/-! ## Pieces -/

/-- A piece is one of those before, or one with a character put in front of it. -/
theorem mem_of_mem_consFirst {c : Char} {ps : List Text} {p : Text} (hps : ps ≠ [])
    (hp : p ∈ consFirst c ps) : p ∈ ps ∨ ∃ q ∈ ps, p = c :: q := by
  obtain ⟨q, ps, rfl⟩ := List.exists_cons_of_ne_nil hps
  rcases List.mem_cons.1 hp with rfl | hp
  · exact Or.inr ⟨q, List.mem_cons_self, rfl⟩
  · exact Or.inl (List.mem_cons_of_mem _ hp)

theorem splitOn_ne_nil (sep : Char) (t : Text) : splitOn sep t ≠ [] := by
  cases t with
  | nil => simp [splitOn]
  | cons c t =>
    rw [splitOn]
    split
    · simp
    · cases splitOn sep t <;> simp [consFirst]

theorem splitOn_of_not_mem {sep : Char} {p : Text} (h : sep ∉ p) : splitOn sep p = [p] := by
  induction p with
  | nil => rfl
  | cons c p ih =>
    simp only [List.mem_cons, not_or] at h
    rw [splitOn, if_neg (Ne.symm h.1), ih h.2, consFirst]

theorem splitOn_append {sep : Char} {p : Text} (t : Text) (h : sep ∉ p) :
    splitOn sep (p ++ sep :: t) = p :: splitOn sep t := by
  induction p with
  | nil => rw [List.nil_append, splitOn, if_pos rfl]
  | cons c p ih =>
    simp only [List.mem_cons, not_or] at h
    rw [List.cons_append, splitOn, if_neg (Ne.symm h.1), ih h.2, consFirst]

/-- A character of a piece is a character of the text. -/
theorem mem_of_mem_splitOn {sep c : Char} {t p : Text} (hp : p ∈ splitOn sep t) (hc : c ∈ p) :
    c ∈ t := by
  induction t generalizing p with
  | nil =>
    simp only [splitOn, List.mem_singleton] at hp
    simp [hp] at hc
  | cons d t ih =>
    rw [splitOn] at hp
    split at hp
    · rcases List.mem_cons.1 hp with rfl | hp
      · simp at hc
      · exact List.mem_cons_of_mem _ (ih hp hc)
    · rcases mem_of_mem_consFirst (splitOn_ne_nil sep t) hp with hp | ⟨q, hq, rfl⟩
      · exact List.mem_cons_of_mem _ (ih hp hc)
      · rcases List.mem_cons.1 hc with rfl | hc
        · exact List.mem_cons_self
        · exact List.mem_cons_of_mem _ (ih hq hc)

theorem sep_not_mem_splitOn {sep : Char} {t p : Text} (hp : p ∈ splitOn sep t) : sep ∉ p := by
  induction t generalizing p with
  | nil =>
    simp only [splitOn, List.mem_singleton] at hp
    simp [hp]
  | cons d t ih =>
    rw [splitOn] at hp
    split at hp
    · rcases List.mem_cons.1 hp with rfl | hp
      · simp
      · exact ih hp
    · rename_i hd
      rcases mem_of_mem_consFirst (splitOn_ne_nil sep t) hp with hp | ⟨q, hq, rfl⟩
      · exact ih hp
      · simp only [List.mem_cons, not_or]
        exact ⟨Ne.symm hd, ih hq⟩

theorem joinWith_cons_cons (sep p q : Text) (ps : List Text) :
    joinWith sep (p :: q :: ps) = p ++ sep ++ joinWith sep (q :: ps) := rfl

theorem joinWith_consFirst (sep : Text) (c : Char) {ps : List Text} (h : ps ≠ []) :
    joinWith sep (consFirst c ps) = c :: joinWith sep ps := by
  obtain ⟨p, ps, rfl⟩ := List.exists_cons_of_ne_nil h
  cases ps <;> rfl

/-- The pieces of a text make the text. -/
theorem joinWith_splitOn (sep : Char) (t : Text) : joinWith [sep] (splitOn sep t) = t := by
  induction t with
  | nil => rfl
  | cons c t ih =>
    obtain ⟨p, ps, hp⟩ := List.exists_cons_of_ne_nil (splitOn_ne_nil sep t)
    rw [splitOn]
    split
    · rename_i hc
      rw [hp, joinWith_cons_cons, ← hp, ih, hc]
      rfl
    · rw [joinWith_consFirst _ _ (splitOn_ne_nil sep t), ih]

/-- Pieces without the separator are found again. -/
theorem splitOn_joinWith {sep : Char} {ps : List Text} (hne : ps ≠ []) (h : ∀ p ∈ ps, sep ∉ p) :
    splitOn sep (joinWith [sep] ps) = ps := by
  induction ps with
  | nil => exact absurd rfl hne
  | cons p ps ih =>
    have hp : sep ∉ p := h p List.mem_cons_self
    cases ps with
    | nil => exact splitOn_of_not_mem hp
    | cons q qs =>
      have ih := ih (by simp) fun r hr => h r (List.mem_cons_of_mem _ hr)
      rw [joinWith_cons_cons, List.append_assoc, List.singleton_append, splitOn_append _ hp, ih]

/-- An empty last piece adds a separator. -/
theorem joinWith_append_nil (sep : Text) {ps : List Text} (h : ps ≠ []) :
    joinWith sep (ps ++ [[]]) = joinWith sep ps ++ sep := by
  induction ps with
  | nil => exact absurd rfl h
  | cons p ps ih =>
    cases ps with
    | nil => exact List.append_nil (p ++ sep)
    | cons q qs =>
      rw [List.cons_append, List.cons_append, joinWith_cons_cons, joinWith_cons_cons,
        ← List.cons_append, ih (List.cons_ne_nil q qs)]
      exact (List.append_assoc (p ++ sep) _ sep).symm

theorem mem_joinWith {sep : Text} {c : Char} {ps : List Text} (h : c ∈ joinWith sep ps) :
    c ∈ sep ∨ ∃ p ∈ ps, c ∈ p := by
  induction ps with
  | nil => simp [joinWith] at h
  | cons p ps ih =>
    cases ps with
    | nil => exact Or.inr ⟨p, List.mem_cons_self, h⟩
    | cons q qs =>
      rw [joinWith_cons_cons, List.append_assoc, List.mem_append, List.mem_append] at h
      rcases h with h | h | h
      · exact Or.inr ⟨p, List.mem_cons_self, h⟩
      · exact Or.inl h
      · rcases ih h with h | ⟨r, hr, hc⟩
        · exact Or.inl h
        · exact Or.inr ⟨r, List.mem_cons_of_mem _ hr, hc⟩

/-! ## Lines -/

/-- A text without line breaks. -/
def IsLine (l : Text) : Prop := '\r' ∉ l ∧ '\n' ∉ l

theorem isLine_append {a b : Text} : IsLine (a ++ b) ↔ IsLine a ∧ IsLine b := by
  simp only [IsLine, List.mem_append, not_or]
  exact and_and_and_comm

theorem isLine_cons {c : Char} {l : Text} :
    IsLine (c :: l) ↔ (c ≠ '\r' ∧ c ≠ '\n') ∧ IsLine l := by
  simp only [IsLine, List.mem_cons, not_or]
  constructor
  · rintro ⟨⟨hr, hl⟩, hn, hl'⟩
    exact ⟨⟨Ne.symm hr, Ne.symm hn⟩, hl, hl'⟩
  · rintro ⟨⟨hr, hn⟩, hl, hl'⟩
    exact ⟨⟨Ne.symm hr, hl⟩, Ne.symm hn, hl'⟩

theorem isLine_drop {l : Text} (n : Nat) (h : IsLine l) : IsLine (l.drop n) :=
  ⟨fun hc => h.1 (List.mem_of_mem_drop hc), fun hc => h.2 (List.mem_of_mem_drop hc)⟩

/-- A text whose characters all come from lines is a line. -/
theorem isLine_of_subset {l : Text} (h : ∀ c ∈ l, ∃ m, IsLine m ∧ c ∈ m) : IsLine l := by
  constructor
  · intro hc
    obtain ⟨m, hm, hcm⟩ := h _ hc
    exact hm.1 hcm
  · intro hc
    obtain ⟨m, hm, hcm⟩ := h _ hc
    exact hm.2 hcm

theorem lines_cons_of_isLine {c : Char} (t : Text) (hr : c ≠ '\r') (hn : c ≠ '\n') :
    lines (c :: t) = consFirst c (lines t) := by
  rw [lines.eq_3 c t (fun _ h _ => hr h), if_neg (by simp [hr, hn])]

theorem lines_ne_nil (t : Text) : lines t ≠ [] := by
  fun_cases lines t with
  | case1 => simp
  | case2 => simp
  | case3 => simp
  | case4 c t _ _ => cases lines t <;> simp [consFirst]

theorem isLine_of_mem_lines {t l : Text} (h : l ∈ lines t) : IsLine l := by
  have hnil : IsLine [] := ⟨by simp, by simp⟩
  fun_induction lines t generalizing l with
  | case1 =>
    rw [List.mem_singleton] at h
    exact h ▸ hnil
  | case2 t ih =>
    rcases List.mem_cons.1 h with rfl | h
    · exact hnil
    · exact ih h
  | case3 c t _ _ ih =>
    rcases List.mem_cons.1 h with rfl | h
    · exact hnil
    · exact ih h
  | case4 c t _ hc ih =>
    rcases mem_of_mem_consFirst (lines_ne_nil t) h with h | ⟨q, hq, rfl⟩
    · exact ih h
    · exact isLine_cons.2 ⟨not_or.1 hc, ih hq⟩

/-- What is in a line is in the text. -/
theorem mem_of_mem_lines {t l : Text} {c : Char} (hl : l ∈ lines t) (hc : c ∈ l) : c ∈ t := by
  fun_induction lines t generalizing l with
  | case1 =>
    rw [List.mem_singleton.1 hl] at hc
    exact hc
  | case2 t ih =>
    rcases List.mem_cons.1 hl with rfl | hl
    · exact absurd hc List.not_mem_nil
    · exact List.mem_cons_of_mem _ (List.mem_cons_of_mem _ (ih hl hc))
  | case3 d t _ _ ih =>
    rcases List.mem_cons.1 hl with rfl | hl
    · exact absurd hc List.not_mem_nil
    · exact List.mem_cons_of_mem _ (ih hl hc)
  | case4 d t _ _ ih =>
    rcases mem_of_mem_consFirst (lines_ne_nil t) hl with hl | ⟨q, hq, rfl⟩
    · exact List.mem_cons_of_mem _ (ih hl hc)
    · rcases List.mem_cons.1 hc with rfl | hc
      · exact List.mem_cons_self
      · exact List.mem_cons_of_mem _ (ih hq hc)

theorem lines_of_isLine {p : Text} (h : IsLine p) : lines p = [p] := by
  induction p with
  | nil => rfl
  | cons c p ih =>
    obtain ⟨⟨hr, hn⟩, hp⟩ := isLine_cons.1 h
    rw [lines_cons_of_isLine p hr hn, ih hp, consFirst]

theorem lines_append {p : Text} (t : Text) (h : IsLine p) :
    lines (p ++ '\n' :: t) = p :: lines t := by
  induction p with
  | nil => rw [List.nil_append, lines.eq_3 _ t (fun _ h _ => by simp at h), if_pos (Or.inr rfl)]
  | cons c p ih =>
    obtain ⟨⟨hr, hn⟩, hp⟩ := isLine_cons.1 h
    rw [List.cons_append, lines_cons_of_isLine _ hr hn, ih hp, consFirst]

/-- Lines are found again in the text they are joined to. -/
theorem lines_unlines {ls : List Text} (hne : ls ≠ []) (h : ∀ l ∈ ls, IsLine l) :
    lines (unlines ls) = ls := by
  induction ls with
  | nil => exact absurd rfl hne
  | cons l ls ih =>
    have hl : IsLine l := h l List.mem_cons_self
    cases ls with
    | nil => exact lines_of_isLine hl
    | cons m ms =>
      have ih := ih (by simp) fun r hr => h r (List.mem_cons_of_mem _ hr)
      rw [unlines, joinWith_cons_cons, List.append_assoc, List.singleton_append, lines_append _ hl]
      exact congrArg (l :: ·) ih

/-! ## Replacement -/

theorem replaceChar_cons (c : Char) (r : Text) (d : Char) (t : Text) :
    replaceChar c r (d :: t) = (if d = c then r else [d]) ++ replaceChar c r t := rfl

theorem replaceChar_append (c : Char) (r a b : Text) :
    replaceChar c r (a ++ b) = replaceChar c r a ++ replaceChar c r b := by
  simp [replaceChar]

theorem replaceChar_of_not_mem {c : Char} {r t : Text} (h : c ∉ t) : replaceChar c r t = t := by
  induction t with
  | nil => rfl
  | cons d t ih =>
    simp only [List.mem_cons, not_or] at h
    rw [replaceChar_cons, if_neg (Ne.symm h.1), ih h.2, List.singleton_append]

theorem mem_replaceChar {c d : Char} {r t : Text} (h : d ∈ replaceChar c r t) : d ∈ r ∨ d ∈ t := by
  rw [replaceChar, List.mem_flatMap] at h
  obtain ⟨e, he, hd⟩ := h
  split at hd
  · exact Or.inl hd
  · rw [List.mem_singleton] at hd
    exact Or.inr (hd ▸ he)

/-- A character whose replacement does not hold it is replaced once and for all. -/
theorem replaceChar_idem {c : Char} {r : Text} (hr : c ∉ r) (t : Text) :
    replaceChar c r (replaceChar c r t) = replaceChar c r t := by
  induction t with
  | nil => rfl
  | cons d t ih =>
    rw [replaceChar_cons, replaceChar_append, ih]
    split
    · rw [replaceChar_of_not_mem hr]
    · rename_i hd
      rw [replaceChar_of_not_mem (by simpa using Ne.symm hd)]

end Concordance.Text
